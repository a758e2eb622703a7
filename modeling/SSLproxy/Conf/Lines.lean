import SSLproxy.Opts.Core

/-!
# Configuration lines

The two configuration loops of `opts.c` (`opts_load_conffile` and
`load_proxyspec_struct`) read a line with `getline`, skip leading spaces and
tabs, pass over blank and comment lines, and split the rest with
`get_name_value`, which `global_set_option` also uses for `-o NAME=VALUE`.

C sees a line only up to its first NUL character, so the functions here work
on `cString` of the line `getline` returned.
-/

namespace SSLproxy

/-- The C string a buffer holds: its characters before the first NUL. -/
def cString (s : String) : List Char :=
  s.toList.takeWhile (· ≠ '\x00')

/-- The characters `get_name_value` treats as separators, besides `sep`. -/
def isNameValueDelim (sep c : Char) : Bool :=
  c = ' ' || c = '\t' || c = '\r' || c = '\n' || c = sep

/-- `get_name_value`: the name runs up to the first separator; the value
starts after the separators that follow it and loses its trailing separators.
`none` is the `-1` of an empty name; a name without separator has the empty
value. -/
def getNameValue (line : List Char) (sep : Char) : Option (String × String) :=
  let name := line.takeWhile (fun c => !isNameValueDelim sep c)
  if name.isEmpty then none
  else if name.length = line.length then some (String.mk name, "")
  else
    let value := (line.drop (name.length + 1)).dropWhile (isNameValueDelim sep)
    some (String.mk name, String.mk (value.reverse.dropWhile (isNameValueDelim sep)).reverse)

section GetNameValue

variable {sep : Char}

/-- A line that is empty or starts with a separator has no name. -/
theorem getNameValue_no_name {line : List Char}
    (h : ∀ ch ∈ line.head?, isNameValueDelim sep ch) : getNameValue line sep = none := by
  cases line with
  | nil => rfl
  | cons c line => simp [getNameValue, h c rfl]

/-- A name alone has the empty value. -/
theorem getNameValue_name_only {N : List Char} (hN : N ≠ [])
    (hN' : ∀ ch ∈ N, isNameValueDelim sep ch = false) :
    getNameValue N sep = some (String.mk N, "") := by
  have htake : N.takeWhile (fun c => !isNameValueDelim sep c) = N :=
    List.takeWhile_eq_self_iff.mpr fun ch h => by simp [hN' ch h]
  simp [getNameValue, htake, hN]

/-- After a name and a separator, the value is the rest without its leading
and trailing separators. -/
theorem getNameValue_value {N : List Char} (hN : N ≠ [])
    (hN' : ∀ ch ∈ N, isNameValueDelim sep ch = false) {p0 : Char}
    (hp0 : isNameValueDelim sep p0) (rest : List Char) :
    getNameValue (N ++ p0 :: rest) sep = some (String.mk N,
      String.mk ((rest.dropWhile (isNameValueDelim sep)).reverse.dropWhile
        (isNameValueDelim sep)).reverse) := by
  have htake : (N ++ p0 :: rest).takeWhile (fun c => !isNameValueDelim sep c) = N := by
    rw [List.takeWhile_append_of_pos fun ch h => by simp [hN' ch h]]
    simp [hp0]
  simp [getNameValue, htake, hN]

end GetNameValue

/-- The loaders' `for (name = line; *name == ' ' || *name == '\t'; name++);`. -/
def skipBlanks (line : List Char) : List Char :=
  line.dropWhile fun c => c = ' ' || c = '\t'

/-- The lines the loaders pass over: empty after the blanks, or starting with
`#`, `;`, CR or LF. -/
def isSkippedLine : List Char → Bool
  | [] => true
  | c :: _ => c = '#' || c = ';' || c = '\r' || c = '\n'

/-- The directive a line holds, if it is not passed over. -/
def directive? (line : String) : Option (List Char) :=
  let name := skipBlanks (cString line)
  if isSkippedLine name then none else some name

end SSLproxy
