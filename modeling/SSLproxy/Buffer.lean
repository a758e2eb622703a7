import Mathlib.Data.List.Basic

/-!
# C strings in buffers

The string loops of `opts.c` (`get_name_value`, the `%` loops of
`global_set_logbasedir`) walk `char` pointers over a buffer that holds a
string and its NUL terminator.  A buffer is the list of its bytes and a
pointer is an offset into it.  Every access outside the buffer is a fault,
`none`: the lemmas about a loop that returns `some` say that it stays inside.

A loop `while (p(*n)) n++;` is `scanUp`, given the bytes from the pointer on;
`while (p(*n)) n--;` is `scanDown`, given the bytes from the pointer down to
the start of the buffer.
-/

namespace SSLproxy

/-- `buf[i] = c`, or `none` outside the buffer. -/
def store (buf : List Char) (i : Nat) (c : Char) : Option (List Char) :=
  if i < buf.length then some (buf.set i c) else none

/-- The C string at offset `i`: the bytes up to the next NUL. -/
def cStringAt (buf : List Char) (i : Nat) : List Char :=
  (buf.drop i).takeWhile (· ≠ '\x00')

/-- `while (p(*n)) n++;` from offset `n`, where `rest` holds the bytes from
`n` to the end of the buffer: the offset where `p` fails, or `none` when the
scan runs off the end. -/
def scanUp (p : Char → Bool) : List Char → Nat → Option Nat
  | [], _ => none
  | c :: rest, n => if p c then scanUp p rest (n + 1) else some n

/-- `while (p(*n)) n--;` from offset `n`, where `below` holds the bytes at
`n`, `n - 1`, ..., `0`: the offset where `p` fails, or `none` when the scan
runs off the start. -/
def scanDown (p : Char → Bool) : List Char → Nat → Option Nat
  | [], _ => none
  | c :: rest, n => if p c then scanDown p rest (n - 1) else some n

/-- `strlen` of the C string at offset `i`, or `none` when no NUL ends it
inside the buffer. -/
def strlenAt (buf : List Char) (i : Nat) : Option Nat :=
  (scanUp (· ≠ '\x00') (buf.drop i) i).map (· - i)

/-! ## Stores -/

theorem store_of_lt {buf : List Char} {i : Nat} (c : Char) (h : i < buf.length) :
    store buf i c = some (buf.set i c) :=
  if_pos h

/-- Storing a NUL over the first byte after `a`. -/
theorem set_length_append (a r : List Char) (x c : Char) :
    (a ++ x :: r).set a.length c = a ++ c :: r := by
  simp

/-! ## Scans -/

/-- A scan up passes the bytes `p` holds of and stops at the first other. -/
theorem scanUp_append {p : Char → Bool} {a : List Char} (ha : ∀ x ∈ a, p x) {c : Char}
    (hc : p c = false) (r : List Char) (n : Nat) :
    scanUp p (a ++ c :: r) n = some (n + a.length) := by
  induction a generalizing n with
  | nil => simp [scanUp, hc]
  | cons x a ih =>
    rw [List.cons_append, scanUp, if_pos (ha x (.head _)), ih (fun y hy => ha y (.tail _ hy)),
      List.length_cons, Nat.add_comm a.length, Nat.add_assoc]

/-- A scan up that never stops runs off the end. -/
theorem scanUp_of_forall {p : Char → Bool} {a : List Char} (ha : ∀ x ∈ a, p x) (n : Nat) :
    scanUp p a n = none := by
  induction a generalizing n with
  | nil => rfl
  | cons x a ih => simp only [scanUp, ha x (.head _), ite_true, ih fun y hy => ha y (.tail _ hy)]

/-- A scan down passes the bytes `p` holds of and stops at the first other. -/
theorem scanDown_append {p : Char → Bool} {a : List Char} (ha : ∀ x ∈ a, p x) {c : Char}
    (hc : p c = false) (r : List Char) (n : Nat) :
    scanDown p (a ++ c :: r) n = some (n - a.length) := by
  induction a generalizing n with
  | nil => simp [scanDown, hc]
  | cons x a ih =>
    rw [List.cons_append, scanDown, if_pos (ha x (.head _)), ih (fun y hy => ha y (.tail _ hy)),
      List.length_cons, Nat.sub_sub, Nat.add_comm 1]

/-! ## C strings -/

/-- The length of a C string is the number of bytes before its NUL. -/
theorem strlenAt_eq {buf : List Char} {i : Nat} {a r : List Char} (hbuf : buf.drop i = a ++ '\x00' :: r)
    (ha : '\x00' ∉ a) : strlenAt buf i = some a.length := by
  rw [strlenAt, hbuf, scanUp_append (fun x hx => by simpa using ne_of_mem_of_not_mem hx ha)
    (by simp)]
  simp

/-- The C string of a buffer is the bytes before its NUL. -/
theorem cStringAt_eq {buf : List Char} {i : Nat} {a r : List Char} (hbuf : buf.drop i = a ++ '\x00' :: r)
    (ha : '\x00' ∉ a) : cStringAt buf i = a := by
  rw [cStringAt, hbuf, List.takeWhile_append_of_pos
    (fun x hx => by simpa using ne_of_mem_of_not_mem hx ha)]
  simp

/-! ## The string after a prefix

The same facts with the buffer given as the bytes `a` before the pointer, the
string and the rest, which is how the loops' proofs see their buffers. -/

theorem strlenAt_of_eq {buf : List Char} {i : Nat} (a b r : List Char)
    (hbuf : buf = a ++ b ++ '\x00' :: r) (hi : i = a.length) (hb : '\x00' ∉ b) :
    strlenAt buf i = some b.length :=
  strlenAt_eq (by rw [hbuf, hi, List.append_assoc, List.drop_left]) hb

theorem cStringAt_of_eq {buf : List Char} {i : Nat} (a b r : List Char)
    (hbuf : buf = a ++ b ++ '\x00' :: r) (hi : i = a.length) (hb : '\x00' ∉ b) :
    cStringAt buf i = b :=
  cStringAt_eq (by rw [hbuf, hi, List.append_assoc, List.drop_left]) hb

theorem store_of_eq {buf : List Char} {i : Nat} (a r : List Char) (x c : Char)
    (hbuf : buf = a ++ x :: r) (hi : i = a.length) : store buf i c = some (a ++ c :: r) := by
  rw [hbuf, hi, store_of_lt _ (by simp), set_length_append]

end SSLproxy
