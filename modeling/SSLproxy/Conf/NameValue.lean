import SSLproxy.Buffer
import SSLproxy.Conf.Lines

/-!
# `get_name_value` on its buffer

`Conf.Lines` reads `get_name_value` on the characters of a line.  Here it is
the pointer code of `opts.c` on the buffer the line lives in: the name pointer
at offset `0`, a scan to the end of the name and a NUL stored there, a scan
over the separators after it, and a scan back from the end of the string over
trailing separators, which a second NUL cuts off.  A caller reads the return
code and the C strings at the name pointer and at the value pointer.

The scans stop at a byte that is no separator.  A NUL separator breaks this:
the scan over the separators after the name then passes the terminator.
-/

namespace SSLproxy

/-- `get_name_value` on the buffer `buf` whose first byte `name` points to:
the return code, the buffer after the NUL stores, and the offset of the value
pointer (the name stays at offset `0`); `none` when a read or a store falls
outside the buffer. -/
def getNameValueBuf (buf : List Char) (sep : Char) : Option (Int × List Char × Nat) := do
  let len ← strlenAt buf 0
  let n ← scanUp (fun c => c ≠ '\x00' && !isNameValueDelim sep c) buf 0
  let buf ← store buf n '\x00'
  let nameLen ← strlenAt buf 0
  if nameLen = 0 then pure (-1, buf, 0)
  else if len = nameLen then pure (0, buf, nameLen)
  else
    let value ← scanUp (isNameValueDelim sep) (buf.drop (n + 1)) (n + 1)
    let valueLen ← strlenAt buf value
    if valueLen = 0 then pure (0, buf, value)
    else
      let n ← scanDown (isNameValueDelim sep) (buf.take (value + valueLen)).reverse
        (value + valueLen - 1)
      let buf ← store buf (n + 1) '\x00'
      pure (0, buf, value)

/-- What a caller of `get_name_value` reads: the return code and the strings
at the name and at the value pointer. -/
def nameValueRead (r : Int × List Char × Nat) : Int × List Char × List Char :=
  (r.1, cStringAt r.2.1 0, cStringAt r.2.1 r.2.2)

/-! ## Separators -/

section Separators

variable {sep : Char}

theorem isNameValueDelim_nul (hsep : sep ≠ '\x00') : isNameValueDelim sep '\x00' = false := by
  simp [isNameValueDelim, Ne.symm hsep]

theorem ne_nul_of_isNameValueDelim (hsep : sep ≠ '\x00') {ch : Char}
    (h : isNameValueDelim sep ch) : ch ≠ '\x00' := by
  rintro rfl; simp [isNameValueDelim_nul hsep] at h

end Separators

/-! ## The three outcomes -/

section Outcomes

variable {sep : Char}

/-- A string that is empty or starts with a separator has no name: `-1`,
with an empty name and value. -/
theorem getNameValueBuf_no_name {s : List Char} (hs : '\x00' ∉ s)
    (hhead : ∀ ch ∈ s.head?, isNameValueDelim sep ch) :
    (getNameValueBuf (s ++ ['\x00']) sep).map nameValueRead = some (-1, [], []) := by
  obtain ⟨x, r, hx, hq⟩ : ∃ x r, s ++ ['\x00'] = x :: r ∧
      (decide (x ≠ '\x00') && !isNameValueDelim sep x) = false := by
    cases s with
    | nil => exact ⟨_, _, rfl, by simp⟩
    | cons x s => exact ⟨x, _, rfl, by simp [hhead x rfl]⟩
  have hlen := strlenAt_eq (show (s ++ ['\x00']).drop 0 = s ++ '\x00' :: [] by simp) hs
  have hnul := strlenAt_eq (show (('\x00' : Char) :: r).drop 0 = [] ++ '\x00' :: r by simp)
    (List.not_mem_nil _)
  rw [hx] at hlen
  simp only [getNameValueBuf, hlen, hx, scanUp, hq, Bool.false_eq_true, ite_false,
    store_of_lt '\x00' (show 0 < (x :: r).length from Nat.succ_pos _), List.set_cons_zero, hnul,
    Option.bind_eq_bind, Option.some_bind, List.length_nil, ite_true]
  rfl

/-- The bytes of a name pass the name scan. -/
theorem name_scan {N : List Char} (hN : ∀ ch ∈ N, ch ≠ '\x00' ∧ isNameValueDelim sep ch = false) :
    ∀ ch ∈ N, (decide (ch ≠ '\x00') && !isNameValueDelim sep ch) = true := fun ch h => by
  simp [hN ch h]

/-- A name alone: `0`, with the empty value at its end. -/
theorem getNameValueBuf_name_only {N : List Char} (hN : N ≠ [])
    (hN' : ∀ ch ∈ N, ch ≠ '\x00' ∧ isNameValueDelim sep ch = false) :
    (getNameValueBuf (N ++ ['\x00']) sep).map nameValueRead = some (0, N, []) := by
  have hnul : '\x00' ∉ N := fun h => (hN' _ h).1 rfl
  have hbuf : (N ++ ['\x00']).drop 0 = N ++ '\x00' :: [] := rfl
  have hlen := strlenAt_eq hbuf hnul
  have hname := scanUp_append (name_scan hN') (show (decide ('\x00' ≠ '\x00') &&
    !isNameValueDelim sep '\x00') = false by simp) [] 0
  have hstore : store (N ++ ['\x00']) N.length '\x00' = some (N ++ ['\x00']) :=
    store_of_eq N [] _ _ rfl rfl
  have hpos : N.length ≠ 0 := by simpa using hN
  have hval : cStringAt (N ++ ['\x00']) N.length = [] :=
    cStringAt_of_eq N [] [] (by simp) rfl (List.not_mem_nil _)
  simp only [List.append_nil, Nat.zero_add] at hname
  simp only [getNameValueBuf, hlen, hname, hstore, hpos, Option.bind_eq_bind, Option.some_bind,
    ite_true, ite_false, Option.pure_def, Option.map_some', nameValueRead, cStringAt_eq hbuf hnul,
    hval]

/-- A name, separators, a value that starts and ends with no separator, and
trailing separators: `0`, with the name and the value. -/
theorem getNameValueBuf_value (hsep : sep ≠ '\x00') {N P V Q : List Char} (hN : N ≠ [])
    (hN' : ∀ ch ∈ N, ch ≠ '\x00' ∧ isNameValueDelim sep ch = false) (hP : P ≠ [])
    (hP' : ∀ ch ∈ P, isNameValueDelim sep ch) (hV : '\x00' ∉ V)
    (hV0 : ∀ ch ∈ V.head?, isNameValueDelim sep ch = false)
    (hV1 : ∀ ch ∈ V.getLast?, isNameValueDelim sep ch = false)
    (hQ : ∀ ch ∈ Q, isNameValueDelim sep ch) :
    (getNameValueBuf (N ++ P ++ V ++ Q ++ ['\x00']) sep).map nameValueRead = some (0, N, V) := by
  obtain ⟨p0, P', rfl⟩ := List.exists_cons_of_ne_nil hP
  have hp0 : isNameValueDelim sep p0 := hP' p0 (.head _)
  have hnulN : '\x00' ∉ N := fun h => (hN' _ h).1 rfl
  have hnulP : '\x00' ∉ P' := fun h => ne_nul_of_isNameValueDelim hsep (hP' _ (.tail _ h)) rfl
  have hnulQ : '\x00' ∉ Q := fun h => ne_nul_of_isNameValueDelim hsep (hQ _ h) rfl
  rw [show N ++ p0 :: P' ++ V ++ Q ++ ['\x00'] = N ++ p0 :: (P' ++ V ++ Q ++ ['\x00']) by simp]
  -- the name: cut off by a NUL over the first separator
  have hlen : strlenAt (N ++ p0 :: (P' ++ V ++ Q ++ ['\x00'])) 0 =
      some (N ++ p0 :: (P' ++ V ++ Q)).length :=
    strlenAt_of_eq [] _ [] (by simp) rfl
      (by simp [hnulN, hnulP, hV, hnulQ, (ne_nul_of_isNameValueDelim hsep hp0).symm])
  have hname : scanUp (fun c => decide (c ≠ '\x00') && !isNameValueDelim sep c)
      (N ++ p0 :: (P' ++ V ++ Q ++ ['\x00'])) 0 = some N.length := by
    rw [scanUp_append (name_scan hN') (by simp [hp0]), Nat.zero_add]
  have hstore : store (N ++ p0 :: (P' ++ V ++ Q ++ ['\x00'])) N.length '\x00' =
      some (N ++ '\x00' :: (P' ++ V ++ Q ++ ['\x00'])) :=
    store_of_eq _ _ _ _ rfl rfl
  have hnameLen : strlenAt (N ++ '\x00' :: (P' ++ V ++ Q ++ ['\x00'])) 0 = some N.length :=
    strlenAt_eq rfl hnulN
  have hpos : N.length ≠ 0 := by simpa using hN
  have hlong : (N ++ p0 :: (P' ++ V ++ Q)).length ≠ N.length := by simp
  have hdrop : (N ++ '\x00' :: (P' ++ V ++ Q ++ ['\x00'])).drop (N.length + 1) =
      P' ++ V ++ Q ++ ['\x00'] := by simp
  simp only [getNameValueBuf, hlen, hname, hstore, hnameLen, hpos, hlong, hdrop,
    Option.bind_eq_bind, Option.some_bind, ite_false]
  have hcut : cStringAt (N ++ '\x00' :: (P' ++ V ++ Q ++ ['\x00'])) 0 = N :=
    cStringAt_eq rfl hnulN
  rcases List.eq_nil_or_concat V with rfl | ⟨Vi, vl, rfl⟩
  · -- no value: the scan over the separators stops at the terminator
    have hvalue : scanUp (isNameValueDelim sep) (P' ++ [] ++ Q ++ ['\x00']) (N.length + 1) =
        some (N.length + 1 + (P' ++ Q).length) := by
      rw [show P' ++ [] ++ Q ++ ['\x00'] = (P' ++ Q) ++ '\x00' :: [] by simp]
      exact scanUp_append (fun ch h => by
        rcases List.mem_append.mp h with h | h
        exacts [hP' ch (.tail _ h), hQ ch h]) (isNameValueDelim_nul hsep) _ _
    have hend : strlenAt (N ++ '\x00' :: (P' ++ [] ++ Q ++ ['\x00']))
        (N.length + 1 + (P' ++ Q).length) = some 0 :=
      strlenAt_of_eq (N ++ '\x00' :: (P' ++ Q)) [] [] (by simp) (by simp; omega)
        (List.not_mem_nil _)
    have hempty : cStringAt (N ++ '\x00' :: (P' ++ [] ++ Q ++ ['\x00']))
        (N.length + 1 + (P' ++ Q).length) = [] :=
      cStringAt_of_eq (N ++ '\x00' :: (P' ++ Q)) [] [] (by simp) (by simp; omega)
        (List.not_mem_nil _)
    simp only [hvalue, hend, Option.some_bind, ite_true, Option.pure_def, Option.map_some',
      nameValueRead, hcut, hempty]
  · -- a value: the scan stops at its first byte, the scan back at its last
    simp only [List.concat_eq_append] at *
    obtain ⟨v0, V', hv⟩ := List.exists_cons_of_ne_nil (show Vi ++ [vl] ≠ [] by simp)
    have hv0 : isNameValueDelim sep v0 = false := hV0 v0 (by rw [hv]; rfl)
    have hvl : isNameValueDelim sep vl = false := hV1 vl (by simp)
    have hvalue : scanUp (isNameValueDelim sep) (P' ++ (Vi ++ [vl]) ++ Q ++ ['\x00'])
        (N.length + 1) = some (N.length + 1 + P'.length) := by
      rw [show P' ++ (Vi ++ [vl]) ++ Q ++ ['\x00'] = P' ++ v0 :: (V' ++ Q ++ ['\x00']) by
        rw [hv]; simp]
      exact scanUp_append (fun ch h => hP' ch (.tail _ h)) hv0 _ _
    have hvalueLen : strlenAt (N ++ '\x00' :: (P' ++ (Vi ++ [vl]) ++ Q ++ ['\x00']))
        (N.length + 1 + P'.length) = some (Vi ++ [vl] ++ Q).length :=
      strlenAt_of_eq (N ++ '\x00' :: P') _ [] (by simp) (by simp; omega)
        (by simpa [hnulQ] using hV)
    have hvalueLen0 : (Vi ++ [vl] ++ Q).length ≠ 0 := by simp
    have htake : (N ++ '\x00' :: (P' ++ (Vi ++ [vl]) ++ Q ++ ['\x00'])).take
        (N.length + 1 + P'.length + (Vi ++ [vl] ++ Q).length) =
        (N ++ '\x00' :: P') ++ (Vi ++ [vl] ++ Q) := by
      rw [show N ++ '\x00' :: (P' ++ (Vi ++ [vl]) ++ Q ++ ['\x00']) =
        ((N ++ '\x00' :: P') ++ (Vi ++ [vl] ++ Q)) ++ ['\x00'] by simp,
        List.take_left' (by simp; omega)]
    have hdown := scanDown_append (fun ch h => hQ ch (List.mem_reverse.mp h)) hvl
      (Vi.reverse ++ (N ++ '\x00' :: P').reverse)
      (N.length + 1 + P'.length + (Vi ++ [vl] ++ Q).length - 1)
    rw [show Q.reverse ++ vl :: (Vi.reverse ++ (N ++ '\x00' :: P').reverse) =
      ((N ++ '\x00' :: P') ++ (Vi ++ [vl] ++ Q)).reverse by simp] at hdown
    -- the second NUL goes right after the value
    obtain ⟨x, r, hx⟩ := List.exists_cons_of_ne_nil (show Q ++ ['\x00'] ≠ [] by simp)
    have hstore' : store (N ++ '\x00' :: (P' ++ (Vi ++ [vl]) ++ Q ++ ['\x00']))
        (N.length + 1 + P'.length + (Vi ++ [vl] ++ Q).length - 1 - Q.reverse.length + 1) '\x00' =
        some ((N ++ '\x00' :: (P' ++ (Vi ++ [vl]))) ++ '\x00' :: r) :=
      store_of_eq _ r x _ (by rw [← hx]; simp) (by simp; omega)
    have hname' : cStringAt ((N ++ '\x00' :: (P' ++ (Vi ++ [vl]))) ++ '\x00' :: r) 0 = N :=
      cStringAt_of_eq [] N (P' ++ (Vi ++ [vl]) ++ '\x00' :: r) (by simp) rfl hnulN
    have hvalue' : cStringAt ((N ++ '\x00' :: (P' ++ (Vi ++ [vl]))) ++ '\x00' :: r)
        (N.length + 1 + P'.length) = Vi ++ [vl] :=
      cStringAt_of_eq (N ++ '\x00' :: P') (Vi ++ [vl]) r (by simp) (by simp; omega) hV
    simp only [hvalue, hvalueLen, hvalueLen0, htake, hdown, hstore', Option.some_bind, ite_false,
      Option.pure_def, Option.map_some', nameValueRead, hname', hvalue']

end Outcomes

/-- With a separator other than NUL, a name, separators, a value that starts
and ends with no separator, and trailing white space come out as that name and
value with `0`, and every access stays inside the string; a string that is
empty or starts with a separator gives `-1`, whatever the separator. -/
theorem getNameValueBuf_name_then_value (c : Char) :
    (∀ N P V Q : List Char, c ≠ '\x00' → N ≠ [] →
      (∀ ch ∈ N, ch ≠ '\x00' ∧ isNameValueDelim c ch = false) →
      ((P ≠ [] ∧ ∀ ch ∈ P, isNameValueDelim c ch) ∨ (P = [] ∧ V = [] ∧ Q = [])) →
      '\x00' ∉ V → (∀ ch ∈ V.head?, isNameValueDelim c ch = false) →
      (∀ ch ∈ V.getLast?, isNameValueDelim c ch = false) →
      (∀ ch ∈ Q, ch = ' ' ∨ ch = '\t' ∨ ch = '\r' ∨ ch = '\n') →
      (getNameValueBuf (N ++ P ++ V ++ Q ++ ['\x00']) c).map nameValueRead = some (0, N, V)) ∧
    ∀ s : List Char, '\x00' ∉ s → (∀ ch ∈ s.head?, isNameValueDelim c ch) →
      (getNameValueBuf (s ++ ['\x00']) c).map (·.1) = some (-1) := by
  refine ⟨fun N P V Q hc hN hN' hP hV hV0 hV1 hQ => ?_, fun s hs hhead => by
    simpa [Option.map_map, Function.comp_def, nameValueRead] using
      congrArg (Option.map (·.1)) (getNameValueBuf_no_name hs hhead)⟩
  rcases hP with ⟨hP, hP'⟩ | ⟨rfl, rfl, rfl⟩
  · refine getNameValueBuf_value hc hN hN' hP hP' hV hV0 hV1 fun ch h => ?_
    rcases hQ ch h with rfl | rfl | rfl | rfl <;> simp [isNameValueDelim]
  · simpa using getNameValueBuf_name_only hN hN'

/-! ## The pointer code refines the list model -/

/-- On every line without NUL, and for every separator other than NUL, the
pointer code returns what `getNameValue` does on the characters of the line:
`-1` with empty strings when the line has no name, else `0` with the name and
the value. -/
theorem getNameValueBuf_refines {line : List Char} (hline : '\x00' ∉ line) {sep : Char}
    (hsep : sep ≠ '\x00') :
    (getNameValueBuf (line ++ ['\x00']) sep).map nameValueRead =
      some (match getNameValue line sep with
        | none => (-1, [], [])
        | some (name, value) => (0, name.toList, value.toList)) := by
  have hsplit := List.takeWhile_append_dropWhile (fun c => !isNameValueDelim sep c) line
  rcases hN : line.takeWhile (fun c => !isNameValueDelim sep c) with _ | ⟨n0, N'⟩
  · -- no name
    have hhead : ∀ ch ∈ line.head?, isNameValueDelim sep ch := by
      cases line with
      | nil => simp
      | cons c line =>
        intro ch hch
        cases hch
        by_contra hc
        simp [hc] at hN
    rw [getNameValue_no_name hhead, getNameValueBuf_no_name hline hhead]
  have hN' : ∀ ch ∈ n0 :: N', ch ≠ '\x00' ∧ isNameValueDelim sep ch = false := by
    intro ch h
    have hmem : ch ∈ line.takeWhile (fun c => !isNameValueDelim sep c) := hN ▸ h
    exact ⟨fun h0 => hline (h0 ▸ hsplit ▸ List.mem_append_left _ hmem),
      by simpa using List.mem_takeWhile_imp hmem⟩
  have hN'' : ∀ ch ∈ n0 :: N', isNameValueDelim sep ch = false := fun ch h => (hN' ch h).2
  rw [hN] at hsplit
  rcases hrest : line.dropWhile (fun c => !isNameValueDelim sep c) with _ | ⟨p0, rest⟩
  · -- a name alone
    rw [hrest, List.append_nil] at hsplit
    subst hsplit
    rw [getNameValue_name_only (List.cons_ne_nil _ _) hN'',
      getNameValueBuf_name_only (List.cons_ne_nil _ _) hN']
    rfl
  · -- a name, separators, a value and trailing separators
    have hp0 : isNameValueDelim sep p0 := by
      simpa [hrest] using List.head?_dropWhile_not (fun c => !isNameValueDelim sep c) line
    rw [hrest] at hsplit
    subst hsplit
    rw [getNameValue_value (List.cons_ne_nil _ _) hN'' hp0]
    -- the value ends at its last byte that is no separator
    let after := rest.dropWhile (isNameValueDelim sep)
    let V := (after.reverse.dropWhile (isNameValueDelim sep)).reverse
    let Q := (after.reverse.takeWhile (isNameValueDelim sep)).reverse
    let T := rest.takeWhile (isNameValueDelim sep)
    have hVQ : V ++ Q = after := by
      rw [← List.reverse_append, List.takeWhile_append_dropWhile, List.reverse_reverse]
    have hrest' : rest = T ++ (V ++ Q) := by
      rw [hVQ]; exact (List.takeWhile_append_dropWhile _ rest).symm
    have hnul : '\x00' ∉ rest := fun h => hline (List.mem_append_right _ (.tail _ h))
    have hV : '\x00' ∉ V := fun h => hnul (hrest' ▸ List.mem_append_right _
      (List.mem_append_left _ h))
    have hV0 : ∀ ch ∈ V.head?, isNameValueDelim sep ch = false := by
      intro ch hch
      have hafter := List.head?_dropWhile_not (isNameValueDelim sep) rest
      rwa [show after.head? = some ch by
        rw [← hVQ, List.head?_append, Option.mem_def.mp hch]; rfl] at hafter
    have hV1 : ∀ ch ∈ V.getLast?, isNameValueDelim sep ch = false := by
      intro ch hch
      have hlast := List.head?_dropWhile_not (isNameValueDelim sep) after.reverse
      rw [List.getLast?_reverse] at hch
      rwa [show (after.reverse.dropWhile (isNameValueDelim sep)).head? = some ch from hch] at hlast
    have hQ : ∀ ch ∈ Q, isNameValueDelim sep ch := fun ch h =>
      List.mem_takeWhile_imp (List.mem_reverse.mp h)
    have hP' : ∀ ch ∈ p0 :: T, isNameValueDelim sep ch := by
      rintro ch (_ | ⟨_, h⟩)
      exacts [hp0, List.mem_takeWhile_imp h]
    have hbuf : n0 :: N' ++ p0 :: rest ++ ['\x00'] = n0 :: N' ++ (p0 :: T) ++ V ++ Q ++ ['\x00'] := by
      conv_lhs => rw [hrest']
      simp
    rw [hbuf, getNameValueBuf_value hsep (List.cons_ne_nil _ _) hN' (List.cons_ne_nil _ _) hP' hV
      hV0 hV1 hQ]
    rfl

/-- A line with two blanks after its name and one after its value. -/
theorem getNameValueBuf_refines_sample :
    (getNameValueBuf ("Include  a.conf \n".toList ++ ['\x00']) ' ').map nameValueRead =
      some (match getNameValue "Include  a.conf \n".toList ' ' with
        | none => (-1, [], [])
        | some (name, value) => (0, name.toList, value.toList)) :=
  getNameValueBuf_refines (by decide) (by decide)

/-- The scan back also cuts a trailing `=` off the value of `a=b=`, and with a
NUL separator the scan over the separators after the name of `a ` passes the
terminator. -/
theorem getNameValueBuf_trims_separator :
    (getNameValueBuf ['a', '=', 'b', '=', '\x00'] '=').map nameValueRead =
      some (0, ['a'], ['b']) ∧
    getNameValueBuf ['a', ' ', '\x00'] '\x00' = none := by
  decide

end SSLproxy
