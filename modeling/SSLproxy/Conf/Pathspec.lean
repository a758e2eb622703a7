import SSLproxy.Buffer
import SSLproxy.Conf.Global

/-!
# The `%` loops of `global_set_logbasedir`

In a log path specification `%` starts a conversion, so a `%` that belongs to
a directory name is written `%%`.  `global_set_logbasedir` collapses every
`%%` of the directory part to `%` in place, resolves the directory, and writes
the resolved directory into a new buffer with every `%` doubled again.

`Conf.Global` gives the two loops on the characters of the string
(`collapsePercent`, `encodePercent`).  Here they are the pointer loops on
their buffers: the collapsing loop reads at `p` and writes at `q ≤ p` in the
buffer it reads, the doubling loop writes into a buffer of the size the code
counts.  Doubling and then collapsing gives back every string; collapsing and
then doubling gives back exactly the strings whose runs of `%` have even
length.
-/

namespace SSLproxy

/-! ## The loops -/

/-- The in-place loop that turns `%%` into `%`: the byte at `p` is copied
down to `q` when `q < p`; a `%` followed by a `%` makes `p` pass the second;
the loop ends at the NUL, which it stores at `q`.  `none` when a read falls
outside the buffer. -/
def collapseLoop (buf : List Char) (p q : Nat) : Option (List Char) :=
  if hp : p < buf.length then
    let c := buf[p]
    if c = '\x00' then store buf q '\x00'
    else
      let buf' := if q < p then buf.set q c else buf
      if c = '%' then
        match buf'[p + 1]? with
        | none => none
        | some d => collapseLoop buf' (if d = '%' then p + 2 else p + 1) (q + 1)
      else collapseLoop buf' (p + 1) (q + 1)
  else none
termination_by buf.length - p
decreasing_by all_goals (simp_wf; split_ifs <;> (try simp only [List.length_set]) <;> omega)

/-- The size of the buffer the re-encoded directory is written to: one byte
per character, one more per `%`, and the terminator (`malloc(n + 1)`). -/
def reencodeSize (basedir : List Char) : Nat :=
  basedir.count '%' + basedir.length + 1

/-- The re-encoding loop: `*q = *p`, then a second `%` after a `%`, for each
byte read before the source's NUL, and the terminator at the end.  `src` holds
the source bytes from `p` on; `q` is the offset written next. -/
def reencodeLoop : List Char → List Char → Nat → Option (List Char)
  | [], _, _ => none
  | c :: src, dst, q =>
    if c = '\x00' then store dst q '\x00'
    else do
      let dst ← store dst q c
      if c = '%' then
        let dst ← store dst (q + 1) '%'
        reencodeLoop src dst (q + 2)
      else reencodeLoop src dst (q + 1)

/-! ## Runs of `%` -/

/-- Every maximal run of `%` in `t` has even length. -/
def EvenPercentRuns (t : List Char) : Prop :=
  ∀ a k b, t = a ++ List.replicate k '%' ++ b → a.getLast? ≠ some '%' → b.head? ≠ some '%' →
    k % 2 = 0

theorem evenPercentRuns_nil : EvenPercentRuns [] := by
  intro a k b h _ _
  cases k <;> simp_all

/-- A first character other than `%` ends no run. -/
theorem evenPercentRuns_cons {c : Char} (hc : c ≠ '%') (t : List Char) :
    EvenPercentRuns (c :: t) ↔ EvenPercentRuns t := by
  constructor
  · intro h a k b ht ha hb
    refine h (c :: a) k b (by simp [ht]) ?_ hb
    cases a with
    | nil => simpa using hc
    | cons x a => simpa [List.getLast?_cons] using ha
  · intro h a k b ht ha hb
    cases a with
    | nil =>
      cases k with
      | zero => rfl
      | succ k => simp [List.replicate_succ] at ht; exact absurd ht.1 hc
    | cons x a =>
      simp only [List.cons_append, List.cons.injEq] at ht
      refine h a k b ht.2 ?_ hb
      cases a with
      | nil => simp
      | cons y a => simpa [List.getLast?_cons] using ha

/-- `%%` in front adds two to the first run. -/
theorem evenPercentRuns_percent_percent (t : List Char) :
    EvenPercentRuns ('%' :: '%' :: t) ↔ EvenPercentRuns t := by
  constructor
  · intro h a k b ht ha hb
    cases a with
    | nil =>
      have := h [] (k + 2) b (by simp [ht, List.replicate_succ]) (by simp) hb
      omega
    | cons x a =>
      exact h ('%' :: '%' :: x :: a) k b (by simp [ht])
        (by simpa [List.getLast?_cons] using ha) hb
  · intro h a k b ht ha hb
    match a, k with
    | [], 0 => rfl
    | [], 1 => simp at ht; simp [← ht] at hb
    | [], k + 2 =>
      have := h [] k b (by simpa [List.replicate_succ] using ht) (by simp) hb
      omega
    | [x], _ => simp at ht ha; exact absurd ht.1.symm ha
    | x :: y :: a, _ =>
      simp only [List.cons_append, List.cons.injEq] at ht
      refine h a _ b ht.2.2 ?_ hb
      cases a with
      | nil => simp
      | cons z a => simpa [List.getLast?_cons] using ha

/-- A lone `%` is an odd run. -/
theorem not_evenPercentRuns_percent {t : List Char} (ht : t.head? ≠ some '%') :
    ¬EvenPercentRuns ('%' :: t) := fun h =>
  absurd (h [] 1 t (by simp) (by simp) ht) (by decide)

/-! ## Doubling and collapsing -/

theorem length_encodePercent (s : List Char) :
    (encodePercent s).length = s.count '%' + s.length := by
  induction s using encodePercent.induct with
  | case1 rest ih => simp only [encodePercent, List.length_cons, ih, List.count_cons_self]; omega
  | case2 c rest hc ih =>
    simp only [encodePercent.eq_2 c rest hc, List.length_cons, ih, List.count_cons,
      beq_iff_eq, if_neg hc]
    omega
  | case3 => rfl

/-- What a doubled string can start with. -/
theorem encodePercent_eq_cons {s t : List Char} {c : Char} (h : encodePercent s = c :: t) :
    ∃ s', (c = '%' ∧ s = '%' :: s' ∧ t = '%' :: encodePercent s') ∨
      (c ≠ '%' ∧ s = c :: s' ∧ t = encodePercent s') := by
  cases s with
  | nil => cases h
  | cons x s' =>
    by_cases hx : x = '%'
    · subst hx
      simp only [encodePercent, List.cons.injEq] at h
      exact ⟨s', .inl ⟨h.1.symm, rfl, h.2.symm⟩⟩
    · rw [encodePercent.eq_2 x s' hx, List.cons.injEq] at h
      obtain ⟨rfl, h⟩ := h
      exact ⟨s', .inr ⟨hx, rfl, h.symm⟩⟩

/-- Collapsing undoes doubling. -/
theorem collapsePercent_encodePercent (s : List Char) : collapsePercent (encodePercent s) = s := by
  induction s using encodePercent.induct with
  | case1 rest ih => simp only [encodePercent, collapsePercent, ih]
  | case2 c rest hc ih =>
    rw [encodePercent.eq_2 c rest hc, collapsePercent.eq_2 c _ fun _ h => absurd h hc, ih]
  | case3 => rfl

/-- The doubled strings are the strings whose runs of `%` are even. -/
theorem exists_encodePercent_iff (t : List Char) :
    (∃ s, encodePercent s = t) ↔ EvenPercentRuns t := by
  induction t using collapsePercent.induct with
  | case1 rest ih =>
    rw [evenPercentRuns_percent_percent, ← ih]
    constructor
    · rintro ⟨s, hs⟩
      obtain ⟨s', ⟨-, rfl, h⟩ | ⟨h, -⟩⟩ := encodePercent_eq_cons hs
      · simp only [encodePercent, List.cons.injEq, true_and] at hs
        exact ⟨s', hs⟩
      · exact absurd rfl h
    · rintro ⟨s, rfl⟩
      exact ⟨'%' :: s, rfl⟩
  | case2 c rest hnot ih =>
    by_cases hc : c = '%'
    · -- a `%` that no `%` follows
      subst hc
      have hrest : rest.head? ≠ some '%' := by
        cases rest with
        | nil => simp
        | cons d rest => simpa using fun h => hnot rest rfl (by rw [h])
      refine iff_of_false ?_ (not_evenPercentRuns_percent hrest)
      rintro ⟨s, hs⟩
      obtain ⟨s', ⟨-, -, rfl⟩ | ⟨h, -⟩⟩ := encodePercent_eq_cons hs
      · exact hrest rfl
      · exact h rfl
    · rw [evenPercentRuns_cons hc, ← ih]
      constructor
      · rintro ⟨s, hs⟩
        obtain ⟨s', ⟨h, -⟩ | ⟨-, -, rfl⟩⟩ := encodePercent_eq_cons hs
        · exact absurd h hc
        · exact ⟨s', rfl⟩
      · rintro ⟨s, rfl⟩
        exact ⟨c :: s, encodePercent.eq_2 c s hc⟩
  | case3 => exact ⟨fun _ => evenPercentRuns_nil, fun _ => ⟨[], rfl⟩⟩

/-- Doubling undoes collapsing exactly on the strings whose runs of `%` are
even. -/
theorem encodePercent_collapsePercent_iff (t : List Char) :
    encodePercent (collapsePercent t) = t ↔ EvenPercentRuns t := by
  rw [← exists_encodePercent_iff]
  exact ⟨fun h => ⟨_, h⟩, fun ⟨s, hs⟩ => by rw [← hs, collapsePercent_encodePercent]⟩

/-- Collapsing only drops characters. -/
theorem collapsePercent_sublist (t : List Char) : (collapsePercent t).Sublist t := by
  induction t using collapsePercent.induct with
  | case1 rest ih => exact (ih.cons₂ _).cons _
  | case2 c rest hnot ih => rw [collapsePercent.eq_2 c rest hnot]; exact ih.cons₂ _
  | case3 => exact .slnil

/-- Doubling only adds `%`. -/
theorem mem_encodePercent {s : List Char} {x : Char} (h : x ∈ encodePercent s) :
    x ∈ s ∨ x = '%' := by
  induction s using encodePercent.induct with
  | case1 rest ih =>
    simp only [encodePercent, List.mem_cons] at h
    rcases h with h | h | h
    exacts [.inr h, .inr h, (ih h).imp (List.mem_cons_of_mem _) id]
  | case2 c rest hc ih =>
    rw [encodePercent.eq_2 c rest hc, List.mem_cons] at h
    rcases h with rfl | h
    · exact .inl (.head _)
    · exact (ih h).imp (List.mem_cons_of_mem _) id
  | case3 => cases h

/-! ## The loops compute them -/

/-- A store into the first free byte after what is written. -/
theorem store_written {written free : List Char} {f : Char} (c : Char) :
    store (written ++ f :: free) written.length c = some ((written ++ [c]) ++ free) := by
  rw [store_of_lt _ (by simp), set_length_append]
  simp

/-- The re-encoding loop writes the doubled string and its terminator from
`q` on, and no other byte. -/
theorem reencodeLoop_spec {s : List Char} (hs : '\x00' ∉ s) (junk : List Char) :
    ∀ written free : List Char, (encodePercent s).length + 1 ≤ free.length →
      reencodeLoop (s ++ '\x00' :: junk) (written ++ free) written.length =
        some (written ++ encodePercent s ++ '\x00' :: free.drop ((encodePercent s).length + 1)) := by
  induction s using encodePercent.induct with
  | case1 rest ih =>
    rintro written (_ | ⟨f1, _ | ⟨f2, free⟩⟩) hfree
    · simp at hfree
    · simp [encodePercent] at hfree
    have h2 : store ((written ++ ['%']) ++ f2 :: free) (written.length + 1) '%' =
        some ((written ++ ['%'] ++ ['%']) ++ free) := by
      simpa using (store_written '%' :
        store ((written ++ ['%']) ++ f2 :: free) (written ++ ['%']).length '%' = _)
    rw [List.cons_append, reencodeLoop, if_neg (by decide)]
    simp only [store_written, h2, Option.bind_eq_bind, Option.some_bind, ite_true]
    rw [show written.length + 1 + 1 = (written ++ ['%'] ++ ['%']).length by simp,
      ih (fun h => hs (.tail _ h)) _ _ (by simp [encodePercent] at hfree ⊢; omega)]
    simp [encodePercent]
  | case2 c rest hc ih =>
    rintro written (_ | ⟨f1, free⟩) hfree
    · simp at hfree
    have hnul : c ≠ '\x00' := fun h => hs (h ▸ .head _)
    rw [List.cons_append, reencodeLoop, if_neg hnul]
    simp only [store_written, Option.bind_eq_bind, Option.some_bind, if_neg hc]
    rw [show written.length + 1 = (written ++ [c]).length by simp,
      ih (fun h => hs (.tail _ h)) _ _ (by simp [encodePercent.eq_2 c rest hc] at hfree ⊢; omega)]
    simp [encodePercent.eq_2 c rest hc]
  | case3 =>
    rintro written (_ | ⟨f1, free⟩) hfree
    · simp at hfree
    rw [List.nil_append, reencodeLoop, if_pos rfl, store_written]
    simp [encodePercent]

/-! The collapsing loop in a state where `out` is written, `gap` is the stale
stretch between `q` and `p`, and the rest of the buffer is unread. -/

theorem getElem_written (out gap r : List Char) (c : Char)
    (h : out.length + gap.length < (out ++ gap ++ c :: r).length) :
    (out ++ gap ++ c :: r)[out.length + gap.length] = c := by
  simp only [← List.length_append, List.getElem_append_right (Nat.le_refl _), Nat.sub_self,
    List.getElem_cons_zero]

/-- The copy of the byte at `p` down to `q`; nothing is written when `q = p`. -/
theorem collapse_copy (out gap r : List Char) (c : Char) :
    (if out.length < out.length + gap.length then (out ++ gap ++ c :: r).set out.length c
      else out ++ gap ++ c :: r) = out ++ [c] ++ (gap ++ [c]).tail ++ r := by
  cases gap with
  | nil => simp
  | cons g gap => simp

theorem collapseLoop_nul (out gap r : List Char) :
    collapseLoop (out ++ gap ++ '\x00' :: r) (out.length + gap.length) out.length =
      store (out ++ gap ++ '\x00' :: r) out.length '\x00' := by
  rw [collapseLoop, dif_pos (by simp)]
  simp only [getElem_written, ite_true]

theorem collapseLoop_other {c : Char} (hc0 : c ≠ '\x00') (hc : c ≠ '%') (out gap r : List Char) :
    collapseLoop (out ++ gap ++ c :: r) (out.length + gap.length) out.length =
      collapseLoop (out ++ [c] ++ (gap ++ [c]).tail ++ r) (out.length + gap.length + 1)
        (out.length + 1) := by
  rw [collapseLoop, dif_pos (by simp)]
  simp only [getElem_written, hc0, hc, ite_false, collapse_copy]

theorem collapseLoop_percent (out gap r : List Char) (d : Char) :
    collapseLoop (out ++ gap ++ '%' :: d :: r) (out.length + gap.length) out.length =
      collapseLoop (out ++ ['%'] ++ (gap ++ ['%']).tail ++ d :: r)
        (if d = '%' then out.length + gap.length + 2 else out.length + gap.length + 1)
        (out.length + 1) := by
  rw [collapseLoop, dif_pos (by simp)]
  have hd : (out ++ ['%'] ++ (gap ++ ['%']).tail ++ d :: r)[out.length + gap.length + 1]? =
      some d := by
    have hi : out.length + gap.length + 1 - (out ++ ['%'] ++ (gap ++ ['%']).tail).length = 0 := by
      simp; omega
    rw [List.getElem?_append_right (by simp; omega), hi, List.getElem?_cons_zero]
  simp only [getElem_written, collapse_copy, hd, ite_true, if_neg (by decide : ('%' : Char) ≠ '\x00')]

/-- The collapsing loop writes the collapsed string and its terminator from
`q` on, whatever stale bytes lie between `q` and `p`. -/
theorem collapseLoop_spec {t : List Char} (ht : '\x00' ∉ t) (junk : List Char) :
    ∀ out gap : List Char, ∃ rest,
      collapseLoop (out ++ gap ++ (t ++ '\x00' :: junk)) (out.length + gap.length) out.length =
        some (out ++ collapsePercent t ++ '\x00' :: rest) := by
  induction t using collapsePercent.induct with
  | case1 rest ih =>
    intro out gap
    obtain ⟨r, hr⟩ := ih (fun h => ht (.tail _ (.tail _ h))) (out ++ ['%'])
      ((gap ++ ['%']).tail ++ ['%'])
    refine ⟨r, ?_⟩
    rw [List.cons_append, List.cons_append, collapseLoop_percent, if_pos rfl]
    convert hr using 2 <;> simp [collapsePercent]
    omega
  | case2 c rest hnot ih =>
    intro out gap
    have hc0 : c ≠ '\x00' := fun h => ht (h ▸ .head _)
    obtain ⟨r, hr⟩ := ih (fun h => ht (.tail _ h)) (out ++ [c]) (gap ++ [c]).tail
    refine ⟨r, ?_⟩
    rw [collapsePercent.eq_2 c rest hnot, List.cons_append]
    by_cases hc : c = '%'
    · subst hc
      -- the byte after a lone `%` is no `%`
      obtain ⟨d, r', hd, hdp⟩ : ∃ d r', rest ++ '\x00' :: junk = d :: r' ∧ d ≠ '%' := by
        cases rest with
        | nil => exact ⟨_, _, rfl, by decide⟩
        | cons d r' => exact ⟨d, _, rfl, fun h => hnot r' rfl (by rw [h])⟩
      rw [hd, collapseLoop_percent, if_neg hdp, ← hd]
      convert hr using 2 <;> simp
      omega
    · rw [collapseLoop_other hc0 hc]
      convert hr using 2 <;> simp
      omega
  | case3 =>
    intro out gap
    obtain ⟨y, z, hyz⟩ := List.exists_cons_of_ne_nil (show gap ++ '\x00' :: junk ≠ [] by simp)
    refine ⟨z, ?_⟩
    rw [List.nil_append, collapseLoop_nul, store_of_eq out z y _ (by rw [List.append_assoc, hyz])
      rfl]
    simp [collapsePercent]

/-! ## Round trips -/

/-- The doubling loop on a string, into a buffer of at least the size the code
allocates: the doubled string, its terminator, and the rest of the buffer as
it was. -/
theorem reencodeLoop_eq {s : List Char} (hs : '\x00' ∉ s) {dst : List Char}
    (hdst : reencodeSize s ≤ dst.length) :
    reencodeLoop (s ++ ['\x00']) dst 0 =
      some (encodePercent s ++ '\x00' :: dst.drop (reencodeSize s)) := by
  have hsize : (encodePercent s).length + 1 = reencodeSize s := by
    rw [length_encodePercent, reencodeSize]
  simpa [hsize] using reencodeLoop_spec hs [] [] dst (hsize ▸ hdst)

/-- The collapsing loop on a string in its own buffer leaves the collapsed
string there. -/
theorem collapseLoop_cString {t : List Char} (ht : '\x00' ∉ t) :
    (collapseLoop (t ++ ['\x00']) 0 0).map (cStringAt · 0) = some (collapsePercent t) := by
  obtain ⟨rest, h⟩ := collapseLoop_spec ht [] [] []
  simp only [List.nil_append, List.length_nil, Nat.add_zero] at h
  have hcut : (collapsePercent t ++ '\x00' :: rest).drop 0 = collapsePercent t ++ '\x00' :: rest :=
    rfl
  rw [h, Option.map_some', cStringAt_eq hcut fun h => ht ((collapsePercent_sublist t).subset h)]

/-- Doubling a string without NUL into a buffer of the size the code
allocates writes exactly that many bytes, the doubled string and its
terminator, and nothing past them; collapsing the result in place gives back
the string.  Collapsing a string in place and doubling what it holds into a
buffer of the allocated size gives back the string exactly when its runs of
`%` are even. -/
theorem logbasedir_percent_round_trip :
    (∀ s : List Char, '\x00' ∉ s →
      (encodePercent s ++ ['\x00']).length = reencodeSize s ∧
      (∀ dst : List Char, reencodeSize s ≤ dst.length →
        reencodeLoop (s ++ ['\x00']) dst 0 =
          some (encodePercent s ++ '\x00' :: dst.drop (reencodeSize s))) ∧
      (collapseLoop (encodePercent s ++ ['\x00']) 0 0).map (cStringAt · 0) = some s) ∧
    ∀ t : List Char, '\x00' ∉ t → ∃ u,
      (collapseLoop (t ++ ['\x00']) 0 0).map (cStringAt · 0) = some u ∧
      ∀ dst : List Char, dst.length = reencodeSize u →
        (reencodeLoop (u ++ ['\x00']) dst 0 = some (t ++ ['\x00']) ↔ EvenPercentRuns t) := by
  refine ⟨fun s hs => ⟨?_, fun _ => reencodeLoop_eq hs, ?_⟩, fun t ht => ?_⟩
  · simp [length_encodePercent, reencodeSize]
  · have hnul : '\x00' ∉ encodePercent s := fun h =>
      (mem_encodePercent h).elim hs (by decide)
    rw [collapseLoop_cString hnul, collapsePercent_encodePercent]
  · have hnul : '\x00' ∉ collapsePercent t := fun h => ht ((collapsePercent_sublist t).subset h)
    refine ⟨_, collapseLoop_cString ht, fun dst hdst => ?_⟩
    rw [reencodeLoop_eq hnul hdst.ge, ← hdst, List.drop_length, ← encodePercent_collapsePercent_iff]
    simp

end SSLproxy
