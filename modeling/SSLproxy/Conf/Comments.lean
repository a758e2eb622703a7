import SSLproxy.Conf.Load

/-!
# Comments and blank lines

`opts_load_conffile` passes over a line that is empty after its leading blanks
or starts with `#`, `;`, CR or LF, and so does the line loop of
`load_proxyspec_struct`, which reads its lines from the same stream.  This
module shows that such lines have no effect at all: a file, with every file it
includes, loads to the same result once they are removed from it, when
`filter.c` does not read the line numbers (`Env.LineFree`).

The only subtle case is a `ProxySpec` block.  It reads its lines from the
stream and tells the outer loop how many it read, and that count changes when
the comments inside the block go; what does not change is the directive lines
left after the block (`blockLoop_directiveLines`).  The loop over a file is
then compared with the loop over its directive lines by induction on the
length of the file, and the loader by induction on the include fuel.
-/

namespace SSLproxy

/-- The directive lines of a file, without its blank and comment lines. -/
def directiveLines (lines : List String) : List String :=
  lines.filter fun line => (directive? line).isSome

@[simp] theorem directiveLines_nil : directiveLines [] = [] := rfl

/-- Comment and blank lines are dropped. -/
theorem directiveLines_cons_none {line : String} (h : directive? line = none)
    (rest : List String) : directiveLines (line :: rest) = directiveLines rest := by
  simp [directiveLines, h]

/-- Directive lines are kept. -/
theorem directiveLines_cons_some {line : String} {name : List Char}
    (h : directive? line = some name) (rest : List String) :
    directiveLines (line :: rest) = line :: directiveLines rest := by
  simp [directiveLines, h]

section Comments

variable {env : Env}

/-- A block ends alike over its directive lines alone, and the directive lines
of what it leaves unread are those it leaves unread of the directive lines. -/
theorem blockLoop_directiveLines (hfree : env.LineFree) {lines : List String} :
    ∀ {b lineNum e b' lineNum' read} (lineNum₀ : Nat),
      blockLoop env b lineNum lines = (e, b', lineNum', read) →
      ∃ lineNum'' read',
        blockLoop env b lineNum₀ (directiveLines lines) = (e, b', lineNum'', read') ∧
          directiveLines (lines.drop read) = (directiveLines lines).drop read' := by
  induction lines with
  | nil => intro b lineNum e b' lineNum' read lineNum₀ h; cases h; exact ⟨_, 0, rfl, rfl⟩
  | cons line rest ih =>
    intro b lineNum e b' lineNum' read lineNum₀ h
    rw [blockLoop] at h
    rcases hline : directive? line with _ | name
    · -- a blank or comment line
      simp only [hline] at h
      rcases hr : blockLoop env b (lineNum + 1) rest with ⟨e₀, b₀, l₀, r₀⟩
      simp only [hr] at h
      cases h
      obtain ⟨l, r, hrun, hdrop⟩ := ih lineNum₀ hr
      rw [directiveLines_cons_none hline]
      exact ⟨l, r, hrun, by simpa using hdrop⟩
    · rw [directiveLines_cons_some hline, blockLoop]
      simp only [hline] at h ⊢
      rcases hsplit : getNameValue name ' ' with _ | ⟨n, v⟩
      · simp only [hsplit] at h ⊢
        cases h
        exact ⟨_, 1, rfl, by simp⟩
      simp only [hsplit, setProxyspecOption_lineNum hfree _ _ _ (lineNum + 1),
        setProxyspecOption_lineNum hfree _ _ _ (lineNum₀ + 1)] at h ⊢
      rcases hs : setProxyspecOption env b n v 0 with ⟨rc, b₁⟩
      simp only [hs] at h ⊢
      split_ifs at h ⊢
      · cases h; exact ⟨_, 1, rfl, by simp⟩
      · cases h; exact ⟨_, 1, rfl, by simp⟩
      · rcases hr : blockLoop env b₁ (lineNum + 1) rest with ⟨e₀, b₀, l₀, r₀⟩
        simp only [hr] at h
        cases h
        obtain ⟨l, r, hrun, hdrop⟩ := ih (lineNum₀ + 1) hr
        exact ⟨l, r + 1, by rw [hrun], by simpa using hdrop⟩

/-- The same holds of the whole block. -/
theorem loadProxyspecStruct_directiveLines (hfree : env.LineFree) {c c' : Conf}
    {lineNum lineNum' read : Nat} {rc : Int} {lines : List String} (lineNum₀ : Nat)
    (h : loadProxyspecStruct env c lineNum (some lines) = .ok (rc, c', lineNum', read)) :
    ∃ lineNum'' read', loadProxyspecStruct env c lineNum₀ (some (directiveLines lines)) =
        .ok (rc, c', lineNum'', read') ∧
      directiveLines (lines.drop read) = (directiveLines lines).drop read' := by
  rcases hnew : proxyspecNew env c.global c.tmp with _ | spec
  · simp only [loadProxyspecStruct, hnew] at h ⊢
    cases h; exact ⟨_, 0, rfl, rfl⟩
  rcases hret : proxyspecSetReturnAddr env spec "127.0.0.1" with ⟨rc₀, spec'⟩
  by_cases h0 : rc₀ = -1
  · simp only [loadProxyspecStruct, hnew, hret, h0, ↓reduceIte] at h ⊢
    cases h; exact ⟨_, 0, rfl, rfl⟩
  simp only [loadProxyspecStruct, hnew, hret, h0, ↓reduceIte] at h ⊢
  rcases hb : blockLoop env ⟨spec', c.natengine, .empty⟩ lineNum lines with ⟨e, b, l, r⟩
  simp only [hb] at h
  cases h
  obtain ⟨l', r', hrun, hdrop⟩ := blockLoop_directiveLines hfree lineNum₀ hb
  exact ⟨l', r', by rw [hrun]; rfl, hdrop⟩

/-- The loop passes over the lines a block has read. -/
theorem conffileLoop_skip {incl : Conf → String → Except Fault (Int × Conf)} (c : Conf)
    (lineNum : Nat) (retval : Int) :
    ∀ (skip : Nat) (lines : List String),
      conffileLoop env incl c lineNum retval skip lines =
        conffileLoop env incl c lineNum retval 0 (lines.drop skip)
  | 0, _ => rfl
  | _ + 1, [] => by simp only [conffileLoop, List.drop_nil]
  | skip + 1, _ :: rest => by
    simp only [conffileLoop, List.drop_succ_cons]
    exact conffileLoop_skip c lineNum retval skip rest

/-- A block with a stream never faults. -/
theorem loadProxyspecStruct_ne_error {c : Conf} {lineNum : Nat} {lines : List String}
    {e : Fault} : loadProxyspecStruct env c lineNum (some lines) ≠ .error e := by
  simp only [loadProxyspecStruct]
  repeat' split
  all_goals nofun

/-- The loop over a file runs alike over its directive lines alone. -/
theorem conffileLoop_directiveLines (hfree : env.LineFree)
    {incl : Conf → String → Except Fault (Int × Conf)} :
    ∀ (lines : List String) (c : Conf) (lineNum : Nat) (retval : Int) (lineNum' : Nat),
      conffileLoop env incl c lineNum retval 0 lines =
        conffileLoop env incl c lineNum' retval 0 (directiveLines lines)
  | [], _, _, _, _ => rfl
  | line :: rest, c, lineNum, retval, lineNum' => by
    rcases hline : directive? line with _ | name
    · rw [directiveLines_cons_none hline]
      simp only [conffileLoop, hline]
      exact conffileLoop_directiveLines hfree rest c _ retval lineNum'
    rw [directiveLines_cons_some hline]
    simp only [conffileLoop, hline]
    rcases hsplit : getNameValue name ' ' with _ | ⟨name, value⟩
    · rfl
    simp only
    by_cases hblock : name = "ProxySpec" ∧ value = "\x7b"
    · -- a block reads its lines from the same stream
      obtain ⟨rfl, rfl⟩ := hblock
      rw [setGlobalOption_block, setGlobalOption_block]
      rcases hs : loadProxyspecStruct env c (lineNum + 1) (some rest) with e | ⟨rc, c', l, read⟩
      · exact absurd hs loadProxyspecStruct_ne_error
      obtain ⟨l', read', hs', hdrop⟩ :=
        loadProxyspecStruct_directiveLines hfree (lineNum' + 1) hs
      rw [hs']
      dsimp only [bind, Except.bind]
      split_ifs
      · rfl
      rw [conffileLoop_skip _ _ _ read, conffileLoop_skip _ _ _ read', ← hdrop]
      exact conffileLoop_directiveLines hfree (rest.drop read) c' l rc l'
    · rw [setGlobalOption_line hfree hblock (lineNum + 1),
        setGlobalOption_line hfree hblock (lineNum' + 1)]
      cases setGlobalOption env incl c name value 0 none with
      | error => rfl
      | ok r =>
        dsimp only [Except.map, bind, Except.bind]
        split_ifs
        · rfl
        · exact conffileLoop_directiveLines hfree rest _ _ _ _
termination_by lines => lines.length
decreasing_by
  all_goals simp_wf
  omega

/-- A file, with every file it includes, loads alike with its blank and
comment lines removed. -/
theorem optsLoadConffile_directiveLines (hfree : env.LineFree)
    (files : String → Option (List String)) (fuel : Nat) (c : Conf) (path : String) :
    optsLoadConffile env files fuel c path =
      optsLoadConffile env (fun path => (files path).map directiveLines) fuel c path := by
  induction fuel generalizing c path with
  | zero => rfl
  | succ fuel ih =>
    have hincl : optsLoadConffile env files fuel =
        optsLoadConffile env (fun path => (files path).map directiveLines) fuel :=
      funext fun c => funext (ih c)
    rcases hfile : files path with _ | lines
    · simp only [optsLoadConffile, hfile, Option.map_none']
    · simp only [optsLoadConffile, hfile, Option.map_some', hincl]
      exact conffileLoop_directiveLines hfree lines c 0 (-1) 0

/-- A file with comments around and inside a block, and an included file with
a comment. -/
theorem optsLoadConffile_directiveLines_sample :
    optsLoadConffile Env.sample
        (fun path => if path = "a.conf" then
            some ["# listeners\n", "ProxySpec \x7b\n", "  # the address\n", "Addr 127.0.0.1\n",
              "Port 8443\n", "\x7d\n", "\n", "Include b.conf\n"]
          else if path = "b.conf" then some ["; daemon\n", "Daemon yes\n"] else none)
        2 (Conf.init 2048 none false) "a.conf" =
      optsLoadConffile Env.sample
        (fun path => if path = "a.conf" then
            some ["ProxySpec \x7b\n", "Addr 127.0.0.1\n", "Port 8443\n", "\x7d\n",
              "Include b.conf\n"]
          else if path = "b.conf" then some ["Daemon yes\n"] else none)
        2 (Conf.init 2048 none false) "a.conf" := by
  rw [optsLoadConffile_directiveLines Env.sample_lineFree]
  congr 1
  funext path
  split_ifs <;> rfl

end Comments

end SSLproxy
