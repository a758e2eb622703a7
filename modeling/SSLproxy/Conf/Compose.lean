import SSLproxy.Conf.Include
import SSLproxy.Conf.Comments

/-!
# `Include` is textual inclusion

The man page says `Include` loads "configuration from an include file".  The
loader reads the included file with its own call of `opts_load_conffile`: its
own line counter, its own result variable starting at `-1`, and the `include`
flag set, which refuses a nested `Include`.  This module shows that, when the
included file loads on its own with a code other than `-1`, the `Include`
line has the same effect as the included lines written in its place, and
that a directive line has the effect of the option `-o NAME=VALUE`, so that
the two ways in agree: a whole file without blocks loads as the options of
its directive lines, one after another (`globalSetOptions`).

The argument is a simulation between the run of the included file (flag set)
and the inline run of its lines followed by the rest of the outer file (flag
clear).  It needs three facts about one directive, proved in
`Conf.Dispatch`: it does not read the line number when `filter.c` does not
(`Env.LineFree`), it commutes with setting the flag as long as it is not an
`Include`, and a block that was closed reads nothing past its closing brace.
-/

namespace SSLproxy

section Composition

variable {env : Env} {incl incl₁ incl₂ : Conf → String → Except Fault (Int × Conf)}

/-- The loop's result does not depend on the line it starts on. -/
theorem conffileLoop_lineNum (hfree : env.LineFree) (c : Conf) (lineNum : Nat) (retval : Int)
    (skip : Nat) (lines : List String) (lineNum' : Nat) :
    conffileLoop env incl c lineNum retval skip lines =
      conffileLoop env incl c lineNum' retval skip lines := by
  induction c, lineNum, retval, skip, lines using conffileLoop.induct env incl
    generalizing lineNum' with
  | case1 => simp only [conffileLoop]
  | case2 _ _ _ _ _ _ ih => simpa only [conffileLoop] using ih _
  | case3 _ _ _ _ _ _ hline ih => simpa only [conffileLoop, hline] using ih _
  | case4 _ _ _ _ _ _ hline hsplit => simp only [conffileLoop, hline, hsplit]
  | case5 _ _ _ _ _ _ hline _ _ hsplit ih =>
    simp only [conffileLoop, hline, hsplit]
    rw [setGlobalOption_lineNum hfree, setGlobalOption_lineNum hfree _ _ _ (lineNum' + 1)]
    rcases setGlobalOption env incl _ _ _ 0 _ with _ | ⟨rc, c', l, read⟩
    · rfl
    · dsimp only [Except.map, bind, Except.bind]
      split_ifs
      · rfl
      · exact ih _ _ _ _ _

/-- The initial result code matters only to a run that reads no directive. -/
theorem conffileLoop_retval {c c' : Conf} {lineNum skip : Nat} {retval rc : Int}
    {lines : List String} (retval' : Int)
    (h : conffileLoop env incl c lineNum retval skip lines = .ok (rc, c')) (hrc : rc ≠ retval) :
    conffileLoop env incl c lineNum retval' skip lines = .ok (rc, c') := by
  induction c, lineNum, retval, skip, lines using conffileLoop.induct env incl with
  | case1 => simp only [conffileLoop] at h; cases h; exact absurd rfl hrc
  | case2 _ _ _ _ _ _ ih =>
    simpa only [conffileLoop] using ih (by simpa only [conffileLoop] using h) hrc
  | case3 _ _ _ _ _ _ hline ih =>
    simpa only [conffileLoop, hline] using ih (by simpa only [conffileLoop, hline] using h) hrc
  | case4 _ _ _ _ _ _ hline hsplit => simpa only [conffileLoop, hline, hsplit] using h
  | case5 _ _ _ _ _ _ hline _ _ hsplit => simpa only [conffileLoop, hline, hsplit] using h

/-- The simulation: a run with the flag set that ends with a code other than
`-1`, followed by `post`, is the run of the same lines with the flag clear,
which then goes on with `post` from the context the first run ended in. -/
theorem conffileLoop_inline (post : List String) {c c' : Conf} {lineNum skip : Nat}
    {retval rc : Int} {lines : List String} (hc : c.tmp.include = true)
    (hskip : skip ≤ lines.length)
    (h : conffileLoop env incl₁ c lineNum retval skip lines = .ok (rc, c')) (hrc : rc ≠ -1) :
    ∃ lineNum', conffileLoop env incl₂ (c.withInclude false) lineNum retval skip (lines ++ post) =
      conffileLoop env incl₂ (c'.withInclude false) lineNum' rc 0 post := by
  induction c, lineNum, retval, skip, lines using conffileLoop.induct env incl₁ with
  | case1 =>
    simp only [conffileLoop] at h
    cases h
    obtain rfl : _ = 0 := Nat.le_zero.mp hskip
    exact ⟨_, rfl⟩
  | case2 _ _ _ _ _ _ ih =>
    simp only [conffileLoop] at h
    simpa only [List.cons_append, conffileLoop] using ih hc (Nat.le_of_succ_le_succ hskip) h
  | case3 _ _ _ _ _ _ hline ih =>
    simp only [conffileLoop, hline] at h
    simpa only [List.cons_append, conffileLoop, hline] using ih hc (Nat.zero_le _) h
  | case4 _ _ _ _ _ _ hline hsplit =>
    simp only [conffileLoop, hline, hsplit] at h
    cases h; exact absurd rfl hrc
  | case5 c lineNum _ _ rest _ hline name value hsplit ih =>
    simp only [conffileLoop, hline, hsplit] at h
    by_cases hname : name = "Include"
    · -- an `Include` read with the flag set fails
      subst hname
      rw [setGlobalOption_include_set hc] at h
      cases h; exact absurd rfl hrc
    have hstep := @setGlobalOption_withInclude env incl₁ incl₂ (c.withInclude false) name value
      (lineNum + 1) (some rest) hname true
    rw [Conf.withInclude_withInclude, Conf.withInclude_of_include hc] at hstep
    rcases hs : setGlobalOption env incl₂ (c.withInclude false) name value (lineNum + 1) (some rest)
      with _ | ⟨rc₁, c₁, lineNum₁, read₁⟩
    · rw [hstep, hs] at h; cases h
    rw [hstep, hs] at h
    dsimp only [Except.map, bind, Except.bind] at h
    split_ifs at h with h1
    · cases h; exact absurd rfl hrc
    -- the directive, read inline, ends as it did in the included file
    have hc₁ : c₁.tmp.include = false := setGlobalOption_include hs
    obtain ⟨lineNum', hrun⟩ := ih rc₁ (c₁.withInclude true) lineNum₁ read₁ rfl
      (setGlobalOption_read hs) h
    rw [Conf.withInclude_withInclude, Conf.withInclude_of_include hc₁] at hrun
    refine ⟨lineNum', ?_⟩
    rw [List.cons_append]
    simp only [conffileLoop, hline, hsplit]
    rw [setGlobalOption_append post hs h1]
    dsimp only [bind, Except.bind]
    rw [if_neg h1, hrun]

/-- An `Include` line read with the flag clear, of a file that loads on its
own with a code other than `-1`, has the effect of the file's lines written in
its place. -/
theorem conffileLoop_include_inline (hfree : env.LineFree)
    {files : String → Option (List String)} {fuel : Nat} {c c' : Conf} {line path : String}
    {name : List Char} {lines : List String} {rc : Int} (hc : c.tmp.include = false)
    (hline : directive? line = some name) (hsplit : getNameValue name ' ' = some ("Include", path))
    (hpath : path ≠ "") (hfile : files path = some lines)
    (hload : optsLoadConffile env files fuel (c.withInclude true) path = .ok (rc, c'))
    (hrc : rc ≠ -1) (lineNum : Nat) (retval : Int) (post : List String) :
    conffileLoop env (optsLoadConffile env files fuel) c lineNum retval 0 (line :: post) =
      conffileLoop env (optsLoadConffile env files fuel) c lineNum retval 0 (lines ++ post) := by
  cases fuel with
  | zero => cases hload
  | succ fuel =>
    -- the included file, run where the `Include` line stands
    have hB : conffileLoop env (optsLoadConffile env files fuel) (c.withInclude true) lineNum
        retval 0 lines = .ok (rc, c') := by
      rw [optsLoadConffile.eq_2, hfile] at hload
      dsimp only at hload
      rw [conffileLoop_lineNum hfree _ _ _ _ _ lineNum] at hload
      exact conffileLoop_retval retval hload hrc
    obtain ⟨lineNum', hrun⟩ := conffileLoop_inline post rfl (Nat.zero_le _) hB hrc
    rw [Conf.withInclude_withInclude, Conf.withInclude_of_include hc] at hrun
    -- the `Include` line itself
    have hinc : setGlobalOption env (optsLoadConffile env files (fuel + 1)) c "Include" path
        (lineNum + 1) (some post) = .ok (rc, c'.withInclude false, lineNum + 1, 0) := by
      have hname : "Include" ≠ "ProxySpec" := by decide
      simp only [setGlobalOption, hpath, hname, hc, ↓reduceIte, Bool.false_eq_true]
      rw [show { c with tmp := { c.tmp with «include» := true } } = c.withInclude true from rfl,
        hload]
      rfl
    simp only [conffileLoop, hline, hsplit]
    rw [hinc, hrun]
    dsimp only [bind, Except.bind]
    rw [if_neg hrc]
    exact conffileLoop_lineNum hfree _ _ _ _ _ _

/-- A file that includes `b.conf`, read inline. -/
theorem conffileLoop_include_inline_sample :
    conffileLoop Env.sample
        (optsLoadConffile Env.sample
          (fun path => if path = "b.conf" then some ["Daemon yes\n"] else none) 2)
        (Conf.init 2048 none false) 0 (-1) 0 ["Include b.conf\n", "Debug no\n"] =
      conffileLoop Env.sample
        (optsLoadConffile Env.sample
          (fun path => if path = "b.conf" then some ["Daemon yes\n"] else none) 2)
        (Conf.init 2048 none false) 0 (-1) 0 (["Daemon yes\n"] ++ ["Debug no\n"]) := by
  apply conffileLoop_include_inline Env.sample_lineFree
  · rfl
  · rfl
  · rfl
  · decide
  · rfl
  · rfl
  · decide

/-- A directive line of a file does what the option `-o NAME=VALUE` does with
the same name and value, and the loop then goes on with the next line; a
`ProxySpec` block is the one exception, since `-o` has no stream to read it
from. -/
theorem conffileLoop_option (hfree : env.LineFree) {files : String → Option (List String)}
    {fuel : Nat} {c : Conf} {optarg line : String} {name' : List Char} {name value : String}
    (hopt : getNameValue (skipBlanks (cString optarg)) '=' = some (name, value))
    (hline : directive? line = some name') (hsplit : getNameValue name' ' ' = some (name, value))
    (hblock : ¬(name = "ProxySpec" ∧ value = "\x7b")) (lineNum : Nat) (retval : Int)
    (post : List String) :
    conffileLoop env (optsLoadConffile env files fuel) c lineNum retval 0 (line :: post) =
      (do
        let (rc, c) ← globalSetOption env files fuel c optarg
        if rc = -1 then pure (-1, c)
        else conffileLoop env (optsLoadConffile env files fuel) c (lineNum + 1) rc 0 post) := by
  simp only [conffileLoop, hline, hsplit, globalSetOption, hopt]
  rw [setGlobalOption_line hfree hblock]
  cases setGlobalOption env (optsLoadConffile env files fuel) c name value 0 none <;> rfl

/-- The line `Daemon yes` and the option `-o Daemon=yes`. -/
theorem conffileLoop_option_sample :
    conffileLoop Env.sample (optsLoadConffile Env.sample (fun _ => none) 1)
        (Conf.init 2048 none false) 0 (-1) 0 ["Daemon yes\n", "Debug no\n"] =
      (do
        let (rc, c) ← globalSetOption Env.sample (fun _ => none) 1 (Conf.init 2048 none false)
          "Daemon=yes"
        if rc = -1 then pure (-1, c)
        else
          conffileLoop Env.sample (optsLoadConffile Env.sample (fun _ => none) 1) c (0 + 1) rc 0
            ["Debug no\n"]) := by
  apply conffileLoop_option Env.sample_lineFree
  · rfl
  · rfl
  · rfl
  · decide

end Composition

/-! ## A file is a list of options -/

/-- Options set one after another, the first that fails with `-1` stopping
the rest, with the code of the last: the loop of `opts_load_conffile` with
`global_set_option` for its body. -/
def globalSetOptions (env : Env) (files : String → Option (List String)) (fuel : Nat) :
    Conf → Int → List String → Except Fault (Int × Conf)
  | c, retval, [] => pure (retval, c)
  | c, _, optarg :: optargs => do
    let (rc, c) ← globalSetOption env files fuel c optarg
    if rc = -1 then pure (-1, c) else globalSetOptions env files fuel c rc optargs

/-- The configuration line `line` and the option `optarg` give the same name
and value, and open no block. -/
def SameDirective (line optarg : String) : Prop :=
  ∃ name' name value, directive? line = some name' ∧
    getNameValue name' ' ' = some (name, value) ∧
    getNameValue (skipBlanks (cString optarg)) '=' = some (name, value) ∧
    ¬(name = "ProxySpec" ∧ value = "\x7b")

section Options

variable {env : Env} {files : String → Option (List String)} {fuel : Nat}

/-- The line loop over directive lines, none of them a block, sets their
options one after another. -/
theorem conffileLoop_globalSetOptions (hfree : env.LineFree) {lines optargs : List String}
    (hsame : List.Forall₂ SameDirective lines optargs) :
    ∀ (c : Conf) (lineNum : Nat) (retval : Int),
      conffileLoop env (optsLoadConffile env files fuel) c lineNum retval 0 lines =
        globalSetOptions env files fuel c retval optargs := by
  induction hsame with
  | nil => intro c lineNum retval; rfl
  | @cons line optarg lines optargs hline _ ih =>
    intro c lineNum retval
    obtain ⟨name', name, value, hdir, hsplit, hopt, hblock⟩ := hline
    simp only [conffileLoop, hdir, hsplit, globalSetOptions, globalSetOption, hopt]
    rw [setGlobalOption_line hfree hblock]
    cases setGlobalOption env (optsLoadConffile env files fuel) c name value 0 none with
    | error => rfl
    | ok r =>
      dsimp only [Except.map, bind, Except.bind, pure, Except.pure]
      split_ifs
      · rfl
      · exact ih _ _ _

/-- A file without blocks loads as the options of its directive lines, in
order. -/
theorem optsLoadConffile_globalSetOptions (hfree : env.LineFree) {c : Conf} {path : String}
    {lines optargs : List String} (hfile : files path = some lines)
    (hsame : List.Forall₂ SameDirective (directiveLines lines) optargs) :
    optsLoadConffile env files (fuel + 1) c path =
      globalSetOptions env files fuel c (-1) optargs := by
  rw [optsLoadConffile.eq_2, hfile]
  dsimp only
  rw [conffileLoop_directiveLines hfree lines c 0 (-1) 0]
  exact conffileLoop_globalSetOptions hfree hsame c 0 (-1)

/-- A file with a comment and two directives, and the two options. -/
theorem optsLoadConffile_globalSetOptions_sample :
    optsLoadConffile Env.sample
        (fun path => if path = "a.conf" then some ["# daemon\n", "Daemon yes\n", "Debug no\n"]
          else none) (1 + 1) (Conf.init 2048 none false) "a.conf" =
      globalSetOptions Env.sample
        (fun path => if path = "a.conf" then some ["# daemon\n", "Daemon yes\n", "Debug no\n"]
          else none) 1 (Conf.init 2048 none false) (-1) ["Daemon=yes", "Debug=no"] :=
  optsLoadConffile_globalSetOptions Env.sample_lineFree rfl
    (.cons ⟨_, _, _, rfl, rfl, rfl, by decide⟩
      (.cons ⟨_, _, _, rfl, rfl, rfl, by decide⟩ .nil))

end Options

end SSLproxy
