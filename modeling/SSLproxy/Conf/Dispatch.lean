import SSLproxy.Spec.Block
import SSLproxy.Conf.Global

/-!
# The global dispatcher

`set_global_option` is the handler of one configuration line outside any
block, and of one `-o NAME=VALUE` command-line option.  It handles the
process-wide directives itself, `ProxySpec` (a one-line declaration, or a block
read from the stream `f`), and `Include`; every other name goes to
`set_option` on the global options with the real `tmp_global_opts`.

`Include` calls `opts_load_conffile` on the named file.  The recursion goes
through the callback `incl`, which `Conf.Load` ties to the loader itself, and
is bounded by the `include` flag of `tmp_global_opts`: set while the included
file is read, refused while set, cleared after.
-/

namespace SSLproxy

/-- `MAX_TOKENS`. -/
def maxTokens : Nat := 8

/-- `load_proxyspec_line`: split the value at spaces into at most
`MAX_TOKENS` tokens and parse them as one-line listener declarations. -/
def loadProxyspecLine (env : Env) (c : Conf) (value : String) :
    Except Fault (Int × Conf) :=
  let argv := strtok [' '] value
  if maxTokens < argv.length then pure (-1, c)
  else do
    let (rc, global) ← proxyspecParse env c.natengine c.global c.tmp argv
    pure (if rc = -1 then -1 else 0, { c with global })

/-- A one-line declaration changes nothing of the context but the listener
list, to which it prepends the listeners it creates. -/
theorem loadProxyspecLine_frame {env : Env} {c c' : Conf} {value : String} {rc : Int}
    (h : loadProxyspecLine env c value = .ok (rc, c')) :
    ∃ new, c' = { c with global := { c.global with spec := new ++ c.global.spec } } := by
  dsimp only [loadProxyspecLine] at h
  split at h
  · cases h; exact ⟨[], rfl⟩
  · obtain ⟨⟨_, global⟩, hparse, h⟩ := Except.bind_eq_ok.mp h
    cases h
    obtain ⟨new, rfl⟩ := proxyspecParseLoop_extends hparse
    exact ⟨new, rfl⟩

/-- Every listener a one-line declaration adds, when it does not fail, has its
listen address. -/
theorem loadProxyspecLine_listenAddrlen {env : Env} {c c' : Conf} {value : String} {rc : Int}
    (h : loadProxyspecLine env c value = .ok (rc, c')) (hrc : rc ≠ -1) :
    ∃ new, c' = { c with global := { c.global with spec := new ++ c.global.spec } } ∧
      ∀ spec ∈ new, spec.listenAddrlen ≠ 0 := by
  dsimp only [loadProxyspecLine] at h
  split at h
  · cases h; exact absurd rfl hrc
  · obtain ⟨⟨rc', global⟩, hparse, h⟩ := Except.bind_eq_ok.mp h
    cases h
    obtain ⟨new, rfl, hnew⟩ :=
      proxyspecParse_listenAddrlen hparse fun hrc' => hrc (if_pos hrc')
    exact ⟨new, rfl, hnew⟩

/-- The line `ProxySpec https 127.0.0.1 8443 10.0.0.1 443`. -/
theorem loadProxyspecLine_listenAddrlen_sample :
    ∃ rc c', loadProxyspecLine Env.sample (Conf.init 2048 none false)
        "https 127.0.0.1 8443 10.0.0.1 443" = .ok (rc, c') ∧ rc ≠ -1 ∧
      ∃ new, c' = { Conf.init 2048 none false with
          global := { (Conf.init 2048 none false).global with
            spec := new ++ (Conf.init 2048 none false).global.spec } } ∧
        ∀ spec ∈ new, spec.listenAddrlen ≠ 0 := by
  have hrun : loadProxyspecLine Env.sample (Conf.init 2048 none false)
      "https 127.0.0.1 8443 10.0.0.1 443" = .ok (_, _) := rfl
  exact ⟨_, _, hrun, by decide, loadProxyspecLine_listenAddrlen hrun (by decide)⟩

/-- A one-line declaration never touches `tmp_global_opts`. -/
theorem loadProxyspecLine_tmp {env : Env} {c : Conf} {value : String} {r : Int × Conf}
    (h : loadProxyspecLine env c value = .ok r) : r.2.tmp = c.tmp := by
  obtain ⟨_, hframe⟩ := loadProxyspecLine_frame h
  rw [hframe]

theorem loadProxyspecLine_fault {env : Env} {c : Conf} {value : String} {e : Fault}
    (h : loadProxyspecLine env c value = .error e) : e = .nullName := by
  dsimp only [loadProxyspecLine] at h
  split at h
  · cases h
  · rcases Except.bind_eq_error.mp h with h | ⟨_, -, h⟩
    · exact proxyspecParseLoop_fault h
    · cases h

/-- The numeric directives of `set_global_option`: `atoi` read as unsigned,
stored when `ok` accepts it. -/
def setNumeric (value : String) (ok : Nat → Bool) (store : Nat → Global)
    (global : Global) : Int × Global :=
  let i := toUnsigned (atoi value)
  if ok i then (0, store i) else (-1, global)

/-- `global_set_open_files_limit`: the `RLIMIT_NOFILE` limit it sets, or
`none` for `-1` (out of range, or refused by `setrlimit`). -/
def globalSetOpenFilesLimit (env : Env) (value : String) : Option Nat :=
  let i := toUnsigned (atoi value)
  if 50 ≤ i ∧ i ≤ 10000 ∧ env.setrlimitNofile i then some i else none

/-- `global_set_debug_level`. -/
def globalSetDebugLevel (value : String) : Option LogDbgMode :=
  if value = "2" then some .fine
  else if value = "3" then some .finer
  else if value = "4" then some .finest
  else none

/-- The branches of `set_global_option` that neither read the stream nor
recurse, in the order of the source: every directive but `ProxySpec` and
`Include`, with a nonempty value. -/
def setGlobalPlain (env : Env) (c : Conf) (name value : String) (lineNum : Nat) :
    Int × Conf :=
  let g := c.global
  let setG (r : Int × Global) : Int × Conf := (r.1, { c with global := r.2 })
  let yesno (set : Bool → Conf) : Int × Conf :=
    match isYesno value with
    | none => (-1, c)
    | some yes => (0, set yes)
  if name = "LeafCertDir" then setG (g.setLeafcertdir env value)
  else if name = "DefaultLeafCert" then setG (g.setDefaultleafcert env value)
  else if name = "WriteGenCertsDir" then setG (0, g.setCertgendirWritegencerts value)
  else if name = "WriteAllCertsDir" then setG (0, g.setCertgendirWriteall value)
  else if name = "User" then setG (g.setUser env value)
  else if name = "Group" then setG (g.setGroup env value)
  else if name = "Chroot" then setG (g.setJaildir env value)
  else if name = "PidFile" then setG (0, g.setPidfile value)
  else if name = "ConnectLog" then setG (g.setConnectlog env value)
  else if name = "ContentLog" then setG (g.setContentlog env value)
  else if name = "ContentLogDir" then setG (g.setContentlogdir env value)
  else if name = "ContentLogPathSpec" then setG (g.setContentlogpathspec env value)
  else if name = "LogProcInfo" then
    yesno fun yes => { c with global := { g with lprocinfo := yes } }
  else if name = "MasterKeyLog" then setG (g.setMasterkeylog env value)
  else if name = "PcapLog" then setG (g.setPcaplog env value)
  else if name = "PcapLogDir" then setG (g.setPcaplogdir env value)
  else if name = "PcapLogPathSpec" then setG (g.setPcaplogpathspec env value)
  else if name = "MirrorIf" then setG (0, g.setMirrorif value)
  else if name = "MirrorTarget" then setG (0, g.setMirrortarget value)
  else if name = "Daemon" then yesno fun yes => { c with global := { g with detach := yes } }
  else if name = "Debug" then
    yesno fun yes =>
      { c with global := { g with debug := yes },
               dbgMode := if yes then .errlog else .none }
  else if name = "DebugLevel" then
    match globalSetDebugLevel value with
    | none => (-1, c)
    | some mode => (0, { c with dbgMode := mode })
  else if name = "UserDBPath" then setG (0, g.setUserdbPath value)
  else if name = "ConnIdleTimeout" then
    setG (setNumeric value (fun i => 10 ≤ i ∧ i ≤ 3600)
      (fun i => { g with connIdleTimeout := i }) g)
  else if name = "ExpiredConnCheckPeriod" then
    setG (setNumeric value (fun i => 10 ≤ i ∧ i ≤ 60)
      (fun i => { g with expiredConnCheckPeriod := i }) g)
  else if name = "LogStats" then yesno fun yes => { c with global := { g with statslog := yes } }
  else if name = "StatsPeriod" then
    setG (setNumeric value (fun i => 1 ≤ i ∧ i ≤ 10) (fun i => { g with statsPeriod := i }) g)
  else if name = "OpenFilesLimit" then
    match globalSetOpenFilesLimit env value with
    | none => (-1, c)
    | some i => (0, { c with nofile := some i })
  else if name = "LeafKey" then setG (g.setLeafkey env value)
  else if name = "LeafKeyRSABits" then
    setG (setNumeric value (fun i => i = 1024 ∨ i = 2048 ∨ i = 3072 ∨ i = 4096)
      (fun i => { g with leafkeyRsabits := i }) g)
  else if name = "OpenSSLEngine" then setG (0, g.setOpensslEngine value)
  else
    let (rc, s) := setOption env ⟨g.opts, c.natengine, some c.tmp⟩ name value lineNum
    (rc, { c with global := { g with opts := s.opts }, natengine := s.natengine,
                  tmp := s.tmp.getD c.tmp })

/-- No plain directive touches the listener list or the `include` flag of
`tmp_global_opts`. -/
theorem setGlobalPlain_frame (env : Env) (c : Conf) (name value : String) (lineNum : Nat) :
    (setGlobalPlain env c name value lineNum).2.global.spec = c.global.spec ∧
      (setGlobalPlain env c name value lineNum).2.tmp.include = c.tmp.include := by
  obtain ⟨P, hP⟩ : ∃ P : Int × Conf → Prop,
      P = fun r => r.2.global.spec = c.global.spec ∧ r.2.tmp.include = c.tmp.include := ⟨_, rfl⟩
  suffices P (setGlobalPlain env c name value lineNum) by rwa [hP] at this
  unfold setGlobalPlain
  repeat' (apply iteInduction (motive := P) <;> intro _)
  all_goals subst hP; beta_reduce
  all_goals (try split) <;> refine ⟨?_, ?_⟩ <;> try rfl
  on_goal -1 =>
    -- `set_option`, which writes `tmp_global_opts` but keeps its flag
    rename_i s heq
    have h :=
      setOption_tmp_include env ⟨c.global.opts, c.natengine, some c.tmp⟩ name value lineNum
    rw [heq] at h
    cases hs : s.tmp <;> simp_all
  all_goals
    simp only [Global.setLeafcertdir, Global.setDefaultleafcert, Global.setUser,
      Global.setGroup, Global.setJaildir, Global.setConnectlog, Global.setContentlog,
      Global.setContentlogdir, Global.setContentlogpathspec, Global.setMasterkeylog,
      Global.setPcaplog, Global.setPcaplogdir, Global.setPcaplogpathspec, Global.setLeafkey,
      Global.setRealdirLog, Global.setLogFile, Global.setLogDir, Global.setLogPathspec,
      setNumeric]
    repeat' split
  all_goals rfl

section Dispatch

variable (env : Env) (incl : Conf → String → Except Fault (Int × Conf))

/-- `set_global_option` on the context `c`, for a line numbered `lineNum`,
with `f` the stream the line came from (`none` for `NULL`).  The result is
the return code, the context, the line counter, and the number of lines a
`ProxySpec {` block read from the stream.  `ProxySpec` and `Include` are
tested first here; the names are distinct, so this is the order of the
source. -/
def setGlobalOption (c : Conf) (name value : String) (lineNum : Nat)
    (f : Option (List String)) : Except Fault (Int × Conf × Nat × Nat) :=
  if value = "" then pure (-1, c, lineNum, 0)
  else if name = "ProxySpec" then
    if value = "\x7b" then loadProxyspecStruct env c lineNum f
    else do
      let (rc, c) ← loadProxyspecLine env c value
      pure (rc, c, lineNum, 0)
  else if name = "Include" then
    if c.tmp.include then pure (-1, c, lineNum, 0)
    else do
      let (rc, c) ← incl { c with tmp := { c.tmp with «include» := true } } value
      pure (rc, { c with tmp := { c.tmp with «include» := false } }, lineNum, 0)
  else
    let (rc, c) := setGlobalPlain env c name value lineNum
    pure (rc, c, lineNum, 0)

end Dispatch

/-! ## The `include` flag -/

section Include

variable {env : Env} {incl incl₁ incl₂ : Conf → String → Except Fault (Int × Conf)}
  {c : Conf} {name value : String} {lineNum : Nat} {f : Option (List String)}

/-- Every directive leaves the `include` flag as it found it: `Include`
clears the flag it set, whatever the included file did. -/
theorem setGlobalOption_include {r : Int × Conf × Nat × Nat}
    (h : setGlobalOption env incl c name value lineNum f = .ok r) :
    r.2.1.tmp.include = c.tmp.include := by
  unfold setGlobalOption at h
  split_ifs at h with _ _ _ _ hset
  · cases h; rfl
  · rw [loadProxyspecStruct_tmp h]
  · obtain ⟨_, hl, h⟩ := Except.bind_eq_ok.mp h
    cases h; rw [loadProxyspecLine_tmp hl]
  · cases h; rfl
  · obtain ⟨_, -, h⟩ := Except.bind_eq_ok.mp h
    cases h; simpa using hset
  · cases h; exact (setGlobalPlain_frame env c name value lineNum).2

/-- Inside an included file, `Include` fails without opening anything. -/
theorem setGlobalOption_include_set (hset : c.tmp.include = true) :
    setGlobalOption env incl c "Include" value lineNum f = pure (-1, c, lineNum, 0) := by
  by_cases hv : value = "" <;> simp [setGlobalOption, hv, hset]

/-- While the flag is set, the loader is never called. -/
theorem setGlobalOption_incl_irrel (hset : c.tmp.include = true) :
    setGlobalOption env incl₁ c name value lineNum f =
      setGlobalOption env incl₂ c name value lineNum f := by
  simp only [setGlobalOption, hset, ↓reduceIte]

/-- The loader is only ever called with the flag set. -/
theorem setGlobalOption_congr (h : ∀ c p, c.tmp.include = true → incl₁ c p = incl₂ c p) :
    setGlobalOption env incl₁ c name value lineNum f =
      setGlobalOption env incl₂ c name value lineNum f := by
  simp only [setGlobalOption, h { c with tmp := { c.tmp with «include» := true } } value rfl]

theorem setGlobalOption_ne_outOfFuel
    (hincl : ∀ c p, c.tmp.include = true → incl c p ≠ .error .outOfFuel) :
    setGlobalOption env incl c name value lineNum f ≠ .error .outOfFuel := by
  intro h
  unfold setGlobalOption at h
  split_ifs at h
  · cases h
  · cases loadProxyspecStruct_fault h
  · rcases Except.bind_eq_error.mp h with h | ⟨_, -, h⟩
    · cases loadProxyspecLine_fault h
    · cases h
  · cases h
  · rcases Except.bind_eq_error.mp h with h | ⟨_, -, h⟩
    · exact hincl _ _ rfl h
    · cases h
  · cases h

end Include

/-! ## The listener list -/

section Listeners

variable {env : Env} {incl : Conf → String → Except Fault (Int × Conf)} {c : Conf}
  {name value : String} {lineNum : Nat} {f : Option (List String)}

/-- Every directive keeps the listeners it found, as long as the loader does:
`ProxySpec` puts new ones in front of the list, and nothing else touches it. -/
theorem setGlobalOption_spec_suffix {r : Int × Conf × Nat × Nat}
    (hincl : ∀ c p r, incl c p = .ok r → c.global.spec <:+ r.2.global.spec)
    (h : setGlobalOption env incl c name value lineNum f = .ok r) :
    c.global.spec <:+ r.2.1.global.spec := by
  unfold setGlobalOption at h
  split_ifs at h
  · cases h; exact List.suffix_refl _
  · obtain ⟨spec, hframe⟩ := loadProxyspecStruct_frame h
    rw [hframe]
    exact ((Global.Extends.refl _).push spec).suffix
  · obtain ⟨_, hl, h⟩ := Except.bind_eq_ok.mp h
    cases h
    obtain ⟨new, hframe⟩ := loadProxyspecLine_frame hl
    rw [hframe]
    exact List.suffix_append new _
  · cases h; exact List.suffix_refl _
  · obtain ⟨_, hl, h⟩ := Except.bind_eq_ok.mp h
    cases h
    exact (hincl _ _ _ hl :)
  · cases h; exact ⟨[], (setGlobalPlain_frame env c name value lineNum).1.symm⟩

end Listeners

/-! ## Line numbers, the `include` flag, and the stream

What `Conf.Compose` needs of one directive: it reads the line number only
through `filter.c`, reads the `include` flag only in `Include`, and reads no
line of the stream past a block that loaded. -/

/-- A one-line declaration never reads the `include` flag. -/
theorem loadProxyspecLine_withInclude (env : Env) (c : Conf) (value : String) (b : Bool) :
    loadProxyspecLine env (c.withInclude b) value =
      (loadProxyspecLine env c value).map (Prod.map id (·.withInclude b)) := by
  simp only [loadProxyspecLine, proxyspecParse, Conf.withInclude, proxyspecParseLoop_withInclude]
  split
  · rfl
  · cases proxyspecParseLoop env c.natengine c.tmp (.proto none) c.global 0
      (strtok [' '] value) <;> rfl

section Plain

variable {env : Env}

/-- A plain directive reads the line number only through `filter.c`. -/
theorem setGlobalPlain_lineNum (hfree : env.LineFree) (c : Conf) (name value : String)
    (lineNum : Nat) :
    setGlobalPlain env c name value lineNum = setGlobalPlain env c name value 0 := by
  simp only [setGlobalPlain, setOption_lineNum hfree _ _ _ lineNum]

/-- A plain directive never reads the `include` flag, and hands it back as it
found it. -/
theorem setGlobalPlain_withInclude (c : Conf) (name value : String) (lineNum : Nat) (b : Bool) :
    setGlobalPlain env (c.withInclude b) name value lineNum =
      Prod.map id (·.withInclude b) (setGlobalPlain env c name value lineNum) := by
  have hopt := setOption_withInclude env ⟨c.global.opts, c.natengine, some c.tmp⟩ name value
    lineNum b
  simp only [Option.map_some'] at hopt
  simp only [setGlobalPlain, apply_ite (Prod.map id fun c : Conf => c.withInclude b)]
  repeat' (apply ite_congr rfl <;> intro _)
  on_goal -1 =>
    -- `set_option`, which hands the flag back as it found it
    simp only [Conf.withInclude] at hopt ⊢
    rw [hopt]
    generalize setOption env ⟨c.global.opts, c.natengine, some c.tmp⟩ name value lineNum = r
    obtain ⟨rc, opts, natengine, _ | tmp⟩ := r <;> rfl
  all_goals first | rfl | (split <;> rfl)

end Plain

section Composition

variable {env : Env} {incl incl₁ incl₂ : Conf → String → Except Fault (Int × Conf)}

/-- A directive on line `lineNum` acts as on line `0`, with the counter it
hands back moved by `lineNum`. -/
theorem setGlobalOption_lineNum (hfree : env.LineFree) (c : Conf) (name value : String)
    (lineNum : Nat) (f : Option (List String)) :
    setGlobalOption env incl c name value lineNum f =
      (setGlobalOption env incl c name value 0 f).map
        fun r => (r.1, r.2.1, lineNum + r.2.2.2, r.2.2.2) := by
  simp only [setGlobalOption, setGlobalPlain_lineNum hfree _ _ _ lineNum,
    loadProxyspecStruct_lineNum hfree _ lineNum, apply_ite (Except.map _)]
  repeat' (apply ite_congr rfl <;> intro _)
  all_goals first
    | rfl
    | (cases loadProxyspecLine env c value <;> rfl)
    | (cases incl { c with tmp := { c.tmp with «include» := true } } value <;> rfl)

/-- Every directive but `Include` ignores the `include` flag and the loader. -/
theorem setGlobalOption_withInclude {c : Conf} {name value : String} {lineNum : Nat}
    {f : Option (List String)} (hname : name ≠ "Include") (b : Bool) :
    setGlobalOption env incl₁ (c.withInclude b) name value lineNum f =
      (setGlobalOption env incl₂ c name value lineNum f).map
        fun r => (r.1, r.2.1.withInclude b, r.2.2) := by
  simp only [setGlobalOption, hname, ↓reduceIte, loadProxyspecStruct_withInclude,
    loadProxyspecLine_withInclude, setGlobalPlain_withInclude]
  split_ifs
  · rfl
  · rfl
  · cases loadProxyspecLine env c value <;> rfl
  · rfl

/-- `ProxySpec {` opens a block. -/
theorem setGlobalOption_block (c : Conf) (lineNum : Nat) (f : Option (List String)) :
    setGlobalOption env incl c "ProxySpec" "\x7b" lineNum f =
      loadProxyspecStruct env c lineNum f := by
  simp [setGlobalOption]

/-- Only a block reads the stream. -/
theorem setGlobalOption_stream {c : Conf} {name value : String}
    (hblock : ¬(name = "ProxySpec" ∧ value = "\x7b")) (lineNum : Nat)
    (f f' : Option (List String)) :
    setGlobalOption env incl c name value lineNum f =
      setGlobalOption env incl c name value lineNum f' := by
  unfold setGlobalOption
  repeat' (apply ite_congr rfl <;> intro _)
  all_goals first
    | exact (hblock ⟨‹_›, ‹_›⟩).elim
    | rfl

/-- A directive that succeeds on a stream succeeds alike on a longer one: only
a block reads the stream, and it stops at its closing brace. -/
theorem setGlobalOption_append {c c' : Conf} {name value : String} {lineNum lineNum' read : Nat}
    {rc : Int} {lines : List String} (more : List String)
    (h : setGlobalOption env incl c name value lineNum (some lines) = .ok (rc, c', lineNum', read))
    (hrc : rc ≠ -1) :
    setGlobalOption env incl c name value lineNum (some (lines ++ more)) =
      .ok (rc, c', lineNum', read) := by
  by_cases hblock : name = "ProxySpec" ∧ value = "\x7b"
  · obtain ⟨rfl, rfl⟩ := hblock
    rw [setGlobalOption_block] at h ⊢
    exact loadProxyspecStruct_append more h hrc
  · rwa [setGlobalOption_stream hblock _ _ (some lines)]

/-- Outside a block, a directive reads neither the stream nor, when
`filter.c` does not, the line number, and it hands the line number back. -/
theorem setGlobalOption_line (hfree : env.LineFree) {c : Conf} {name value : String}
    (hblock : ¬(name = "ProxySpec" ∧ value = "\x7b")) (lineNum : Nat)
    (f : Option (List String)) :
    setGlobalOption env incl c name value lineNum f =
      (setGlobalOption env incl c name value 0 none).map fun r => (r.1, r.2.1, lineNum, 0) := by
  simp only [setGlobalOption, setGlobalPlain_lineNum hfree _ _ _ lineNum,
    apply_ite (Except.map _)]
  repeat' (apply ite_congr rfl <;> intro _)
  all_goals first
    | exact (hblock ⟨‹_›, ‹_›⟩).elim
    | rfl
    | (cases loadProxyspecLine env c value <;> rfl)
    | (cases incl { c with tmp := { c.tmp with «include» := true } } value <;> rfl)

/-- Outside a block, a directive reads no line of the stream; a block reads
no more lines than the stream has. -/
theorem setGlobalOption_read {c c' : Conf} {name value : String} {lineNum lineNum' read : Nat}
    {rc : Int} {f : Option (List String)}
    (h : setGlobalOption env incl c name value lineNum f = .ok (rc, c', lineNum', read)) :
    read ≤ (f.getD []).length := by
  unfold setGlobalOption at h
  split_ifs at h
  · cases h; exact Nat.zero_le _
  · exact (loadProxyspecStruct_read h).1
  · obtain ⟨_, -, h⟩ := Except.bind_eq_ok.mp h
    cases h; exact Nat.zero_le _
  · cases h; exact Nat.zero_le _
  · obtain ⟨_, -, h⟩ := Except.bind_eq_ok.mp h
    cases h; exact Nat.zero_le _
  · split at h
    cases h; exact Nat.zero_le _

end Composition

/-! ## Numeric directives

Every numeric directive reads its value with `atoi` into an `unsigned int`
and checks only that number against its range.  Where the number `strtol`
reads fits in an `int`, `atoi` returns it, and that number is what the
directive checks and stores. -/

/-- How a numeric directive handles each value `v`, run by `run` on the state
`s`: a nonempty `v` whose `(unsigned int) atoi(v)` is a number `ok` accepts is
stored by `store`; every other value fails with `-1` and changes nothing. -/
def ReadsAtoi {σ : Type} (run : String → Except Fault (Int × σ)) (s : σ) (ok : Nat → Prop)
    [DecidablePred ok] (store : Nat → σ) : Prop :=
  ∀ v, run v = pure (if v ≠ "" ∧ ok (toUnsigned (atoi v))
    then (0, store (toUnsigned (atoi v))) else (-1, s))

/-- How a numeric directive handles each value `v` whose number, as `strtol`
reads it, fits in an `int`: a nonempty `v` whose number is non-negative and
accepted by `ok` is stored by `store`; every other such value fails with `-1`
and changes nothing. -/
def ReadsNumber {σ : Type} (run : String → Except Fault (Int × σ)) (s : σ) (ok : Nat → Prop)
    [DecidablePred ok] (store : Nat → σ) : Prop :=
  ∀ v, -2 ^ 31 ≤ strtol v → strtol v < 2 ^ 31 →
    run v = pure (if v ≠ "" ∧ 0 ≤ strtol v ∧ ok (strtol v).toNat
      then (0, store (strtol v).toNat) else (-1, s))

section Reading

variable {σ : Type} {run : String → Except Fault (Int × σ)} {s : σ} {ok : Nat → Prop}
  [DecidablePred ok] {store : Nat → σ}

/-- A range below `2^31` sees, for a value that fits in an `int`, the number
`strtol` reads: a negative one becomes an `unsigned int` of at least `2^31`. -/
theorem ReadsAtoi.readsNumber (h : ReadsAtoi run s ok store) (hok : ∀ i, ok i → i < 2 ^ 31) :
    ReadsNumber run s ok store := by
  intro v hlo hhi
  have hatoi := atoi_of_fits hlo hhi
  rw [h v]
  by_cases hneg : 0 ≤ strtol v
  · have hread : toUnsigned (atoi v) = (strtol v).toNat := by
      simp only [toUnsigned, hatoi]; omega
    simp only [hread, hneg, true_and]
  · have hwrap : 2 ^ 31 ≤ toUnsigned (atoi v) := by
      simp only [toUnsigned, hatoi]; omega
    have hnot : ¬ ok (toUnsigned (atoi v)) := fun hk => absurd (hok _ hk) (by omega)
    simp only [hnot, hneg, and_false, false_and, ite_false]

end Reading

section Numeric

variable {env : Env} {incl : Conf → String → Except Fault (Int × Conf)} {c : Conf}
  {lineNum : Nat} {f : Option (List String)}
/-- A directive that `set_global_option` handles itself reads its value as
its branch of the plain directives does. -/
theorem readsAtoi_setGlobalOption {name : String} {ok : Nat → Prop} [DecidablePred ok]
    {store : Nat → Conf} (hp : name ≠ "ProxySpec") (hi : name ≠ "Include")
    (hplain : ∀ v, setGlobalPlain env c name v lineNum =
      if ok (toUnsigned (atoi v)) then (0, store (toUnsigned (atoi v))) else (-1, c)) :
    ReadsAtoi (fun v => (setGlobalOption env incl c name v lineNum f).map fun r => (r.1, r.2.1))
      c ok store := by
  intro v
  by_cases hv : v = ""
  · simp only [setGlobalOption, hv, ne_eq, not_true, false_and, ite_true, ite_false]; rfl
  · simp only [setGlobalOption, hv, hp, hi, hplain, ne_eq, not_false_eq_true, true_and,
      ite_false]
    split <;> rfl

/-- A directive of `set_option` reads its value as its branch does. -/
theorem readsAtoi_setOption {s : Scope} {name : String} {ok : Nat → Prop} [DecidablePred ok]
    {store : Nat → Scope}
    (h : ∀ v, v ≠ "" → setOption env s name v lineNum =
      if ok (toUnsigned (atoi v)) then (0, store (toUnsigned (atoi v))) else (-1, s)) :
    ReadsAtoi (fun v => pure (setOption env s name v lineNum)) s ok store := by
  intro v
  by_cases hv : v = ""
  · simp [setOption, hv]
  · simp only [h v hv, hv]; split <;> simp_all

end Numeric

/-- The seven numeric directives accept a nonempty value whose number, as
`strtol` reads it, fits in an `int`, exactly when that number is non-negative
and in their range (and, for `OpenFilesLimit`, `setrlimit` takes it), and
store that number; an unsigned decimal numeral is read as its value. -/
theorem numeric_directives_read_atoi (env : Env)
    (incl : Conf → String → Except Fault (Int × Conf)) (c : Conf) (s : Scope) (lineNum : Nat)
    (f : Option (List String)) :
    ReadsNumber (fun v => pure (setOption env s "UserTimeout" v lineNum)) s (· ≤ 86400)
      (fun i => { s with opts := { s.opts with userTimeout := i } }) ∧
    ReadsNumber (fun v => pure (setOption env s "MaxHTTPHeaderSize" v lineNum)) s
      (fun i => 1024 ≤ i ∧ i ≤ 65536)
      (fun i => { s with opts := { s.opts with maxHttpHeaderSize := i } }) ∧
    ReadsNumber (fun v => (setGlobalOption env incl c "ConnIdleTimeout" v lineNum f).map
        fun r => (r.1, r.2.1)) c (fun i => 10 ≤ i ∧ i ≤ 3600)
      (fun i => { c with global := { c.global with connIdleTimeout := i } }) ∧
    ReadsNumber (fun v => (setGlobalOption env incl c "ExpiredConnCheckPeriod" v lineNum f).map
        fun r => (r.1, r.2.1)) c (fun i => 10 ≤ i ∧ i ≤ 60)
      (fun i => { c with global := { c.global with expiredConnCheckPeriod := i } }) ∧
    ReadsNumber (fun v => (setGlobalOption env incl c "StatsPeriod" v lineNum f).map
        fun r => (r.1, r.2.1)) c (fun i => 1 ≤ i ∧ i ≤ 10)
      (fun i => { c with global := { c.global with statsPeriod := i } }) ∧
    ReadsNumber (fun v => (setGlobalOption env incl c "LeafKeyRSABits" v lineNum f).map
        fun r => (r.1, r.2.1)) c (fun i => i = 1024 ∨ i = 2048 ∨ i = 3072 ∨ i = 4096)
      (fun i => { c with global := { c.global with leafkeyRsabits := i } }) ∧
    ReadsNumber (fun v => (setGlobalOption env incl c "OpenFilesLimit" v lineNum f).map
        fun r => (r.1, r.2.1)) c (fun i => 50 ≤ i ∧ i ≤ 10000 ∧ env.setrlimitNofile i)
      (fun i => { c with nofile := some i }) ∧
    ∀ v : String, v.toList ≠ [] → (∀ ch ∈ v.toList, ch.isDigit) →
      decimalValue v.toList < 2 ^ 63 → strtol v = decimalValue v.toList := by
  refine ⟨(readsAtoi_setOption fun v hv => ?_).readsNumber (fun _ _ => by omega),
    (readsAtoi_setOption fun v hv => ?_).readsNumber (fun _ _ => by omega),
    (readsAtoi_setGlobalOption (by decide) (by decide) fun v => ?_).readsNumber
      (fun _ _ => by omega),
    (readsAtoi_setGlobalOption (by decide) (by decide) fun v => ?_).readsNumber
      (fun _ _ => by omega),
    (readsAtoi_setGlobalOption (by decide) (by decide) fun v => ?_).readsNumber
      (fun _ _ => by omega),
    (readsAtoi_setGlobalOption (by decide) (by decide) fun v => ?_).readsNumber
      (fun _ _ => by omega),
    (readsAtoi_setGlobalOption (by decide) (by decide) fun v => ?_).readsNumber
      (fun _ _ => by omega),
    fun _ => strtol_numeral⟩
  · simp only [setOption, hv, String.reduceEq, ↓reduceIte]
  · simp only [setOption, hv, String.reduceEq, ↓reduceIte]
  all_goals simp only [setGlobalPlain, setNumeric, globalSetOpenFilesLimit, String.reduceEq,
    ↓reduceIte, decide_eq_true_eq]
  all_goals split_ifs <;> rfl

/-- `atoi` stops at the first character that is no digit, reads a value
without digits as `0`, and takes a sign and leading blanks: each of these
values is accepted. -/
theorem numeric_directives_accept_non_numerals :
    (setGlobalOption Env.sample (fun c _ => pure (-1, c)) (Conf.init 2048 none false)
        "ConnIdleTimeout" "120abc" 1 none).map (fun r => (r.1, r.2.1.global.connIdleTimeout)) =
      .ok (0, 120) ∧
    (setGlobalOption Env.sample (fun c _ => pure (-1, c)) (Conf.init 2048 none false)
        "StatsPeriod" " +5" 1 none).map (fun r => (r.1, r.2.1.global.statsPeriod)) =
      .ok (0, 5) ∧
    (fun r : Int × Scope => (r.1, r.2.opts.userTimeout))
        (setOption Env.sample ⟨optsNew, none, none⟩ "UserTimeout" "abc" 1) = (0, 0) :=
  ⟨rfl, rfl, rfl⟩

end SSLproxy
