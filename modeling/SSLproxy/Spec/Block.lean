import SSLproxy.Opts.SetOption
import SSLproxy.Spec.Parse
import SSLproxy.Conf.Lines

/-!
# Structured proxy specifications

A `ProxySpec {` line makes `set_global_option` call `load_proxyspec_struct`,
which creates a listener from the global options, puts it at the head of
`global->spec`, and then reads lines from the same stream until a `}` line.
Each line goes to `set_proxyspec_option`, which handles the listener's own
directives and hands every other one to `set_option` on the listener's
options, with the default NAT engine and without `tmp_global_opts`.

The address directives come in pairs (`Addr`/`Port`, `DivertAddr`/`DivertPort`,
`TargetAddr`/`TargetPort`): the first stores a string in `spec_addrs_t`, the
second resolves it.  `Port` stores the family it gets back, `-1` included,
and the closing brace checks only that this family is nonzero.

The listener a block loads diverts as the last `Divert yes` or `Divert no` of
the block says, or as the global options do without one, and only out of
split mode and with the divert address of a `DivertPort` line
(`loadProxyspecStruct_divert`).
-/

namespace SSLproxy

/-- `spec_addrs_t`: the address strings a block has read and the family the
last `Port` returned (`0` before any `Port`). -/
structure SpecAddrs where
  af : Int
  addr : Option String
  divertAddr : Option String
  targetAddr : Option String
deriving DecidableEq

/-- `spec_addrs_t` after `memset`. -/
def SpecAddrs.empty : SpecAddrs := ⟨0, none, none, none⟩

/-- What the lines of one block act on: the listener, the default NAT engine,
and the pending address strings. -/
structure BlockState where
  spec : Proxyspec
  natengine : Option String
  addrs : SpecAddrs
deriving DecidableEq

namespace BlockState

/-- Store the result of a setter of the listener. -/
def withSpec (b : BlockState) (r : Int × Proxyspec) : Int × BlockState :=
  (r.1, { b with spec := r.2 })

end BlockState

/-- `set_proxyspec_option`.  `}` is the only directive without a value; it
returns `2` once `Addr` and a `Port` have been seen. -/
def setProxyspecOption (env : Env) (b : BlockState) (name value : String)
    (lineNum : Nat) : Int × BlockState :=
  let spec := b.spec
  let addrs := b.addrs
  if value = "" ∧ name ≠ "\x7d" then (-1, b)
  else if name = "Proto" then b.withSpec (proxyspecSetProto spec value)
  else if name = "Addr" then (0, { b with addrs := { addrs with addr := some value } })
  else if name = "Port" then
    match addrs.addr with
    | some addr =>
      let (af, spec) := proxyspecSetListenAddr env spec addr value b.natengine
      (0, { b with spec, addrs := { addrs with af } })
    | none => (-1, b)
  else if name = "DivertAddr" then
    (0, { b with addrs := { addrs with divertAddr := some value } })
  else if name = "DivertPort" then
    b.withSpec (proxyspecSetDivertAddr env spec (addrs.divertAddr.getD "127.0.0.1") value)
  else if name = "ReturnAddr" then b.withSpec (proxyspecSetReturnAddr env spec value)
  else if name = "TargetAddr" then
    (0, { b with addrs := { addrs with targetAddr := some value } })
  else if name = "TargetPort" then
    match addrs.targetAddr with
    | some target => b.withSpec (proxyspecSetTargetAddr env spec target value addrs.af)
    | none => (-1, b)
  else if name = "SNIPort" then b.withSpec (proxyspecSetSniPort spec value)
  else if name = "NatEngine" then b.withSpec (proxyspecSetNatengine env spec value)
  else if name = "\x7d" then
    if addrs.addr.isNone ∨ addrs.af = 0 then (-1, b) else (2, b)
  else
    let (rc, s) := setOption env ⟨spec.opts, b.natengine, none⟩ name value lineNum
    (rc, { b with spec := { spec with opts := s.opts }, natengine := s.natengine })

/-- How the line loop of `load_proxyspec_struct` stops: at a failing line,
at the closing brace, or at the end of the stream. -/
inductive BlockEnd
  | failed
  | closed
  | eof
deriving DecidableEq, Repr

/-- The line loop of `load_proxyspec_struct`: how it stopped, the block state,
the shared line counter, and the number of lines read from the stream. -/
def blockLoop (env : Env) (b : BlockState) (lineNum : Nat) :
    List String → BlockEnd × BlockState × Nat × Nat
  | [] => (.eof, b, lineNum, 0)
  | line :: rest =>
    let lineNum := lineNum + 1
    match directive? line with
    | none =>
      let (e, b, lineNum, read) := blockLoop env b lineNum rest
      (e, b, lineNum, read + 1)
    | some name =>
      match getNameValue name ' ' with
      | none => (.failed, b, lineNum, 1)
      | some (name, value) =>
        let (rc, b) := setProxyspecOption env b name value lineNum
        if rc = -1 then (.failed, b, lineNum, 1)
        else if rc = 2 then (.closed, b, lineNum, 1)
        else
          let (e, b, lineNum, read) := blockLoop env b lineNum rest
          (e, b, lineNum, read + 1)

/-- The name and value the line loop of `load_proxyspec_struct` reads from a
line. -/
def blockDirective (line : String) : Option (String × String) :=
  (directive? line).bind (getNameValue · ' ')

/-- `load_proxyspec_struct` on the stream `f` (`none` for `NULL`): the return
code, the context with the new listener at the head of `global->spec`, the
line counter, and the number of lines read.  The stream is first touched by
the line loop, after the listener is created. -/
def loadProxyspecStruct (env : Env) (c : Conf) (lineNum : Nat)
    (f : Option (List String)) : Except Fault (Int × Conf × Nat × Nat) :=
  match proxyspecNew env c.global c.tmp with
  | none => pure (-1, c, lineNum, 0)
  | some spec =>
    let (rc, spec) := proxyspecSetReturnAddr env spec "127.0.0.1"
    if rc = -1 then pure (-1, { c with global := c.global.push spec }, lineNum, 0)
    else
      match f with
      | none => .error .nullStream
      | some lines =>
        let (e, b, lineNum, read) := blockLoop env ⟨spec, c.natengine, .empty⟩ lineNum lines
        let spec := if e = .closed then setDivert b.spec c.tmp.split else b.spec
        pure (if e = .closed then 0 else -1,
          { c with global := c.global.push spec, natengine := b.natengine }, lineNum, read)

/-- A block whose `Port` does not resolve is accepted: the failed family `-1`
passes the closing brace's `!af` test, and the listener has no listen
address. -/
theorem loadProxyspecStruct_accepts_unresolved_port :
    (loadProxyspecStruct Env.sample (Conf.init 2048 (some "ipfw") false) 0
        (some ["Addr 127.0.0.1\n", "Port http\n", "\x7d\n"])).map
      (fun r => (r.1, r.2.1.global.spec.map Proxyspec.listenAddrlen)) = .ok (0, [0]) :=
  rfl

/-- A `NATEngine` line inside a block changes the default NAT engine that
later listeners get. -/
theorem loadProxyspecStruct_changes_default_natengine :
    (loadProxyspecStruct Env.sample (Conf.init 2048 (some "ipfw") false) 0
        (some ["Addr 127.0.0.1\n", "Port 8080\n", "NATEngine pf\n", "\x7d\n"])).map
      (fun r => (r.1, r.2.1.natengine)) = .ok (0, some "pf") :=
  rfl

section Frame

variable {env : Env} {c : Conf} {lineNum : Nat} {f : Option (List String)}

/-- The only fault of a block is reading the `NULL` stream. -/
theorem loadProxyspecStruct_fault {e : Fault}
    (h : loadProxyspecStruct env c lineNum f = .error e) : e = .nullStream := by
  dsimp only [loadProxyspecStruct] at h
  repeat' split at h
  all_goals cases h <;> rfl

/-- A block changes nothing but the listener list, which it extends by at
most one listener in front, and the default NAT engine. -/
theorem loadProxyspecStruct_frame {r : Int × Conf × Nat × Nat}
    (h : loadProxyspecStruct env c lineNum f = .ok r) :
    ∃ spec, r.2.1 = { c with global := c.global.push spec, natengine := r.2.1.natengine } := by
  dsimp only [loadProxyspecStruct] at h
  repeat' split at h
  · cases h; exact ⟨none, rfl⟩
  all_goals cases h <;> exact ⟨some _, rfl⟩

/-- A block never touches `tmp_global_opts`. -/
theorem loadProxyspecStruct_tmp {r : Int × Conf × Nat × Nat}
    (h : loadProxyspecStruct env c lineNum f = .ok r) : r.2.1.tmp = c.tmp := by
  obtain ⟨_, hframe⟩ := loadProxyspecStruct_frame h
  rw [hframe]

end Frame

/-! ## Diverting

A listener diverts when its options say so (`Divert yes`, inherited from the
global options or set in the block) and `set_divert` at the closing brace
leaves it: out of split mode, and with a divert address, which only a
`DivertPort` line sets. -/

/-- The divert setting that directives leave, from the `inherited` one: that
of the last `Divert yes` or `Divert no` among them. -/
def divertSetting (inherited : Bool) (ds : List (String × String)) : Bool :=
  ((ds.filterMap fun d => if d.1 = "Divert" then isYesno d.2 else none).getLast?).getD inherited

@[simp] theorem divertSetting_nil (inherited : Bool) : divertSetting inherited [] = inherited :=
  rfl

theorem divertSetting_cons (inherited : Bool) (name value : String)
    (ds : List (String × String)) :
    divertSetting inherited ((name, value) :: ds) =
      divertSetting (if name = "Divert" then (isYesno value).getD inherited else inherited) ds := by
  unfold divertSetting
  by_cases hname : name = "Divert"
  · cases h : isYesno value <;>
      simp only [List.filterMap_cons, hname, h, ↓reduceIte, List.getLast?_cons, Option.getD_some,
        Option.getD_none]
  · simp only [List.filterMap_cons, hname, ↓reduceIte]

/-- The directives `(name, value) :: ds` have a `DivertPort` line when `name`
is one or `ds` has one. -/
theorem exists_divertPort_cons (name value : String) (ds : List (String × String)) :
    (∃ v, ("DivertPort", v) ∈ (name, value) :: ds) ↔
      name = "DivertPort" ∨ ∃ v, ("DivertPort", v) ∈ ds := by
  simp only [List.mem_cons, Prod.mk.injEq, exists_or, exists_and_left, exists_eq, and_true,
    @eq_comm _ "DivertPort" name]

section Divert

variable {env : Env} {b : BlockState} {name value : String} {lineNum : Nat}

/-- A line sets the listener's divert setting as `set_option` does. -/
theorem setProxyspecOption_divert :
    (setProxyspecOption env b name value lineNum).2.spec.opts.divert =
      if name = "Divert" then (isYesno value).getD b.spec.opts.divert
      else b.spec.opts.divert := by
  split_ifs with hname
  · -- `Divert` is no directive of the listener's own, it goes to `set_option`
    subst hname
    by_cases hv : value = ""
    · simp [setProxyspecOption, hv, isYesno]
    · simp only [setProxyspecOption, hv, String.reduceEq, ↓reduceIte, false_and, ne_eq,
        not_false_eq_true, and_true]
      exact (setOption_divert env _ "Divert" value lineNum).trans (if_pos rfl)
  · obtain ⟨P, hP⟩ : ∃ P : Int × BlockState → Prop,
        P = fun r => r.2.spec.opts.divert = b.spec.opts.divert := ⟨_, rfl⟩
    suffices P (setProxyspecOption env b name value lineNum) by rwa [hP] at this
    dsimp only [setProxyspecOption]
    repeat' (apply iteInduction (motive := P) <;> intro _)
    all_goals subst hP
    all_goals first
      | rfl
      | exact setOption_divert_of_ne hname
      | ((try split) <;> simp only [BlockState.withSpec, proxyspecSetProto_opts,
          proxyspecSetListenAddr_opts, proxyspecSetDivertAddr_opts, proxyspecSetReturnAddr_opts,
          proxyspecSetTargetAddr_opts, proxyspecSetSniPort_opts, proxyspecSetNatengine_opts])

/-- A `DivertPort` line that does not fail sets the divert address. -/
theorem setProxyspecOption_divertPort {rc : Int} {b' : BlockState}
    (hs : setProxyspecOption env b "DivertPort" value lineNum = (rc, b')) (hrc : rc ≠ -1) :
    b'.spec.connDstAddr.isSome := by
  by_cases hv : value = ""
  · simp only [setProxyspecOption, hv, ne_eq, String.reduceEq, not_false_eq_true, and_self,
      ↓reduceIte, Prod.mk.injEq] at hs
    exact absurd hs.1.symm hrc
  simp only [setProxyspecOption, hv, String.reduceEq, ↓reduceIte, false_and,
    BlockState.withSpec] at hs
  unfold proxyspecSetDivertAddr at hs
  split at hs
  · cases hs; exact absurd rfl hrc
  · cases hs; rfl

/-- No other line touches the divert address. -/
theorem setProxyspecOption_connDstAddr (hname : name ≠ "DivertPort") :
    (setProxyspecOption env b name value lineNum).2.spec.connDstAddr = b.spec.connDstAddr := by
  obtain ⟨P, hP⟩ : ∃ P : Int × BlockState → Prop,
      P = fun r => r.2.spec.connDstAddr = b.spec.connDstAddr := ⟨_, rfl⟩
  suffices P (setProxyspecOption env b name value lineNum) by rwa [hP] at this
  dsimp only [setProxyspecOption]
  repeat' (apply iteInduction (motive := P) <;> intro _)
  all_goals subst hP
  all_goals first
    | exact absurd ‹name = "DivertPort"› hname
    | ((try split) <;> simp only [BlockState.withSpec, proxyspecSetProto_connDstAddr,
        proxyspecSetListenAddr_connDstAddr, proxyspecSetReturnAddr_connDstAddr,
        proxyspecSetTargetAddr_connDstAddr, proxyspecSetSniPort_connDstAddr,
        proxyspecSetNatengine_connDstAddr])

/-- A line that does not fail leaves a divert address exactly when one was
set before or it is a `DivertPort` line. -/
theorem setProxyspecOption_connDstAddr_isSome {rc : Int} {b' : BlockState}
    (hs : setProxyspecOption env b name value lineNum = (rc, b')) (hrc : rc ≠ -1) :
    b'.spec.connDstAddr.isSome ↔ b.spec.connDstAddr.isSome ∨ name = "DivertPort" := by
  by_cases hname : name = "DivertPort"
  · subst hname
    simp only [setProxyspecOption_divertPort hs hrc, or_true]
  · have hkeep := congrArg (·.2.spec.connDstAddr) hs
    simp only [setProxyspecOption_connDstAddr hname] at hkeep
    simp only [← hkeep, hname, or_false]

/-- The line loop of a block that closes leaves the divert setting of the last
`Divert yes` or `Divert no` among the lines it read, and a divert address
exactly when it had one or read a `DivertPort` line. -/
theorem blockLoop_divert {lines : List String} :
    ∀ {b lineNum b' lineNum' read}, blockLoop env b lineNum lines = (.closed, b', lineNum', read) →
      b'.spec.opts.divert =
          divertSetting b.spec.opts.divert ((lines.take read).filterMap blockDirective) ∧
        (b'.spec.connDstAddr.isSome ↔ b.spec.connDstAddr.isSome ∨
          ∃ value, ("DivertPort", value) ∈ (lines.take read).filterMap blockDirective) := by
  induction lines with
  | nil => intro b lineNum b' lineNum' read h; cases h
  | cons line rest ih =>
    intro b lineNum b' lineNum' read h
    rw [blockLoop] at h
    split at h
    · -- a line without a directive is passed over
      rename_i hdir
      split at h
      rename_i heq
      cases h
      have hline : blockDirective line = none := by simp [blockDirective, hdir]
      simpa [List.take_succ_cons, hline] using ih heq
    · rename_i hdir
      split at h
      · cases h
      rename_i name value hnv
      have hline : blockDirective line = some (name, value) := by
        simp [blockDirective, hdir, hnv]
      split at h
      rename_i rc b₁ hs
      have hstep := congrArg (·.2.spec.opts.divert) hs
      simp only [setProxyspecOption_divert] at hstep
      split_ifs at h with hfail hclose
      · cases h
      · -- the closing brace
        cases h
        have hdst := setProxyspecOption_connDstAddr_isSome hs hfail
        simp only [List.take_succ_cons, List.take_zero, List.filterMap_cons, List.filterMap_nil,
          hline, divertSetting_cons, divertSetting_nil, ← hstep, hdst, exists_divertPort_cons,
          List.not_mem_nil, exists_false, or_false, and_self]
      · split at h
        rename_i heq
        cases h
        obtain ⟨ihd, ihc⟩ := ih heq
        have hdst := setProxyspecOption_connDstAddr_isSome hs hfail
        simp only [List.take_succ_cons, List.filterMap_cons, hline, divertSetting_cons, ← hstep,
          ihd, ihc, hdst, exists_divertPort_cons, or_assoc, true_and]

end Divert

section Loaded

variable {env : Env} {c : Conf} {lineNum : Nat}

/-- A block that loads puts one listener in front, and that listener diverts
exactly when split mode is off, the block has a `DivertPort` line, and the
last `Divert yes` or `Divert no` of the block says yes, or, without one, the
global options do. -/
theorem loadProxyspecStruct_divert {lines : List String} {c' : Conf} {lineNum' read : Nat}
    (h : loadProxyspecStruct env c lineNum (some lines) = .ok (0, c', lineNum', read)) :
    ∃ spec, c'.global.spec = spec :: c.global.spec ∧
      (spec.opts.divert = true ↔ c.tmp.split = false ∧
        (∃ value, ("DivertPort", value) ∈ (lines.take read).filterMap blockDirective) ∧
        divertSetting c.global.opts.divert ((lines.take read).filterMap blockDirective) =
          true) := by
  rcases hnew : proxyspecNew env c.global c.tmp with _ | spec₀
  · simp [loadProxyspecStruct, hnew, pure, Except.pure] at h
  obtain ⟨o, hcopy, rfl⟩ := Option.map_eq_some'.mp hnew
  rcases hret : proxyspecSetReturnAddr env (Proxyspec.empty o) "127.0.0.1" with ⟨rc₀, spec₁⟩
  have hopts : spec₁.opts = o := by
    simpa [Proxyspec.empty] using (congrArg (·.2.opts) hret).symm
  have hdst : spec₁.connDstAddr = none := by
    simpa [Proxyspec.empty] using (congrArg (·.2.connDstAddr) hret).symm
  by_cases h0 : rc₀ = -1
  · simp [loadProxyspecStruct, hnew, hret, h0, pure, Except.pure] at h
  rcases hb : blockLoop env ⟨spec₁, c.natengine, .empty⟩ lineNum lines with ⟨e, b, l, r⟩
  simp only [loadProxyspecStruct, hnew, hret, h0, hb, ↓reduceIte] at h
  by_cases he : e = .closed
  · subst he
    simp only [↓reduceIte, pure, Except.pure, Except.ok.injEq, Prod.mk.injEq] at h
    obtain ⟨-, rfl, -, rfl⟩ := h
    obtain ⟨hdiv, hconn⟩ := blockLoop_divert hb
    refine ⟨_, rfl, ?_⟩
    rw [setDivert_divert, hdiv, ← globalOptsCopy_divert hcopy, ← hopts,
      Proxyspec.connDstAddrlen_ne_zero_iff, hconn]
    simp [hdst]
  · simp [he, pure, Except.pure] at h

/-- A block with a divert port, whose `Divert no` a later `Divert yes`
overrides. -/
theorem loadProxyspecStruct_divert_sample :
    ∃ c' lineNum' read, loadProxyspecStruct Env.sample (Conf.init 2048 none false) 0
        (some ["Addr 127.0.0.1\n", "Port 8443\n", "DivertPort 8080\n", "Divert no\n",
          "Divert yes\n", "\x7d\n"]) = .ok (0, c', lineNum', read) ∧
      ∃ spec, c'.global.spec = spec :: (Conf.init 2048 none false).global.spec ∧
        (spec.opts.divert = true ↔ (Conf.init 2048 none false).tmp.split = false ∧
          (∃ value, ("DivertPort", value) ∈
            (["Addr 127.0.0.1\n", "Port 8443\n", "DivertPort 8080\n", "Divert no\n",
              "Divert yes\n", "\x7d\n"].take read).filterMap blockDirective) ∧
          divertSetting (Conf.init 2048 none false).global.opts.divert
            ((["Addr 127.0.0.1\n", "Port 8443\n", "DivertPort 8080\n", "Divert no\n",
              "Divert yes\n", "\x7d\n"].take read).filterMap blockDirective) = true) := by
  have hrun : loadProxyspecStruct Env.sample (Conf.init 2048 none false) 0
      (some ["Addr 127.0.0.1\n", "Port 8443\n", "DivertPort 8080\n", "Divert no\n",
        "Divert yes\n", "\x7d\n"]) = .ok (0, _, _, _) := rfl
  exact ⟨_, _, _, hrun, loadProxyspecStruct_divert hrun⟩

end Loaded

/-! ## The shared line counter -/

/-- The line loop reads at most the lines it is given, and advances the shared
line counter by exactly the lines it read. -/
theorem blockLoop_read (env : Env) {b : BlockState} {lineNum : Nat} {lines : List String}
    {e : BlockEnd} {b' : BlockState} {lineNum' read : Nat}
    (h : blockLoop env b lineNum lines = (e, b', lineNum', read)) :
    read ≤ lines.length ∧ lineNum' = lineNum + read := by
  induction lines generalizing b lineNum e b' lineNum' read with
  | nil => cases h; simp
  | cons line rest ih =>
    rw [blockLoop] at h
    split at h
    · split at h
      rename_i heq
      cases h
      obtain ⟨h₁, h₂⟩ := ih heq
      simp only [List.length_cons]
      omega
    · split at h
      · cases h; simp
      · split at h
        split_ifs at h
        · cases h; simp
        · cases h; simp
        · split at h
          rename_i heq
          cases h
          obtain ⟨h₁, h₂⟩ := ih heq
          simp only [List.length_cons]
          omega

/-- A block hands back a line counter that has advanced by the lines it read,
and no more lines than the stream holds, so the file loop, which passes over
those lines, resumes right after the block with its counter on that line. -/
theorem loadProxyspecStruct_read {env : Env} {c c' : Conf} {lineNum lineNum' read : Nat}
    {f : Option (List String)} {rc : Int}
    (h : loadProxyspecStruct env c lineNum f = .ok (rc, c', lineNum', read)) :
    read ≤ (f.getD []).length ∧ lineNum' = lineNum + read := by
  unfold loadProxyspecStruct at h
  repeat' split at h
  all_goals cases h
  all_goals first | (subst_vars; exact blockLoop_read env ‹_›) | simp

/-! ## What a block accepts -/

/-- What the lines of a block have resolved: the family the last `Port` line
stored is `-1` (that `Port` failed), `0` (no `Port` yet) or positive, and
positive only with the listen address that `Port` resolved. -/
def BlockState.Resolved (b : BlockState) : Prop :=
  (b.addrs.af = -1 ∨ 0 ≤ b.addrs.af) ∧ (0 < b.addrs.af → b.spec.listenAddr.isSome)

section Accepted

variable {env : Env} {b : BlockState} {name value : String} {lineNum : Nat}

/-- No `Port` line yet, nothing to resolve. -/
theorem BlockState.resolved_empty (spec : Proxyspec) (natengine : Option String) :
    (BlockState.mk spec natengine .empty).Resolved :=
  ⟨.inr (Int.le_refl 0), fun h => absurd h (Int.lt_irrefl 0)⟩

/-- Past a `Port` line, the listener has its listen address unless that `Port`
failed. -/
theorem BlockState.Resolved.listenAddrlen (hb : b.Resolved) (haf : b.addrs.af ≠ 0) :
    b.addrs.af = -1 ∨ b.spec.listenAddrlen ≠ 0 := by
  obtain ⟨hneg | hnonneg, hpos⟩ := hb
  · exact .inl hneg
  · exact .inr ((Proxyspec.listenAddrlen_ne_zero_iff _).mpr (hpos (by omega)))

/-- A `Port` line stores the family `proxyspec_set_listen_addr` returns, with
the listener it returns. -/
theorem BlockState.resolved_port (env : Env) (b : BlockState) (addr port : String) :
    ({ b with
        spec := (proxyspecSetListenAddr env b.spec addr port b.natengine).2
        addrs := { b.addrs with
          af := (proxyspecSetListenAddr env b.spec addr port b.natengine).1 } } :
      BlockState).Resolved := by
  rcases proxyspecSetListenAddr_af env b.spec addr port b.natengine with h | ⟨h, h'⟩
  · refine ⟨.inl h, fun hp => ?_⟩
    dsimp only at hp; omega
  · exact ⟨.inr (Int.le_of_lt h), fun _ => h'⟩

/-- A setter that keeps the listen address keeps what the block has resolved. -/
theorem BlockState.withSpec_resolved {r : Int × Proxyspec} (hb : b.Resolved)
    (h : r.2.listenAddr = b.spec.listenAddr) : (b.withSpec r).2.Resolved :=
  ⟨hb.1, fun hp => h ▸ hb.2 hp⟩

/-- Every line keeps what the block has resolved. -/
theorem setProxyspecOption_resolved (hb : b.Resolved) :
    (setProxyspecOption env b name value lineNum).2.Resolved := by
  obtain ⟨P, hP⟩ : ∃ P : Int × BlockState → Prop, P = fun r => r.2.Resolved := ⟨_, rfl⟩
  suffices P (setProxyspecOption env b name value lineNum) by rwa [hP] at this
  dsimp only [setProxyspecOption]
  repeat' (apply iteInduction (motive := P) <;> intro _)
  all_goals subst hP; (try split) <;> try exact hb
  all_goals first
    | exact BlockState.resolved_port env b _ value
    | exact BlockState.withSpec_resolved hb (by simp)

/-- Under `filter.c`'s codes a line returns `-1` or `0`, or it is a closing
brace that returns `2`, leaves the block state alone, and comes after an
`Addr` line and a `Port` line that stored a nonzero family. -/
theorem setProxyspecOption_code (hfilter : env.FilterCodes) :
    ((setProxyspecOption env b name value lineNum).1 = 2 ∧
        (setProxyspecOption env b name value lineNum).2 = b ∧
        b.addrs.addr.isSome ∧ b.addrs.af ≠ 0) ∨
      (setProxyspecOption env b name value lineNum).1 = -1 ∨
      (setProxyspecOption env b name value lineNum).1 = 0 := by
  obtain ⟨P, hP⟩ : ∃ P : Int × BlockState → Prop, P = fun r =>
      (r.1 = 2 ∧ r.2 = b ∧ b.addrs.addr.isSome ∧ b.addrs.af ≠ 0) ∨ r.1 = -1 ∨ r.1 = 0 := ⟨_, rfl⟩
  suffices P (setProxyspecOption env b name value lineNum) by rwa [hP] at this
  dsimp only [setProxyspecOption]
  repeat' (apply iteInduction (motive := P) <;> intro _)
  all_goals subst hP; (try split) <;>
    simp only [BlockState.withSpec, or_true, true_or, proxyspecSetProto_code,
      proxyspecSetDivertAddr_code, proxyspecSetReturnAddr_code, proxyspecSetTargetAddr_code,
      proxyspecSetSniPort_code, proxyspecSetNatengine_code,
      setOption_code hfilter ⟨b.spec.opts, b.natengine, none⟩ name value lineNum]
  -- the closing brace, after `Addr` and a `Port`
  rename_i hcond
  refine .inl ⟨trivial, trivial, ?_⟩
  cases h : b.addrs.addr <;> simp_all

/-- The line loop stops at a closing brace only after an `Addr` line and a
`Port` line; the listener then has its listen address unless the last `Port`
failed, whose `-1` the brace's `!af` test lets through. -/
theorem blockLoop_closed (hfilter : env.FilterCodes) {lines : List String} :
    ∀ {b lineNum}, b.Resolved → (blockLoop env b lineNum lines).1 = .closed →
      (blockLoop env b lineNum lines).2.1.addrs.addr.isSome ∧
        ((blockLoop env b lineNum lines).2.1.addrs.af = -1 ∨
          (blockLoop env b lineNum lines).2.1.spec.listenAddrlen ≠ 0) := by
  induction lines with
  | nil => intro b lineNum _ h; cases h
  | cons line rest ih =>
    intro b lineNum hb h
    simp only [blockLoop] at h ⊢
    split at h
    · exact ih hb h
    · split at h
      · cases h
      · split_ifs at h ⊢ with hfail hclose
        · -- the closing brace
          rename_i name value _
          rcases @setProxyspecOption_code env b name value (lineNum + 1) hfilter with
            ⟨-, hkeep, haddr, haf⟩ | h' | h' <;> try omega
          dsimp only
          rw [hkeep]
          exact ⟨haddr, hb.listenAddrlen haf⟩
        · exact ih (setProxyspecOption_resolved hb) h

/-- The smallest block that closes. -/
theorem blockLoop_closed_sample :
    (blockLoop Env.sample ⟨Proxyspec.empty optsNew, none, .empty⟩ 0
        ["Addr 127.0.0.1\n", "Port 8443\n", "\x7d\n"]).2.1.addrs.addr.isSome ∧
      ((blockLoop Env.sample ⟨Proxyspec.empty optsNew, none, .empty⟩ 0
          ["Addr 127.0.0.1\n", "Port 8443\n", "\x7d\n"]).2.1.addrs.af = -1 ∨
        (blockLoop Env.sample ⟨Proxyspec.empty optsNew, none, .empty⟩ 0
          ["Addr 127.0.0.1\n", "Port 8443\n", "\x7d\n"]).2.1.spec.listenAddrlen ≠ 0) :=
  blockLoop_closed Env.sample_filterCodes (BlockState.resolved_empty _ _) rfl

end Accepted

/-! ## Line numbers, the `include` flag, and the end of the stream

What the `Include` and `-o` theorems of `Conf.Compose` need of a block: it
reads the line number only through `filter.c`, never reads the `include` flag,
and once it has loaded it has read no line past its closing brace. -/

section Composition

variable {env : Env}

/-- A block line reads the line number only through `filter.c`. -/
theorem setProxyspecOption_lineNum (hfree : env.LineFree) (b : BlockState) (name value : String)
    (lineNum : Nat) :
    setProxyspecOption env b name value lineNum = setProxyspecOption env b name value 0 := by
  simp only [setProxyspecOption, setOption_lineNum hfree _ _ _ lineNum]

/-- The line loop started on any line ends as it does on line `0`, with its
counter advanced by the lines it read. -/
theorem blockLoop_lineNum (hfree : env.LineFree) (lines : List String) (b : BlockState)
    (lineNum : Nat) :
    blockLoop env b lineNum lines =
      ((blockLoop env b 0 lines).1, (blockLoop env b 0 lines).2.1,
        lineNum + (blockLoop env b 0 lines).2.2.2, (blockLoop env b 0 lines).2.2.2) := by
  induction lines generalizing b lineNum with
  | nil => rfl
  | cons line rest ih =>
    simp only [blockLoop, setProxyspecOption_lineNum hfree _ _ _ (lineNum + 1),
      setProxyspecOption_lineNum hfree _ _ _ (0 + 1), ih _ (lineNum + 1), ih _ (0 + 1)]
    split
    · simp only [Prod.mk.injEq, true_and, and_true]; omega
    · split
      · simp
      · split_ifs <;> simp only [Prod.mk.injEq, true_and, and_true]
        omega


/-- The same holds of the whole block. -/
theorem loadProxyspecStruct_lineNum (hfree : env.LineFree) (c : Conf) (lineNum : Nat)
    (f : Option (List String)) :
    loadProxyspecStruct env c lineNum f = (loadProxyspecStruct env c 0 f).map
      fun r => (r.1, r.2.1, lineNum + r.2.2.2, r.2.2.2) := by
  simp only [loadProxyspecStruct, blockLoop_lineNum hfree _ _ lineNum]
  repeat' split
  all_goals rfl

/-- A block never reads the `include` flag, and leaves it as it found it. -/
theorem loadProxyspecStruct_withInclude (c : Conf) (lineNum : Nat) (f : Option (List String))
    (b : Bool) :
    loadProxyspecStruct env (c.withInclude b) lineNum f =
      (loadProxyspecStruct env c lineNum f).map fun r => (r.1, r.2.1.withInclude b, r.2.2) := by
  have hnew : proxyspecNew env (c.withInclude b).global (c.withInclude b).tmp =
      proxyspecNew env c.global c.tmp :=
    rfl
  simp only [loadProxyspecStruct, hnew]
  split
  · rfl
  · split_ifs
    · rfl
    · split <;> rfl

/-- A line loop that stops before the end of its lines reads the same from a
longer stream. -/
theorem blockLoop_append {lines : List String} (more : List String) :
    ∀ {b lineNum}, (blockLoop env b lineNum lines).1 ≠ .eof →
      blockLoop env b lineNum (lines ++ more) = blockLoop env b lineNum lines := by
  induction lines with
  | nil => intro b lineNum h; exact absurd rfl h
  | cons line rest ih =>
    intro b lineNum h
    rw [blockLoop] at h
    rw [List.cons_append, blockLoop, blockLoop]
    split
    · rename_i heq
      simp only [heq] at h
      rw [ih h]
    · rename_i heq
      simp only [heq] at h
      split
      · rfl
      · rename_i name value heq'
        rcases hs : setProxyspecOption env b name value (lineNum + 1) with ⟨rc, b'⟩
        simp only [heq', hs] at h ⊢
        split_ifs at h ⊢
        · rfl
        · rfl
        · rw [ih h]

/-- A block that loads within `lines` loads the same from `lines ++ more`:
it stopped at its closing brace, before `more`. -/
theorem loadProxyspecStruct_append {c c' : Conf} {lineNum lineNum' read : Nat} {rc : Int}
    {lines : List String} (more : List String)
    (h : loadProxyspecStruct env c lineNum (some lines) = .ok (rc, c', lineNum', read))
    (hrc : rc ≠ -1) :
    loadProxyspecStruct env c lineNum (some (lines ++ more)) = .ok (rc, c', lineNum', read) := by
  rcases hnew : proxyspecNew env c.global c.tmp with _ | spec
  · simp only [loadProxyspecStruct, hnew] at h
    cases h; exact absurd rfl hrc
  rcases hret : proxyspecSetReturnAddr env spec "127.0.0.1" with ⟨rc₀, spec'⟩
  by_cases h0 : rc₀ = -1
  · simp only [loadProxyspecStruct, hnew, hret, h0, ↓reduceIte] at h
    cases h; exact absurd rfl hrc
  simp only [loadProxyspecStruct, hnew, hret, h0, ↓reduceIte] at h ⊢
  rcases hb : blockLoop env ⟨spec', c.natengine, .empty⟩ lineNum lines with ⟨e, b, l, r⟩
  simp only [hb] at h
  have he : e ≠ .eof := by
    rintro rfl
    cases h; exact hrc rfl
  rw [blockLoop_append more (by rw [hb]; exact he), hb]
  exact h

end Composition

end SSLproxy
