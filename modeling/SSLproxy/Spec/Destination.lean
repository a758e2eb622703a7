import SSLproxy.Spec.Parse

/-!
# One destination per one-line listener

The one-line grammar ends a listener with `[<nat-engine> | <target-addr>
<target-port> | sni <port>]`: the three ways a connection finds its
destination are alternatives.  The `proxyspec_parse` automaton passes through
`case 4` once per listener and takes one branch there, so every listener it
creates has at most one of a target address and an SNI lookup.  Both drop the
NAT engine that `proxyspec_set_listen_addr` installed, and an SNI lookup is
only set on an SSL listener with a nonzero port.

The property is one of the automaton: a `ProxySpec` block may give
`TargetPort`, `SNIPort` and `Proto` in any order, and so it may end with both
destinations, or with an SNI lookup on a listener that no longer speaks SSL.
-/

namespace SSLproxy

/-! ## One destination per listener -/

/-- A listener reaches its destination in one way: through a target address,
which drops the NAT engine, or through an SNI lookup, only on an SSL listener
with a nonzero port and also without NAT engine, or else through the NAT
engine it holds. -/
def Proxyspec.OneDestination (spec : Proxyspec) : Prop :=
  (spec.connectAddr.isSome → spec.dns = false ∧ spec.natengine = none) ∧
    (spec.dns = true → spec.ssl = true ∧ spec.sniPort ≠ 0 ∧ spec.natengine = none)

/-- A listener that has neither a target address nor an SNI lookup yet. -/
def Proxyspec.Fresh (spec : Proxyspec) : Prop :=
  spec.connectAddr = none ∧ spec.dns = false

theorem Proxyspec.Fresh.oneDestination {spec : Proxyspec} (h : spec.Fresh) :
    spec.OneDestination := by
  obtain ⟨h₁, h₂⟩ := h
  simp [Proxyspec.OneDestination, h₁, h₂]

theorem Proxyspec.Fresh.some {spec : Proxyspec} (h : spec.Fresh) :
    ∀ s ∈ some spec, s.OneDestination := fun _ hs => by cases hs; exact h.oneDestination

theorem Proxyspec.OneDestination.some {spec : Proxyspec} (h : spec.OneDestination) :
    ∀ s ∈ some spec, s.OneDestination := fun _ hs => by cases hs; exact h

theorem Proxyspec.fresh_empty (opts : Opts) : (Proxyspec.empty opts).Fresh := ⟨rfl, rfl⟩

section Setters

variable {env : Env} {spec : Proxyspec}

theorem Proxyspec.Fresh.setProto (h : spec.Fresh) (value : String) :
    (proxyspecSetProto spec value).2.Fresh := by
  unfold proxyspecSetProto
  dsimp only
  repeat' (apply iteInduction (motive := fun r : Int × Proxyspec => r.2.Fresh) <;> intro _)
  all_goals exact h

theorem Proxyspec.Fresh.setListenAddr (h : spec.Fresh) (addr port : String)
    (natengine : Option String) : (proxyspecSetListenAddr env spec addr port natengine).2.Fresh := by
  unfold proxyspecSetListenAddr; split <;> exact h

theorem Proxyspec.Fresh.setDivertAddr (h : spec.Fresh) (addr port : String) :
    (proxyspecSetDivertAddr env spec addr port).2.Fresh := by
  unfold proxyspecSetDivertAddr; split <;> exact h

theorem Proxyspec.Fresh.setReturnAddr (h : spec.Fresh) (addr : String) :
    (proxyspecSetReturnAddr env spec addr).2.Fresh := by
  unfold proxyspecSetReturnAddr; split <;> exact h

theorem Proxyspec.Fresh.setNatengine (h : spec.Fresh) (natengine : String) :
    (proxyspecSetNatengine env spec natengine).2.Fresh := by
  unfold proxyspecSetNatengine; split <;> exact h

/-- A target address makes the one destination. -/
theorem Proxyspec.Fresh.setTargetAddr (h : spec.Fresh) (addr port : String) (af : Int) :
    (proxyspecSetTargetAddr env spec addr port af).2.OneDestination := by
  unfold proxyspecSetTargetAddr
  split
  · exact h.oneDestination
  · exact ⟨fun _ => ⟨h.2, rfl⟩, fun hdns => absurd hdns (by simp [h.2])⟩

/-- An SNI port makes the one destination, on an SSL listener only. -/
theorem Proxyspec.Fresh.setSniPort (h : spec.Fresh) (port : String) :
    (proxyspecSetSniPort spec port).2.OneDestination := by
  unfold proxyspecSetSniPort
  dsimp only
  split_ifs with hssl hport
  · exact h.oneDestination
  · exact Proxyspec.Fresh.oneDestination ⟨h.1, h.2⟩
  · refine ⟨fun hc => absurd hc (by simp [h.1]), fun _ => ⟨by simpa using hssl, hport, rfl⟩⟩

theorem setDivert_oneDestination (h : spec.OneDestination) (split : Bool) :
    (setDivert spec split).OneDestination := by
  unfold setDivert; split <;> exact h

end Setters

/-! ## The one-line parser -/

/-- `g` has the listeners of `g₀` and, in front of them, only listeners that
satisfy `P`. -/
def Global.Adds (P : Proxyspec → Prop) (g₀ g : Global) : Prop :=
  ∃ new, g.spec = new ++ g₀.spec ∧ ∀ spec ∈ new, P spec

namespace Global.Adds

variable {P : Proxyspec → Prop} {g₀ g₁ g₂ : Global}

theorem refl (g : Global) : g.Adds P g := ⟨[], rfl, fun _ h => nomatch h⟩

theorem trans (h₁ : g₀.Adds P g₁) (h₂ : g₁.Adds P g₂) : g₀.Adds P g₂ := by
  obtain ⟨n₁, h₁, hn₁⟩ := h₁
  obtain ⟨n₂, h₂, hn₂⟩ := h₂
  refine ⟨n₂ ++ n₁, by rw [h₂, h₁, List.append_assoc], fun s hs => ?_⟩
  rcases List.mem_append.mp hs with hs | hs
  · exact hn₂ s hs
  · exact hn₁ s hs

theorem push (h : g₀.Adds P g₁) {spec : Option Proxyspec} (hspec : ∀ s ∈ spec, P s) :
    g₀.Adds P (g₁.push spec) := by
  obtain ⟨new, h, hnew⟩ := h
  cases spec with
  | none => exact ⟨new, h, hnew⟩
  | some spec =>
    exact ⟨spec :: new, by simp [Global.push, h], List.forall_mem_cons.mpr ⟨hspec spec rfl, hnew⟩⟩

end Global.Adds

/-- Before the destination the listener of a state is fresh; in `case 0` the
listener last begun has its one destination. -/
def ParseState.OneDestination : ParseState → Prop
  | .proto spec => ∀ s ∈ spec, s.OneDestination
  | .listenAddr spec | .listenPort spec _ | .divert spec _ | .target spec _
  | .targetPort spec _ _ | .sniPort spec => spec.Fresh

/-- A step from `global` adds only listeners with one destination, and goes on
in a state that satisfies `ParseState.OneDestination`. -/
def ParseStep.OneDestination (global : Global) : ParseStep → Prop
  | .fail g => global.Adds Proxyspec.OneDestination g
  | .next state g _ => state.OneDestination ∧ global.Adds Proxyspec.OneDestination g

theorem ParseStep.OneDestination.of_adds {global g : Global} {step : ParseStep}
    (hg : global.Adds Proxyspec.OneDestination g) (h : step.OneDestination g) :
    step.OneDestination global := by
  cases step with
  | fail => exact hg.trans h
  | next => exact ⟨h.1, hg.trans h.2⟩

section Parse

variable {env : Env} {natengine : Option String} {tmp : TmpGlobalOpts} {global : Global}

theorem proxyspecNew_fresh {spec : Proxyspec} (h : proxyspecNew env global tmp = some spec) :
    spec.Fresh := by
  obtain ⟨opts, -, rfl⟩ := Option.map_eq_some'.mp h
  exact Proxyspec.fresh_empty opts

theorem beginSpec_oneDestination (tok : String) :
    (beginSpec env tmp global tok).OneDestination global := by
  unfold beginSpec
  split
  · exact .refl _
  · rename_i spec hnew
    have hfresh := (proxyspecNew_fresh hnew).setProto tok
    rcases hs : proxyspecSetProto spec tok with ⟨rc, spec'⟩
    rw [hs] at hfresh
    dsimp only
    split_ifs
    · exact (Global.Adds.refl _).push hfresh.some
    · exact ⟨hfresh, .refl _⟩

theorem targetStep_oneDestination {spec : Proxyspec} {af : Int} {tok : String}
    {step : ParseStep} (hspec : spec.Fresh)
    (h : targetStep env natengine tmp global spec af tok = .ok step) :
    step.OneDestination global := by
  unfold targetStep at h
  split_ifs at h
  · cases h
    exact (beginSpec_oneDestination tok).of_adds ((Global.Adds.refl _).push hspec.some)
  · cases h; exact ⟨hspec, .refl _⟩
  · split at h
    · cases h
    · simp only at h
      split_ifs at h
      · cases h; exact (Global.Adds.refl _).push (hspec.setNatengine _).some
      · cases h; exact ⟨(hspec.setNatengine _).some, .refl _⟩
  · cases h; exact ⟨hspec, .refl _⟩

theorem proxyspecParseStep_oneDestination {state : ParseState} {tok : String}
    {rest : List String} {step : ParseStep} (hstate : state.OneDestination)
    (h : proxyspecParseStep env natengine tmp global state tok rest = .ok step) :
    step.OneDestination global := by
  cases state with
  | proto last =>
    cases h
    exact (beginSpec_oneDestination tok).of_adds ((Global.Adds.refl _).push hstate)
  | listenAddr spec => cases h; exact ⟨hstate, .refl _⟩
  | target spec af => exact targetStep_oneDestination hstate h
  | divert spec af =>
    simp only [proxyspecParseStep] at h
    split_ifs at h
    · cases h; exact (Global.Adds.refl _).push (hstate.setDivertAddr _ _).some
    · cases h; exact (Global.Adds.refl _).push ((hstate.setDivertAddr _ _).setReturnAddr _).some
    · cases h; exact ⟨(hstate.setDivertAddr _ _).setReturnAddr _, .refl _⟩
    · exact targetStep_oneDestination hstate h
  | listenPort spec addr =>
    simp only [proxyspecParseStep] at h
    split_ifs at h
    · cases h; exact (Global.Adds.refl _).push (hstate.setListenAddr _ _ _).some
    · cases h; exact ⟨hstate.setListenAddr _ _ _, .refl _⟩
  | targetPort spec af addr =>
    simp only [proxyspecParseStep] at h
    split_ifs at h
    · cases h; exact (Global.Adds.refl _).push (hstate.setTargetAddr _ _ _).some
    · cases h; exact ⟨(hstate.setTargetAddr _ _ _).some, .refl _⟩
  | sniPort spec =>
    simp only [proxyspecParseStep] at h
    split_ifs at h
    · cases h; exact (Global.Adds.refl _).push (hstate.setSniPort _).some
    · cases h; exact ⟨(hstate.setSniPort _).some, .refl _⟩

theorem proxyspecParseEnd_oneDestination {state : ParseState} (hstate : state.OneDestination) :
    global.Adds Proxyspec.OneDestination (proxyspecParseEnd tmp global state).2 := by
  cases state with
  | proto spec =>
    cases spec with
    | none => exact .refl _
    | some spec => exact (Global.Adds.refl _).push (setDivert_oneDestination (hstate spec rfl) _).some
  | divert spec _ | target spec _ =>
    exact (Global.Adds.refl _).push (setDivert_oneDestination hstate.oneDestination _).some
  | listenAddr spec | listenPort spec _ | targetPort spec _ _ | sniPort spec =>
    exact (Global.Adds.refl _).push hstate.some

theorem proxyspecParseLoop_oneDestination {argv : List String} :
    ∀ {state global skip rc g}, state.OneDestination →
      proxyspecParseLoop env natengine tmp state global skip argv = .ok (rc, g) →
        global.Adds Proxyspec.OneDestination g := by
  induction argv with
  | nil =>
    intro state global skip rc g hstate h
    have hend : proxyspecParseEnd tmp global state = (rc, g) := by
      cases skip <;> exact Except.ok.inj h
    have hadds : global.Adds Proxyspec.OneDestination (proxyspecParseEnd tmp global state).2 :=
      proxyspecParseEnd_oneDestination hstate
    rwa [hend] at hadds
  | cons tok rest ih =>
    intro state global skip rc g hstate h
    cases skip with
    | succ skip => exact ih hstate h
    | zero =>
      obtain ⟨step, hstep, h⟩ := Except.bind_eq_ok.mp h
      have hok := proxyspecParseStep_oneDestination hstate hstep
      cases step with
      | fail => cases h; exact hok
      | next => exact hok.2.trans (ih hok.1 h)

end Parse

/-- Every listener a run of `proxyspec_parse` creates, failing runs included,
has one destination: a target address, an SNI lookup on an SSL listener with a
nonzero port, or else its NAT engine. -/
theorem proxyspecParse_oneDestination {env : Env} {natengine : Option String}
    {global g : Global} {tmp : TmpGlobalOpts} {argv : List String} {rc : Int}
    (h : proxyspecParse env natengine global tmp argv = .ok (rc, g)) :
    ∃ new, g = { global with spec := new ++ global.spec } ∧
      ∀ spec ∈ new, spec.OneDestination := by
  obtain ⟨new, rfl⟩ := proxyspecParseLoop_extends h
  obtain ⟨new', hspec, hnew'⟩ := proxyspecParseLoop_oneDestination (by intro _ h; cases h) h
  obtain rfl := List.append_cancel_right hspec
  exact ⟨new, rfl, hnew'⟩

set_option maxRecDepth 2000 in
/-- Two listeners on one command line: an SNI lookup, then a target address. -/
theorem proxyspecParse_oneDestination_sample :
    ∃ rc g, proxyspecParse Env.sample (some "ipfw") (globalNew 2048)
        (Conf.init 2048 (some "ipfw") false).tmp
        ["ssl", "127.0.0.1", "8443", "sni", "443", "tcp", "127.0.0.1", "8080", "10.0.0.1", "80"] =
        .ok (rc, g) ∧ g.spec.length = 2 ∧
      ∃ new, g = { globalNew 2048 with spec := new ++ (globalNew 2048).spec } ∧
        ∀ spec ∈ new, spec.OneDestination := by
  have hrun : proxyspecParse Env.sample (some "ipfw") (globalNew 2048)
      (Conf.init 2048 (some "ipfw") false).tmp
      ["ssl", "127.0.0.1", "8443", "sni", "443", "tcp", "127.0.0.1", "8080", "10.0.0.1", "80"] =
      .ok (_, _) := rfl
  exact ⟨_, _, hrun, by decide, proxyspecParse_oneDestination hrun⟩

end SSLproxy
