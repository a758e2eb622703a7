import SSLproxy.Spec.Block

/-!
# Every listener speaks one protocol

`proxyspec_set_proto` clears the five protocol flags of a listener (`ssl`,
`http`, `upgrade`, `pop3`, `smtp`) and sets those of one of the nine keywords
`tcp`, `ssl`, `http`, `https`, `autossl`, `pop3`, `pop3s`, `smtp` and
`smtps`.  No other setter writes them.  So a listener speaks at most one
application protocol, and an `autossl` listener does not begin in SSL,
whichever way it was declared: on one line, parsed by the `proxyspec_parse`
automaton, or in a `ProxySpec` block, where `Proto` may come any number of
times.

This module proves it of every run of the automaton and of the block loop,
failing runs included: the listener a failing run leaves at the head of
`global->spec` speaks one protocol too.
-/

namespace SSLproxy

/-! ## One protocol per listener -/

/-- The five flags `proxyspec_set_proto` sets. -/
def Proxyspec.protoFlags (spec : Proxyspec) : Bool × Bool × Bool × Bool × Bool :=
  (spec.ssl, spec.http, spec.upgrade, spec.pop3, spec.smtp)

/-- A listener speaks at most one application protocol (HTTP, POP3, SMTP, or
the upgrade of `autossl`), and an `autossl` listener does not begin in SSL. -/
def Proxyspec.ProtoOk (spec : Proxyspec) : Prop :=
  [spec.http, spec.upgrade, spec.pop3, spec.smtp].count true ≤ 1 ∧
    (spec.upgrade = true → spec.ssl = false)

instance : DecidablePred Proxyspec.ProtoOk := fun _ => inferInstanceAs (Decidable (_ ∧ _))

theorem Proxyspec.ProtoOk.of_protoFlags {spec spec' : Proxyspec}
    (h : spec'.protoFlags = spec.protoFlags) (hspec : spec.ProtoOk) : spec'.ProtoOk := by
  simp only [Proxyspec.protoFlags, Prod.mk.injEq] at h
  obtain ⟨h₁, h₂, h₃, h₄, h₅⟩ := h
  simpa only [Proxyspec.ProtoOk, h₁, h₂, h₃, h₄, h₅] using hspec

theorem Proxyspec.ProtoOk.some {spec : Proxyspec} (h : spec.ProtoOk) :
    ∀ s ∈ some spec, s.ProtoOk := fun _ hs => by cases hs; exact h

theorem Proxyspec.protoOk_empty (opts : Opts) : (Proxyspec.empty opts).ProtoOk := by
  simp [Proxyspec.ProtoOk, Proxyspec.empty]

/-- Whatever the keyword, `proxyspec_set_proto` leaves one protocol: an
unknown keyword clears the flags. -/
theorem proxyspecSetProto_protoOk (spec : Proxyspec) (value : String) :
    (proxyspecSetProto spec value).2.ProtoOk := by
  unfold proxyspecSetProto
  dsimp only
  repeat' (apply iteInduction (motive := fun r : Int × Proxyspec => r.2.ProtoOk) <;> intro _)
  all_goals simp only [Proxyspec.ProtoOk]; decide

section Frame

variable {env : Env} {spec : Proxyspec}

@[simp] theorem proxyspecSetListenAddr_protoFlags {addr port : String} {natengine : Option String} :
    (proxyspecSetListenAddr env spec addr port natengine).2.protoFlags = spec.protoFlags := by
  unfold proxyspecSetListenAddr; split <;> rfl

@[simp] theorem proxyspecSetDivertAddr_protoFlags {addr port : String} :
    (proxyspecSetDivertAddr env spec addr port).2.protoFlags = spec.protoFlags := by
  unfold proxyspecSetDivertAddr; split <;> rfl

@[simp] theorem proxyspecSetReturnAddr_protoFlags {addr : String} :
    (proxyspecSetReturnAddr env spec addr).2.protoFlags = spec.protoFlags := by
  unfold proxyspecSetReturnAddr; split <;> rfl

@[simp] theorem proxyspecSetTargetAddr_protoFlags {addr port : String} {af : Int} :
    (proxyspecSetTargetAddr env spec addr port af).2.protoFlags = spec.protoFlags := by
  unfold proxyspecSetTargetAddr; split <;> rfl

@[simp] theorem proxyspecSetSniPort_protoFlags {port : String} :
    (proxyspecSetSniPort spec port).2.protoFlags = spec.protoFlags := by
  unfold proxyspecSetSniPort; dsimp only; split_ifs <;> rfl

@[simp] theorem proxyspecSetNatengine_protoFlags {natengine : String} :
    (proxyspecSetNatengine env spec natengine).2.protoFlags = spec.protoFlags := by
  unfold proxyspecSetNatengine; split <;> rfl

@[simp] theorem setDivert_protoFlags {split : Bool} :
    (setDivert spec split).protoFlags = spec.protoFlags := by
  unfold setDivert; split <;> rfl

end Frame

/-- Every listener of `global->spec` speaks one protocol. -/
def Global.ProtoOk (global : Global) : Prop :=
  ∀ spec ∈ global.spec, spec.ProtoOk

theorem Global.ProtoOk.push {global : Global} {spec : Option Proxyspec} (hg : global.ProtoOk)
    (hspec : ∀ s ∈ spec, s.ProtoOk) : (global.push spec).ProtoOk := by
  cases spec with
  | none => exact hg
  | some s => exact List.forall_mem_cons.mpr ⟨hspec s rfl, hg⟩

/-! ## The one-line parser -/

/-- The listener a parse state holds speaks one protocol. -/
def ParseState.ProtoOk : ParseState → Prop
  | .proto spec => ∀ s ∈ spec, s.ProtoOk
  | .listenAddr spec | .listenPort spec _ | .divert spec _ | .target spec _
  | .targetPort spec _ _ | .sniPort spec => spec.ProtoOk

/-- A step keeps the listeners of the global state, and the listener of the
state it goes on in, speaking one protocol. -/
def ParseStep.ProtoOk : ParseStep → Prop
  | .fail global => global.ProtoOk
  | .next state global _ => state.ProtoOk ∧ global.ProtoOk

section Parse

variable {env : Env} {natengine : Option String} {tmp : TmpGlobalOpts} {global : Global}

theorem beginSpec_protoOk (hg : global.ProtoOk) (tok : String) :
    (beginSpec env tmp global tok).ProtoOk := by
  unfold beginSpec
  split
  · exact hg
  · rename_i spec _
    have hproto := proxyspecSetProto_protoOk spec tok
    rcases hs : proxyspecSetProto spec tok with ⟨rc, spec'⟩
    rw [hs] at hproto
    dsimp only
    split_ifs
    · exact hg.push hproto.some
    · exact ⟨hproto, hg⟩

theorem targetStep_protoOk {spec : Proxyspec} {af : Int} {tok : String} {step : ParseStep}
    (hg : global.ProtoOk) (hspec : spec.ProtoOk)
    (h : targetStep env natengine tmp global spec af tok = .ok step) : step.ProtoOk := by
  unfold targetStep at h
  split_ifs at h
  · cases h; exact beginSpec_protoOk (hg.push hspec.some) tok
  · cases h; exact ⟨hspec, hg⟩
  · split at h
    · cases h
    · rename_i name
      have hnat := hspec.of_protoFlags (@proxyspecSetNatengine_protoFlags env spec name)
      rcases hs : proxyspecSetNatengine env spec name with ⟨rc, spec'⟩
      rw [hs] at hnat
      simp only [hs] at h
      split_ifs at h
      · cases h; exact hg.push hnat.some
      · cases h; exact ⟨hnat.some, hg⟩
  · cases h; exact ⟨hspec, hg⟩

theorem proxyspecParseStep_protoOk {state : ParseState} {tok : String} {rest : List String}
    {step : ParseStep} (hg : global.ProtoOk) (hstate : state.ProtoOk)
    (h : proxyspecParseStep env natengine tmp global state tok rest = .ok step) : step.ProtoOk := by
  cases state with
  | proto last => cases h; exact beginSpec_protoOk (hg.push hstate) tok
  | listenAddr spec => cases h; exact ⟨hstate, hg⟩
  | target spec af => exact targetStep_protoOk hg hstate h
  | divert spec af =>
    simp only [proxyspecParseStep] at h
    split_ifs at h
    · cases h; exact hg.push (hstate.of_protoFlags (by simp)).some
    · cases h; exact hg.push (hstate.of_protoFlags (by simp)).some
    · cases h; exact ⟨hstate.of_protoFlags (by simp), hg⟩
    · exact targetStep_protoOk hg hstate h
  | listenPort spec _ =>
    simp only [proxyspecParseStep] at h
    split_ifs at h
    · cases h; exact hg.push (hstate.of_protoFlags (by simp)).some
    · cases h; exact ⟨hstate.of_protoFlags (by simp), hg⟩
  | targetPort spec _ _ | sniPort spec =>
    simp only [proxyspecParseStep] at h
    split_ifs at h
    · cases h; exact hg.push (hstate.of_protoFlags (by simp)).some
    · cases h; exact ⟨(hstate.of_protoFlags (by simp)).some, hg⟩

theorem proxyspecParseEnd_protoOk {state : ParseState} (hg : global.ProtoOk)
    (hstate : state.ProtoOk) : (proxyspecParseEnd tmp global state).2.ProtoOk := by
  cases state with
  | proto spec =>
    cases spec with
    | none => exact hg
    | some spec => exact hg.push ((hstate spec rfl).of_protoFlags (by simp)).some
  | divert spec _ | target spec _ => exact hg.push (hstate.of_protoFlags (by simp)).some
  | listenAddr spec | listenPort spec _ | targetPort spec _ _ | sniPort spec =>
    exact hg.push hstate.some

/-- Every run of the loop keeps every listener speaking one protocol, those it
creates included, whether it fails or not. -/
theorem proxyspecParseLoop_protoOk {argv : List String} :
    ∀ {state global skip rc g}, global.ProtoOk → state.ProtoOk →
      proxyspecParseLoop env natengine tmp state global skip argv = .ok (rc, g) → g.ProtoOk := by
  induction argv with
  | nil =>
    intro state global skip rc g hg hstate h
    have hend : proxyspecParseEnd tmp global state = (rc, g) := by
      cases skip <;> exact Except.ok.inj h
    have hok : (proxyspecParseEnd tmp global state).2.ProtoOk := proxyspecParseEnd_protoOk hg hstate
    rwa [hend] at hok
  | cons tok rest ih =>
    intro state global skip rc g hg hstate h
    cases skip with
    | succ skip => exact ih hg hstate h
    | zero =>
      obtain ⟨step, hstep, h⟩ := Except.bind_eq_ok.mp h
      have hok := proxyspecParseStep_protoOk hg hstate hstep
      cases step with
      | fail => cases h; exact hok
      | next => exact ih hok.2 hok.1 h

end Parse

theorem proxyspecParse_protoOk {env : Env} {natengine : Option String} {global g : Global}
    {tmp : TmpGlobalOpts} {argv : List String} {rc : Int} (hg : global.ProtoOk)
    (h : proxyspecParse env natengine global tmp argv = .ok (rc, g)) : g.ProtoOk :=
  proxyspecParseLoop_protoOk hg (by intro _ h; cases h) h

/-! ## Blocks -/

section Block

variable {env : Env}

theorem proxyspecNew_protoOk {global : Global} {tmp : TmpGlobalOpts} {spec : Proxyspec}
    (h : proxyspecNew env global tmp = some spec) : spec.ProtoOk := by
  obtain ⟨opts, -, rfl⟩ := Option.map_eq_some'.mp h
  exact Proxyspec.protoOk_empty opts

/-- A block line keeps its listener speaking one protocol: `Proto` sets one,
and nothing else touches the flags. -/
theorem setProxyspecOption_protoOk {b b' : BlockState} {name value : String} {lineNum : Nat}
    {rc : Int} (hb : b.spec.ProtoOk) (h : setProxyspecOption env b name value lineNum = (rc, b')) :
    b'.spec.ProtoOk := by
  obtain ⟨P, hP⟩ : ∃ P : Int × BlockState → Prop, P = fun r => r.2.spec.ProtoOk := ⟨_, rfl⟩
  suffices P (setProxyspecOption env b name value lineNum) by rwa [hP, h] at this
  dsimp only [setProxyspecOption]
  repeat' (apply iteInduction (motive := P) <;> intro _)
  all_goals subst hP; (try split) <;> dsimp only [BlockState.withSpec]
  -- `Proto` sets the flags; every other line keeps them
  all_goals first
    | exact hb.of_protoFlags (by
        simp only [proxyspecSetListenAddr_protoFlags, proxyspecSetDivertAddr_protoFlags,
          proxyspecSetReturnAddr_protoFlags, proxyspecSetTargetAddr_protoFlags,
          proxyspecSetSniPort_protoFlags, proxyspecSetNatengine_protoFlags])
    | exact proxyspecSetProto_protoOk _ _
    | exact hb.of_protoFlags rfl

theorem blockLoop_protoOk {lines : List String} :
    ∀ {b lineNum e b' lineNum' read}, b.spec.ProtoOk →
      blockLoop env b lineNum lines = (e, b', lineNum', read) → b'.spec.ProtoOk := by
  induction lines with
  | nil => intro b lineNum e b' lineNum' read hb h; cases h; exact hb
  | cons line rest ih =>
    intro b lineNum e b' lineNum' read hb h
    rw [blockLoop] at h
    split at h
    · split at h
      rename_i heq
      cases h; exact ih hb heq
    · split at h
      · cases h; exact hb
      · split at h
        rename_i hopt
        have hb' := setProxyspecOption_protoOk hb hopt
        split_ifs at h
        · cases h; exact hb'
        · cases h; exact hb'
        · split at h
          rename_i heq
          cases h; exact ih hb' heq

/-- A block keeps every listener speaking one protocol, the one it creates
included, whether it loads or not. -/
theorem loadProxyspecStruct_protoOk {c : Conf} {lineNum : Nat} {f : Option (List String)}
    {r : Int × Conf × Nat × Nat} (hg : c.global.ProtoOk)
    (h : loadProxyspecStruct env c lineNum f = .ok r) : r.2.1.global.ProtoOk := by
  unfold loadProxyspecStruct at h
  split at h
  · cases h; exact hg
  rename_i spec hnew
  have hspec := (proxyspecNew_protoOk hnew).of_protoFlags
    (@proxyspecSetReturnAddr_protoFlags env spec "127.0.0.1")
  rcases hs : proxyspecSetReturnAddr env spec "127.0.0.1" with ⟨rc, spec'⟩
  rw [hs] at hspec
  simp only [hs] at h
  split_ifs at h
  · cases h; exact hg.push hspec.some
  split at h
  · cases h
  rename_i lines
  rcases hb : blockLoop env ⟨spec', c.natengine, .empty⟩ lineNum lines with ⟨e, b, l, read⟩
  have hb' := blockLoop_protoOk hspec hb
  simp only [hb] at h
  cases h
  split_ifs
  · exact hg.push (hb'.of_protoFlags (by simp)).some
  · exact hg.push hb'.some

end Block

end SSLproxy
