import SSLproxy.Opts.Clone

/-!
# One-line proxy specifications

`proxyspec_parse` reads the tokens of one or more one-line listener
declarations, `<proto> <addr> <port> [up:<port> [ua:<addr>] [ra:<addr>]]
[<nat-engine> | <target-addr> <target-port> | sni <port>]`, with a `switch` over
an integer state.  Here the state is a sum type whose constructors carry the C
variables that are live in that state (`spec`, `addr`, `af`), and one loop
iteration is `proxyspecParseStep`.

Two features of the C loop are kept exactly.  A protocol keyword met where a
NAT engine or target may follow rewinds the token pointer, so that the same
token starts the next listener; the step hands it to the `case 0` code
directly.  The `up:` case looks ahead and consumes the optional `ua:` and
`ra:` tokens itself; the step reports how many extra tokens it consumed, and
the loop passes over them.
-/

namespace SSLproxy

/-! ## Listener setters -/

/-- `AF_INET` on Linux. -/
def afInet : Int := 2

/-- `strstr (haystack, needle) != NULL`. -/
def strstr (haystack needle : String) : Bool :=
  decide (needle.toList <:+: haystack.toList)

/-- The protocol keywords of one-line listener declarations. -/
def protoKeywords : List String :=
  ["tcp", "ssl", "http", "https", "autossl", "pop3", "pop3s", "smtp", "smtps"]

/-- `proxyspec_set_proto`: clear the five protocol flags, then set those of the
keyword; an unknown keyword fails with the flags cleared. -/
def proxyspecSetProto (spec : Proxyspec) (value : String) : Int × Proxyspec :=
  let spec := { spec with ssl := false, http := false, upgrade := false,
                          pop3 := false, smtp := false }
  if value = "tcp" then (0, spec)
  else if value = "ssl" then (0, { spec with ssl := true })
  else if value = "http" then (0, { spec with http := true })
  else if value = "https" then (0, { spec with ssl := true, http := true })
  else if value = "autossl" then (0, { spec with upgrade := true })
  else if value = "pop3" then (0, { spec with pop3 := true })
  else if value = "pop3s" then (0, { spec with ssl := true, pop3 := true })
  else if value = "smtp" then (0, { spec with smtp := true })
  else if value = "smtps" then (0, { spec with ssl := true, smtp := true })
  else (-1, spec)

/-- `proxyspec_set_listen_addr`: resolve the listen address for the family of
`addr`; on success store it with the default NAT engine and return the
family, otherwise return `-1`. -/
def proxyspecSetListenAddr (env : Env) (spec : Proxyspec) (addr port : String)
    (natengine : Option String) : Int × Proxyspec :=
  match env.sysSockaddrParse addr port (env.sysGetAf addr) true with
  | none => (-1, spec)
  | some sa => (sa.af, { spec with listenAddr := some sa, natengine := natengine })

/-- `proxyspec_set_divert_addr`: the IPv4 address programs divert to. -/
def proxyspecSetDivertAddr (env : Env) (spec : Proxyspec) (addr port : String) :
    Int × Proxyspec :=
  match env.sysSockaddrParse addr port afInet true with
  | none => (-1, spec)
  | some sa => (0, { spec with connDstAddr := some sa })

/-- `proxyspec_set_return_addr`: the IPv4 source address of child
connections. -/
def proxyspecSetReturnAddr (env : Env) (spec : Proxyspec) (addr : String) :
    Int × Proxyspec :=
  match env.sysSockaddrParse addr "0" afInet true with
  | none => (-1, spec)
  | some sa => (0, { spec with childSrcAddr := some sa })

/-- `proxyspec_set_target_addr`: an explicit target address, which drops the
NAT engine. -/
def proxyspecSetTargetAddr (env : Env) (spec : Proxyspec) (addr port : String)
    (af : Int) : Int × Proxyspec :=
  match env.sysSockaddrParse addr port af false with
  | none => (-1, spec)
  | some sa => (0, { spec with connectAddr := some sa, natengine := none })

/-- `proxyspec_set_sni_port`: only on listeners with the ssl flag; the port is
stored in the 16-bit `sni_port` (`atoi` modulo `2^16`) before the stored value
is checked to be nonzero. -/
def proxyspecSetSniPort (spec : Proxyspec) (port : String) : Int × Proxyspec :=
  if !spec.ssl then (-1, spec)
  else
    let spec := { spec with sniPort := UInt16.ofNat (toUnsigned (atoi port)) }
    if spec.sniPort = 0 then (-1, spec)
    else (0, { spec with dns := true, natengine := none })

/-- `proxyspec_set_natengine`: a NAT engine that exists. -/
def proxyspecSetNatengine (env : Env) (spec : Proxyspec) (natengine : String) :
    Int × Proxyspec :=
  if env.natExist natengine then (0, { spec with natengine := some natengine })
  else (-1, spec)

/-- `set_divert`: split mode (`-n`) or a missing divert address turn
diverting off; otherwise the listener keeps its own `Divert` setting. -/
def setDivert (spec : Proxyspec) (split : Bool) : Proxyspec :=
  if split || spec.connDstAddrlen == 0 then
    { spec with opts := { spec.opts with divert := false } }
  else spec

/-- `set_divert` leaves a listener diverting exactly when it is out of split
mode, has a divert address, and diverted before. -/
theorem setDivert_divert (spec : Proxyspec) (split : Bool) :
    (setDivert spec split).opts.divert = true ↔
      split = false ∧ spec.connDstAddrlen ≠ 0 ∧ spec.opts.divert = true := by
  unfold setDivert
  split_ifs with hcond
  · simp only [Bool.or_eq_true, beq_iff_eq] at hcond
    rcases hcond with h | h <;> simp [h]
  · simp_all

@[simp] theorem setDivert_connDstAddrlen (spec : Proxyspec) (split : Bool) :
    (setDivert spec split).connDstAddrlen = spec.connDstAddrlen := by
  unfold setDivert; split <;> rfl

/-- `proxyspec_set_listen_addr` fails with `-1`, or returns the positive family
of the listen address it stores. -/
theorem proxyspecSetListenAddr_af (env : Env) (spec : Proxyspec) (addr port : String)
    (natengine : Option String) :
    (proxyspecSetListenAddr env spec addr port natengine).1 = -1 ∨
      0 < (proxyspecSetListenAddr env spec addr port natengine).1 ∧
        (proxyspecSetListenAddr env spec addr port natengine).2.listenAddr.isSome := by
  unfold proxyspecSetListenAddr
  split
  · exact .inl rfl
  · exact .inr ⟨Sockaddr.af_pos _, rfl⟩

/-! The setters of a begun listener, and `set_divert`, keep its listen address. -/

@[simp] theorem proxyspecSetProto_listenAddr (spec : Proxyspec) (value : String) :
    (proxyspecSetProto spec value).2.listenAddr = spec.listenAddr := by
  let P : Int × Proxyspec → Prop := fun r => r.2.listenAddr = spec.listenAddr
  show P (proxyspecSetProto spec value)
  dsimp only [proxyspecSetProto]
  repeat' (apply iteInduction (motive := P) <;> intro _)
  all_goals rfl

@[simp] theorem proxyspecSetDivertAddr_listenAddr (env : Env) (spec : Proxyspec)
    (addr port : String) :
    (proxyspecSetDivertAddr env spec addr port).2.listenAddr = spec.listenAddr := by
  unfold proxyspecSetDivertAddr; split <;> rfl

@[simp] theorem proxyspecSetReturnAddr_listenAddr (env : Env) (spec : Proxyspec) (addr : String) :
    (proxyspecSetReturnAddr env spec addr).2.listenAddr = spec.listenAddr := by
  unfold proxyspecSetReturnAddr; split <;> rfl

@[simp] theorem proxyspecSetTargetAddr_listenAddr (env : Env) (spec : Proxyspec)
    (addr port : String) (af : Int) :
    (proxyspecSetTargetAddr env spec addr port af).2.listenAddr = spec.listenAddr := by
  unfold proxyspecSetTargetAddr; split <;> rfl

@[simp] theorem proxyspecSetSniPort_listenAddr (spec : Proxyspec) (port : String) :
    (proxyspecSetSniPort spec port).2.listenAddr = spec.listenAddr := by
  dsimp only [proxyspecSetSniPort]; split_ifs <;> rfl

@[simp] theorem proxyspecSetNatengine_listenAddr (env : Env) (spec : Proxyspec)
    (natengine : String) :
    (proxyspecSetNatengine env spec natengine).2.listenAddr = spec.listenAddr := by
  unfold proxyspecSetNatengine; split <;> rfl

@[simp] theorem setDivert_listenAddr (spec : Proxyspec) (split : Bool) :
    (setDivert spec split).listenAddr = spec.listenAddr := by
  unfold setDivert; split <;> rfl

/-! No setter of a begun listener writes its options. -/

section Opts

variable {env : Env} {spec : Proxyspec}

@[simp] theorem proxyspecSetProto_opts (value : String) :
    (proxyspecSetProto spec value).2.opts = spec.opts := by
  let P : Int × Proxyspec → Prop := fun r => r.2.opts = spec.opts
  show P (proxyspecSetProto spec value)
  dsimp only [proxyspecSetProto]
  repeat' (apply iteInduction (motive := P) <;> intro _)
  all_goals rfl

@[simp] theorem proxyspecSetListenAddr_opts (addr port : String) (natengine : Option String) :
    (proxyspecSetListenAddr env spec addr port natengine).2.opts = spec.opts := by
  unfold proxyspecSetListenAddr; split <;> rfl

@[simp] theorem proxyspecSetDivertAddr_opts (addr port : String) :
    (proxyspecSetDivertAddr env spec addr port).2.opts = spec.opts := by
  unfold proxyspecSetDivertAddr; split <;> rfl

@[simp] theorem proxyspecSetReturnAddr_opts (addr : String) :
    (proxyspecSetReturnAddr env spec addr).2.opts = spec.opts := by
  unfold proxyspecSetReturnAddr; split <;> rfl

@[simp] theorem proxyspecSetTargetAddr_opts (addr port : String) (af : Int) :
    (proxyspecSetTargetAddr env spec addr port af).2.opts = spec.opts := by
  unfold proxyspecSetTargetAddr; split <;> rfl

@[simp] theorem proxyspecSetSniPort_opts (port : String) :
    (proxyspecSetSniPort spec port).2.opts = spec.opts := by
  dsimp only [proxyspecSetSniPort]; split_ifs <;> rfl

@[simp] theorem proxyspecSetNatengine_opts (natengine : String) :
    (proxyspecSetNatengine env spec natengine).2.opts = spec.opts := by
  unfold proxyspecSetNatengine; split <;> rfl

end Opts

/-! The setters of a begun listener but `proxyspec_set_divert_addr` keep its
divert address. -/

section ConnDstAddr

variable {env : Env} {spec : Proxyspec}

@[simp] theorem proxyspecSetProto_connDstAddr (value : String) :
    (proxyspecSetProto spec value).2.connDstAddr = spec.connDstAddr := by
  let P : Int × Proxyspec → Prop := fun r => r.2.connDstAddr = spec.connDstAddr
  show P (proxyspecSetProto spec value)
  dsimp only [proxyspecSetProto]
  repeat' (apply iteInduction (motive := P) <;> intro _)
  all_goals rfl

@[simp] theorem proxyspecSetListenAddr_connDstAddr (addr port : String)
    (natengine : Option String) :
    (proxyspecSetListenAddr env spec addr port natengine).2.connDstAddr = spec.connDstAddr := by
  unfold proxyspecSetListenAddr; split <;> rfl

@[simp] theorem proxyspecSetReturnAddr_connDstAddr (addr : String) :
    (proxyspecSetReturnAddr env spec addr).2.connDstAddr = spec.connDstAddr := by
  unfold proxyspecSetReturnAddr; split <;> rfl

@[simp] theorem proxyspecSetTargetAddr_connDstAddr (addr port : String) (af : Int) :
    (proxyspecSetTargetAddr env spec addr port af).2.connDstAddr = spec.connDstAddr := by
  unfold proxyspecSetTargetAddr; split <;> rfl

@[simp] theorem proxyspecSetSniPort_connDstAddr (port : String) :
    (proxyspecSetSniPort spec port).2.connDstAddr = spec.connDstAddr := by
  dsimp only [proxyspecSetSniPort]; split_ifs <;> rfl

@[simp] theorem proxyspecSetNatengine_connDstAddr (natengine : String) :
    (proxyspecSetNatengine env spec natengine).2.connDstAddr = spec.connDstAddr := by
  unfold proxyspecSetNatengine; split <;> rfl

end ConnDstAddr

/-! The setters of a begun listener return `0` or `-1`. -/

section Codes

variable {env : Env} {spec : Proxyspec} {addr port value : String}

theorem proxyspecSetProto_code :
    (proxyspecSetProto spec value).1 = -1 ∨ (proxyspecSetProto spec value).1 = 0 := by
  let P : Int × Proxyspec → Prop := fun r => r.1 = -1 ∨ r.1 = 0
  show P (proxyspecSetProto spec value)
  dsimp only [proxyspecSetProto]
  repeat' (apply iteInduction (motive := P) <;> intro _)
  all_goals first | exact .inr rfl | exact .inl rfl

theorem proxyspecSetDivertAddr_code :
    (proxyspecSetDivertAddr env spec addr port).1 = -1 ∨
      (proxyspecSetDivertAddr env spec addr port).1 = 0 := by
  unfold proxyspecSetDivertAddr; split <;> simp

theorem proxyspecSetReturnAddr_code :
    (proxyspecSetReturnAddr env spec addr).1 = -1 ∨
      (proxyspecSetReturnAddr env spec addr).1 = 0 := by
  unfold proxyspecSetReturnAddr; split <;> simp

theorem proxyspecSetTargetAddr_code {af : Int} :
    (proxyspecSetTargetAddr env spec addr port af).1 = -1 ∨
      (proxyspecSetTargetAddr env spec addr port af).1 = 0 := by
  unfold proxyspecSetTargetAddr; split <;> simp

theorem proxyspecSetSniPort_code :
    (proxyspecSetSniPort spec port).1 = -1 ∨ (proxyspecSetSniPort spec port).1 = 0 := by
  dsimp only [proxyspecSetSniPort]; split_ifs <;> simp

theorem proxyspecSetNatengine_code :
    (proxyspecSetNatengine env spec value).1 = -1 ∨
      (proxyspecSetNatengine env spec value).1 = 0 := by
  unfold proxyspecSetNatengine; split <;> simp

end Codes

/-! ## The automaton -/

/-- The cases of the `switch` in `proxyspec_parse`, carrying the C variables
live in each: the listener being filled in (`spec`), the address token read
before a port (`addr`), and the family of the listen address (`af`).  In
`case 0` the listener is the one last begun, if any. -/
inductive ParseState
  | proto (spec : Option Proxyspec)
  | listenAddr (spec : Proxyspec)
  | listenPort (spec : Proxyspec) (addr : String)
  | divert (spec : Proxyspec) (af : Int)
  | target (spec : Proxyspec) (af : Int)
  | targetPort (spec : Proxyspec) (af : Int) (addr : String)
  | sniPort (spec : Proxyspec)

/-- The listener a state holds. -/
def ParseState.spec? : ParseState → Option Proxyspec
  | proto spec => spec
  | listenAddr spec | listenPort spec _ | divert spec _ | target spec _
  | targetPort spec _ _ | sniPort spec => some spec

/-- The listener a state holds has its listen address, once the state is past
reading it. -/
def ParseState.listening : ParseState → Bool
  | .proto spec => spec.all fun spec => spec.listenAddr.isSome
  | .listenAddr _ | .listenPort _ _ => true
  | .divert spec _ | .target spec _ | .targetPort spec _ _ | .sniPort spec =>
    spec.listenAddr.isSome

/-- `global->spec` with a listener in front of it, as the listener being
filled in already is in C. -/
def Global.push (global : Global) : Option Proxyspec → Global
  | none => global
  | some spec => { global with spec := spec :: global.spec }

/-- `g` is `g₀` with listeners put in front of its list and nothing else
changed. -/
def Global.Extends (g₀ g : Global) : Prop :=
  ∃ new, g = { g₀ with spec := new ++ g₀.spec }

namespace Global.Extends

variable {g₀ g₁ g₂ : Global}

theorem refl (g : Global) : g.Extends g := ⟨[], rfl⟩

theorem trans (h₁ : g₀.Extends g₁) (h₂ : g₁.Extends g₂) : g₀.Extends g₂ := by
  obtain ⟨n₁, rfl⟩ := h₁
  obtain ⟨n₂, rfl⟩ := h₂
  exact ⟨n₂ ++ n₁, by simp⟩

theorem push (h : g₀.Extends g₁) (spec : Option Proxyspec) : g₀.Extends (g₁.push spec) := by
  obtain ⟨new, rfl⟩ := h
  cases spec with
  | none => exact ⟨new, rfl⟩
  | some spec => exact ⟨spec :: new, rfl⟩

/-- The listeners of `g₀` are the tail of those of `g`. -/
theorem suffix (h : g₀.Extends g₁) : g₀.spec <:+ g₁.spec := by
  obtain ⟨new, rfl⟩ := h
  exact List.suffix_append new _

end Global.Extends

/-- `g` has the listeners of `g₀` and, in front of them, only listeners with a
listen address. -/
def Global.AddsListening (g₀ g : Global) : Prop :=
  ∃ new, g.spec = new ++ g₀.spec ∧ ∀ spec ∈ new, spec.listenAddr.isSome

namespace Global.AddsListening

variable {g₀ g₁ g₂ : Global}

theorem refl (g : Global) : g.AddsListening g := ⟨[], rfl, fun _ h => nomatch h⟩

theorem trans (h₁ : g₀.AddsListening g₁) (h₂ : g₁.AddsListening g₂) :
    g₀.AddsListening g₂ := by
  obtain ⟨n₁, h₁, hn₁⟩ := h₁
  obtain ⟨n₂, h₂, hn₂⟩ := h₂
  refine ⟨n₂ ++ n₁, by rw [h₂, h₁, List.append_assoc], fun s hs => ?_⟩
  rcases List.mem_append.mp hs with hs | hs
  · exact hn₂ s hs
  · exact hn₁ s hs

theorem push (h : g₀.AddsListening g₁) {spec : Option Proxyspec}
    (hspec : spec.all (fun spec => spec.listenAddr.isSome)) :
    g₀.AddsListening (g₁.push spec) := by
  obtain ⟨new, h, hnew⟩ := h
  cases spec with
  | none => exact ⟨new, h, hnew⟩
  | some spec =>
    exact ⟨spec :: new, by simp [Global.push, h], List.forall_mem_cons.mpr ⟨hspec, hnew⟩⟩

end Global.AddsListening

/-- What one iteration of the `proxyspec_parse` loop does: `return -1`, with
the global state reached, or go on in a new state having consumed `skip`
tokens beyond the current one. -/
inductive ParseStep
  | fail (global : Global)
  | next (state : ParseState) (global : Global) (skip : Nat)

/-- The global state a step reaches. -/
def ParseStep.global : ParseStep → Global
  | fail global | next _ global _ => global

section Step

variable (env : Env) (natengine : Option String) (tmp : TmpGlobalOpts)

/-- `case 0`: create a listener from the global options, put it at the head
of `global->spec`, and set its protocol from the keyword. -/
def beginSpec (global : Global) (tok : String) : ParseStep :=
  match proxyspecNew env global tmp with
  | none => .fail global
  | some spec =>
    let (rc, spec) := proxyspecSetProto spec tok
    if rc = -1 then .fail (global.push spec) else .next (.listenAddr spec) global 0

/-- `case 4`: a protocol keyword rewinds and begins the next listener, `sni`
expects a port, a NAT engine name installs the default NAT engine `natengine`
(whose `NULL` value `nat_exist` would dereference), anything else is a target
address. -/
def targetStep (global : Global) (spec : Proxyspec) (af : Int) (tok : String) :
    Except Fault ParseStep :=
  if tok ∈ protoKeywords then pure (beginSpec env tmp (global.push spec) tok)
  else if tok = "sni" then pure (.next (.sniPort spec) global 0)
  else if env.natExist tok then
    match natengine with
    | none => .error .nullName
    | some name =>
      let (rc, spec) := proxyspecSetNatengine env spec name
      pure (if rc = -1 then .fail (global.push spec) else .next (.proto spec) global 0)
  else pure (.next (.targetPort spec af tok) global 0)

/-- The optional `ua:` and `ra:` tokens after `up:`: the divert and return
addresses (both `127.0.0.1` unless given) and the number of tokens taken. -/
def divertLookahead (rest : List String) : String × String × Nat :=
  let (da, taken) :=
    match rest with
    | t :: _ => if strstr t "ua:" then (t.drop 3, 1) else ("127.0.0.1", 0)
    | [] => ("127.0.0.1", 0)
  match rest.drop taken with
  | t :: _ => if strstr t "ra:" then (da, t.drop 3, taken + 1) else (da, "127.0.0.1", taken)
  | [] => (da, "127.0.0.1", taken)

/-- One iteration of the `proxyspec_parse` loop on the token `tok`, with
`rest` the tokens after it. -/
def proxyspecParseStep (global : Global) :
    ParseState → String → List String → Except Fault ParseStep
  | .proto last, tok, _ => pure (beginSpec env tmp (global.push last) tok)
  | .listenAddr spec, tok, _ => pure (.next (.listenPort spec tok) global 0)
  | .listenPort spec addr, tok, _ =>
    let (af, spec) := proxyspecSetListenAddr env spec addr tok natengine
    pure (if af = -1 then .fail (global.push spec) else .next (.divert spec af) global 0)
  | .divert spec af, tok, rest =>
    if strstr tok "up:" then
      let (da, ra, taken) := divertLookahead rest
      let (rc, spec) := proxyspecSetDivertAddr env spec da (tok.drop 3)
      if rc = -1 then pure (.fail (global.push spec))
      else
        let (rc, spec) := proxyspecSetReturnAddr env spec ra
        pure (if rc = -1 then .fail (global.push spec) else .next (.target spec af) global taken)
    else targetStep env natengine tmp global spec af tok
  | .target spec af, tok, _ => targetStep env natengine tmp global spec af tok
  | .targetPort spec af addr, tok, _ =>
    let (rc, spec) := proxyspecSetTargetAddr env spec addr tok af
    pure (if rc = -1 then .fail (global.push spec) else .next (.proto spec) global 0)
  | .sniPort spec, tok, _ =>
    let (rc, spec) := proxyspecSetSniPort spec tok
    pure (if rc = -1 then .fail (global.push spec) else .next (.proto spec) global 0)

/-- The end of `proxyspec_parse`: only cases 0, 3 and 4 may end the tokens,
and `set_divert` then runs on the listener last begun. -/
def proxyspecParseEnd (global : Global) : ParseState → Int × Global
  | .proto spec => (0, global.push (spec.map (setDivert · tmp.split)))
  | .divert spec _ | .target spec _ => (0, global.push (some (setDivert spec tmp.split)))
  | state => (-1, global.push state.spec?)

/-- The loop of `proxyspec_parse` over the remaining tokens.  `skip` counts
the tokens the `up:` case has already consumed by advancing `*argv` itself;
the loop passes over them. -/
def proxyspecParseLoop (state : ParseState) (global : Global) :
    Nat → List String → Except Fault (Int × Global)
  | _, [] => pure (proxyspecParseEnd tmp global state)
  | skip + 1, _ :: rest => proxyspecParseLoop state global skip rest
  | 0, tok :: rest => do
    match ← proxyspecParseStep env natengine tmp global state tok rest with
    | .fail global => pure (-1, global)
    | .next state global skip => proxyspecParseLoop state global skip rest

end Step

/-! ## Faults -/

section Faults

variable {env : Env} {natengine : Option String} {tmp : TmpGlobalOpts} {global : Global}
  {e : Fault}

theorem targetStep_fault {spec : Proxyspec} {af : Int} {tok : String}
    (h : targetStep env natengine tmp global spec af tok = .error e) : e = .nullName := by
  unfold targetStep at h
  repeat' split at h
  all_goals cases h <;> rfl

theorem proxyspecParseStep_fault {state : ParseState} {tok : String} {rest : List String}
    (h : proxyspecParseStep env natengine tmp global state tok rest = .error e) :
    e = .nullName := by
  cases state <;> simp only [proxyspecParseStep] at h <;> (repeat' split at h) <;>
    first | cases h | exact targetStep_fault h

/-- The only fault of the one-line parser is a `NULL` default NAT engine. -/
theorem proxyspecParseLoop_fault {argv : List String} :
    ∀ {state global skip},
      proxyspecParseLoop env natengine tmp state global skip argv = .error e →
      e = .nullName := by
  induction argv with
  | nil => intro _ _ skip h; cases skip <;> cases h
  | cons tok rest ih =>
    intro state global skip h
    cases skip with
    | succ skip => exact ih h
    | zero =>
      rcases Except.bind_eq_error.mp h with h | ⟨step, -, h⟩
      · exact proxyspecParseStep_fault h
      · cases step with
        | fail => cases h
        | next => exact ih h

end Faults

/-! ## What a run changes -/

section Extends

variable {env : Env} {natengine : Option String} {tmp : TmpGlobalOpts} {global : Global}

theorem beginSpec_extends (tok : String) :
    global.Extends (beginSpec env tmp global tok).global := by
  unfold beginSpec
  repeat' split
  all_goals dsimp only [ParseStep.global]
  all_goals first | exact .refl _ | exact (Global.Extends.refl _).push _

theorem targetStep_extends {spec : Proxyspec} {af : Int} {tok : String} {step : ParseStep}
    (h : targetStep env natengine tmp global spec af tok = .ok step) :
    global.Extends step.global := by
  unfold targetStep at h
  repeat' split at h
  all_goals cases h
  all_goals dsimp only [ParseStep.global]
  all_goals first
    | exact .refl _
    | exact (Global.Extends.refl _).push _
    | exact ((Global.Extends.refl _).push _).trans (beginSpec_extends _)

theorem proxyspecParseStep_extends {state : ParseState} {tok : String} {rest : List String}
    {step : ParseStep} (h : proxyspecParseStep env natengine tmp global state tok rest = .ok step) :
    global.Extends step.global := by
  cases state <;> simp only [proxyspecParseStep] at h <;> (repeat' split at h) <;>
    first
    | exact targetStep_extends h
    | (cases h; dsimp only [ParseStep.global]
       first
       | exact .refl _
       | exact (Global.Extends.refl _).push _
       | exact ((Global.Extends.refl _).push _).trans (beginSpec_extends _))

theorem proxyspecParseEnd_extends (state : ParseState) :
    global.Extends (proxyspecParseEnd tmp global state).2 := by
  cases state <;> dsimp only [proxyspecParseEnd] <;> exact (Global.Extends.refl _).push _

/-- The loop changes nothing of the global state but the listener list, which
it extends in front. -/
theorem proxyspecParseLoop_extends {argv : List String} :
    ∀ {state global skip rc g},
      proxyspecParseLoop env natengine tmp state global skip argv = .ok (rc, g) →
        global.Extends g := by
  induction argv with
  | nil =>
    intro state global skip rc g h
    have hend : proxyspecParseEnd tmp global state = (rc, g) := by
      cases skip <;> exact Except.ok.inj h
    have hext : global.Extends (proxyspecParseEnd tmp global state).2 :=
      proxyspecParseEnd_extends state
    rwa [hend] at hext
  | cons tok rest ih =>
    intro state global skip rc g h
    cases skip with
    | succ skip => exact ih h
    | zero =>
      obtain ⟨step, hstep, h⟩ := Except.bind_eq_ok.mp h
      have hext := proxyspecParseStep_extends hstep
      cases step with
      | fail => cases h; exact hext
      | next => exact hext.trans (ih h)

end Extends

/-- `proxyspec_parse`: the return code and `global` with the listeners it
created in front of `global->spec`, most recent first. -/
def proxyspecParse (env : Env) (natengine : Option String) (global : Global)
    (tmp : TmpGlobalOpts) (argv : List String) : Except Fault (Int × Global) :=
  proxyspecParseLoop env natengine tmp (.proto none) global 0 argv

/-- With `-n`, two listeners in one token array: `set_divert` puts the last
one in split mode, but the first keeps diverting without a divert address. -/
theorem proxyspecParse_earlier_listener_keeps_divert :
    (proxyspecParse Env.sample (some "ipfw") (globalNew 2048)
        (Conf.init 2048 (some "ipfw") true).tmp
        ["tcp", "127.0.0.1", "8080", "tcp", "127.0.0.1", "8081"]).map
      (fun r => (r.1, r.2.spec.map fun s => (s.opts.divert, s.connDstAddrlen))) =
    .ok (0, [(false, 0), (true, 0)]) := rfl

/-- A listener naming the NAT engine `pf` gets the default engine `ipfw`:
`case 4` tests the token with `nat_exist` but installs `natengine`. -/
theorem proxyspecParse_named_natengine_ignored :
    (proxyspecParse Env.sample (some "ipfw") (globalNew 2048)
        (Conf.init 2048 (some "ipfw") false).tmp ["tcp", "127.0.0.1", "8080", "pf"]).map
      (fun r => (r.1, r.2.spec.map Proxyspec.natengine)) = .ok (0, [some "ipfw"]) := rfl

/-! ## Every listener it accepts has a listen address -/

section Listening

variable {env : Env} {natengine : Option String} {tmp : TmpGlobalOpts} {global : Global}

theorem beginSpec_listening {tok : String} {state : ParseState} {global' : Global} {skip : Nat}
    (h : beginSpec env tmp global tok = .next state global' skip) :
    state.listening ∧ global' = global := by
  unfold beginSpec at h
  repeat' split at h
  all_goals cases h
  exact ⟨rfl, rfl⟩

theorem targetStep_listening {spec : Proxyspec} {af : Int} {tok : String} {state : ParseState}
    {global' : Global} {skip : Nat} (hspec : spec.listenAddr.isSome)
    (h : targetStep env natengine tmp global spec af tok = .ok (.next state global' skip)) :
    state.listening ∧ global.AddsListening global' := by
  simp only [targetStep] at h
  split_ifs at h
  · obtain ⟨hstate, rfl⟩ := beginSpec_listening (Except.ok.inj h)
    exact ⟨hstate, (Global.AddsListening.refl _).push hspec⟩
  · cases h; exact ⟨hspec, .refl _⟩
  · split at h
    · cases h
    · split_ifs at h
      · cases h
      · cases h; exact ⟨by simpa [ParseState.listening] using hspec, .refl _⟩
  · cases h; exact ⟨hspec, .refl _⟩

theorem proxyspecParseStep_listening {state state' : ParseState} {tok : String}
    {rest : List String} {global' : Global} {skip : Nat} (hstate : state.listening)
    (h : proxyspecParseStep env natengine tmp global state tok rest =
      .ok (.next state' global' skip)) :
    state'.listening ∧ global.AddsListening global' := by
  cases state with
  | proto last =>
    obtain ⟨hstate', rfl⟩ := beginSpec_listening (Except.ok.inj h)
    exact ⟨hstate', (Global.AddsListening.refl _).push hstate⟩
  | listenAddr spec => cases h; exact ⟨rfl, .refl _⟩
  | listenPort spec addr =>
    simp only [proxyspecParseStep] at h
    split_ifs at h with haf
    · cases h
    · cases h; exact ⟨((proxyspecSetListenAddr_af _ _ _ _ _).resolve_left haf).2, .refl _⟩
  | target spec af => exact targetStep_listening hstate h
  | divert spec af =>
    simp only [proxyspecParseStep] at h
    split_ifs at h
    · cases h
    · cases h
    · cases h; exact ⟨by simpa [ParseState.listening] using hstate, .refl _⟩
    · exact targetStep_listening hstate h
  | targetPort spec af addr | sniPort spec =>
    simp only [proxyspecParseStep] at h
    split_ifs at h
    · cases h
    · cases h; exact ⟨by simpa [ParseState.listening] using hstate, .refl _⟩

theorem proxyspecParseEnd_listening {state : ParseState} {rc : Int} {g : Global}
    (hstate : state.listening) (h : proxyspecParseEnd tmp global state = (rc, g))
    (hrc : rc ≠ -1) :
    global.AddsListening g := by
  cases state with
  | proto spec =>
    obtain ⟨-, rfl⟩ := Prod.mk.inj h
    exact (Global.AddsListening.refl _).push (by cases spec <;> simp_all [ParseState.listening])
  | divert spec _ | target spec _ =>
    obtain ⟨-, rfl⟩ := Prod.mk.inj h
    exact (Global.AddsListening.refl _).push (by simpa using hstate)
  | _ => exact absurd (Prod.mk.inj h).1.symm hrc

/-- A run that does not fail puts only listeners with a listen address in
front of the list. -/
theorem proxyspecParseLoop_listening {argv : List String} :
    ∀ {state global skip rc g}, state.listening →
      proxyspecParseLoop env natengine tmp state global skip argv = .ok (rc, g) → rc ≠ -1 →
        global.AddsListening g := by
  induction argv with
  | nil =>
    intro state global skip rc g hstate h
    exact proxyspecParseEnd_listening hstate (by cases skip <;> exact Except.ok.inj h)
  | cons tok rest ih =>
    intro state global skip rc g hstate h hrc
    cases skip with
    | succ skip => exact ih hstate h hrc
    | zero =>
      obtain ⟨step, hstep, h⟩ := Except.bind_eq_ok.mp h
      cases step with
      | fail => exact absurd (Prod.mk.inj (Except.ok.inj h)).1.symm hrc
      | next state' global' skip' =>
        obtain ⟨hstate', hadds⟩ := proxyspecParseStep_listening hstate hstep
        exact hadds.trans (ih hstate' h hrc)

end Listening

/-- Every listener of a one-line declaration that `proxyspec_parse` accepts
has its listen address: a nonzero `listen_addrlen`. -/
theorem proxyspecParse_listenAddrlen {env : Env} {natengine : Option String} {global g : Global}
    {tmp : TmpGlobalOpts} {argv : List String} {rc : Int}
    (h : proxyspecParse env natengine global tmp argv = .ok (rc, g)) (hrc : rc ≠ -1) :
    ∃ new, g = { global with spec := new ++ global.spec } ∧
      ∀ spec ∈ new, spec.listenAddrlen ≠ 0 := by
  obtain ⟨new, rfl⟩ := proxyspecParseLoop_extends h
  obtain ⟨new', hspec, hnew'⟩ := proxyspecParseLoop_listening (by rfl) h hrc
  obtain rfl := List.append_cancel_right hspec
  exact ⟨new, rfl, fun spec hs => (Proxyspec.listenAddrlen_ne_zero_iff spec).mpr (hnew' spec hs)⟩

/-! ## The `include` flag -/

section Include

variable {env : Env} {natengine : Option String} {tmp : TmpGlobalOpts}

/-- The parser reads `tmp_global_opts` only for its paths and the split flag. -/
theorem proxyspecParseStep_withInclude (b : Bool) (global : Global) (state : ParseState)
    (tok : String) (rest : List String) :
    proxyspecParseStep env natengine { tmp with «include» := b } global state tok rest =
      proxyspecParseStep env natengine tmp global state tok rest := by
  cases state <;> rfl

/-- ... so the whole loop ignores the `include` flag. -/
theorem proxyspecParseLoop_withInclude (b : Bool) (argv : List String) :
    ∀ state global skip,
      proxyspecParseLoop env natengine { tmp with «include» := b } state global skip argv =
        proxyspecParseLoop env natengine tmp state global skip argv := by
  induction argv with
  | nil => intro state global skip; cases skip <;> rfl
  | cons tok rest ih =>
    intro state global skip
    cases skip with
    | succ skip => exact ih state global skip
    | zero =>
      simp only [proxyspecParseLoop, proxyspecParseStep_withInclude]
      refine Except.bind_congr_ok fun step _ => ?_
      cases step
      · rfl
      · exact ih _ _ _
end Include

end SSLproxy
