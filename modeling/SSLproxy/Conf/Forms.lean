import SSLproxy.Conf.Dispatch
import Mathlib.Data.String.Basic

/-!
# One listener, two forms

`sslproxy.conf(5)` declares a listener in two ways: on one line,
`ProxySpec https 127.0.0.1 8443 up:8080 ua:127.0.0.1 ra:127.0.0.1 10.0.0.1 443`,
parsed by the `proxyspec_parse` automaton, or as a block

    ProxySpec {
        Proto https
        Addr 127.0.0.1
        Port 8443
        DivertAddr 127.0.0.1
        DivertPort 8080
        ReturnAddr 127.0.0.1
        TargetAddr 10.0.0.1
        TargetPort 443
    }

read line by line by `load_proxyspec_struct`.  `ListenerDecl` is what both
forms say, `ListenerDecl.argv` and `ListenerDecl.directives` are the two
forms, and `ListenerDecl.build` is what they mean: the listener setters of
`opts.c` called in the order both forms call them.

The one-line form refines `build` (`proxyspecParse_argv`), and so does the
block, started from a listener that already has the return address
`127.0.0.1` that `load_proxyspec_struct` sets before reading any line
(`blockLoop_listenerDecl`).  That default is the one difference: a one-line
listener without `up:` has no return address, the block has `127.0.0.1`.  The
converse fails: a block accepts a `Port` that does not resolve, the one-line
form does not.
-/

namespace SSLproxy

/-- A listener as the manual declares it: its protocol, listen address and
port, optionally a divert port with the divert and return addresses, and
optionally an explicit target address and port. -/
structure ListenerDecl where
  proto : String
  addr : String
  port : String
  divert : Option (String × String × String)
  target : Option (String × String)
deriving DecidableEq

namespace ListenerDecl

/-- The `up:PORT ua:ADDR ra:ADDR` tokens of a divert. -/
def divertArgv : Option (String × String × String) → List String
  | some (port, addr, ret) => ["up:" ++ port, "ua:" ++ addr, "ra:" ++ ret]
  | none => []

/-- The `ADDR PORT` tokens of an explicit target. -/
def targetArgv : Option (String × String) → List String
  | some (addr, port) => [addr, port]
  | none => []

/-- The one-line form: the tokens after `ProxySpec`. -/
def argv (d : ListenerDecl) : List String :=
  [d.proto, d.addr, d.port] ++ divertArgv d.divert ++ targetArgv d.target

/-- The block lines of a divert. -/
def divertDirectives : Option (String × String × String) → List (String × String)
  | some (port, addr, ret) => [("DivertAddr", addr), ("DivertPort", port), ("ReturnAddr", ret)]
  | none => []

/-- The block lines of an explicit target. -/
def targetDirectives : Option (String × String) → List (String × String)
  | some (addr, port) => [("TargetAddr", addr), ("TargetPort", port)]
  | none => []

/-- The structured form: the name and value of each line of the block, the
closing brace included. -/
def directives (d : ListenerDecl) : List (String × String) :=
  [("Proto", d.proto), ("Addr", d.addr), ("Port", d.port)] ++ divertDirectives d.divert ++
    targetDirectives d.target ++ [("\x7d", "")]

/-- The one-line automaton reads a target address as one: it is no protocol
keyword, not `sni`, no NAT engine, and holds no `up:`. -/
def WellFormed (env : Env) (d : ListenerDecl) : Prop :=
  ∀ t ∈ d.target, t.1 ∉ protoKeywords ∧ t.1 ≠ "sni" ∧ env.natExist t.1 = false ∧
    strstr t.1 "up:" = false

/-- The divert and return addresses, as `up:` and `DivertPort`/`ReturnAddr`
set them. -/
def buildDivert (env : Env) : Option (String × String × String) → Proxyspec → Option Proxyspec
  | none, spec => some spec
  | some (port, addr, ret), spec =>
    let (rc, spec) := proxyspecSetDivertAddr env spec addr port
    if rc = -1 then none
    else
      let (rc, spec) := proxyspecSetReturnAddr env spec ret
      if rc = -1 then none else some spec

/-- The target address, resolved in the family of the listen address. -/
def buildTarget (env : Env) : Option (String × String) → Int → Proxyspec → Option Proxyspec
  | none, _, spec => some spec
  | some (addr, port), af, spec =>
    let (rc, spec) := proxyspecSetTargetAddr env spec addr port af
    if rc = -1 then none else some spec

/-- What a declaration does to a new listener: the setters both forms call,
in the order they call them, up to the first that fails. -/
def build (env : Env) (natengine : Option String) (d : ListenerDecl) (spec : Proxyspec) :
    Option Proxyspec :=
  let (rc, spec) := proxyspecSetProto spec d.proto
  if rc = -1 then none
  else
    let (af, spec) := proxyspecSetListenAddr env spec d.addr d.port natengine
    if af = -1 then none
    else (buildDivert env d.divert spec).bind (buildTarget env d.target af)

end ListenerDecl

theorem strstr_prefix (tag s : String) : strstr (tag ++ s) tag = true := by
  simp only [strstr, decide_eq_true_eq, String.data_append]
  exact (List.prefix_append _ _).isInfix

theorem drop_tag (tag s : String) (h : tag.length = 3) : (tag ++ s).drop 3 = s := by
  rw [String.drop_eq, ← h]
  exact congrArg String.mk (List.drop_left _ _)

@[simp] theorem pure_eq_ok {ε α : Type} {a b : α} : (pure a : Except ε α) = .ok b ↔ a = b :=
  ⟨fun h => by cases h; rfl, fun h => h ▸ rfl⟩

/-! ## The one-line form

Each part of a declaration is read by a segment of the `proxyspec_parse` loop
that either fails with `-1` or hands a listener on to the segment after it.
`ParsesAs r o k` says this of a loop result `r`: the segment builds what `o`
builds and the loop goes on as `k` with it.  The segments then compose as the
`Option` computations they follow (`ParsesAs.bind`).  Each segment is stated
for any tokens `rest` after it, as long as those begin with a protocol keyword
or are none, which is what makes declarations compose (`Conf.Listeners`). -/

/-- The loop result `r` reads what `o` builds and goes on as `k` with it, or
returns `-1` when `o` fails. -/
def ParsesAs {α : Type} (r : Except Fault (Int × Global)) (o : Option α)
    (k : α → Except Fault (Int × Global)) : Prop :=
  ∃ g, r = match o with
    | some a => k a
    | none => .ok (-1, g)

theorem ParsesAs.bind {α β : Type} {r : Except Fault (Int × Global)} {o : Option α}
    {f : α → Option β} {k : α → Except Fault (Int × Global)}
    {k' : β → Except Fault (Int × Global)}
    (h : ParsesAs r o k) (hk : ∀ a, ParsesAs (k a) (f a) k') : ParsesAs r (o.bind f) k' := by
  obtain ⟨g, rfl⟩ := h
  cases o with
  | none => exact ⟨g, rfl⟩
  | some a => exact hk a

/-- No protocol keyword holds `up:`. -/
theorem strstr_up_of_protoKeyword {tok : String} (h : tok ∈ protoKeywords) :
    strstr tok "up:" = false := by
  revert tok; decide

section OneLine

variable {env : Env} {natengine : Option String} {tmp : TmpGlobalOpts} {global global' : Global}
  {rc : Int}

/-- `proxyspec_new` clones the global options and reads nothing of the
listener list. -/
theorem proxyspecNew_push (x : Option Proxyspec) :
    proxyspecNew env (global.push x) tmp = proxyspecNew env global tmp := by
  cases x <;> rfl

/-- Before a protocol keyword, or at the end of the tokens, a listener waiting
for a target is complete: `case 4` rewinds to `case 0` as after a target. -/
theorem proxyspecParseLoop_target_rewind {spec : Proxyspec} {af : Int} {rest : List String}
    (hrest : ∀ t ∈ rest.head?, t ∈ protoKeywords) :
    proxyspecParseLoop env natengine tmp (.target spec af) global 0 rest =
      proxyspecParseLoop env natengine tmp (.proto (some spec)) global 0 rest := by
  rcases rest with _ | ⟨tok, rest⟩
  · rfl
  · simp only [proxyspecParseLoop, proxyspecParseStep, targetStep, if_pos (hrest tok rfl)]

/-- Without `up:`, the state after the listen port reads a target as the
state after a divert does. -/
theorem proxyspecParseLoop_divert_target {spec : Proxyspec} {af : Int} {rest : List String}
    (hrest : ∀ t ∈ rest.head?, strstr t "up:" = false) :
    proxyspecParseLoop env natengine tmp (.divert spec af) global 0 rest =
      proxyspecParseLoop env natengine tmp (.target spec af) global 0 rest := by
  rcases rest with _ | ⟨tok, rest⟩
  · rfl
  · simp only [proxyspecParseLoop, proxyspecParseStep, hrest tok rfl, Bool.false_eq_true,
      if_false]

theorem proxyspecParseLoop_targetArgv {spec : Proxyspec} {af : Int}
    {target : Option (String × String)} {rest : List String}
    (htarget : ∀ t ∈ target,
      t.1 ∉ protoKeywords ∧ t.1 ≠ "sni" ∧ env.natExist t.1 = false)
    (hrest : ∀ t ∈ rest.head?, t ∈ protoKeywords) :
    ParsesAs (proxyspecParseLoop env natengine tmp (.target spec af) global 0
        (ListenerDecl.targetArgv target ++ rest)) (ListenerDecl.buildTarget env target af spec)
      fun spec => proxyspecParseLoop env natengine tmp (.proto (some spec)) global 0 rest := by
  rcases target with _ | ⟨addr, port⟩
  · exact ⟨global, proxyspecParseLoop_target_rewind hrest⟩
  obtain ⟨hk, hsni, hnat⟩ := htarget _ rfl
  rcases ht : proxyspecSetTargetAddr env spec addr port af with ⟨rc, spec'⟩
  refine ⟨global.push (some spec'), ?_⟩
  by_cases hrc : rc = -1 <;>
    simp [ListenerDecl.targetArgv, ListenerDecl.buildTarget, proxyspecParseLoop,
      proxyspecParseStep, targetStep, hk, hsni, hnat, ht, hrc]

theorem proxyspecParseLoop_divertArgv {spec : Proxyspec} {af : Int}
    {divert : Option (String × String × String)} {rest : List String}
    (hrest : divert = none → ∀ t ∈ rest.head?, strstr t "up:" = false) :
    ParsesAs (proxyspecParseLoop env natengine tmp (.divert spec af) global 0
        (ListenerDecl.divertArgv divert ++ rest)) (ListenerDecl.buildDivert env divert spec)
      fun spec => proxyspecParseLoop env natengine tmp (.target spec af) global 0 rest := by
  rcases divert with _ | ⟨port, addr, ret⟩
  · exact ⟨global, proxyspecParseLoop_divert_target (hrest rfl)⟩
  -- `up:` takes the `ua:` and `ra:` tokens after it
  have hlook : divertLookahead (("ua:" ++ addr) :: ("ra:" ++ ret) :: rest) = (addr, ret, 2) := by
    simp [divertLookahead, strstr_prefix, drop_tag "ua:" addr rfl, drop_tag "ra:" ret rfl]
  rcases hd : proxyspecSetDivertAddr env spec addr port with ⟨rc₁, spec₁⟩
  rcases hr : proxyspecSetReturnAddr env spec₁ ret with ⟨rc₂, spec₂⟩
  by_cases hrc₁ : rc₁ = -1
  · refine ⟨global.push (some spec₁), ?_⟩
    simp [ListenerDecl.divertArgv, ListenerDecl.buildDivert, proxyspecParseLoop,
      proxyspecParseStep, strstr_prefix, drop_tag "up:" port rfl, hlook, hd, hrc₁]
  refine ⟨global.push (some spec₂), ?_⟩
  by_cases hrc₂ : rc₂ = -1 <;>
    simp [ListenerDecl.divertArgv, ListenerDecl.buildDivert, proxyspecParseLoop,
      proxyspecParseStep, strstr_prefix, drop_tag "up:" port rfl, hlook, hd, hr, hrc₁, hrc₂]

/-- One declaration, and the tokens after it: `case 0` puts the listener last
begun in front of the list, and the loop builds the next one as `build` does
on a clone of the global options. -/
theorem proxyspecParseLoop_argv {d : ListenerDecl} {rest : List String} (hwf : d.WellFormed env)
    (hrest : ∀ t ∈ rest.head?, t ∈ protoKeywords) (last : Option Proxyspec) :
    ParsesAs (proxyspecParseLoop env natengine tmp (.proto last) global 0 (d.argv ++ rest))
      ((proxyspecNew env global tmp).bind (d.build env natengine))
      fun spec => proxyspecParseLoop env natengine tmp (.proto (some spec)) (global.push last) 0
        rest := by
  obtain ⟨proto, addr, port, divert, target⟩ := d
  rcases hnew : proxyspecNew env global tmp with _ | spec₀
  · refine ⟨global.push last, ?_⟩
    simp [ListenerDecl.argv, proxyspecParseLoop, proxyspecParseStep, beginSpec, proxyspecNew_push,
      hnew]
  rcases hp : proxyspecSetProto spec₀ proto with ⟨rc₁, spec₁⟩
  by_cases hrc₁ : rc₁ = -1
  · refine ⟨(global.push last).push (some spec₁), ?_⟩
    simp [ListenerDecl.argv, ListenerDecl.build, proxyspecParseLoop, proxyspecParseStep, beginSpec,
      proxyspecNew_push, hnew, hp, hrc₁]
  rcases hl : proxyspecSetListenAddr env spec₁ addr port natengine with ⟨af, spec₂⟩
  by_cases haf : af = -1
  · refine ⟨(global.push last).push (some spec₂), ?_⟩
    simp [ListenerDecl.argv, ListenerDecl.build, proxyspecParseLoop, proxyspecParseStep, beginSpec,
      proxyspecNew_push, hnew, hp, hrc₁, hl, haf]
  have hhead : proxyspecParseLoop env natengine tmp (.proto last) global 0
      (ListenerDecl.argv ⟨proto, addr, port, divert, target⟩ ++ rest) =
      proxyspecParseLoop env natengine tmp (.divert spec₂ af) (global.push last) 0
        (ListenerDecl.divertArgv divert ++ (ListenerDecl.targetArgv target ++ rest)) := by
    simp [ListenerDecl.argv, proxyspecParseLoop, proxyspecParseStep, beginSpec,
      proxyspecNew_push, hnew, hp, hrc₁, hl, haf]
  have hbuild : (some spec₀).bind (ListenerDecl.build env natengine
      ⟨proto, addr, port, divert, target⟩) =
      (ListenerDecl.buildDivert env divert spec₂).bind
        (ListenerDecl.buildTarget env target af) := by
    simp [ListenerDecl.build, hp, hrc₁, hl, haf]
  have hrest' : divert = none → ∀ t ∈ (ListenerDecl.targetArgv target ++ rest).head?,
      strstr t "up:" = false := by
    intro _ t ht
    rcases target with _ | ⟨a, p⟩
    · exact strstr_up_of_protoKeyword (hrest t ht)
    · cases ht; exact (hwf _ rfl).2.2.2
  rw [hhead, hbuild]
  exact (proxyspecParseLoop_divertArgv hrest').bind fun _ => proxyspecParseLoop_targetArgv
    (fun t ht => let ⟨hk, hsni, hnat, _⟩ := hwf t ht; ⟨hk, hsni, hnat⟩) hrest

/-- The one-line form refines `build`: when `proxyspec_parse` accepts the
tokens, it made one listener, `build` on the listener `proxyspec_new` gives,
followed by `set_divert`. -/
theorem proxyspecParse_argv {d : ListenerDecl} (hwf : d.WellFormed env)
    (h : proxyspecParse env natengine global tmp d.argv = .ok (rc, global')) (hrc : rc ≠ -1) :
    ∃ spec₀ spec, proxyspecNew env global tmp = some spec₀ ∧
      d.build env natengine spec₀ = some spec ∧
      (rc, global') = (0, global.push (some (setDivert spec tmp.split))) := by
  have hparse : ParsesAs (proxyspecParse env natengine global tmp d.argv)
      ((proxyspecNew env global tmp).bind (d.build env natengine))
      fun spec => .ok (0, global.push (some (setDivert spec tmp.split))) := by
    rw [proxyspecParse, ← List.append_nil d.argv]
    exact proxyspecParseLoop_argv hwf (by nofun) none
  obtain ⟨g, hg⟩ := hparse
  rw [h] at hg
  rcases hb : (proxyspecNew env global tmp).bind (d.build env natengine) with _ | spec
  · rw [hb] at hg
    cases hg
    exact absurd rfl hrc
  · rw [hb] at hg
    obtain ⟨spec₀, hnew, hbuild⟩ := Option.bind_eq_some.mp hb
    exact ⟨spec₀, spec, hnew, hbuild, Except.ok.inj hg⟩

end OneLine

/-! ## The default return address

`load_proxyspec_struct` sets the return address `127.0.0.1` before it reads
the block.  Every setter but `proxyspec_set_return_addr` leaves the return
address alone, so a block runs as on a listener without it, with the default
put back unless the block has its own `ReturnAddr`. -/

section ReturnAddr

variable (env : Env) (x : Option Sockaddr)

theorem proxyspecSetProto_childSrcAddr (spec : Proxyspec) (value : String) :
    proxyspecSetProto { spec with childSrcAddr := x } value =
      Prod.map id (fun s => { s with childSrcAddr := x }) (proxyspecSetProto spec value) := by
  simp only [proxyspecSetProto,
    apply_ite (Prod.map id fun s : Proxyspec => { s with childSrcAddr := x })]
  repeat' (apply ite_congr rfl <;> intro _)
  all_goals rfl

theorem proxyspecSetListenAddr_childSrcAddr (spec : Proxyspec) (addr port : String)
    (natengine : Option String) :
    proxyspecSetListenAddr env { spec with childSrcAddr := x } addr port natengine =
      Prod.map id (fun s => { s with childSrcAddr := x })
        (proxyspecSetListenAddr env spec addr port natengine) := by
  unfold proxyspecSetListenAddr; split <;> rfl

theorem buildTarget_childSrcAddr (target : Option (String × String)) (af : Int)
    (spec : Proxyspec) :
    ListenerDecl.buildTarget env target af { spec with childSrcAddr := x } =
      (ListenerDecl.buildTarget env target af spec).map fun s => { s with childSrcAddr := x } := by
  rcases target with _ | ⟨addr, port⟩
  · rfl
  · simp only [ListenerDecl.buildTarget, proxyspecSetTargetAddr]
    cases env.sysSockaddrParse addr port af false <;> rfl

/-- `ReturnAddr` overwrites the return address a listener had. -/
theorem buildDivert_childSrcAddr (divert : Option (String × String × String)) (spec : Proxyspec) :
    ListenerDecl.buildDivert env divert { spec with childSrcAddr := x } =
      (ListenerDecl.buildDivert env divert spec).map fun s =>
        if divert.isSome then s else { s with childSrcAddr := x } := by
  rcases divert with _ | ⟨port, addr, ret⟩
  · rfl
  · simp only [ListenerDecl.buildDivert, proxyspecSetDivertAddr, proxyspecSetReturnAddr,
      Option.isSome_some, if_true]
    cases env.sysSockaddrParse addr port afInet true <;>
      cases env.sysSockaddrParse ret "0" afInet true <;> rfl

theorem setDivert_childSrcAddr (spec : Proxyspec) (split : Bool) :
    setDivert { spec with childSrcAddr := x } split =
      { setDivert spec split with childSrcAddr := x } := by
  have hlen : ({ spec with childSrcAddr := x } : Proxyspec).connDstAddrlen = spec.connDstAddrlen :=
    rfl
  unfold setDivert
  rw [hlen]
  split <;> rfl

/-- A declaration run on a listener with a return address ends as on one
without it, with the return address put back unless the declaration sets its
own. -/
theorem ListenerDecl.build_childSrcAddr (natengine : Option String) (d : ListenerDecl)
    (spec : Proxyspec) :
    d.build env natengine { spec with childSrcAddr := x } =
      (d.build env natengine spec).map fun s =>
        if d.divert.isSome then s else { s with childSrcAddr := x } := by
  obtain ⟨proto, addr, port, divert, target⟩ := d
  rcases hp : proxyspecSetProto spec proto with ⟨rc, spec₁⟩
  rcases hl : proxyspecSetListenAddr env spec₁ addr port natengine with ⟨af, spec₂⟩
  have hp' := proxyspecSetProto_childSrcAddr x spec proto
  have hl' := proxyspecSetListenAddr_childSrcAddr env x spec₁ addr port natengine
  rw [hp] at hp'
  rw [hl] at hl'
  simp only [build, hp, hp', hl, hl', Prod.map, id]
  by_cases hrc : rc = -1
  · simp [hrc]
  by_cases haf : af = -1
  · simp [hrc, haf]
  simp only [hrc, haf, if_false, buildDivert_childSrcAddr, Option.map_bind]
  rcases divert with _ | ⟨dport, daddr, ret⟩
  · simp [buildDivert, buildTarget_childSrcAddr]
  · cases buildDivert env (some (dport, daddr, ret)) spec₂ <;> simp

end ReturnAddr

/-! ## The structured form -/

/-- The block state after the directives `ds`, read after line `lineNum`, as
long as none fails or closes the block. -/
def setProxyspecOptions (env : Env) (b : BlockState) (lineNum : Nat) :
    List (String × String) → Option BlockState
  | [] => some b
  | (name, value) :: ds =>
    let (rc, b) := setProxyspecOption env b name value (lineNum + 1)
    if rc = -1 ∨ rc = 2 then none else setProxyspecOptions env b (lineNum + 1) ds

section Block

variable {env : Env}

/-- A setter that returns `0` or `-1` and did not fail returned `0`. -/
theorem code_eq_zero {r : Int × Proxyspec} {rc : Int} {spec : Proxyspec}
    (hcode : r.1 = -1 ∨ r.1 = 0) (h : r = (rc, spec)) (hrc : rc ≠ -1) : rc = 0 := by
  subst h; exact hcode.resolve_left hrc

theorem setProxyspecOptions_append (b : BlockState) (lineNum : Nat)
    (ds ds' : List (String × String)) :
    setProxyspecOptions env b lineNum (ds ++ ds') =
      (setProxyspecOptions env b lineNum ds).bind fun b =>
        setProxyspecOptions env b (lineNum + ds.length) ds' := by
  induction ds generalizing b lineNum with
  | nil => rfl
  | cons d ds ih =>
    simp only [List.cons_append, setProxyspecOptions, List.length_cons, List.append_eq]
    split_ifs
    · rfl
    · rw [ih, Nat.add_assoc, Nat.add_comm 1]

/-- Lines whose directives run through without failing or closing leave the
line loop where `setProxyspecOptions` says. -/
theorem blockLoop_options {lines : List String} :
    ∀ {ds : List (String × String)} {b b' : BlockState} {lineNum : Nat},
      lines.map blockDirective = ds.map some → setProxyspecOptions env b lineNum ds = some b' →
      ∀ rest, blockLoop env b lineNum (lines ++ rest) =
        let r := blockLoop env b' (lineNum + lines.length) rest
        (r.1, r.2.1, r.2.2.1, r.2.2.2 + lines.length) := by
  induction lines with
  | nil =>
    intro ds b b' lineNum hlines h rest
    obtain rfl : ds = [] := List.map_eq_nil_iff.mp hlines.symm
    cases h
    rfl
  | cons line lines ih =>
    intro ds b b' lineNum hlines h rest
    obtain ⟨⟨name, value⟩, ds, rfl, hline, hlines⟩ := List.map_eq_cons_iff.mp hlines.symm
    obtain ⟨name', hname', hsplit⟩ := Option.bind_eq_some.mp hline.symm
    rcases hs : setProxyspecOption env b name value (lineNum + 1) with ⟨rc, b₁⟩
    simp only [setProxyspecOptions, hs] at h
    split_ifs at h with hrc
    rw [List.cons_append, blockLoop]
    simp only [hname', hsplit, hs, if_neg (fun h => hrc (.inl h)), if_neg (fun h => hrc (.inr h))]
    rw [ih hlines.symm h rest]
    simp only [List.length_cons, Nat.add_assoc, Nat.add_comm 1]

/-- `Proto`, `Addr` and `Port`: a `Port` never fails, it records the family
`proxyspec_set_listen_addr` returns. -/
theorem setProxyspecOptions_head (b : BlockState) (lineNum : Nat) {proto addr port : String}
    {rc af : Int} {spec₁ spec₂ : Proxyspec}
    (hp : proxyspecSetProto b.spec proto = (rc, spec₁)) (hrc : rc ≠ -1)
    (hl : proxyspecSetListenAddr env spec₁ addr port b.natengine = (af, spec₂))
    (hne : proto ≠ "" ∧ addr ≠ "" ∧ port ≠ "") :
    setProxyspecOptions env b lineNum [("Proto", proto), ("Addr", addr), ("Port", port)] =
      some ⟨spec₂, b.natengine, { b.addrs with addr := some addr, af }⟩ := by
  have hrc0 := code_eq_zero proxyspecSetProto_code hp hrc
  obtain ⟨hp', ha, hpo⟩ := hne
  simp [setProxyspecOptions, setProxyspecOption, BlockState.withSpec, hp, hp', ha, hpo, hl,
    hrc0]

theorem setProxyspecOptions_divert (b : BlockState) (lineNum : Nat)
    {divert : Option (String × String × String)} {spec : Proxyspec}
    (hne : ∀ p ∈ ListenerDecl.divertDirectives divert, p.2 ≠ "")
    (h : ListenerDecl.buildDivert env divert b.spec = some spec) :
    ∃ addrs, setProxyspecOptions env b lineNum (ListenerDecl.divertDirectives divert) =
        some ⟨spec, b.natengine, addrs⟩ ∧
      addrs.addr = b.addrs.addr ∧ addrs.af = b.addrs.af := by
  rcases divert with _ | ⟨port, addr, ret⟩
  · cases h; exact ⟨b.addrs, rfl, rfl, rfl⟩
  simp only [ListenerDecl.divertDirectives, List.mem_cons, List.mem_singleton, forall_eq_or_imp,
    forall_eq, List.not_mem_nil, false_imp_iff, implies_true, and_true] at hne
  obtain ⟨ha, hp, hr⟩ := hne
  rcases hd : proxyspecSetDivertAddr env b.spec addr port with ⟨rc, spec₁⟩
  rcases hret : proxyspecSetReturnAddr env spec₁ ret with ⟨rc', spec₂⟩
  simp only [ListenerDecl.buildDivert, hd, hret] at h
  split_ifs at h with hrc hrc'
  cases h
  have hrc0 := code_eq_zero proxyspecSetDivertAddr_code hd hrc
  have hrc0' := code_eq_zero proxyspecSetReturnAddr_code hret hrc'
  refine ⟨{ b.addrs with divertAddr := some addr }, ?_, rfl, rfl⟩
  simp [setProxyspecOptions, setProxyspecOption, BlockState.withSpec, ha, hp, hr, hd, hret, hrc0,
    hrc0']

theorem setProxyspecOptions_target (b : BlockState) (lineNum : Nat)
    {target : Option (String × String)} {spec : Proxyspec}
    (hne : ∀ p ∈ ListenerDecl.targetDirectives target, p.2 ≠ "")
    (h : ListenerDecl.buildTarget env target b.addrs.af b.spec = some spec) :
    ∃ addrs, setProxyspecOptions env b lineNum (ListenerDecl.targetDirectives target) =
        some ⟨spec, b.natengine, addrs⟩ ∧
      addrs.addr = b.addrs.addr ∧ addrs.af = b.addrs.af := by
  rcases target with _ | ⟨addr, port⟩
  · cases h; exact ⟨b.addrs, rfl, rfl, rfl⟩
  simp only [ListenerDecl.targetDirectives, List.mem_cons, List.mem_singleton, forall_eq_or_imp,
    forall_eq, List.not_mem_nil, false_imp_iff, implies_true, and_true] at hne
  obtain ⟨ha, hp⟩ := hne
  rcases ht : proxyspecSetTargetAddr env b.spec addr port b.addrs.af with ⟨rc, spec₁⟩
  simp only [ListenerDecl.buildTarget, ht] at h
  split_ifs at h with hrc
  cases h
  have hrc0 := code_eq_zero proxyspecSetTargetAddr_code ht hrc
  refine ⟨{ b.addrs with targetAddr := some addr }, ?_, rfl, rfl⟩
  simp [setProxyspecOptions, setProxyspecOption, BlockState.withSpec, ha, hp, ht, hrc0]

/-- The closing brace ends a block that has its listen address. -/
theorem blockLoop_close {b : BlockState} {lineNum : Nat} {line : String}
    (hline : blockDirective line = some ("\x7d", "")) (haddr : b.addrs.addr.isSome)
    (haf : b.addrs.af ≠ 0) (rest : List String) :
    blockLoop env b lineNum (line :: rest) = (.closed, b, lineNum + 1, 1) := by
  obtain ⟨name, hname, hsplit⟩ := Option.bind_eq_some.mp hline
  have hclose : setProxyspecOption env b "\x7d" "" (lineNum + 1) = (2, b) := by
    simp [setProxyspecOption, Option.isSome_iff_ne_none.mp haddr, haf]
  simp only [blockLoop, hname, hsplit, hclose]
  rfl

/-- The names before the closing brace are not the closing brace. -/
theorem ListenerDecl.name_ne_close (d : ListenerDecl) :
    ∀ p ∈ [("Proto", d.proto), ("Addr", d.addr), ("Port", d.port)] ++
      ListenerDecl.divertDirectives d.divert ++ ListenerDecl.targetDirectives d.target,
      p.1 ≠ "\x7d" := by
  obtain ⟨proto, addr, port, divert, target⟩ := d
  rcases divert with _ | ⟨_, _, _⟩ <;> rcases target with _ | ⟨_, _⟩ <;>
    simp [ListenerDecl.divertDirectives, ListenerDecl.targetDirectives]

/-- The block refines `build`: its lines, closing brace included, run to the
listener `build` gives on the listener the block started with. -/
theorem blockLoop_listenerDecl {d : ListenerDecl} (b : BlockState) {lines : List String}
    {spec : Proxyspec} (hvalues : ∀ p ∈ d.directives, p.1 ≠ "\x7d" → p.2 ≠ "")
    (hlines : lines.map blockDirective = d.directives.map some)
    (h : d.build env b.natengine b.spec = some spec) (lineNum : Nat) (post : List String) :
    ∃ addrs, blockLoop env b lineNum (lines ++ post) =
      (.closed, ⟨spec, b.natengine, addrs⟩, lineNum + lines.length, lines.length) := by
  obtain ⟨proto, addr, port, divert, target⟩ := d
  have hne : ∀ p ∈ [("Proto", proto), ("Addr", addr), ("Port", port)] ++
      ListenerDecl.divertDirectives divert ++ ListenerDecl.targetDirectives target,
      p.2 ≠ "" := fun p hp =>
    hvalues p (List.mem_append_left _ hp)
      (ListenerDecl.name_ne_close ⟨proto, addr, port, divert, target⟩ p hp)
  rcases hp : proxyspecSetProto b.spec proto with ⟨rc, spec₁⟩
  rcases hl : proxyspecSetListenAddr env spec₁ addr port b.natengine with ⟨af, spec₂⟩
  simp only [ListenerDecl.build, hp, hl] at h
  split_ifs at h with hrc haf
  obtain ⟨spec₃, hd, ht⟩ := Option.bind_eq_some.mp h
  have hhead := setProxyspecOptions_head b lineNum hp hrc hl
    ⟨hne ("Proto", proto) (by simp), hne ("Addr", addr) (by simp), hne ("Port", port) (by simp)⟩
  obtain ⟨addrs₁, hdiv, haddr₁, haf₁⟩ := setProxyspecOptions_divert
    ⟨spec₂, b.natengine, { b.addrs with addr := some addr, af }⟩
    (lineNum + [("Proto", proto), ("Addr", addr), ("Port", port)].length)
    (fun p hp => hne p (List.mem_append_left _ (List.mem_append_right _ hp))) hd
  obtain ⟨addrs₂, htgt, haddr₂, haf₂⟩ := setProxyspecOptions_target
    ⟨spec₃, b.natengine, addrs₁⟩
    (lineNum + ([("Proto", proto), ("Addr", addr), ("Port", port)] ++
      ListenerDecl.divertDirectives divert).length)
    (fun p hp => hne p (List.mem_append_right _ hp)) (by rw [haf₁]; exact ht)
  have hall : setProxyspecOptions env b lineNum
      ([("Proto", proto), ("Addr", addr), ("Port", port)] ++
        ListenerDecl.divertDirectives divert ++ ListenerDecl.targetDirectives target) =
      some ⟨spec, b.natengine, addrs₂⟩ := by
    rw [setProxyspecOptions_append, setProxyspecOptions_append, hhead, Option.some_bind, hdiv,
      Option.some_bind, htgt]
  rw [ListenerDecl.directives, List.map_append] at hlines
  obtain ⟨lines₁, lines₂, rfl, hlines₁, hlines₂⟩ := List.map_eq_append_iff.mp hlines
  obtain ⟨close, _, rfl, hclose, hnil⟩ := List.map_eq_cons_iff.mp hlines₂
  obtain rfl := List.map_eq_nil_iff.mp hnil
  have hpos : 0 < af := by
    have hcode := proxyspecSetListenAddr_af env spec₁ addr port b.natengine
    rw [hl] at hcode
    exact (hcode.resolve_left haf).1
  refine ⟨addrs₂, ?_⟩
  rw [List.append_assoc, List.singleton_append, blockLoop_options hlines₁ hall (close :: post),
    blockLoop_close hclose (by simp [haddr₂, haddr₁]) (by rw [haf₂, haf₁]; exact hpos.ne')]
  simp only [List.length_append, List.length_singleton, Nat.add_assoc, Nat.add_comm 1]

end Block

/-! ## The two forms agree -/

/-- A block declares the listener the one-line form declares, but for the
default return address. -/
theorem loadProxyspecStruct_oneLine {env : Env} {d : ListenerDecl} {c : Conf}
    {lines : List String} {rc : Int} {global : Global} {sa : Sockaddr} (hwf : d.WellFormed env)
    (hvalues : ∀ p ∈ d.directives, p.1 ≠ "\x7d" → p.2 ≠ "")
    (hlines : lines.map blockDirective = d.directives.map some)
    (hlocal : env.sysSockaddrParse "127.0.0.1" "0" afInet true = some sa)
    (hparse : proxyspecParse env c.natengine c.global c.tmp d.argv = .ok (rc, global))
    (hrc : rc ≠ -1) (lineNum : Nat) (post : List String) :
    ∃ spec, global = c.global.push (some spec) ∧
      loadProxyspecStruct env c lineNum (some (lines ++ post)) =
        .ok (0, { c with global := c.global.push (some (if d.divert.isSome then spec
                    else { spec with childSrcAddr := some sa })) },
          lineNum + lines.length, lines.length) := by
  obtain ⟨spec₀, spec, hnew, hbuild, h⟩ := proxyspecParse_argv hwf hparse hrc
  cases h
  have hret : proxyspecSetReturnAddr env spec₀ "127.0.0.1" =
      (0, { spec₀ with childSrcAddr := some sa }) := by
    simp [proxyspecSetReturnAddr, hlocal]
  have hbuild' : d.build env c.natengine { spec₀ with childSrcAddr := some sa } =
      some (if d.divert.isSome then spec else { spec with childSrcAddr := some sa }) := by
    rw [ListenerDecl.build_childSrcAddr, hbuild]
    rfl
  obtain ⟨addrs, hloop⟩ :=
    blockLoop_listenerDecl ⟨_, c.natengine, .empty⟩ hvalues hlines hbuild' lineNum post
  refine ⟨setDivert spec c.tmp.split, rfl, ?_⟩
  simp only [loadProxyspecStruct, hnew, hret, hloop, ↓reduceIte]
  cases d.divert.isSome
  · simp only [Bool.false_eq_true, ↓reduceIte, setDivert_childSrcAddr]
    rfl
  · rfl

/-- `load_proxyspec_line` splits the one-line form, written with single
spaces, back into its tokens. -/
theorem ListenerDecl.strtok_argv {d : ListenerDecl}
    (htok : ∀ t ∈ d.argv, t ≠ "" ∧ ' ' ∉ t.toList) :
    strtok [' '] (" ".intercalate d.argv) = d.argv :=
  strtok_intercalate rfl (List.mem_singleton_self _) fun t ht =>
    ⟨(htok t ht).1, fun _ hc hsp => (htok t ht).2 (List.mem_singleton.mp hsp ▸ hc)⟩

/-- A one-line form has three to eight tokens: the longest is exactly
`MAX_TOKENS` long. -/
theorem ListenerDecl.argv_length (d : ListenerDecl) :
    3 ≤ d.argv.length ∧ d.argv.length ≤ maxTokens := by
  obtain ⟨proto, addr, port, divert, target⟩ := d
  rcases divert with _ | ⟨_, _, _⟩ <;> rcases target with _ | ⟨_, _⟩ <;>
    simp [argv, divertArgv, targetArgv, maxTokens]

/-- The line `ProxySpec` with the tokens of a declaration, and the block
`ProxySpec {` with its lines: when the line is accepted, the block is too, and
both add the same listener to the configuration, but for the return address
`127.0.0.1` that the block gives a listener without `up:`.  Nothing else of
the configuration changes, and the block reads its lines to the closing brace
and no further. -/
theorem setGlobalOption_oneLine_block {env : Env}
    {incl : Conf → String → Except Fault (Int × Conf)} {d : ListenerDecl} {c c' : Conf}
    {lines : List String} {sa : Sockaddr}
    {lineNum lineNum' read : Nat} {f : Option (List String)} (hwf : d.WellFormed env)
    (htok : ∀ t ∈ d.argv, t ≠ "" ∧ ' ' ∉ t.toList)
    (hvalues : ∀ p ∈ d.directives, p.1 ≠ "\x7d" → p.2 ≠ "")
    (hlines : lines.map blockDirective = d.directives.map some)
    (hlocal : env.sysSockaddrParse "127.0.0.1" "0" afInet true = some sa)
    (hline : setGlobalOption env incl c "ProxySpec" (" ".intercalate d.argv) lineNum f =
      .ok (0, c', lineNum', read))
    (post : List String) :
    ∃ spec, c' = { c with global := c.global.push (some spec) } ∧
      setGlobalOption env incl c "ProxySpec" "\x7b" lineNum (some (lines ++ post)) =
        .ok (0, { c with global := c.global.push (some (if d.divert.isSome then spec
                    else { spec with childSrcAddr := some sa })) },
          lineNum + lines.length, lines.length) := by
  have htoks := ListenerDecl.strtok_argv htok
  obtain ⟨hthree, hmax⟩ := d.argv_length
  -- the one-line value is neither empty nor an opening brace
  have hv : " ".intercalate d.argv ≠ "" := fun h => by
    rw [h] at htoks
    rw [← htoks] at hthree
    exact absurd hthree (by decide)
  have hb : " ".intercalate d.argv ≠ "\x7b" := fun h => by
    rw [h] at htoks
    rw [← htoks] at hthree
    exact absurd hthree (by decide)
  simp only [setGlobalOption, hv, hb, if_false, if_true] at hline
  obtain ⟨⟨rc, c₁⟩, hl, h⟩ := Except.bind_eq_ok.mp hline
  simp only [pure_eq_ok, Prod.mk.injEq] at h
  obtain ⟨rfl, rfl, -, -⟩ := h
  simp only [loadProxyspecLine, htoks, Nat.not_lt.mpr hmax, if_false] at hl
  obtain ⟨⟨rc', global⟩, hparse, hl⟩ := Except.bind_eq_ok.mp hl
  simp only [pure_eq_ok, Prod.mk.injEq] at hl
  obtain ⟨hrc, rfl⟩ := hl
  have hrc' : rc' ≠ -1 := fun h => by simp [h] at hrc
  obtain ⟨spec, rfl, hblock⟩ :=
    loadProxyspecStruct_oneLine hwf hvalues hlines hlocal hparse hrc' lineNum post
  exact ⟨spec, rfl, by rw [setGlobalOption_block, hblock]⟩

/-- The line `ProxySpec https 127.0.0.1 8443 up:8080 ua:127.0.0.1
ra:127.0.0.1 10.0.0.1 443` and its block. -/
theorem setGlobalOption_oneLine_block_sample :
    ∃ c', setGlobalOption Env.sample (fun c _ => pure (-1, c))
        (Conf.init 2048 (some "ipfw") false)
        "ProxySpec" "https 127.0.0.1 8443 up:8080 ua:127.0.0.1 ra:127.0.0.1 10.0.0.1 443" 0 none =
        .ok (0, c', 0, 0) ∧
      ∃ spec, c' = { Conf.init 2048 (some "ipfw") false with
          global := (globalNew 2048).push (some spec) } ∧
        setGlobalOption Env.sample (fun c _ => pure (-1, c)) (Conf.init 2048 (some "ipfw") false)
          "ProxySpec" "\x7b" 0
          (some (["Proto https\n", "Addr 127.0.0.1\n", "Port 8443\n", "DivertAddr 127.0.0.1\n",
            "DivertPort 8080\n", "ReturnAddr 127.0.0.1\n", "TargetAddr 10.0.0.1\n",
            "TargetPort 443\n", "\x7d\n"] ++ [])) =
          .ok (0, { Conf.init 2048 (some "ipfw") false with
            global := (globalNew 2048).push (some spec) }, 0 + 9, 9) := by
  have hline : setGlobalOption Env.sample (fun c _ => pure (-1, c))
      (Conf.init 2048 (some "ipfw") false) "ProxySpec"
      (" ".intercalate (ListenerDecl.argv ⟨"https", "127.0.0.1", "8443",
        some ("8080", "127.0.0.1", "127.0.0.1"), some ("10.0.0.1", "443")⟩)) 0 none =
      .ok (0, _, 0, 0) := rfl
  have hlines : ["Proto https\n", "Addr 127.0.0.1\n", "Port 8443\n", "DivertAddr 127.0.0.1\n",
      "DivertPort 8080\n", "ReturnAddr 127.0.0.1\n", "TargetAddr 10.0.0.1\n", "TargetPort 443\n",
      "\x7d\n"].map blockDirective =
      (ListenerDecl.directives ⟨"https", "127.0.0.1", "8443",
        some ("8080", "127.0.0.1", "127.0.0.1"), some ("10.0.0.1", "443")⟩).map some := rfl
  obtain ⟨spec, hc, h⟩ := setGlobalOption_oneLine_block
    (by simp [ListenerDecl.WellFormed, protoKeywords, Env.sample, strstr]; decide)
    (by simp [ListenerDecl.argv, ListenerDecl.divertArgv, ListenerDecl.targetArgv])
    (by simp [ListenerDecl.directives, ListenerDecl.divertDirectives,
      ListenerDecl.targetDirectives]) hlines rfl hline []
  exact ⟨_, hline, spec, hc, h⟩

end SSLproxy
