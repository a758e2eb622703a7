import SSLproxy.Conf.Compose
import SSLproxy.Spec.Destination

/-!
# What a one-line listener inherits

`sslproxy.conf(5)`: "The other options of one line proxyspecs are set to the
global configuration preceding them."  `proxyspec_new` clones the global
options into each listener it begins, no setter of the `proxyspec_parse`
automaton writes them, and `set_divert` can only turn diverting off: every
listener the automaton adds has the clone up to that flag
(`proxyspecParse_clonedFrom`), failing runs included.

Over a run of `-o` options, which is also what a configuration file without
blocks loads as (`optsLoadConffile_globalSetOptions`), the listeners of a
one-line `ProxySpec` option have the global options that the options before it
left, and the options after it only put listeners in front of them
(`globalSetOptions_proxyspec_preceding`).  A block is different: its lines
override the clone, as `Conf.Override` describes.
-/

namespace SSLproxy

/-- The listener has the options `o`, with diverting turned off or not. -/
def Proxyspec.OptsFrom (o : Opts) (spec : Proxyspec) : Prop :=
  spec.opts = o ∨ spec.opts = { o with divert := false }

/-- The listener has, up to `set_divert`, the options `proxyspec_new` clones
from `global`. -/
def Proxyspec.ClonedFrom (env : Env) (global : Global) (tmp : TmpGlobalOpts)
    (spec : Proxyspec) : Prop :=
  ∃ o, globalOptsCopy env global tmp = some o ∧ spec.OptsFrom o

/-! ## No listener setter writes the options -/

section Setters

variable {env : Env} {spec : Proxyspec}

theorem setDivert_optsFrom {o : Opts} (h : spec.opts = o) (split : Bool) :
    (setDivert spec split).OptsFrom o := by
  unfold setDivert
  split
  · exact .inr (by rw [h])
  · exact .inl h

end Setters

/-- The clone reads no listener. -/
theorem globalOptsCopy_push (env : Env) (global : Global) (tmp : TmpGlobalOpts)
    (x : Option Proxyspec) :
    globalOptsCopy env (global.push x) tmp = globalOptsCopy env global tmp := by
  cases x <;> rfl

theorem Global.Adds.mono {P Q : Proxyspec → Prop} {g₀ g : Global} (h : g₀.Adds P g)
    (hPQ : ∀ s, P s → Q s) : g₀.Adds Q g :=
  let ⟨new, hg, hnew⟩ := h; ⟨new, hg, fun s hs => hPQ s (hnew s hs)⟩

/-! ## The automaton -/

/-- A step keeps the state invariant `I` and puts only listeners that satisfy
`P` in front of the list. -/
def ParseStep.Keeps (I : ParseState → Prop) (P : Proxyspec → Prop) (global : Global) :
    ParseStep → Prop
  | .fail g => global.Adds P g
  | .next state g _ => I state ∧ global.Adds P g

/-- The listener has the options `clone`. -/
def Proxyspec.HasOpts (clone : Option Opts) (spec : Proxyspec) : Prop :=
  ∃ o, clone = some o ∧ spec.opts = o

/-- The listener of the state, if any, has the options `clone`. -/
def ParseState.HasOpts (clone : Option Opts) (state : ParseState) : Prop :=
  ∀ s ∈ state.spec?, s.HasOpts clone

theorem ParseStep.Keeps.of_adds {I : ParseState → Prop} {P : Proxyspec → Prop}
    {global g : Global}
    {step : ParseStep} (hg : global.Adds P g) (h : step.Keeps I P g) : step.Keeps I P global := by
  cases step with
  | fail => exact hg.trans h
  | next => exact ⟨h.1, hg.trans h.2⟩

section Parse

variable {env : Env} {natengine : Option String} {tmp : TmpGlobalOpts} {global : Global}
  {clone : Option Opts}

theorem Proxyspec.HasOpts.some {spec : Proxyspec} (h : spec.HasOpts clone) :
    ∀ s ∈ some spec, s.HasOpts clone := fun _ hs => by cases hs; exact h

theorem Proxyspec.HasOpts.of_opts {spec spec' : Proxyspec} (h : spec.HasOpts clone)
    (heq : spec'.opts = spec.opts) : spec'.HasOpts clone :=
  let ⟨o, ho, hs⟩ := h; ⟨o, ho, heq.trans hs⟩

theorem beginSpec_hasOpts (hclone : globalOptsCopy env global tmp = clone) (tok : String) :
    (beginSpec env tmp global tok).Keeps (ParseState.HasOpts clone) (Proxyspec.HasOpts clone)
      global := by
  unfold beginSpec
  split
  · exact .refl _
  · rename_i spec hnew
    obtain ⟨o, ho, rfl⟩ := Option.map_eq_some'.mp hnew
    have hspec : (proxyspecSetProto (Proxyspec.empty o) tok).2.HasOpts clone :=
      ⟨o, hclone ▸ ho, by simp [Proxyspec.empty]⟩
    dsimp only
    split_ifs
    · exact (Global.Adds.refl _).push hspec.some
    · exact ⟨hspec.some, .refl _⟩

theorem targetStep_hasOpts (hclone : globalOptsCopy env global tmp = clone) {spec : Proxyspec}
    {af : Int} {tok : String} {step : ParseStep} (hspec : spec.HasOpts clone)
    (h : targetStep env natengine tmp global spec af tok = .ok step) :
    step.Keeps (ParseState.HasOpts clone) (Proxyspec.HasOpts clone) global := by
  unfold targetStep at h
  split_ifs at h
  · cases h
    exact (beginSpec_hasOpts ((globalOptsCopy_push _ _ _ _).trans hclone) tok).of_adds
      ((Global.Adds.refl _).push hspec.some)
  · cases h; exact ⟨hspec.some, .refl _⟩
  · split at h
    · cases h
    · simp only at h
      split_ifs at h
      · cases h; exact (Global.Adds.refl _).push (hspec.of_opts (by simp)).some
      · cases h; exact ⟨(hspec.of_opts (by simp)).some, .refl _⟩
  · cases h; exact ⟨hspec.some, .refl _⟩

theorem proxyspecParseStep_hasOpts (hclone : globalOptsCopy env global tmp = clone)
    {state : ParseState} {tok : String} {rest : List String} {step : ParseStep}
    (hstate : state.HasOpts clone)
    (h : proxyspecParseStep env natengine tmp global state tok rest = .ok step) :
    step.Keeps (ParseState.HasOpts clone) (Proxyspec.HasOpts clone) global := by
  cases state with
  | proto last =>
    cases h
    exact (beginSpec_hasOpts ((globalOptsCopy_push _ _ _ _).trans hclone) tok).of_adds
      ((Global.Adds.refl _).push hstate)
  | listenAddr spec => cases h; exact ⟨hstate, .refl _⟩
  | target spec af => exact targetStep_hasOpts hclone (hstate spec rfl) h
  | divert spec af =>
    simp only [proxyspecParseStep] at h
    split_ifs at h
    · cases h; exact (Global.Adds.refl _).push ((hstate spec rfl).of_opts (by simp)).some
    · cases h; exact (Global.Adds.refl _).push ((hstate spec rfl).of_opts (by simp)).some
    · cases h; exact ⟨((hstate spec rfl).of_opts (by simp)).some, .refl _⟩
    · exact targetStep_hasOpts hclone (hstate spec rfl) h
  | listenPort spec addr | targetPort spec af addr | sniPort spec =>
    simp only [proxyspecParseStep] at h
    split_ifs at h
    · cases h; exact (Global.Adds.refl _).push ((hstate spec rfl).of_opts (by simp)).some
    · cases h; exact ⟨((hstate spec rfl).of_opts (by simp)).some, .refl _⟩

theorem proxyspecParseEnd_cloned {state : ParseState} (hstate : state.HasOpts clone) :
    global.Adds (fun s => ∃ o, clone = some o ∧ s.OptsFrom o)
      (proxyspecParseEnd tmp global state).2 := by
  have hdiv : ∀ spec, spec.HasOpts clone → ∀ s ∈ some (setDivert spec tmp.split),
      ∃ o, clone = some o ∧ s.OptsFrom o := by
    rintro spec ⟨o, ho, hs⟩ _ hmem
    cases hmem
    exact ⟨o, ho, setDivert_optsFrom hs _⟩
  cases state with
  | proto spec =>
    cases spec with
    | none => exact .refl _
    | some spec => exact (Global.Adds.refl _).push (hdiv spec (hstate spec rfl))
  | divert spec _ | target spec _ => exact (Global.Adds.refl _).push (hdiv spec (hstate spec rfl))
  | listenAddr spec | listenPort spec _ | targetPort spec _ _ | sniPort spec =>
    exact (Global.Adds.refl _).push fun s hs =>
      let ⟨o, ho, hs⟩ := hstate s hs; ⟨o, ho, .inl hs⟩

theorem proxyspecParseLoop_cloned {argv : List String} :
    ∀ {state global skip rc g}, globalOptsCopy env global tmp = clone → state.HasOpts clone →
      proxyspecParseLoop env natengine tmp state global skip argv = .ok (rc, g) →
        global.Adds (fun s => ∃ o, clone = some o ∧ s.OptsFrom o) g := by
  induction argv with
  | nil =>
    intro state global skip rc g _ hstate h
    have hend : proxyspecParseEnd tmp global state = (rc, g) := by
      cases skip <;> exact Except.ok.inj h
    have hadds : global.Adds _ (proxyspecParseEnd tmp global state).2 :=
      proxyspecParseEnd_cloned hstate
    rwa [hend] at hadds
  | cons tok rest ih =>
    intro state global skip rc g hclone hstate h
    cases skip with
    | succ skip => exact ih hclone hstate h
    | zero =>
      obtain ⟨step, hstep, h⟩ := Except.bind_eq_ok.mp h
      have hok := proxyspecParseStep_hasOpts hclone hstate hstep
      have hlift : ∀ s : Proxyspec, s.HasOpts clone → ∃ o, clone = some o ∧ s.OptsFrom o :=
        fun _ ⟨o, ho, hs⟩ => ⟨o, ho, .inl hs⟩
      cases step with
      | fail => cases h; exact hok.mono hlift
      | next state' g' =>
        obtain ⟨new, rfl⟩ := proxyspecParseStep_extends hstep
        exact (hok.2.mono hlift).trans (ih hclone hok.1 h)

end Parse

/-- Every listener `proxyspec_parse` puts in front of the list, failing runs
included, has the options it cloned from the global ones, turned out of
diverting at most. -/
theorem proxyspecParse_clonedFrom {env : Env} {natengine : Option String} {global g : Global}
    {tmp : TmpGlobalOpts} {argv : List String} {rc : Int}
    (h : proxyspecParse env natengine global tmp argv = .ok (rc, g)) :
    global.Adds (Proxyspec.ClonedFrom env global tmp) g :=
  proxyspecParseLoop_cloned rfl (fun _ h => by cases h) h

theorem loadProxyspecLine_clonedFrom {env : Env} {c c' : Conf} {value : String} {rc : Int}
    (h : loadProxyspecLine env c value = .ok (rc, c')) :
    c.global.Adds (Proxyspec.ClonedFrom env c.global c.tmp) c'.global := by
  dsimp only [loadProxyspecLine] at h
  split at h
  · cases h; exact .refl _
  · obtain ⟨⟨_, global⟩, hparse, h⟩ := Except.bind_eq_ok.mp h
    cases h
    exact proxyspecParse_clonedFrom hparse

/-! ## A run of options -/

section Options

variable {env : Env} {files : String → Option (List String)} {fuel : Nat}

/-- A one-line `ProxySpec` option adds only listeners cloned from the global
options it finds. -/
theorem globalSetOption_proxyspec_clonedFrom {c c' : Conf} {optarg value : String} {rc : Int}
    (hsplit : getNameValue (skipBlanks (cString optarg)) '=' = some ("ProxySpec", value))
    (hvalue : value ≠ "\x7b") (h : globalSetOption env files fuel c optarg = .ok (rc, c')) :
    c.global.Adds (Proxyspec.ClonedFrom env c.global c.tmp) c'.global := by
  simp only [globalSetOption, hsplit, setGlobalOption, if_true, hvalue, if_false] at h
  split_ifs at h
  · cases h; exact .refl _
  · obtain ⟨⟨_, _, _, _⟩, hset, h⟩ := Except.bind_eq_ok.mp h
    obtain ⟨⟨_, _⟩, hline, hset⟩ := Except.bind_eq_ok.mp hset
    cases hset; cases h
    exact loadProxyspecLine_clonedFrom hline

theorem globalSetOptions_spec_suffix {c c' : Conf} {retval rc : Int} {optargs : List String}
    (h : globalSetOptions env files fuel c retval optargs = .ok (rc, c')) :
    c.global.spec <:+ c'.global.spec := by
  induction optargs generalizing c retval with
  | nil => cases h; exact List.suffix_refl _
  | cons optarg optargs ih =>
    obtain ⟨⟨rc₁, c₁⟩, hopt, h⟩ := Except.bind_eq_ok.mp h
    have hsuffix := globalSetOption_spec_suffix hopt
    dsimp only at h
    split_ifs at h
    · cases h; exact hsuffix
    · exact hsuffix.trans (ih h)

/-- A run that ends with a code other than `-1` ran every option of `pre`,
and went on from where they left it. -/
theorem globalSetOptions_append {c c' : Conf} {retval rc : Int} {pre rest : List String}
    (h : globalSetOptions env files fuel c retval (pre ++ rest) = .ok (rc, c')) (hrc : rc ≠ -1) :
    ∃ r₁ c₁, globalSetOptions env files fuel c retval pre = .ok (r₁, c₁) ∧
      globalSetOptions env files fuel c₁ r₁ rest = .ok (rc, c') := by
  induction pre generalizing c retval with
  | nil => exact ⟨retval, c, rfl, h⟩
  | cons optarg pre ih =>
    obtain ⟨⟨rc₁, c₁⟩, hopt, h⟩ := Except.bind_eq_ok.mp h
    dsimp only at h
    split_ifs at h with h1
    · cases h; exact absurd rfl hrc
    obtain ⟨r₂, c₂, hpre, hrest⟩ := ih h
    refine ⟨r₂, c₂, ?_, hrest⟩
    simp only [globalSetOptions, hopt, bind, Except.bind, if_neg h1, hpre]

/-- The global options that precede a one-line `ProxySpec` option are those
its listeners get, and the options after it leave them as they are: the
options before it lead to a context `c₁`, the `ProxySpec` option adds only
listeners cloned from the global options of `c₁`, with diverting turned off at
most, and the list it leaves is the tail of the final list. -/
theorem globalSetOptions_proxyspec_preceding {c c' : Conf} {retval rc : Int}
    {pre post : List String} {optarg value : String}
    (hsplit : getNameValue (skipBlanks (cString optarg)) '=' = some ("ProxySpec", value))
    (hvalue : value ≠ "\x7b")
    (h : globalSetOptions env files fuel c retval (pre ++ optarg :: post) = .ok (rc, c'))
    (hrc : rc ≠ -1) :
    ∃ r₁ c₁ r₂ c₂, globalSetOptions env files fuel c retval pre = .ok (r₁, c₁) ∧
      globalSetOption env files fuel c₁ optarg = .ok (r₂, c₂) ∧
      c₁.global.Adds (Proxyspec.ClonedFrom env c₁.global c₁.tmp) c₂.global ∧
      c₂.global.spec <:+ c'.global.spec := by
  obtain ⟨r₁, c₁, hpre, h⟩ := globalSetOptions_append h hrc
  obtain ⟨⟨r₂, c₂⟩, hopt, h⟩ := Except.bind_eq_ok.mp h
  refine ⟨r₁, c₁, r₂, c₂, hpre, hopt,
    globalSetOption_proxyspec_clonedFrom hsplit hvalue hopt, ?_⟩
  dsimp only at h
  split_ifs at h
  · cases h; exact List.suffix_refl _
  · exact globalSetOptions_spec_suffix h

end Options

/-- `DenyOCSP yes` before the listener, `DenyOCSP no` after it. -/
theorem globalSetOptions_proxyspec_preceding_sample :
    ∃ c', globalSetOptions Env.sample (fun _ => none) 1 (Conf.init 2048 none false) (-1)
        (["DenyOCSP=yes"] ++ "ProxySpec=tcp 127.0.0.1 8080" :: ["DenyOCSP=no"]) = .ok (0, c') ∧
      ∃ r₁ c₁ r₂ c₂, globalSetOptions Env.sample (fun _ => none) 1
          (Conf.init 2048 none false) (-1) ["DenyOCSP=yes"] = .ok (r₁, c₁) ∧
        globalSetOption Env.sample (fun _ => none) 1 c₁ "ProxySpec=tcp 127.0.0.1 8080" =
          .ok (r₂, c₂) ∧
        c₁.global.Adds (Proxyspec.ClonedFrom Env.sample c₁.global c₁.tmp) c₂.global ∧
        c₂.global.spec <:+ c'.global.spec := by
  have h : globalSetOptions Env.sample (fun _ => none) 1 (Conf.init 2048 none false) (-1)
      (["DenyOCSP=yes"] ++ "ProxySpec=tcp 127.0.0.1 8080" :: ["DenyOCSP=no"]) = .ok (0, _) := rfl
  exact ⟨_, h, globalSetOptions_proxyspec_preceding rfl (by decide) h (by decide)⟩

end SSLproxy
