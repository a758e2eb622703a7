import SSLproxy.Conf.Reachable
import SSLproxy.Conf.Inherit

/-!
# Checked values stay in range

Some directives check their value against a range before storing it:
`ConnIdleTimeout` (10 to 3600), `ExpiredConnCheckPeriod` (10 to 60),
`StatsPeriod` (1 to 10) and `OpenFilesLimit` (50 to 10000) on the process,
`UserTimeout` (at most 86400) and `MaxHTTPHeaderSize` (1024 to 65536) on the
options, and `DivertUsers` and `PassUsers` hold at most `MAX_USERS` names.
The defaults are in these ranges, and nothing else writes these values but
`global_opts_copy`, which copies them into each new listener.

So in every context the entry points reach (`Reachable`) the values are in
range (`Reachable.inRange`): in `global_t`, in the global options, and in the
options of every listener, whether it was declared on one line, in a block,
on the command line, or in an included file.  The proof is one step lemma per
function of the dispatch, each walking its chain of directives in the order of
the source, and one run lemma per loop.

`LeafKeyRSABits` is left out: its default comes from the build
(`DFLT_LEAFKEY_RSABITS`), which the model takes as a parameter.
-/

namespace SSLproxy

/-! ## What the range checks guard -/

/-- The option values `set_option` checks: the two numbers against their
ranges, and the user lists against `MAX_USERS`. -/
structure Opts.InRange (opts : Opts) : Prop where
  userTimeout : opts.userTimeout ≤ 86400
  maxHttpHeaderSize : 1024 ≤ opts.maxHttpHeaderSize ∧ opts.maxHttpHeaderSize ≤ 65536
  divertusers : opts.divertusers.length ≤ maxUsers
  passusers : opts.passusers.length ≤ maxUsers

instance : DecidablePred Opts.InRange := fun o =>
  decidable_of_iff (o.userTimeout ≤ 86400 ∧
      (1024 ≤ o.maxHttpHeaderSize ∧ o.maxHttpHeaderSize ≤ 65536) ∧
      o.divertusers.length ≤ maxUsers ∧ o.passusers.length ≤ maxUsers)
    ⟨fun ⟨a, b, c, d⟩ => ⟨a, b, c, d⟩, fun ⟨a, b, c, d⟩ => ⟨a, b, c, d⟩⟩

/-- What the range checks of `set_option` read of the options. -/
def Opts.bounds (opts : Opts) : Nat × Nat × Nat × Nat :=
  (opts.userTimeout, opts.maxHttpHeaderSize, opts.divertusers.length, opts.passusers.length)

theorem Opts.InRange.of_bounds {o o' : Opts} (ho : o.InRange) (h : o'.bounds = o.bounds) :
    o'.InRange := by
  simp only [Opts.bounds, Prod.mk.injEq] at h
  obtain ⟨h₁, h₂, h₃, h₄⟩ := h
  exact ⟨h₁ ▸ ho.1, h₂ ▸ ho.2, h₃ ▸ ho.3, h₄ ▸ ho.4⟩

section Setters

variable {env : Env} {opts : Opts} {optarg : String} {tmp : Option TmpGlobalOpts}

@[simp] theorem optsSetCacrt_bounds :
    (optsSetCacrt env opts optarg tmp).2.1.bounds = opts.bounds := by
  unfold optsSetCacrt; split <;> rfl

@[simp] theorem loadCacrtIfUnset_bounds :
    (loadCacrtIfUnset env opts optarg).bounds = opts.bounds := by
  unfold loadCacrtIfUnset; repeat' split
  all_goals rfl

@[simp] theorem optsSetCakey_bounds :
    (optsSetCakey env opts optarg tmp).2.1.bounds = opts.bounds := by
  unfold optsSetCakey; split
  · rfl
  · exact loadCacrtIfUnset_bounds

@[simp] theorem optsSetChain_bounds :
    (optsSetChain env opts optarg tmp).2.1.bounds = opts.bounds := by
  unfold optsSetChain; split <;> rfl

@[simp] theorem optsSetEcdhcurve_bounds :
    (optsSetEcdhcurve env opts optarg).2.bounds = opts.bounds := by
  unfold optsSetEcdhcurve; split <;> rfl

@[simp] theorem optsForceProto_bounds : (optsForceProto opts optarg).2.bounds = opts.bounds := by
  unfold optsForceProto; repeat' split
  all_goals rfl

@[simp] theorem optsDisableProto_bounds :
    (optsDisableProto opts optarg).2.bounds = opts.bounds := by
  unfold optsDisableProto; repeat' split
  all_goals rfl

theorem optsSetProtoBound_bounds {set : Opts → Nat → Opts}
    (hset : ∀ o v, (set o v).bounds = o.bounds) :
    (optsSetProtoBound set opts optarg).2.bounds = opts.bounds := by
  unfold optsSetProtoBound; split
  · rfl
  · exact hset _ _

theorem setYesno_bounds {set : Opts → Bool → Opts} (hset : ∀ o b, (set o b).bounds = o.bounds) :
    (setYesno optarg set opts).2.bounds = opts.bounds := by
  unfold setYesno; split
  · rfl
  · exact hset _ _

@[simp] theorem applyFilter_bounds {rc : Int} {name : String} :
    (applyFilter rc name optarg opts).2.bounds = opts.bounds := by
  unfold applyFilter; split <;> rfl

end Setters

/-- An accepted user list has at most `MAX_USERS` names; a refused one leaves
the list alone. -/
theorem optsSetUserlist_length {value : String} {list : List String}
    (h : list.length ≤ maxUsers) : (optsSetUserlist value list).2.length ≤ maxUsers := by
  dsimp only [optsSetUserlist]
  split_ifs with h₁
  · exact h
  · exact h
  · simpa [List.foldr_cons_nil] using Nat.le_of_not_lt h₁

theorem Scope.inRange_ite {p : Prop} [Decidable p] {a b : Int × Scope}
    (ha : p → a.2.opts.InRange) (hb : ¬p → b.2.opts.InRange) :
    (if p then a else b).2.opts.InRange := by
  by_cases hp : p
  · simpa only [if_pos hp] using ha hp
  · simpa only [if_neg hp] using hb hp

/-- `set_option` keeps the checked values of the options in range. -/
theorem setOption_inRange (env : Env) {s : Scope} (hs : s.opts.InRange) (name value : String)
    (lineNum : Nat) : (setOption env s name value lineNum).2.opts.InRange := by
  unfold setOption
  dsimp only [Scope.withOpts, Scope.withPki]
  -- one line per directive, in the order of the source
  refine Scope.inRange_ite (fun _ => hs) fun _ => ?_
  refine Scope.inRange_ite (fun _ => hs.of_bounds optsSetCacrt_bounds) fun _ => ?_
  refine Scope.inRange_ite (fun _ => hs.of_bounds optsSetCakey_bounds) fun _ => ?_
  refine Scope.inRange_ite (fun _ => hs.of_bounds rfl) fun _ => ?_
  refine Scope.inRange_ite (fun _ => hs.of_bounds rfl) fun _ => ?_
  refine Scope.inRange_ite (fun _ => hs.of_bounds optsSetChain_bounds) fun _ => ?_
  refine Scope.inRange_ite (fun _ => hs.of_bounds rfl) fun _ => ?_
  refine Scope.inRange_ite (fun _ => hs.of_bounds (setYesno_bounds fun _ _ => rfl)) fun _ => ?_
  refine Scope.inRange_ite (fun _ => hs.of_bounds (setYesno_bounds fun _ _ => rfl)) fun _ => ?_
  refine Scope.inRange_ite (fun _ => hs.of_bounds rfl) fun _ => ?_
  refine Scope.inRange_ite (fun _ => hs.of_bounds optsSetEcdhcurve_bounds) fun _ => ?_
  refine Scope.inRange_ite (fun _ => hs.of_bounds (setYesno_bounds fun _ _ => rfl)) fun _ => ?_
  refine Scope.inRange_ite (fun _ => hs.of_bounds optsForceProto_bounds) fun _ => ?_
  refine Scope.inRange_ite (fun _ => hs.of_bounds optsDisableProto_bounds) fun _ => ?_
  refine Scope.inRange_ite (fun _ => hs.of_bounds (optsSetProtoBound_bounds fun _ _ => rfl))
    fun _ => ?_
  refine Scope.inRange_ite (fun _ => hs.of_bounds (optsSetProtoBound_bounds fun _ _ => rfl))
    fun _ => ?_
  refine Scope.inRange_ite (fun _ => hs.of_bounds rfl) fun _ => ?_
  refine Scope.inRange_ite (fun _ => hs.of_bounds rfl) fun _ => ?_
  refine Scope.inRange_ite (fun _ => hs) fun _ => ?_
  refine Scope.inRange_ite (fun _ => hs.of_bounds (setYesno_bounds fun _ _ => rfl)) fun _ => ?_
  refine Scope.inRange_ite (fun _ => hs.of_bounds rfl) fun _ => ?_
  refine Scope.inRange_ite (fun _ => Scope.inRange_ite (fun h => { hs with userTimeout := h })
    fun _ => hs) fun _ => ?_
  refine Scope.inRange_ite (fun _ => { hs with divertusers := optsSetUserlist_length hs.3 })
    fun _ => ?_
  refine Scope.inRange_ite (fun _ => { hs with passusers := optsSetUserlist_length hs.4 })
    fun _ => ?_
  refine Scope.inRange_ite (fun _ => hs.of_bounds (setYesno_bounds fun _ _ => rfl)) fun _ => ?_
  refine Scope.inRange_ite (fun _ => Scope.inRange_ite
    (fun h => { hs with maxHttpHeaderSize := h }) fun _ => hs) fun _ => ?_
  refine Scope.inRange_ite (fun _ => hs.of_bounds (setYesno_bounds fun _ _ => rfl)) fun _ => ?_
  refine Scope.inRange_ite (fun _ => hs.of_bounds (setYesno_bounds fun _ _ => rfl)) fun _ => ?_
  refine Scope.inRange_ite (fun _ => hs.of_bounds (setYesno_bounds fun _ _ => rfl)) fun _ => ?_
  refine Scope.inRange_ite (fun _ => hs.of_bounds (setYesno_bounds fun _ _ => rfl)) fun _ => ?_
  refine Scope.inRange_ite (fun _ => hs.of_bounds applyFilter_bounds) fun _ => ?_
  refine Scope.inRange_ite (fun _ => hs.of_bounds applyFilter_bounds) fun _ => ?_
  refine Scope.inRange_ite (fun _ => hs.of_bounds applyFilter_bounds) fun _ => ?_
  refine Scope.inRange_ite (fun _ => ?_) fun _ => hs
  split
  · exact hs.of_bounds applyFilter_bounds
  · exact hs.of_bounds rfl

/-! ## The process-wide values -/

/-- The values `set_global_option` checks against a range, the checked
values of the global options, and those of every listener's options. -/
structure Global.InRange (global : Global) : Prop where
  connIdleTimeout : 10 ≤ global.connIdleTimeout ∧ global.connIdleTimeout ≤ 3600
  expiredConnCheckPeriod :
    10 ≤ global.expiredConnCheckPeriod ∧ global.expiredConnCheckPeriod ≤ 60
  statsPeriod : 1 ≤ global.statsPeriod ∧ global.statsPeriod ≤ 10
  opts : global.opts.InRange
  spec : ∀ spec ∈ global.spec, spec.opts.InRange

instance : DecidablePred Global.InRange := fun g =>
  decidable_of_iff ((10 ≤ g.connIdleTimeout ∧ g.connIdleTimeout ≤ 3600) ∧
      (10 ≤ g.expiredConnCheckPeriod ∧ g.expiredConnCheckPeriod ≤ 60) ∧
      (1 ≤ g.statsPeriod ∧ g.statsPeriod ≤ 10) ∧ g.opts.InRange ∧
      ∀ spec ∈ g.spec, spec.opts.InRange)
    ⟨fun ⟨a, b, c, d, e⟩ => ⟨a, b, c, d, e⟩, fun ⟨a, b, c, d, e⟩ => ⟨a, b, c, d, e⟩⟩

/-- What the range checks read of `global_t`. -/
def Global.bounds (global : Global) :
    Nat × Nat × Nat × (Nat × Nat × Nat × Nat) × List Proxyspec :=
  (global.connIdleTimeout, global.expiredConnCheckPeriod, global.statsPeriod,
    global.opts.bounds, global.spec)

theorem Global.InRange.of_bounds {g g' : Global} (hg : g.InRange) (h : g'.bounds = g.bounds) :
    g'.InRange := by
  simp only [Global.bounds, Prod.mk.injEq] at h
  obtain ⟨h₁, h₂, h₃, h₄, h₅⟩ := h
  exact ⟨h₁ ▸ hg.1, h₂ ▸ hg.2, h₃ ▸ hg.3, hg.4.of_bounds h₄, h₅ ▸ hg.5⟩

/-- Listeners whose options are in range put in front of the list. -/
theorem Global.InRange.prepend {g : Global} (hg : g.InRange) {new : List Proxyspec}
    (hnew : ∀ s ∈ new, s.opts.InRange) : { g with spec := new ++ g.spec }.InRange :=
  { hg with spec := fun s hs => (List.mem_append.mp hs).elim (hnew s) (hg.spec s) }

theorem Global.InRange.push {g : Global} (hg : g.InRange) (spec : Option Proxyspec)
    (hspec : ∀ s ∈ spec, s.opts.InRange) : (g.push spec).InRange := by
  cases spec with
  | none => exact hg
  | some s =>
    exact @Global.InRange.prepend g hg [s] fun _ h => by
      cases List.mem_singleton.mp h; exact hspec _ rfl

/-- The range checks of the whole context: the open-files limit
`OpenFilesLimit` set, if any, is in its range too. -/
structure Conf.InRange (c : Conf) : Prop where
  global : c.global.InRange
  nofile : ∀ n ∈ c.nofile, 50 ≤ n ∧ n ≤ 10000

instance : DecidablePred Conf.InRange := fun c =>
  decidable_of_iff (c.global.InRange ∧ ∀ n ∈ c.nofile, 50 ≤ n ∧ n ≤ 10000)
    ⟨fun ⟨a, b⟩ => ⟨a, b⟩, fun ⟨a, b⟩ => ⟨a, b⟩⟩

theorem Conf.InRange.of_bounds {c c' : Conf} (hc : c.InRange)
    (hg : c'.global.bounds = c.global.bounds) (hn : c'.nofile = c.nofile) : c'.InRange :=
  ⟨hc.global.of_bounds hg, hn ▸ hc.nofile⟩

section GlobalSetters

variable {env : Env} {g : Global} {optarg : String}

@[simp] theorem Global.setLeafcertdir_bounds :
    (g.setLeafcertdir env optarg).2.bounds = g.bounds := by
  unfold Global.setLeafcertdir; split <;> rfl

@[simp] theorem Global.setUser_bounds : (g.setUser env optarg).2.bounds = g.bounds := by
  unfold Global.setUser; split <;> rfl

@[simp] theorem Global.setGroup_bounds : (g.setGroup env optarg).2.bounds = g.bounds := by
  unfold Global.setGroup; split <;> rfl

@[simp] theorem Global.setJaildir_bounds : (g.setJaildir env optarg).2.bounds = g.bounds := by
  unfold Global.setJaildir; split <;> rfl

section Logs

variable {log : Global.LogFields} (hput : ∀ g s, (log.put g s).bounds = g.bounds)
include hput

/-- A content or pcap log setter writes only its log's fields, which no range
check reads. -/
theorem Global.setLogFile_bounds : (g.setLogFile env log optarg).2.bounds = g.bounds := by
  unfold Global.setLogFile; split <;> exact hput _ _

theorem Global.setLogDir_bounds : (g.setLogDir env log optarg).2.bounds = g.bounds := by
  unfold Global.setLogDir
  split
  · split <;> exact hput _ _
  · rfl

theorem Global.setLogPathspec_bounds : (g.setLogPathspec env log optarg).2.bounds = g.bounds := by
  unfold Global.setLogPathspec; split <;> exact hput _ _

end Logs

/-- `LeafKey` fills the DH parameters of the global options, which no range
check reads. -/
@[simp] theorem Global.setLeafkey_bounds : (g.setLeafkey env optarg).2.bounds = g.bounds := by
  unfold Global.setLeafkey; split <;> rfl

end GlobalSetters

/-- `global_set_open_files_limit` accepts a limit in its range only. -/
theorem globalSetOpenFilesLimit_range {env : Env} {value : String} {i : Nat}
    (h : globalSetOpenFilesLimit env value = some i) : 50 ≤ i ∧ i ≤ 10000 := by
  dsimp only [globalSetOpenFilesLimit] at h
  split_ifs at h with hi
  cases h
  exact ⟨hi.1, hi.2.1⟩

theorem Conf.inRange_ite {p : Prop} [Decidable p] {a b : Int × Conf}
    (ha : p → a.2.InRange) (hb : ¬p → b.2.InRange) : (if p then a else b).2.InRange := by
  by_cases hp : p
  · simpa only [if_pos hp] using ha hp
  · simpa only [if_neg hp] using hb hp

/-- A number `set_global_option` stores when it passes its check. -/
theorem Conf.InRange.numeric {c : Conf} (hc : c.InRange) {value : String} {ok : Nat → Bool}
    {store : Nat → Global} (hstore : ∀ i, ok i = true → (store i).InRange) :
    ({ c with global := (setNumeric value ok store c.global).2 } : Conf).InRange := by
  dsimp only [setNumeric]
  split
  · exact ⟨hstore _ ‹_›, hc.nofile⟩
  · exact hc.of_bounds rfl rfl

/-- A yes or no, stored outside the checked values. -/
theorem Conf.InRange.yesno {c : Conf} (hc : c.InRange) (value : String) (w : Bool → Conf)
    (hw : ∀ yes, (w yes).global.bounds = c.global.bounds ∧ (w yes).nofile = c.nofile) :
    (match isYesno value with
      | none => (-1, c)
      | some yes => (0, w yes)).2.InRange := by
  cases isYesno value with
  | none => exact hc
  | some yes => exact hc.of_bounds (hw yes).1 (hw yes).2

/-- Every plain directive of `set_global_option` keeps the checked values in
range. -/
theorem setGlobalPlain_inRange (env : Env) {c : Conf} (hc : c.InRange) (name value : String)
    (lineNum : Nat) : (setGlobalPlain env c name value lineNum).2.InRange := by
  have hlog : ∀ g s, (Global.contentlogFields.put g s).bounds = g.bounds := fun _ _ => rfl
  have hpcap : ∀ g s, (Global.pcaplogFields.put g s).bounds = g.bounds := fun _ _ => rfl
  unfold setGlobalPlain
  dsimp only
  -- one line per directive, in the order of the source
  refine Conf.inRange_ite (fun _ => hc.of_bounds Global.setLeafcertdir_bounds rfl) fun _ => ?_
  refine Conf.inRange_ite (fun _ => hc.of_bounds rfl rfl) fun _ => ?_
  refine Conf.inRange_ite (fun _ => hc.of_bounds rfl rfl) fun _ => ?_
  refine Conf.inRange_ite (fun _ => hc.of_bounds rfl rfl) fun _ => ?_
  refine Conf.inRange_ite (fun _ => hc.of_bounds Global.setUser_bounds rfl) fun _ => ?_
  refine Conf.inRange_ite (fun _ => hc.of_bounds Global.setGroup_bounds rfl) fun _ => ?_
  refine Conf.inRange_ite (fun _ => hc.of_bounds Global.setJaildir_bounds rfl) fun _ => ?_
  refine Conf.inRange_ite (fun _ => hc.of_bounds rfl rfl) fun _ => ?_
  refine Conf.inRange_ite (fun _ => hc.of_bounds rfl rfl) fun _ => ?_
  refine Conf.inRange_ite (fun _ => hc.of_bounds (Global.setLogFile_bounds hlog) rfl) fun _ => ?_
  refine Conf.inRange_ite (fun _ => hc.of_bounds (Global.setLogDir_bounds hlog) rfl) fun _ => ?_
  refine Conf.inRange_ite (fun _ => hc.of_bounds (Global.setLogPathspec_bounds hlog) rfl)
    fun _ => ?_
  refine Conf.inRange_ite (fun _ => hc.yesno _ _ fun _ => ⟨rfl, rfl⟩) fun _ => ?_
  refine Conf.inRange_ite (fun _ => hc.of_bounds rfl rfl) fun _ => ?_
  refine Conf.inRange_ite (fun _ => hc.of_bounds (Global.setLogFile_bounds hpcap) rfl) fun _ => ?_
  refine Conf.inRange_ite (fun _ => hc.of_bounds (Global.setLogDir_bounds hpcap) rfl) fun _ => ?_
  refine Conf.inRange_ite (fun _ => hc.of_bounds (Global.setLogPathspec_bounds hpcap) rfl)
    fun _ => ?_
  refine Conf.inRange_ite (fun _ => hc.of_bounds rfl rfl) fun _ => ?_
  refine Conf.inRange_ite (fun _ => hc.of_bounds rfl rfl) fun _ => ?_
  refine Conf.inRange_ite (fun _ => hc.yesno _ _ fun _ => ⟨rfl, rfl⟩) fun _ => ?_
  refine Conf.inRange_ite (fun _ => hc.yesno _ _ fun _ => ⟨rfl, rfl⟩) fun _ => ?_
  refine Conf.inRange_ite (fun _ => ?_) fun _ => ?_
  · split
    · exact hc
    · exact hc.of_bounds rfl rfl
  refine Conf.inRange_ite (fun _ => hc.of_bounds rfl rfl) fun _ => ?_
  refine Conf.inRange_ite (fun _ => hc.numeric fun _ hi =>
    { hc.global with connIdleTimeout := of_decide_eq_true hi }) fun _ => ?_
  refine Conf.inRange_ite (fun _ => hc.numeric fun _ hi =>
    { hc.global with expiredConnCheckPeriod := of_decide_eq_true hi }) fun _ => ?_
  refine Conf.inRange_ite (fun _ => hc.yesno _ _ fun _ => ⟨rfl, rfl⟩) fun _ => ?_
  refine Conf.inRange_ite (fun _ => hc.numeric fun _ hi =>
    { hc.global with statsPeriod := of_decide_eq_true hi }) fun _ => ?_
  refine Conf.inRange_ite (fun _ => ?_) fun _ => ?_
  · split
    · exact hc
    · exact ⟨hc.global, fun _ hn => by cases hn; exact globalSetOpenFilesLimit_range ‹_›⟩
  refine Conf.inRange_ite (fun _ => hc.of_bounds Global.setLeafkey_bounds rfl) fun _ => ?_
  refine Conf.inRange_ite (fun _ => hc.numeric fun _ _ => hc.global.of_bounds rfl) fun _ => ?_
  refine Conf.inRange_ite (fun _ => hc.of_bounds rfl rfl) fun _ => ?_
  -- `set_option` on the global options
  exact ⟨{ hc.global with opts := setOption_inRange env hc.global.opts name value lineNum },
    hc.nofile⟩

/-! ## Listeners -/

/-- A clone of the global options is in range when they are: `copyScalars`
copies the two numbers, the replay of the recorded paths touches neither,
and the user lists are copied name by name onto the empty lists of
`opts_new`. -/
theorem globalOptsCopy_inRange {env : Env} {global : Global} {tmp : TmpGlobalOpts} {o : Opts}
    (hg : global.opts.InRange) (h : globalOptsCopy env global tmp = some o) : o.InRange := by
  obtain ⟨o₁, hreplay, hcopy⟩ := Option.bind_eq_some.mp h
  -- the replay writes certificate settings only
  have h₁ := congrArg Opts.bounds (replayPki_clearPki hreplay)
  simp only [Opts.bounds, Opts.clearPki, copyScalars, optsNew, Prod.mk.injEq,
    List.length_nil] at h₁
  rw [copyStrings_some hcopy]
  refine hg.of_bounds ?_
  simp only [Opts.bounds, copyUserlist_eq, List.length_append, List.length_reverse, h₁,
    Nat.add_zero]

theorem Proxyspec.ClonedFrom.opts_inRange {env : Env} {global : Global} {tmp : TmpGlobalOpts}
    {spec : Proxyspec} (h : spec.ClonedFrom env global tmp) (hg : global.opts.InRange) :
    spec.opts.InRange := by
  obtain ⟨o, hcopy, hfrom⟩ := h
  have ho := globalOptsCopy_inRange hg hcopy
  rcases hfrom with h | h <;> rw [h]
  · exact ho
  · exact ho.of_bounds rfl

/-- The one-line parser puts listeners cloned from the global options in
front of the list, and changes nothing else. -/
theorem proxyspecParse_inRange {env : Env} {natengine : Option String} {global g : Global}
    {tmp : TmpGlobalOpts} {argv : List String} {rc : Int} (hg : global.InRange)
    (h : proxyspecParse env natengine global tmp argv = .ok (rc, g)) : g.InRange := by
  obtain ⟨new, rfl⟩ := proxyspecParseLoop_extends h
  obtain ⟨new', hspec, hcloned⟩ := proxyspecParse_clonedFrom h
  cases List.append_cancel_right hspec
  exact hg.prepend fun s hs => (hcloned s hs).opts_inRange hg.opts

/-- A block line keeps its listener's options in range: the listener
setters do not write them, and the other directives go to `set_option`. -/
theorem setProxyspecOption_inRange {env : Env} {b b' : BlockState} {name value : String}
    {lineNum : Nat} {rc : Int} (hb : b.spec.opts.InRange)
    (h : setProxyspecOption env b name value lineNum = (rc, b')) : b'.spec.opts.InRange := by
  obtain ⟨P, hP⟩ : ∃ P : Int × BlockState → Prop, P = fun r => r.2.spec.opts.InRange :=
    ⟨_, rfl⟩
  suffices P (setProxyspecOption env b name value lineNum) by rwa [hP, h] at this
  dsimp only [setProxyspecOption]
  repeat' (apply iteInduction (motive := P) <;> intro _)
  all_goals subst hP; (try split) <;> dsimp only [BlockState.withSpec]
  all_goals first
    | exact hb
    | exact setOption_inRange env hb _ _ _
    | (simp only [proxyspecSetProto_opts, proxyspecSetListenAddr_opts, proxyspecSetDivertAddr_opts,
        proxyspecSetReturnAddr_opts, proxyspecSetTargetAddr_opts, proxyspecSetSniPort_opts,
        proxyspecSetNatengine_opts]; exact hb)

/-- The line loop of a block keeps any invariant that every line keeps. -/
theorem blockLoop_invariant {env : Env} (Q : BlockState → Prop)
    (hstep : ∀ b name value lineNum rc b', Q b →
      setProxyspecOption env b name value lineNum = (rc, b') → Q b')
    {lines : List String} :
    ∀ {b lineNum e b' lineNum' read}, Q b →
      blockLoop env b lineNum lines = (e, b', lineNum', read) → Q b' := by
  induction lines with
  | nil => intro b lineNum e b' lineNum' read hb h; cases h; exact hb
  | cons line rest ih =>
    intro b lineNum e b' lineNum' read hb h
    rw [blockLoop] at h
    split at h
    · split at h
      rename_i heq
      cases h; exact ih hb heq
    · split at h
      · cases h; exact hb
      · split at h
        rename_i hopt
        have hb' := hstep _ _ _ _ _ _ hb hopt
        split_ifs at h
        · cases h; exact hb'
        · cases h; exact hb'
        · split at h
          rename_i heq
          cases h; exact ih hb' heq

theorem setDivert_bounds (spec : Proxyspec) (split : Bool) :
    (setDivert spec split).opts.bounds = spec.opts.bounds := by
  unfold setDivert; split <;> rfl

/-- A block puts a listener cloned from the global options in front of the
list, whose block lines keep its options in range. -/
theorem loadProxyspecStruct_inRange {env : Env} {c : Conf} {lineNum : Nat}
    {f : Option (List String)} {r : Int × Conf × Nat × Nat} (hc : c.InRange)
    (h : loadProxyspecStruct env c lineNum f = .ok r) : r.2.1.InRange := by
  unfold loadProxyspecStruct at h
  split at h
  · cases h; exact hc
  rename_i spec hnew
  obtain ⟨o, hcopy, rfl⟩ := Option.map_eq_some'.mp hnew
  have hspec : (proxyspecSetReturnAddr env (Proxyspec.empty o) "127.0.0.1").2.opts.InRange := by
    rw [proxyspecSetReturnAddr_opts]; exact globalOptsCopy_inRange hc.global.opts hcopy
  rcases hs : proxyspecSetReturnAddr env (Proxyspec.empty o) "127.0.0.1" with ⟨rc, spec'⟩
  rw [hs] at hspec
  simp only [hs] at h
  split_ifs at h
  · cases h; exact ⟨hc.global.push (some spec') fun _ h => by cases h; exact hspec, hc.nofile⟩
  split at h
  · cases h
  rename_i lines
  rcases hb : blockLoop env ⟨spec', c.natengine, .empty⟩ lineNum lines with ⟨e, b, l, read⟩
  have hb' := blockLoop_invariant (fun b => b.spec.opts.InRange)
    (fun _ _ _ _ _ _ => setProxyspecOption_inRange) hspec hb
  simp only [hb] at h
  cases h
  refine ⟨hc.global.push (some _) fun _ h => ?_, hc.nofile⟩
  cases h
  split_ifs
  · exact hb'.of_bounds (setDivert_bounds _ _)
  · exact hb'

/-! ## Files, options and whole runs -/

section Directive

variable {env : Env} {incl : Conf → String → Except Fault (Int × Conf)}

theorem loadProxyspecLine_inRange {c c' : Conf} {value : String} {rc : Int} (hc : c.InRange)
    (h : loadProxyspecLine env c value = .ok (rc, c')) : c'.InRange := by
  obtain ⟨new, rfl⟩ := loadProxyspecLine_frame h
  obtain ⟨new', hspec, hcloned⟩ := loadProxyspecLine_clonedFrom h
  cases List.append_cancel_right hspec
  exact ⟨hc.global.prepend fun s hs => (hcloned s hs).opts_inRange hc.global.opts, hc.nofile⟩

/-- Every directive keeps the checked values in range, as long as the
loader of included files does. -/
theorem setGlobalOption_inRange {c : Conf} {name value : String} {lineNum : Nat}
    {f : Option (List String)} {r : Int × Conf × Nat × Nat}
    (hincl : ∀ c p r, c.InRange → incl c p = .ok r → r.2.InRange)
    (hc : c.InRange) (h : setGlobalOption env incl c name value lineNum f = .ok r) :
    r.2.1.InRange := by
  unfold setGlobalOption at h
  split_ifs at h
  · cases h; exact hc
  · exact loadProxyspecStruct_inRange hc h
  · obtain ⟨⟨_, _⟩, hl, h⟩ := Except.bind_eq_ok.mp h
    cases h; exact loadProxyspecLine_inRange hc hl
  · cases h; exact hc
  · obtain ⟨_, hl, h⟩ := Except.bind_eq_ok.mp h
    cases h; exact (hincl _ _ _ (by exact hc.of_bounds rfl rfl) hl).of_bounds rfl rfl
  · cases h; exact setGlobalPlain_inRange env hc name value lineNum

end Directive

section Loader

variable {env : Env} {files : String → Option (List String)} {fuel : Nat} {c : Conf}
  {r : Int × Conf}

/-- A file, with every file it includes, keeps the checked values in
range. -/
theorem optsLoadConffile_inRange {path : String} (hc : c.InRange)
    (h : optsLoadConffile env files fuel c path = .ok r) : r.2.InRange := by
  induction fuel generalizing c path r with
  | zero => cases h
  | succ fuel ih =>
    rw [optsLoadConffile.eq_2] at h
    split at h
    · cases h; exact hc
    · exact conffileLoop_invariant Conf.InRange
        (fun _ _ _ _ _ _ hc hr => setGlobalOption_inRange (fun _ _ _ => ih) hc hr) _ _ _ _ _ hc h

theorem globalSetOption_inRange {optarg : String} (hc : c.InRange)
    (h : globalSetOption env files fuel c optarg = .ok r) : r.2.InRange := by
  unfold globalSetOption at h
  split at h
  · cases h; exact hc
  · obtain ⟨⟨_, _, _, _⟩, hset, h⟩ := Except.bind_eq_ok.mp h
    cases h
    exact setGlobalOption_inRange (fun _ _ _ => optsLoadConffile_inRange) hc hset

end Loader

/-- The defaults of `global_new` and `opts_new` are in range. -/
theorem Conf.init_inRange (dfltLeafkeyRsabits : Nat) (natengine : Option String) (split : Bool) :
    (Conf.init dfltLeafkeyRsabits natengine split).InRange := by
  refine ⟨⟨?_, ?_, ?_, ⟨?_, ?_, ?_, ?_⟩, fun _ h => absurd h (List.not_mem_nil _)⟩,
    fun _ h => Option.noConfusion h⟩ <;>
    simp only [Conf.init, globalNew, optsNew, maxUsers] <;> decide

/-- In every context the entry points of `opts.c` reach, every value a
directive checks against a range is in that range: the connection timeouts
and the statistics period of `global_t`, the open-files limit, and, in the
global options and in every listener's, the user timeout, the HTTP header
size limit and the lengths of the user lists. -/
theorem Reachable.inRange {env : Env} {files : String → Option (List String)} {fuel : Nat}
    {c : Conf} (h : Reachable env files fuel c) : c.InRange := by
  induction h with
  | init => exact Conf.init_inRange _ _ _
  | conffile _ _ hr ih => exact optsLoadConffile_inRange (by exact ih.of_bounds rfl rfl) hr
  | option _ _ hr ih => exact globalSetOption_inRange ih hr
  | proxyspecs _ _ hr ih => exact ⟨proxyspecParse_inRange ih.global hr, ih.nofile⟩

/-- The context after `-o ConnIdleTimeout=30`. -/
theorem Reachable.inRange_sample :
    ∃ c, Reachable Env.sample (fun _ => none) 1 c ∧ c.global.connIdleTimeout = 30 ∧ c.InRange := by
  have hreach : Reachable Env.sample (fun _ => none) 1 _ :=
    .option "ConnIdleTimeout=30" (.init 2048 none false) rfl
  exact ⟨_, hreach, rfl, Reachable.inRange hreach⟩

end SSLproxy
