import SSLproxy.Conf.Load

/-!
# Setting a directive again

Almost every directive of `set_global_option` and `set_option` stores what
its value makes into fields of its own, overwriting them whole, and reads
none of them first.  So a directive set twice, the second time successfully,
leaves the context and the return code as if only the second setting had
been made (`LastWins`).  This is what lets `-o opt=val` override an option of
the configuration file, as the manual page says, and a later line of a file
override an earlier one.

The directives left out are those that read what they overwrite or add to
it: the filter rules (`PassSite`, `Define`, `Split`, `Pass`, `Block`,
`Match`, and `Divert` with a value other than yes or no), `CACert`, which
pushes the old certificate onto the chain, `CAKey`, which loads a
certificate from its file only while none is set, `CAChain`, which hands the
old chain to `ssl_x509chain_load`, `DisableSSLProto`, which sets one more
bit, and `LeafKey`, which keeps the DH parameters a first key file gave.
`ProxySpec` adds a listener and `Include` reads a file.  `ForceSSLProto` is
in: it refuses to force a protocol twice, so its second setting succeeds
only after a first one that changed nothing.
-/

namespace SSLproxy

/-- Setting a directive again undoes what setting it before did, whenever
the second setting succeeds: `f value lineNum s` is the directive set to
`value` on line `lineNum` of the state `s`. -/
def LastWins {σ : Type} (f : String → Nat → σ → Int × σ) : Prop :=
  ∀ v₁ v₂ l₁ l₂ s, (f v₂ l₂ (f v₁ l₁ s).2).1 ≠ -1 → f v₂ l₂ (f v₁ l₁ s).2 = f v₂ l₂ s

namespace LastWins

variable {σ : Type}

/-! ## Shapes of setters -/

/-- A test of the directive's name, which no value changes. -/
theorem ite {p : Prop} [Decidable p] {f g : String → Nat → σ → Int × σ}
    (hf : p → LastWins f) (hg : ¬p → LastWins g) :
    LastWins fun v l s => if p then f v l s else g v l s := by
  by_cases hp : p
  · simpa only [if_pos hp] using hf hp
  · simpa only [if_neg hp] using hg hp

theorem fail : LastWins fun (_ : String) (_ : Nat) (s : σ) => ((-1 : Int), s) :=
  fun _ _ _ _ _ h => absurd rfl h

/-- The empty value is refused before the name is looked at. -/
theorem emptyValue {g : String → Nat → σ → Int × σ} (hg : LastWins g) :
    LastWins fun v l s => if v = "" then (-1, s) else g v l s := by
  intro v₁ v₂ l₁ l₂ s h
  by_cases h₂ : v₂ = ""
  · simp [h₂] at h
  by_cases h₁ : v₁ = ""
  · simp only [h₁, h₂, if_true, if_false]
  · simp only [h₁, h₂, if_false] at h ⊢
    exact hg _ _ _ _ _ h

/-- A value that parses is stored whole; one that does not fails, having
written only what a stored value overwrites (`w₀`). -/
theorem of_parse {α : Type} {f : String → Nat → σ → Int × σ} (parse : String → Option α)
    (w₀ : σ → σ) (w : α → σ → σ) (hw₀ : ∀ a s, w a (w₀ s) = w a s)
    (hw : ∀ a b s, w a (w b s) = w a s)
    (hf : ∀ v l s, f v l s = match parse v with
      | none => (-1, w₀ s)
      | some a => (0, w a s)) :
    LastWins f := by
  intro v₁ v₂ l₁ l₂ s h
  simp only [hf v₂] at h ⊢
  cases h₂ : parse v₂ with
  | none => simp [h₂] at h
  | some a => rw [hf v₁]; cases parse v₁ <;> simp [hw, hw₀]

/-- A yes or no stored on the context. -/
theorem yesno (w : Bool → σ → σ) (hw : ∀ a b s, w a (w b s) = w a s) :
    LastWins fun v (_ : Nat) s => match isYesno v with
      | none => (-1, s)
      | some yes => (0, w yes s) :=
  of_parse isYesno id w (fun _ _ => rfl) hw fun v _ _ => by cases isYesno v <;> rfl

/-- A value that passes a check is stored, else nothing changes. -/
theorem checked (ok : String → Prop) [DecidablePred ok] (code : String → Int)
    (w : String → σ → σ) (hw : ∀ a b s, ok a → code a ≠ -1 → w a (w b s) = w a s) :
    LastWins fun v (_ : Nat) s => if ok v then (code v, w v s) else (-1, s) := by
  intro v₁ v₂ _ _ s h
  by_cases h₂ : ok v₂
  · by_cases h₁ : ok v₁ <;> simp only [h₁, h₂, if_true, if_false] at h ⊢
    rw [hw _ _ _ h₂ h]
  · simp [h₂] at h

/-- A write whose code does not depend on the state. -/
theorem write (code : String → Int) (w : String → σ → σ)
    (hw : ∀ a b s, code a ≠ -1 → w a (w b s) = w a s) :
    LastWins fun v (_ : Nat) s => (code v, w v s) :=
  fun _ _ _ _ _ h => congrArg (Prod.mk _) (hw _ _ _ h)

end LastWins

/-! ## The leaves of `set_option` -/

namespace LastWins

theorem withOpts_yesno (set : Opts → Bool → Opts) (hset : ∀ o a b, set (set o a) b = set o b) :
    LastWins fun v (_ : Nat) (s : Scope) => s.withOpts (setYesno v set s.opts) := by
  intro v₁ v₂ _ _ s h
  simp only [Scope.withOpts, setYesno] at h ⊢
  cases h₂ : isYesno v₂ with
  | none => simp [h₂] at h
  | some b => cases h₁ : isYesno v₁ <;> simp [h₁, h₂, hset]

theorem withOpts_protoBound (set : Opts → Nat → Opts) (hset : ∀ o a b, set (set o a) b = set o b) :
    LastWins fun v (_ : Nat) (s : Scope) => s.withOpts (optsSetProtoBound set s.opts v) := by
  intro v₁ v₂ _ _ s h
  simp only [Scope.withOpts, optsSetProtoBound] at h ⊢
  cases h₂ : sslProtoVersion v₂ with
  | none => simp [h₂] at h
  | some b => cases h₁ : sslProtoVersion v₁ <;> simp [h₁, h₂, hset]

/-- A key or certificate loaded from the value's file, whose path is
recorded in `tmp_global_opts`. -/
theorem withPki_recorded {α : Type} (load : String → Option α) (store : Opts → Option α → Opts)
    (record : TmpGlobalOpts → String → TmpGlobalOpts)
    (hstore : ∀ o a b, store (store o a) b = store o b)
    (hrecord : ∀ t a b, record (record t a) b = record t b) :
    LastWins fun v (_ : Nat) (s : Scope) =>
      s.withPki (optsSetRecorded load store record s.opts v s.tmp) := by
  rintro v₁ v₂ _ _ ⟨opts, natengine, tmp⟩ -
  cases tmp <;> simp [Scope.withPki, optsSetRecorded, hstore, hrecord]

/-- A rejected curve frees the name too, so the second setting overwrites
the field whatever it returns. -/
theorem withOpts_ecdhcurve (env : Env) :
    LastWins fun v (_ : Nat) (s : Scope) => s.withOpts (optsSetEcdhcurve env s.opts v) := by
  intro v₁ v₂ _ _ s _
  simp only [Scope.withOpts, optsSetEcdhcurve]
  split_ifs <;> rfl

/-- Every supported protocol has a nonzero version. -/
theorem sslProtoVersion_ne_zero (v : String) : ∀ ver ∈ sslProtoVersion v, ver ≠ 0 := by
  let P : Option Nat → Prop := fun r => ∀ ver ∈ r, ver ≠ 0
  show P (sslProtoVersion v)
  unfold sslProtoVersion
  repeat' (apply iteInduction (motive := P) <;> intro _)
  all_goals nofun

/-- `opts_force_proto` changes nothing, or forces a protocol. -/
theorem optsForceProto_cases (o : Opts) (v : String) :
    (optsForceProto o v).2 = o ∨ (optsForceProto o v).2.sslversion ≠ 0 := by
  unfold optsForceProto
  split_ifs
  · exact .inl rfl
  · cases h : sslProtoVersion v with
    | none => exact .inl rfl
    | some ver => exact .inr (sslProtoVersion_ne_zero v ver h)

/-- `ForceSSLProto` refuses options that already force a protocol, so a
second setting succeeds only after a first that changed nothing. -/
theorem withOpts_forceProto :
    LastWins fun v (_ : Nat) (s : Scope) => s.withOpts (optsForceProto s.opts v) := by
  intro v₁ v₂ _ _ s h
  rcases optsForceProto_cases s.opts v₁ with h₁ | h₁
  · simp only [Scope.withOpts, h₁]
  · have hforced : optsForceProto (optsForceProto s.opts v₁).2 v₂ =
        (-1, (optsForceProto s.opts v₁).2) := if_pos h₁
    simp only [Scope.withOpts, hforced] at h
    exact absurd rfl h

/-- An accepted user list does not depend on the list it replaces. -/
theorem optsSetUserlist_accepted {v : String} {l : List String} (h : (optsSetUserlist v l).1 ≠ -1)
    (l' : List String) : optsSetUserlist v l' = optsSetUserlist v l := by
  dsimp only [optsSetUserlist] at h ⊢
  split_ifs at h ⊢ <;> first | rfl | exact absurd rfl h

/-- `DivertUsers` and `PassUsers`: an accepted list replaces the old one. -/
theorem userlist (get : Opts → List String) (set : Opts → List String → Opts)
    (hset : ∀ o a b, set (set o a) b = set o b) :
    LastWins fun v (_ : Nat) (s : Scope) =>
      ((optsSetUserlist v (get s.opts)).1,
        { s with opts := set s.opts (optsSetUserlist v (get s.opts)).2 }) := by
  intro v₁ v₂ _ _ s h
  beta_reduce at h ⊢
  rw [← optsSetUserlist_accepted h (get s.opts), hset]

end LastWins

/-- Every directive of `set_option` but the accumulating ones: set again,
successfully, it leaves the scope as if set only the second time. -/
theorem setOption_lastWins (env : Env) (name : String)
    (hname : name ∉ ["CACert", "CAKey", "CAChain", "DisableSSLProto", "PassSite", "Define",
      "Split", "Pass", "Block", "Match", "Divert"]) :
    LastWins fun v l s => setOption env s name v l := by
  unfold setOption
  dsimp only
  refine .emptyValue ?_
  -- one line per directive, in the order of the source
  refine .ite (fun h => absurd (by simp [h]) hname) fun _ => ?_
  refine .ite (fun h => absurd (by simp [h]) hname) fun _ => ?_
  refine .ite (fun _ => .withPki_recorded _ _ _ (fun _ _ _ => rfl) fun _ _ _ => rfl) fun _ => ?_
  refine .ite (fun _ => .withPki_recorded _ _ _ (fun _ _ _ => rfl) fun _ _ _ => rfl) fun _ => ?_
  refine .ite (fun h => absurd (by simp [h]) hname) fun _ => ?_
  refine .ite (fun _ => .withPki_recorded _ _ _ (fun _ _ _ => rfl) fun _ _ _ => rfl) fun _ => ?_
  refine .ite (fun _ => .withOpts_yesno _ fun _ _ _ => rfl) fun _ => ?_
  refine .ite (fun _ => .withOpts_yesno _ fun _ _ _ => rfl) fun _ => ?_
  refine .ite (fun _ => .withPki_recorded _ _ _ (fun _ _ _ => rfl) fun _ _ _ => rfl) fun _ => ?_
  refine .ite (fun _ => .withOpts_ecdhcurve env) fun _ => ?_
  refine .ite (fun _ => .withOpts_yesno _ fun _ _ _ => rfl) fun _ => ?_
  refine .ite (fun _ => .withOpts_forceProto) fun _ => ?_
  refine .ite (fun h => absurd (by simp [h]) hname) fun _ => ?_
  refine .ite (fun _ => .withOpts_protoBound _ fun _ _ _ => rfl) fun _ => ?_
  refine .ite (fun _ => .withOpts_protoBound _ fun _ _ _ => rfl) fun _ => ?_
  refine .ite (fun _ => .write (fun _ => 0) _ fun _ _ _ _ => rfl) fun _ => ?_
  refine .ite (fun _ => .write (fun _ => 0) _ fun _ _ _ _ => rfl) fun _ => ?_
  refine .ite (fun _ => .write (fun _ => 0) _ fun _ _ _ _ => rfl) fun _ => ?_
  refine .ite (fun _ => .withOpts_yesno _ fun _ _ _ => rfl) fun _ => ?_
  refine .ite (fun _ => .write (fun _ => 0) _ fun _ _ _ _ => rfl) fun _ => ?_
  refine .ite (fun _ => .checked _ (fun _ => 0) _ fun _ _ _ _ _ => rfl) fun _ => ?_
  refine .ite (fun _ => .userlist Opts.divertusers (fun o l => { o with divertusers := l })
    fun _ _ _ => rfl) fun _ => ?_
  refine .ite (fun _ => .userlist Opts.passusers (fun o l => { o with passusers := l })
    fun _ _ _ => rfl) fun _ => ?_
  refine .ite (fun _ => .withOpts_yesno _ fun _ _ _ => rfl) fun _ => ?_
  refine .ite (fun _ => .checked _ (fun _ => 0) _ fun _ _ _ _ _ => rfl) fun _ => ?_
  refine .ite (fun _ => .withOpts_yesno _ fun _ _ _ => rfl) fun _ => ?_
  refine .ite (fun _ => .withOpts_yesno _ fun _ _ _ => rfl) fun _ => ?_
  refine .ite (fun _ => .withOpts_yesno _ fun _ _ _ => rfl) fun _ => ?_
  refine .ite (fun _ => .withOpts_yesno _ fun _ _ _ => rfl) fun _ => ?_
  refine .ite (fun h => absurd (by simp [h]) hname) fun _ => ?_
  refine .ite (fun h => absurd (by simp [h]) hname) fun _ => ?_
  refine .ite (fun h => absurd (by rcases h with h | h | h | h <;> simp [h]) hname) fun _ => ?_
  exact .ite (fun h => absurd (by simp [h]) hname) fun _ => .fail

/-! ## The `global_set_*` setters -/

section GlobalSetters

variable (env : Env)

theorem Global.setLeafcertdir_lastWins :
    LastWins fun v (_ : Nat) (g : Global) => g.setLeafcertdir env v :=
  LastWins.checked (fun v => env.sysIsdir v = true) (fun _ => 0) _ fun _ _ _ _ _ => rfl

theorem Global.setDefaultleafcert_lastWins :
    LastWins fun v (_ : Nat) (g : Global) => g.setDefaultleafcert env v :=
  LastWins.write _ _ fun _ _ _ _ => rfl

theorem Global.setUser_lastWins : LastWins fun v (_ : Nat) (g : Global) => g.setUser env v :=
  LastWins.checked (fun v => env.sysIsuser v = true) (fun _ => 0) _ fun _ _ _ _ _ => rfl

theorem Global.setGroup_lastWins : LastWins fun v (_ : Nat) (g : Global) => g.setGroup env v :=
  LastWins.checked (fun v => env.sysIsgroup v = true) (fun _ => 0) _ fun _ _ _ _ _ => rfl

theorem Global.setJaildir_lastWins : LastWins fun v (_ : Nat) (g : Global) => g.setJaildir env v :=
  LastWins.checked (fun v => env.sysIsdir v = true) _ _ fun _ _ _ _ _ => rfl

/-- `ConnectLog` and `MasterKeyLog`: `sys_realdir` decides both the code and
what is stored. -/
theorem Global.setRealdirLog_lastWins {set : Global → Option String → Global}
    (hset : ∀ g a b, set (set g a) b = set g b) :
    LastWins fun v (_ : Nat) (g : Global) => g.setRealdirLog env set v :=
  LastWins.write _ _ fun _ _ _ _ => hset _ _ _

/-- `ContentLog` and `PcapLog`: a failed `sys_realdir` frees the log path,
which a later success overwrites. -/
theorem Global.setLogFile_lastWins (log : Global.LogFields) :
    LastWins fun v (_ : Nat) (g : Global) => g.setLogFile env log v :=
  .of_parse env.sysRealdir (fun g => log.put g { log.get g with path := none })
    (fun path g => log.put g { log.get g with path := some path, isdir := false, isspec := false })
    (fun _ _ => by simp only [log.get_put, log.put_put])
    (fun _ _ _ => by simp only [log.get_put, log.put_put])
    fun v _ _ => by unfold Global.setLogFile; cases env.sysRealdir v <;> rfl

/-- `ContentLogPathSpec` and `PcapLogPathSpec`: a failed
`global_set_logbasedir` frees the base directory and the log path, which a
later success overwrites. -/
theorem Global.setLogPathspec_lastWins (log : Global.LogFields) :
    LastWins fun v (_ : Nat) (g : Global) => g.setLogPathspec env log v :=
  .of_parse (globalSetLogbasedir env)
    (fun g => log.put g { log.get g with basedir := none, path := none })
    (fun p g => log.put g { log.get g with basedir := some p.1, path := some p.2,
                                           isdir := false, isspec := true })
    (fun _ _ => by simp only [log.get_put, log.put_put])
    (fun _ _ _ => by simp only [log.get_put, log.put_put])
    fun v _ _ => by unfold Global.setLogPathspec; cases globalSetLogbasedir env v <;> rfl

/-- `ContentLogDir` and `PcapLogDir`: a value that is no directory changes
nothing, a failed `realpath` frees the log path. -/
theorem Global.setLogDir_lastWins (log : Global.LogFields) :
    LastWins fun v (_ : Nat) (g : Global) => g.setLogDir env log v := by
  intro v₁ v₂ _ _ g h
  simp only [Global.setLogDir] at h ⊢
  by_cases hd₂ : env.sysIsdir v₂ = true
  · cases h₂ : env.realpath v₂ with
    | none => simp [hd₂, h₂] at h
    | some _ =>
      by_cases hd₁ : env.sysIsdir v₁ = true
      · simp only [hd₁, hd₂, h₂, if_true]
        cases env.realpath v₁ <;> simp only [log.get_put, log.put_put]
      · simp only [hd₁, hd₂, h₂, if_true, if_false, Bool.false_eq_true]
  · simp [hd₂] at h

end GlobalSetters

/-! ## `set_global_option` -/

namespace LastWins

/-- A directive on the process-wide fields. -/
theorem global (f : String → Global → Int × Global) (hf : LastWins fun v (_ : Nat) g => f v g) :
    LastWins fun v (_ : Nat) (c : Conf) =>
      ((f v c.global).1, { c with global := (f v c.global).2 }) := by
  intro v₁ v₂ l₁ l₂ c h
  have hg := hf v₁ v₂ l₁ l₂ c.global h
  simp only at hg ⊢
  rw [hg]

/-- A number in range, read by `atoi`, stored on the process-wide fields. -/
theorem numeric (ok : Nat → Bool) (store : Global → Nat → Global)
    (hstore : ∀ g a b, store (store g a) b = store g b) :
    LastWins fun v (_ : Nat) (c : Conf) =>
      ((setNumeric v ok (store c.global) c.global).1,
        { c with global := (setNumeric v ok (store c.global) c.global).2 }) :=
  global (fun v g => setNumeric v ok (store g) g) fun v₁ v₂ _ _ g h => by
    simp only [setNumeric] at h ⊢
    split_ifs at h ⊢ <;> simp_all

/-- `set_option` on the global options, the default NAT engine and
`tmp_global_opts`, none of which it turns into `NULL`. -/
theorem scope (f : String → Nat → Scope → Int × Scope) (hf : LastWins f)
    (htmp : ∀ v l s t, s.tmp = some t → ∃ t', (f v l s).2.tmp = some t') :
    LastWins fun v l (c : Conf) =>
      ((f v l ⟨c.global.opts, c.natengine, some c.tmp⟩).1,
        { c with
          global :=
            { c.global with opts := (f v l ⟨c.global.opts, c.natengine, some c.tmp⟩).2.opts },
          natengine := (f v l ⟨c.global.opts, c.natengine, some c.tmp⟩).2.natengine,
          tmp := (f v l ⟨c.global.opts, c.natengine, some c.tmp⟩).2.tmp.getD c.tmp }) := by
  intro v₁ v₂ l₁ l₂ c h
  obtain ⟨t₁, ht₁⟩ := htmp v₁ l₁ ⟨c.global.opts, c.natengine, some c.tmp⟩ c.tmp rfl
  -- the scope rebuilt from the context after the first setting is the one it left
  have hs : (⟨(f v₁ l₁ ⟨c.global.opts, c.natengine, some c.tmp⟩).2.opts,
      (f v₁ l₁ ⟨c.global.opts, c.natengine, some c.tmp⟩).2.natengine,
      some ((f v₁ l₁ ⟨c.global.opts, c.natengine, some c.tmp⟩).2.tmp.getD c.tmp)⟩ : Scope) =
      (f v₁ l₁ ⟨c.global.opts, c.natengine, some c.tmp⟩).2 := by
    generalize (f v₁ l₁ ⟨c.global.opts, c.natengine, some c.tmp⟩).2 = r at ht₁ ⊢
    obtain ⟨o, n, t⟩ := r
    cases ht₁
    rfl
  simp only [hs] at h ⊢
  rw [hf _ _ _ _ _ h]
  obtain ⟨t₂, ht₂⟩ := htmp v₂ l₂ ⟨c.global.opts, c.natengine, some c.tmp⟩ c.tmp rfl
  simp [ht₂]

end LastWins

/-- Every plain directive of `set_global_option` but `LeafKey` and the
accumulating ones of `set_option`. -/
theorem setGlobalPlain_lastWins (env : Env) (name : String)
    (hname : name ∉ ["LeafKey", "CACert", "CAKey", "CAChain", "DisableSSLProto", "PassSite",
      "Define", "Split", "Pass", "Block", "Match", "Divert"]) :
    LastWins fun v l c => setGlobalPlain env c name v l := by
  unfold setGlobalPlain
  dsimp only
  -- one line per directive, in the order of the source
  refine .ite (fun _ => .global _ (Global.setLeafcertdir_lastWins env)) fun _ => ?_
  refine .ite (fun _ => .global _ (Global.setDefaultleafcert_lastWins env)) fun _ => ?_
  refine .ite (fun _ => .write (fun _ => 0) _ fun _ _ _ _ => rfl) fun _ => ?_
  refine .ite (fun _ => .write (fun _ => 0) _ fun _ _ _ _ => rfl) fun _ => ?_
  refine .ite (fun _ => .global _ (Global.setUser_lastWins env)) fun _ => ?_
  refine .ite (fun _ => .global _ (Global.setGroup_lastWins env)) fun _ => ?_
  refine .ite (fun _ => .global _ (Global.setJaildir_lastWins env)) fun _ => ?_
  refine .ite (fun _ => .write (fun _ => 0) _ fun _ _ _ _ => rfl) fun _ => ?_
  refine .ite (fun _ => .global _ (Global.setRealdirLog_lastWins env (by exact fun _ _ _ => rfl)))
    fun _ => ?_
  refine .ite (fun _ => .global _ (Global.setLogFile_lastWins env _)) fun _ => ?_
  refine .ite (fun _ => .global _ (Global.setLogDir_lastWins env _)) fun _ => ?_
  refine .ite (fun _ => .global _ (Global.setLogPathspec_lastWins env _)) fun _ => ?_
  refine .ite (fun _ => .yesno _ fun _ _ _ => rfl) fun _ => ?_
  refine .ite (fun _ => .global _ (Global.setRealdirLog_lastWins env (by exact fun _ _ _ => rfl)))
    fun _ => ?_
  refine .ite (fun _ => .global _ (Global.setLogFile_lastWins env _)) fun _ => ?_
  refine .ite (fun _ => .global _ (Global.setLogDir_lastWins env _)) fun _ => ?_
  refine .ite (fun _ => .global _ (Global.setLogPathspec_lastWins env _)) fun _ => ?_
  refine .ite (fun _ => .write (fun _ => 0) _ fun _ _ _ _ => rfl) fun _ => ?_
  refine .ite (fun _ => .write (fun _ => 0) _ fun _ _ _ _ => rfl) fun _ => ?_
  refine .ite (fun _ => .yesno _ fun _ _ _ => rfl) fun _ => ?_
  refine .ite (fun _ => .yesno _ fun _ _ _ => rfl) fun _ => ?_
  refine .ite (fun _ => .of_parse globalSetDebugLevel id (fun mode c => { c with dbgMode := mode })
    (fun _ _ => rfl) (fun _ _ _ => rfl) fun v _ _ => by cases globalSetDebugLevel v <;> rfl)
    fun _ => ?_
  refine .ite (fun _ => .write (fun _ => 0) _ fun _ _ _ _ => rfl) fun _ => ?_
  refine .ite (fun _ => .numeric _ (fun g i => { g with connIdleTimeout := i })
    fun _ _ _ => rfl) fun _ => ?_
  refine .ite (fun _ => .numeric _ (fun g i => { g with expiredConnCheckPeriod := i })
    fun _ _ _ => rfl) fun _ => ?_
  refine .ite (fun _ => .yesno _ fun _ _ _ => rfl) fun _ => ?_
  refine .ite (fun _ => .numeric _ (fun g i => { g with statsPeriod := i })
    fun _ _ _ => rfl) fun _ => ?_
  refine .ite (fun _ => .of_parse (globalSetOpenFilesLimit env) id
    (fun i c => { c with nofile := some i }) (fun _ _ => rfl) (fun _ _ _ => rfl)
    fun v _ _ => by cases globalSetOpenFilesLimit env v <;> rfl) fun _ => ?_
  refine .ite (fun h => absurd (by simp [h]) hname) fun _ => ?_
  refine .ite (fun _ => .numeric _ (fun g i => { g with leafkeyRsabits := i })
    fun _ _ _ => rfl) fun _ => ?_
  refine .ite (fun _ => .write (fun _ => 0) _ fun _ _ _ _ => rfl) fun _ => ?_
  refine .scope _ (setOption_lastWins env name (by simp_all)) fun v l s t hs => ?_
  -- `set_option` keeps `tmp_global_opts`
  have h := setOption_tmp_include env s name v l
  rw [hs] at h
  cases ht : (setOption env s name v l).2.tmp with
  | none => simp [ht] at h
  | some t' => exact ⟨t', rfl⟩

/-- A directive of neither `ProxySpec` nor `Include` goes to the plain
branches, after the empty value is refused. -/
theorem setGlobalOption_plain {env : Env} {incl : Conf → String → Except Fault (Int × Conf)}
    {name : String} (hproxy : name ≠ "ProxySpec") (hinclude : name ≠ "Include") (c : Conf)
    (value : String) (lineNum : Nat) (f : Option (List String)) :
    setGlobalOption env incl c name value lineNum f =
      let r := if value = "" then (-1, c) else setGlobalPlain env c name value lineNum
      .ok (r.1, r.2, lineNum, 0) := by
  unfold setGlobalOption
  by_cases hv : value = "" <;> simp only [hv, hproxy, hinclude, if_true, if_false] <;> rfl

/-- A directive set twice, in a configuration file or with `-o`, the second
time successfully: the second setting returns what it would have returned
and leaves the context as it would have left it, had the first not been
made.  The directives left out accumulate or read what they overwrite. -/
theorem setGlobalOption_overrides {env : Env}
    {incl incl' : Conf → String → Except Fault (Int × Conf)}
    {c : Conf} {name v₁ v₂ : String} {l₁ l₂ : Nat} {f₁ f₂ : Option (List String)}
    {r₁ r₂ : Int × Conf × Nat × Nat}
    (hname : name ∉ ["ProxySpec", "Include", "LeafKey", "CACert", "CAKey", "CAChain",
      "DisableSSLProto", "PassSite", "Define", "Split", "Pass", "Block", "Match", "Divert"])
    (h₁ : setGlobalOption env incl c name v₁ l₁ f₁ = .ok r₁)
    (h₂ : setGlobalOption env incl' r₁.2.1 name v₂ l₂ f₂ = .ok r₂) (hrc : r₂.1 ≠ -1) :
    setGlobalOption env incl' c name v₂ l₂ f₂ = .ok r₂ := by
  have hproxy : name ≠ "ProxySpec" := fun h => hname (h ▸ List.mem_cons_self _ _)
  have hinclude : name ≠ "Include" := fun h =>
    hname (h ▸ List.mem_cons_of_mem _ (List.mem_cons_self _ _))
  have hwins := LastWins.emptyValue (setGlobalPlain_lastWins env name fun h =>
    hname (List.mem_cons_of_mem _ (List.mem_cons_of_mem _ h)))
  rw [setGlobalOption_plain hproxy hinclude] at h₁ h₂ ⊢
  cases h₁
  cases h₂
  simp only [hwins v₁ v₂ l₁ l₂ c hrc]

/-- A configuration file line `Daemon yes`, then `-o Daemon=no`. -/
theorem setGlobalOption_overrides_sample :
    ∃ c, setGlobalOption Env.sample (optsLoadConffile Env.sample (fun _ => none) 1)
        (Conf.init 2048 none false) "Daemon" "no" 0 none = .ok (0, c, 0, 0) ∧
      c.global.detach = false := by
  have h₁ : setGlobalOption Env.sample (fun c _ => .ok (0, c)) (Conf.init 2048 none false)
      "Daemon" "yes" 3 (some []) = .ok (0, _, 3, 0) := rfl
  exact ⟨_, setGlobalOption_overrides (by simp) h₁ rfl (by decide), rfl⟩

end SSLproxy
