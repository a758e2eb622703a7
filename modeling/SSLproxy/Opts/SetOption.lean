import SSLproxy.Opts.Setters

/-!
# The shared option dispatcher

`set_option` handles every directive that can be set both globally and inside
a `ProxySpec { ... }` block.  It is called on `global->opts` with the real
`tmp_global_opts` for a global line, and on the listener's options with `NULL`
for a line inside a block.  Besides the options of its scope it can change
only the default NAT engine `*natengine` (the `NATEngine` directive) and
`tmp_global_opts` (through the recording setters).
-/

namespace SSLproxy

/-- What `set_option` acts on: the options of the scope being configured, the
default NAT engine `*natengine`, and `tmp_global_opts`, which is `none`
(`NULL`) inside a listener block. -/
structure Scope where
  opts : Opts
  natengine : Option String
  tmp : Option TmpGlobalOpts
deriving DecidableEq

/-! ## The yes/no settings -/

/-- `opts_set_divert` / `opts_unset_divert`. -/
def optsSetDivert (opts : Opts) (yes : Bool) : Opts := { opts with divert := yes }

/-- `opts_set_deny_ocsp` / `opts_unset_deny_ocsp`. -/
def optsSetDenyOcsp (opts : Opts) (yes : Bool) : Opts := { opts with denyOcsp := yes }

/-- `opts_set_passthrough` / `opts_unset_passthrough`. -/
def optsSetPassthrough (opts : Opts) (yes : Bool) : Opts :=
  { opts with passthrough := yes }

/-- `opts_set_sslcomp` / `opts_unset_sslcomp`. -/
def optsSetSslcomp (opts : Opts) (yes : Bool) : Opts := { opts with sslcomp := yes }

/-- `opts_set_user_auth` / `opts_unset_user_auth`; the build is on Linux, where
user authentication can be enabled. -/
def optsSetUserAuth (opts : Opts) (yes : Bool) : Opts := { opts with userAuth := yes }

/-- `opts_set_validate_proto` / `opts_unset_validate_proto`. -/
def optsSetValidateProto (opts : Opts) (yes : Bool) : Opts :=
  { opts with validateProto := yes }

/-- `opts_set_verify_peer` / `opts_unset_verify_peer`. -/
def optsSetVerifyPeer (opts : Opts) (yes : Bool) : Opts :=
  { opts with verifyPeer := yes }

/-- `opts_set_allow_wrong_host` / `opts_unset_allow_wrong_host`. -/
def optsSetAllowWrongHost (opts : Opts) (yes : Bool) : Opts :=
  { opts with allowWrongHost := yes }

/-- `opts_set_remove_http_accept_encoding` / `opts_unset_...`. -/
def optsSetRemoveHttpAcceptEncoding (opts : Opts) (yes : Bool) : Opts :=
  { opts with removeHttpAcceptEncoding := yes }

/-- `opts_set_remove_http_referer` / `opts_unset_remove_http_referer`. -/
def optsSetRemoveHttpReferer (opts : Opts) (yes : Bool) : Opts :=
  { opts with removeHttpReferer := yes }

/-- The yes/no branches of `set_option`: `check_value_yesno`, then the set or
unset function of the field. -/
def setYesno (value : String) (set : Opts → Bool → Opts) (opts : Opts) :
    Int × Opts :=
  match isYesno value with
  | none => (-1, opts)
  | some yes => (0, set opts yes)

/-! ## The dispatcher -/

/-- A `filter.c` call from `set_option`: its code is returned, and a line it
accepts joins the scope's filter state. -/
def applyFilter (rc : Int) (name value : String) (opts : Opts) : Int × Opts :=
  (rc, if rc = -1 then opts else { opts with filter := opts.filter ++ [(name, value)] })

namespace Scope

/-- Store the result of a setter of `opts` alone. -/
def withOpts (s : Scope) (r : Int × Opts) : Int × Scope :=
  (r.1, { s with opts := r.2 })

/-- Store the result of a setter of `opts` and `tmp_global_opts`. -/
def withPki (s : Scope) (r : Int × Opts × Option TmpGlobalOpts) : Int × Scope :=
  (r.1, { s with opts := r.2.1, tmp := r.2.2 })

end Scope

/-- `set_option`, branch by branch in the order of the source.  An empty value
is refused before the name is looked at. -/
def setOption (env : Env) (s : Scope) (name value : String) (lineNum : Nat) :
    Int × Scope :=
  let opts := s.opts
  if value = "" then (-1, s)
  else if name = "CACert" then s.withPki (optsSetCacrt env opts value s.tmp)
  else if name = "CAKey" then s.withPki (optsSetCakey env opts value s.tmp)
  else if name = "ClientCert" then s.withPki (optsSetClientcrt env opts value s.tmp)
  else if name = "ClientKey" then s.withPki (optsSetClientkey env opts value s.tmp)
  else if name = "CAChain" then s.withPki (optsSetChain env opts value s.tmp)
  else if name = "LeafCRLURL" then s.withPki (optsSetLeafcrlurl opts value s.tmp)
  else if name = "DenyOCSP" then s.withOpts (setYesno value optsSetDenyOcsp opts)
  else if name = "Passthrough" then s.withOpts (setYesno value optsSetPassthrough opts)
  else if name = "DHGroupParams" then s.withPki (optsSetDh env opts value s.tmp)
  else if name = "ECDHCurve" then s.withOpts (optsSetEcdhcurve env opts value)
  else if name = "SSLCompression" then s.withOpts (setYesno value optsSetSslcomp opts)
  else if name = "ForceSSLProto" then s.withOpts (optsForceProto opts value)
  else if name = "DisableSSLProto" then s.withOpts (optsDisableProto opts value)
  else if name = "MinSSLProto" then s.withOpts (optsSetMinProto opts value)
  else if name = "MaxSSLProto" then s.withOpts (optsSetMaxProto opts value)
  else if name = "Ciphers" then (0, { s with opts := optsSetCiphers opts value })
  else if name = "CipherSuites" then
    (0, { s with opts := optsSetCiphersuites opts value })
  else if name = "NATEngine" then (0, { s with natengine := some value })
  else if name = "UserAuth" then s.withOpts (setYesno value optsSetUserAuth opts)
  else if name = "UserAuthURL" then (0, { s with opts := optsSetUserAuthUrl opts value })
  else if name = "UserTimeout" then
    let i := toUnsigned (atoi value)
    if i ≤ 86400 then (0, { s with opts := { opts with userTimeout := i } }) else (-1, s)
  else if name = "DivertUsers" then
    let (rc, list) := optsSetUserlist value opts.divertusers
    (rc, { s with opts := { opts with divertusers := list } })
  else if name = "PassUsers" then
    let (rc, list) := optsSetUserlist value opts.passusers
    (rc, { s with opts := { opts with passusers := list } })
  else if name = "ValidateProto" then s.withOpts (setYesno value optsSetValidateProto opts)
  else if name = "MaxHTTPHeaderSize" then
    let i := toUnsigned (atoi value)
    if 1024 ≤ i ∧ i ≤ 65536 then (0, { s with opts := { opts with maxHttpHeaderSize := i } })
    else (-1, s)
  else if name = "VerifyPeer" then s.withOpts (setYesno value optsSetVerifyPeer opts)
  else if name = "AllowWrongHost" then s.withOpts (setYesno value optsSetAllowWrongHost opts)
  else if name = "RemoveHTTPAcceptEncoding" then
    s.withOpts (setYesno value optsSetRemoveHttpAcceptEncoding opts)
  else if name = "RemoveHTTPReferer" then
    s.withOpts (setYesno value optsSetRemoveHttpReferer opts)
  else if name = "PassSite" then
    s.withOpts (applyFilter (env.filterPasssiteSet opts value lineNum) name value opts)
  else if name = "Define" then
    s.withOpts (applyFilter (env.filterMacroSet opts value lineNum) name value opts)
  else if name = "Split" ∨ name = "Pass" ∨ name = "Block" ∨ name = "Match" then
    s.withOpts (applyFilter (env.filterRuleSet opts name value lineNum) name value opts)
  else if name = "Divert" then
    match isYesno value with
    | none => s.withOpts (applyFilter (env.filterRuleSet opts name value lineNum) name value opts)
    | some yes => (0, { s with opts := optsSetDivert opts yes })
  else (-1, s)

/-! ## Return codes -/

theorem setYesno_code {value : String} {set : Opts → Bool → Opts} {opts : Opts} :
    (setYesno value set opts).1 = -1 ∨ (setYesno value set opts).1 = 0 := by
  unfold setYesno; split <;> simp

/-- `filter.c`'s setters report `0` or `-1`. -/
def Env.FilterCodes (env : Env) : Prop :=
  (∀ opts value lineNum, env.filterPasssiteSet opts value lineNum = -1 ∨
    env.filterPasssiteSet opts value lineNum = 0) ∧
  (∀ opts value lineNum, env.filterMacroSet opts value lineNum = -1 ∨
    env.filterMacroSet opts value lineNum = 0) ∧
  (∀ opts name value lineNum, env.filterRuleSet opts name value lineNum = -1 ∨
    env.filterRuleSet opts name value lineNum = 0)

theorem Env.sample_filterCodes : Env.sample.FilterCodes :=
  ⟨fun _ _ _ => .inr rfl, fun _ _ _ => .inr rfl, fun _ _ _ _ => .inr rfl⟩

/-- `set_option` returns `-1` or `0` whenever `filter.c` does. -/
theorem setOption_code {env : Env} (hfilter : env.FilterCodes) (s : Scope) (name value : String)
    (lineNum : Nat) :
    (setOption env s name value lineNum).1 = -1 ∨ (setOption env s name value lineNum).1 = 0 := by
  obtain ⟨hpass, hmacro, hrule⟩ := hfilter
  obtain ⟨P, hP⟩ : ∃ P : Int × Scope → Prop, P = fun r => r.1 = -1 ∨ r.1 = 0 := ⟨_, rfl⟩
  suffices P (setOption env s name value lineNum) by rwa [hP] at this
  unfold setOption
  repeat' (apply iteInduction (motive := P) <;> intro _)
  all_goals
    subst hP
    simp only [or_true, true_or, Scope.withPki, Scope.withOpts, applyFilter, hpass, hmacro,
      hrule, optsSetCacrt_code, optsSetCakey_code, optsSetChain_code, optsSetClientcrt,
      optsSetClientkey, optsSetDh, optsSetLeafcrlurl, optsSetRecorded_code,
      optsSetEcdhcurve_code, setYesno_code, optsForceProto_code, optsDisableProto_code,
      optsSetMinProto, optsSetMaxProto, optsSetProtoBound_code, optsSetUserlist_code]
  -- `Divert`: a yes/no value, or else a filter rule
  split <;> simp only [Scope.withOpts, applyFilter, hrule, or_true]

/-! ## What `set_option` leaves alone -/

/-- The recording setters write paths into `tmp_global_opts` and nothing
else of it: its `include` flag comes out of `set_option` as it went in. -/
theorem setOption_tmp_include (env : Env) (s : Scope) (name value : String) (lineNum : Nat) :
    (setOption env s name value lineNum).2.tmp.map TmpGlobalOpts.include =
      s.tmp.map TmpGlobalOpts.include := by
  obtain ⟨P, hP⟩ : ∃ P : Int × Scope → Prop,
      P = fun r => r.2.tmp.map TmpGlobalOpts.include = s.tmp.map TmpGlobalOpts.include := ⟨_, rfl⟩
  suffices P (setOption env s name value lineNum) by rwa [hP] at this
  unfold setOption
  repeat' (apply iteInduction (motive := P) <;> intro _)
  all_goals subst hP; (try split) <;>
    simp [Scope.withPki, Scope.withOpts, optsSetClientcrt, optsSetClientkey, optsSetDh,
      optsSetLeafcrlurl, Option.map_map, Function.comp_def]

/-- No directive but `Divert` writes the divert setting. -/
theorem setOption_divert_of_ne {env : Env} {s : Scope} {name value : String} {lineNum : Nat}
    (hname : name ≠ "Divert") :
    (setOption env s name value lineNum).2.opts.divert = s.opts.divert := by
  obtain ⟨P, hP⟩ : ∃ P : Int × Scope → Prop, P = fun r => r.2.opts.divert = s.opts.divert :=
    ⟨_, rfl⟩
  suffices P (setOption env s name value lineNum) by rwa [hP] at this
  unfold setOption
  repeat' (apply iteInduction (motive := P) <;> intro _)
  all_goals subst hP; dsimp only [Scope.withPki, Scope.withOpts]
  all_goals first
    | rfl
    | exact absurd ‹name = "Divert"› hname
    | ((dsimp only [optsSetCacrt, optsSetCakey, loadCacrtIfUnset, optsSetChain, setYesno,
        optsSetEcdhcurve, optsForceProto, optsDisableProto, optsSetMinProto, optsSetMaxProto,
        optsSetProtoBound, applyFilter]; repeat' split) <;> rfl)

/-- `Divert yes` and `Divert no` set the divert setting; any other `Divert`
value is a filter rule, and no other directive writes it. -/
theorem setOption_divert (env : Env) (s : Scope) (name value : String) (lineNum : Nat) :
    (setOption env s name value lineNum).2.opts.divert =
      if name = "Divert" then (isYesno value).getD s.opts.divert else s.opts.divert := by
  split_ifs with hname
  · subst hname
    by_cases hv : value = ""
    · simp [setOption, hv, isYesno]
    · simp only [setOption, hv, String.reduceEq, ↓reduceIte, or_self]
      cases isYesno value
      · dsimp only [Scope.withOpts, applyFilter]; split <;> rfl
      · rfl
  · exact setOption_divert_of_ne hname

/-! ## What `set_option` does not read -/

/-- `filter.c` reads the line number only for its messages: its three setters
return the same code on every line. -/
def Env.LineFree (env : Env) : Prop :=
  (∀ opts value lineNum,
    env.filterPasssiteSet opts value lineNum = env.filterPasssiteSet opts value 0) ∧
  (∀ opts value lineNum, env.filterMacroSet opts value lineNum = env.filterMacroSet opts value 0) ∧
  (∀ opts name value lineNum,
    env.filterRuleSet opts name value lineNum = env.filterRuleSet opts name value 0)

theorem Env.sample_lineFree : Env.sample.LineFree :=
  ⟨fun _ _ _ => rfl, fun _ _ _ => rfl, fun _ _ _ _ => rfl⟩

/-- The result of `set_option` with the `include` flag of `tmp_global_opts`
set to `b`. -/
def Scope.withInclude (b : Bool) (r : Int × Scope) : Int × Scope :=
  (r.1, { r.2 with tmp := r.2.tmp.map fun t => { t with «include» := b } })

/-- When `filter.c` ignores line numbers, so does `set_option`. -/
theorem setOption_lineNum {env : Env} (hfree : env.LineFree) (s : Scope) (name value : String)
    (lineNum : Nat) : setOption env s name value lineNum = setOption env s name value 0 := by
  obtain ⟨hpass, hmacro, hrule⟩ := hfree
  simp only [setOption, hpass _ _ lineNum, hmacro _ _ lineNum, hrule _ _ _ lineNum]

/-- `set_option` never reads the `include` flag, and writes it back as it
found it. -/
theorem setOption_withInclude (env : Env) (s : Scope) (name value : String) (lineNum : Nat)
    (b : Bool) :
    setOption env { s with tmp := s.tmp.map fun t => { t with «include» := b } } name value lineNum =
      Scope.withInclude b (setOption env s name value lineNum) := by
  obtain ⟨opts, natengine, tmp⟩ := s
  simp only [setOption, apply_ite (Scope.withInclude b)]
  repeat' (apply ite_congr rfl <;> intro _)
  -- the recording setters that match on what they load
  all_goals cases tmp <;> first
    | rfl
    | (simp only [Scope.withPki, Scope.withInclude, optsSetCacrt, optsSetCakey, optsSetChain]
       split <;> rfl)

end SSLproxy
