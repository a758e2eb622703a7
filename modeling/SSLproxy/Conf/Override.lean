import SSLproxy.Conf.Dispatch

/-!
# Listener overrides

A line inside a `ProxySpec { ... }` block goes to `set_option` on the
listener's options, which `global_opts_copy` cloned from the global ones.
Most lines make the same field assignments, with the same return code,
whatever options they are applied to, so such an override does not depend on
what the listener inherited.  `Patches` states this of a line; `OptsWrite`
lists the assignments a line can make.

Four directives are left out besides the accumulating ones.
`ForceSSLProto` refuses options that already force a protocol, `CAKey` loads
a CA certificate from its file only while none is set, and `CAChain` hands
the chain the options hold to `ssl_x509chain_load`.  `CACert` pushes onto the
inherited chain, which `Opts.Setters` shows keeps a replaced certificate, and
loads a CA key from its file only while none is set.
-/

namespace SSLproxy

/-- One field assignment a `set_option` line makes on the options of its
scope. -/
inductive OptsWrite
  | divert (yes : Bool)
  | sslcomp (yes : Bool)
  | passthrough (yes : Bool)
  | denyOcsp (yes : Bool)
  | minsslversion (version : Nat)
  | maxsslversion (version : Nat)
  | clientcrt (crt : Option X509)
  | clientkey (key : Option EvpPkey)
  | dh (params : Option Dh)
  | ecdhcurve (curve : Option String)
  | ciphers (ciphers : String)
  | ciphersuites (ciphersuites : String)
  | leafcrlurl (url : Option String)
  | removeHttpAcceptEncoding (yes : Bool)
  | removeHttpReferer (yes : Bool)
  | verifyPeer (yes : Bool)
  | allowWrongHost (yes : Bool)
  | userAuth (yes : Bool)
  | userAuthUrl (url : String)
  | userTimeout (timeout : Nat)
  | divertusers (users : List String)
  | passusers (users : List String)
  | validateProto (yes : Bool)
  | maxHttpHeaderSize (size : Nat)

namespace OptsWrite

/-- The options with the field assigned. -/
def apply : OptsWrite → Opts → Opts
  | divert yes, o => optsSetDivert o yes
  | sslcomp yes, o => optsSetSslcomp o yes
  | passthrough yes, o => optsSetPassthrough o yes
  | denyOcsp yes, o => optsSetDenyOcsp o yes
  | minsslversion v, o => { o with minsslversion := v }
  | maxsslversion v, o => { o with maxsslversion := v }
  | clientcrt crt, o => { o with clientcrt := crt }
  | clientkey key, o => { o with clientkey := key }
  | dh params, o => { o with dh := params }
  | ecdhcurve curve, o => { o with ecdhcurve := curve }
  | ciphers c, o => optsSetCiphers o c
  | ciphersuites c, o => optsSetCiphersuites o c
  | leafcrlurl url, o => { o with leafcrlurl := url }
  | removeHttpAcceptEncoding yes, o => optsSetRemoveHttpAcceptEncoding o yes
  | removeHttpReferer yes, o => optsSetRemoveHttpReferer o yes
  | verifyPeer yes, o => optsSetVerifyPeer o yes
  | allowWrongHost yes, o => optsSetAllowWrongHost o yes
  | userAuth yes, o => optsSetUserAuth o yes
  | userAuthUrl url, o => optsSetUserAuthUrl o url
  | userTimeout t, o => { o with userTimeout := t }
  | divertusers users, o => { o with divertusers := users }
  | passusers users, o => { o with passusers := users }
  | validateProto yes, o => optsSetValidateProto o yes
  | maxHttpHeaderSize n, o => { o with maxHttpHeaderSize := n }

/-- The assignments made one after the other. -/
def applyAll (ws : List OptsWrite) (opts : Opts) : Opts :=
  ws.foldl (fun opts w => w.apply opts) opts

end OptsWrite

/-- `f` makes the same field assignments on any options and returns a code
that does not depend on them. -/
def Patches (f : Opts → Int × Opts) : Prop :=
  ∃ rc ws, ∀ opts, f opts = (rc, OptsWrite.applyAll ws opts)

namespace Patches

theorem keep (rc : Int) : Patches fun opts => (rc, opts) := ⟨rc, [], fun _ => rfl⟩

theorem write (rc : Int) (w : OptsWrite) : Patches fun opts => (rc, w.apply opts) :=
  ⟨rc, [w], fun _ => rfl⟩

theorem yesno (value : String) (w : Bool → OptsWrite) (set : Opts → Bool → Opts)
    (hset : ∀ opts yes, set opts yes = (w yes).apply opts) : Patches (setYesno value set) := by
  show Patches fun opts => setYesno value set opts
  cases h : isYesno value with
  | none => simpa [setYesno, h] using keep (-1)
  | some yes => simpa [setYesno, h, hset] using write 0 (w yes)

theorem recorded {α : Type} (load : String → Option α) (store : Opts → Option α → Opts)
    (record : TmpGlobalOpts → String → TmpGlobalOpts) (value : String)
    (w : Option α → OptsWrite) (hstore : ∀ opts v, store opts v = (w v).apply opts) :
    Patches fun opts =>
      ((optsSetRecorded load store record opts value none).1,
        (optsSetRecorded load store record opts value none).2.1) := by
  simpa [optsSetRecorded, hstore] using
    write (if (load value).isSome then 0 else -1) (w (load value))

theorem protoBound (value : String) (w : Nat → OptsWrite) (set : Opts → Nat → Opts)
    (hset : ∀ opts v, set opts v = (w v).apply opts) :
    Patches (optsSetProtoBound set · value) := by
  cases h : sslProtoVersion value with
  | none => simpa [optsSetProtoBound, h] using keep (-1)
  | some v => simpa [optsSetProtoBound, h, hset] using write 0 (w v)

theorem ecdhcurve (env : Env) (value : String) : Patches (optsSetEcdhcurve env · value) := by
  by_cases h : env.sslEcByName value
  · simpa [optsSetEcdhcurve, h] using write 0 (.ecdhcurve (some value))
  · simpa [optsSetEcdhcurve, h] using write (-1) (.ecdhcurve none)

theorem userlist (value : String) (w : List String → OptsWrite) (get : Opts → List String)
    (set : Opts → List String → Opts) (hget : ∀ opts, set opts (get opts) = opts)
    (hset : ∀ opts users, set opts users = (w users).apply opts) :
    Patches fun opts =>
      ((optsSetUserlist value (get opts)).1, set opts (optsSetUserlist value (get opts)).2) := by
  by_cases hmax : maxUsers < (strtok [',', ' ', '\t'] value).length
  · simpa [optsSetUserlist, hmax, hget] using keep (-1)
  by_cases hnone : (strtok [',', ' ', '\t'] value).length = 0
  · simpa [optsSetUserlist, hnone, hget] using keep (-1)
  · simpa [optsSetUserlist, hmax, hnone, hset] using
      write 0 (w ((strtok [',', ' ', '\t'] value).foldr (· :: ·) []))

end Patches

/-- A block line other than the accumulating ones (`DisableSSLProto`,
`PassSite`, `Define`, the filter rules) and the four CA and protocol-forcing
directives returns the same code and makes the same field assignments on any
options: on the listener's clone of the global options and on fresh
`opts_new()` alike. -/
theorem setOption_override_patches (env : Env) (natengine : Option String)
    (name value : String) (lineNum : Nat)
    (hacc : name ∉ ["DisableSSLProto", "PassSite", "Define", "Split", "Pass", "Block", "Match"])
    (hdivert : name = "Divert" → (isYesno value).isSome)
    (hinh : name ∉ ["ForceSSLProto", "CACert", "CAKey", "CAChain"]) :
    Patches fun opts =>
      ((setOption env ⟨opts, natengine, none⟩ name value lineNum).1,
        (setOption env ⟨opts, natengine, none⟩ name value lineNum).2.opts) := by
  by_cases hv : value = ""
  · simpa [setOption, hv] using Patches.keep (-1)
  by_cases hk : name ∈ ["ClientCert", "ClientKey", "LeafCRLURL", "DenyOCSP",
      "Passthrough", "DHGroupParams", "ECDHCurve", "SSLCompression",
      "MinSSLProto", "MaxSSLProto", "Ciphers", "CipherSuites", "NATEngine",
      "UserAuth", "UserAuthURL", "UserTimeout", "DivertUsers", "PassUsers", "ValidateProto",
      "MaxHTTPHeaderSize", "VerifyPeer", "AllowWrongHost", "RemoveHTTPAcceptEncoding",
      "RemoveHTTPReferer", "Divert"]
  · simp only [List.mem_cons, List.not_mem_nil, or_false] at hk
    rcases hk with rfl | rfl | rfl | rfl | rfl | rfl | rfl | rfl | rfl | rfl | rfl | rfl | rfl |
      rfl | rfl | rfl | rfl | rfl | rfl | rfl | rfl | rfl | rfl | rfl | rfl
    all_goals
      simp only [setOption, hv, Scope.withOpts, Scope.withPki, ↓reduceIte, String.reduceEq]
    · exact Patches.recorded _ _ _ value .clientcrt fun _ _ => rfl
    · exact Patches.recorded _ _ _ value .clientkey fun _ _ => rfl
    · exact Patches.recorded _ _ _ value .leafcrlurl fun _ _ => rfl
    · exact Patches.yesno value .denyOcsp _ fun _ _ => rfl
    · exact Patches.yesno value .passthrough _ fun _ _ => rfl
    · exact Patches.recorded _ _ _ value .dh fun _ _ => rfl
    · exact Patches.ecdhcurve env value
    · exact Patches.yesno value .sslcomp _ fun _ _ => rfl
    · exact Patches.protoBound value .minsslversion _ fun _ _ => rfl
    · exact Patches.protoBound value .maxsslversion _ fun _ _ => rfl
    · exact Patches.write 0 (.ciphers value)
    · exact Patches.write 0 (.ciphersuites value)
    · exact Patches.keep 0
    · exact Patches.yesno value .userAuth _ fun _ _ => rfl
    · exact Patches.write 0 (.userAuthUrl value)
    · split_ifs
      · exact Patches.write 0 (.userTimeout _)
      · exact Patches.keep (-1)
    · exact Patches.userlist value .divertusers Opts.divertusers _ (fun _ => rfl) fun _ _ => rfl
    · exact Patches.userlist value .passusers Opts.passusers _ (fun _ => rfl) fun _ _ => rfl
    · exact Patches.yesno value .validateProto _ fun _ _ => rfl
    · split_ifs
      · exact Patches.write 0 (.maxHttpHeaderSize _)
      · exact Patches.keep (-1)
    · exact Patches.yesno value .verifyPeer _ fun _ _ => rfl
    · exact Patches.yesno value .allowWrongHost _ fun _ _ => rfl
    · exact Patches.yesno value .removeHttpAcceptEncoding _ fun _ _ => rfl
    · exact Patches.yesno value .removeHttpReferer _ fun _ _ => rfl
    · obtain ⟨yes, h⟩ := Option.isSome_iff_exists.mp (hdivert rfl)
      simpa [h] using Patches.write 0 (.divert yes)
  · simp only [List.mem_cons, List.not_mem_nil, or_false, not_or] at hk hacc hinh
    simpa [setOption, hv, hk, hacc, hinh] using Patches.keep (-1)

/-- `VerifyPeer no` is such a line. -/
theorem setOption_verifyPeer_patches :
    Patches fun opts =>
      ((setOption Env.sample ⟨opts, none, none⟩ "VerifyPeer" "no" 1).1,
        (setOption Env.sample ⟨opts, none, none⟩ "VerifyPeer" "no" 1).2.opts) :=
  setOption_override_patches Env.sample none "VerifyPeer" "no" 1 (by decide) (by decide)
    (by decide)

/-- Four block lines whose outcome on the listener's clone differs from their
outcome on fresh options.  After a global `ForceSSLProto tls12`,
`ForceSSLProto tls13` fails on the clone only; after a global `CACert ca1.pem`,
`CAKey ca2.pem` keeps the inherited certificate on the clone only; after a
global `CAKey ca1.pem`, `CACert ca2.pem` keeps the inherited key on the clone
only, where fresh options load the key from `ca2.pem`; after a global
`CAChain chain.pem`, `CAChain chain.pem` gives the clone the chain
certificate twice. -/
theorem setOption_override_depends_on_clone :
    ((setOption Env.sample ⟨optsNew, none, none⟩ "ForceSSLProto" "tls13" 2).1,
      (globalOptsCopy Env.sample
          (setGlobalPlain Env.sample (Conf.init 2048 none false) "ForceSSLProto" "tls12" 1).2.global
          (setGlobalPlain Env.sample (Conf.init 2048 none false) "ForceSSLProto" "tls12" 1).2.tmp).map
        fun clone => (setOption Env.sample ⟨clone, none, none⟩ "ForceSSLProto" "tls13" 2).1) =
      (0, some (-1)) ∧
    ((setOption Env.sample ⟨optsNew, none, none⟩ "CAKey" "ca2.pem" 2).2.opts.cacrt,
      (globalOptsCopy Env.sample
          (setGlobalPlain Env.sample (Conf.init 2048 none false) "CACert" "ca1.pem" 1).2.global
          (setGlobalPlain Env.sample (Conf.init 2048 none false) "CACert" "ca1.pem" 1).2.tmp).map
        fun clone => (setOption Env.sample ⟨clone, none, none⟩ "CAKey" "ca2.pem" 2).2.opts.cacrt) =
      (some ⟨2⟩, some (some ⟨1⟩)) ∧
    ((setOption Env.sample ⟨optsNew, none, none⟩ "CACert" "ca2.pem" 2).2.opts.cakey,
      (globalOptsCopy Env.sample
          (setGlobalPlain Env.sample (Conf.init 2048 none false) "CAKey" "ca1.pem" 1).2.global
          (setGlobalPlain Env.sample (Conf.init 2048 none false) "CAKey" "ca1.pem" 1).2.tmp).map
        fun clone => (setOption Env.sample ⟨clone, none, none⟩ "CACert" "ca2.pem" 2).2.opts.cakey) =
      (some ⟨2⟩, some (some ⟨1⟩)) ∧
    ((setOption Env.sample ⟨optsNew, none, none⟩ "CAChain" "chain.pem" 2).2.opts.chain,
      (globalOptsCopy Env.sample
          (setGlobalPlain Env.sample (Conf.init 2048 none false) "CAChain" "chain.pem" 1).2.global
          (setGlobalPlain Env.sample (Conf.init 2048 none false) "CAChain" "chain.pem" 1).2.tmp).map
        fun clone => (setOption Env.sample ⟨clone, none, none⟩ "CAChain" "chain.pem" 2).2.opts.chain) =
      ([⟨4⟩], some [⟨4⟩, ⟨4⟩]) :=
  by decide

end SSLproxy
