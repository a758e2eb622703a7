import SSLproxy.Opts.Setters

/-!
# Cloning the global options for a new listener

`global_opts_copy` builds the options of every new listener.  It starts from
`opts_new()`, copies the scalar policy fields of `global->opts`, then replays
the last recorded global certificate, key, chain, CRL-URL and DH paths through
the same setters the global settings went through (in a fixed order, not in
the order they were declared), then copies the cipher, curve and URL strings,
the two user lists and the filter state.

The user-list copy walks the global list from its head and prepends each
name, so the clone's lists come out reversed.
-/

namespace SSLproxy

/-- The scalar assignments at the top of `global_opts_copy`, made on
`opts_new()`. -/
def copyScalars (g : Opts) : Opts :=
  { optsNew with
    divert := g.divert
    sslcomp := g.sslcomp
    noSsl3 := g.noSsl3
    noTls10 := g.noTls10
    noTls11 := g.noTls11
    noTls12 := g.noTls12
    noTls13 := g.noTls13
    passthrough := g.passthrough
    denyOcsp := g.denyOcsp
    sslversion := g.sslversion
    minsslversion := g.minsslversion
    maxsslversion := g.maxsslversion
    removeHttpAcceptEncoding := g.removeHttpAcceptEncoding
    removeHttpReferer := g.removeHttpReferer
    verifyPeer := g.verifyPeer
    allowWrongHost := g.allowWrongHost
    userAuth := g.userAuth
    userTimeout := g.userTimeout
    validateProto := g.validateProto
    maxHttpHeaderSize := g.maxHttpHeaderSize }

/-- One `if (tmp_global_opts && tmp_global_opts->x_str)` step of the replay:
run the setter on the recorded path without recording it again.  A failing
setter makes the whole copy fail (`return NULL`). -/
def replay (setter : Opts → String → Option TmpGlobalOpts →
      Int × Opts × Option TmpGlobalOpts)
    (path : Option String) (opts : Opts) : Option Opts :=
  match path with
  | none => some opts
  | some p =>
    let (rc, opts, _) := setter opts p none
    if rc = -1 then none else some opts

/-- The path replay of `global_opts_copy`, in the order of the source: chain,
CRL URL, CA certificate, CA key, client certificate, client key, DH. -/
def replayPki (env : Env) (tmp : TmpGlobalOpts) (opts : Opts) : Option Opts := do
  let opts ← replay (optsSetChain env) tmp.chainStr opts
  let opts ← replay optsSetLeafcrlurl tmp.leafcrlurlStr opts
  let opts ← replay (optsSetCacrt env) tmp.cacrtStr opts
  let opts ← replay (optsSetCakey env) tmp.cakeyStr opts
  let opts ← replay (optsSetClientcrt env) tmp.clientcrtStr opts
  let opts ← replay (optsSetClientkey env) tmp.clientkeyStr opts
  replay (optsSetDh env) tmp.dhStr opts

/-- The user-list loops of `global_opts_copy`: walk `users` from its head and
prepend a copy of each name to `list`. -/
def copyUserlist (users list : List String) : List String :=
  users.foldl (fun list user => user :: list) list

/-- The string, list and filter copies that end `global_opts_copy`. -/
def copyStrings (env : Env) (g : Opts) (opts : Opts) : Option Opts := do
  let opts ← match g.ecdhcurve with
    | none => some opts
    | some curve =>
      let (rc, opts) := optsSetEcdhcurve env opts curve
      if rc = -1 then none else some opts
  let opts := match g.ciphers with
    | none => opts
    | some ciphers => optsSetCiphers opts ciphers
  let opts := match g.ciphersuites with
    | none => opts
    | some ciphersuites => optsSetCiphersuites opts ciphersuites
  let opts := match g.userAuthUrl with
    | none => opts
    | some url => optsSetUserAuthUrl opts url
  pure { opts with
    divertusers := copyUserlist g.divertusers opts.divertusers
    passusers := copyUserlist g.passusers opts.passusers
    filter := opts.filter ++ g.filter }

/-- `global_opts_copy`: the options of a new listener, or `none` when a
replayed setter fails. -/
def globalOptsCopy (env : Env) (global : Global) (tmp : TmpGlobalOpts) :
    Option Opts :=
  (replayPki env tmp (copyScalars global.opts)).bind (copyStrings env global.opts)

/-- `proxyspec_new`: a zeroed listener owning a clone of the global options. -/
def proxyspecNew (env : Env) (global : Global) (tmp : TmpGlobalOpts) :
    Option Proxyspec :=
  (globalOptsCopy env global tmp).map Proxyspec.empty

/-! ## The user lists come out reversed -/

theorem copyUserlist_eq (users list : List String) :
    copyUserlist users list = users.reverse ++ list := by
  induction users generalizing list with
  | nil => rfl
  | cons user users ih =>
      show copyUserlist users (user :: list) = _
      rw [ih]
      simp

/-- Global options whose `DivertUsers` line was `alice,bob` clone as
`bob,alice`. -/
theorem globalOptsCopy_reverses_divertusers :
    (usersStr (optsSetUserlist "alice,bob" []).2,
      (globalOptsCopy Env.sample
          { globalNew 2048 with
            opts := { optsNew with divertusers := (optsSetUserlist "alice,bob" []).2 } }
          (Conf.init 2048 none false).tmp).map (usersStr ·.divertusers)) =
      ("alice,bob", some "bob,alice") :=
  rfl

/-! ## What a listener inherits -/

/-- The options with their certificate, key, chain, CRL-URL and DH settings
cleared: the part of them that the path replay leaves alone. -/
def Opts.clearPki (opts : Opts) : Opts :=
  { opts with cacrt := none, cakey := none, chain := [], clientcrt := none, clientkey := none,
              dh := none, leafcrlurl := none }

section ClearPki

variable {env : Env} {opts opts' : Opts} {optarg : String}

theorem optsSetCacrt_clearPki :
    (optsSetCacrt env opts optarg none).2.1.clearPki = opts.clearPki := by
  unfold optsSetCacrt; split <;> rfl

theorem optsSetCakey_clearPki :
    (optsSetCakey env opts optarg none).2.1.clearPki = opts.clearPki := by
  unfold optsSetCakey loadCacrtIfUnset; repeat' split
  all_goals rfl

theorem optsSetChain_clearPki :
    (optsSetChain env opts optarg none).2.1.clearPki = opts.clearPki := by
  unfold optsSetChain; split <;> rfl

theorem replay_clearPki
    {setter : Opts → String → Option TmpGlobalOpts → Int × Opts × Option TmpGlobalOpts}
    {path : Option String}
    (hsetter : ∀ opts p, (setter opts p none).2.1.clearPki = opts.clearPki)
    (h : replay setter path opts = some opts') : opts'.clearPki = opts.clearPki := by
  cases path with
  | none => cases h; rfl
  | some p =>
    rcases hs : setter opts p none with ⟨rc, o, t⟩
    simp only [replay, hs] at h
    split_ifs at h
    cases h
    simpa [hs] using hsetter opts p

/-- The path replay changes nothing but the certificate settings. -/
theorem replayPki_clearPki {tmp : TmpGlobalOpts} (h : replayPki env tmp opts = some opts') :
    opts'.clearPki = opts.clearPki := by
  simp only [replayPki, Option.bind_eq_bind, Option.bind_eq_some] at h
  obtain ⟨o₁, h₁, o₂, h₂, o₃, h₃, o₄, h₄, o₅, h₅, o₆, h₆, h₇⟩ := h
  rw [replay_clearPki (fun _ _ => rfl) h₇, replay_clearPki (fun _ _ => rfl) h₆,
    replay_clearPki (fun _ _ => rfl) h₅, replay_clearPki (fun _ _ => optsSetCakey_clearPki) h₄,
    replay_clearPki (fun _ _ => optsSetCacrt_clearPki) h₃, replay_clearPki (fun _ _ => rfl) h₂,
    replay_clearPki (fun _ _ => optsSetChain_clearPki) h₁]

end ClearPki

/-- What a successful `copyStrings` does: each optional string the global
options set is set again, and the user lists and filters are appended. -/
theorem copyStrings_some {env : Env} {g o opts : Opts} (h : copyStrings env g o = some opts) :
    opts = { o with
      ecdhcurve := g.ecdhcurve.or o.ecdhcurve
      ciphers := g.ciphers.or o.ciphers
      ciphersuites := g.ciphersuites.or o.ciphersuites
      userAuthUrl := g.userAuthUrl.or o.userAuthUrl
      divertusers := copyUserlist g.divertusers o.divertusers
      passusers := copyUserlist g.passusers o.passusers
      filter := o.filter ++ g.filter } := by
  -- the curve is the one copy that can fail
  obtain ⟨o₁, h₁, h⟩ : ∃ o₁, o₁ = { o with ecdhcurve := g.ecdhcurve.or o.ecdhcurve } ∧
      copyStrings env { g with ecdhcurve := none } o₁ = some opts := by
    unfold copyStrings at h ⊢
    cases hc : g.ecdhcurve with
    | none => exact ⟨o, rfl, by simpa [hc] using h⟩
    | some curve =>
      by_cases he : env.sslEcByName curve
      · simp only [hc, optsSetEcdhcurve, he] at h
        exact ⟨_, rfl, by simpa using h⟩
      · simp [hc, optsSetEcdhcurve, he] at h
  subst h₁
  simp only [copyStrings, Option.pure_def, Option.bind_eq_bind, Option.some_bind,
    Option.some.injEq] at h
  subst h
  cases g.ciphers <;> cases g.ciphersuites <;> cases g.userAuthUrl <;> rfl

/-- The string, list and filter copies, made on the scalars of `g` with any
certificate settings. -/
theorem copyStrings_clearPki {env : Env} {g o opts : Opts}
    (hpki : o.clearPki = (copyScalars g).clearPki) (h : copyStrings env g o = some opts) :
    opts.clearPki = { g.clearPki with
      divertusers := g.divertusers.reverse
      passusers := g.passusers.reverse } := by
  rw [copyStrings_some h]
  obtain ⟨⟩ := o
  simp only [Opts.clearPki, copyScalars, optsNew, Opts.mk.injEq] at hpki
  obtain ⟨rfl, rfl, rfl, rfl, rfl, rfl, rfl, rfl, rfl, rfl, rfl, rfl, -, -, -, -, -, -, rfl, rfl,
    rfl, -, rfl, rfl, rfl, rfl, rfl, rfl, rfl, rfl, rfl, rfl, rfl, rfl⟩ := hpki
  simp [Opts.clearPki, copyUserlist_eq]

/-- A listener inherits the global divert setting. -/
theorem globalOptsCopy_divert {env : Env} {global : Global} {tmp : TmpGlobalOpts} {opts : Opts}
    (h : globalOptsCopy env global tmp = some opts) : opts.divert = global.opts.divert := by
  obtain ⟨o, hreplay, hcopy⟩ := Option.bind_eq_some.mp h
  rw [copyStrings_some hcopy]
  exact (congrArg Opts.divert (replayPki_clearPki hreplay) :)

/-- A listener's options agree with the global ones on every field but the
certificate, key, chain, CRL-URL and DH settings, except that the two user
lists come out reversed. -/
theorem globalOptsCopy_clearPki {env : Env} {global : Global} {tmp : TmpGlobalOpts}
    {opts : Opts} (h : globalOptsCopy env global tmp = some opts) :
    opts.clearPki = { global.opts.clearPki with
      divertusers := global.opts.divertusers.reverse
      passusers := global.opts.passusers.reverse } := by
  obtain ⟨o, hreplay, hcopy⟩ := Option.bind_eq_some.mp h
  exact copyStrings_clearPki (replayPki_clearPki hreplay) hcopy

/-- A listener cloned after `CACert ca1.pem` and `DivertUsers alice,bob`. -/
theorem globalOptsCopy_clearPki_sample :
    ∃ opts, globalOptsCopy Env.sample
        { globalNew 2048 with opts := { optsNew with divertusers := ["alice", "bob"] } }
        { (Conf.init 2048 none false).tmp with cacrtStr := some "ca1.pem" } = some opts ∧
      opts.clearPki = { ({ optsNew with divertusers := ["alice", "bob"] } : Opts).clearPki with
        divertusers := ["alice", "bob"].reverse
        passusers := ([] : List String).reverse } := by
  have hcopy : globalOptsCopy Env.sample
      { globalNew 2048 with opts := { optsNew with divertusers := ["alice", "bob"] } }
      { (Conf.init 2048 none false).tmp with cacrtStr := some "ca1.pem" } = some _ := rfl
  exact ⟨_, hcopy, globalOptsCopy_clearPki hcopy⟩

end SSLproxy
