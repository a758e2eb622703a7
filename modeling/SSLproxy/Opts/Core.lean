import Mathlib.Data.List.Infix

/-!
# Options, proxy specifications and the collaborators they are built from

The configuration core of SSLproxy (`opts.c`) turns command-line tokens and
configuration-file lines into a `global_t`: process-wide fields, the global
`opts_t`, and a list of `proxyspec_t` listeners, each owning a clone of the
global options.  This module fixes the state those functions act on.

Everything `opts.c` calls outside itself (name resolution, NAT engines, the
OpenSSL loaders, the filter-rule compiler of `filter.c`, the file system) is a
field of `Env` and is taken as given.  Memory allocation is assumed to
succeed: the `oom_return` paths are not modelled.  The `equal` macro of
`util.h`, with which every directive name is compared, is taken to be exact
string equality, as `strcmp` decides it.

The build modelled is OpenSSL 1.1.0 or later with SSLv3 and TLS 1.0 to 1.3
available, `SSL_OP_NO_COMPRESSION`, DH, ECDH and the OpenSSL engine compiled
in, and user authentication, mirroring and the local process lookup
(`HAVE_LOCAL_PROCINFO`) compiled in, on Linux.
-/

namespace SSLproxy

/-! ## Handles -/

/-- An `X509 *` certificate handle, compared by identity. -/
structure X509 where
  id : Nat
deriving DecidableEq, Repr

/-- An `EVP_PKEY *` key handle. -/
structure EvpPkey where
  id : Nat
deriving DecidableEq, Repr

/-- A `DH *` parameter handle. -/
structure Dh where
  id : Nat
deriving DecidableEq, Repr

/-- A `cert_t *` bundle of leaf certificate, chain and key. -/
structure Cert where
  id : Nat
deriving DecidableEq, Repr

/-- A resolved `struct sockaddr_storage` with the family and length that
`sys_sockaddr_parse` reports for it.  A successful resolution has a positive
address family and a nonzero length, so a resolved address can never be read
as the `-1` failure code or as an unset length. -/
structure Sockaddr where
  af : Int
  addrlen : Nat
  storage : Nat
  af_pos : 0 < af
  addrlen_pos : 0 < addrlen
deriving DecidableEq

/-- OpenSSL protocol version numbers (`ssl3.h`, `tls1.h`). -/
def ssl3Version : Nat := 0x0300

/-- `TLS1_VERSION`. -/
def tls1Version : Nat := 0x0301

/-- `TLS1_1_VERSION`. -/
def tls11Version : Nat := 0x0302

/-- `TLS1_2_VERSION`. -/
def tls12Version : Nat := 0x0303

/-- `TLS1_3_VERSION`. -/
def tls13Version : Nat := 0x0304

/-! ## Options -/

/-- The options of one scope (`opts_t`): the global options or a listener's
clone of them.  `sslversion` is `0` until a protocol is forced.  `filter`
stands for the macro table and rule list that `filter.c` keeps: the `Define`,
`PassSite` and filter-rule lines applied to this scope, in order. -/
structure Opts where
  divert : Bool
  sslcomp : Bool
  noSsl3 : Bool
  noTls10 : Bool
  noTls11 : Bool
  noTls12 : Bool
  noTls13 : Bool
  passthrough : Bool
  denyOcsp : Bool
  sslversion : Nat
  minsslversion : Nat
  maxsslversion : Nat
  cacrt : Option X509
  cakey : Option EvpPkey
  chain : List X509
  clientcrt : Option X509
  clientkey : Option EvpPkey
  dh : Option Dh
  ecdhcurve : Option String
  ciphers : Option String
  ciphersuites : Option String
  leafcrlurl : Option String
  removeHttpAcceptEncoding : Bool
  removeHttpReferer : Bool
  verifyPeer : Bool
  allowWrongHost : Bool
  userAuth : Bool
  userAuthUrl : Option String
  userTimeout : Nat
  divertusers : List String
  passusers : List String
  validateProto : Bool
  maxHttpHeaderSize : Nat
  filter : List (String × String)
deriving DecidableEq

/-- `opts_new`: zeroed options with the built-in defaults. -/
def optsNew : Opts where
  divert := true
  sslcomp := true
  noSsl3 := false
  noTls10 := false
  noTls11 := false
  noTls12 := false
  noTls13 := false
  passthrough := false
  denyOcsp := false
  sslversion := 0
  minsslversion := tls1Version
  maxsslversion := tls13Version
  cacrt := none
  cakey := none
  chain := []
  clientcrt := none
  clientkey := none
  dh := none
  ecdhcurve := none
  ciphers := none
  ciphersuites := none
  leafcrlurl := none
  removeHttpAcceptEncoding := false
  removeHttpReferer := true
  verifyPeer := true
  allowWrongHost := false
  userAuth := false
  userAuthUrl := none
  userTimeout := 300
  divertusers := []
  passusers := []
  validateProto := false
  maxHttpHeaderSize := 8192
  filter := []

/-! ## Listeners and the global state -/

/-- One listener (`proxyspec_t`).  An address field is `none` while its
`socklen_t` length is still `0`. -/
structure Proxyspec where
  ssl : Bool
  http : Bool
  upgrade : Bool
  pop3 : Bool
  smtp : Bool
  dns : Bool
  listenAddr : Option Sockaddr
  connectAddr : Option Sockaddr
  connDstAddr : Option Sockaddr
  childSrcAddr : Option Sockaddr
  sniPort : UInt16
  natengine : Option String
  opts : Opts
deriving DecidableEq

namespace Proxyspec

/-- A zeroed listener around the options it owns (`proxyspec_new` after
`memset`). -/
def empty (opts : Opts) : Proxyspec where
  ssl := false
  http := false
  upgrade := false
  pop3 := false
  smtp := false
  dns := false
  listenAddr := none
  connectAddr := none
  connDstAddr := none
  childSrcAddr := none
  sniPort := 0
  natengine := none
  opts := opts

/-- `spec->listen_addrlen`. -/
def listenAddrlen (spec : Proxyspec) : Nat :=
  (spec.listenAddr.map Sockaddr.addrlen).getD 0

/-- `spec->conn_dst_addrlen`, nonzero once a divert address is set. -/
def connDstAddrlen (spec : Proxyspec) : Nat :=
  (spec.connDstAddr.map Sockaddr.addrlen).getD 0

@[simp]
theorem listenAddrlen_eq_zero_iff (spec : Proxyspec) :
    spec.listenAddrlen = 0 ↔ spec.listenAddr = none := by
  cases h : spec.listenAddr with
  | none => simp [listenAddrlen, h]
  | some addr => simp [listenAddrlen, h, addr.addrlen_pos.ne']

theorem listenAddrlen_ne_zero_iff (spec : Proxyspec) :
    spec.listenAddrlen ≠ 0 ↔ spec.listenAddr.isSome := by
  simp [Option.isSome_iff_ne_none]

@[simp]
theorem connDstAddrlen_eq_zero_iff (spec : Proxyspec) :
    spec.connDstAddrlen = 0 ↔ spec.connDstAddr = none := by
  cases h : spec.connDstAddr with
  | none => simp [connDstAddrlen, h]
  | some addr => simp [connDstAddrlen, h, addr.addrlen_pos.ne']

theorem connDstAddrlen_ne_zero_iff (spec : Proxyspec) :
    spec.connDstAddrlen ≠ 0 ↔ spec.connDstAddr.isSome := by
  simp [Option.isSome_iff_ne_none]

end Proxyspec

/-- The process-wide configuration (`global_t`).  `spec` is the listener list
with the most recently created listener first. -/
structure Global where
  opts : Opts
  spec : List Proxyspec
  leafkey : Option EvpPkey
  leafkeyRsabits : Nat
  connIdleTimeout : Nat
  expiredConnCheckPeriod : Nat
  statsPeriod : Nat
  leafcertdir : Option String
  defaultleafcert : Option Cert
  certgendir : Option String
  certgenWriteall : Bool
  dropuser : Option String
  dropgroup : Option String
  jaildir : Option String
  pidfile : Option String
  conffile : Option String
  connectlog : Option String
  contentlog : Option String
  contentlogIsdir : Bool
  contentlogIsspec : Bool
  contentlogBasedir : Option String
  lprocinfo : Bool
  masterkeylog : Option String
  pcaplog : Option String
  pcaplogIsdir : Bool
  pcaplogIsspec : Bool
  pcaplogBasedir : Option String
  mirrorif : Option String
  mirrortarget : Option String
  detach : Bool
  debug : Bool
  statslog : Bool
  userdbPath : Option String
  opensslEngine : Option String
deriving DecidableEq

/-- `global_new`, for the `DFLT_LEAFKEY_RSABITS` of `defaults.h`. -/
def globalNew (dfltLeafkeyRsabits : Nat) : Global where
  opts := optsNew
  spec := []
  leafkey := none
  leafkeyRsabits := dfltLeafkeyRsabits
  connIdleTimeout := 120
  expiredConnCheckPeriod := 10
  statsPeriod := 1
  leafcertdir := none
  defaultleafcert := none
  certgendir := none
  certgenWriteall := false
  dropuser := none
  dropgroup := none
  jaildir := none
  pidfile := none
  conffile := none
  connectlog := none
  contentlog := none
  contentlogIsdir := false
  contentlogIsspec := false
  contentlogBasedir := none
  lprocinfo := false
  masterkeylog := none
  pcaplog := none
  pcaplogIsdir := false
  pcaplogIsspec := false
  pcaplogBasedir := none
  mirrorif := none
  mirrortarget := none
  detach := false
  debug := false
  statslog := false
  userdbPath := none
  opensslEngine := none

/-- `tmp_global_opts_t`: the paths of the last global certificate, key, chain,
CRL-URL and DH settings (replayed on every listener clone), the `-n` split
flag, and the flag that forbids nested `Include`. -/
structure TmpGlobalOpts where
  cacrtStr : Option String
  cakeyStr : Option String
  chainStr : Option String
  clientcrtStr : Option String
  clientkeyStr : Option String
  leafcrlurlStr : Option String
  dhStr : Option String
  split : Bool
  «include» : Bool
deriving DecidableEq

/-- What a call of the parser can end in instead of a C return code: a NULL
NAT engine name handed to `nat_exist`, `feof` or `getline` on the NULL stream,
or (in the model only) exhaustion of the bound on nested `Include` files. -/
inductive Fault
  | nullName
  | nullStream
  | outOfFuel
deriving DecidableEq, Repr

namespace Except

variable {ε α β : Type} {x : Except ε α} {f g : α → Except ε β}

theorem bind_eq_ok {r : β} : x >>= f = .ok r ↔ ∃ a, x = .ok a ∧ f a = .ok r := by
  cases x <;> simp [bind, Except.bind]

theorem bind_eq_error {e : ε} :
    x >>= f = .error e ↔ x = .error e ∨ ∃ a, x = .ok a ∧ f a = .error e := by
  cases x <;> simp [bind, Except.bind]

/-- Two continuations that agree on every value `x` can produce give the same
computation. -/
theorem bind_congr_ok (h : ∀ a, x = .ok a → f a = g a) : x >>= f = x >>= g := by
  cases x with
  | error => rfl
  | ok a => exact h a rfl

end Except

/-! ## Collaborators -/

/-- The functions `opts.c` calls from other files of SSLproxy and from the
system, as the values they return.  `sysSockaddrParse addr port af passive`
is `sys_sockaddr_parse` with `EVUTIL_AI_PASSIVE` when `passive`;
`sslX509chainLoad chain path` is the chain `ssl_x509chain_load` leaves after
reading `path` into `chain`; the three filter functions return the code of
their namesakes in `filter.c`. -/
structure Env where
  sysSockaddrParse : String → String → Int → Bool → Option Sockaddr
  sysGetAf : String → Int
  natExist : String → Bool
  sslX509Load : String → Option X509
  sslKeyLoad : String → Option EvpPkey
  sslDhLoad : String → Option Dh
  sslX509chainLoad : List X509 → String → Option (List X509)
  sslEcByName : String → Bool
  filterPasssiteSet : Opts → String → Nat → Int
  filterMacroSet : Opts → String → Nat → Int
  filterRuleSet : Opts → String → String → Nat → Int
  sysIsdir : String → Bool
  sysIsuser : String → Bool
  sysIsgroup : String → Bool
  realpath : String → Option String
  sysRealdir : String → Option String
  optsLoadCertChainKey : String → Option Cert
  logContentSplitPathspec : String → Option (String × String)
  sysMkpath : String → Bool
  setrlimitNofile : Nat → Bool

/-- The IPv4 wildcard address as `sys_sockaddr_parse` fills it. -/
def Sockaddr.ipv4 : Sockaddr := ⟨2, 16, 0, by decide, by decide⟩

/-- A host for the concrete runs of this development.  A port resolves when
it is a decimal number; the NAT engines are `pf` and `ipfw`; `ca1.pem` and
`ca2.pem` each hold a CA certificate, its key and DH parameters, and
`leaf.key` a key and DH parameters, `chain.pem` one chain certificate, which
`ssl_x509chain_load` appends; every curve is known and `filter.c` accepts
every line. -/
def Env.sample : Env where
  sysSockaddrParse _ port _ _ :=
    if port.toList ≠ [] ∧ port.toList.all Char.isDigit then some .ipv4 else none
  sysGetAf _ := 2
  natExist name := name = "pf" || name = "ipfw"
  sslX509Load path :=
    if path = "ca1.pem" then some ⟨1⟩ else if path = "ca2.pem" then some ⟨2⟩ else none
  sslKeyLoad path :=
    if path = "ca1.pem" then some ⟨1⟩ else if path = "ca2.pem" then some ⟨2⟩
    else if path = "leaf.key" then some ⟨3⟩ else none
  sslDhLoad path :=
    if path = "ca1.pem" then some ⟨1⟩ else if path = "ca2.pem" then some ⟨2⟩
    else if path = "leaf.key" then some ⟨3⟩ else none
  sslX509chainLoad chain path := if path = "chain.pem" then some (chain ++ [⟨4⟩]) else none
  sslEcByName _ := true
  filterPasssiteSet _ _ _ := 0
  filterMacroSet _ _ _ := 0
  filterRuleSet _ _ _ _ := 0
  sysIsdir _ := true
  sysIsuser _ := true
  sysIsgroup _ := true
  realpath := some
  sysRealdir := some
  optsLoadCertChainKey _ := none
  logContentSplitPathspec _ := none
  sysMkpath _ := true
  setrlimitNofile _ := true

/-! ## The parser's context -/

/-- The debug modes of `log.c` that `Debug` and `DebugLevel` select. -/
inductive LogDbgMode
  | none
  | errlog
  | fine
  | finer
  | finest
deriving DecidableEq, Repr

/-- What the configuration parser threads through its calls: the `global_t`
being built, `tmp_global_opts`, the default NAT engine `*natengine` given to
later listeners, and the two effects of `set_global_option` outside
`global_t`: the debug mode of `log.c` and the `RLIMIT_NOFILE` limit. -/
structure Conf where
  global : Global
  tmp : TmpGlobalOpts
  natengine : Option String
  dbgMode : LogDbgMode
  nofile : Option Nat
deriving DecidableEq

/-- The context `main` starts parsing in: `global_new()`, no recorded paths,
the `-n` flag `split`, and the default NAT engine `natengine`. -/
def Conf.init (dfltLeafkeyRsabits : Nat) (natengine : Option String) (split : Bool) :
    Conf where
  global := globalNew dfltLeafkeyRsabits
  tmp := ⟨none, none, none, none, none, none, none, split, false⟩
  natengine := natengine
  dbgMode := .none
  nofile := none

/-- The context with the `include` flag of `tmp_global_opts` set to `b`, as
the `Include` directive sets and clears it. -/
def Conf.withInclude (c : Conf) (b : Bool) : Conf :=
  { c with tmp := { c.tmp with «include» := b } }

@[simp] theorem Conf.withInclude_withInclude (c : Conf) (b b' : Bool) :
    (c.withInclude b).withInclude b' = c.withInclude b' := rfl

theorem Conf.withInclude_of_include {c : Conf} {b : Bool} (h : c.tmp.include = b) :
    c.withInclude b = c := by
  subst h; rfl

end SSLproxy
