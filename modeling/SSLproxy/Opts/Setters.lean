import Mathlib.Algebra.Group.Int
import Mathlib.Algebra.Group.Nat.Basic
import SSLproxy.Opts.Core

/-!
# Setters of one options scope

The `opts_set_*` functions of `opts.c`, each as the state change it makes on
an `Opts` and, for the certificate, key, chain, CRL-URL and DH settings, on
`tmp_global_opts`, which records the path of the last global setting so that
`global_opts_copy` can replay it.  A setter receives `none` for
`tmp_global_opts` when it runs inside a listener block or during the replay
itself.

The CA certificate and CA key setters are the only ones whose effect depends
on the options they act on: each loads its companion (key, certificate, DH
parameters) from its own file only while that companion is unset, and every
certificate they load is pushed onto the front of the chain.
-/

namespace SSLproxy

/-! ## Small C helpers -/

/-- `is_yesno`: `yes` and `no` as booleans, anything else rejected (`-1`). -/
def isYesno (value : String) : Option Bool :=
  if value = "yes" then some true
  else if value = "no" then some false
  else none

/-- `strtok_r` run to completion: the nonempty runs of `s` between
characters of `delims`. -/
def strtok (delims : List Char) (s : String) : List String :=
  ((s.toList.splitOnP (· ∈ delims)).filter (· ≠ [])).map String.mk

/-- `s` is the tokens `ws` separated by runs of the characters `delims`, with
possibly a run before the first token and one after the last: each token is a
nonempty run of the other characters, as long as it can be. -/
inductive Tokens (delims : List Char) : List Char → List (List Char) → Prop
  | blank {d : List Char} : (∀ c ∈ d, c ∈ delims) → Tokens delims d []
  | token {d w rest : List Char} {ws : List (List Char)} :
      (∀ c ∈ d, c ∈ delims) → w ≠ [] → (∀ c ∈ w, c ∉ delims) →
      (∀ c ∈ rest.head?, c ∈ delims) → Tokens delims rest ws →
      Tokens delims (d ++ w ++ rest) (w :: ws)

section Tokens

variable {delims : List Char}

/-- A run of delimiters only adds empty pieces to the split. -/
theorem filter_splitOnP_delims_append {d : List Char} (hd : ∀ c ∈ d, c ∈ delims)
    (s : List Char) :
    ((d ++ s).splitOnP (· ∈ delims)).filter (· ≠ []) =
      (s.splitOnP (· ∈ delims)).filter (· ≠ []) := by
  induction d with
  | nil => rfl
  | cons c d ih =>
    rw [List.cons_append, List.splitOnP_cons, if_pos (by simpa using hd c (.head _))]
    simpa using ih fun c h => hd c (.tail _ h)

/-- A token ends at the delimiter that follows it, or at the end. -/
theorem filter_splitOnP_token_append {w rest : List Char} (hw : w ≠ [])
    (hw' : ∀ c ∈ w, c ∉ delims) (hrest : ∀ c ∈ rest.head?, c ∈ delims) :
    ((w ++ rest).splitOnP (· ∈ delims)).filter (· ≠ []) =
      w :: (rest.splitOnP (· ∈ delims)).filter (· ≠ []) := by
  have hw'' : ∀ c ∈ w, ¬decide (c ∈ delims) = true := by simpa using hw'
  cases rest with
  | nil => simp [List.splitOnP_eq_single _ _ hw'', hw]
  | cons c r =>
    have hc : c ∈ delims := hrest c rfl
    simp [List.splitOnP_first _ _ hw'' c (by simpa using hc), hw, hc]

/-- `strtok` finds the tokens of every decomposition. -/
theorem Tokens.filter_splitOnP {s : List Char} {ws : List (List Char)}
    (h : Tokens delims s ws) : (s.splitOnP (· ∈ delims)).filter (· ≠ []) = ws := by
  induction h with
  | blank hd => simpa using filter_splitOnP_delims_append hd []
  | token hd hw hw' hrest _ ih =>
    rw [List.append_assoc, filter_splitOnP_delims_append hd,
      filter_splitOnP_token_append hw hw' hrest, ih]

/-- Every string decomposes into tokens: the delimiters in front, then the
longest run of other characters, then the rest. -/
theorem Tokens.exists (s : List Char) : ∃ ws, Tokens delims s ws := by
  obtain ⟨n, h⟩ : ∃ n, s.length = n := ⟨_, rfl⟩
  induction n using Nat.strong_induction_on generalizing s with
  | _ n ih =>
    let p : Char → Bool := fun c => c ∈ delims
    have hd : ∀ c ∈ s.takeWhile p, c ∈ delims := fun c hc => by
      simpa [p] using List.mem_takeWhile_imp hc
    rw [← List.takeWhile_append_dropWhile p s]
    match ht : s.dropWhile p with
    | [] => exact ⟨[], by simpa using Tokens.blank hd⟩
    | c :: t =>
      have hc : c ∉ delims := by simpa [ht, p] using List.head?_dropWhile_not p s
      let w := (c :: t).takeWhile (fun c => !p c)
      let rest := (c :: t).dropWhile (fun c => !p c)
      have hlen : rest.length < n := by
        have h1 := (List.dropWhile_suffix (fun c => !p c) :
          List.IsSuffix (t.dropWhile fun c => !p c) t).length_le
        have h2 := ht ▸ (List.dropWhile_suffix p : List.IsSuffix (s.dropWhile p) s).length_le
        simp only [rest, p, List.dropWhile_cons, hc, decide_False, Bool.not_false, ite_true,
          List.length_cons] at h1 h2 ⊢
        omega
      have hw : w ≠ [] := by simp [w, p, hc]
      have hw' : ∀ c ∈ w, c ∉ delims := fun c hc' => by
        simpa [p] using List.mem_takeWhile_imp hc'
      have hrest : ∀ c ∈ rest.head?, c ∈ delims := fun c' hc' => by
        have := List.head?_dropWhile_not (fun c => !p c) (c :: t)
        rw [show (c :: t).dropWhile _ = rest from rfl, hc'] at this
        simpa [p] using this
      obtain ⟨ws, hws⟩ := ih _ hlen _ rfl
      exact ⟨_, List.takeWhile_append_dropWhile (fun c => !p c) (c :: t) ▸
        List.append_assoc _ w rest ▸ Tokens.token hd hw hw' hrest hws⟩

end Tokens

/-- The characters `isspace` accepts, which `strtol` skips. -/
def isCSpace (c : Char) : Bool :=
  c = ' ' || c = '\t' || c = '\n' || c = '\x0b' || c = '\x0c' || c = '\r'

/-- Value of a run of decimal digits, most significant first. -/
def decimalValue (digits : List Char) : Nat :=
  digits.foldl (fun acc d => acc * 10 + (d.toNat - '0'.toNat)) 0

/-- `strtol (s, NULL, 10)` on a 64-bit `long`: leading white space, an
optional sign, the longest run of digits; saturated at `LONG_MIN` and
`LONG_MAX`. -/
def strtol (s : String) : Int :=
  let rest := s.toList.dropWhile isCSpace
  let (negative, rest) :=
    match rest with
    | '-' :: r => (true, r)
    | '+' :: r => (false, r)
    | r => (false, r)
  let magnitude : Int := decimalValue (rest.takeWhile Char.isDigit)
  max (-2 ^ 63) (min (2 ^ 63 - 1) (if negative then -magnitude else magnitude))

/-- `atoi`, which glibc defines as `(int) strtol (s, NULL, 10)`. -/
def atoi (s : String) : Int :=
  (strtol s + 2 ^ 31) % 2 ^ 32 - 2 ^ 31

/-- The conversion of an `int` to `unsigned int` in `unsigned int i = atoi(v)`. -/
def toUnsigned (i : Int) : Nat :=
  (i % 2 ^ 32).toNat

theorem isCSpace_of_isDigit {c : Char} (h : c.isDigit) : isCSpace c = false := by
  simp only [isCSpace, Bool.or_eq_false_iff, decide_eq_false_iff_not]
  refine ⟨⟨⟨⟨⟨?_, ?_⟩, ?_⟩, ?_⟩, ?_⟩, ?_⟩ <;> rintro rfl <;> exact absurd h (by decide)

/-- On an unsigned decimal numeral below `2^63`, `strtol` reads its value. -/
theorem strtol_numeral {v : String} (hne : v.toList ≠ [])
    (hdigits : ∀ c ∈ v.toList, c.isDigit) (hlt : decimalValue v.toList < 2 ^ 63) :
    strtol v = decimalValue v.toList := by
  obtain ⟨d, ds, hv⟩ := List.exists_cons_of_ne_nil hne
  have hd : d.isDigit := hdigits d (hv ▸ .head _)
  have hall : (d :: ds).takeWhile Char.isDigit = d :: ds :=
    List.takeWhile_eq_self_iff.mpr (hv ▸ hdigits)
  -- the sign cases of the match are discharged by these two facts
  have hminus : ∀ r, d :: ds = '-' :: r → False := by
    rintro r ⟨⟩; exact absurd hd (by decide)
  have hplus : ∀ r, d :: ds = '+' :: r → False := by
    rintro r ⟨⟩; exact absurd hd (by decide)
  simp only [strtol, hv, List.dropWhile_cons, isCSpace_of_isDigit hd, Bool.false_eq_true,
    ite_false, hall]
  rw [hv] at hlt
  rw [Int.min_eq_right (by omega), Int.max_eq_right (by omega)]

/-- Where `strtol` reads a number that fits in an `int`, `atoi` returns it. -/
theorem atoi_of_fits {v : String} (hlo : -2 ^ 31 ≤ strtol v) (hhi : strtol v < 2 ^ 31) :
    atoi v = strtol v := by
  unfold atoi; omega

/-- The protocol names the protocol setters accept, with their versions. -/
def sslProtoVersion (optarg : String) : Option Nat :=
  if optarg = "ssl3" then some ssl3Version
  else if optarg = "tls10" ∨ optarg = "tls1" then some tls1Version
  else if optarg = "tls11" then some tls11Version
  else if optarg = "tls12" then some tls12Version
  else if optarg = "tls13" then some tls13Version
  else none

/-! ## CA certificate, CA key and chain -/

/-- `opts_set_cacrt`: record the path, load the CA certificate, put it at the
front of the chain, and load the CA key and DH parameters from the same file
when none are set yet.  A failed load leaves `cacrt` freed. -/
def optsSetCacrt (env : Env) (opts : Opts) (optarg : String)
    (tmp : Option TmpGlobalOpts) : Int × Opts × Option TmpGlobalOpts :=
  let tmp := tmp.map fun t => { t with cacrtStr := some optarg }
  match env.sslX509Load optarg with
  | none => (-1, { opts with cacrt := none }, tmp)
  | some crt =>
    (0, { opts with
          cacrt := some crt
          chain := crt :: opts.chain
          cakey := opts.cakey <|> env.sslKeyLoad optarg
          dh := opts.dh <|> env.sslDhLoad optarg }, tmp)

@[simp] theorem optsSetCacrt_tmp (env : Env) (opts : Opts) (optarg : String)
    (tmp : Option TmpGlobalOpts) :
    (optsSetCacrt env opts optarg tmp).2.2 =
      tmp.map fun t => { t with cacrtStr := some optarg } := by
  unfold optsSetCacrt; split <;> rfl

/-- Two CA certificates in a row: the replaced one stays in the chain behind
the new one. -/
theorem optsSetCacrt_keeps_replaced_in_chain :
    (fun opts : Opts => (opts.cacrt, opts.chain))
        (optsSetCacrt Env.sample
          (optsSetCacrt Env.sample optsNew "ca1.pem" none).2.1 "ca2.pem" none).2.1 =
      (some ⟨2⟩, [⟨2⟩, ⟨1⟩]) :=
  rfl

/-- The `if (!opts->cacrt)` block of `opts_set_cakey`: load a CA certificate
from the key file, pushing it onto the chain when it loads. -/
def loadCacrtIfUnset (env : Env) (opts : Opts) (optarg : String) : Opts :=
  match opts.cacrt with
  | some _ => opts
  | none =>
    match env.sslX509Load optarg with
    | none => opts
    | some crt => { opts with cacrt := some crt, chain := crt :: opts.chain }

/-- `opts_set_cakey`: record the path, load the CA key, and load a CA
certificate and DH parameters from the same file when none are set yet. -/
def optsSetCakey (env : Env) (opts : Opts) (optarg : String)
    (tmp : Option TmpGlobalOpts) : Int × Opts × Option TmpGlobalOpts :=
  let tmp := tmp.map fun t => { t with cakeyStr := some optarg }
  match env.sslKeyLoad optarg with
  | none => (-1, { opts with cakey := none }, tmp)
  | some key =>
    let opts := loadCacrtIfUnset env { opts with cakey := some key } optarg
    (0, { opts with dh := opts.dh <|> env.sslDhLoad optarg }, tmp)

@[simp] theorem optsSetCakey_tmp (env : Env) (opts : Opts) (optarg : String)
    (tmp : Option TmpGlobalOpts) :
    (optsSetCakey env opts optarg tmp).2.2 =
      tmp.map fun t => { t with cakeyStr := some optarg } := by
  unfold optsSetCakey; split <;> rfl

/-- `opts_set_chain`: record the path and read the chain file into the
chain. -/
def optsSetChain (env : Env) (opts : Opts) (optarg : String)
    (tmp : Option TmpGlobalOpts) : Int × Opts × Option TmpGlobalOpts :=
  let tmp := tmp.map fun t => { t with chainStr := some optarg }
  match env.sslX509chainLoad opts.chain optarg with
  | none => (-1, opts, tmp)
  | some chain => (0, { opts with chain := chain }, tmp)

@[simp] theorem optsSetChain_tmp (env : Env) (opts : Opts) (optarg : String)
    (tmp : Option TmpGlobalOpts) :
    (optsSetChain env opts optarg tmp).2.2 =
      tmp.map fun t => { t with chainStr := some optarg } := by
  unfold optsSetChain; split <;> rfl

/-! ## Recorded single-value settings -/

/-- The pattern shared by `opts_set_leafcrlurl`, `opts_set_clientcrt`,
`opts_set_clientkey` and `opts_set_dh`: record the path in
`tmp_global_opts`, then store what `load` makes of it, failing when that is
`NULL`. -/
def optsSetRecorded {α : Type} (load : String → Option α)
    (store : Opts → Option α → Opts)
    (record : TmpGlobalOpts → String → TmpGlobalOpts)
    (opts : Opts) (optarg : String) (tmp : Option TmpGlobalOpts) :
    Int × Opts × Option TmpGlobalOpts :=
  let value := load optarg
  (if value.isSome then 0 else -1, store opts value, tmp.map (record · optarg))

@[simp] theorem optsSetRecorded_tmp {α : Type} (load : String → Option α)
    (store : Opts → Option α → Opts) (record : TmpGlobalOpts → String → TmpGlobalOpts)
    (opts : Opts) (optarg : String) (tmp : Option TmpGlobalOpts) :
    (optsSetRecorded load store record opts optarg tmp).2.2 = tmp.map (record · optarg) := rfl

/-- `opts_set_leafcrlurl`: the URL is copied, so it never fails. -/
def optsSetLeafcrlurl : Opts → String → Option TmpGlobalOpts →
    Int × Opts × Option TmpGlobalOpts :=
  optsSetRecorded some (fun o v => { o with leafcrlurl := v })
    (fun t p => { t with leafcrlurlStr := some p })

/-- `opts_set_clientcrt`. -/
def optsSetClientcrt (env : Env) : Opts → String → Option TmpGlobalOpts →
    Int × Opts × Option TmpGlobalOpts :=
  optsSetRecorded env.sslX509Load (fun o v => { o with clientcrt := v })
    (fun t p => { t with clientcrtStr := some p })

/-- `opts_set_clientkey`. -/
def optsSetClientkey (env : Env) : Opts → String → Option TmpGlobalOpts →
    Int × Opts × Option TmpGlobalOpts :=
  optsSetRecorded env.sslKeyLoad (fun o v => { o with clientkey := v })
    (fun t p => { t with clientkeyStr := some p })

/-- `opts_set_dh`. -/
def optsSetDh (env : Env) : Opts → String → Option TmpGlobalOpts →
    Int × Opts × Option TmpGlobalOpts :=
  optsSetRecorded env.sslDhLoad (fun o v => { o with dh := v })
    (fun t p => { t with dhStr := some p })

/-! ## Unrecorded settings -/

/-- `opts_set_ecdhcurve`: the old name is freed before the curve is checked,
so a rejected curve leaves the field unset. -/
def optsSetEcdhcurve (env : Env) (opts : Opts) (optarg : String) : Int × Opts :=
  if env.sslEcByName optarg then (0, { opts with ecdhcurve := some optarg })
  else (-1, { opts with ecdhcurve := none })

/-- `opts_set_ciphers`. -/
def optsSetCiphers (opts : Opts) (optarg : String) : Opts :=
  { opts with ciphers := some optarg }

/-- `opts_set_ciphersuites`. -/
def optsSetCiphersuites (opts : Opts) (optarg : String) : Opts :=
  { opts with ciphersuites := some optarg }

/-- `opts_set_user_auth_url`. -/
def optsSetUserAuthUrl (opts : Opts) (optarg : String) : Opts :=
  { opts with userAuthUrl := some optarg }

/-- `opts_force_proto`: refused once a protocol is forced (`cannot use -r
multiple times`), also when the force was inherited. -/
def optsForceProto (opts : Opts) (optarg : String) : Int × Opts :=
  if opts.sslversion ≠ 0 then (-1, opts)
  else
    match sslProtoVersion optarg with
    | none => (-1, opts)
    | some version => (0, { opts with sslversion := version })

/-- `opts_disable_proto`: set the `no_*` bit of the named protocol. -/
def optsDisableProto (opts : Opts) (optarg : String) : Int × Opts :=
  match sslProtoVersion optarg with
  | none => (-1, opts)
  | some version =>
    (0, if version = ssl3Version then { opts with noSsl3 := true }
        else if version = tls1Version then { opts with noTls10 := true }
        else if version = tls11Version then { opts with noTls11 := true }
        else if version = tls12Version then { opts with noTls12 := true }
        else { opts with noTls13 := true })

/-- The pattern shared by `opts_set_min_proto` and `opts_set_max_proto`:
store the version of a supported protocol name with `set`. -/
def optsSetProtoBound (set : Opts → Nat → Opts) (opts : Opts) (optarg : String) :
    Int × Opts :=
  match sslProtoVersion optarg with
  | none => (-1, opts)
  | some version => (0, set opts version)

/-- `opts_set_min_proto`. -/
def optsSetMinProto : Opts → String → Int × Opts :=
  optsSetProtoBound fun opts version => { opts with minsslversion := version }

/-- `opts_set_max_proto`. -/
def optsSetMaxProto : Opts → String → Int × Opts :=
  optsSetProtoBound fun opts version => { opts with maxsslversion := version }

/-! ## User lists -/

/-- `MAX_USERS`. -/
def maxUsers : Nat := 50

/-- `opts_set_userlist` on the list it replaces: split the value at `,`,
space and tab; more than `MAX_USERS` names or none at all is an error that
leaves the list alone; otherwise the list becomes the names, prepended from
the last one back so that they keep their order. -/
def optsSetUserlist (value : String) (list : List String) : Int × List String :=
  let argv := strtok [',', ' ', '\t'] value
  if maxUsers < argv.length then (-1, list)
  else if argv.length = 0 then (-1, list)
  else (0, argv.foldr (fun user rest => user :: rest) [])

/-- A user list value has exactly one decomposition into tokens at `,`, space
and tab.  It is accepted when it has between one and fifty tokens, which then
make up the new list in their order whatever the list was; otherwise the list
is left alone. -/
theorem optsSetUserlist_tokens (value : String) (list : List String) :
    ∃ ws, Tokens [',', ' ', '\t'] value.toList ws ∧
      (∀ ws', Tokens [',', ' ', '\t'] value.toList ws' → ws' = ws) ∧
      optsSetUserlist value list =
        if 1 ≤ ws.length ∧ ws.length ≤ 50 then (0, ws.map String.mk) else (-1, list) := by
  obtain ⟨ws, hws⟩ := @Tokens.exists [',', ' ', '\t'] value.toList
  refine ⟨ws, hws, fun ws' h => h.filter_splitOnP.symm.trans hws.filter_splitOnP, ?_⟩
  simp only [optsSetUserlist, strtok, hws.filter_splitOnP, List.length_map, maxUsers,
    List.foldr_cons_nil]
  split_ifs <;> first | rfl | omega

example : optsSetUserlist ",alice \tbob," ["carol"] = (0, ["alice", "bob"]) := by decide

/-- `users_str`: the names joined by commas. -/
def usersStr (users : List String) : String :=
  ",".intercalate users

/-! ## Printing a user list and reading it back -/

theorem intercalate_go_toList (s : String) (l : List String) :
    ∀ acc : String, (String.intercalate.go acc s l).toList =
      acc.toList ++ (l.map fun a => s.toList ++ a.toList).flatten := by
  induction l with
  | nil => intro acc; simp [String.intercalate.go]
  | cons a as ih =>
    intro acc
    rw [String.intercalate.go, ih]
    simp

/-- Tokens joined by a delimiter decompose back into those tokens. -/
theorem tokens_sep_join {delims : List Char} (sep : Char) (hsep : sep ∈ delims)
    {ws : List (List Char)} (hws : ∀ w ∈ ws, w ≠ [] ∧ ∀ c ∈ w, c ∉ delims) :
    ∀ (d : List Char) {w : List Char}, (∀ c ∈ d, c ∈ delims) → w ≠ [] → (∀ c ∈ w, c ∉ delims) →
      Tokens delims (d ++ w ++ (ws.map fun a => sep :: a).flatten) (w :: ws) := by
  induction ws with
  | nil =>
    intro d w hd hw hw'
    simpa using Tokens.token hd hw hw' (by simp) (Tokens.blank (List.forall_mem_nil _))
  | cons v vs ih =>
    intro d w hd hw hw'
    obtain ⟨hv, hv'⟩ := hws v (.head _)
    have hrest := ih (fun u hu => hws u (.tail _ hu)) [sep] (by simpa using hsep) hv hv'
    refine Tokens.token hd hw hw' (by simpa using hsep) ?_
    simpa using hrest

/-- `strtok_r` splits a join of nonempty tokens without delimiters, at a
one-character delimiter, back into those tokens. -/
theorem strtok_intercalate {delims : List Char} {sep : String} {c : Char}
    (hsep : sep.toList = [c]) (hc : c ∈ delims) {ws : List String}
    (hws : ∀ w ∈ ws, w ≠ "" ∧ ∀ c ∈ w.toList, c ∉ delims) :
    strtok delims (sep.intercalate ws) = ws := by
  rcases ws with _ | ⟨u, us⟩
  · rfl
  have hws' : ∀ w ∈ us.map String.toList, w ≠ [] ∧ ∀ c ∈ w, c ∉ delims := by
    simp only [List.mem_map]
    rintro _ ⟨w, hw, rfl⟩
    exact ⟨fun h => (hws w (.tail _ hw)).1 (String.ext h), (hws w (.tail _ hw)).2⟩
  obtain ⟨hu, hu'⟩ := hws u (.head _)
  have htok : Tokens delims (sep.intercalate (u :: us)).toList ((u :: us).map String.toList) := by
    have hjoin := tokens_sep_join c hc hws' [] (by simp) (fun h => hu (String.ext h)) hu'
    have hsep' : sep.data = [c] := hsep
    rw [String.intercalate, intercalate_go_toList]
    simpa [hsep', Function.comp_def] using hjoin
  rw [strtok, htok.filter_splitOnP, List.map_map]
  exact List.map_id'' (fun _ => rfl) _

/-- A list of one to fifty names, none empty and none holding a comma, a
space or a tab, printed by `users_str` and read back by `opts_set_userlist`,
is the same list. -/
theorem optsSetUserlist_usersStr {users : List String} (hne : users ≠ [])
    (hlen : users.length ≤ 50) (hnames : ∀ u ∈ users, u ≠ "" ∧ ∀ c ∈ u.toList, c ∉ [',', ' ', '\t'])
    (list : List String) : optsSetUserlist (usersStr users) list = (0, users) := by
  have htok : strtok [',', ' ', '\t'] (",".intercalate users) = users :=
    strtok_intercalate rfl (by simp) hnames
  simp only [optsSetUserlist, usersStr, htok, List.foldr_cons_nil]
  rw [if_neg (by simp only [maxUsers]; omega), if_neg (by simpa using hne)]

theorem optsSetUserlist_usersStr_sample :
    optsSetUserlist (usersStr ["alice", "bob"]) ["carol"] = (0, ["alice", "bob"]) :=
  optsSetUserlist_usersStr (by decide) (by decide) (by decide) _

/-! ## Return codes

Every setter returns `0` or `-1`. -/

section Codes

variable {env : Env} {opts : Opts} {optarg : String} {tmp : Option TmpGlobalOpts}

theorem optsSetCacrt_code :
    (optsSetCacrt env opts optarg tmp).1 = -1 ∨ (optsSetCacrt env opts optarg tmp).1 = 0 := by
  unfold optsSetCacrt; split <;> simp

theorem optsSetCakey_code :
    (optsSetCakey env opts optarg tmp).1 = -1 ∨ (optsSetCakey env opts optarg tmp).1 = 0 := by
  unfold optsSetCakey; split <;> simp

theorem optsSetChain_code :
    (optsSetChain env opts optarg tmp).1 = -1 ∨ (optsSetChain env opts optarg tmp).1 = 0 := by
  unfold optsSetChain; split <;> simp

theorem optsSetRecorded_code {α : Type} {load : String → Option α}
    {store : Opts → Option α → Opts} {record : TmpGlobalOpts → String → TmpGlobalOpts} :
    (optsSetRecorded load store record opts optarg tmp).1 = -1 ∨
      (optsSetRecorded load store record opts optarg tmp).1 = 0 := by
  dsimp only [optsSetRecorded]; split <;> simp

theorem optsSetEcdhcurve_code :
    (optsSetEcdhcurve env opts optarg).1 = -1 ∨ (optsSetEcdhcurve env opts optarg).1 = 0 := by
  unfold optsSetEcdhcurve; split <;> simp

theorem optsForceProto_code :
    (optsForceProto opts optarg).1 = -1 ∨ (optsForceProto opts optarg).1 = 0 := by
  unfold optsForceProto; repeat' split
  all_goals simp

theorem optsDisableProto_code :
    (optsDisableProto opts optarg).1 = -1 ∨ (optsDisableProto opts optarg).1 = 0 := by
  unfold optsDisableProto; split <;> simp

theorem optsSetProtoBound_code {set : Opts → Nat → Opts} :
    (optsSetProtoBound set opts optarg).1 = -1 ∨ (optsSetProtoBound set opts optarg).1 = 0 := by
  unfold optsSetProtoBound; split <;> simp

theorem optsSetUserlist_code {value : String} {list : List String} :
    (optsSetUserlist value list).1 = -1 ∨ (optsSetUserlist value list).1 = 0 := by
  dsimp only [optsSetUserlist]; split_ifs <;> simp

end Codes

end SSLproxy
