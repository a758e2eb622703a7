import SSLproxy.Conf.Dispatch

/-!
# Loading configuration files

`opts_load_conffile` opens a file and hands each directive line to
`set_global_option`, stopping at the first line that fails.  The line counter
is shared with `load_proxyspec_struct`, which reads the lines of a block from
the same stream; the loop then goes on after the block.  The loader returns
the code of the last directive line, and `-1` when there was none.

`Include` makes `set_global_option` call `opts_load_conffile` again.  The
model bounds this recursion by `fuel`, which each nested call consumes; the
`include` flag of `tmp_global_opts` is what really bounds it in C, and
`Conf.Include` shows that two levels of fuel are always enough.
-/

namespace SSLproxy

section Loop

variable (env : Env) (incl : Conf → String → Except Fault (Int × Conf))

/-- The line loop of `opts_load_conffile`: the context, the line counter, the
last return code, the number of lines a block has already read from the
stream (which the loop passes over), and the lines left. -/
def conffileLoop (c : Conf) (lineNum : Nat) (retval : Int) :
    Nat → List String → Except Fault (Int × Conf)
  | _, [] => pure (retval, c)
  | skip + 1, _ :: rest => conffileLoop c lineNum retval skip rest
  | 0, line :: rest =>
    let lineNum := lineNum + 1
    match directive? line with
    | none => conffileLoop c lineNum retval 0 rest
    | some name =>
      match getNameValue name ' ' with
      | none => pure (-1, c)
      | some (name, value) => do
        let (rc, c, lineNum, read) ← setGlobalOption env incl c name value lineNum (some rest)
        if rc = -1 then pure (-1, c) else conffileLoop c lineNum rc read rest

end Loop

/-- `opts_load_conffile` on the file `path`, where `files` gives the lines
`getline` returns for each file that opens.  Each nested `Include` consumes
one unit of `fuel`. -/
def optsLoadConffile (env : Env) (files : String → Option (List String)) :
    Nat → Conf → String → Except Fault (Int × Conf)
  | 0, _, _ => .error .outOfFuel
  | fuel + 1, c, path =>
    match files path with
    | none => pure (-1, c)
    | some lines =>
      conffileLoop env (fun c path => optsLoadConffile env files fuel c path) c 0 (-1) 0 lines

/-- A file of comment and blank lines fails to load: the result variable
starts at `-1` and only directive lines assign it. -/
theorem optsLoadConffile_comments_only :
    optsLoadConffile Env.sample
        (fun path => if path = "sslproxy.conf" then some ["# nothing\n", "\n"] else none) 2
        (Conf.init 2048 (some "ipfw") false) "sslproxy.conf" =
      .ok (-1, Conf.init 2048 (some "ipfw") false) :=
  rfl

/-- `global_load_conffile`: remember the file name and load it. -/
def globalLoadConffile (env : Env) (files : String → Option (List String)) (fuel : Nat)
    (c : Conf) (optarg : String) : Except Fault (Int × Conf) :=
  optsLoadConffile env files fuel
    { c with global := { c.global with conffile := some optarg } } optarg

/-- `global_set_option`: one `-o NAME=VALUE` option, split at `=` after
leading blanks and handled by `set_global_option` with line number `0` and
the `NULL` stream. -/
def globalSetOption (env : Env) (files : String → Option (List String)) (fuel : Nat)
    (c : Conf) (optarg : String) : Except Fault (Int × Conf) :=
  match getNameValue (skipBlanks (cString optarg)) '=' with
  | none => pure (-1, c)
  | some (name, value) => do
    let (rc, c, _, _) ←
      setGlobalOption env (optsLoadConffile env files fuel) c name value 0 none
    pure (rc, c)

/-- An option that splits into `ProxySpec` and `{` reaches
`load_proxyspec_struct` with the `NULL` stream, which it reads once the new
listener has its return address. -/
theorem globalSetOption_proxyspec_block_null_stream {env : Env} {c : Conf} {spec : Proxyspec}
    (files : String → Option (List String)) (fuel : Nat) (optarg : String)
    (hsplit : getNameValue (skipBlanks (cString optarg)) '=' = some ("ProxySpec", "\x7b"))
    (hnew : proxyspecNew env c.global c.tmp = some spec)
    (hret : (proxyspecSetReturnAddr env spec "127.0.0.1").1 ≠ -1) :
    globalSetOption env files fuel c optarg = .error .nullStream := by
  simp only [globalSetOption, hsplit, setGlobalOption, loadProxyspecStruct, hnew, if_neg hret]
  rfl

/-- The option `-o ProxySpec={` itself, on the sample system. -/
theorem globalSetOption_proxyspec_block_sample :
    globalSetOption Env.sample (fun _ => none) 1 (Conf.init 2048 none false) "ProxySpec=\x7b" =
      .error .nullStream :=
  globalSetOption_proxyspec_block_null_stream _ _ _ rfl rfl (by decide)

/-! ## What the loop preserves -/

/-- What every directive preserves, the line loop preserves. -/
theorem conffileLoop_invariant {env : Env} {incl : Conf → String → Except Fault (Int × Conf)}
    (P : Conf → Prop)
    (hstep : ∀ c name value lineNum f r, P c →
      setGlobalOption env incl c name value lineNum f = .ok r → P r.2.1)
    (c : Conf) (lineNum : Nat) (retval : Int) (skip : Nat) (lines : List String) (hc : P c)
    {r : Int × Conf} (h : conffileLoop env incl c lineNum retval skip lines = .ok r) : P r.2 := by
  induction c, lineNum, retval, skip, lines using conffileLoop.induct env incl with
  | case1 => simp only [conffileLoop] at h; cases h; exact hc
  | case2 _ _ _ _ _ _ ih => exact ih hc (by simpa only [conffileLoop] using h)
  | case3 _ _ _ _ _ _ hline ih => exact ih hc (by simpa only [conffileLoop, hline] using h)
  | case4 _ _ _ _ _ _ hline hsplit =>
    simp only [conffileLoop, hline, hsplit] at h; cases h; exact hc
  | case5 _ _ _ _ _ _ hline _ _ hsplit ih =>
    simp only [conffileLoop, hline, hsplit] at h
    obtain ⟨⟨rc, c', lineNum', read⟩, hr, h⟩ := Except.bind_eq_ok.mp h
    have hc' := hstep _ _ _ _ _ _ hc hr
    dsimp only at h
    split_ifs at h
    · cases h; exact hc'
    · exact ih _ _ _ _ hc' h

/-! ## Listeners are only ever added -/

section Listeners

variable {env : Env} {files : String → Option (List String)}

/-- Loading a file, with every file it includes, keeps every listener
configured before it: the listener list only grows at its head. -/
theorem optsLoadConffile_spec_suffix {fuel : Nat} {c : Conf} {path : String} {r : Int × Conf}
    (h : optsLoadConffile env files fuel c path = .ok r) : c.global.spec <:+ r.2.global.spec := by
  induction fuel generalizing c path r with
  | zero => cases h
  | succ fuel ih =>
    rw [optsLoadConffile.eq_2] at h
    split at h
    · cases h; exact List.suffix_refl _
    · exact conffileLoop_invariant (fun c' => c.global.spec <:+ c'.global.spec)
        (fun _ _ _ _ _ _ hc hr => hc.trans (setGlobalOption_spec_suffix (fun _ _ _ => ih) hr))
        _ _ _ _ _ (List.suffix_refl _) h

/-- The same holds of both ways in: a configuration file given with `-f`... -/
theorem globalLoadConffile_spec_suffix {fuel : Nat} {c : Conf} {optarg : String}
    {r : Int × Conf} (h : globalLoadConffile env files fuel c optarg = .ok r) :
    c.global.spec <:+ r.2.global.spec :=
  (optsLoadConffile_spec_suffix h :)

/-- ... and an option given with `-o`. -/
theorem globalSetOption_spec_suffix {fuel : Nat} {c : Conf} {optarg : String}
    {r : Int × Conf} (h : globalSetOption env files fuel c optarg = .ok r) :
    c.global.spec <:+ r.2.global.spec := by
  unfold globalSetOption at h
  split at h
  · cases h; exact List.suffix_refl _
  · obtain ⟨⟨rc, c', _, _⟩, hset, h⟩ := Except.bind_eq_ok.mp h
    cases h
    exact setGlobalOption_spec_suffix (fun _ _ _ => optsLoadConffile_spec_suffix) hset

end Listeners

/-- A file with a one-line listener and an `Include` of a file with another,
loaded after a first listener. -/
theorem globalLoadConffile_spec_suffix_sample :
    ∃ r, globalLoadConffile Env.sample
        (fun path => if path = "a.conf" then some ["ProxySpec tcp 127.0.0.1 8080\n", "Include b.conf\n"]
          else if path = "b.conf" then some ["ProxySpec ssl 127.0.0.1 8443\n"] else none) 2
        { Conf.init 2048 none false with
          global := { globalNew 2048 with spec := [Proxyspec.empty optsNew] } } "a.conf" = .ok r ∧
      r.2.global.spec.length = 3 ∧ [Proxyspec.empty optsNew] <:+ r.2.global.spec := by
  have hrun : globalLoadConffile Env.sample
      (fun path => if path = "a.conf" then some ["ProxySpec tcp 127.0.0.1 8080\n", "Include b.conf\n"]
        else if path = "b.conf" then some ["ProxySpec ssl 127.0.0.1 8443\n"] else none) 2
      { Conf.init 2048 none false with
        global := { globalNew 2048 with spec := [Proxyspec.empty optsNew] } } "a.conf" = .ok _ := rfl
  exact ⟨_, hrun, by decide, globalLoadConffile_spec_suffix hrun⟩

end SSLproxy
