import SSLproxy.Conf.Compose
import SSLproxy.Spec.Protocol

/-!
# The contexts the option handling reaches

`main.c` builds its configuration with three entry points of `opts.c`:
`global_load_conffile` for `-f`, `global_set_option` for `-o`, and
`proxyspec_parse` for the one-line listeners left on the command line.
`Reachable` is every context these reach from a fresh one, in any order and
any number, each call returning normally with any code.  It allows more than
`main.c` does, which stops at the first `-1`, so what holds of it holds of
the program.

Two invariants hold in every reachable context: every listener speaks one
protocol (`Spec.Protocol`), and the `include` flag of `tmp_global_opts` is
clear, so that `Include` works there as `Conf.Compose` describes.
-/

namespace SSLproxy

theorem Global.ProtoOk.of_spec_eq {g g' : Global} (hg : g.ProtoOk) (h : g'.spec = g.spec) :
    g'.ProtoOk := fun s hs => hg s (h ▸ hs)

/-! ## One directive, one file -/

section Directive

variable {env : Env} {incl : Conf → String → Except Fault (Int × Conf)}

theorem loadProxyspecLine_protoOk {c : Conf} {value : String} {r : Int × Conf}
    (hg : c.global.ProtoOk) (h : loadProxyspecLine env c value = .ok r) : r.2.global.ProtoOk := by
  dsimp only [loadProxyspecLine] at h
  split at h
  · cases h; exact hg
  · obtain ⟨⟨_, global⟩, hparse, h⟩ := Except.bind_eq_ok.mp h
    cases h
    exact proxyspecParse_protoOk hg hparse

/-- Every directive keeps every listener speaking one protocol, as long as the
loader does. -/
theorem setGlobalOption_protoOk {c : Conf} {name value : String} {lineNum : Nat}
    {f : Option (List String)} {r : Int × Conf × Nat × Nat}
    (hincl : ∀ c p r, c.global.ProtoOk → incl c p = .ok r → r.2.global.ProtoOk)
    (hg : c.global.ProtoOk) (h : setGlobalOption env incl c name value lineNum f = .ok r) :
    r.2.1.global.ProtoOk := by
  unfold setGlobalOption at h
  split_ifs at h
  · cases h; exact hg
  · exact loadProxyspecStruct_protoOk hg h
  · obtain ⟨_, hl, h⟩ := Except.bind_eq_ok.mp h
    cases h; exact loadProxyspecLine_protoOk hg hl
  · cases h; exact hg
  · obtain ⟨_, hl, h⟩ := Except.bind_eq_ok.mp h
    cases h; exact hincl _ _ _ (by exact hg) hl
  · cases h; exact hg.of_spec_eq (setGlobalPlain_frame env c name value lineNum).1

end Directive

section Loader

variable {env : Env} {files : String → Option (List String)} {fuel : Nat} {c : Conf}
  {r : Int × Conf}

/-- A file, with every file it includes, keeps every listener speaking one
protocol. -/
theorem optsLoadConffile_protoOk {path : String} (hg : c.global.ProtoOk)
    (h : optsLoadConffile env files fuel c path = .ok r) : r.2.global.ProtoOk := by
  induction fuel generalizing c path r with
  | zero => cases h
  | succ fuel ih =>
    rw [optsLoadConffile.eq_2] at h
    split at h
    · cases h; exact hg
    · exact conffileLoop_invariant (fun c => c.global.ProtoOk)
        (fun _ _ _ _ _ _ hc hr => setGlobalOption_protoOk (fun _ _ _ => ih) hc hr) _ _ _ _ _ hg h

theorem globalSetOption_protoOk {optarg : String} (hg : c.global.ProtoOk)
    (h : globalSetOption env files fuel c optarg = .ok r) : r.2.global.ProtoOk := by
  unfold globalSetOption at h
  split at h
  · cases h; exact hg
  · obtain ⟨⟨_, _, _, _⟩, hset, h⟩ := Except.bind_eq_ok.mp h
    cases h
    exact setGlobalOption_protoOk (fun _ _ _ => optsLoadConffile_protoOk) hg hset

theorem globalSetOption_include {optarg : String}
    (h : globalSetOption env files fuel c optarg = .ok r) : r.2.tmp.include = c.tmp.include := by
  unfold globalSetOption at h
  split at h
  · cases h; rfl
  · obtain ⟨⟨_, _, _, _⟩, hset, h⟩ := Except.bind_eq_ok.mp h
    cases h
    exact setGlobalOption_include hset

end Loader

/-! ## Whole runs -/

/-- The contexts that `-f` files, `-o` options and command-line listeners
reach from a fresh context, in any order. -/
inductive Reachable (env : Env) (files : String → Option (List String)) (fuel : Nat) :
    Conf → Prop
  | init (dfltLeafkeyRsabits : Nat) (natengine : Option String) (split : Bool) :
      Reachable env files fuel (Conf.init dfltLeafkeyRsabits natengine split)
  | conffile {c : Conf} {r : Int × Conf} (optarg : String) : Reachable env files fuel c →
      globalLoadConffile env files fuel c optarg = .ok r → Reachable env files fuel r.2
  | option {c : Conf} {r : Int × Conf} (optarg : String) : Reachable env files fuel c →
      globalSetOption env files fuel c optarg = .ok r → Reachable env files fuel r.2
  | proxyspecs {c : Conf} {rc : Int} {global : Global} (argv : List String) :
      Reachable env files fuel c →
      proxyspecParse env c.natengine c.global c.tmp argv = .ok (rc, global) →
      Reachable env files fuel { c with global }

section Reachable

variable {env : Env} {files : String → Option (List String)} {fuel : Nat} {c : Conf}

/-- In every reachable context, every listener speaks at most one application
protocol, and no `autossl` listener begins in SSL. -/
theorem Reachable.protoOk (h : Reachable env files fuel c) : c.global.ProtoOk := by
  induction h with
  | init => intro _ hs; cases hs
  | conffile _ _ hr ih => exact optsLoadConffile_protoOk (by exact ih) hr
  | option _ _ hr ih => exact globalSetOption_protoOk ih hr
  | proxyspecs _ _ hr ih => exact proxyspecParse_protoOk ih hr

/-- The context after `-o ProxySpec=autossl 127.0.0.1 8443`, with its
`autossl` listener. -/
theorem Reachable.protoOk_sample :
    ∃ c, Reachable Env.sample (fun _ => none) 1 c ∧ c.global.spec.length = 1 ∧ c.global.ProtoOk := by
  have hreach : Reachable Env.sample (fun _ => none) 1 _ :=
    .option "ProxySpec=autossl 127.0.0.1 8443" (.init 2048 none false) rfl
  exact ⟨_, hreach, by decide, Reachable.protoOk hreach⟩

/-- In every reachable context the `include` flag is clear: each entry point
hands it back as it found it. -/
theorem Reachable.include_eq_false (h : Reachable env files fuel c) : c.tmp.include = false := by
  induction h with
  | init => rfl
  | conffile _ _ hr ih => exact (optsLoadConffile_include hr).trans ih
  | option _ _ hr ih => exact (globalSetOption_include hr).trans ih
  | proxyspecs _ _ _ ih => exact ih

/-- The context after a file that includes another one. -/
theorem Reachable.include_eq_false_sample :
    ∃ c, Reachable Env.sample
        (fun path => if path = "a.conf" then some ["Include b.conf\n"]
          else if path = "b.conf" then some ["Daemon yes\n"] else none) 2 c ∧
      c.global.detach = true ∧ c.tmp.include = false := by
  have hreach : Reachable Env.sample
      (fun path => if path = "a.conf" then some ["Include b.conf\n"]
        else if path = "b.conf" then some ["Daemon yes\n"] else none) 2 _ :=
    .conffile "a.conf" (.init 2048 none false) rfl
  exact ⟨_, hreach, rfl, Reachable.include_eq_false hreach⟩

end Reachable

/-! ## What `main.c` asks of the configuration -/

/-- The loop of the `global_has_*_spec` queries: `1` once a listener passes
the test, `0` at the end of the list. -/
def globalHasSpec (test : Proxyspec → Bool) : List Proxyspec → Int
  | [] => 0
  | spec :: rest => if test spec then 1 else globalHasSpec test rest

/-- `global_has_ssl_spec`. -/
def globalHasSslSpec (global : Global) : Int :=
  globalHasSpec (fun p => p.ssl || p.upgrade) global.spec

/-- `global_has_dns_spec`. -/
def globalHasDnsSpec (global : Global) : Int :=
  globalHasSpec (fun p => p.dns) global.spec

/-- `global_has_userauth_spec`. -/
def globalHasUserauthSpec (global : Global) : Int :=
  globalHasSpec (fun p => p.opts.userAuth) global.spec

/-- `global_has_cakey_spec`. -/
def globalHasCakeySpec (global : Global) : Int :=
  globalHasSpec (fun p => p.opts.cakey.isSome) global.spec

end SSLproxy
