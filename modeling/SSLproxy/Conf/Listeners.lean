import SSLproxy.Conf.Forms

/-!
# Several listeners in one token array

`main.c` hands `proxyspec_parse` every argument left after the options, and
`load_proxyspec_line` hands it every token of a `ProxySpec` line, so one
token array may hold any number of one-line declarations.  The automaton has
no separator between them: after a listener's port, or after its divert and
return addresses, a protocol keyword rewinds to `case 0` and begins the next
listener.

For declarations whose protocol is a keyword and whose target reads as a
target (`ListenerDecl.WellFormed`), the whole run is what the declarations
mean one after another (`proxyspecParse_decls`): `proxyspec_parse` returns
`0` exactly when every declaration builds on a clone of the global options,
and then `global->spec` starts with their listeners, newest first.  Only the
newest has been through `set_divert`, which the automaton runs once, at the
end of the tokens.
-/

namespace SSLproxy

theorem modifyHead_append {α : Type} (f : α → α) {l : List α} (hl : l ≠ []) (m : List α) :
    (l ++ m).modifyHead f = l.modifyHead f ++ m := by
  cases l with
  | nil => exact absurd rfl hl
  | cons a l => rfl

theorem Global.push_eq (global : Global) (x : Option Proxyspec) :
    global.push x = { global with spec := x.toList ++ global.spec } := by
  cases x <;> rfl

section Decls

variable {env : Env} {natengine : Option String} {tmp : TmpGlobalOpts}

/-- The run over the tokens of several declarations, from `case 0` with the
listener `last` begun: the listeners are those `build` makes, each on a clone
of the options of `global`, and `set_divert` runs on the newest listener
alone. -/
theorem proxyspecParseLoop_decls {ds : List ListenerDecl} (hwf : ∀ d ∈ ds, d.WellFormed env)
    (hproto : ∀ d ∈ ds, d.proto ∈ protoKeywords) (last : Option Proxyspec) (global : Global) :
    ParsesAs (proxyspecParseLoop env natengine tmp (.proto last) global 0
        (ds.flatMap ListenerDecl.argv))
      (ds.mapM fun d => (proxyspecNew env global tmp).bind (d.build env natengine))
      fun specs => .ok (0, { global with
        spec := (specs.reverse ++ last.toList).modifyHead (setDivert · tmp.split) ++
          global.spec }) := by
  induction ds generalizing last global with
  | nil => exact ⟨global, by cases last <;> rfl⟩
  | cons d ds ih =>
    -- the next declaration, if any, begins with its protocol keyword
    have hrest : ∀ t ∈ (ds.flatMap ListenerDecl.argv).head?, t ∈ protoKeywords := by
      rcases ds with _ | ⟨d', ds⟩
      · nofun
      · intro t ht
        cases ht
        exact hproto d' (by simp)
    simp only [List.flatMap_cons, List.mapM_cons, Option.bind_eq_bind]
    refine (proxyspecParseLoop_argv (hwf d (List.mem_cons_self _ _)) hrest last).bind
      fun spec => ?_
    have ih' := ih (fun d hd => hwf d (List.mem_cons_of_mem _ hd))
      (fun d hd => hproto d (List.mem_cons_of_mem _ hd)) (some spec) (global.push last)
    rw [proxyspecNew_push] at ih'
    refine ih'.bind fun specs => ⟨global, ?_⟩
    have hne : specs.reverse ++ [spec] ≠ [] := by simp
    simp only [Global.push_eq, List.reverse_cons, Option.toList_some]
    rw [modifyHead_append _ hne, List.append_assoc]

/-- Any number of one-line declarations in one token array: `proxyspec_parse`
returns `0` exactly when every declaration builds on a clone of the global
options, and then it has put their listeners in front of `global->spec`,
newest first, with `set_divert` run on the newest alone.  Otherwise it
returns `-1`. -/
theorem proxyspecParse_decls {global : Global} {ds : List ListenerDecl}
    (hwf : ∀ d ∈ ds, d.WellFormed env) (hproto : ∀ d ∈ ds, d.proto ∈ protoKeywords) :
    ∃ g, proxyspecParse env natengine global tmp (ds.flatMap ListenerDecl.argv) =
      match ds.mapM fun d => (proxyspecNew env global tmp).bind (d.build env natengine) with
      | some specs => .ok (0, { global with
          spec := specs.reverse.modifyHead (setDivert · tmp.split) ++ global.spec })
      | none => .ok (-1, g) := by
  obtain ⟨g, h⟩ := @proxyspecParseLoop_decls env natengine tmp ds hwf hproto none global
  refine ⟨g, ?_⟩
  rw [proxyspecParse, h]
  cases ds.mapM fun d => (proxyspecNew env global tmp).bind (d.build env natengine) <;> simp

end Decls

/-- Two listeners on one command line in split mode, the second with a divert
and a target. -/
theorem proxyspecParse_decls_sample :
    ∃ g, proxyspecParse Env.sample (some "ipfw") (globalNew 2048)
        (Conf.init 2048 (some "ipfw") true).tmp
        ([⟨"tcp", "127.0.0.1", "8080", none, none⟩,
          ⟨"https", "127.0.0.1", "8443", some ("8081", "127.0.0.1", "127.0.0.1"),
            some ("10.0.0.1", "443")⟩].flatMap ListenerDecl.argv) =
      match [(⟨"tcp", "127.0.0.1", "8080", none, none⟩ : ListenerDecl),
          ⟨"https", "127.0.0.1", "8443", some ("8081", "127.0.0.1", "127.0.0.1"),
            some ("10.0.0.1", "443")⟩].mapM fun d =>
          (proxyspecNew Env.sample (globalNew 2048) (Conf.init 2048 (some "ipfw") true).tmp).bind
            (d.build Env.sample (some "ipfw")) with
      | some specs => .ok (0, { globalNew 2048 with
          spec := specs.reverse.modifyHead (setDivert · true) ++ (globalNew 2048).spec })
      | none => .ok (-1, g) :=
  proxyspecParse_decls
    (by simp [ListenerDecl.WellFormed, protoKeywords, Env.sample, strstr]; decide)
    (by simp [protoKeywords])

end SSLproxy
