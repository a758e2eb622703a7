import SSLproxy.Conf.Load

/-!
# Nested configuration files

`Include` makes `set_global_option` call `opts_load_conffile` from inside
`opts_load_conffile`.  Nothing but the `include` flag of `tmp_global_opts`
bounds this recursion: the flag is set for the included file, an `Include`
is refused while it is set, and it is cleared afterwards.

The loop of a file read with the flag set never calls the loader, whatever
the loader is, and the loop of any file calls it only with the flag set.  So
two levels of the model's fuel already give the loader's result, for every
assignment of contents to paths, files that include themselves or each other
included.  The faults the loader can still end in are the `NULL`
dereferences of `Fault`, not a recursion without end.
-/

namespace SSLproxy

section Loop

variable {env : Env} {incl incl₁ incl₂ : Conf → String → Except Fault (Int × Conf)}

/-- Two loaders give the same loop as long as the contexts it passes through
stay in a set `S` on which one directive gives the same result with both. -/
theorem conffileLoop_congr (S : Conf → Prop)
    (hstep : ∀ c name value lineNum f, S c →
      setGlobalOption env incl₁ c name value lineNum f =
        setGlobalOption env incl₂ c name value lineNum f)
    (hkeep : ∀ c name value lineNum f r, S c →
      setGlobalOption env incl₁ c name value lineNum f = .ok r → S r.2.1)
    (c : Conf) (lineNum : Nat) (retval : Int) (skip : Nat) (lines : List String) (hc : S c) :
    conffileLoop env incl₁ c lineNum retval skip lines =
      conffileLoop env incl₂ c lineNum retval skip lines := by
  induction c, lineNum, retval, skip, lines using conffileLoop.induct env incl₁ with
  | case1 => simp only [conffileLoop]
  | case2 _ _ _ _ _ _ ih => simpa only [conffileLoop] using ih hc
  | case3 _ _ _ _ _ _ hline ih => simpa only [conffileLoop, hline] using ih hc
  | case4 _ _ _ _ _ _ hline hsplit => simp only [conffileLoop, hline, hsplit]
  | case5 _ _ _ _ _ _ hline _ _ hsplit ih =>
    simp only [conffileLoop, hline, hsplit]
    rw [← hstep _ _ _ _ _ hc]
    refine Except.bind_congr_ok fun ⟨rc, c', lineNum', read⟩ hr => ?_
    dsimp only
    split_ifs
    · rfl
    · exact ih _ _ _ _ (hkeep _ _ _ _ _ _ hc hr)

/-- The loop runs out of fuel only through its loader, called with the flag
set. -/
theorem conffileLoop_ne_outOfFuel
    (hincl : ∀ c p, c.tmp.include = true → incl c p ≠ .error .outOfFuel)
    (c : Conf) (lineNum : Nat) (retval : Int) (skip : Nat) (lines : List String) :
    conffileLoop env incl c lineNum retval skip lines ≠ .error .outOfFuel := by
  induction c, lineNum, retval, skip, lines using conffileLoop.induct env incl with
  | case1 => simp only [conffileLoop]; exact nofun
  | case2 _ _ _ _ _ _ ih => simpa only [conffileLoop] using ih
  | case3 _ _ _ _ _ _ hline ih => simpa only [conffileLoop, hline] using ih
  | case4 _ _ _ _ _ _ hline hsplit => simp only [conffileLoop, hline, hsplit]; exact nofun
  | case5 _ _ _ _ _ _ hline _ _ hsplit ih =>
    simp only [conffileLoop, hline, hsplit]
    intro h
    rcases Except.bind_eq_error.mp h with h | ⟨⟨rc, c', lineNum', read⟩, -, h⟩
    · exact setGlobalOption_ne_outOfFuel hincl h
    · dsimp only at h
      split_ifs at h
      · cases h
      · exact ih _ _ _ _ h

/-- A file read with the flag set never calls the loader. -/
theorem conffileLoop_incl_irrel {c : Conf} {lineNum : Nat} {retval : Int} {skip : Nat}
    {lines : List String} (hset : c.tmp.include = true) :
    conffileLoop env incl₁ c lineNum retval skip lines =
      conffileLoop env incl₂ c lineNum retval skip lines :=
  conffileLoop_congr (fun c => c.tmp.include = true)
    (fun _ _ _ _ _ h => setGlobalOption_incl_irrel h)
    (fun _ _ _ _ _ _ h hr => (setGlobalOption_include hr).trans h) c lineNum retval skip lines hset

end Loop

section Fuel

variable {env : Env} {files : String → Option (List String)} {c : Conf} {path : String}

theorem optsLoadConffile_succ_of_include (hset : c.tmp.include = true) (fuel : Nat) :
    optsLoadConffile env files (fuel + 1) c path = optsLoadConffile env files 1 c path := by
  rw [optsLoadConffile.eq_2, optsLoadConffile.eq_2]
  split
  · rfl
  · exact conffileLoop_incl_irrel hset

theorem optsLoadConffile_one_ne_outOfFuel (hset : c.tmp.include = true) :
    optsLoadConffile env files 1 c path ≠ .error .outOfFuel := by
  rw [optsLoadConffile.eq_2]
  split
  · exact nofun
  · rw [@conffileLoop_incl_irrel env _ (fun c _ => pure (-1, c)) c 0 (-1) 0 _ hset]
    exact conffileLoop_ne_outOfFuel (fun _ _ _ h => by cases h) _ _ _ _ _

/-- Fuel beyond two levels changes nothing. -/
theorem optsLoadConffile_fuel_stable (fuel : Nat) :
    optsLoadConffile env files (fuel + 2) c path = optsLoadConffile env files 2 c path := by
  rw [optsLoadConffile.eq_2, optsLoadConffile.eq_2]
  split
  · rfl
  · exact conffileLoop_congr (fun _ => True)
      (fun _ _ _ _ _ _ =>
        setGlobalOption_congr fun _ _ h => optsLoadConffile_succ_of_include h fuel)
      (fun _ _ _ _ _ _ _ _ => trivial) _ _ _ _ _ trivial

/-- Two levels of fuel are enough. -/
theorem optsLoadConffile_ne_outOfFuel :
    optsLoadConffile env files 2 c path ≠ .error .outOfFuel := by
  rw [optsLoadConffile.eq_2]
  split
  · exact nofun
  · exact conffileLoop_ne_outOfFuel (fun _ _ => optsLoadConffile_one_ne_outOfFuel) _ _ _ _ _

/-- A load, at any depth of inclusion, leaves the flag as it found it. -/
theorem optsLoadConffile_include {fuel : Nat} {r : Int × Conf}
    (h : optsLoadConffile env files fuel c path = .ok r) : r.2.tmp.include = c.tmp.include := by
  cases fuel with
  | zero => cases h
  | succ fuel =>
    rw [optsLoadConffile.eq_2] at h
    split at h
    · cases h; rfl
    · exact conffileLoop_invariant (fun c' => c'.tmp.include = c.tmp.include)
        (fun _ _ _ _ _ _ hc hr => (setGlobalOption_include hr).trans hc) _ _ _ _ _ rfl h

end Fuel

/-- `Include` cannot recurse: for every assignment of contents to paths the
loader's result is reached with two levels of fuel and stays the same with
more; an `Include` read while the flag is set fails without opening anything,
and nothing else of a file read with the flag set opens anything either; and
every directive, `Include` among them, leaves the flag as it found it, so the
flag is clear again after each top-level `Include`. -/
theorem optsLoadConffile_include_terminates (env : Env) (files : String → Option (List String)) :
    (∀ c path, optsLoadConffile env files 2 c path ≠ .error .outOfFuel ∧
      ∀ fuel, optsLoadConffile env files (fuel + 2) c path = optsLoadConffile env files 2 c path) ∧
    (∀ incl c value lineNum f, c.tmp.include = true →
      setGlobalOption env incl c "Include" value lineNum f = pure (-1, c, lineNum, 0)) ∧
    (∀ incl₁ incl₂ c lineNum retval skip lines, c.tmp.include = true →
      conffileLoop env incl₁ c lineNum retval skip lines =
        conffileLoop env incl₂ c lineNum retval skip lines) ∧
    (∀ incl c name value lineNum f r, setGlobalOption env incl c name value lineNum f = .ok r →
      r.2.1.tmp.include = c.tmp.include) :=
  ⟨fun _ _ => ⟨optsLoadConffile_ne_outOfFuel, optsLoadConffile_fuel_stable⟩,
    fun _ _ _ _ _ h => setGlobalOption_include_set h,
    fun _ _ _ _ _ _ _ h => conffileLoop_incl_irrel h,
    fun _ _ _ _ _ _ _ h => setGlobalOption_include h⟩

/-- A file that includes itself, and the inner `Include` it reaches. -/
theorem optsLoadConffile_self_include :
    optsLoadConffile Env.sample
        (fun path => if path = "a.conf" then some ["Include a.conf\n"] else none) 3
        (Conf.init 2048 none false) "a.conf" =
      optsLoadConffile Env.sample
        (fun path => if path = "a.conf" then some ["Include a.conf\n"] else none) 2
        (Conf.init 2048 none false) "a.conf" ∧
    setGlobalOption Env.sample (fun c _ => pure (0, c))
        { Conf.init 2048 none false with tmp := { (Conf.init 2048 none false).tmp with «include» := true } }
        "Include" "a.conf" 1 none =
      pure (-1, { Conf.init 2048 none false with
        tmp := { (Conf.init 2048 none false).tmp with «include» := true } }, 1, 0) ∧
    conffileLoop Env.sample (fun c _ => pure (0, c))
        { Conf.init 2048 none false with tmp := { (Conf.init 2048 none false).tmp with «include» := true } }
        0 (-1) 0 ["Include a.conf\n"] =
      conffileLoop Env.sample (fun _ _ => .error .outOfFuel)
        { Conf.init 2048 none false with tmp := { (Conf.init 2048 none false).tmp with «include» := true } }
        0 (-1) 0 ["Include a.conf\n"] ∧
    (-1, Conf.init 2048 none false, 1, 0).2.1.tmp.include = (Conf.init 2048 none false).tmp.include :=
  ⟨((optsLoadConffile_include_terminates Env.sample _).1 _ _).2 1,
    (optsLoadConffile_include_terminates Env.sample (fun _ => none)).2.1 _ _ _ _ _ rfl,
    (optsLoadConffile_include_terminates Env.sample (fun _ => none)).2.2.1 _ _ _ _ _ _ _ rfl,
    (optsLoadConffile_include_terminates Env.sample
      (fun path => if path = "a.conf" then some ["Include a.conf\n"] else none)).2.2.2
      (optsLoadConffile Env.sample
        (fun path => if path = "a.conf" then some ["Include a.conf\n"] else none) 1)
      _ "Include" "a.conf" 1 none _ rfl⟩

end SSLproxy
