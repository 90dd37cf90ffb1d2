import JavaBuild.Proofs.Checkstyle.ClassPattern

/-!
# Calls that add class patterns

Class patterns are added to a configuration in its place, some at a time (`PatternCall`). All of
them are compiled before any is added, so a call with a text that is no pattern leaves the
configuration as it was, wherever the text stands (`PatternCall.attempt_of_fails`). After any
calls, of which some have failed, the lists of the configuration have grown by what the others
have added (`attempts_extend`).
-/

namespace JavaBuild.Checkstyle

open List (Forall₂)

/-! ## Single calls -/

/-- A call that adds class patterns to a list of a configuration. -/
structure PatternCall where
  list : PatternList
  patterns : List GivenPattern

namespace PatternCall

variable {call : PatternCall}

/-- What a call comes to for a configuration, and the configuration afterwards. -/
def attempt (call : PatternCall) : StateM Config (Except Failure Unit) :=
  (call.list.add call.patterns).run

/-- One of the patterns is faulty. -/
def Fails (call : PatternCall) : Prop := ∃ given ∈ call.patterns, given.IsFaulty

instance (call : PatternCall) : Decidable call.Fails :=
  inferInstanceAs (Decidable (∃ given ∈ call.patterns, given.IsFaulty))

/-- Patterns are compiled without changing the configuration. -/
theorem run_mapM_compile (patterns : List GivenPattern) (c : Config) :
    ((patterns.mapM fun p => MonadExcept.ofExcept p.compile : Change _).run).run c =
      (patterns.mapM GivenPattern.compile, c) := by
  induction patterns with
  | nil => rfl
  | cons given patterns ih =>
    rw [List.mapM_cons, List.mapM_cons, ExceptT.run_bind, StateT.run_bind]
    cases given.compile with
    -- The patterns behind one that does not compile are not looked at.
    | error f => rfl
    | ok p =>
      change StateT.run (ExceptT.run (_ >>= _)) c = _
      rw [ExceptT.run_bind, StateT.run_bind, ih]
      cases patterns.mapM GivenPattern.compile <;> rfl

/-- A call adds all of its patterns if they compile, and else none. -/
theorem attempt_eq (call : PatternCall) (c : Config) : call.attempt.run c =
    match call.patterns.mapM GivenPattern.compile with
    | .ok ps => (.ok (), call.list.extend c ps)
    | .error f => (.error f, c) := by
  rw [attempt, PatternList.add, ExceptT.run_bind, StateT.run_bind, run_mapM_compile]
  cases call.patterns.mapM GivenPattern.compile <;> rfl

/-- The configuration with further patterns in one of its lists. -/
def addTo (call : PatternCall) (c : Config) : Except Failure Config :=
  match call.list with
  | .includes => c.addIncludes call.patterns
  | .excludes => c.addExcludes call.patterns

/-- A call that succeeds leaves the configuration that has the further patterns, and any other
    fails as that configuration does. -/
theorem addTo_eq (call : PatternCall) (c : Config) :
    call.addTo c = (call.attempt.run c).1.map fun _ => (call.attempt.run c).2 := by
  rw [attempt_eq, addTo]
  cases hps : call.patterns.mapM GivenPattern.compile <;>
    cases call.list <;> simp only [Config.addIncludes, Config.addExcludes, hps] <;> rfl

theorem exists_mapM_compile_iff :
    (∃ ps, call.patterns.mapM GivenPattern.compile = .ok ps) ↔ ¬call.Fails := by
  simp only [exists_mapM_eq_ok_iff, GivenPattern.exists_compile_eq_ok_iff, Fails, not_exists,
    not_and]

/-- A call that fails leaves the configuration as it was. -/
theorem attempt_of_fails (h : call.Fails) (c : Config) :
    ∃ f, call.attempt.run c = (.error f, c) := by
  rw [attempt_eq]
  cases hps : call.patterns.mapM GivenPattern.compile with
  | error f => exact ⟨f, rfl⟩
  | ok ps => exact absurd h (exists_mapM_compile_iff.1 ⟨ps, hps⟩)

/-- Any other call adds all of its patterns. -/
theorem attempt_of_not_fails (h : ¬call.Fails) :
    ∃ ps, Forall₂ GivenPattern.KeptAs call.patterns ps ∧
      ∀ c, call.attempt.run c = (.ok (), call.list.extend c ps) := by
  obtain ⟨ps, hps⟩ := exists_mapM_compile_iff.2 h
  have hkept : Forall₂ GivenPattern.KeptAs call.patterns ps :=
    (mapM_eq_ok_iff.1 hps).imp fun _ _ => GivenPattern.compile_eq_ok_iff.1
  refine ⟨ps, hkept, fun c => ?_⟩
  rw [attempt_eq, hps]

theorem attempt_eq_error_iff (c : Config) :
    (∃ f, (call.attempt.run c).1 = .error f) ↔ call.Fails := by
  by_cases h : call.Fails
  · obtain ⟨f, hf⟩ := attempt_of_fails h c
    exact iff_of_true ⟨f, congrArg Prod.fst hf⟩ h
  · obtain ⟨ps, -, hrun⟩ := attempt_of_not_fails h
    refine iff_of_false ?_ h
    rw [hrun]
    rintro ⟨f, hf⟩
    cases hf

end PatternCall

/-! ## Calls one after the other -/

/-- What calls come to, one after the other, and the configuration afterwards. -/
def attempts (calls : List PatternCall) : StateM Config (List (Except Failure Unit)) :=
  calls.mapM PatternCall.attempt

/-- The patterns that are added to a list by the calls that do not fail. -/
def added (list : PatternList) (calls : List PatternCall) : List GivenPattern :=
  (calls.filter fun call => call.list = list ∧ ¬call.Fails).flatMap PatternCall.patterns

theorem added_cons (list : PatternList) (call : PatternCall) (calls : List PatternCall) :
    added list (call :: calls) =
      (if call.list = list ∧ ¬call.Fails then call.patterns else []) ++ added list calls := by
  rw [added, List.filter_cons]
  split <;> rename_i h <;> simp only [decide_eq_true_eq] at h
  · rw [if_pos h]
    rfl
  · rw [if_neg h]
    rfl

theorem attempts_cons (call : PatternCall) (calls : List PatternCall) (c : Config) :
    (attempts (call :: calls)).run c =
      ((call.attempt.run c).1 :: ((attempts calls).run (call.attempt.run c).2).1,
        ((attempts calls).run (call.attempt.run c).2).2) := by
  rw [attempts, List.mapM_cons, StateT.run_bind]
  rfl

/-- After calls, the lists have grown by what those of them have added that have not failed. -/
theorem attempts_extend (calls : List PatternCall) (c : Config) :
    ∃ includes excludes,
      Forall₂ GivenPattern.KeptAs (added .includes calls) includes ∧
      Forall₂ GivenPattern.KeptAs (added .excludes calls) excludes ∧
      ((attempts calls).run c).2 =
        { c with includes := c.includes ++ includes, excludes := c.excludes ++ excludes } := by
  -- Each call changes what the calls before it have left, so the induction is for all
  -- configurations.
  induction calls generalizing c with
  | nil => exact ⟨[], [], .nil, .nil, by rw [List.append_nil, List.append_nil]; rfl⟩
  | cons call calls ih =>
    rw [attempts_cons, added_cons, added_cons]
    by_cases hfails : call.Fails
    · obtain ⟨f, hf⟩ := PatternCall.attempt_of_fails hfails c
      simpa only [hf, hfails, not_true_eq_false, and_false, if_false, List.nil_append] using ih c
    · obtain ⟨ps, hps, hrun⟩ := PatternCall.attempt_of_not_fails hfails
      obtain ⟨includes, excludes, hincludes, hexcludes, hlater⟩ := ih (call.list.extend c ps)
      rw [hrun, hlater]
      simp only [hfails, not_false_eq_true, and_true]
      cases hlist : call.list with
      | includes =>
        refine ⟨ps ++ includes, excludes, List.rel_append hps hincludes, hexcludes, ?_⟩
        rw [← List.append_assoc]
        rfl
      | excludes =>
        refine ⟨includes, ps ++ excludes, hincludes, List.rel_append hps hexcludes, ?_⟩
        rw [← List.append_assoc]
        rfl

/-- Each call fails just if one of its patterns is faulty. -/
theorem attempts_eq_error_iff (calls : List PatternCall) (c : Config) :
    Forall₂ (fun call result => (∃ f, result = .error f) ↔ call.Fails) calls
      ((attempts calls).run c).1 := by
  induction calls generalizing c with
  | nil => exact .nil
  | cons call calls ih =>
    rw [attempts_cons]
    exact .cons (call.attempt_eq_error_iff c) (ih _)

/-- A call fails just if one of its patterns is faulty, and then leaves the configuration as it
    was. After any calls, the lists of the configuration have grown by the patterns of those
    calls that have not failed, in their order, and nothing else has changed. -/
theorem failed_attempts_leave_no_trace (calls : List PatternCall) (c : Config) :
    (∀ (call : PatternCall) (c' : Config), if call.Fails
      then ∃ f, call.attempt.run c' = (.error f, c')
      else (call.attempt.run c').1 = .ok ()) ∧
    Forall₂ (fun call result => (∃ f, result = .error f) ↔ call.Fails) calls
      ((attempts calls).run c).1 ∧
    ∃ includes excludes,
      Forall₂ GivenPattern.KeptAs (added .includes calls) includes ∧
      Forall₂ GivenPattern.KeptAs (added .excludes calls) excludes ∧
      ((attempts calls).run c).2 =
        { c with includes := c.includes ++ includes, excludes := c.excludes ++ excludes } := by
  refine ⟨fun call c' => ?_, attempts_eq_error_iff calls c, attempts_extend calls c⟩
  split
  · rename_i hfails
    exact PatternCall.attempt_of_fails hfails c'
  · rename_i hfails
    obtain ⟨ps, -, hrun⟩ := PatternCall.attempt_of_not_fails hfails
    rw [hrun]

/-- A pattern in front of a faulty one is not added, and that of a later call is. -/
example :
    let calls : List PatternCall :=
      [⟨.includes, [.value (.text "a"), .value (.text "("), .value (.text "b")]⟩,
        ⟨.excludes, [.value .null]⟩]
    let c := ((attempts calls).run {}).2
    c.includes.length = 0 ∧ c.excludes.length = 1 := by
  decide +kernel

end JavaBuild.Checkstyle
