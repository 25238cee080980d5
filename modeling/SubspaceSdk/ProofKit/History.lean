import SubspaceSdk.ProofKit.Transition

/-! The moments of a run: which action it takes at which place, and from which state; and the part
of a run that belongs to a component of the system. -/

namespace ProofKit.System

universe u v

variable {State : Type u} {Action : Type v} {sys : System State Action}
variable {s t u : State} {as : List Action} {a b : Action} {k : Nat}

variable (sys) in
/-- Action number `k` of the run `as` from `s` is `a`, and the run takes it from `u`. -/
structure At (s : State) (as : List Action) (k : Nat) (u : State) (a : Action) : Prop where
  taken : as[k]? = some a
  before : sys.Run s (as.take k) u

theorem At.lt (at' : sys.At s as k u a) : k < as.length :=
  (List.getElem?_eq_some_iff.mp at'.taken).1

/-- A moment of a run stays one when the run goes on. -/
theorem At.snoc (at' : sys.At s as k u a) (b : Action) : sys.At s (as ++ [b]) k u a := by
  have inside := at'.lt
  refine ⟨?_, ?_⟩
  · rw [List.getElem?_append_left inside, at'.taken]
  · rw [List.take_append_of_le_length (Nat.le_of_lt inside)]
    exact at'.before

/-- The last moment of a run. -/
theorem Run.at_last (run : sys.Run s as t) (b : Action) : sys.At s (as ++ [b]) as.length t b := by
  refine ⟨List.getElem?_concat_length, ?_⟩
  rw [List.take_left]
  exact run

/-- The moments of a longer run are those of the run before, and the last one. -/
theorem At.cases_snoc (run : sys.Run s as t) (at' : sys.At s (as ++ [b]) k u a) :
    sys.At s as k u a ∨ k = as.length ∧ u = t ∧ a = b := by
  have inside : k < as.length + 1 := by simpa using at'.lt
  by_cases early : k < as.length
  · refine .inl ⟨?_, ?_⟩
    · rw [← at'.taken, List.getElem?_append_left early]
    · have before := at'.before
      rwa [List.take_append_of_le_length (Nat.le_of_lt early)] at before
  · obtain rfl : k = as.length := by omega
    have before := at'.before
    rw [List.take_left] at before
    have taken := at'.taken
    rw [List.getElem?_concat_length, Option.some.injEq] at taken
    exact .inr ⟨rfl, before.unique run, taken.symm⟩

/-- Where a moment of a run is, the run goes on from it. -/
theorem At.rest (run : sys.Run s as t) (at' : sys.At s as k u a) :
    ∃ v, sys.next u a = some v ∧ sys.Run v (as.drop (k + 1)) t := by
  induction run with
  | start => cases at'.taken
  | @step as b t w before _ hnext ih =>
    rcases at'.cases_snoc before with earlier | ⟨rfl, rfl, rfl⟩
    · obtain ⟨v, first, run⟩ := ih earlier
      refine ⟨v, first, ?_⟩
      rw [List.drop_append_of_le_length (by have := earlier.lt; omega)]
      exact run.next hnext
    · refine ⟨w, hnext, ?_⟩
      rw [List.drop_of_length_le (by simp)]
      exact .start

/-- A run up to one of its moments, and the condition of the step taken there. -/
theorem RunIf.at {ok : List Action → State → Action → Prop} (run : sys.RunIf ok s as t)
    (at' : sys.At s as k u a) : sys.RunIf ok s (as.take k) u ∧ ok (as.take k) u a := by
  induction run with
  | start => cases at'.taken
  | @step as b t w before hok hnext ih =>
    rcases at'.cases_snoc before.run with earlier | ⟨rfl, rfl, rfl⟩
    · rw [List.take_append_of_le_length (Nat.le_of_lt earlier.lt)]
      exact ih earlier
    · rw [List.take_left]
      exact ⟨before, hok⟩

/-! ### Components -/

variable {State' : Type u} {Action' : Type v} {sys' : System State' Action'}

variable (sys sys') in
/-- Each step of a system is a step of its component, or leaves the component as it is. -/
structure Component (state : State → State') (action : Action → Option Action') : Prop where
  step : ∀ s a t b, sys.next s a = some t → action a = some b →
    sys'.next (state s) b = some (state t)
  other : ∀ s a t, sys.next s a = some t → action a = none → state t = state s

/-- The steps of a run that belong to a component are a run of it. -/
theorem Component.runIf {state : State → State'} {action : Action → Option Action'}
    {ok : List Action' → State' → Action' → Prop} (component : Component sys sys' state action)
    (run : sys.RunIf (fun as s a => ∀ b, action a = some b → ok (as.filterMap action) (state s) b)
      s as t) : sys'.RunIf ok (state s) (as.filterMap action) (state t) := by
  induction run with
  | start => exact .start
  | @step as a t u _ hok hnext ih =>
    rw [List.filterMap_append]
    cases own : action a with
    | none =>
      rw [component.other t a u hnext own]
      simpa [own] using ih
    | some b =>
      have after := ih.step (hok b own) (component.step t a u b hnext own)
      simpa [own] using after

theorem Component.run {state : State → State'} {action : Action → Option Action'}
    (component : Component sys sys' state action) (run : sys.Run s as t) :
    sys'.Run (state s) (as.filterMap action) (state t) :=
  component.runIf (run.mono fun _ _ _ _ _ _ => trivial)

end ProofKit.System
