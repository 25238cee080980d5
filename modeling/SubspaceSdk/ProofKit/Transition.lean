import Mathlib.Data.List.Basic

/-! Systems that take one action at a time, and their runs.  A run keeps the list of the actions
taken, so that a fact about a run may speak of its history, and may ask a condition of every step
that it takes. -/

namespace ProofKit

universe u v

/-- A system: the state that an action leads to, or `none` where the action cannot happen. -/
structure System (State : Type u) (Action : Type v) where
  next : State → Action → Option State

namespace System

variable {State : Type u} {Action : Type v} {sys : System State Action}
variable {ok ok' : List Action → State → Action → Prop} {s t u : State} {as : List Action}
variable {a : Action}

variable (sys) in
/-- The actions `as`, oldest first, lead from `s` to a state, and each of them meets `ok` on the
actions before it and on the state in which it happens. -/
inductive RunIf (ok : List Action → State → Action → Prop) (s : State) :
    List Action → State → Prop
  | start : RunIf ok s [] s
  | step {as : List Action} {a : Action} {t u : State} :
      RunIf ok s as t → ok as t a → sys.next t a = some u → RunIf ok s (as ++ [a]) u

variable (sys) in
/-- A run with no condition on its steps. -/
abbrev Run (s : State) (as : List Action) (t : State) : Prop :=
  sys.RunIf (fun _ _ _ => True) s as t

theorem Run.next (run : sys.Run s as t) (h : sys.next t a = some u) : sys.Run s (as ++ [a]) u :=
  run.step trivial h

theorem RunIf.mono (run : sys.RunIf ok s as t) (h : ∀ as t a, ok as t a → ok' as t a) :
    sys.RunIf ok' s as t := by
  induction run with
  | start => exact .start
  | step _ hok hnext ih => exact ih.step (h _ _ _ hok) hnext

theorem RunIf.run (run : sys.RunIf ok s as t) : sys.Run s as t := run.mono fun _ _ _ _ => trivial

/-- What holds at the start and is kept by every step holds after every run. -/
theorem RunIf.invariant {I : List Action → State → Prop} (run : sys.RunIf ok s as t)
    (start : I [] s)
    (step : ∀ as t a u, I as t → ok as t a → sys.next t a = some u → I (as ++ [a]) u) :
    I as t := by
  induction run with
  | start => exact start
  | step _ hok hnext ih => exact step _ _ _ _ ih hok hnext

/-- What holds of every action of a run may be asked of its steps. -/
theorem RunIf.and_of_forall {p : Action → Prop} (run : sys.RunIf ok s as t)
    (h : ∀ a ∈ as, p a) : sys.RunIf (fun as t a => ok as t a ∧ p a) s as t := by
  induction run with
  | start => exact .start
  | step _ hok hnext ih =>
    refine (ih fun a mem => h a (List.mem_append_left _ mem)).step ⟨hok, ?_⟩ hnext
    exact h _ (List.mem_append_right _ (List.mem_singleton_self _))

/-- A run determines its state. -/
theorem Run.unique (run : sys.Run s as t) (run' : sys.Run s as u) : t = u := by
  induction run generalizing u with
  | start =>
    generalize hbs : ([] : List Action) = bs at run'
    cases run' with
    | start => rfl
    | step => simp at hbs
  | @step as a t v _ _ hnext ih =>
    generalize hbs : as ++ [a] = bs at run'
    cases run' with
    | start => simp at hbs
    | @step as' a' t' _ before _ hnext' =>
      obtain ⟨rfl, same⟩ := List.append_inj' hbs rfl
      cases same
      cases ih before
      rw [hnext] at hnext'
      exact Option.some.inj hnext'

/-- The condition of a run on its last step. -/
theorem RunIf.last (run : sys.RunIf ok s (as ++ [a]) u) (before : sys.Run s as t) :
    sys.RunIf ok s as t ∧ ok as t a := by
  generalize hbs : as ++ [a] = bs at run
  cases run with
  | start => simp at hbs
  | @step as' a' t' _ before' hok _ =>
    obtain ⟨rfl, same⟩ := List.append_inj' hbs rfl
    cases same
    cases before.unique before'.run
    exact ⟨before', hok⟩

/-- Each step's condition may also be read off an invariant of the run. -/
theorem RunIf.imp_of_invariant {I : List Action → State → Prop} (run : sys.RunIf ok s as t)
    (start : I [] s)
    (step : ∀ as t a u, I as t → ok as t a → sys.next t a = some u →
      ok' as t a ∧ I (as ++ [a]) u) :
    sys.RunIf ok' s as t := by
  have both : sys.RunIf ok' s as t ∧ I as t := by
    refine run.invariant (I := fun as t => sys.RunIf ok' s as t ∧ I as t) ⟨.start, start⟩ ?_
    rintro as t a u ⟨done, inv⟩ hok hnext
    obtain ⟨hok', inv'⟩ := step as t a u inv hok hnext
    exact ⟨done.step hok' hnext, inv'⟩
  exact both.1

theorem Run.append {bs : List Action} (first : sys.Run s as t) (second : sys.Run t bs u) :
    sys.Run s (as ++ bs) u := by
  induction second with
  | start => simpa using first
  | step _ _ hnext ih =>
    rw [← List.append_assoc]
    exact ih.next hnext

theorem Run.cons (h : sys.next s a = some t) (run : sys.Run t as u) : sys.Run s (a :: as) u :=
  (Run.next .start h : sys.Run s [a] t).append run

/-- A measure that every step lowers bounds the number of steps. -/
theorem RunIf.length_add_le {I : State → Prop} (measure : State → Nat)
    (run : sys.RunIf ok s as t) (start : I s)
    (step : ∀ t a u, I t → sys.next t a = some u → I u ∧ measure u < measure t) :
    as.length + measure t ≤ measure s := by
  have both : I t ∧ as.length + measure t ≤ measure s := by
    refine run.invariant (I := fun as t => I t ∧ as.length + measure t ≤ measure s)
      ⟨start, by simp⟩ ?_
    rintro as t a u ⟨inv, bound⟩ _ hnext
    obtain ⟨inv', lower⟩ := step t a u inv hnext
    refine ⟨inv', ?_⟩
    simp only [List.length_append, List.length_singleton]
    omega
  exact both.2

/-! ### What is still to come -/

variable {isOver : State → Prop} {count : State → Nat} {bounds : Nat × Option Nat}

variable (sys) in
/-- A lower and an upper bound hold of what `count` gains on every way to a state that is over. -/
def Bounds (isOver : State → Prop) (count : State → Nat) (s : State) (bounds : Nat × Option Nat) :
    Prop :=
  ∀ as t, sys.Run s as t → isOver t →
    bounds.1 ≤ count t - count s ∧ ∀ upper ∈ bounds.2, count t - count s ≤ upper

/-- Where every way to the end gains the same, this is what the bounds are about. -/
theorem bounds_iff_of_exact {n : Nat}
    (exact : ∀ as t, sys.Run s as t → isOver t → count t - count s = n)
    (ends : ∃ as t, sys.Run s as t ∧ isOver t) :
    sys.Bounds isOver count s bounds ↔ bounds.1 ≤ n ∧ ∀ upper ∈ bounds.2, n ≤ upper := by
  constructor
  · intro holds
    obtain ⟨as, t, run, isOver⟩ := ends
    exact exact as t run isOver ▸ holds as t run isOver
  · intro holds as t run isOver
    rwa [exact as t run isOver]

/-- Where no way to the end gains anything, both bounds may be zero. -/
theorem bounds_zero (none : ∀ as t, sys.Run s as t → isOver t → count t ≤ count s) :
    sys.Bounds isOver count s (0, some 0) := by
  refine fun as t run isOver => ⟨Nat.zero_le _, fun upper mem => ?_⟩
  cases mem
  exact Nat.le_of_eq (Nat.sub_eq_zero_of_le (none as t run isOver))

/-- Where one way to the end gains nothing, the lower bound is zero. -/
theorem Bounds.lower_eq_zero (holds : sys.Bounds isOver count s bounds) (run : sys.Run s as t)
    (ends : isOver t) (same : count t = count s) : bounds.1 = 0 := by
  have lower := (holds as t run ends).1
  omega

/-- Where the way to the end may gain any number, no upper bound holds. -/
theorem not_bounds_of_unbounded {lower upper : Nat}
    (more : ∀ n, ∃ as t, sys.Run s as t ∧ isOver t ∧ count s + n ≤ count t) :
    ¬sys.Bounds isOver count s (lower, some upper) := by
  intro holds
  obtain ⟨as, t, run, isOver, gain⟩ := more (upper + 1)
  have fits := (holds as t run isOver).2 upper rfl
  omega

/-! ### Runs that are computed -/

variable (sys) in
/-- The state after `as`, where each action meets `ok` on those before it, `past` first. -/
def exec (ok : List Action → State → Action → Prop) [∀ as t a, Decidable (ok as t a)]
    (past : List Action) (s : State) : List Action → Option State
  | [] => some s
  | a :: as =>
    if ok past s a then
      match sys.next s a with
      | some u => exec ok (past ++ [a]) u as
      | none => none
    else none

theorem exec_append [∀ as t a, Decidable (ok as t a)] {past : List Action}
    (run : sys.RunIf ok s past t) (h : sys.exec ok past t as = some u) :
    sys.RunIf ok s (past ++ as) u := by
  induction as generalizing past t with
  | nil =>
    cases h
    simpa using run
  | cons a as ih =>
    simp only [exec] at h
    split at h
    · rename_i hok
      cases hnext : sys.next t a with
      | none => simp [hnext] at h
      | some middle =>
        simp only [hnext] at h
        have := ih (run.step hok hnext) h
        rwa [List.append_assoc] at this
    · cases h

theorem RunIf.of_exec [∀ as t a, Decidable (ok as t a)] (h : sys.exec ok [] s as = some t) :
    sys.RunIf ok s as t := exec_append .start h

end System

end ProofKit
