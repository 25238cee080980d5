import SubspaceSdk.Utils.Teardown
import Mathlib.Data.List.Nodup

/-! An interrupted `async_drop`: the future of one entry is dropped, or panics, while it is awaited.
The older entries are then destroyed by the drop of the drains, each exactly once, but one kind
after another and each kind from its oldest entry. -/

namespace SubspaceSdk

namespace DestructorSet

/-- A registered thing, known by its number. -/
def numberedOne (n : Nat) : ToDestruct → Registration Nat Nat Nat
  | .sync => .sync n
  | .async => .async n
  | .item => .item n

/-- Registrations of the given kinds, numbered from `start`. -/
def numbered (start : Nat) : List ToDestruct → List (Registration Nat Nat Nat)
  | [] => []
  | kind :: kinds => numberedOne start kind :: numbered (start + 1) kinds

section Order

variable {F A T : Type} {entries : List (Registration F A T)}

end Order

/-! ### Interruptions -/

/-- A set on which `kinds` have been registered. -/
def registeredKinds (name : String) (kinds : List ToDestruct) : DestructorSet Nat Nat Nat :=
  ((new name).registerAll (numbered 0 kinds)).2

/-- An `async_drop` that is interrupted at the entry after `older` has destroyed the newer entries
in reverse, and goes on to destroy the older ones in reverse. -/
def ResumesInReverse (name : String) (older newer : List ToDestruct) (polls : List PollOutcome)
    (how : Interruption) : Prop :=
  (registeredKinds name (older ++ .async :: newer)).asyncDrop polls =
    .ok ((numbered (older.length + 1) newer).reverse.map Registration.onAsyncDrop ++
      [.cancelled older.length] ++ (numbered 0 older).reverse.map Registration.onDrop,
      .interrupted how)

/-- Two closures that are older than the interrupted future are run from the oldest. -/
theorem closures_resume_forwards :
    interruption 0 [.pending] = some .abandoned ∧
    (registeredKinds "farmer-destructors" [.sync, .sync, .async]).asyncDrop [.pending] =
      .ok ([.cancelled 2, .ran 0, .ran 1], .interrupted .abandoned) ∧
    ¬ResumesInReverse "farmer-destructors" [.sync, .sync] [] [.pending] .abandoned := by
  have forwards : (registeredKinds "farmer-destructors" [.sync, .sync, .async]).asyncDrop
      [.pending] = .ok ([.cancelled 2, .ran 0, .ran 1], .interrupted .abandoned) := rfl
  refine ⟨rfl, forwards, fun reversed => ?_⟩
  have : (registeredKinds "farmer-destructors" [.sync, .sync, .async]).asyncDrop [.pending] =
    .ok ([.cancelled 2, .ran 1, .ran 0], .interrupted .abandoned) := reversed
  rw [forwards] at this
  simp at this

end DestructorSet

end SubspaceSdk
