import SubspaceSdk.Farmer.SlotOwners

/-! One farmer at a time.  Where every farmer is gone before the next one is built, a farmer that is
gone leaves both slots empty, however it ended, and no callback of it meets an empty slot. -/

namespace SubspaceSdk

open ProofKit

namespace Slots

variable {Reader Sector R : Type} {api : ReadersAndPieces Reader Sector R}
variable {s t : Slots Reader Sector R} {a : Action Reader Sector} {as : List (Action Reader Sector)}

def Action.isBuild : Action Reader Sector → Bool
  | .build _ => true
  | _ => false

/-- A farmer is built only where all farmers before it are gone. -/
def Alone (_ : List (Action Reader Sector)) (s : Slots Reader Sector R)
    (a : Action Reader Sector) : Prop :=
  a.isBuild = true → s.farmers.all (·.isGone) = true

instance (as : List (Action Reader Sector)) (s : Slots Reader Sector R)
    (a : Action Reader Sector) : Decidable (Alone as s a) :=
  inferInstanceAs (Decidable (_ → _))

/-- Only the newest farmer may be there. -/
def OnlyNewest (s : Slots Reader Sector R) : Prop :=
  ∀ (id : Nat) (f : Farmer Reader Sector), s.farmers[id]? = some f → f.isGone = false →
    id + 1 = s.farmers.length

theorem OnlyNewest.step (newest : OnlyNewest s) (alone : Alone as s a) (step : Step api s a t) :
    OnlyNewest t := by
  cases own : a.farmer? with
  | none =>
    cases step with
    | build singleDiskFarms =>
      intro id f there left
      rcases Nat.lt_trichotomy id s.farmers.length with before | rfl | after
      · rw [List.getElem?_append_left before] at there
        have gone := List.all_eq_true.mp (alone rfl) f (List.mem_of_getElem? there)
        rw [gone] at left
        cases left
      · simp
      · rw [List.getElem?_eq_none (by simp; omega)] at there
        cases there
    | _ => cases own
  | some id =>
    rcases step.farmers own with same | ⟨f, f', here, left, farmers⟩
    · unfold OnlyNewest
      rwa [same]
    · intro other g there stays
      rw [farmers, List.length_set]
      by_cases same : other = id
      · exact same ▸ newest id f here left
      · rw [step.other own same] at there
        exact newest other g there stays

/-- A farmer that is alone finds the slots empty. -/
theorem findsEmpty_of_onlyNewest (newest : OnlyNewest s) (owned : Owned s) :
    FindsEmpty as s a := by
  intro installs
  unfold installsPieceCache at installs
  split at installs
  · rename_i id _
    split at installs
    · rename_i f here
      split at installs
      · rename_i todo at'
        cases cache : s.farmerPieceCache with
        | none => rfl
        | some other =>
          obtain ⟨g, there, mem⟩ := (owned.owner .farmerPieceCache other).mp cache
          have first := newest id f here (by simp [Farmer.isGone, at'])
          have second := newest other g there (Farmer.isGone_of_pending mem)
          obtain rfl : other = id := by omega
          rw [here] at there
          cases there
          exact absurd mem ((owned.registered other f here).fresh at' rfl)
      · cases installs
    · cases installs
  · cases installs

theorem run_alone (run : (system api).RunIf Alone s as t) (newest : OnlyNewest s)
    (owned : Owned s) : OnlyNewest t ∧ Owned t ∧ t.panics = s.panics := by
  refine run.invariant (I := fun _ t => OnlyNewest t ∧ Owned t ∧ t.panics = s.panics)
    ⟨newest, owned, rfl⟩ ?_
  rintro as t a u ⟨newest, owned, same⟩ alone hnext
  have step := step_of_next hnext
  have empty : FindsEmpty as t a := findsEmpty_of_onlyNewest newest owned
  exact ⟨newest.step alone step, owned.step empty step, (owned.panics step).trans same⟩

/-- Both slots are empty. -/
def Empty (s : Slots Reader Sector R) : Prop :=
  s.farmerPieceCache = none ∧ s.farmerReadersAndPieces = none

theorem owner_eq_none (all : ∀ slot, s.owner slot = none) : Empty s :=
  ⟨all .farmerPieceCache, by simpa [Slots.owner] using all .farmerReadersAndPieces⟩

/-- The newest farmer is gone, or there is none. -/
def NewestGone (s : Slots Reader Sector R) : Prop :=
  ∀ f, s.farmers.getLast? = some f → f.isGone = true

theorem Owned.empty (owned : Owned s) (newest : OnlyNewest s) (gone : NewestGone s) : Empty s := by
  refine owner_eq_none fun slot => Option.eq_none_iff_forall_ne_some.mpr fun id filled => ?_
  obtain ⟨f, here, mem⟩ := (owned.owner slot id).mp filled
  have left := Farmer.isGone_of_pending mem
  have last : s.farmers.getLast? = some f := by
    rw [List.getLast?_eq_getElem?, ← newest id f here left]
    exact here
  rw [gone f last] at left
  cases left

theorem run_tearDown_empty {id : Nat} {f : Farmer Reader Sector} {how : Ending}
    {todo : List FarmerDestructor} (owned : Owned s) (newest : OnlyNewest s)
    (here : s.farmers[id]? = some f) (at' : f.phase = .tearingDown how todo) :
    ∃ t, (system api).RunIf Alone s (List.replicate (todo.length + 1) (.tearDown id)) t ∧
      Empty t := by
  obtain ⟨t, g, run, farmers, gone⟩ := run_tearDown api here at'
  have noBuild : ∀ a ∈ List.replicate (todo.length + 1) (.tearDown id : Action Reader Sector),
      a.isBuild = false := fun a mem => (List.eq_of_mem_replicate mem) ▸ rfl
  have alone : (system api).RunIf Alone s _ t := (run.and_of_forall noBuild).mono
    fun _ _ _ no builds => absurd builds (by simp [no.2])
  obtain ⟨newest', owned', _⟩ := run_alone alone newest owned
  refine ⟨t, alone, owned'.empty newest' fun last is => ?_⟩
  have size := newest id f here (by simp [Farmer.isGone, at'])
  rw [List.getLast?_eq_getElem?, farmers, List.length_set, ← size, Nat.add_sub_cancel,
    List.getElem?_set_self (by omega)] at is
  cases is
  simp [Farmer.isGone, gone]

/-- With one farmer at a time, in every run: both slots are empty whenever the newest farmer is
gone, and one that is being torn down gets there; a registered callback finds the piece index, has a
`u8` for its farm and runs through, and none has panicked. -/
theorem run_leavesNoSlot (run : (system api).RunIf Alone {} as s) :
    (NewestGone s → Empty s) ∧
    (∀ (id : Nat) (f : Farmer Reader Sector) (how : Ending) (todo : List FarmerDestructor),
      s.farmers[id]? = some f → f.phase = .tearingDown how todo →
      ∃ t, (system api).RunIf Alone s (List.replicate (todo.length + 1) (.tearDown id)) t ∧
        Empty t) ∧
    (∀ (id : Nat) (f : Farmer Reader Sector) (i : Nat), s.farmers[id]? = some f →
      i ∈ f.handlers → (tryIntoU8 i).isSome = true ∧ s.farmerReadersAndPieces.isSome = true ∧
        ∀ plottedSector old, ∃ r, handlerOnSectorPlotted api plottedSector old i
          (s.farmerReadersAndPieces.map (·.2)) = .ok (some r)) ∧
    s.panics = [] := by
  obtain ⟨newest, owned, panics⟩ := run_alone run (by simp [OnlyNewest]) owned_start
  refine ⟨owned.empty newest, ?_, ?_, panics⟩
  · intro id f how todo here at'
    exact run_tearDown_empty owned newest here at'
  · intro id f i here mem
    obtain ⟨small, r, readers⟩ := owned.callback here mem
    refine ⟨by simp [tryIntoU8_of_lt small], by simp [readers], fun plottedSector old => ?_⟩
    rw [readers]
    exact handlerOnSectorPlotted_of_lt api plottedSector old small r

/-- A build that fails at the thread pools, and one that succeeds, is called back and closed. -/
def failedThenClosed : List (Action Unit Nat) :=
  .build [⟨(), []⟩] :: List.replicate 3 (.buildStep 0 (.ok ())) ++
    .buildStep 0 (.error "no threads") :: List.replicate 2 (.tearDown 0) ++
    .build [⟨(), [.ok 7, .error "bad sector"]⟩] :: List.replicate 12 (.buildStep 1 (.ok ())) ++
    [.sectorPlotted 1 0 8 (some 7), .close 1] ++ List.replicate 7 (.tearDown 1)

theorem run_leavesNoSlot_failedThenClosed : ∃ s : Slots Unit Nat (List (UInt8 × Nat)),
    (system sectorList).RunIf Alone {} failedThenClosed s ∧ Empty s ∧ s.panics = [] := by
  obtain ⟨s, done, gone⟩ : ∃ s : Slots Unit Nat (List (UInt8 × Nat)),
      (system sectorList).exec Alone [] {} failedThenClosed = some s ∧
        s.farmers.getLast?.all (·.isGone) = true := ⟨_, rfl, rfl⟩
  have run := System.RunIf.of_exec done
  obtain ⟨empty, _, _, panics⟩ := run_leavesNoSlot run
  exact ⟨s, run, empty fun f last => by rwa [last] at gone, panics⟩

end Slots

end SubspaceSdk
