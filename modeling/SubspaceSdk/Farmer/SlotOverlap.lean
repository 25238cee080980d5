import SubspaceSdk.Farmer.SlotOwners

/-! Farmers that are there at the same time.  Nothing in `Config::build` rejects a second farmer,
and the destructors of a farmer clear the slots whatever they hold.  Farmers leave each other's
slots alone where each finds the slot of its piece cache empty when it gets there; a farmer that
fills it over another's loses it to the other's destructor. -/

namespace SubspaceSdk

open ProofKit

namespace Slots

variable {Reader Sector R : Type} {api : ReadersAndPieces Reader Sector R}
variable {s t : Slots Reader Sector R} {a : Action Reader Sector} {as : List (Action Reader Sector)}

instance (as : List (Action Reader Sector)) (s : Slots Reader Sector R)
    (a : Action Reader Sector) : Decidable (FindsEmpty as s a) :=
  inferInstanceAs (Decidable (_ → _))

/-- What the slots hold that was not put there by farmer `id`. -/
def without (s : Slots Reader Sector R) (id : Nat) : Option Nat × Option (Nat × R) :=
  (s.farmerPieceCache.filter (· ≠ id), s.farmerReadersAndPieces.filter (·.1 ≠ id))

/-- A destructor that clears a slot of its own farmer is not seen by the others. -/
theorem without_clear {id : Nat} {destructor : FarmerDestructor}
    (own : ∀ slot, destructor = .sync slot → s.owner slot = some id) :
    (s.clear destructor).without id = s.without id := by
  rcases destructor with (_ | _) | task | i
  · have cache : s.farmerPieceCache = some id := own .farmerPieceCache rfl
    simp [without, clear, cache, Option.filter_some]
  · have readers := own .farmerReadersAndPieces rfl
    simp only [owner, Option.map_eq_some_iff] at readers
    obtain ⟨⟨_, r⟩, held, rfl⟩ := readers
    simp [without, clear, held, Option.filter_some]
  · rfl
  · rfl

/-- No step of a farmer is seen by the others. -/
theorem Owned.without {id : Nat} (owned : Owned s) (own : a.farmer? = some id)
    (empty : FindsEmpty as s a) (step : Step api s a t) : t.without id = s.without id := by
  cases step with
  | build => cases own
  | installedPieceCache here at' =>
    cases own
    have none := empty (installsPieceCache_buildStep _ here at')
    simp [Slots.without, setFarmer, none]
  | installedReaders here at' =>
    cases own
    simp [Slots.without, setFarmer, owned.readers_empty here at']
  | called here mem =>
    cases own
    obtain ⟨_, before, readers⟩ := owned.callback here mem
    obtain ⟨after, called⟩ := owned.called api here mem _ _
    rw [called]
    simp [Slots.without, readers, Option.filter_some]
  | tornDown here at' =>
    cases own
    refine without_clear fun slot is => ?_
    subst is
    have left : (.sync slot : FarmerDestructor) ∈ _ :=
      (Farmer.pending_tearingDown at').symm ▸ List.mem_cons_self
    have filled := (owned.pending here).mpr left
    cases slot <;> exact filled
  | advanced | failed | finished | closed | dropped | left =>
    cases own
    rfl

/-- A farmer that is built owns both slots. -/
theorem Owned.built {id : Nat} {f : Farmer Reader Sector} (owned : Owned s)
    (here : s.farmers[id]? = some f) (built : f.isBuilt = true) :
    s.farmerPieceCache = some id ∧ ∃ r, s.farmerReadersAndPieces = some (id, r) := by
  have at' := Farmer.isBuilt_iff.mp built
  have registered := owned.registered id f here
  have all : ∀ slot, .sync slot ∈ f.pending := by
    rw [at'] at registered
    cases registered with
    | built destructors =>
      rw [Farmer.pending_built at', destructors]
      intro slot
      cases slot <;> simp [farmerDestructors]
  have filled : ∀ slot, s.owner slot = some id := fun slot => (owned.pending here).mpr (all slot)
  refine ⟨filled .farmerPieceCache, ?_⟩
  have readers := filled .farmerReadersAndPieces
  simp only [Slots.owner, Option.map_eq_some_iff] at readers
  obtain ⟨⟨_, r⟩, held, rfl⟩ := readers
  exact ⟨r, held⟩

/-- The steps of one farmer lead to a state in which it is gone. -/
def Ends (api : ReadersAndPieces Reader Sector R) (s : Slots Reader Sector R) (id : Nat) : Prop :=
  ∃ as t g, (system api).Run s as t ∧ (∀ a ∈ as, a.farmer? = some id) ∧
    t.farmers[id]? = some g ∧ g.isGone = true

theorem clear_farmerPieceCache (destructor : FarmerDestructor)
    (empty : s.farmerPieceCache = none) : (s.clear destructor).farmerPieceCache = none := by
  rcases destructor with (_ | _) | task | i
  · rfl
  · exact empty
  · exact empty
  · exact empty

/-- A farmer has the destructor of the piece cache left, or the slot is empty. -/
def Clears (s : Slots Reader Sector R) (id : Nat) : Prop :=
  ∃ f : Farmer Reader Sector, s.farmers[id]? = some f ∧
    (.sync .farmerPieceCache ∈ f.pending ∨ s.farmerPieceCache = none)

theorem Clears.step {id : Nat} (clears : Clears s id) (own : a.farmer? = some id)
    (step : Step api s a t) : Clears t id := by
  obtain ⟨f, here, either⟩ := clears
  have inside : id < s.farmers.length := (List.getElem?_eq_some_iff.mp here).1
  have own_set : ∀ f' : Farmer Reader Sector, (s.farmers.set id f')[id]? = some f' :=
    fun f' => List.getElem?_set_self inside
  cases step with
  | build => cases own
  | advanced here' at' | installedReaders here' at' =>
    cases own
    cases here.symm.trans here'
    exact ⟨_, own_set _, either.imp_left fun mem => (Farmer.mem_pending_advance at').mpr (.inr mem)⟩
  | installedPieceCache here' at' =>
    cases own
    exact ⟨_, own_set _, .inl ((Farmer.mem_pending_advance at').mpr (.inl rfl))⟩
  | failed here' at' | finished here' at' =>
    cases own
    cases here.symm.trans here'
    rw [Farmer.pending_building at'] at either
    exact ⟨_, own_set _, either⟩
  | closed here' at' | dropped here' at' =>
    cases own
    cases here.symm.trans here'
    rw [Farmer.pending_built at'] at either
    exact ⟨_, own_set _, either⟩
  | called here' mem =>
    cases own
    refine ⟨f, ?_, ?_⟩
    · rw [sectorPlotted_farmers]
      exact here
    · rwa [sectorPlotted_farmerPieceCache]
  | @tornDown _ _ how destructor rest here' at' =>
    cases own
    cases here.symm.trans here'
    refine ⟨f.tornDown how destructor rest, ?_, ?_⟩
    · rw [clear_farmers]
      exact own_set _
    · by_cases cache : destructor = .sync .farmerPieceCache
      · subst cache
        exact .inr rfl
      · rw [Farmer.pending_tearingDown at', List.mem_cons] at either
        rcases either with (same | later) | empty
        · exact absurd same.symm cache
        · exact .inl later
        · exact .inr (clear_farmerPieceCache destructor empty)
  | left here' at' =>
    cases own
    cases here.symm.trans here'
    rw [Farmer.pending_tearingDown at'] at either
    exact ⟨_, own_set _, either⟩

end Slots

end SubspaceSdk
