import SubspaceSdk.Farmer.SlotSteps

/-! Who owns the slots.  Where a farmer finds the piece cache's slot empty when it installs its own,
a slot is at every moment filled by the one farmer that has the destructor which will clear it. -/

namespace SubspaceSdk

open ProofKit

namespace Slots

variable {Reader Sector R : Type} {api : ReadersAndPieces Reader Sector R}
variable {s t : Slots Reader Sector R} {a : Action Reader Sector}

/-- The farmer that filled a slot. -/
def owner (s : Slots Reader Sector R) : SharedSlot → Option Nat
  | .farmerPieceCache => s.farmerPieceCache
  | .farmerReadersAndPieces => s.farmerReadersAndPieces.map (·.1)

/-- Every slot is owned by the farmer whose destructors will clear it, and by no other. -/
structure Owned (s : Slots Reader Sector R) : Prop where
  registered : ∀ (id : Nat) (f : Farmer Reader Sector), s.farmers[id]? = some f →
    f.Registered f.phase
  fits : ∀ (id : Nat) (f : Farmer Reader Sector), s.farmers[id]? = some f →
    .sync .farmerReadersAndPieces ∈ f.pending → f.farms ≤ 256
  owner : ∀ slot id, s.owner slot = some id ↔
    ∃ f : Farmer Reader Sector, s.farmers[id]? = some f ∧ .sync slot ∈ f.pending

/-- A step of one farmer, which may fill or clear slots of its own. -/
theorem Owned.set {id : Nat} {f f' : Farmer Reader Sector} (owned : Owned s)
    (here : s.farmers[id]? = some f) (farmers : t.farmers = s.farmers.set id f')
    (registered : f'.Registered f'.phase)
    (fits : .sync .farmerReadersAndPieces ∈ f'.pending → f'.farms ≤ 256)
    (own : ∀ slot, t.owner slot = some id ↔ .sync slot ∈ f'.pending)
    (others : ∀ slot other, other ≠ id → (t.owner slot = some other ↔ s.owner slot = some other)) :
    Owned t := by
  have inside : id < s.farmers.length := (List.getElem?_eq_some_iff.mp here).1
  have at_id : t.farmers[id]? = some f' := by rw [farmers, List.getElem?_set_self inside]
  have elsewhere : ∀ other, other ≠ id → t.farmers[other]? = s.farmers[other]? := by
    intro other ne
    rw [farmers, List.getElem?_set_ne ne.symm]
  refine ⟨?_, ?_, ?_⟩
  · intro other g there
    by_cases same : other = id
    · subst same
      rw [at_id] at there
      cases there
      exact registered
    · exact owned.registered other g (elsewhere other same ▸ there)
  · intro other g there
    by_cases same : other = id
    · subst same
      rw [at_id] at there
      cases there
      exact fits
    · exact owned.fits other g (elsewhere other same ▸ there)
  · intro slot other
    by_cases same : other = id
    · subst same
      rw [own slot, at_id]
      simp
    · rw [others slot other same, owned.owner slot other, elsewhere other same]

/-- A step of one farmer that leaves alone the slots and what will clear them. -/
theorem Owned.set_same {id : Nat} {f f' : Farmer Reader Sector} (owned : Owned s)
    (here : s.farmers[id]? = some f) (registered : f'.Registered f'.phase)
    (farms : f'.farms = f.farms)
    (pending : ∀ slot, .sync slot ∈ f'.pending ↔ .sync slot ∈ f.pending) :
    Owned (s.setFarmer id f') := by
  refine owned.set here rfl registered ?_ ?_ fun _ _ _ => Iff.rfl
  · intro mem
    rw [farms]
    exact owned.fits id f here ((pending _).mp mem)
  · intro slot
    have same : (s.setFarmer id f').owner slot = s.owner slot := by cases slot <;> rfl
    rw [same, owned.owner slot id, here, pending slot]
    simp

theorem Owned.pending {id : Nat} {f : Farmer Reader Sector} {slot : SharedSlot} (owned : Owned s)
    (here : s.farmers[id]? = some f) : s.owner slot = some id ↔ .sync slot ∈ f.pending := by
  rw [owned.owner slot id, here]
  simp

/-- A registered callback finds its own farmer's piece index, and a `u8` for its farm. -/
theorem Owned.callback {id i : Nat} {f : Farmer Reader Sector} (owned : Owned s)
    (here : s.farmers[id]? = some f) (mem : i ∈ f.handlers) :
    i < 256 ∧ ∃ r, s.farmerReadersAndPieces = some (id, r) := by
  obtain ⟨inside, installed⟩ := (owned.registered id f here).handler mem
  refine ⟨Nat.lt_of_lt_of_le inside (owned.fits id f here installed), ?_⟩
  have filled : s.owner .farmerReadersAndPieces = some id := (owned.pending here).mpr installed
  simp only [Slots.owner, Option.map_eq_some_iff] at filled
  obtain ⟨⟨_, r⟩, readers, rfl⟩ := filled
  exact ⟨r, readers⟩

variable (api) in
/-- What such a callback does: it records its sector in that index. -/
theorem Owned.called {id i : Nat} {f : Farmer Reader Sector} (owned : Owned s)
    (here : s.farmers[id]? = some f) (mem : i ∈ f.handlers) (plottedSector : Sector)
    (old : Option Sector) : ∃ r, s.sectorPlotted api i plottedSector old =
      { s with farmerReadersAndPieces := some (id, r) } := by
  obtain ⟨small, r, readers⟩ := owned.callback here mem
  obtain ⟨after, handled⟩ := handlerOnSectorPlotted_of_lt api plottedSector old small r
  exact ⟨after, by simp [sectorPlotted, readers, handled]⟩

/-! ### Runs in which a farmer finds the slot of its piece cache empty -/

/-- The step installs a piece cache. -/
def installsPieceCache (s : Slots Reader Sector R) : Action Reader Sector → Bool
  | .buildStep id _ =>
    match s.farmers[id]? with
    | some f =>
      match f.phase with
      | .building (.installPieceCache :: _) => true
      | _ => false
    | none => false
  | _ => false

theorem installsPieceCache_buildStep {id : Nat} {f : Farmer Reader Sector} {todo : List BuildStep}
    (outcome : Except String Unit) (here : s.farmers[id]? = some f)
    (at' : f.phase = .building (.installPieceCache :: todo)) :
    s.installsPieceCache (.buildStep id outcome) = true := by
  simp [installsPieceCache, here, at']

/-- A piece cache is installed into an empty slot only. -/
def FindsEmpty (_ : List (Action Reader Sector)) (s : Slots Reader Sector R)
    (a : Action Reader Sector) : Prop :=
  s.installsPieceCache a = true → s.farmerPieceCache = none

theorem Owned.build (owned : Owned s) (singleDiskFarms : List (SingleDiskFarm Reader Sector)) :
    Owned { s with farmers := s.farmers ++ [.new singleDiskFarms] } := by
  have found : ∀ (id : Nat) (f : Farmer Reader Sector),
      (s.farmers ++ [.new singleDiskFarms])[id]? = some f ↔
        s.farmers[id]? = some f ∨ id = s.farmers.length ∧ f = .new singleDiskFarms := by
    intro id f
    rcases Nat.lt_trichotomy id s.farmers.length with before | rfl | after
    · rw [List.getElem?_append_left before]
      simp [Nat.ne_of_lt before]
    · simp [eq_comm]
    · rw [List.getElem?_eq_none (by simp; omega), List.getElem?_eq_none (by omega)]
      simp [Nat.ne_of_gt after]
  have nothing : (Farmer.new singleDiskFarms).pending = [] := rfl
  refine ⟨?_, ?_, ?_⟩
  · intro id f there
    rcases (found id f).mp there with before | ⟨_, rfl⟩
    · exact owned.registered id f before
    · exact Farmer.new_registered singleDiskFarms
  · intro id f there mem
    rcases (found id f).mp there with before | ⟨_, rfl⟩
    · exact owned.fits id f before mem
    · rw [nothing] at mem
      cases mem
  · intro slot id
    refine (owned.owner slot id).trans ⟨?_, ?_⟩
    · rintro ⟨f, there, mem⟩
      exact ⟨f, (found id f).mpr (.inl there), mem⟩
    · rintro ⟨f, there, mem⟩
      rcases (found id f).mp there with before | ⟨_, rfl⟩
      · exact ⟨f, before, mem⟩
      · rw [nothing] at mem
        cases mem

/-- The slot of the piece index is empty where a farmer installs its own: the farmer owns the other
slot by then, and whoever owns the one owns the other. -/
theorem Owned.readers_empty {id : Nat} {f : Farmer Reader Sector} {todo : List BuildStep}
    (owned : Owned s) (here : s.farmers[id]? = some f)
    (at' : f.phase = .building (.installReaders :: todo)) : s.farmerReadersAndPieces = none := by
  have registered := owned.registered id f here
  have cache : s.owner .farmerPieceCache = some id := by
    have installed : (.sync .farmerReadersAndPieces : FarmerDestructor) ∈
        (f.advance .installReaders todo).pending :=
      (Farmer.mem_pending_advance at').mpr (.inl rfl)
    have before := cache_of_readers (registered.advance at').pending_suffix installed
    exact (owned.pending here).mpr (((Farmer.mem_pending_advance at').mp before).resolve_left nofun)
  cases readers : s.owner .farmerReadersAndPieces with
  | none => simpa [Slots.owner] using readers
  | some other =>
    obtain ⟨g, there, mem⟩ := (owned.owner _ other).mp readers
    have both := cache_of_readers (owned.registered other g there).pending_suffix mem
    have same := ((owned.pending there).mpr both).symm.trans cache
    cases same
    rw [here] at there
    cases there
    exact absurd mem (registered.fresh at' rfl)

/-- A step that fills an empty slot, and registers what will clear it. -/
theorem Owned.installed {id : Nat} {f : Farmer Reader Sector} {step : BuildStep}
    {todo : List BuildStep} {slot : SharedSlot} (owned : Owned s) (here : s.farmers[id]? = some f)
    (at' : f.phase = .building (step :: todo)) (installs : step.destructor? = some (.sync slot))
    (fits : .sync .farmerReadersAndPieces ∈ (f.advance step todo).pending → f.farms ≤ 256)
    (farmers : t.farmers = s.farmers.set id (f.advance step todo)) (empty : s.owner slot = none)
    (filled : t.owner slot = some id)
    (others : ∀ other, other ≠ slot → t.owner other = s.owner other) : Owned t := by
  refine owned.set here farmers ((owned.registered id f here).advance at') fits ?_ ?_
  · intro other
    rw [Farmer.mem_pending_advance at', ← owned.pending here, installs]
    by_cases same : other = slot
    · subst same
      simp [filled]
    · rw [others other same]
      simp [Ne.symm same]
  · intro other id' ne
    by_cases same : other = slot
    · subst same
      simp [filled, empty, ne.symm]
    · rw [others other same]

theorem Owned.installedPieceCache {id : Nat} {f : Farmer Reader Sector} {todo : List BuildStep}
    (owned : Owned s) (here : s.farmers[id]? = some f)
    (at' : f.phase = .building (.installPieceCache :: todo)) (empty : s.farmerPieceCache = none) :
    Owned { s.setFarmer id (f.advance .installPieceCache todo) with
      farmerPieceCache := some id } := by
  refine owned.installed here at' rfl ?_ rfl empty rfl ?_
  · intro mem
    exact owned.fits id f here (((Farmer.mem_pending_advance at').mp mem).resolve_left nofun)
  · intro slot ne
    cases slot with
    | farmerPieceCache => exact absurd rfl ne
    | farmerReadersAndPieces => rfl

theorem Owned.installedReaders {id : Nat} {f : Farmer Reader Sector} {todo : List BuildStep}
    {readersAndPieces : R} (owned : Owned s) (here : s.farmers[id]? = some f)
    (at' : f.phase = .building (.installReaders :: todo))
    (created : createReadersAndPieces api f.singleDiskFarms = .ok readersAndPieces) :
    Owned { s.setFarmer id (f.advance .installReaders todo) with
      farmerReadersAndPieces := some (id, readersAndPieces) } := by
  have empty : s.owner .farmerReadersAndPieces = none := by
    rw [Slots.owner, owned.readers_empty here at']
    rfl
  refine owned.installed here at' rfl ?_ rfl empty rfl ?_
  · exact fun _ => (createReadersAndPieces_ok_iff api _).mp ⟨_, created⟩
  · intro slot ne
    cases slot with
    | farmerPieceCache => rfl
    | farmerReadersAndPieces => exact absurd rfl ne

theorem owner_clear (s : Slots Reader Sector R) (destructor : FarmerDestructor)
    (slot : SharedSlot) :
    (s.clear destructor).owner slot = if destructor = .sync slot then none else s.owner slot := by
  rcases destructor with (_ | _) | task | i <;> cases slot <;> simp [clear, Slots.owner]

theorem Owned.tornDown {id : Nat} {f : Farmer Reader Sector} {how : Ending}
    {destructor : FarmerDestructor} {rest : List FarmerDestructor} (owned : Owned s)
    (here : s.farmers[id]? = some f) (at' : f.phase = .tearingDown how (destructor :: rest)) :
    Owned ((s.setFarmer id (f.tornDown how destructor rest)).clear destructor) := by
  have registered := owned.registered id f here
  have pending := Farmer.pending_tearingDown at'
  have later : (f.tornDown how destructor rest).pending = rest := rfl
  have nodup : (destructor :: rest).Nodup := pending ▸ registered.pending_nodup
  refine owned.set here (clear_farmers _ _) (registered.tornDown at') ?_ ?_ ?_
  · intro mem
    apply owned.fits id f here
    rw [pending]
    exact List.mem_cons_of_mem _ mem
  · intro slot
    rw [owner_clear, later]
    split
    · rename_i torn
      subst torn
      simpa using (List.nodup_cons.mp nodup).1
    · rename_i kept
      apply (owned.pending here).trans
      rw [pending, List.mem_cons]
      exact or_iff_right fun same => kept same.symm
  · intro slot other ne
    rw [owner_clear]
    split
    · rename_i torn
      subst torn
      have : s.owner slot = some id := by
        rw [owned.pending here, pending]
        exact List.mem_cons_self
      simp [this, ne.symm]
    · cases slot <;> rfl

theorem Owned.step {as : List (Action Reader Sector)} (owned : Owned s) (empty : FindsEmpty as s a)
    (step : Step api s a t) : Owned t := by
  cases step with
  | build singleDiskFarms => exact owned.build singleDiskFarms
  | @advanced id f step todo outcome here at' other =>
    refine owned.set_same here ((owned.registered id f here).advance at') rfl fun slot => ?_
    rw [Farmer.mem_pending_advance at']
    exact or_iff_right (other slot)
  | @failed id f step todo outcome error here at' fallible =>
    refine owned.set_same here ((owned.registered id f here).failed at' fallible) rfl fun slot => ?_
    rw [Farmer.pending_building at']
    rfl
  | @installedPieceCache id f todo outcome here at' =>
    exact owned.installedPieceCache here at' (empty (installsPieceCache_buildStep _ here at'))
  | installedReaders here at' created => exact owned.installedReaders here at' created
  | @finished id f outcome here at' =>
    refine owned.set_same here ((owned.registered id f here).finished at') rfl fun slot => ?_
    rw [Farmer.pending_building at']
    rfl
  | called here mem =>
    obtain ⟨r, after⟩ := owned.called api here mem _ _
    obtain ⟨_, before, readers⟩ := owned.callback here mem
    rw [after]
    refine ⟨owned.registered, owned.fits, fun slot other => ?_⟩
    rw [← owned.owner slot other]
    cases slot <;> simp [Slots.owner, readers]
  | @closed id f here at' =>
    refine owned.set_same here ((owned.registered id f here).ended at') rfl fun slot => ?_
    rw [Farmer.pending_built at']
    rfl
  | @dropped id f here at' =>
    refine owned.set_same here ((owned.registered id f here).ended at') rfl fun slot => ?_
    rw [Farmer.pending_built at']
    rfl
  | tornDown here at' => exact owned.tornDown here at'
  | @left id f how here at' =>
    refine owned.set_same here ((owned.registered id f here).left at') rfl fun slot => ?_
    rw [Farmer.pending_tearingDown at']
    rfl

theorem owned_start : Owned ({} : Slots Reader Sector R) :=
  ⟨by simp, by simp, fun slot id => by cases slot <;> simp [Slots.owner]⟩

theorem Owned.panics (owned : Owned s)
    (step : Step api s a t) : t.panics = s.panics := by
  cases step with
  | called here mem =>
    obtain ⟨r, after⟩ := owned.called api here mem _ _
    rw [after]
  | @tornDown id f how destructor rest here at' =>
    rcases destructor with (_ | _) | task | i <;> rfl
  | _ => rfl

end Slots

end SubspaceSdk
