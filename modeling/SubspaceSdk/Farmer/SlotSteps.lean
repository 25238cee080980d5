import SubspaceSdk.Farmer.Slots

/-! What a step does to a farmer and to the slots.  A farmer's phase says which destructors and
which callbacks it has: a callback is registered only between the moment its piece index is
installed and the moment that index is cleared. -/

namespace SubspaceSdk

open ProofKit

variable {Reader Sector R : Type}

namespace Farmer

variable {f : Farmer Reader Sector}

/-- The number of farms of a farmer. -/
def farms (f : Farmer Reader Sector) : Nat := f.singleDiskFarms.length

/-- A farmer's registrations, by its phase. -/
inductive Registered (f : Farmer Reader Sector) : FarmerPhase → Prop
  | building (done todo : List BuildStep) (steps : done ++ todo = buildSteps f.farms)
      (destructors : f.destructors = done.filterMap BuildStep.destructor?)
      (handlers : f.handlers = done.filterMap BuildStep.handler?) :
      Registered f (.building todo)
  | built (destructors : f.destructors = farmerDestructors f.farms)
      (handlers : f.handlers = List.range f.farms) : Registered f .built
  | tearingDown (how : Ending) (todo : List FarmerDestructor)
      (left : todo <:+ (farmerDestructors f.farms).reverse)
      (handlers : ∀ i ∈ f.handlers, .item i ∈ todo) : Registered f (.tearingDown how todo)
  | gone (how : Ending) (handlers : f.handlers = []) : Registered f (.gone how)

theorem Registered.pending_suffix (registered : Registered f f.phase) :
    f.pending <:+ (farmerDestructors f.farms).reverse := by
  unfold pending
  generalize f.phase = phase at registered
  cases registered with
  | building done todo steps destructors handlers =>
    rw [destructors]
    exact destructors_suffix steps
  | built destructors handlers => simp [destructors]
  | tearingDown how todo left handlers => exact left
  | gone how handlers => exact List.nil_suffix

theorem Registered.pending_nodup (registered : Registered f f.phase) : f.pending.Nodup :=
  registered.pending_suffix.sublist.nodup (List.nodup_reverse.mpr (farmerDestructors_nodup _))

/-- A registered callback has the index of a farm, and the piece index is still to be cleared. -/
theorem Registered.handler {i : Nat} (registered : Registered f f.phase) (mem : i ∈ f.handlers) :
    i < f.farms ∧ .sync .farmerReadersAndPieces ∈ f.pending := by
  unfold pending
  generalize f.phase = phase at registered
  cases registered with
  | building done todo steps destructors handlers =>
    rw [handlers] at mem
    refine ⟨?_, ?_⟩
    · have : i ∈ (buildSteps f.farms).filterMap BuildStep.handler? := by
        rw [← steps, List.filterMap_append]
        exact List.mem_append_left _ mem
      simpa [handlers_buildSteps] using this
    · rw [destructors]
      exact List.mem_reverse.mpr (installed_of_handler steps mem)
  | built destructors handlers =>
    rw [handlers] at mem
    rw [destructors]
    exact ⟨List.mem_range.mp mem, by simp [farmerDestructors]⟩
  | tearingDown how todo left handlers =>
    have item := handlers i mem
    exact ⟨lt_of_item left item, readers_of_item left item⟩
  | gone how handlers => simp [handlers] at mem

theorem new_registered (singleDiskFarms : List (SingleDiskFarm Reader Sector)) :
    Registered (new singleDiskFarms) (new singleDiskFarms).phase :=
  .building [] _ rfl rfl rfl

theorem Registered.advance {step : BuildStep} {todo : List BuildStep}
    (registered : Registered f f.phase) (at' : f.phase = .building (step :: todo)) :
    Registered (f.advance step todo) (f.advance step todo).phase := by
  rw [at'] at registered
  cases registered with
  | building done _ steps destructors handlers =>
    have split : (done ++ [step]) ++ todo = buildSteps f.farms := by simpa using steps
    refine .building (done ++ [step]) todo split ?_ ?_
    · simp only [Farmer.advance, destructors, List.filterMap_append]
      cases registers : step.destructor? <;> simp [registers]
    · simp only [Farmer.advance, handlers, List.filterMap_append]
      cases registers : step.handler? <;> simp [registers]

/-- A build that fails has not registered a callback. -/
theorem Registered.failed {step : BuildStep} {todo : List BuildStep} {error : BuildError}
    (registered : Registered f f.phase) (at' : f.phase = .building (step :: todo))
    (fallible : step.fallible = true) :
    Registered (f.end' (.failed error)) (f.end' (.failed error)).phase := by
  rw [at'] at registered
  cases registered with
  | building done _ steps destructors handlers =>
    refine .tearingDown _ _ ?_ ?_
    · rw [destructors]
      exact destructors_suffix steps
    · have none : (f.end' (.failed error)).handlers = [] :=
        handlers.trans (no_handlers_of_fallible steps fallible)
      simp [none]

theorem Registered.finished (registered : Registered f f.phase) (at' : f.phase = .building []) :
    Registered { f with phase := .built } .built := by
  rw [at'] at registered
  cases registered with
  | building done _ steps destructors handlers =>
    rw [List.append_nil] at steps
    subst steps
    exact .built (destructors.trans (destructors_buildSteps _))
      (handlers.trans (handlers_buildSteps _))

theorem Registered.ended {how : Ending} (registered : Registered f f.phase)
    (at' : f.phase = .built) : Registered (f.end' how) (f.end' how).phase := by
  rw [at'] at registered
  cases registered with
  | built destructors handlers =>
    refine .tearingDown how _ ?_ ?_
    · rw [destructors]
      exact List.suffix_refl _
    · intro i mem
      have listed : i ∈ List.range f.farms := handlers ▸ mem
      rw [destructors]
      simpa [farmerDestructors] using listed

theorem Registered.tornDown {how : Ending} {destructor : FarmerDestructor}
    {rest : List FarmerDestructor} (registered : Registered f f.phase)
    (at' : f.phase = .tearingDown how (destructor :: rest)) :
    Registered (f.tornDown how destructor rest) (f.tornDown how destructor rest).phase := by
  rw [at'] at registered
  cases registered with
  | tearingDown _ _ left handlers =>
    refine .tearingDown how rest ((List.suffix_cons _ _).trans left) fun i mem => ?_
    have kept : i ∈ f.handlers ∧ destructor ≠ .item i := by
      cases destructor with
      | item other =>
        have ⟨mem, ne⟩ := List.mem_filter.mp mem
        exact ⟨mem, fun same => of_decide_eq_true ne (Registration.item.inj same).symm⟩
      | sync slot => exact ⟨mem, by simp⟩
      | async task => exact ⟨mem, by simp⟩
    rcases List.mem_cons.mp (handlers i kept.1) with same | later
    · exact absurd same.symm kept.2
    · exact later

theorem Registered.left {how : Ending} (registered : Registered f f.phase)
    (at' : f.phase = .tearingDown how []) :
    Registered { f with phase := .gone how } (.gone how) := by
  rw [at'] at registered
  cases registered with
  | tearingDown _ _ _ handlers =>
    refine .gone how (List.eq_nil_iff_forall_not_mem.mpr fun i mem => ?_)
    cases handlers i mem

/-! ### What a step does to the destructors that are left -/

theorem pending_building {todo : List BuildStep} (at' : f.phase = .building todo) :
    f.pending = f.destructors.reverse := by
  simp only [pending, at']

theorem mem_pending_advance {step : BuildStep} {todo todo' : List BuildStep}
    {destructor : FarmerDestructor} (at' : f.phase = .building todo') :
    destructor ∈ (f.advance step todo).pending ↔
      step.destructor? = some destructor ∨ destructor ∈ f.pending := by
  rw [pending_building at', pending_building (f := f.advance step todo) rfl]
  simp [advance, or_comm]

/-- A step that installs into a slot is the first to register the destructor that clears it. -/
theorem Registered.fresh {step : BuildStep} {todo : List BuildStep} {destructor : FarmerDestructor}
    (registered : Registered f f.phase) (at' : f.phase = .building (step :: todo))
    (registers : step.destructor? = some destructor) : destructor ∉ f.pending := by
  rw [pending_building at']
  rw [at'] at registered
  cases registered with
  | building done _ steps destructors handlers =>
    rw [List.mem_reverse, destructors]
    exact destructor_fresh steps registers

theorem pending_tearingDown {how : Ending} {todo : List FarmerDestructor}
    (at' : f.phase = .tearingDown how todo) : f.pending = todo := by
  simp only [pending, at']

theorem pending_built (at' : f.phase = .built) : f.pending = f.destructors.reverse := by
  simp only [pending, at']

/-- A farmer with a destructor left is not gone. -/
theorem isGone_of_pending {destructor : FarmerDestructor} (mem : destructor ∈ f.pending) :
    f.isGone = false := by
  unfold pending at mem
  unfold isGone
  split <;> simp_all

theorem isBuilt_iff : f.isBuilt = true ↔ f.phase = .built := by
  unfold isBuilt
  split
  · rename_i at'
    simp [at']
  · rename_i other
    simpa using other

end Farmer

/-! ### Steps -/

namespace Slots

variable {api : ReadersAndPieces Reader Sector R} {s t : Slots Reader Sector R}
variable {a : Action Reader Sector}

variable (api s) in
/-- What a step can do. -/
inductive Step : Action Reader Sector → Slots Reader Sector R → Prop
  | build (singleDiskFarms : List (SingleDiskFarm Reader Sector)) :
      Step (.build singleDiskFarms) { s with farmers := s.farmers ++ [.new singleDiskFarms] }
  | advanced {id : Nat} {f : Farmer Reader Sector} {step : BuildStep} {todo : List BuildStep}
      {outcome : Except String Unit} (here : s.farmers[id]? = some f)
      (at' : f.phase = .building (step :: todo))
      (other : ∀ slot, step.destructor? ≠ some (.sync slot)) :
      Step (.buildStep id outcome) (s.setFarmer id (f.advance step todo))
  | failed {id : Nat} {f : Farmer Reader Sector} {step : BuildStep} {todo : List BuildStep}
      {outcome : Except String Unit} {error : BuildError} (here : s.farmers[id]? = some f)
      (at' : f.phase = .building (step :: todo)) (fallible : step.fallible = true) :
      Step (.buildStep id outcome) (s.setFarmer id (f.end' (.failed error)))
  | installedPieceCache {id : Nat} {f : Farmer Reader Sector} {todo : List BuildStep}
      {outcome : Except String Unit} (here : s.farmers[id]? = some f)
      (at' : f.phase = .building (.installPieceCache :: todo)) :
      Step (.buildStep id outcome)
        { s.setFarmer id (f.advance .installPieceCache todo) with farmerPieceCache := some id }
  | installedReaders {id : Nat} {f : Farmer Reader Sector} {todo : List BuildStep}
      {outcome : Except String Unit} {readersAndPieces : R} (here : s.farmers[id]? = some f)
      (at' : f.phase = .building (.installReaders :: todo))
      (created : createReadersAndPieces api f.singleDiskFarms = .ok readersAndPieces) :
      Step (.buildStep id outcome) { s.setFarmer id (f.advance .installReaders todo) with
        farmerReadersAndPieces := some (id, readersAndPieces) }
  | finished {id : Nat} {f : Farmer Reader Sector} {outcome : Except String Unit}
      (here : s.farmers[id]? = some f) (at' : f.phase = .building []) :
      Step (.buildStep id outcome) (s.setFarmer id { f with phase := .built })
  | called {id i : Nat} {f : Farmer Reader Sector} {plottedSector : Sector} {old : Option Sector}
      (here : s.farmers[id]? = some f) (mem : i ∈ f.handlers) :
      Step (.sectorPlotted id i plottedSector old) (s.sectorPlotted api i plottedSector old)
  | closed {id : Nat} {f : Farmer Reader Sector} (here : s.farmers[id]? = some f)
      (at' : f.phase = .built) : Step (.close id) (s.setFarmer id (f.end' .closed))
  | dropped {id : Nat} {f : Farmer Reader Sector} (here : s.farmers[id]? = some f)
      (at' : f.phase = .built) : Step (.drop id) (s.setFarmer id (f.end' .dropped))
  | tornDown {id : Nat} {f : Farmer Reader Sector} {how : Ending} {destructor : FarmerDestructor}
      {rest : List FarmerDestructor} (here : s.farmers[id]? = some f)
      (at' : f.phase = .tearingDown how (destructor :: rest)) :
      Step (.tearDown id) ((s.setFarmer id (f.tornDown how destructor rest)).clear destructor)
  | left {id : Nat} {f : Farmer Reader Sector} {how : Ending} (here : s.farmers[id]? = some f)
      (at' : f.phase = .tearingDown how []) :
      Step (.tearDown id) (s.setFarmer id { f with phase := .gone how })

theorem step_of_buildStep {id : Nat} {f : Farmer Reader Sector} {step : BuildStep}
    {todo : List BuildStep} {outcome : Except String Unit} (here : s.farmers[id]? = some f)
    (at' : f.phase = .building (step :: todo)) :
    Step api s (.buildStep id outcome) (s.buildStep api id f step todo outcome) := by
  unfold buildStep
  split
  · split
    · exact .failed here at' rfl
    · exact .advanced here at' (by simp [BuildStep.destructor?])
  · exact .failed here at' rfl
  · exact .failed here at' rfl
  · exact .failed here at' rfl
  · exact .installedPieceCache here at'
  · split
    · rename_i created
      exact .installedReaders here at' created
    · exact .failed here at' rfl
  · refine .advanced here at' ?_
    cases step <;> simp_all [BuildStep.destructor?]

theorem step_of_next (h : (system api).next s a = some t) : Step api s a t := by
  cases a with
  | build singleDiskFarms =>
    cases h
    exact .build singleDiskFarms
  | buildStep id outcome =>
    simp only [system, next] at h
    split at h
    · cases h
    · rename_i f here
      split at h
      · rename_i step todo at'
        cases h
        exact step_of_buildStep here at'
      · rename_i at'
        cases h
        exact .finished here at'
      · cases h
  | sectorPlotted id i plottedSector old =>
    simp only [system, next] at h
    split at h
    · cases h
    · rename_i f here
      split at h
      · rename_i mem
        cases h
        exact .called here mem
      · cases h
  | close id =>
    simp only [system, next] at h
    split at h
    · cases h
    · rename_i f here
      split at h
      · rename_i built
        cases h
        exact .closed here (Farmer.isBuilt_iff.mp built)
      · cases h
  | drop id =>
    simp only [system, next] at h
    split at h
    · cases h
    · rename_i f here
      split at h
      · rename_i built
        cases h
        exact .dropped here (Farmer.isBuilt_iff.mp built)
      · cases h
  | tearDown id =>
    simp only [system, next] at h
    split at h
    · cases h
    · rename_i f here
      split at h
      · rename_i how destructor rest at'
        cases h
        exact .tornDown here at'
      · rename_i how at'
        cases h
        exact .left here at'
      · cases h

/-! ### The frame of a step -/

theorem sectorPlotted_farmers (s : Slots Reader Sector R) (i : Nat) (plottedSector : Sector)
    (old : Option Sector) : (s.sectorPlotted api i plottedSector old).farmers = s.farmers := by
  unfold sectorPlotted
  split <;> rfl

theorem sectorPlotted_farmerPieceCache (s : Slots Reader Sector R) (i : Nat)
    (plottedSector : Sector) (old : Option Sector) :
    (s.sectorPlotted api i plottedSector old).farmerPieceCache = s.farmerPieceCache := by
  unfold sectorPlotted
  split <;> rfl

theorem clear_farmers (s : Slots Reader Sector R) (destructor : FarmerDestructor) :
    (s.clear destructor).farmers = s.farmers := by
  rcases destructor with (_ | _) | task | i <;> rfl

/-- A step of a farmer that changes a farmer changes its own, which is not gone. -/
theorem Step.farmers {id : Nat} (step : Step api s a t) (own : a.farmer? = some id) :
    t.farmers = s.farmers ∨ ∃ f f', s.farmers[id]? = some f ∧ f.isGone = false ∧
      t.farmers = s.farmers.set id f' := by
  cases step with
  | build => cases own
  | called => exact .inl (sectorPlotted_farmers _ _ _ _)
  | tornDown here at' =>
    cases own
    exact .inr ⟨_, _, here, by simp [Farmer.isGone, at'], clear_farmers _ _⟩
  | advanced here at' | failed here at' | installedPieceCache here at' | installedReaders here at'
  | finished here at' | closed here at' | dropped here at' | left here at' =>
    cases own
    exact .inr ⟨_, _, here, by simp [Farmer.isGone, at'], rfl⟩

theorem Step.other {id other : Nat} (step : Step api s a t) (own : a.farmer? = some id)
    (ne : other ≠ id) : t.farmers[other]? = s.farmers[other]? := by
  rcases step.farmers own with same | ⟨_, _, _, _, farmers⟩
  · rw [same]
  · rw [farmers, List.getElem?_set_ne ne.symm]

variable (api) in
/-- A farmer that is being torn down is gone after as many steps as it has destructors, and one. -/
theorem run_tearDown {id : Nat} {f : Farmer Reader Sector} {how : Ending}
    {todo : List FarmerDestructor} (here : s.farmers[id]? = some f)
    (at' : f.phase = .tearingDown how todo) : ∃ t g,
      (system api).Run s (List.replicate (todo.length + 1) (.tearDown id)) t ∧
        t.farmers = s.farmers.set id g ∧ g.phase = .gone how := by
  induction todo generalizing s f with
  | nil =>
    refine ⟨s.setFarmer id { f with phase := .gone how }, _, .cons ?_ .start, rfl, rfl⟩
    simp [system, next, here, at']
  | cons destructor rest ih =>
    let u := (s.setFarmer id (f.tornDown how destructor rest)).clear destructor
    have hnext : (system api).next s (.tearDown id) = some u := by
      simp [system, next, here, at', u]
    have farmers : u.farmers = s.farmers.set id (f.tornDown how destructor rest) :=
      clear_farmers _ _
    have there : u.farmers[id]? = some (f.tornDown how destructor rest) := by
      rw [farmers, List.getElem?_set_self (List.getElem?_eq_some_iff.mp here).1]
    obtain ⟨t, g, run, after, gone⟩ := ih there rfl
    refine ⟨t, g, .cons hnext run, ?_, gone⟩
    rw [after, farmers, List.set_set]

end Slots

end SubspaceSdk
