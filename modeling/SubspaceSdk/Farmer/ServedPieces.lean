import SubspaceSdk.Farmer.PieceRequests
import SubspaceSdk.Farmer.PlottedIndex

/-! What peers get while farmers come and go, one at a time.  A request is refused exactly where no
farmer has its piece cache installed; one that the piece cache cannot answer reads what the farmer
has plotted. -/

namespace SubspaceSdk

open ProofKit

namespace PieceServing

section Alone

variable {Reader Sector R Read Piece : Type}
variable {api : PieceReaders Reader Sector R Read} {s t u : PieceServing Reader Sector R Read Piece}
variable {a : Action Reader Sector Piece} {as : List (Action Reader Sector Piece)} {id k : Nat}

/-- The steps of the farmers meet a condition. -/
def OfSlots (ok : List (Slots.Action Reader Sector) → Slots Reader Sector R →
      Slots.Action Reader Sector → Prop)
    (as : List (Action Reader Sector Piece)) (s : PieceServing Reader Sector R Read Piece)
    (a : Action Reader Sector Piece) : Prop :=
  ∀ b, a.slots? = some b → ok (as.filterMap Action.slots?) s.slots b

instance {ok : List (Slots.Action Reader Sector) → Slots Reader Sector R →
      Slots.Action Reader Sector → Prop} [∀ as s a, Decidable (ok as s a)]
    (as : List (Action Reader Sector Piece)) (s : PieceServing Reader Sector R Read Piece)
    (a : Action Reader Sector Piece) : Decidable (OfSlots ok as s a) :=
  inferInstanceAs (Decidable (∀ b ∈ a.slots?, ok (as.filterMap Action.slots?) s.slots b))

/-- The farmers' part of a run. -/
theorem run_slots {ok : List (Slots.Action Reader Sector) → Slots Reader Sector R →
      Slots.Action Reader Sector → Prop}
    (run : (system api).RunIf (OfSlots ok) {} as (t : PieceServing Reader Sector R Read Piece)) :
    (Slots.system api.toReadersAndPieces).RunIf ok {} (as.filterMap Action.slots?) t.slots :=
  (component api).runIf run

/-- The farmer is to clear the slot: it has filled it and is not torn down so far. -/
def Holding (s : PieceServing Reader Sector R Read Piece) (slot : SharedSlot) (farmer : Nat) :
    Prop :=
  ∃ f : Farmer Reader Sector, s.slots.farmers[farmer]? = some f ∧ .sync slot ∈ f.pending

theorem farmerReadersAndPieces_iff (owned : Slots.Owned s.slots) (farmer : Nat) :
    (∃ r, s.slots.farmerReadersAndPieces = some (farmer, r)) ↔
      s.Holding .farmerReadersAndPieces farmer := by
  refine Iff.trans ?_ (owned.owner .farmerReadersAndPieces farmer)
  simp [Slots.owner]

/-- A farmer that holds the slot of the piece index holds that of the piece cache. -/
theorem Holding.cache {farmer : Nat} (owned : Slots.Owned s.slots)
    (holding : s.Holding .farmerReadersAndPieces farmer) : s.Holding .farmerPieceCache farmer := by
  obtain ⟨f, here, mem⟩ := holding
  exact ⟨f, here, cache_of_readers (owned.registered farmer f here).pending_suffix mem⟩

theorem lookup_of_filled (readPiece : R → Nat → Option Read) {farmer : Nat} {r : R}
    (alive : s.nodeAlive = true) (filled : s.slots.farmerReadersAndPieces = some (farmer, r))
    (shared : Bool) (pieceIndex : Nat) :
    lookup readPiece (s.upgrade shared) pieceIndex = readPiece r pieceIndex := by
  rw [lookup, upgrade, alive, filled]
  rfl

end Alone

/-! ### Served from the plots -/

section Plots

variable {Reader R Piece : Type}

/-- A piece index with the reads that it gives. -/
def readersOf (index : PieceLookup Reader R) :
    PieceReaders Reader PlottedSector R PieceEntry :=
  ⟨index.toReadersAndPieces, index.readPiece⟩

/-- In every run with one farmer at a time, whose farms report the sectors that they replace: where
a request goes on to read, the read is of a place at which the farmer that holds the index has
plotted the requested piece; and where it finds nothing to read while the node is there, no farm of
a farmer that holds the index has plotted the piece. -/
theorem run_reads_plotted (index : PieceLookup Reader R)
    {as : List (Action Reader PlottedSector Piece)}
    {t : PieceServing Reader PlottedSector R PieceEntry Piece}
    (run : (system (readersOf index)).RunIf (OfSlots Slots.FarmsReport) {} as t)
    {id l farmer : Nat} {v : PieceServing Reader PlottedSector R PieceEntry Piece} {shared : Bool}
    {q : Request PieceEntry Piece}
    (missed : (system (readersOf index)).At {} as l v (.cacheAnswers id none shared))
    (here : v.requests[id]? = some q) (alive : v.nodeAlive = true)
    (holding : v.Holding .farmerReadersAndPieces farmer) :
    ∃ f : Farmer Reader PlottedSector, v.slots.farmers[farmer]? = some f ∧
      ∃ w phase, (system (readersOf index)).next v (.cacheAnswers id none shared) = some w ∧
        w.requests[id]? = some { q with phase } ∧
        ((∃ entry, phase = .reading entry ∧ entry.pieceIndex = q.pieceIndex ∧
            Slots.PlottedAs (Slots.plotsOf f farmer ((as.take l).filterMap Action.slots?)) entry) ∨
          (phase = .answered (some none) ∧ ∀ i k (sector : PlottedSector),
            Slots.plotsOf f farmer ((as.take l).filterMap Action.slots?) i k = .plotted sector →
            q.pieceIndex ∉ sector.pieceIndexes)) := by
  obtain ⟨before, -⟩ := run.at missed
  obtain ⟨plotted, owned⟩ : Slots.Plotted index _ _ ∧ _ := Slots.run_plotted (run_slots before)
  obtain ⟨r, filled⟩ := (farmerReadersAndPieces_iff owned farmer).mpr holding
  obtain ⟨f, there, sound, complete⟩ := Slots.readPiece_of_plotted plotted owned filled
  obtain ⟨w, hnext, -⟩ := missed.rest run.run
  obtain ⟨p, phase, here', after, own⟩ := (step_of_next hnext).own rfl
  rw [here, Option.some.injEq] at here'
  subst here'
  refine ⟨f, there, w, phase, hnext, after, ?_⟩
  have moved : phase = phaseAfterCache index.readPiece q.pieceIndex none (v.upgrade shared) := by
    cases own
    rfl
  rw [phaseAfterCache_eq, lookup_of_filled _ alive filled] at moved
  cases reads : index.readPiece r q.pieceIndex with
  | some entry =>
    rw [reads] at moved
    obtain ⟨there, same⟩ := sound q.pieceIndex entry reads
    exact .inl ⟨entry, moved, same, there⟩
  | none =>
    rw [reads] at moved
    refine .inr ⟨moved, fun i k sector there mem => ?_⟩
    obtain ⟨offset, piece⟩ := List.mem_iff_getElem?.mp mem
    have some := complete q.pieceIndex i k offset sector there piece
    rw [reads] at some
    cases some

/-- A farm replots a sector while a request waits for the piece cache. -/
def replotted : List (Action Unit PlottedSector Nat) :=
  [.slots (.build [⟨(), [.ok ⟨0, [5, 6]⟩]⟩]), .request 6] ++
    List.replicate 12 (.slots (.buildStep 0 (.ok ()))) ++
    [.poll 0, .slots (.sectorPlotted 0 0 ⟨0, [6, 7]⟩ (some ⟨0, [5, 6]⟩)),
      .cacheAnswers 0 none false]

theorem run_reads_plotted_replotted :
    ∃ (v w : PieceServing Unit PlottedSector (Nat × List PieceEntry) PieceEntry Nat)
      (f : Farmer Unit PlottedSector) (entry : PieceEntry),
      (system (readersOf entryLookup)).next v (.cacheAnswers 0 none false) = some w ∧
        w.requests[0]? = some ⟨6, .reading entry⟩ ∧
        Slots.PlottedAs
          (Slots.plotsOf f 0 ((replotted.take 16).filterMap Action.slots?)) entry := by
  obtain ⟨v, t, before, done, here, alive, pending, waits⟩ :
      ∃ v t : PieceServing Unit PlottedSector (Nat × List PieceEntry) PieceEntry Nat,
      (system (readersOf entryLookup)).exec (OfSlots Slots.FarmsReport) [] {}
          (replotted.take 16) = some v ∧
        (system (readersOf entryLookup)).exec (OfSlots Slots.FarmsReport) [] {} replotted =
          some t ∧
        v.requests[0]? = some ⟨6, .askingCache 0⟩ ∧ v.nodeAlive = true ∧
        (v.slots.farmers[0]?).map (·.pending) = some (farmerDestructors 1).reverse ∧
        (system (readersOf entryLookup)).next v (.cacheAnswers 0 none false) =
          some (v.setPhase 0 ⟨6, .askingCache 0⟩ (.reading ⟨6, 0, 0, 0⟩)) :=
    ⟨_, _, rfl, rfl, rfl, rfl, rfl, rfl⟩
  obtain ⟨f, there, pending⟩ := Option.map_eq_some_iff.mp pending
  have missed :
      (system (readersOf entryLookup)).At {} replotted 16 v (.cacheAnswers 0 none false) :=
    ⟨rfl, (System.RunIf.of_exec before).run⟩
  have holding : v.Holding .farmerReadersAndPieces 0 := ⟨f, there, by rw [pending]; decide⟩
  obtain ⟨g, -, w, phase, hnext, after, reads⟩ :=
    run_reads_plotted entryLookup (System.RunIf.of_exec done) missed here alive holding
  rw [waits, Option.some.injEq] at hnext
  subst hnext
  rw [setPhase_self here] at after
  cases after
  obtain ⟨entry, same, -, plotted⟩ | ⟨none, -⟩ := reads
  · refine ⟨v, _, g, entry, waits, ?_, plotted⟩
    rw [setPhase_self here, same]
  · cases none

end Plots

end PieceServing

end SubspaceSdk
