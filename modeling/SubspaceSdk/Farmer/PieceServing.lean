import SubspaceSdk.Farmer.Slots
import SubspaceSdk.ProofKit.History

/-! The pieces that a node serves to its peers while farmers are built, called back and torn down.
A request reads the slot of the piece cache and waits for that cache; without a piece it looks into
the slot of the piece index behind a weak reference and waits for the read.  Anything may happen to
the slots while it waits. -/

namespace SubspaceSdk

open ProofKit

variable {Reader Sector R Read Piece : Type}

/-- What this code uses of a piece index to serve its pieces: the read of a piece that it lists. -/
structure PieceReaders (Reader Sector R Read : Type) extends ReadersAndPieces Reader Sector R where
  readPiece : R → Nat → Option Read

/-- What a request gets to see. -/
structure Observations (R Read Piece : Type) where
  farmerPieceCache : Option Nat
  /-- What the piece cache gives. -/
  getPiece : Option Piece
  /-- What the weak reference to the piece index upgrades to. -/
  upgrade : Option (Option R)
  /-- What a read gives. -/
  await : Read → Option Piece

namespace Observations

/-- `Farmer::get_piece_by_index`. -/
def farmerGetPieceByIndex (readPiece : R → Nat → Option Read) (o : Observations R Read Piece)
    (pieceIndex : Nat) : Option Piece :=
  match o.getPiece with
  | some piece => some piece
  | none =>
    match o.upgrade with
    | none => none
    | some none => none
    | some (some readersAndPieces) =>
      match readPiece readersAndPieces pieceIndex with
      | some fut => o.await fut
      | none => none

/-- `get_piece_by_index` of the node: no response, or a response with a piece or without one. -/
def getPieceByIndex (readPiece : R → Nat → Option Read) (o : Observations R Read Piece)
    (pieceIndex : Nat) : Option (Option Piece) :=
  match o.farmerPieceCache with
  | some _ => some (o.farmerGetPieceByIndex readPiece pieceIndex)
  | none => none

end Observations

inductive RequestPhase (Read Piece : Type) where
  | received
  /-- The request waits for the piece cache of this farmer. -/
  | askingCache (farmer : Nat)
  | reading (fut : Read)
  | answered (response : Option (Option Piece))
  deriving Repr, DecidableEq

structure Request (Read Piece : Type) where
  pieceIndex : Nat
  phase : RequestPhase Read Piece := .received
  deriving Repr, DecidableEq

/-- The slots of a node and the requests of its peers. -/
structure PieceServing (Reader Sector R Read Piece : Type) where
  slots : Slots Reader Sector R := {}
  /-- The node has its reference to the slot of the piece index. -/
  nodeAlive : Bool := true
  requests : List (Request Read Piece) := []

namespace PieceServing

inductive Action (Reader Sector Piece : Type) where
  | slots (action : Slots.Action Reader Sector)
  | dropNode
  /-- A peer asks for a piece. -/
  | request (pieceIndex : Nat)
  | poll (request : Nat)
  /-- The piece cache answers.  A farmer may have a reference to the piece index that lets the
  request upgrade its own. -/
  | cacheAnswers (request : Nat) (piece : Option Piece) (shared : Bool)
  | readAnswers (request : Nat) (piece : Option Piece)

/-- The request that an action belongs to. -/
def Action.request? : Action Reader Sector Piece → Option Nat
  | .slots _ | .dropNode | .request _ => none
  | .poll id | .cacheAnswers id _ _ | .readAnswers id _ => some id

def Action.slots? : Action Reader Sector Piece → Option (Slots.Action Reader Sector)
  | .slots action => some action
  | _ => none

def setPhase (s : PieceServing Reader Sector R Read Piece) (request : Nat) (q : Request Read Piece)
    (phase : RequestPhase Read Piece) : PieceServing Reader Sector R Read Piece :=
  { s with requests := s.requests.set request { q with phase } }

/-- What the weak reference upgrades to: the node keeps the slot, and so does whoever shares it. -/
def upgrade (s : PieceServing Reader Sector R Read Piece) (shared : Bool) : Option (Option R) :=
  if s.nodeAlive || shared then some (s.slots.farmerReadersAndPieces.map (·.2)) else none

/-- A request goes on with what the piece cache and the piece index give it. -/
def phaseAfterCache (readPiece : R → Nat → Option Read) (pieceIndex : Nat) (getPiece : Option Piece)
    (upgrade : Option (Option R)) : RequestPhase Read Piece :=
  match getPiece with
  | some piece => .answered (some (some piece))
  | none =>
    match upgrade with
    | none => .answered (some none)
    | some none => .answered (some none)
    | some (some readersAndPieces) =>
      match readPiece readersAndPieces pieceIndex with
      | some fut => .reading fut
      | none => .answered (some none)

def next (api : PieceReaders Reader Sector R Read) (s : PieceServing Reader Sector R Read Piece) :
    Action Reader Sector Piece → Option (PieceServing Reader Sector R Read Piece)
  | .slots action =>
    (Slots.next api.toReadersAndPieces s.slots action).map fun slots => { s with slots }
  | .dropNode => some { s with nodeAlive := false }
  | .request pieceIndex => some { s with requests := s.requests ++ [{ pieceIndex }] }
  | .poll request =>
    match s.requests[request]? with
    | none => none
    | some q =>
      match q.phase with
      | .received =>
        match s.slots.farmerPieceCache with
        | some farmer => some (s.setPhase request q (.askingCache farmer))
        | none => some (s.setPhase request q (.answered none))
      | _ => none
  | .cacheAnswers request piece shared =>
    match s.requests[request]? with
    | none => none
    | some q =>
      match q.phase with
      | .askingCache _ =>
        some (s.setPhase request q
          (phaseAfterCache api.readPiece q.pieceIndex piece (s.upgrade shared)))
      | _ => none
  | .readAnswers request piece =>
    match s.requests[request]? with
    | none => none
    | some q =>
      match q.phase with
      | .reading _ => some (s.setPhase request q (.answered (some piece)))
      | _ => none

def system (api : PieceReaders Reader Sector R Read) :
    System (PieceServing Reader Sector R Read Piece) (Action Reader Sector Piece) := ⟨next api⟩

/-- `MaybeLocalRecordProvider::record`, with what the piece cache of a farmer records. -/
def record {Key Record : Type} (s : PieceServing Reader Sector R Read Piece)
    (records : Nat → Key → Option Record) (key : Key) : Option Record :=
  match s.slots.farmerPieceCache with
  | some farmer => records farmer key
  | none => none

variable {api : PieceReaders Reader Sector R Read} {s t u : PieceServing Reader Sector R Read Piece}
variable {a : Action Reader Sector Piece} {as : List (Action Reader Sector Piece)}

/-! ### What a step can do -/

variable (api s) in
inductive Step : Action Reader Sector Piece → PieceServing Reader Sector R Read Piece → Prop
  | slots {action : Slots.Action Reader Sector} {slots : Slots Reader Sector R}
      (hnext : (Slots.system api.toReadersAndPieces).next s.slots action = some slots) :
      Step (.slots action) { s with slots }
  | dropNode : Step .dropNode { s with nodeAlive := false }
  | request (pieceIndex : Nat) :
      Step (.request pieceIndex) { s with requests := s.requests ++ [{ pieceIndex }] }
  | refused {request : Nat} {q : Request Read Piece} (here : s.requests[request]? = some q)
      (at' : q.phase = .received) (empty : s.slots.farmerPieceCache = none) :
      Step (.poll request) (s.setPhase request q (.answered none))
  | asks {request farmer : Nat} {q : Request Read Piece} (here : s.requests[request]? = some q)
      (at' : q.phase = .received) (filled : s.slots.farmerPieceCache = some farmer) :
      Step (.poll request) (s.setPhase request q (.askingCache farmer))
  | cacheAnswers {request farmer : Nat} {q : Request Read Piece}
      (here : s.requests[request]? = some q) (at' : q.phase = .askingCache farmer)
      (piece : Option Piece) (shared : Bool) :
      Step (.cacheAnswers request piece shared) (s.setPhase request q
        (phaseAfterCache api.readPiece q.pieceIndex piece (s.upgrade shared)))
  | readAnswers {request : Nat} {q : Request Read Piece} {fut : Read}
      (here : s.requests[request]? = some q) (at' : q.phase = .reading fut)
      (piece : Option Piece) :
      Step (.readAnswers request piece) (s.setPhase request q (.answered (some piece)))

theorem step_of_next (h : (system api).next s a = some t) : Step api s a t := by
  cases a with
  | slots action =>
    simp only [system, next, Option.map_eq_some_iff] at h
    obtain ⟨slots, hnext, rfl⟩ := h
    exact .slots hnext
  | dropNode =>
    cases h
    exact .dropNode
  | request pieceIndex =>
    cases h
    exact .request pieceIndex
  | poll request =>
    simp only [system, next] at h
    split at h
    · cases h
    · rename_i q here
      split at h
      · rename_i at'
        split at h
        · rename_i farmer filled
          cases h
          exact .asks here at' filled
        · rename_i empty
          cases h
          exact .refused here at' empty
      · cases h
  | cacheAnswers request piece shared =>
    simp only [system, next] at h
    split at h
    · cases h
    · rename_i q here
      split at h
      · rename_i farmer at'
        cases h
        exact .cacheAnswers here at' piece shared
      · cases h
  | readAnswers request piece =>
    simp only [system, next] at h
    split at h
    · cases h
    · rename_i q here
      split at h
      · rename_i fut at'
        cases h
        exact .readAnswers here at' piece
      · cases h

/-- The slots do not notice the requests. -/
theorem component (api : PieceReaders Reader Sector R Read) :
    System.Component
      (system api : System (PieceServing Reader Sector R Read Piece) (Action Reader Sector Piece))
      (Slots.system api.toReadersAndPieces) PieceServing.slots Action.slots? := by
  refine ⟨fun s a t b hnext own => ?_, fun s a t hnext other => ?_⟩
  · cases step_of_next hnext with
    | slots moved =>
      cases own
      exact moved
    | _ => cases own
  · cases step_of_next hnext with
    | slots moved => cases other
    | _ => rfl

end PieceServing

end SubspaceSdk
