import SubspaceSdk.ProofKit.Collect
import SubspaceSdk.ProofKit.Transition

/-! The request handler `get_segment_header_by_segment_indexes`: first on a store that does not
change, then step by step while an archiver appends headers to the store.  The limit is the
`SEGMENT_HEADERS_NUMBER_LIMIT` of the node. -/

namespace SubspaceSdk

open ProofKit

abbrev SegmentIndex := Nat

inductive SegmentHeaderRequest where
  | segmentIndexes (segmentIndexes : List SegmentIndex)
  | lastSegmentHeaders (segmentHeaderNumber : Nat)
  deriving Repr, DecidableEq

structure SegmentHeaderResponse (Header : Type) where
  segmentHeaders : List Header
  deriving Repr, DecidableEq

/-- What the handler asks a `SegmentHeadersStore` for. -/
structure SegmentHeadersStore (Header : Type) where
  maxSegmentIndex : Option SegmentIndex
  getSegmentHeader : SegmentIndex → Option Header

/-- The indexes that the handler looks up, where the store gave `maxSegmentIndex`. -/
def requestedIndexes (limit : Nat) (maxSegmentIndex : Option SegmentIndex) :
    SegmentHeaderRequest → List SegmentIndex
  | .segmentIndexes segmentIndexes => segmentIndexes
  | .lastSegmentHeaders segmentHeaderNumber =>
    let segmentHeadersLimit :=
      if segmentHeaderNumber > limit then limit else segmentHeaderNumber
    -- A store with nothing but the genesis block gives no index.
    let maxSegmentIndex := maxSegmentIndex.getD 0
    (List.range (maxSegmentIndex + 1)).reverse.take segmentHeadersLimit

variable {Header : Type}

def getSegmentHeaderBySegmentIndexes (limit : Nat) (req : SegmentHeaderRequest)
    (store : SegmentHeadersStore Header) : Option (SegmentHeaderResponse Header) :=
  (collect store.getSegmentHeader (requestedIndexes limit store.maxSegmentIndex req)).map (⟨·⟩)

/-- The indexes for which the handler calls `get_segment_header`. -/
def headerLookups (limit : Nat) (req : SegmentHeaderRequest)
    (store : SegmentHeadersStore Header) : List SegmentIndex :=
  asked store.getSegmentHeader (requestedIndexes limit store.maxSegmentIndex req)

/-- The newest headers are asked for by number, or few are named, or one of the first that are named
is missing. -/
def AsksWithin (limit : Nat) (store : SegmentHeadersStore Header) : SegmentHeaderRequest → Prop
  | .segmentIndexes segmentIndexes => segmentIndexes.length ≤ limit ∨
      ∃ index ∈ segmentIndexes.take limit, store.getSegmentHeader index = none
  | .lastSegmentHeaders _ => True

theorem requestedIndexes_lastSegmentHeaders (limit n : Nat)
    (maxSegmentIndex : Option SegmentIndex) :
    requestedIndexes limit maxSegmentIndex (.lastSegmentHeaders n) =
      (List.range (maxSegmentIndex.getD 0 + 1)).reverse.take (min n limit) := by
  have clamp : (if n > limit then limit else n) = min n limit := by
    split <;> omega
  simp only [requestedIndexes, clamp]

theorem headerLookups_length_le_iff (limit : Nat) (req : SegmentHeaderRequest)
    (store : SegmentHeadersStore Header) :
    (headerLookups limit req store).length ≤ limit ↔ AsksWithin limit store req := by
  rw [headerLookups, asked_length_le_iff]
  cases req with
  | segmentIndexes => exact Iff.rfl
  | lastSegmentHeaders n =>
    rw [requestedIndexes_lastSegmentHeaders]
    refine iff_of_true (.inl ?_) trivial
    exact Nat.le_trans (List.length_take_le _ _) (Nat.min_le_right n limit)

theorem length_eq_lookups {limit : Nat} {req : SegmentHeaderRequest}
    {store : SegmentHeadersStore Header} {response : SegmentHeaderResponse Header}
    (answer : getSegmentHeaderBySegmentIndexes limit req store = some response) :
    response.segmentHeaders.length = (headerLookups limit req store).length := by
  obtain ⟨headers, collected, rfl⟩ := Option.map_eq_some_iff.mp answer
  rw [headerLookups, asked_eq_of_collect collected]
  exact length_eq_of_collect collected

/-- The response and the lookups stay within the limit exactly where the request does. -/
theorem response_within_limit_iff (limit : Nat) (req : SegmentHeaderRequest)
    (store : SegmentHeadersStore Header) :
    ((∀ response, getSegmentHeaderBySegmentIndexes limit req store = some response →
        response.segmentHeaders.length ≤ limit) ∧
      (headerLookups limit req store).length ≤ limit) ↔ AsksWithin limit store req := by
  rw [← headerLookups_length_le_iff]
  constructor
  · exact fun bounds => bounds.2
  · intro few
    exact ⟨fun response answer => length_eq_lookups answer ▸ few, few⟩

/-- The genesis header named 1001 times. -/
theorem genesis_repeated_exceeds_limit :
    ¬((∀ response, getSegmentHeaderBySegmentIndexes 1000
          (.segmentIndexes (List.replicate 1001 0)) ⟨none, fun _ => some ()⟩ = some response →
        response.segmentHeaders.length ≤ 1000) ∧
      (headerLookups 1000 (.segmentIndexes (List.replicate 1001 0))
        (⟨none, fun _ => some ()⟩ : SegmentHeadersStore Unit)).length ≤ 1000) := by
  rintro ⟨-, few⟩
  rw [headerLookups_length_le_iff] at few
  rcases few with short | ⟨_, _, missing⟩
  · rw [List.length_replicate] at short
    omega
  · cases missing

end SubspaceSdk
