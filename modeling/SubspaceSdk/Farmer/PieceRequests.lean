import SubspaceSdk.Farmer.PieceServing

/-! The answers to the requests for pieces.  Whatever happens to the slots in between, an answer is
what `get_piece_by_index` gives for what the request saw: the slot of the piece cache when it was
polled first, and the piece index when the piece cache had answered. -/

namespace SubspaceSdk

open ProofKit

namespace PieceServing

variable {Reader Sector R Read Piece : Type}
variable {api : PieceReaders Reader Sector R Read} {s t u : PieceServing Reader Sector R Read Piece}
variable {a : Action Reader Sector Piece} {as : List (Action Reader Sector Piece)} {id : Nat}

/-! ### One request -/

theorem setPhase_self {q : Request Read Piece} (here : s.requests[id]? = some q)
    (p : Request Read Piece) (phase : RequestPhase Read Piece) :
    (s.setPhase id p phase).requests[id]? = some { p with phase } :=
  List.getElem?_set_self (List.getElem?_eq_some_iff.mp here).1

theorem setPhase_ne {other : Nat} (ne : other ≠ id) (p : Request Read Piece)
    (phase : RequestPhase Read Piece) :
    (s.setPhase other p phase).requests[id]? = s.requests[id]? :=
  List.getElem?_set_ne ne

/-- A step that is not a request's own leaves it as it is, unless the request comes with it. -/
theorem Step.unmoved (step : Step api s a t) (other : a.request? ≠ some id)
    {q : Request Read Piece} (there : t.requests[id]? = some q) :
    s.requests[id]? = some q ∨ q.phase = .received ∧ s.requests[id]? = none := by
  cases step with
  | slots | dropNode => exact .inl there
  | request pieceIndex =>
    have grown : (s.requests ++ [({ pieceIndex } : Request Read Piece)])[id]? = some q := there
    rcases Nat.lt_trichotomy id s.requests.length with before | rfl | after
    · rw [List.getElem?_append_left before] at grown
      exact .inl grown
    · rw [List.getElem?_concat_length] at grown
      cases grown
      exact .inr ⟨rfl, List.getElem?_eq_none (Nat.le_refl _)⟩
    · rw [List.getElem?_eq_none (by simp; omega)] at grown
      cases grown
  | refused | asks | cacheAnswers | readAnswers =>
    rw [setPhase_ne fun same => other (congrArg some same)] at there
    exact .inl there

/-- What a request's own step does to it. -/
inductive OwnStep (api : PieceReaders Reader Sector R Read)
    (s : PieceServing Reader Sector R Read Piece) (id : Nat) (q : Request Read Piece) :
    Action Reader Sector Piece → RequestPhase Read Piece → Prop
  | refused (at' : q.phase = .received) (empty : s.slots.farmerPieceCache = none) :
      OwnStep api s id q (.poll id) (.answered none)
  | asks {farmer : Nat} (at' : q.phase = .received)
      (filled : s.slots.farmerPieceCache = some farmer) :
      OwnStep api s id q (.poll id) (.askingCache farmer)
  | cacheAnswers {farmer : Nat} (at' : q.phase = .askingCache farmer) (piece : Option Piece)
      (shared : Bool) : OwnStep api s id q (.cacheAnswers id piece shared)
        (phaseAfterCache api.readPiece q.pieceIndex piece (s.upgrade shared))
  | readAnswers {fut : Read} (at' : q.phase = .reading fut) (piece : Option Piece) :
      OwnStep api s id q (.readAnswers id piece) (.answered (some piece))

theorem Step.own (step : Step api s a t) (own : a.request? = some id) :
    ∃ q phase, s.requests[id]? = some q ∧ t.requests[id]? = some { q with phase } ∧
      OwnStep api s id q a phase := by
  cases step with
  | slots | dropNode | request => cases own
  | @refused request q here at' empty =>
    cases own
    exact ⟨q, _, here, setPhase_self here q _, .refused at' empty⟩
  | @asks request farmer q here at' filled =>
    cases own
    exact ⟨q, _, here, setPhase_self here q _, .asks at' filled⟩
  | @cacheAnswers request farmer q here at' piece shared =>
    cases own
    exact ⟨q, _, here, setPhase_self here q _, .cacheAnswers at' piece shared⟩
  | @readAnswers request q fut here at' piece =>
    cases own
    exact ⟨q, _, here, setPhase_self here q _, .readAnswers at' piece⟩

/-! ### What a request has seen -/

variable (api as id) in
/-- The first observation of a request, and the moment at which it was made. -/
def Polled (farmerPieceCache : Option Nat) (k : Nat) : Prop :=
  ∃ v, (system api).At {} as k v (.poll id) ∧ farmerPieceCache = v.slots.farmerPieceCache

variable (api as id) in
/-- The second one: the piece cache has given `getPiece`, and the weak reference is upgraded in the
state of that moment. -/
def CacheAnswered (getPiece : Option Piece) (upgrade : Option (Option R)) (k : Nat) : Prop :=
  ∃ v shared, (system api).At {} as k v (.cacheAnswers id getPiece shared) ∧
    upgrade = v.upgrade shared

variable (api as id) in
/-- The third one: the read gives `piece`. -/
def ReadAnswered (piece : Option Piece) (k : Nat) : Prop :=
  ∃ v, (system api).At {} as k v (.readAnswers id piece)

/-- What the weak reference upgrades to lists a read for the piece. -/
def lookup (readPiece : R → Nat → Option Read) (upgrade : Option (Option R)) (pieceIndex : Nat) :
    Option Read := upgrade.join.bind (readPiece · pieceIndex)

variable (api as id) in
/-- The observations are made by the request at moments of the run, one after another; a moment that
the request does not get to is not asked for. -/
def Observed (pieceIndex : Nat) (o : Observations R Read Piece) : Prop :=
  ∃ k, Polled api as id o.farmerPieceCache k ∧
    (o.farmerPieceCache ≠ none → ∃ l, k < l ∧ CacheAnswered api as id o.getPiece o.upgrade l ∧
      ∀ fut, o.getPiece = none → lookup api.readPiece o.upgrade pieceIndex = some fut →
        ∃ m, l < m ∧ ReadAnswered api as id (o.await fut) m)

variable (api as id) in
/-- What is known of a request by its phase. -/
def Known (pieceIndex : Nat) : RequestPhase Read Piece → Prop
  | .received => True
  | .askingCache farmer => ∃ k, Polled api as id (some farmer) k
  | .reading fut => ∃ k l farmer upgrade, k < l ∧ Polled api as id (some farmer) k ∧
      CacheAnswered api as id none upgrade l ∧ lookup api.readPiece upgrade pieceIndex = some fut
  | .answered response => ∃ o, Observed api as id pieceIndex o ∧
      response = o.getPieceByIndex api.readPiece pieceIndex

theorem Polled.snoc {cache : Option Nat} {k : Nat} (polled : Polled api as id cache k)
    (b : Action Reader Sector Piece) : Polled api (as ++ [b]) id cache k := by
  obtain ⟨v, at', seen⟩ := polled
  exact ⟨v, at'.snoc b, seen⟩

theorem CacheAnswered.snoc {piece : Option Piece} {upgrade : Option (Option R)} {k : Nat}
    (answered : CacheAnswered api as id piece upgrade k) (b : Action Reader Sector Piece) :
    CacheAnswered api (as ++ [b]) id piece upgrade k := by
  obtain ⟨v, shared, at', seen⟩ := answered
  exact ⟨v, shared, at'.snoc b, seen⟩

theorem ReadAnswered.snoc {piece : Option Piece} {k : Nat}
    (answered : ReadAnswered api as id piece k) (b : Action Reader Sector Piece) :
    ReadAnswered api (as ++ [b]) id piece k := by
  obtain ⟨v, at'⟩ := answered
  exact ⟨v, at'.snoc b⟩

theorem Polled.lt {cache : Option Nat} {k : Nat} (polled : Polled api as id cache k) :
    k < as.length := by
  obtain ⟨v, at', -⟩ := polled
  exact at'.lt

theorem CacheAnswered.lt {piece : Option Piece} {upgrade : Option (Option R)} {k : Nat}
    (answered : CacheAnswered api as id piece upgrade k) : k < as.length := by
  obtain ⟨v, shared, at', -⟩ := answered
  exact at'.lt

theorem Observed.snoc {pieceIndex : Nat} {o : Observations R Read Piece}
    (observed : Observed api as id pieceIndex o) (b : Action Reader Sector Piece) :
    Observed api (as ++ [b]) id pieceIndex o := by
  obtain ⟨k, polled, asked⟩ := observed
  refine ⟨k, polled.snoc b, fun filled => ?_⟩
  obtain ⟨l, later, answered, read⟩ := asked filled
  refine ⟨l, later, answered.snoc b, fun fut missed found => ?_⟩
  obtain ⟨m, last, gave⟩ := read fut missed found
  exact ⟨m, last, gave.snoc b⟩

theorem Known.snoc {pieceIndex : Nat} {phase : RequestPhase Read Piece}
    (known : Known api as id pieceIndex phase) (b : Action Reader Sector Piece) :
    Known api (as ++ [b]) id pieceIndex phase := by
  cases phase with
  | received => trivial
  | askingCache farmer =>
    obtain ⟨k, polled⟩ := known
    exact ⟨k, polled.snoc b⟩
  | reading fut =>
    obtain ⟨k, l, farmer, upgrade, later, polled, answered, found⟩ := known
    exact ⟨k, l, farmer, upgrade, later, polled.snoc b, answered.snoc b, found⟩
  | answered response =>
    obtain ⟨o, observed, same⟩ := known
    exact ⟨o, observed.snoc b, same⟩

/-- What follows the answer of the piece cache, by what it gave and by what the index lists. -/
theorem phaseAfterCache_eq (readPiece : R → Nat → Option Read) (pieceIndex : Nat)
    (piece : Option Piece) (upgrade : Option (Option R)) :
    phaseAfterCache readPiece pieceIndex piece upgrade =
      match piece, lookup readPiece upgrade pieceIndex with
      | some piece, _ => .answered (some (some piece))
      | none, some fut => .reading fut
      | none, none => .answered (some none) := by
  unfold phaseAfterCache lookup
  rcases piece with _ | piece
  · rcases upgrade with _ | _ | readersAndPieces
    · rfl
    · rfl
    · dsimp only
      cases found : readPiece readersAndPieces pieceIndex with
      | none => simp [found]
      | some fut => simp [found]
  · rfl

/-- The answer of a farmer, by what its piece cache gave and by what the index lists. -/
theorem farmerGetPieceByIndex_eq (readPiece : R → Nat → Option Read)
    (o : Observations R Read Piece) (pieceIndex : Nat) :
    o.farmerGetPieceByIndex readPiece pieceIndex =
      o.getPiece.or ((lookup readPiece o.upgrade pieceIndex).bind o.await) := by
  obtain ⟨cache, piece, upgrade, await⟩ := o
  unfold Observations.farmerGetPieceByIndex lookup
  rcases piece with _ | piece
  · rcases upgrade with _ | _ | readersAndPieces
    · rfl
    · rfl
    · dsimp only
      cases found : readPiece readersAndPieces pieceIndex with
      | none => simp [found]
      | some fut => simp [found]
  · rfl

/-- A request that is answered by its piece cache, or has nothing to read. -/
theorem known_of_cacheAnswers {pieceIndex k farmer : Nat} {piece : Option Piece}
    {upgrade : Option (Option R)} {l : Nat} (polled : Polled api as id (some farmer) k)
    (later : k < l) (answered : CacheAnswered api as id piece upgrade l) :
    Known api as id pieceIndex (phaseAfterCache api.readPiece pieceIndex piece upgrade) := by
  have done : ∀ response, response = piece.or (lookup api.readPiece upgrade pieceIndex |>.bind
      fun _ => none) → (piece = none → lookup api.readPiece upgrade pieceIndex = none) →
      Known api as id pieceIndex (.answered (some response)) := by
    intro response same nothing
    let o : Observations R Read Piece := ⟨some farmer, piece, upgrade, fun _ => none⟩
    refine ⟨o, ⟨k, polled, fun _ => ⟨l, later, answered, fun fut missed found => ?_⟩⟩, ?_⟩
    · rw [nothing missed] at found
      cases found
    · show some response = some (o.farmerGetPieceByIndex api.readPiece pieceIndex)
      rw [farmerGetPieceByIndex_eq, same]
  rw [phaseAfterCache_eq]
  rcases piece with _ | piece
  · cases found : lookup api.readPiece upgrade pieceIndex with
    | none => exact done none (by rw [found]; rfl) fun _ => found
    | some fut => exact ⟨k, l, farmer, upgrade, later, polled, answered, found⟩
  · exact done (some piece) rfl fun missed => absurd missed (Option.some_ne_none _)

/-- Its own step adds the observation that the request needed next. -/
theorem OwnStep.known {q : Request Read Piece} {phase : RequestPhase Read Piece}
    (run : (system api).Run {} as s) (own : OwnStep api s id q a phase)
    (known : Known api as id q.pieceIndex q.phase) :
    Known api (as ++ [a]) id q.pieceIndex phase := by
  cases own with
  | refused at' empty =>
    let o : Observations R Read Piece := ⟨none, none, none, fun _ => none⟩
    refine ⟨o, ⟨as.length, ⟨s, run.at_last _, empty.symm⟩, fun filled => absurd rfl filled⟩, rfl⟩
  | asks at' filled => exact ⟨as.length, s, run.at_last _, filled.symm⟩
  | cacheAnswers at' piece shared =>
    rw [at'] at known
    obtain ⟨k, polled⟩ := known
    exact known_of_cacheAnswers (polled.snoc _) polled.lt ⟨s, shared, run.at_last _, rfl⟩
  | @readAnswers fut at' piece =>
    rw [at'] at known
    obtain ⟨k, l, farmer, upgrade, later, polled, answered, found⟩ := known
    let o : Observations R Read Piece := ⟨some farmer, none, upgrade, fun _ => piece⟩
    refine ⟨o, ⟨k, polled.snoc _, fun _ => ⟨l, later, answered.snoc _, fun fut' _ _ => ?_⟩⟩, ?_⟩
    · exact ⟨as.length, answered.lt, s, run.at_last _⟩
    · show some piece = some (o.farmerGetPieceByIndex api.readPiece q.pieceIndex)
      rw [farmerGetPieceByIndex_eq]
      show _ = some ((none : Option Piece).or
        ((lookup api.readPiece upgrade q.pieceIndex).bind fun _ => piece))
      rw [found]
      rfl

/-- In every run each request knows what its phase says. -/
theorem run_known (run : (system api).Run {} as t) {q : Request Read Piece}
    (here : t.requests[id]? = some q) : Known api as id q.pieceIndex q.phase := by
  induction run generalizing q with
  | start => cases here
  | @step as a s t before _ hnext ih =>
    have step := step_of_next hnext
    by_cases own : a.request? = some id
    · obtain ⟨p, phase, there, after, own⟩ := step.own own
      rw [here, Option.some.injEq] at after
      subst after
      exact OwnStep.known (q := p) before own (ih there)
    · rcases step.unmoved own here with there | ⟨received, -⟩
      · exact (ih there).snoc a
      · rw [received]
        trivial

/-- Every answer is what `get_piece_by_index` gives for what the request has observed, each
observation at its own moment of the run and one after another. -/
theorem run_answers (run : (system api).Run {} as t) {q : Request Read Piece}
    {response : Option (Option Piece)} (here : t.requests[id]? = some q)
    (answered : q.phase = .answered response) :
    ∃ o, Observed api as id q.pieceIndex o ∧
      response = o.getPieceByIndex api.readPiece q.pieceIndex := by
  have known := run_known run here
  rwa [answered] at known

/-- An index of the sectors by their numbers. -/
def sectorReaders : PieceReaders Unit Nat (List (UInt8 × Nat)) (UInt8 × Nat) where
  toReadersAndPieces := sectorList
  readPiece sectors pieceIndex := sectors.find? (·.2 == pieceIndex)

/-- A farmer is built and torn down while a request waits for its piece cache. -/
def overtaken : List (Action Unit Nat Nat) :=
  [.slots (.build [⟨(), [.ok 7]⟩]), .request 7, .request 7] ++
    List.replicate 12 (.slots (.buildStep 0 (.ok ()))) ++ [.poll 0, .slots (.close 0)] ++
    List.replicate 7 (.slots (.tearDown 0)) ++ [.cacheAnswers 0 none false, .poll 1]

theorem run_answers_overtaken :
    ∃ (t : PieceServing Unit Nat (List (UInt8 × Nat)) (UInt8 × Nat) Nat)
      (o : Observations (List (UInt8 × Nat)) (UInt8 × Nat) Nat),
      (system sectorReaders).Run {} overtaken t ∧ t.requests[1]? = some ⟨7, .answered none⟩ ∧
        Observed sectorReaders overtaken 0 7 o ∧
        o.getPieceByIndex sectorReaders.readPiece 7 = some none := by
  obtain ⟨t, done, refused, here⟩ :
      ∃ t : PieceServing Unit Nat (List (UInt8 × Nat)) (UInt8 × Nat) Nat,
      (system sectorReaders).exec (fun _ _ _ => True) [] {} overtaken = some t ∧
        t.requests[1]? = some ⟨7, .answered none⟩ ∧
        t.requests[0]? = some ⟨7, .answered (some none)⟩ := ⟨_, rfl, rfl, rfl⟩
  have run := System.RunIf.of_exec done
  obtain ⟨o, observed, same⟩ := run_answers run here rfl
  exact ⟨t, o, run, refused, observed, same.symm⟩

end PieceServing

end SubspaceSdk
