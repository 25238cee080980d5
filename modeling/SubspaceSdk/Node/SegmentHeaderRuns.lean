import SubspaceSdk.Node.SegmentHeaders

/-! The segment header handler while an archiver appends headers to the store.  The handler chooses
its indexes in one step and looks each of them up in a step of its own, and the archiver may append
between any two of them. -/

namespace SubspaceSdk

open ProofKit

variable {Header : Type}

/-- How the store of an archiver gives its newest index.  Nothing but a genesis header may give
none. -/
structure ArchiverStore (Header : Type) where
  maxSegmentIndex : List Header → Option SegmentIndex
  newest : ∀ headers index, maxSegmentIndex headers = some index → headers.length = index + 1
  absent : ∀ headers, maxSegmentIndex headers = none → headers.length ≤ 1

namespace ArchiverStore

/-- The store that holds `headers`, the header of index `i` at position `i`. -/
def view (store : ArchiverStore Header) (headers : List Header) : SegmentHeadersStore Header where
  maxSegmentIndex := store.maxSegmentIndex headers
  getSegmentHeader index := headers[index]?

theorem getD_maxSegmentIndex (store : ArchiverStore Header) (headers : List Header) :
    (store.maxSegmentIndex headers).getD 0 = headers.length - 1 := by
  cases max : store.maxSegmentIndex headers with
  | none =>
    rw [Option.getD_none, Nat.sub_eq_zero_of_le (store.absent headers max)]
  | some index =>
    rw [Option.getD_some, store.newest headers index max, Nat.add_sub_cancel]

/-- A store that gives its newest index, and none for the genesis header alone. -/
def indexed : ArchiverStore Nat where
  maxSegmentIndex headers := if headers.length ≤ 1 then none else some (headers.length - 1)
  newest headers index max := by
    split at max
    · cases max
    · rw [← Option.some.inj max, Nat.sub_add_cancel (by omega)]
  absent headers max := by
    split at max
    · next few => exact few
    · cases max

end ArchiverStore

inductive HandlerPhase (Header : Type) where
  | received
  | collecting (todo : List SegmentIndex) (found : List Header)
  | answered (answer : Option (SegmentHeaderResponse Header))

/-- The store and the handler of one request. -/
structure Serving (Header : Type) where
  headers : List Header
  phase : HandlerPhase Header := .received
  /-- The headers of the store when the handler chose its indexes. -/
  chosenFrom : List Header := []
  /-- Each lookup with the headers that it was made in. -/
  lookups : List (SegmentIndex × List Header) := []

namespace Serving

inductive Action (Header : Type) where
  | append (header : Header)
  | chooseIndexes
  | lookup
  | respond

section

variable (limit : Nat) (store : ArchiverStore Header) (req : SegmentHeaderRequest)

/-- The indexes of the request, chosen from the store that holds `headers`. -/
def indexes (headers : List Header) : List SegmentIndex :=
  requestedIndexes limit (store.maxSegmentIndex headers) req

def next (s : Serving Header) : Action Header → Option (Serving Header)
  | .append header => some { s with headers := s.headers ++ [header] }
  | .chooseIndexes =>
    match s.phase with
    | .received => some { s with
        phase := .collecting (indexes limit store req s.headers) []
        chosenFrom := s.headers }
    | _ => none
  | .lookup =>
    match s.phase with
    | .collecting (index :: todo) found =>
      let lookups := s.lookups ++ [(index, s.headers)]
      match s.headers[index]? with
      | some header => some { s with
          phase := .collecting todo (found ++ [header])
          lookups := lookups }
      | none => some { s with phase := .answered none, lookups := lookups }
    | _ => none
  | .respond =>
    match s.phase with
    | .collecting [] found => some { s with phase := .answered (some ⟨found⟩) }
    | _ => none

def system : System (Serving Header) (Action Header) := ⟨next limit store req⟩

inductive Step (s : Serving Header) : Action Header → Serving Header → Prop
  | append (header : Header) : Step s (.append header) { s with headers := s.headers ++ [header] }
  | chooseIndexes (at' : s.phase = .received) : Step s .chooseIndexes { s with
      phase := .collecting (indexes limit store req s.headers) []
      chosenFrom := s.headers }
  | found {index : SegmentIndex} {todo : List SegmentIndex} {found : List Header} {header : Header}
      (at' : s.phase = .collecting (index :: todo) found)
      (present : s.headers[index]? = some header) : Step s .lookup { s with
        phase := .collecting todo (found ++ [header])
        lookups := s.lookups ++ [(index, s.headers)] }
  | missed {index : SegmentIndex} {todo : List SegmentIndex} {found : List Header}
      (at' : s.phase = .collecting (index :: todo) found)
      (absent : s.headers[index]? = none) : Step s .lookup { s with
        phase := .answered none
        lookups := s.lookups ++ [(index, s.headers)] }
  | respond {found : List Header} (at' : s.phase = .collecting [] found) :
      Step s .respond { s with phase := .answered (some ⟨found⟩) }

end

variable {limit : Nat} {store : ArchiverStore Header} {req : SegmentHeaderRequest}
  {start : List Header} {s after : Serving Header} {a : Action Header}
  {as : List (Action Header)}

theorem step_of_next (h : next limit store req s a = some after) :
    Step limit store req s a after := by
  cases a with
  | append header =>
    cases h
    exact .append header
  | chooseIndexes =>
    simp only [next] at h
    split at h
    · next at' =>
      cases h
      exact .chooseIndexes at'
    · cases h
  | lookup =>
    simp only [next] at h
    split at h
    · next at' =>
      split at h
      · next present =>
        cases h
        exact .found at' present
      · next absent =>
        cases h
        exact .missed at' absent
    · cases h
  | respond =>
    simp only [next] at h
    split at h
    · next at' =>
      cases h
      exact .respond at'
    · cases h

/-! ### What a run keeps -/

/-- The store grew from `start` to the choice of the indexes, and from there over each lookup to
what it is now. -/
structure Grown (start : List Header) (s : Serving Header) : Prop where
  fromStart : start <+: s.chosenFrom
  toNow : s.chosenFrom <+: s.headers
  between : ∀ lookup ∈ s.lookups, s.chosenFrom <+: lookup.2 ∧ lookup.2 <+: s.headers

theorem Grown.lookup (grown : Grown start s) (index : SegmentIndex) (phase : HandlerPhase Header) :
    Grown start { s with phase := phase, lookups := s.lookups ++ [(index, s.headers)] } := by
  refine ⟨grown.fromStart, grown.toNow, fun lookup mem => ?_⟩
  rcases List.mem_append.mp mem with earlier | now
  · exact grown.between lookup earlier
  · cases List.mem_singleton.mp now
    exact ⟨grown.toNow, List.prefix_refl _⟩

/-- A lookup that finds a header. -/
abbrev Finds (lookup : SegmentIndex × List Header) (header : Header) : Prop :=
  lookup.2[lookup.1]? = some header

/-- Where the handler is, by what it has looked up. -/
inductive Progress (limit : Nat) (store : ArchiverStore Header) (req : SegmentHeaderRequest)
    (start : List Header) (s : Serving Header) : Prop
  | received (at' : s.phase = .received) (grown : start <+: s.headers) (none : s.lookups = [])
  | collecting {todo : List SegmentIndex} {found : List Header}
      (at' : s.phase = .collecting todo found) (grown : Grown start s)
      (order : s.lookups.map (·.1) ++ todo = indexes limit store req s.chosenFrom)
      (all : List.Forall₂ Finds s.lookups found)
  | answered {response : SegmentHeaderResponse Header}
      (at' : s.phase = .answered (some response)) (grown : Grown start s)
      (order : s.lookups.map (·.1) = indexes limit store req s.chosenFrom)
      (all : List.Forall₂ Finds s.lookups response.segmentHeaders)
  | missed {earlier : List (SegmentIndex × List Header)} {found : List Header}
      {lookup : SegmentIndex × List Header} (at' : s.phase = .answered none)
      (grown : Grown start s)
      (order : s.lookups.map (·.1) <+: indexes limit store req s.chosenFrom)
      (last : s.lookups = earlier ++ [lookup]) (all : List.Forall₂ Finds earlier found)
      (absent : lookup.2[lookup.1]? = none)

theorem Progress.step (progress : Progress limit store req start s)
    (step : Step limit store req s a after) : Progress limit store req start after := by
  cases step with
  | append header =>
    have more : s.headers <+: s.headers ++ [header] := List.prefix_append _ _
    have grows (grown : Grown start s) : Grown start { s with headers := s.headers ++ [header] } :=
      ⟨grown.fromStart, grown.toNow.trans more,
        fun lookup mem => (grown.between lookup mem).imp_right (·.trans more)⟩
    cases progress with
    | received at' grown none => exact .received at' (grown.trans more) none
    | collecting at' grown order all => exact .collecting at' (grows grown) order all
    | answered at' grown order all => exact .answered at' (grows grown) order all
    | missed at' grown order last all absent =>
      exact .missed at' (grows grown) order last all absent
  | chooseIndexes at' =>
    cases progress with
    | received _ grown none =>
      refine .collecting rfl ⟨grown, List.prefix_refl _, ?_⟩ ?_ ?_
      · simp [none]
      · simp [none]
      · simp [none]
    | collecting here | answered here | missed here => rw [at'] at here; cases here
  | found at' present =>
    cases progress with
    | collecting here grown order all =>
      rw [at'] at here
      cases here
      refine .collecting rfl (grown.lookup _ _) ?_ ?_
      · simpa using order
      · exact List.rel_append all (.cons present .nil)
    | received here | answered here | missed here => rw [at'] at here; cases here
  | @missed index todo found at' absent =>
    cases progress with
    | collecting here grown order all =>
      rw [at'] at here
      cases here
      refine .missed rfl (grown.lookup _ _) ⟨todo, ?_⟩ rfl all absent
      simpa using order
    | received here | answered here | missed here => rw [at'] at here; cases here
  | respond at' =>
    cases progress with
    | collecting here grown order all =>
      rw [at'] at here
      cases here
      exact .answered rfl ⟨grown.fromStart, grown.toNow, grown.between⟩ (by simpa using order) all
    | received here | answered here | missed here => rw [at'] at here; cases here

theorem run_progress (run : (system limit store req).Run { headers := start } as s) :
    Progress limit store req start s := by
  refine run.invariant (I := fun _ s => Progress limit store req start s)
    (.received rfl (List.prefix_refl _) rfl) ?_
  intro as t a u progress _ hnext
  exact progress.step (step_of_next hnext)

/-! ### The answer -/

/-- What the handler has looked up for an answer: each index in turn, up to one that is missing. -/
inductive Answer (limit : Nat) (store : ArchiverStore Header) (req : SegmentHeaderRequest)
    (s : Serving Header) : Option (SegmentHeaderResponse Header) → Prop
  | found {response : SegmentHeaderResponse Header}
      (order : s.lookups.map (·.1) = indexes limit store req s.chosenFrom)
      (all : List.Forall₂ Finds s.lookups response.segmentHeaders) :
      Answer limit store req s (some response)
  | missed {earlier : List (SegmentIndex × List Header)} {found : List Header}
      {lookup : SegmentIndex × List Header}
      (order : s.lookups.map (·.1) <+: indexes limit store req s.chosenFrom)
      (last : s.lookups = earlier ++ [lookup]) (all : List.Forall₂ Finds earlier found)
      (absent : lookup.2[lookup.1]? = none) : Answer limit store req s none

theorem Progress.answer {answer : Option (SegmentHeaderResponse Header)}
    (progress : Progress limit store req start s) (at' : s.phase = .answered answer) :
    Grown start s ∧ Answer limit store req s answer := by
  cases progress with
  | received here | collecting here => rw [at'] at here; cases here
  | answered here grown order all =>
    rw [at'] at here
    cases here
    exact ⟨grown, .found order all⟩
  | missed here grown order last all absent =>
    rw [at'] at here
    cases here
    exact ⟨grown, .missed order last all absent⟩

theorem exists_answer_of_collecting {todo : List SegmentIndex} {found : List Header}
    (at' : s.phase = .collecting todo found) :
    ∃ as t answer, (system limit store req).Run s as t ∧ t.phase = .answered answer := by
  induction todo generalizing s found with
  | nil =>
    refine ⟨[.respond], _, _, .next .start (u := { s with phase := .answered (some ⟨found⟩) }) ?_,
      rfl⟩
    simp [system, next, at']
  | cons index todo ih =>
    cases present : s.headers[index]? with
    | none =>
      refine ⟨[.lookup], { s with
        phase := .answered none
        lookups := s.lookups ++ [(index, s.headers)] }, none, .next .start ?_, rfl⟩
      simp [system, next, at', present]
    | some header =>
      obtain ⟨as, t, answer, run, answered⟩ := ih (s := { s with
        phase := .collecting todo (found ++ [header])
        lookups := s.lookups ++ [(index, s.headers)] }) rfl
      refine ⟨.lookup :: as, t, answer, .cons ?_ run, answered⟩
      simp [system, next, at', present]

/-- The handler comes to an answer by its own steps. -/
theorem exists_answer (s : Serving Header) :
    ∃ as t answer, (system limit store req).Run s as t ∧ t.phase = .answered answer := by
  cases at' : s.phase with
  | received =>
    let chosen : Serving Header := { s with
      phase := .collecting (indexes limit store req s.headers) []
      chosenFrom := s.headers }
    have step : (system limit store req).next s .chooseIndexes = some chosen := by
      simp [system, next, at', chosen]
    obtain ⟨as, t, answer, run, answered⟩ := exists_answer_of_collecting (s := chosen) rfl
    exact ⟨.chooseIndexes :: as, t, answer, .cons step run, answered⟩
  | collecting todo found => exact exists_answer_of_collecting at'
  | answered answer => exact ⟨[], s, answer, .start, at'⟩

theorem map_of_finds {lookups : List (SegmentIndex × List Header)} {headers : List Header}
    (all : List.Forall₂ Finds lookups headers) :
    lookups.map (fun lookup => lookup.2[lookup.1]?) = headers.map some := by
  induction all with
  | nil => rfl
  | cons finds _ ih => rw [List.map_cons, List.map_cons, finds, ih]

theorem lt_of_finds {lookups : List (SegmentIndex × List Header)} {headers : List Header}
    (all : List.Forall₂ Finds lookups headers) :
    ∀ lookup ∈ lookups, lookup.1 < lookup.2.length := by
  induction all with
  | nil => nofun
  | cons finds _ ih =>
    exact List.forall_mem_cons.mpr ⟨(List.getElem?_eq_some_iff.mp finds).1, ih⟩

theorem getElem?_of_grown {base headers : List Header} {index : Nat} (grown : base <+: headers)
    (present : index < base.length) : headers[index]? = base[index]? := by
  obtain ⟨more, rfl⟩ := grown
  exact List.getElem?_append_left present

/-- A handler whose indexes were all in the store from the start answers with the headers that were
there. -/
theorem answer_of_present {base : List Header} {answer : Option (SegmentHeaderResponse Header)}
    (progress : Progress limit store req start s) (at' : s.phase = .answered answer)
    (grown : base <+: s.chosenFrom)
    (present : ∀ index ∈ indexes limit store req s.chosenFrom, index < base.length) :
    ∃ response, answer = some response ∧ response.segmentHeaders.map some =
      (indexes limit store req s.chosenFrom).map (base[·]?) := by
  obtain ⟨after, reads⟩ := progress.answer at'
  cases reads with
  | @found response order all =>
    refine ⟨response, rfl, ?_⟩
    rw [← map_of_finds all, ← order, List.map_map]
    refine List.map_congr_left fun lookup mem => ?_
    refine getElem?_of_grown (grown.trans (after.between lookup mem).1) (present _ ?_)
    rw [← order]
    exact List.mem_map_of_mem mem
  | @missed _ _ lookup order last _ absent =>
    have mem : lookup ∈ s.lookups := last ▸ List.mem_append_right _ (.head _)
    have there := present lookup.1 (order.subset (List.mem_map_of_mem mem))
    rw [getElem?_of_grown (grown.trans (after.between lookup mem).1) there] at absent
    exact absurd there (Nat.not_lt.mpr (List.getElem?_eq_none_iff.mp absent))

/-- The indexes `m, m - 1, ...` of a store with the newest index `m`, at most `count` of them. -/
def newestIndexes (m count : Nat) : List SegmentIndex := (List.range (m + 1)).reverse.take count

theorem indexes_lastSegmentHeaders (limit : Nat) (store : ArchiverStore Header) (n : Nat)
    (headers : List Header) :
    indexes limit store (.lastSegmentHeaders n) headers =
      newestIndexes (headers.length - 1) (min n limit) := by
  rw [indexes, requestedIndexes_lastSegmentHeaders, store.getD_maxSegmentIndex]
  rfl

theorem lt_of_mem_newestIndexes {m count index : Nat} (mem : index ∈ newestIndexes m count) :
    index < m + 1 := by
  have := List.mem_of_mem_take mem
  rwa [List.mem_reverse, List.mem_range] at this

/-- The newest headers, read at their indexes. -/
theorem map_newestIndexes {headers : List Header} (stored : headers ≠ []) (count : Nat) :
    (newestIndexes (headers.length - 1) count).map (headers[·]?) =
      (headers.reverse.take count).map some := by
  have positive := List.length_pos_iff.mpr stored
  have all : (List.range headers.length).map (headers[·]?) = headers.map some := by
    refine List.ext_getElem? fun index => ?_
    rw [List.getElem?_map, List.getElem?_map]
    rcases Nat.lt_or_ge index headers.length with inside | beyond
    · rw [List.getElem?_range inside, Option.map_some, List.getElem?_eq_getElem inside,
        Option.map_some]
    · rw [List.getElem?_eq_none beyond, List.getElem?_eq_none (by simpa using beyond)]
      rfl
  rw [newestIndexes, Nat.sub_add_cancel positive, List.map_take, List.map_reverse, all,
    ← List.map_reverse, ← List.map_take]

/-- What a request that names its indexes is answered. -/
structure AnswersNamed (segmentIndexes : List SegmentIndex) (s : Serving Header)
    (answer : Option (SegmentHeaderResponse Header)) : Prop where
  inOrder : s.lookups.map (·.1) <+: segmentIndexes
  some_iff : answer.isSome ↔ s.lookups.map (·.1) = segmentIndexes ∧
    ∀ lookup ∈ s.lookups, lookup.1 < lookup.2.length
  missing : answer = none → ∃ lookup ∈ s.lookups, lookup.2.length ≤ lookup.1
  positions : ∀ response, answer = some response →
    s.lookups.map (fun lookup => lookup.2[lookup.1]?) = response.segmentHeaders.map some

/-- What a request for the newest headers is answered, where `m` is the newest index of the store
when the indexes were chosen. -/
structure AnswersNewest (limit : Nat) (store : ArchiverStore Header) (start : List Header) (n : Nat)
    (s : Serving Header) (m : SegmentIndex) (response : SegmentHeaderResponse Header) : Prop where
  max : m = (store.maxSegmentIndex s.chosenFrom).getD 0
  chosen : start <+: s.chosenFrom ∧ s.chosenFrom <+: s.headers
  count : response.segmentHeaders.length = min n (min limit (m + 1))
  descending : ∀ k < response.segmentHeaders.length,
    k ≤ m ∧ response.segmentHeaders[k]? = s.chosenFrom[m - k]?
  explicit : ∀ start' as' s' answer', s.chosenFrom <+: start' →
    (system limit store (.segmentIndexes (newestIndexes m (min n limit)))).Run
      { headers := start' } as' s' →
    s'.phase = .answered answer' → answer' = some response

theorem answersNamed {segmentIndexes : List SegmentIndex}
    {answer : Option (SegmentHeaderResponse Header)}
    (progress : Progress limit store (.segmentIndexes segmentIndexes) start s)
    (at' : s.phase = .answered answer) : AnswersNamed segmentIndexes s answer := by
  obtain ⟨-, reads⟩ := progress.answer at'
  cases reads with
  | found order all =>
    have order : s.lookups.map (·.1) = segmentIndexes := order
    refine ⟨order ▸ List.prefix_refl _, iff_of_true rfl ⟨order, lt_of_finds all⟩, nofun, ?_⟩
    rintro _ ⟨⟩
    exact map_of_finds all
  | @missed _ _ lookup order last _ absent =>
    have mem : lookup ∈ s.lookups := last ▸ List.mem_append_right _ (.head _)
    have out := List.getElem?_eq_none_iff.mp absent
    refine ⟨order, iff_of_false nofun fun ⟨_, present⟩ => ?_, fun _ => ⟨lookup, mem, out⟩, nofun⟩
    exact absurd (present lookup mem) (Nat.not_lt.mpr out)

theorem answersNewest {n : Nat} {answer : Option (SegmentHeaderResponse Header)}
    (progress : Progress limit store (.lastSegmentHeaders n) start s)
    (at' : s.phase = .answered answer) (stored : s.chosenFrom ≠ []) :
    ∃ m response, answer = some response ∧ AnswersNewest limit store start n s m response := by
  have positive := List.length_pos_iff.mpr stored
  have present : ∀ index ∈ newestIndexes (s.chosenFrom.length - 1) (min n limit),
      index < s.chosenFrom.length := by
    intro index mem
    have := lt_of_mem_newestIndexes mem
    rwa [Nat.sub_add_cancel positive] at this
  obtain ⟨response, rfl, read⟩ := answer_of_present progress at' (List.prefix_refl s.chosenFrom)
    (by rwa [indexes_lastSegmentHeaders])
  rw [indexes_lastSegmentHeaders, map_newestIndexes stored,
    List.map_inj_right fun _ _ => Option.some.inj] at read
  obtain ⟨grown, -⟩ := progress.answer at'
  refine ⟨s.chosenFrom.length - 1, response, rfl, ?_⟩
  refine ⟨(store.getD_maxSegmentIndex _).symm, ⟨grown.fromStart, grown.toNow⟩, ?_, ?_, ?_⟩
  · rw [read, List.length_take, List.length_reverse]
    omega
  · intro k inside
    rw [read, List.length_take, List.length_reverse] at inside
    refine ⟨by omega, ?_⟩
    rw [read, List.getElem?_take_of_lt (by omega), List.getElem?_reverse (by omega)]
  · intro start' as' s' answer' grown' run' answered'
    have progress' := run_progress run'
    obtain ⟨after, -⟩ := progress'.answer answered'
    obtain ⟨response', rfl, read'⟩ := answer_of_present progress' answered'
      (grown'.trans after.fromStart) present
    -- The same indexes are read in a store that still has the same headers there.
    have same : response'.segmentHeaders.map some = response.segmentHeaders.map some := by
      rw [read', read, ← map_newestIndexes stored]
      rfl
    cases response
    cases response'
    rw [List.map_inj_right fun _ _ => Option.some.inj] at same
    cases same
    rfl

theorem answersEmpty {n : Nat} {answer : Option (SegmentHeaderResponse Header)}
    (progress : Progress limit store (.lastSegmentHeaders n) start s)
    (at' : s.phase = .answered answer) (asked : 0 < n) (positive : 0 < limit)
    (empty : s.headers = []) : answer = none := by
  obtain ⟨after, reads⟩ := progress.answer at'
  cases reads with
  | missed => rfl
  | found order all =>
    -- The handler asks for the header 0, which is in no store of the run.
    have nothing : s.chosenFrom = [] := List.prefix_nil.mp (empty ▸ after.toNow)
    have genesis : (0 : SegmentIndex) ∈ s.lookups.map (·.1) := by
      rw [order, indexes_lastSegmentHeaders, nothing, newestIndexes]
      have : 0 < min n limit := by omega
      cases count : min n limit with
      | zero => omega
      | succ count => simp
    obtain ⟨lookup, mem, -⟩ := List.mem_map.mp genesis
    have none : lookup.2 = [] := List.prefix_nil.mp (empty ▸ (after.between lookup mem).2)
    have := lt_of_finds all lookup mem
    simp [none] at this

/-- Where the archiver appends nothing, the handler answers and looks up as it does on the store as
a whole. -/
theorem answer_of_unchanged {answer : Option (SegmentHeaderResponse Header)}
    (progress : Progress limit store req start s) (at' : s.phase = .answered answer)
    (unchanged : s.headers = start) :
    answer = getSegmentHeaderBySegmentIndexes limit req (store.view start) ∧
      s.lookups.map (·.1) = headerLookups limit req (store.view start) := by
  have between {headers : List Header} (grown : start <+: headers) (ended : headers <+: s.headers) :
      headers = start :=
    ((grown.eq_of_length_le) (unchanged ▸ ended.length_le)).symm
  have static {lookups : List (SegmentIndex × List Header)} {headers : List Header}
      (after : Grown start s) (sub : ∀ lookup ∈ lookups, lookup ∈ s.lookups)
      (all : List.Forall₂ Finds lookups headers) :
      List.Forall₂ (fun index header => (store.view start).getSegmentHeader index = some header)
        (lookups.map (·.1)) headers := by
    induction all with
    | nil => exact .nil
    | @cons lookup header _ _ finds _ ih =>
      obtain ⟨here, rest⟩ := List.forall_mem_cons.mp sub
      obtain ⟨below, above⟩ := after.between lookup here
      refine .cons ?_ (ih rest)
      rwa [Finds, between (after.fromStart.trans below) above] at finds
  obtain ⟨after, reads⟩ := progress.answer at'
  cases reads with
  | found order all =>
    have found := static after (fun _ mem => mem) all
    rw [order, between after.fromStart after.toNow] at found
    have collected := collect_eq_some_iff.mpr found
    refine ⟨(congrArg (Option.map SegmentHeaderResponse.mk) collected).symm, ?_⟩
    rw [order, between after.fromStart after.toNow]
    exact (asked_eq_of_collect collected).symm
  | @missed earlier found lookup order last all absent =>
    have mem : lookup ∈ s.lookups := last ▸ List.mem_append_right _ (.head _)
    have found := static after (fun _ mem => last ▸ List.mem_append_left _ mem) all
    obtain ⟨below, above⟩ := after.between lookup mem
    rw [between (after.fromStart.trans below) above] at absent
    obtain ⟨rest, split⟩ := order
    rw [last, List.map_append, List.append_assoc, between after.fromStart after.toNow] at split
    refine ⟨(Option.map_eq_none_iff.mpr (collect_eq_none_iff.mpr ⟨lookup.1, ?_, absent⟩)).symm, ?_⟩
    · show lookup.1 ∈ indexes limit store req start
      rw [← split]
      exact List.mem_append_right _ (.head _)
    · show _ = asked _ (indexes limit store req start)
      rw [← split, last, List.map_append]
      exact (asked_of_missing found absent rest).symm

/-- The handler comes to an answer, and whatever the archiver appends meanwhile, the answer is the
one that the request asks for. -/
theorem serving_answers (limit : Nat) (store : ArchiverStore Header) (req : SegmentHeaderRequest)
    (positive : 0 < limit) (start : List Header) {as : List (Action Header)} {s : Serving Header}
    (run : (system limit store req).Run { headers := start } as s) :
    (∃ bs t answer, (system limit store req).Run s bs t ∧ t.phase = .answered answer) ∧
    ∀ answer, s.phase = .answered answer →
      (∀ segmentIndexes, req = .segmentIndexes segmentIndexes →
        AnswersNamed segmentIndexes s answer) ∧
      ∀ n, req = .lastSegmentHeaders n →
        (s.chosenFrom ≠ [] → ∃ m response, answer = some response ∧
          AnswersNewest limit store start n s m response) ∧
        (0 < n → s.headers = [] → answer = none) := by
  refine ⟨exists_answer s, fun answer at' => ⟨?_, ?_⟩⟩
  · rintro segmentIndexes rfl
    exact answersNamed (run_progress run) at'
  · rintro n rfl
    exact ⟨answersNewest (run_progress run) at',
      fun asked empty => answersEmpty (run_progress run) at' asked positive empty⟩

/-- Three headers are asked for of a store with two, to which the archiver appends a third while the
handler looks them up. -/
theorem serving_answers_appended :
    ∃ s : Serving Nat, s.phase = .answered (some ⟨[11, 10]⟩) ∧
      ∃ m response, some ⟨[11, 10]⟩ = some response ∧
        AnswersNewest 1000 .indexed [10, 11] 3 s m response := by
  have run : (system 1000 .indexed (.lastSegmentHeaders 3)).Run { headers := [10, 11] }
      [.chooseIndexes, .lookup, .append 12, .lookup, .respond]
      { headers := [10, 11, 12]
        phase := .answered (some ⟨[11, 10]⟩)
        chosenFrom := [10, 11]
        lookups := [(1, [10, 11]), (0, [10, 11, 12])] } :=
    System.RunIf.of_exec rfl
  obtain ⟨-, answers⟩ := serving_answers 1000 .indexed (.lastSegmentHeaders 3) (by decide)
    [10, 11] run
  exact ⟨_, rfl, ((answers _ rfl).2 3 rfl).1 (by decide)⟩

end Serving

end SubspaceSdk
