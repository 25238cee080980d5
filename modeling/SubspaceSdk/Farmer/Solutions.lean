import SubspaceSdk.ProofKit.Channel
import SubspaceSdk.ProofKit.History

/-! The solutions of a farm: a callback of the farm sends each of them to a watch channel, and any
number of subscribers poll their streams of that channel at their own pace.  A stream leaves out the
value that the channel starts with. -/

namespace SubspaceSdk

open ProofKit

variable {Solution : Type}

/-- A stream of `subscribe_new_solutions`, with what its subscriber received. -/
structure SolutionStream (Solution : Type) where
  watch : WatchStream := {}
  received : List Solution := []
  ended : Bool := false

/-- A poll of the watch stream under `filter_map`. -/
def SolutionStream.poll (stream : SolutionStream Solution) (solutions : Watch (Option Solution)) :
    SolutionStream Solution :=
  match stream.watch.poll solutions with
  | .ready => { stream with
      watch := ⟨some solutions.version⟩
      received := stream.received ++ solutions.value.toList }
  | .ended => { stream with ended := true }
  | .pending => stream

/-- The watch channel of a farm's solutions, and its streams by subscription. -/
structure Solutions (Solution : Type) where
  solutions : Watch (Option Solution) := { value := none }
  streams : Nat → Option (SolutionStream Solution) := fun _ => none

namespace Solutions

inductive Action (Solution : Type) where
  /-- `on_solution`. -/
  | solution (solution : Solution)
  /-- The callback, which owns the sender, is dropped. -/
  | dropSender
  /-- `subscribe_new_solutions`. -/
  | subscribe (i : Nat)
  | poll (i : Nat)

def Action.solution? : Action Solution → Option Solution
  | .solution found => some found
  | _ => none

def setStream (s : Solutions Solution) (i : Nat) (stream : SolutionStream Solution) :
    Solutions Solution :=
  { s with streams := fun j => if j = i then some stream else s.streams j }

def next (s : Solutions Solution) : Action Solution → Option (Solutions Solution)
  | .solution found =>
    if s.solutions.senderAlive then some { s with solutions := s.solutions.send (some found) }
    else none
  | .dropSender => some { s with solutions := s.solutions.dropSender }
  | .subscribe i =>
    match s.streams i with
    | none => some (s.setStream i {})
    | some _ => none
  | .poll i =>
    match s.streams i with
    | none => none
    | some stream => some (s.setStream i (stream.poll s.solutions))

variable (Solution) in
def system : System (Solutions Solution) (Action Solution) := ⟨next⟩

variable {s t : Solutions Solution} {a : Action Solution} {as : List (Action Solution)}
variable {i : Nat} {stream : SolutionStream Solution} {ks : List Nat}

variable (s) in
inductive Step : Action Solution → Solutions Solution → Prop
  | solution (found : Solution) (alive : s.solutions.senderAlive = true) :
      Step (.solution found) { s with solutions := s.solutions.send (some found) }
  | dropSender : Step .dropSender { s with solutions := s.solutions.dropSender }
  | subscribe (i : Nat) (absent : s.streams i = none) : Step (.subscribe i) (s.setStream i {})
  | poll (i : Nat) {stream : SolutionStream Solution} (here : s.streams i = some stream) :
      Step (.poll i) (s.setStream i (stream.poll s.solutions))

theorem step_of_next (h : (system Solution).next s a = some t) : Step s a t := by
  cases a with
  | solution found =>
    simp only [system, next] at h
    split at h
    · next alive =>
      cases h
      exact .solution found alive
    · cases h
  | dropSender =>
    cases h
    exact .dropSender
  | subscribe i =>
    simp only [system, next] at h
    split at h
    · next absent =>
      cases h
      exact .subscribe i absent
    · cases h
  | poll i =>
    simp only [system, next] at h
    split at h
    · cases h
    · next stream here =>
      cases h
      exact .poll i here

/-! ### The channel -/

/-- The solutions that the farm has found, oldest first. -/
def found (as : List (Action Solution)) : List Solution := as.filterMap Action.solution?

theorem found_append (as : List (Action Solution)) (a : Action Solution) :
    found (as ++ [a]) = found as ++ a.solution?.toList := by
  rw [found, List.filterMap_append]
  cases own : a.solution? <;> simp [found, own]

theorem found_other (as : List (Action Solution)) (other : a.solution? = none) :
    found (as ++ [a]) = found as := by
  rw [found_append, other]
  exact List.append_nil _

/-- The channel holds the latest solution, and its version counts them. -/
structure Latest (as : List (Action Solution)) (s : Solutions Solution) : Prop where
  version : s.solutions.version = (found as).length
  value : s.solutions.value = (found as).getLast?

theorem Latest.step (latest : Latest as s) (step : Step s a t) : Latest (as ++ [a]) t := by
  obtain ⟨version, value⟩ := latest
  cases step with
  | solution solution =>
    refine ⟨?_, ?_⟩
    · show s.solutions.version + 1 = _
      rw [version, found_append]
      simp [Action.solution?]
    · show some solution = _
      rw [found_append]
      simp [Action.solution?]
  | dropSender | subscribe | poll =>
    refine ⟨?_, ?_⟩
    · rw [found_other as rfl]
      exact version
    · rw [found_other as rfl]
      exact value

theorem run_latest (run : (system Solution).Run {} as t) : Latest as t :=
  run.invariant (I := Latest) ⟨rfl, rfl⟩ fun _ _ _ _ latest _ hnext =>
    latest.step (step_of_next hnext)

/-! ### A stream -/

/-- The stream was polled while solution number `k` was the latest. -/
def PolledAt (as : List (Action Solution)) (i k : Nat) : Prop :=
  ∃ m u, (system Solution).At {} as m u (.poll i) ∧ (found (as.take m)).length = k + 1

theorem polledAt_snoc (run : (system Solution).Run {} as s) {k : Nat} :
    PolledAt (as ++ [a]) i k ↔ PolledAt as i k ∨ a = .poll i ∧ (found as).length = k + 1 := by
  constructor
  · rintro ⟨m, u, at', count⟩
    rcases at'.cases_snoc run with earlier | ⟨rfl, -, same⟩
    · rw [List.take_append_of_le_length (Nat.le_of_lt earlier.lt)] at count
      exact .inl ⟨m, u, earlier, count⟩
    · rw [List.take_left] at count
      exact .inr ⟨same.symm, count⟩
  · rintro (⟨m, u, at', count⟩ | ⟨rfl, count⟩)
    · refine ⟨m, u, at'.snoc a, ?_⟩
      rwa [List.take_append_of_le_length (Nat.le_of_lt at'.lt)]
    · refine ⟨as.length, s, run.at_last _, ?_⟩
      rwa [List.take_left]

/-- A stream that is not subscribed so far was not polled. -/
theorem not_polledAt (run : (system Solution).Run {} as t) (absent : t.streams i = none) (k : Nat) :
    ¬PolledAt as i k := by
  induction run with
  | start =>
    rintro ⟨m, u, at', -⟩
    cases at'.taken
  | @step as a s t before _ hnext ih =>
    have unset (j : Nat) (own : SolutionStream Solution)
        (there : (s.setStream j own).streams i = none) : j ≠ i ∧ s.streams i = none := by
      by_cases same : i = j
      · simp [setStream, same] at there
      · exact ⟨Ne.symm same, by simpa [setStream, same] using there⟩
    rw [polledAt_snoc before]
    cases step_of_next hnext with
    | solution | dropSender =>
      rintro (earlier | ⟨same, -⟩)
      · exact ih absent earlier
      · cases same
    | subscribe j =>
      rintro (earlier | ⟨same, -⟩)
      · exact ih (unset j _ absent).2 earlier
      · cases same
    | poll j =>
      rintro (earlier | ⟨same, -⟩)
      · exact ih (unset j _ absent).2 earlier
      · cases same
        exact (unset i _ absent).1 rfl

/-- What a stream has received, by the numbers `ks` of the solutions. -/
structure Watching (as : List (Action Solution)) (s : Solutions Solution) (i : Nat)
    (stream : SolutionStream Solution) (ks : List Nat) : Prop where
  ordered : ks.Pairwise (· < ·)
  received : stream.received = ks.filterMap ((found as)[·]?)
  polled : ∀ k, k ∈ ks ↔ PolledAt as i k
  upTo : ∀ k ∈ ks, ∃ v, stream.watch.seen = some v ∧ k < v
  seen : ∀ v, stream.watch.seen = some v → v ≤ s.solutions.version ∧ (0 < v → v - 1 ∈ ks)
  ended : stream.ended = true → s.solutions.senderAlive = false ∧
    stream.watch.seen = some s.solutions.version

theorem Watching.lt_length (watching : Watching as s i stream ks) (latest : Latest as s) {k : Nat}
    (mem : k ∈ ks) : k < (found as).length := by
  obtain ⟨v, seen, below⟩ := watching.upTo k mem
  have most := (watching.seen v seen).1
  have version := latest.version
  omega

/-- A step that is no poll of the stream. -/
theorem Watching.other (watching : Watching as s i stream ks) (latest : Latest as s)
    (run : (system Solution).Run {} as s) (other : a ≠ .poll i)
    (version : s.solutions.version ≤ t.solutions.version)
    (sender : s.solutions.senderAlive = false → t.solutions.senderAlive = false ∧
      t.solutions.version = s.solutions.version) : Watching (as ++ [a]) t i stream ks := by
  refine ⟨watching.ordered, ?_, fun k => ?_, watching.upTo, fun v seen => ?_, fun ended => ?_⟩
  · rw [watching.received]
    refine List.filterMap_congr fun k mem => ?_
    rw [found_append, List.getElem?_append_left (watching.lt_length latest mem)]
  · rw [polledAt_snoc run, watching.polled k]
    exact ⟨.inl, fun seen => seen.resolve_right fun last => other last.1⟩
  · have ⟨most, mem⟩ := watching.seen v seen
    exact ⟨by omega, mem⟩
  · obtain ⟨dead, seen⟩ := watching.ended ended
    obtain ⟨dead', same⟩ := sender dead
    exact ⟨dead', by rw [same]; exact seen⟩

/-- A poll that finds a new version. -/
theorem Watching.fresh (watching : Watching as s i stream ks) (latest : Latest as s)
    (run : (system Solution).Run {} as s) (fresh : stream.watch.seen ≠ some s.solutions.version) :
    ∃ ks', Watching (as ++ [.poll i]) (s.setStream i (stream.poll s.solutions)) i
      (stream.poll s.solutions) ks' := by
  have same : found (as ++ [.poll i]) = found as := found_other as rfl
  have polls : stream.poll s.solutions = { stream with
      watch := ⟨some s.solutions.version⟩
      received := stream.received ++ s.solutions.value.toList } := by
    rw [SolutionStream.poll, WatchStream.poll_fresh fresh]
  have below : ∀ k ∈ ks, k + 1 < s.solutions.version := by
    intro k mem
    obtain ⟨v, seen, less⟩ := watching.upTo k mem
    have most := (watching.seen v seen).1
    have ne : v ≠ s.solutions.version := fun is => fresh (is ▸ seen)
    omega
  have alive : stream.ended = false := by
    cases ended : stream.ended with
    | false => rfl
    | true => exact absurd (watching.ended ended).2 fresh
  have version := latest.version
  have polled (k : Nat) :
      PolledAt (as ++ [.poll i]) i k ↔ k ∈ ks ∨ s.solutions.version = k + 1 := by
    rw [polledAt_snoc run, watching.polled k, version]
    simp
  rw [polls]
  by_cases none : s.solutions.version = 0
  · have empty : found as = [] := List.eq_nil_of_length_eq_zero (by omega)
    refine ⟨ks, watching.ordered, ?_, fun k => ?_, fun k mem => ?_, fun v seen => ?_, ?_⟩
    · rw [same, latest.value, empty]
      simpa [empty] using watching.received
    · rw [polled k]
      exact ⟨.inl, fun either => either.resolve_right fun is => by omega⟩
    · have := below k mem
      omega
    · cases seen
      exact ⟨Nat.le_refl _, fun pos => absurd none (Nat.ne_of_gt pos)⟩
    · intro ended
      exact absurd (alive.symm.trans ended) Bool.false_ne_true
  · refine ⟨ks ++ [s.solutions.version - 1], ?_, ?_, fun k => ?_, fun k mem => ?_,
      fun v seen => ?_, ?_⟩
    · refine List.pairwise_append.mpr ⟨watching.ordered, List.pairwise_singleton _ _, ?_⟩
      intro k mem last is
      rw [List.mem_singleton] at is
      have := below k mem
      omega
    · rw [same, List.filterMap_append, ← watching.received, latest.value, List.getLast?_eq_getElem?,
        version]
      congr 1
    · rw [polled k, List.mem_append, List.mem_singleton]
      refine or_congr_right ⟨fun is => ?_, fun is => ?_⟩ <;> omega
    · refine ⟨s.solutions.version, rfl, ?_⟩
      rcases List.mem_append.mp mem with before | last
      · have := below k before
        omega
      · rw [List.mem_singleton] at last
        omega
    · cases seen
      exact ⟨Nat.le_refl _, fun _ => List.mem_append_right _ List.mem_cons_self⟩
    · intro ended
      exact absurd (alive.symm.trans ended) Bool.false_ne_true

/-- A poll that finds nothing new. -/
theorem Watching.stale (watching : Watching as s i stream ks) (latest : Latest as s)
    (run : (system Solution).Run {} as s) (stale : stream.watch.seen = some s.solutions.version) :
    Watching (as ++ [.poll i]) (s.setStream i (stream.poll s.solutions)) i
      (stream.poll s.solutions) ks := by
  have same : found (as ++ [.poll i]) = found as := found_other as rfl
  have polled (k : Nat) : k ∈ ks ↔ PolledAt (as ++ [.poll i]) i k := by
    rw [polledAt_snoc run, ← watching.polled k, ← latest.version]
    refine ⟨.inl, fun either => either.elim id fun ⟨_, is⟩ => ?_⟩
    have last := (watching.seen _ stale).2 (by omega)
    rwa [is, Nat.add_sub_cancel] at last
  have kept (stream' : SolutionStream Solution) (watch : stream'.watch = stream.watch)
      (received : stream'.received = stream.received)
      (ended : stream'.ended = true → s.solutions.senderAlive = false) :
      Watching (as ++ [.poll i]) (s.setStream i stream') i stream' ks := by
    refine ⟨watching.ordered, ?_, polled, ?_, ?_, fun is => ⟨ended is, ?_⟩⟩
    · rw [received, same]
      exact watching.received
    · rw [watch]
      exact watching.upTo
    · rw [watch]
      exact watching.seen
    · rw [watch]
      exact stale
  rw [SolutionStream.poll, WatchStream.poll_seen stale]
  cases alive : s.solutions.senderAlive with
  | true => exact kept stream rfl rfl fun ended => (watching.ended ended).1
  | false => exact kept { stream with ended := true } rfl rfl fun _ => alive

theorem run_watching (run : (system Solution).Run {} as t) (here : t.streams i = some stream) :
    ∃ ks, Watching as t i stream ks := by
  induction run generalizing stream with
  | start => cases here
  | @step as a s t before _ hnext ih =>
    have latest := run_latest before
    have step := step_of_next hnext
    have others (j : Nat) (own : SolutionStream Solution) (ne : j ≠ i)
        (there : (s.setStream j own).streams i = some stream) : s.streams i = some stream := by
      simpa [setStream, Ne.symm ne] using there
    cases step with
    | solution found alive =>
      obtain ⟨ks, watching⟩ := ih here
      refine ⟨ks, watching.other latest before (fun same => by cases same) (Nat.le_succ _)
        fun dead => absurd (dead.symm.trans alive) Bool.false_ne_true⟩
    | dropSender =>
      obtain ⟨ks, watching⟩ := ih here
      exact ⟨ks, watching.other latest before (fun same => by cases same) (Nat.le_refl _)
        fun _ => ⟨rfl, rfl⟩⟩
    | subscribe j absent =>
      by_cases own : j = i
      · subst own
        have new : stream = {} := by simpa [setStream, eq_comm] using here
        subst new
        refine ⟨[], .nil, rfl, fun k => ⟨fun mem => (List.not_mem_nil mem).elim, ?_⟩,
          List.forall_mem_nil _, fun v seen => (Option.some_ne_none v seen.symm).elim,
          fun ended => (Bool.false_ne_true ended).elim⟩
        rw [polledAt_snoc before]
        rintro (earlier | ⟨same, -⟩)
        · exact absurd earlier (not_polledAt before absent k)
        · cases same
      · obtain ⟨ks, watching⟩ := ih (others j {} own here)
        exact ⟨ks, watching.other latest before (fun same => by cases same) (Nat.le_refl _)
          fun dead => ⟨dead, rfl⟩⟩
    | @poll j old there =>
      by_cases own : j = i
      · subst own
        have polled : stream = old.poll s.solutions := by simpa [setStream, eq_comm] using here
        subst polled
        obtain ⟨ks, watching⟩ := ih there
        by_cases fresh : old.watch.seen = some s.solutions.version
        · exact ⟨ks, watching.stale latest before fresh⟩
        · exact watching.fresh latest before fresh
      · obtain ⟨ks, watching⟩ := ih (others j _ own here)
        refine ⟨ks, watching.other latest before (fun same => ?_) (Nat.le_refl _)
          fun dead => ⟨dead, rfl⟩⟩
        cases same
        exact own rfl

/-- In every run, at whatever pace a subscriber polls: it receives, in the order in which they were
found and each of them once, exactly the solutions that were the latest at one of its polls.  Its
stream ends only when the farm's callback is gone, and then it has received the last solution. -/
theorem run_solutions (run : (system Solution).Run {} as t) (here : t.streams i = some stream) :
    ∃ ks : List Nat, ks.Pairwise (· < ·) ∧ (∀ k ∈ ks, k < (found as).length) ∧
      stream.received = ks.filterMap ((found as)[·]?) ∧
      (∀ k, k ∈ ks ↔ ∃ m u, (system Solution).At {} as m u (.poll i) ∧
        (found (as.take m)).length = k + 1) ∧
      (stream.ended = true → t.solutions.senderAlive = false ∧
        ∀ k, (found as).length = k + 1 → k ∈ ks) := by
  have latest := run_latest run
  obtain ⟨ks, watching⟩ := run_watching run here
  refine ⟨ks, watching.ordered, fun k mem => watching.lt_length latest mem, watching.received,
    watching.polled, fun ended => ?_⟩
  obtain ⟨dead, seen⟩ := watching.ended ended
  refine ⟨dead, fun k last => ?_⟩
  rw [← latest.version] at last
  have mem := (watching.seen _ seen).2 (by omega)
  rwa [last, Nat.add_sub_cancel] at mem

/-- The second solution overtakes the first one. -/
def conflated : List (Action Nat) :=
  [.subscribe 0, .poll 0, .solution 7, .solution 8, .poll 0, .dropSender, .poll 0]

theorem run_solutions_conflated :
    ∃ (t : Solutions Nat) (stream : SolutionStream Nat), (system Nat).Run {} conflated t ∧
      t.streams 0 = some stream ∧ t.solutions.senderAlive = false ∧
      ∃ ks : List Nat, stream.received = ks.filterMap ([7, 8][·]?) ∧ 1 ∈ ks := by
  obtain ⟨t, stream, done, here, ended⟩ : ∃ (t : Solutions Nat) (stream : SolutionStream Nat),
      (system Nat).exec (fun _ _ _ => True) [] {} conflated = some t ∧
        t.streams 0 = some stream ∧ stream.ended = true := ⟨_, _, rfl, rfl, rfl⟩
  have run := System.RunIf.of_exec done
  obtain ⟨ks, -, -, received, -, last⟩ := run_solutions run here
  obtain ⟨dead, mem⟩ := last ended
  exact ⟨t, stream, run, here, dead, ks, received, mem 1 rfl⟩

/-! ### Its end -/

def Action.polls (i : Nat) : Action Solution → Bool
  | .poll j => j = i
  | _ => false

theorem polls_iff : a.polls i = true ↔ a = .poll i := by
  cases a <;> simp [Action.polls]

/-- How far a stream has come, by how often it was polled since the callback was dropped. -/
structure Ends (s t : Solutions Solution) (i polls : Nat) : Prop where
  dead : t.solutions.senderAlive = false
  same : t.solutions.version = s.solutions.version
  here : ∃ stream, t.streams i = some stream ∧
    (1 ≤ polls → stream.watch.seen = some t.solutions.version) ∧
    (2 ≤ polls → stream.ended = true)

theorem poll_seen (stream : SolutionStream Solution) (solutions : Watch (Option Solution))
    (dead : solutions.senderAlive = false) :
    (stream.poll solutions).watch.seen = some solutions.version ∧
      (stream.watch.seen = some solutions.version → (stream.poll solutions).ended = true) := by
  by_cases seen : stream.watch.seen = some solutions.version
  · rw [SolutionStream.poll, WatchStream.poll_seen seen, dead]
    exact ⟨seen, fun _ => rfl⟩
  · rw [SolutionStream.poll, WatchStream.poll_fresh seen]
    exact ⟨rfl, fun already => absurd already seen⟩

theorem Ends.step {u : Solutions Solution} {polls : Nat} (ends : Ends s t i polls)
    (step : Step t a u) : Ends s u i (polls + if a.polls i then 1 else 0) := by
  obtain ⟨dead, same, stream, here, seen, ended⟩ := ends
  cases step with
  | solution found alive => exact absurd (dead.symm.trans alive) Bool.false_ne_true
  | dropSender => exact ⟨rfl, same, stream, here, seen, ended⟩
  | subscribe j absent =>
    refine ⟨dead, same, stream, ?_, seen, ended⟩
    by_cases own : i = j
    · rw [← own, here] at absent
      cases absent
    · simpa [setStream, own] using here
  | @poll j old there =>
    by_cases own : j = i
    · subst own
      rw [here, Option.some.injEq] at there
      subst there
      obtain ⟨now, last⟩ := poll_seen stream t.solutions dead
      refine ⟨dead, same, stream.poll t.solutions, by simp [setStream], fun _ => now,
        fun twice => ?_⟩
      have once : 1 ≤ polls := by
        rw [if_pos (polls_iff.mpr rfl)] at twice
        omega
      exact last (seen once)
    · have none : (if (Action.poll j : Action Solution).polls i then 1 else 0) = 0 := by
        simp [Action.polls, own]
      rw [none, Nat.add_zero]
      refine ⟨dead, same, stream, ?_, seen, ended⟩
      simpa [setStream, Ne.symm own] using here

theorem run_ended {bs : List (Action Solution)} {u : Solutions Solution}
    (here : t.streams i = some stream) (dead : t.solutions.senderAlive = false)
    (rest : (system Solution).Run t bs u) : Ends t u i (bs.filter (·.polls i)).length := by
  have start : Ends t t i 0 :=
    ⟨dead, rfl, stream, here, fun none => absurd none (Nat.not_succ_le_zero _),
      fun none => absurd none (Nat.not_succ_le_zero _)⟩
  refine rest.invariant (I := fun bs u => Ends t u i (bs.filter (·.polls i)).length) start ?_
  intro bs u a v ends _ hnext
  rw [List.filter_append, List.length_append]
  have step := ends.step (step_of_next hnext)
  by_cases own : a.polls i = true
  · simpa [own] using step
  · simpa [own] using step

/-- The last of ascending numbers up to `n` is `n`, if that is one of them. -/
theorem eq_append_of_mem {n : Nat} (ordered : ks.Pairwise (· < ·)) (below : ∀ k ∈ ks, k < n + 1)
    (mem : n ∈ ks) : ∃ first, ks = first ++ [n] := by
  obtain rfl | ⟨first, last, rfl⟩ := List.eq_nil_or_concat ks
  · cases mem
  · rw [List.concat_eq_append] at ordered below mem ⊢
    have bound := below last (List.mem_append_right _ List.mem_cons_self)
    rcases List.mem_append.mp mem with before | is
    · have := (List.pairwise_append.mp ordered).2.2 n before last List.mem_cons_self
      omega
    · exact ⟨first, by rw [List.mem_singleton.mp is]⟩

/-- A stream that has seen the latest solution has received it last. -/
theorem Watching.getLast? (watching : Watching as s i stream ks) (latest : Latest as s)
    (seen : stream.watch.seen = some s.solutions.version) :
    stream.received.getLast? = (found as).getLast? := by
  have version := latest.version
  have below : ∀ k ∈ ks, k < (found as).length := fun k mem => watching.lt_length latest mem
  rw [watching.received]
  cases count : (found as).length with
  | zero =>
    have none : ks = [] := List.eq_nil_iff_forall_not_mem.mpr fun k mem => by
      have := below k mem
      omega
    rw [none, List.eq_nil_of_length_eq_zero count]
    rfl
  | succ n =>
    have mem := (watching.seen _ seen).2 (by omega)
    rw [version, count, Nat.add_sub_cancel] at mem
    obtain ⟨first, rfl⟩ := eq_append_of_mem watching.ordered (fun k mem => count ▸ below k mem) mem
    have last : (found as)[n]? = (found as).getLast? := by
      rw [List.getLast?_eq_getElem?, count, Nat.add_sub_cancel]
    have there : (found as)[n]? = some _ :=
      List.getElem?_eq_getElem (show n < (found as).length by omega)
    rw [List.filterMap_append, List.getLast?_append, ← last, List.filterMap_cons_some there, there]
    rfl

/-- Once the callback is gone, a stream has ended after two polls of it, whatever else happens in
between, and the last solution that was found is the last that it has received. -/
theorem run_ends (run : (system Solution).Run {} as t) (here : t.streams i = some stream)
    (dead : t.solutions.senderAlive = false) {bs : List (Action Solution)} {u : Solutions Solution}
    (rest : (system Solution).Run t bs u) (twice : 2 ≤ (bs.filter (·.polls i)).length) :
    ∃ stream, u.streams i = some stream ∧ stream.ended = true ∧
      stream.received.getLast? = (found as).getLast? := by
  obtain ⟨-, same, stream, here', -, ended⟩ := run_ended here dead rest
  have all := run.append rest
  have latest := run_latest all
  obtain ⟨ks, watching⟩ := run_watching all here'
  obtain ⟨-, seen⟩ := watching.ended (ended twice)
  have split : found (as ++ bs) = found as ++ found bs := List.filterMap_append ..
  have none : found bs = [] := by
    have before := (run_latest run).version
    have after := latest.version
    rw [split, List.length_append] at after
    exact List.eq_nil_of_length_eq_zero (by omega)
  have last := watching.getLast? latest seen
  rw [split, none, List.append_nil] at last
  exact ⟨stream, here', ended twice, last⟩

/-- A subscriber is behind when the callback is dropped. -/
theorem run_ends_behind :
    ∃ (t u : Solutions Nat) (stream : SolutionStream Nat),
      (system Nat).Run {} [.subscribe 0, .poll 0, .solution 7, .solution 8, .dropSender] t ∧
        (system Nat).Run t [.poll 0, .poll 0] u ∧ u.streams 0 = some stream ∧
        stream.ended = true ∧ stream.received.getLast? = some 8 := by
  obtain ⟨t, u, old, done, done', here, dead⟩ : ∃ (t u : Solutions Nat) (old : SolutionStream Nat),
      (system Nat).exec (fun _ _ _ => True) [] {}
          [.subscribe 0, .poll 0, .solution 7, .solution 8, .dropSender] = some t ∧
        (system Nat).exec (fun _ _ _ => True) [] t [.poll 0, .poll 0] = some u ∧
        t.streams 0 = some old ∧ t.solutions.senderAlive = false :=
    ⟨_, _, _, rfl, rfl, rfl, rfl⟩
  have run := System.RunIf.of_exec done
  have rest := System.RunIf.of_exec done'
  obtain ⟨stream, here', ended, last⟩ := run_ends run here dead rest (Nat.le_refl 2)
  exact ⟨t, u, stream, run, rest, here', ended, last⟩

end Solutions

end SubspaceSdk
