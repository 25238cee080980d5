import SubspaceSdk.Farmer.Driver

/-! Runs of the farms driver.  While the receiver is alive the channel holds the results that the
loop took, and after the last of them only `None` messages; it has room for every result as there
are no more farms than it has slots, and each iteration fills a slot or ends the loop. -/

namespace SubspaceSdk

open ProofKit

namespace FarmsDriver

variable {FarmId : Type} {farms : Nat} {d after : FarmsDriver FarmId} {a : Action FarmId}
variable {as : List (Action FarmId)}

/-- The result of a farm in a message. -/
def farmResult : FarmResult FarmId → Option (Except String FarmId)
  | .error e => some (.error e)
  | .ok (.value (some singleDiskFarmId)) => some (.ok singleDiskFarmId)
  | .ok _ => none

@[simp] theorem farmResult_message (result : Except String FarmId) :
    farmResult (message (some result)) = some result := by
  cases result <;> rfl

@[simp] theorem farmResult_none :
    farmResult (message (none : Option (Except String FarmId))) = none := rfl

@[simp] theorem farmResult_cancelled : farmResult (cancelled : FarmResult FarmId) = none := rfl

/-- What holds of the loop and its channel. -/
structure Loop (farms : Nat) (d : FarmsDriver FarmId) : Prop where
  all : d.taken.length + d.completed.length + d.running.length = farms
  /-- Each iteration that does not end the loop puts one message. -/
  counted : d.phase ≠ .ended → d.iterations = d.put.length
  bounded : d.iterations ≤ d.put.length + 1
  fits : d.put.length ≤ resultCapacity
  kept : d.results.receiverAlive = true → d.put.filterMap farmResult = d.taken
  buffered : d.phase ≠ .ended → d.results.receiverAlive = true → d.results.buffer = d.put
  /-- Only results are put until all farms have ended and their results are taken. -/
  results : d.phase ≠ .ended → d.results.receiverAlive = true →
    d.put.length = d.taken.length ∨ (d.running = [] ∧ d.completed = [])

theorem trySend_cases (d : FarmsDriver FarmId) (m : FarmResult FarmId) :
    (∃ results, d.results.trySend m = .ok results ∧
      d.trySend m = (true, { d with results := results, put := d.put ++ [m] })) ∨
    (∃ e, d.results.trySend m = .error e ∧ d.trySend m = (false, d)) := by
  unfold trySend
  cases sent : d.results.trySend m with
  | ok results => exact .inl ⟨results, rfl, rfl⟩
  | error e => exact .inr ⟨e, rfl, rfl⟩

/-- A message that is put fits in. -/
theorem Loop.put_fits {m : FarmResult FarmId} {results : Queue (FarmResult FarmId) resultCapacity}
    (loop : Loop farms d) (live : d.phase ≠ .ended) (sent : d.results.trySend m = .ok results) :
    (d.put ++ [m]).length ≤ resultCapacity ∧ results.buffer = d.put ++ [m] ∧
      d.results.receiverAlive = true := by
  obtain ⟨buffer, _, alive⟩ := Queue.trySend_ok sent
  rw [loop.buffered live alive] at buffer
  refine ⟨?_, buffer, alive⟩
  rw [← buffer]
  exact results.fits

/-- While the receiver is alive there is room for the result of every farm. -/
theorem Loop.result_sent (loop : Loop farms d) (few : farms ≤ resultCapacity)
    (live : d.phase ≠ .ended) (alive : d.results.receiverAlive = true)
    (waiting : d.completed ≠ []) (m : FarmResult FarmId) :
    ∃ results, d.results.trySend m = .ok results := by
  apply Queue.trySend_of_room m alive
  have all := loop.all
  have := List.length_pos_iff.mpr waiting
  rw [loop.buffered live alive]
  rcases loop.results live alive with same | ⟨_, none⟩
  · omega
  · exact absurd none waiting

/-- An iteration that puts no message ends the loop. -/
theorem Loop.unsent (loop : Loop farms d) (live : d.phase ≠ .ended) :
    Loop farms { d with iterations := d.iterations + 1, phase := .ended } :=
  ⟨loop.all, by simp, by simp [loop.counted live], loop.fits, loop.kept, by simp, by simp⟩

theorem Loop.takeResult_some (loop : Loop farms d) (few : farms ≤ resultCapacity)
    (at' : d.phase = .selecting) {result : Except String FarmId}
    {completed : List (Except String FarmId)} (head : d.completed = result :: completed) :
    Loop farms ({ d with completed := completed
                         taken := d.taken ++ [result] }.takeResult (some result)) := by
  have live : d.phase ≠ .ended := by simp [at']
  have all := loop.all
  rw [head, List.length_cons] at all
  rcases trySend_cases { d with completed := completed, taken := d.taken ++ [result] }
    (message (some result)) with ⟨results, sent, tried⟩ | ⟨e, failed, tried⟩
  · obtain ⟨fits, buffer, alive⟩ := loop.put_fits live sent
    have counted := loop.counted live
    have same : d.put.length = d.taken.length :=
      (loop.results live alive).resolve_right (by simp [head])
    simp only [takeResult, tried]
    constructor
    · simp only [List.length_append, List.length_singleton]
      omega
    · simp [counted]
    · simp [counted]
    · exact fits
    · intro _
      simp [loop.kept alive]
    · exact fun _ _ => buffer
    · exact fun _ _ => .inl (by simp [same])
  · simp only [takeResult, tried]
    constructor
    · simp only [List.length_append, List.length_singleton]
      omega
    · simp
    · simp [loop.counted live]
    · exact loop.fits
    · intro alive
      obtain ⟨results, sent⟩ :=
        loop.result_sent few live alive (by simp [head]) (message (some result))
      rw [sent] at failed
      cases failed
    · simp
    · simp

theorem Loop.takeResult_none (loop : Loop farms d) (at' : d.phase = .selecting)
    (taken : d.completed = []) (isOver : d.running = []) : Loop farms (d.takeResult none) := by
  have live : d.phase ≠ .ended := by simp [at']
  have counted := loop.counted live
  rcases trySend_cases d (message none) with ⟨results, sent, tried⟩ | ⟨e, failed, tried⟩
  · obtain ⟨fits, buffer, alive⟩ := loop.put_fits live sent
    simp only [takeResult, tried]
    constructor
    · exact loop.all
    · simp [counted]
    · simp [counted]
    · exact fits
    · intro _
      simp [loop.kept alive]
    · exact fun _ _ => buffer
    · exact fun _ _ => .inr ⟨isOver, taken⟩
  · simp only [takeResult, tried]
    exact loop.unsent live

theorem Loop.pollDrop (loop : Loop farms d) (at' : d.phase = .streamPending) :
    Loop farms d.pollDrop := by
  have live : d.phase ≠ .ended := by simp [at']
  have counted := loop.counted live
  unfold FarmsDriver.pollDrop
  split
  · rcases trySend_cases d cancelled with ⟨results, sent, tried⟩ | ⟨e, failed, tried⟩
    · obtain ⟨fits, buffer, alive⟩ := loop.put_fits live sent
      simp only [tried]
      constructor
      · exact loop.all
      · simp
      · simp [counted]
      · exact fits
      · intro _
        simp [loop.kept alive]
      · simp
      · simp
    · simp only [tried]
      exact loop.unsent live
  · exact ⟨loop.all, fun _ => counted, loop.bounded, loop.fits, loop.kept,
      fun _ => loop.buffered live, fun _ => loop.results live⟩

theorem Loop.pollStream (loop : Loop farms d) (few : farms ≤ resultCapacity)
    (at' : d.phase = .selecting) : Loop farms d.pollStream := by
  unfold FarmsDriver.pollStream
  split
  · rename_i result completed _ head
    exact loop.takeResult_some few at' head
  · rename_i taken isOver
    exact loop.takeResult_none at' taken isOver
  · have live : d.phase ≠ .ended := by simp [at']
    exact ⟨loop.all, fun _ => loop.counted live, loop.bounded, loop.fits, loop.kept,
      fun _ => loop.buffered live, fun _ => loop.results live⟩

/-- The frame of the owner's steps: the loop sees a drop signal at most. -/
theorem Loop.owner {drop : Oneshot Unit} {owner : FarmerOwner}
    {tornDown : List FarmerDestructor} (loop : Loop farms d) :
    Loop farms { d with drop := drop, owner := owner, tornDown := tornDown } :=
  ⟨loop.all, loop.counted, loop.bounded, loop.fits, loop.kept, loop.buffered, loop.results⟩

/-! ### The owner -/

/-- The first error among results. -/
def firstError (results : List (Except String FarmId)) : Except String Unit :=
  match results with
  | [] => .ok ()
  | .error e :: _ => .error e
  | .ok _ :: rest => firstError rest

/-- What the owner has torn down, and read from the channel, where it stands. -/
inductive Stands (farms : Nat) (d : FarmsDriver FarmId) : FarmerOwner → Prop
  | held (alive : d.results.receiverAlive = true) (none : d.tornDown = [])
      (unread : d.results.buffer = d.put) : Stands farms d .held
  | closing (todo : List FarmerDestructor) (signalled : Bool)
      (alive : d.results.receiverAlive = true)
      (order : d.tornDown ++ todo = (farmerDestructors farms).reverse)
      (unread : d.results.buffer = d.put)
      (joined : .async .farmDriver ∈ d.tornDown → d.phase = .ended) :
      Stands farms d (.closing todo signalled)
  | draining (alive : d.results.receiverAlive = true)
      (order : d.tornDown = (farmerDestructors farms).reverse) (ended : d.phase = .ended)
      (read : List (FarmId)) (left : d.put.filterMap farmResult =
        read.map .ok ++ d.results.buffer.filterMap farmResult) :
      Stands farms d .draining
  | returned (alive : d.results.receiverAlive = true)
      (order : d.tornDown = (farmerDestructors farms).reverse) (ended : d.phase = .ended) :
      Stands farms d (.returned (firstError (d.put.filterMap farmResult)))
  | dropping (todo : List FarmerDestructor) : Stands farms d (.dropping todo)

theorem firstError_map_ok (read : List FarmId) (rest : List (Except String FarmId)) :
    firstError (read.map .ok ++ rest) = firstError rest := by
  induction read with
  | nil => rfl
  | cons id read ih => exact ih

/-- The frame of the driver's steps: they leave the owner alone, and put what they send. -/
structure Drives (d after : FarmsDriver FarmId) : Prop where
  owner : after.owner = d.owner
  tornDown : after.tornDown = d.tornDown
  alive : after.results.receiverAlive = d.results.receiverAlive
  unread : d.results.buffer = d.put → after.results.buffer = after.put

theorem drives_trySend (d : FarmsDriver FarmId) (m : FarmResult FarmId) :
    Drives d (d.trySend m).2 := by
  rcases trySend_cases d m with ⟨results, sent, tried⟩ | ⟨e, failed, tried⟩
  · obtain ⟨buffer, alive, _⟩ := Queue.trySend_ok sent
    rw [tried]
    exact ⟨rfl, rfl, alive, fun unread => by rw [buffer, unread]⟩
  · rw [tried]
    exact ⟨rfl, rfl, rfl, id⟩

theorem drives_takeResult (d : FarmsDriver FarmId) (result : Option (Except String FarmId)) :
    Drives d (d.takeResult result) := by
  have ⟨owner, tornDown, alive, unread⟩ := drives_trySend d (message result)
  unfold takeResult
  split <;> rename_i tried <;> rw [tried] at owner tornDown alive unread <;>
    exact ⟨owner, tornDown, alive, unread⟩

theorem drives_pollStream (d : FarmsDriver FarmId) : Drives d d.pollStream := by
  unfold FarmsDriver.pollStream
  split
  · rename_i result completed head
    have drives := drives_takeResult
      { d with completed := completed, taken := d.taken ++ [result] } (some result)
    exact ⟨drives.owner, drives.tornDown, drives.alive, drives.unread⟩
  · exact drives_takeResult d none
  · exact ⟨rfl, rfl, rfl, id⟩

theorem drives_pollDrop (d : FarmsDriver FarmId) : Drives d d.pollDrop := by
  unfold FarmsDriver.pollDrop
  split
  · have ⟨owner, tornDown, alive, unread⟩ := drives_trySend d cancelled
    exact ⟨owner, tornDown, alive, unread⟩
  · exact ⟨rfl, rfl, rfl, id⟩

/-- The driver's steps take nothing from the owner, as the owner reads only when the loop ended. -/
theorem Stands.drives (stands : Stands farms d d.owner) (live : d.phase ≠ .ended)
    (drives : Drives d after) : Stands farms after after.owner := by
  obtain ⟨owner, tornDown, alive, unread⟩ := drives
  rw [owner]
  generalize d.owner = was at stands
  cases stands with
  | held lives none same => exact .held (alive.trans lives) (tornDown.trans none) (unread same)
  | closing todo signalled lives order same joined =>
    refine .closing todo signalled (alive.trans lives) (tornDown ▸ order) (unread same) ?_
    exact fun mem => absurd (joined (tornDown ▸ mem)) live
  | draining _ _ ended => exact absurd ended live
  | returned _ _ ended => exact absurd ended live
  | dropping todo => exact .dropping todo

theorem Stands.tearDown {todo : List FarmerDestructor} {signalled : Bool}
    (stands : Stands farms d (.closing todo signalled))
    (h : d.tearDown todo signalled = some after) : Stands farms after after.owner := by
  cases stands with
  | closing _ _ lives order unread joined =>
    unfold FarmsDriver.tearDown at h
    split at h
    · cases h
      rw [List.append_nil] at order
      have driver : (.async .farmDriver : FarmerDestructor) ∈ d.tornDown := by
        rw [order]
        simp [farmerDestructors]
      refine .draining lives order (joined driver) [] ?_
      rw [unread]
      rfl
    · cases h
      exact .closing _ true lives order unread joined
    · split at h
      · rename_i ended
        cases h
        exact .closing _ false lives (by simpa using order) unread fun _ => ended
      · cases h
    · rename_i destructor rest notDriver notDriver'
      cases h
      refine .closing rest false lives (by simpa using order) unread fun mem => ?_
      rcases List.mem_append.mp mem with before | this
      · exact joined before
      · cases List.mem_singleton.mp this
        cases signalled with
        | true => exact (notDriver' rfl rfl).elim
        | false => exact (notDriver rfl rfl).elim

theorem Stands.receive (stands : Stands farms d .draining) (at' : d.owner = .draining) :
    Stands farms d.receive d.receive.owner := by
  cases stands with
  | draining lives order ended read left =>
    unfold FarmsDriver.receive
    split
    · rename_i empty
      have all : firstError (d.put.filterMap farmResult) = .ok () := by
        rw [left, empty]
        exact firstError_map_ok read []
      rw [← all]
      exact .returned lives order ended
    · rename_i e rest buffer
      have first : firstError (d.put.filterMap farmResult) = .error e := by
        rw [left, buffer]
        exact firstError_map_ok read _
      rw [← first]
      exact .returned lives order ended
    · rename_i output rest buffer
      simp only [at']
      rw [buffer] at left
      match output with
      | .value (some id) =>
        refine .draining lives order ended (read ++ [id]) (left.trans ?_)
        simp [Queue.pop, buffer, farmResult]
      | .value none | .cancelled _ =>
        refine .draining lives order ended read (left.trans ?_)
        simp only [Queue.pop, buffer, List.tail_cons]
        rfl

/-! ### Runs -/

/-- The result of the farm that finishes in an action. -/
def Action.result? : Action FarmId → Option (Except String FarmId)
  | .farmEnds _ result => some result
  | _ => none

/-- The results of the farms in the order in which they finished. -/
def finished (as : List (Action FarmId)) : List (Except String FarmId) :=
  as.filterMap Action.result?

theorem finished_append (as : List (Action FarmId)) (a : Action FarmId) :
    finished (as ++ [a]) = finished as ++ a.result?.toList := by
  simp [finished, List.filterMap_append, List.filterMap_cons]
  cases a.result? <;> rfl

structure Invariant (farms : Nat) (as : List (Action FarmId)) (d : FarmsDriver FarmId) : Prop where
  loop : Loop farms d
  stands : Stands farms d d.owner
  order : d.taken ++ d.completed = finished as

theorem takeResult_order (d : FarmsDriver FarmId) (result : Option (Except String FarmId)) :
    (d.takeResult result).taken = d.taken ∧ (d.takeResult result).completed = d.completed := by
  unfold takeResult
  rcases trySend_cases d (message result) with ⟨_, _, tried⟩ | ⟨_, _, tried⟩ <;> rw [tried] <;>
    exact ⟨rfl, rfl⟩

theorem pollStream_order (d : FarmsDriver FarmId) :
    d.pollStream.taken ++ d.pollStream.completed = d.taken ++ d.completed := by
  unfold FarmsDriver.pollStream
  split
  · rename_i result completed head
    have ⟨taken, left⟩ := takeResult_order
      { d with completed := completed, taken := d.taken ++ [result] } (some result)
    rw [taken, left, head]
    simp
  · have ⟨taken, left⟩ := takeResult_order d none
    rw [taken, left]
  · rfl

theorem pollDrop_order (d : FarmsDriver FarmId) :
    d.pollDrop.taken = d.taken ∧ d.pollDrop.completed = d.completed := by
  unfold FarmsDriver.pollDrop
  split
  · rcases trySend_cases d cancelled with ⟨_, _, tried⟩ | ⟨_, _, tried⟩ <;> rw [tried] <;>
      exact ⟨rfl, rfl⟩
  · exact ⟨rfl, rfl⟩

theorem tearDown_eq {todo : List FarmerDestructor} {signalled : Bool}
    (h : d.tearDown todo signalled = some after) :
    ∃ drop owner tornDown,
      after = { d with drop := drop, owner := owner, tornDown := tornDown } := by
  unfold FarmsDriver.tearDown at h
  split at h
  · cases h
    exact ⟨_, _, _, rfl⟩
  · cases h
    exact ⟨_, _, _, rfl⟩
  · split at h
    · cases h
      exact ⟨_, _, _, rfl⟩
    · cases h
  · cases h
    exact ⟨_, _, _, rfl⟩

theorem receive_eq (d : FarmsDriver FarmId) :
    ∃ results owner, d.receive = { d with results := results, owner := owner } ∧
      results.receiverAlive = d.results.receiverAlive := by
  unfold FarmsDriver.receive
  split <;> exact ⟨_, _, rfl, rfl⟩

/-- Once the loop has ended, or its receiver is gone, it does not matter what the channel holds. -/
theorem Loop.read {results : Queue (FarmResult FarmId) resultCapacity} {owner : FarmerOwner}
    (loop : Loop farms d) (alive : results.receiverAlive = true → d.results.receiverAlive = true)
    (isOver : d.phase = .ended ∨ results.receiverAlive = false) :
    Loop farms { d with results := results, owner := owner } where
  all := loop.all
  counted := loop.counted
  bounded := loop.bounded
  fits := loop.fits
  kept := fun lives => loop.kept (alive lives)
  buffered := fun live lives => by
    rcases isOver with ended | gone
    · exact absurd ended live
    · exact absurd lives (by simp [gone])
  results := fun live lives => by
    rcases isOver with ended | gone
    · exact absurd ended live
    · exact absurd lives (by simp [gone])

theorem Loop.farmEnds (loop : Loop farms d) {farm : Nat} (mem : farm ∈ d.running)
    (result : Except String FarmId) :
    Loop farms { d with running := d.running.erase farm
                        completed := d.completed ++ [result] } where
  all := by
    have all := loop.all
    have := List.length_pos_of_mem mem
    simp only [List.length_erase_of_mem mem, List.length_append, List.length_singleton]
    omega
  counted := loop.counted
  bounded := loop.bounded
  fits := loop.fits
  kept := loop.kept
  buffered := loop.buffered
  results := fun live alive => by
    rcases loop.results live alive with same | ⟨none, _⟩
    · exact .inl same
    · simp [none] at mem

theorem Invariant.step (inv : Invariant farms as d) (few : farms ≤ resultCapacity)
    (h : d.next farms a = some after) : Invariant farms (as ++ [a]) after := by
  obtain ⟨loop, stands, order⟩ := inv
  have quiet : a.result? = none → finished (as ++ [a]) = finished as := by
    intro none
    rw [finished_append, none]
    exact List.append_nil _
  cases a with
  | farmEnds farm result =>
    simp only [next] at h
    split_ifs at h with running
    obtain ⟨mem, live⟩ := running
    cases h
    refine ⟨loop.farmEnds mem result, stands.drives live ⟨rfl, rfl, rfl, id⟩, ?_⟩
    rw [finished_append, ← order]
    simp [Action.result?]
  | pollStream =>
    simp only [next] at h
    split at h
    · rename_i at'
      cases h
      exact ⟨loop.pollStream few at', stands.drives (by simp [at']) (drives_pollStream d),
        (pollStream_order d).trans (order.trans (quiet rfl).symm)⟩
    · cases h
  | pollDrop =>
    simp only [next] at h
    split at h
    · rename_i at'
      cases h
      have ⟨taken, completed⟩ := pollDrop_order d
      refine ⟨loop.pollDrop at', stands.drives (by simp [at']) (drives_pollDrop d), ?_⟩
      rw [taken, completed, quiet rfl, order]
    · cases h
  | close =>
    simp only [next] at h
    split at h
    · rename_i at'
      cases h
      rw [at'] at stands
      cases stands with
      | held alive none unread =>
        refine ⟨loop.owner, .closing _ false alive (by rw [none]; rfl) unread ?_,
          order.trans (quiet rfl).symm⟩
        simp [none]
    · cases h
  | tearDown =>
    simp only [next] at h
    split at h
    · rename_i todo signalled at'
      rw [at'] at stands
      have after_stands := stands.tearDown h
      obtain ⟨drop, owner, tornDown, rfl⟩ := tearDown_eq h
      exact ⟨loop.owner, after_stands, order.trans (quiet rfl).symm⟩
    · cases h
  | receive =>
    simp only [next] at h
    split at h
    · rename_i at'
      cases h
      rw [at'] at stands
      have ended : d.phase = .ended := by
        cases stands with
        | draining _ _ ended => exact ended
      have after_stands := stands.receive at'
      obtain ⟨results, owner, same, alive⟩ := receive_eq d
      rw [same] at after_stands ⊢
      exact ⟨loop.read (fun lives => alive ▸ lives) (.inl ended), after_stands,
        order.trans (quiet rfl).symm⟩
    · cases h
  | abandon =>
    simp only [next] at h
    split at h
    · rename_i todo _
      cases h
      exact ⟨loop.owner, .dropping todo, order.trans (quiet rfl).symm⟩
    · cases h
  | dropReceiver =>
    simp only [next] at h
    split at h
    · rename_i todo at'
      cases h
      refine ⟨loop.read nofun (.inr rfl), ?_, order.trans (quiet rfl).symm⟩
      simp only [at']
      exact .dropping todo
    · cases h
  | dropNext =>
    simp only [next] at h
    split at h
    · rename_i destructor rest at'
      cases h
      refine ⟨?_, .dropping rest, ?_⟩
      · unfold FarmsDriver.dropNext
        split <;> exact loop.owner
      · rw [quiet rfl, ← order]
        unfold FarmsDriver.dropNext
        split <;> rfl
    · cases h

def Action.isDriver : Action FarmId → Bool
  | .pollStream | .pollDrop => true
  | _ => false

/-- The polls that are left to a driver that has its drop signal, or whose farms have all ended, at
most. -/
def rank (d : FarmsDriver FarmId) : Nat :=
  3 * (resultCapacity + 1 - d.iterations) +
    match d.phase with
    | .selecting => 2
    | .streamPending => if d.drop.arrived then 1 else 3
    | .ended => 0

theorem takeResult_rank (d : FarmsDriver FarmId) (result : Option (Except String FarmId)) :
    (d.takeResult result).rank ≤ 3 * (resultCapacity + 1 - (d.iterations + 1)) + 2 := by
  unfold takeResult
  rcases trySend_cases d (message result) with ⟨_, _, tried⟩ | ⟨_, _, tried⟩ <;> rw [tried] <;>
    simp [rank]

theorem rank_lt (loop : Loop farms d) (isOver : d.drop.arrived = true ∨ d.running = [])
    (driver : a.isDriver = true) (h : d.next farms a = some after) : after.rank < d.rank := by
  have fits := loop.fits
  cases a with
  | pollStream =>
    simp only [next] at h
    split at h
    · rename_i at'
      cases h
      have counted := loop.counted (by simp [at'])
      have before : d.rank = 3 * (resultCapacity + 1 - d.iterations) + 2 := by simp [rank, at']
      unfold FarmsDriver.pollStream
      split
      · rename_i result completed head
        have := takeResult_rank
          { d with completed := completed, taken := d.taken ++ [result] } (some result)
        dsimp only at this
        omega
      · have := takeResult_rank d none
        omega
      · rename_i farm rest running
        have arrived : d.drop.arrived = true := isOver.resolve_right (by simp [running])
        rw [before]
        simp [rank, arrived]
    · cases h
  | pollDrop =>
    simp only [next] at h
    split at h
    · rename_i at'
      cases h
      have counted := loop.counted (by simp [at'])
      unfold FarmsDriver.pollDrop
      split
      · rename_i arrived
        simp only [rank, at', arrived, if_true]
        omega
      · rename_i silent
        simp [rank, at', silent]
    · cases h
  | _ => cases driver

theorem Stands.alive (stands : Stands farms d d.owner)
    (live : ∀ todo, d.owner ≠ .dropping todo) : d.results.receiverAlive = true := by
  generalize d.owner = owner at stands live
  cases stands with
  | held alive => exact alive
  | closing _ _ alive => exact alive
  | draining alive => exact alive
  | returned alive => exact alive
  | dropping todo => exact absurd rfl (live todo)

end FarmsDriver

end SubspaceSdk
