import SubspaceSdk.Farmer.Build
import SubspaceSdk.ProofKit.Channel
import SubspaceSdk.ProofKit.Transition

/-! The farms driver: the loop that takes the results of the farms' run futures and puts them in a
channel which nobody reads until `Farmer::close` has run the farmer's destructors.  The loop stops
at the drop signal, or when the channel takes no more. -/

namespace SubspaceSdk

open ProofKit

/-- The capacity of the result channel, `u8::MAX as usize + 1`. -/
def resultCapacity : Nat := 256

/-- A message of the farms driver. -/
abbrev FarmResult (FarmId : Type) := Except String (TaskOutput (Option FarmId) String)

/-- Where the driver stands in its loop. -/
inductive DriverPhase where
  /-- At the poll of the stream of farms. -/
  | selecting
  /-- At the poll of the drop signal: the stream was pending. -/
  | streamPending
  | ended
  deriving Repr, DecidableEq

inductive FarmerOwner where
  | held
  /-- `close` is in `async_drop`, and has signalled the first task that is left or has not. -/
  | closing (todo : List FarmerDestructor) (signalled : Bool)
  | draining
  | returned (result : Except String Unit)
  /-- The farmer, or the future of its `close`, is dropped. -/
  | dropping (todo : List FarmerDestructor)
  deriving Repr

structure FarmsDriver (FarmId : Type) where
  /-- The farms whose run futures have not finished. -/
  running : List Nat
  /-- The results that the stream has not given yet, in the order of completion. -/
  completed : List (Except String FarmId) := []
  /-- The results that the loop took from the stream. -/
  taken : List (Except String FarmId) := []
  /-- How often the `select` of the loop has resolved. -/
  iterations : Nat := 0
  phase : DriverPhase := .selecting
  drop : Oneshot Unit := {}
  results : Queue (FarmResult FarmId) resultCapacity := {}
  /-- The messages that were put in the channel. -/
  put : List (FarmResult FarmId) := []
  owner : FarmerOwner := .held
  /-- The destructors that `close` has torn down. -/
  tornDown : List FarmerDestructor := []

namespace FarmsDriver

variable {FarmId : Type}

/-- The driver of `farms` farms. -/
def new (farms : Nat) : FarmsDriver FarmId := { running := List.range farms }

inductive Action (FarmId : Type) where
  /-- The run future of a farm finishes. -/
  | farmEnds (farm : Nat) (result : Except String FarmId)
  | pollStream
  | pollDrop
  | close
  /-- `close` tears down the next destructor, or signals its task. -/
  | tearDown
  | receive
  | abandon
  | dropReceiver
  | dropNext

/-- What the loop sends for what the stream gave. -/
def message : Option (Except String FarmId) → FarmResult FarmId
  | none => .ok (.value none)
  | some (.ok singleDiskFarmId) => .ok (.value (some singleDiskFarmId))
  | some (.error e) => .error e

def cancelled : FarmResult FarmId := .ok (.cancelled "Received drop signal for farm driver")

/-- `try_send`, which leaves the channel as it is where it fails. -/
def trySend (d : FarmsDriver FarmId) (m : FarmResult FarmId) : Bool × FarmsDriver FarmId :=
  match d.results.trySend m with
  | .ok results => (true, { d with results := results, put := d.put ++ [m] })
  | .error _ => (false, d)

/-- The left arm of the loop's `select`. -/
def takeResult (d : FarmsDriver FarmId) (maybeResult : Option (Except String FarmId)) :
    FarmsDriver FarmId :=
  match d.trySend (message maybeResult) with
  | (true, d) => { d with iterations := d.iterations + 1, phase := .selecting }
  | (false, d) => { d with iterations := d.iterations + 1, phase := .ended }

/-- The poll of the stream: a finished result, `none` for ever once all farms have ended, or
pending. -/
def pollStream (d : FarmsDriver FarmId) : FarmsDriver FarmId :=
  match d.completed, d.running with
  | result :: completed, _ =>
    { d with completed := completed, taken := d.taken ++ [result] }.takeResult (some result)
  | [], [] => d.takeResult none
  | [], _ :: _ => { d with phase := .streamPending }

/-- The poll of the drop signal, which is resolved also by the drop of its sender. -/
def pollDrop (d : FarmsDriver FarmId) : FarmsDriver FarmId :=
  if d.drop.arrived then
    { (d.trySend cancelled).2 with iterations := d.iterations + 1, phase := .ended }
  else { d with phase := .selecting }

/-- The next destructor of `async_drop`.  The closures and the other tasks do nothing to the
driver. -/
def tearDown (d : FarmsDriver FarmId) : List FarmerDestructor → Bool → Option (FarmsDriver FarmId)
  | [], _ => some { d with owner := .draining }
  | .async .farmDriver :: rest, false =>
    some { d with drop := d.drop.send ()
                  owner := .closing (.async .farmDriver :: rest) true }
  | .async .farmDriver :: rest, true =>
    match d.phase with
    | .ended => some { d with tornDown := d.tornDown ++ [.async .farmDriver]
                              owner := .closing rest false }
    | _ => none
  | destructor :: rest, _ =>
    some { d with tornDown := d.tornDown ++ [destructor], owner := .closing rest false }

/-- One `recv` of the closed channel, and what `close` does with it. -/
def receive (d : FarmsDriver FarmId) : FarmsDriver FarmId :=
  match d.results.buffer with
  | [] => { d with owner := .returned (.ok ()) }
  | .error e :: _ => { d with results := d.results.pop, owner := .returned (.error e) }
  | .ok _ :: _ => { d with results := d.results.pop }

/-- The destructors that are dropped with the farmer, or with the future of its `close`. -/
def leftToDrop (farms : Nat) : FarmerOwner → Option (List FarmerDestructor)
  | .held => some (farmerDestructors farms).reverse
  | .closing todo false => some todo
  | .closing todo true => some todo.tail
  | .draining => some []
  | _ => none

/-- The drop of a destructor: the future of the driver's drops the sender of the drop signal. -/
def dropNext (d : FarmsDriver FarmId) : FarmerDestructor → FarmsDriver FarmId
  | .async .farmDriver => { d with drop := d.drop.dropSender }
  | _ => d

def next (farms : Nat) (d : FarmsDriver FarmId) : Action FarmId → Option (FarmsDriver FarmId)
  | .farmEnds farm result =>
    if farm ∈ d.running ∧ d.phase ≠ .ended then
      some { d with running := d.running.erase farm, completed := d.completed ++ [result] }
    else none
  | .pollStream =>
    match d.phase with
    | .selecting => some d.pollStream
    | _ => none
  | .pollDrop =>
    match d.phase with
    | .streamPending => some d.pollDrop
    | _ => none
  | .close =>
    match d.owner with
    | .held => some { d with owner := .closing (farmerDestructors farms).reverse false }
    | _ => none
  | .tearDown =>
    match d.owner with
    | .closing todo signalled => d.tearDown todo signalled
    | _ => none
  | .receive =>
    match d.owner with
    | .draining => some d.receive
    | _ => none
  | .abandon =>
    match leftToDrop farms d.owner with
    | some todo => some { d with owner := .dropping todo }
    | none => none
  | .dropReceiver =>
    match d.owner with
    | .dropping _ => some { d with results := d.results.dropReceiver }
    | _ => none
  | .dropNext =>
    match d.owner with
    | .dropping (destructor :: rest) => some { d.dropNext destructor with owner := .dropping rest }
    | _ => none

variable (FarmId) in
def system (farms : Nat) : System (FarmsDriver FarmId) (Action FarmId) := ⟨next farms⟩

end FarmsDriver

end SubspaceSdk
