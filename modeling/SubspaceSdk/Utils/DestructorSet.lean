import Mathlib.Data.List.Basic

/-! The set of destructors of `utils`: a set keeps its closures, futures and items in three vectors
and the order of all of them in a fourth, and tears them down in `drop` or in `async_drop`.  Both
give the list of what they tore down, or the message of the `expect` that failed. -/

namespace SubspaceSdk

/-- `Option::expect`: the value, or a panic with the message. -/
def expect {α : Type} (o : Option α) (message : String) : Except String α :=
  match o with
  | some a => .ok a
  | none => .error message

/-- A task's result: its value, or why it was cancelled. -/
inductive TaskOutput (α ε : Type) where
  | value (a : α)
  | cancelled (reason : ε)
  deriving Repr, DecidableEq

/-- What a teardown does to one entry: a closure is run, a future is awaited to completion, or
dropped before its completion, and an item is dropped. -/
inductive Teardown (F A T : Type) where
  | ran (f : F)
  | awaited (fut : A)
  | cancelled (fut : A)
  | dropped (t : T)
  deriving Repr, DecidableEq

/-- A closure which is run when it is dropped. -/
structure Defer (F : Type) where
  closure : Option F

def Defer.new {F : Type} (f : F) : Defer F := ⟨some f⟩

/-- A box of a `DropCollection`, by what its drop does. -/
inductive Boxed (F T : Type) where
  | defer (d : Defer F)
  | item (t : T)

/-- Useful type which will ensure that things will be dropped. -/
structure DropCollection (F T : Type) where
  vec : List (Boxed F T) := []

/-- Type for dropping things asynchronously. -/
structure AsyncDropFutures (A : Type) where
  vec : List A := []

/-- Which of the vectors the next entry to tear down is in. -/
inductive ToDestruct where
  | sync
  | async
  | item
  deriving Repr, DecidableEq

/-- A general purpose set of destructors, which destroys its entries in reverse order. -/
structure DestructorSet (F A T : Type) where
  name : String
  itemsToDrop : DropCollection F T
  syncDestructors : DropCollection F T
  asyncDestructors : AsyncDropFutures A
  order : List ToDestruct
  alreadyRan : Bool
  allowAsync : Bool

/-- The three drains that both teardowns hold, each reversed: the newest entry is the head. -/
structure Drains (F A T : Type) where
  syncFns : List (Boxed F T)
  asyncFns : List A
  items : List (Boxed F T)

/-- An entry that left its drain. -/
inductive Entry (F A T : Type) where
  | sync (syncFn : Boxed F T)
  | async (asyncFn : A)
  | item (boxed : Boxed F T)

variable {F A T : Type}

namespace DropCollection

def push (c : DropCollection F T) (t : Boxed F T) : DropCollection F T := ⟨c.vec ++ [t]⟩

/-- Run closure during drop. -/
def defer (c : DropCollection F T) (f : F) : DropCollection F T := c.push (.defer (.new f))

end DropCollection

def AsyncDropFutures.push (c : AsyncDropFutures A) (fut : A) : AsyncDropFutures A :=
  ⟨c.vec ++ [fut]⟩

def Boxed.drop : Boxed F T → Except String (Teardown F A T)
  | .defer d => do
    let f ← expect d.closure "Always set"
    return .ran f
  | .item t => return .dropped t

def Entry.drop : Entry F A T → Except String (Teardown F A T)
  | .sync syncFn => syncFn.drop
  | .async asyncFn => return .cancelled asyncFn
  | .item boxed => boxed.drop

/-- The newest entry of the drain that `order` names, and the drains without it. -/
def Drains.next (drains : Drains F A T) : ToDestruct → Except String (Entry F A T × Drains F A T)
  | .sync => do
    let syncFn ← expect drains.syncFns.head? "sync fn always set"
    return (.sync syncFn, { drains with syncFns := drains.syncFns.tail })
  | .async => do
    let asyncFn ← expect drains.asyncFns.head? "async fn always set"
    return (.async asyncFn, { drains with asyncFns := drains.asyncFns.tail })
  | .item => do
    let item ← expect drains.items.head? "item always set"
    return (.item item, { drains with items := drains.items.tail })

/-- The drop of the drains: locals are dropped in the reverse order of their declaration, and a
drain drops what is left of its vector from front to back, also when it is iterated in reverse. -/
def Drains.drop (drains : Drains F A T) : Except String (List (Teardown F A T)) := do
  let items ← drains.items.reverse.mapM Boxed.drop
  let asyncFns := drains.asyncFns.reverse.map Teardown.cancelled
  let syncFns ← drains.syncFns.reverse.mapM Boxed.drop
  return items ++ asyncFns ++ syncFns

namespace DestructorSet

/-- Creates an empty set with async destructors allowed. -/
def new (name : String) : DestructorSet F A T where
  name := name
  itemsToDrop := {}
  syncDestructors := {}
  asyncDestructors := {}
  order := []
  alreadyRan := false
  allowAsync := true

def ranAlready (set : DestructorSet F A T) : String :=
  s!"Destructor set: {set.name} has been run already"

/-- Add sync destructor in the sync destructor collection. -/
def addSyncDestructor (set : DestructorSet F A T) (f : F) :
    Except String Unit × DestructorSet F A T :=
  if set.alreadyRan then (.error set.ranAlready, set)
  else (.ok (), { set with
    order := set.order ++ [.sync]
    syncDestructors := set.syncDestructors.defer f })

/-- Add async destructor in the async destructor collection. -/
def addAsyncDestructor (set : DestructorSet F A T) (fut : A) :
    Except String Unit × DestructorSet F A T :=
  if set.alreadyRan then (.error set.ranAlready, set)
  else if !set.allowAsync then
    (.error s!"async destructors are disabled in Destructor set: {set.name}", set)
  else (.ok (), { set with
    order := set.order ++ [.async]
    asyncDestructors := set.asyncDestructors.push fut })

/-- Add normal object to drop. -/
def addItemsToDrop (set : DestructorSet F A T) (t : T) :
    Except String Unit × DestructorSet F A T :=
  if set.alreadyRan then (.error set.ranAlready, set)
  else (.ok (), { set with
    order := set.order ++ [.item]
    itemsToDrop := set.itemsToDrop.push (.item t) })

def drains (set : DestructorSet F A T) : Drains F A T where
  syncFns := set.syncDestructors.vec.reverse
  asyncFns := set.asyncDestructors.vec.reverse
  items := set.itemsToDrop.vec.reverse

/-- The set whose vectors have been drained. -/
def drained (set : DestructorSet F A T) : DestructorSet F A T :=
  { set with itemsToDrop := {}, syncDestructors := {}, asyncDestructors := {}, order := [] }

/-- The loop of `drop`, with the drains that it leaves. -/
def dropLoop : List ToDestruct → Drains F A T →
    Except String (List (Teardown F A T) × Drains F A T)
  | [], drains => return ([], drains)
  | order :: rest, drains => do
    let (entry, drains) ← drains.next order
    let event ← entry.drop
    let (events, drains) ← dropLoop rest drains
    return (event :: events, drains)

/-- The drop of the fields of a set, after the body of its `drop`. -/
def dropFields (set : DestructorSet F A T) : Except String (List (Teardown F A T)) := do
  let items ← set.itemsToDrop.vec.mapM Boxed.drop
  let syncFns ← set.syncDestructors.vec.mapM Boxed.drop
  return items ++ syncFns ++ set.asyncDestructors.vec.map Teardown.cancelled

/-- The drop of a set. -/
def drop (set : DestructorSet F A T) : Except String (List (Teardown F A T)) :=
  if set.alreadyRan then set.dropFields
  else do
    let (events, drains) ← dropLoop set.order.reverse set.drains
    let rest ← drains.drop
    let fields ← set.drained.dropFields
    return events ++ rest ++ fields

end DestructorSet

/-- What a poll of a future gives. -/
inductive PollOutcome where
  | pending
  | ready
  | panicked
  deriving Repr, DecidableEq

/-- How an `await` that does not complete ends: the future that awaits is dropped, or the awaited
one panics. -/
inductive Interruption where
  | abandoned
  | panicked
  deriving Repr, DecidableEq

/-- The polls of one awaited future: it completes and leaves the later polls, or it is interrupted.
Where the polls end while it is pending, the future that awaits it is dropped. -/
def awaitFuture : List PollOutcome → Except Interruption (List PollOutcome)
  | [] => .error .abandoned
  | .pending :: polls => awaitFuture polls
  | .ready :: polls => .ok polls
  | .panicked :: _ => .error .panicked

/-- How `async_drop` ends. -/
inductive AsyncDropEnd where
  | returned (result : Except String Unit)
  | interrupted (how : Interruption)
  deriving Repr, DecidableEq

namespace DestructorSet

/-- The loop of `async_drop`, with the drains that it leaves and the interruption that stopped it.
An interrupted `await` drops the awaited future, which has left its drain, before the locals. -/
def asyncDropLoop : List ToDestruct → Drains F A T → List PollOutcome →
    Except String (List (Teardown F A T) × Option Interruption × Drains F A T)
  | [], drains, _ => return ([], none, drains)
  | order :: rest, drains, polls => do
    let (entry, drains) ← drains.next order
    match entry with
    | .async asyncFn =>
      match awaitFuture polls with
      | .ok polls =>
        let (events, stop, drains) ← asyncDropLoop rest drains polls
        return (.awaited asyncFn :: events, stop, drains)
      | .error how => return ([.cancelled asyncFn], some how, drains)
    | entry =>
      let event ← entry.drop
      let (events, stop, drains) ← asyncDropLoop rest drains polls
      return (event :: events, stop, drains)

/-- `async_drop` under the outcomes of the polls of the futures that it awaits.  The set is dropped
at its end in each case, the `Err` returns and the interruption included. -/
def asyncDrop (set : DestructorSet F A T) (polls : List PollOutcome) :
    Except String (List (Teardown F A T) × AsyncDropEnd) :=
  if set.alreadyRan then do
    let events ← set.drop
    return (events, .returned (.error set.ranAlready))
  else if !set.allowAsync then do
    let events ← set.drop
    return (events, .returned (.error
      (s!"Destructor set: {set.name} is only configured to run sync destructors. " ++
        "To run them drop this instance.")))
  else do
    let (events, stop, drains) ← asyncDropLoop set.order.reverse set.drains polls
    let rest ← drains.drop
    match stop with
    | none =>
      let last ← { set.drained with alreadyRan := true }.drop
      return (events ++ rest ++ last, .returned (.ok ()))
    | some how =>
      let last ← set.drained.drop
      return (events ++ rest ++ last, .interrupted how)

end DestructorSet

/-- An argument of one of the three `add` functions. -/
inductive Registration (F A T : Type) where
  | sync (f : F)
  | async (fut : A)
  | item (t : T)
  deriving Repr, DecidableEq

namespace Registration

def kind : Registration F A T → ToDestruct
  | .sync _ => .sync
  | .async _ => .async
  | .item _ => .item

/-- What `drop` does to the entry of a registration. -/
def onDrop : Registration F A T → Teardown F A T
  | .sync f => .ran f
  | .async fut => .cancelled fut
  | .item t => .dropped t

/-- What `async_drop` does to the entry of a registration. -/
def onAsyncDrop : Registration F A T → Teardown F A T
  | .sync f => .ran f
  | .async fut => .awaited fut
  | .item t => .dropped t

end Registration

namespace DestructorSet

def register (set : DestructorSet F A T) :
    Registration F A T → Except String Unit × DestructorSet F A T
  | .sync f => set.addSyncDestructor f
  | .async fut => set.addAsyncDestructor fut
  | .item t => set.addItemsToDrop t

/-- The registrations that a set accepts from a list, and the set after all of them. -/
def registerAll (set : DestructorSet F A T) :
    List (Registration F A T) → List (Registration F A T) × DestructorSet F A T
  | [] => ([], set)
  | r :: rs =>
    match set.register r with
    | (.ok (), after) => (r :: (after.registerAll rs).1, (after.registerAll rs).2)
    | (.error _, after) => after.registerAll rs

end DestructorSet

end SubspaceSdk
