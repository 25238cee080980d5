import SubspaceSdk.Utils.DestructorSet
import Mathlib.Tactic.Common

/-! A set of destructors as the list of its registrations: the four vectors of a set hold one list
of registrations, each vector its part of it, and both teardowns give back the whole list in
reverse. -/

namespace SubspaceSdk

variable {F A T : Type}

namespace Registration

def syncFn? : Registration F A T → Option (Boxed F T)
  | .sync f => some (.defer (.new f))
  | _ => none

def asyncFn? : Registration F A T → Option A
  | .async fut => some fut
  | _ => none

def item? : Registration F A T → Option (Boxed F T)
  | .item t => some (.item t)
  | _ => none

/-- A registration as an entry that left its drain. -/
def entry : Registration F A T → Entry F A T
  | .sync f => .sync (.defer (.new f))
  | .async fut => .async fut
  | .item t => .item (.item t)

@[simp] theorem entry_drop (r : Registration F A T) : r.entry.drop = .ok r.onDrop := by
  cases r <;> rfl

end Registration

/-- The drains of a set that holds `entries`, the newest first. -/
def Drains.of (entries : List (Registration F A T)) : Drains F A T where
  syncFns := entries.filterMap Registration.syncFn?
  asyncFns := entries.filterMap Registration.asyncFn?
  items := entries.filterMap Registration.item?

theorem Drains.next_of (r : Registration F A T) (older : List (Registration F A T)) :
    (Drains.of (r :: older)).next r.kind = .ok (r.entry, Drains.of older) := by
  cases r <;> rfl

namespace DestructorSet

/-- The set holds `entries`, the oldest first: each vector is its part of them. -/
structure Holds (set : DestructorSet F A T) (entries : List (Registration F A T)) : Prop where
  order : set.order = entries.map Registration.kind
  syncs : set.syncDestructors.vec = entries.filterMap Registration.syncFn?
  asyncs : set.asyncDestructors.vec = entries.filterMap Registration.asyncFn?
  items : set.itemsToDrop.vec = entries.filterMap Registration.item?
  waiting : set.alreadyRan = false

theorem new_holds (name : String) : (new name : DestructorSet F A T).Holds [] := by
  constructor <;> rfl

theorem Holds.drains {set : DestructorSet F A T} {entries : List (Registration F A T)}
    (h : set.Holds entries) : set.drains = Drains.of entries.reverse := by
  simp only [DestructorSet.drains, Drains.of, h.syncs, h.asyncs, h.items, List.filterMap_reverse]

theorem Holds.order_reverse {set : DestructorSet F A T} {entries : List (Registration F A T)}
    (h : set.Holds entries) : set.order.reverse = entries.reverse.map Registration.kind := by
  rw [h.order, List.map_reverse]

/-! ### Registrations -/

/-- A set rejects the async registrations when it does not allow them, and nothing else. -/
def accepts (allowAsync : Bool) (r : Registration F A T) : Bool := allowAsync || r.kind != .async

/-- An accepted registration is appended, and a rejected one leaves the set as it was. -/
theorem register_cases {set : DestructorSet F A T} {entries : List (Registration F A T)}
    (h : set.Holds entries) (r : Registration F A T) :
    (accepts set.allowAsync r = true ∧ ∃ after, set.register r = (.ok (), after) ∧
      after.Holds (entries ++ [r]) ∧ after.allowAsync = set.allowAsync) ∨
    (accepts set.allowAsync r = false ∧ ∃ e, set.register r = (.error e, set)) := by
  obtain ⟨order, syncs, asyncs, items, waiting⟩ := h
  cases r with
  | sync f =>
    have register : set.register (.sync f) = (.ok (), { set with
        order := set.order ++ [.sync]
        syncDestructors := set.syncDestructors.defer f }) := by
      simp [DestructorSet.register, addSyncDestructor, waiting]
    refine .inl ⟨by simp [accepts, Registration.kind], _, register, ?_, rfl⟩
    constructor <;> simp [order, syncs, asyncs, items, waiting, DropCollection.defer,
      DropCollection.push, Registration.kind, Registration.syncFn?, Registration.asyncFn?,
      Registration.item?]
  | item t =>
    have register : set.register (.item t) = (.ok (), { set with
        order := set.order ++ [.item]
        itemsToDrop := set.itemsToDrop.push (.item t) }) := by
      simp [DestructorSet.register, addItemsToDrop, waiting]
    refine .inl ⟨by simp [accepts, Registration.kind], _, register, ?_, rfl⟩
    constructor <;> simp [order, syncs, asyncs, items, waiting, DropCollection.push,
      Registration.kind, Registration.syncFn?, Registration.asyncFn?, Registration.item?]
  | async fut =>
    cases allow : set.allowAsync with
    | false =>
      refine .inr ⟨by simp [accepts, Registration.kind],
        s!"async destructors are disabled in Destructor set: {set.name}", ?_⟩
      simp [DestructorSet.register, addAsyncDestructor, waiting, allow]
    | true =>
      have register : set.register (.async fut) = (.ok (), { set with
          order := set.order ++ [.async]
          asyncDestructors := set.asyncDestructors.push fut }) := by
        simp [DestructorSet.register, addAsyncDestructor, waiting, allow]
      refine .inl ⟨by simp [accepts], _, register, ?_, allow⟩
      constructor <;> simp [order, syncs, asyncs, items, waiting, AsyncDropFutures.push,
        Registration.kind, Registration.syncFn?, Registration.asyncFn?, Registration.item?]

/-- After any registrations a set holds those that it accepted, in order. -/
theorem registerAll_holds {set : DestructorSet F A T} {entries : List (Registration F A T)}
    (h : set.Holds entries) (rs : List (Registration F A T)) :
    (set.registerAll rs).1 = rs.filter (accepts set.allowAsync) ∧
      (set.registerAll rs).2.Holds (entries ++ (set.registerAll rs).1) ∧
      (set.registerAll rs).2.allowAsync = set.allowAsync := by
  induction rs generalizing set entries with
  | nil => exact ⟨rfl, by simpa [registerAll] using h, rfl⟩
  | cons r rs ih =>
    rcases register_cases h r with ⟨accepted, after, register, holds, allow⟩ |
      ⟨rejected, e, register⟩
    · obtain ⟨filter, rest, same⟩ := ih holds
      simp only [registerAll, register, List.filter_cons, accepted, if_true]
      refine ⟨by rw [filter, allow], ?_, same.trans allow⟩
      simpa only [List.append_assoc, List.singleton_append] using rest
    · simp only [registerAll, register, List.filter_cons, rejected]
      exact ih h

/-! ### The drop of a set -/

/-- The loop of `drop` takes the newest entries from the drains and leaves the older ones. -/
theorem dropLoop_of (newer older : List (Registration F A T)) :
    dropLoop (newer.map Registration.kind) (Drains.of (newer ++ older)) =
      .ok (newer.map Registration.onDrop, Drains.of older) := by
  induction newer with
  | nil => rfl
  | cons r newer ih =>
    simp only [List.map_cons, List.cons_append, dropLoop, Drains.next_of, bind, Except.bind,
      Registration.entry_drop, ih]
    rfl

theorem drop_drained (set : DestructorSet F A T) : set.drained.drop = .ok [] := by
  cases h : set.alreadyRan <;> simp only [drop, drained, h] <;> rfl

theorem drop_drained_ran (set : DestructorSet F A T) :
    ({ set.drained with alreadyRan := true } : DestructorSet F A T).drop = .ok [] := rfl

/-- The drop of a set that holds `entries` destroys them in reverse. -/
theorem Holds.drop {set : DestructorSet F A T} {entries : List (Registration F A T)}
    (h : set.Holds entries) : set.drop = .ok (entries.reverse.map Registration.onDrop) := by
  have loop := dropLoop_of entries.reverse []
  rw [List.append_nil] at loop
  have rest : (Drains.of ([] : List (Registration F A T))).drop = .ok [] := rfl
  have fields : set.drained.dropFields = .ok [] := rfl
  simp only [DestructorSet.drop, h.waiting, Bool.false_eq_true, if_false, h.drains,
    h.order_reverse, loop, rest, fields, bind, Except.bind, pure, Except.pure, List.append_nil]

/-! ### `async_drop` -/

/-- The registrations of a kind. -/
def ofKind (kind : ToDestruct) (entries : List (Registration F A T)) :
    List (Registration F A T) := entries.filter (·.kind == kind)

/-- The order, from the oldest entry, in which the drop of the drains destroys `entries`: the kinds
one after another, and each from its oldest entry. -/
def leftBehind (entries : List (Registration F A T)) : List (Registration F A T) :=
  ofKind .item entries ++ ofKind .async entries ++ ofKind .sync entries

theorem ofKind_cons (kind : ToDestruct) (r : Registration F A T)
    (entries : List (Registration F A T)) :
    ofKind kind (r :: entries) = if r.kind = kind then r :: ofKind kind entries
      else ofKind kind entries := by
  simp [ofKind, List.filter_cons]

/-- The boxes of one kind of entries are dropped in order. -/
theorem mapM_drop (select : Registration F A T → Option (Boxed F T)) (kind : ToDestruct)
    (box : ∀ r, r.kind = kind → ∃ b, select r = some b ∧ b.drop = .ok r.onDrop)
    (other : ∀ r, r.kind ≠ kind → select r = none) (entries : List (Registration F A T)) :
    (entries.filterMap select).mapM Boxed.drop =
      .ok ((ofKind kind entries).map Registration.onDrop) := by
  induction entries with
  | nil => rfl
  | cons r entries ih =>
    by_cases same : r.kind = kind
    · obtain ⟨b, selected, dropped⟩ := box r same
      rw [List.filterMap_cons_some selected, List.mapM_cons, ih, dropped, ofKind_cons, if_pos same]
      rfl
    · rw [List.filterMap_cons_none (other r same), ih, ofKind_cons, if_neg same]

theorem map_cancelled (entries : List (Registration F A T)) :
    (entries.filterMap Registration.asyncFn?).map Teardown.cancelled =
      (ofKind .async entries).map Registration.onDrop := by
  induction entries with
  | nil => rfl
  | cons r entries ih =>
    cases r with
    | async fut => exact congrArg (Teardown.cancelled fut :: ·) ih
    | sync _ | item _ => exact ih

theorem drains_drop_of (entries : List (Registration F A T)) :
    (Drains.of entries.reverse).drop = .ok ((leftBehind entries).map Registration.onDrop) := by
  have items := mapM_drop Registration.item? .item
    (fun r h => by cases r <;> first | exact ⟨_, rfl, rfl⟩ | cases h)
    (fun r h => by cases r <;> first | rfl | exact absurd rfl h) entries
  have syncs := mapM_drop Registration.syncFn? .sync
    (fun r h => by cases r <;> first | exact ⟨_, rfl, rfl⟩ | cases h)
    (fun r h => by cases r <;> first | rfl | exact absurd rfl h) entries
  simp only [Drains.drop, Drains.of, List.filterMap_reverse, List.reverse_reverse, items, syncs,
    map_cancelled, leftBehind, List.map_append]
  rfl

/-- Whether the next `count` awaited futures complete under `polls`. -/
def completes : Nat → List PollOutcome → Bool
  | 0, _ => true
  | count + 1, polls =>
    match awaitFuture polls with
    | .ok polls => completes count polls
    | .error _ => false

/-- How the `await` after `count` completed ones is interrupted, where it is. -/
def interruption : Nat → List PollOutcome → Option Interruption
  | 0, polls =>
    match awaitFuture polls with
    | .ok _ => none
    | .error how => some how
  | count + 1, polls =>
    match awaitFuture polls with
    | .ok polls => interruption count polls
    | .error _ => none

/-- The number of futures that `async_drop` awaits in a list. -/
def awaits (entries : List (Registration F A T)) : Nat := (ofKind .async entries).length

/-- The polls that are left after the entry of a registration. -/
def pollsAfter (r : Registration F A T) (polls : List PollOutcome) :
    Except Interruption (List PollOutcome) :=
  if r.kind = .async then awaitFuture polls else .ok polls

theorem completes_cons {r : Registration F A T} {newer : List (Registration F A T)}
    {polls rest : List PollOutcome} (h : pollsAfter r polls = .ok rest) :
    completes (awaits (r :: newer)) polls = completes (awaits newer) rest := by
  rw [awaits, ofKind_cons]
  unfold pollsAfter at h
  split_ifs at h ⊢
  · simp [completes, h, awaits]
  · cases h
    rfl

theorem interruption_cons {r : Registration F A T} {newer : List (Registration F A T)}
    {polls rest : List PollOutcome} (h : pollsAfter r polls = .ok rest) :
    interruption (awaits (r :: newer)) polls = interruption (awaits newer) rest := by
  rw [awaits, ofKind_cons]
  unfold pollsAfter at h
  split_ifs at h ⊢
  · simp [interruption, h, awaits]
  · cases h
    rfl

/-- The loop of `async_drop` passes the newest entry. -/
theorem asyncDropLoop_cons {r : Registration F A T} {older : List (Registration F A T)}
    {polls rest : List PollOutcome} {events : List (Teardown F A T)} {stop : Option Interruption}
    {drains : Drains F A T} (passed : pollsAfter r polls = .ok rest)
    (loop : asyncDropLoop (older.map Registration.kind) (Drains.of older) rest =
      .ok (events, stop, drains)) :
    asyncDropLoop ((r :: older).map Registration.kind) (Drains.of (r :: older)) polls =
      .ok (r.onAsyncDrop :: events, stop, drains) := by
  rw [List.map_cons, asyncDropLoop, Drains.next_of]
  cases r with
  | async fut =>
    have first : awaitFuture polls = .ok rest := passed
    simp only [bind, Except.bind, Registration.entry, first, loop]
    rfl
  | sync _ | item _ =>
    cases passed
    simp only [bind, Except.bind, Registration.entry, loop]
    rfl

/-- The loop of `async_drop` stops at the newest entry. -/
theorem asyncDropLoop_stop {fut : A} {older : List (Registration F A T)}
    {polls : List PollOutcome} {how : Interruption} (stopped : awaitFuture polls = .error how) :
    asyncDropLoop ((.async fut :: older).map Registration.kind) (Drains.of (.async fut :: older))
      polls = .ok ([.cancelled fut], some how, Drains.of older) := by
  rw [List.map_cons, asyncDropLoop, Drains.next_of]
  simp only [bind, Except.bind, Registration.entry, stopped]
  rfl

/-- The loop of `async_drop` either completes, or is interrupted at an async entry, and then it
leaves the older ones in the drains. -/
theorem asyncDropLoop_cases (entries : List (Registration F A T)) (polls : List PollOutcome) :
    (completes (awaits entries) polls = true ∧
      asyncDropLoop (entries.map Registration.kind) (Drains.of entries) polls =
        .ok (entries.map Registration.onAsyncDrop, none, Drains.of [])) ∨
    ∃ newer fut older how, entries = newer ++ .async fut :: older ∧
      interruption (awaits newer) polls = some how ∧
      asyncDropLoop (entries.map Registration.kind) (Drains.of entries) polls =
        .ok (newer.map Registration.onAsyncDrop ++ [.cancelled fut], some how,
          Drains.of older) := by
  induction entries generalizing polls with
  | nil => exact .inl ⟨rfl, rfl⟩
  | cons r entries ih =>
    cases passed : pollsAfter r polls with
    | ok rest =>
      rcases ih rest with ⟨all, loop⟩ | ⟨newer, fut, older, how, rfl, stopped, loop⟩
      · exact .inl ⟨by rw [completes_cons passed, all], asyncDropLoop_cons passed loop⟩
      · exact .inr ⟨r :: newer, fut, older, how, rfl, by rw [interruption_cons passed, stopped],
          asyncDropLoop_cons passed loop⟩
    | error how =>
      cases r with
      | async fut =>
        have stopped : awaitFuture polls = .error how := passed
        exact .inr ⟨[], fut, entries, how, rfl, by simp [awaits, ofKind, interruption, stopped],
          asyncDropLoop_stop stopped⟩
      | sync _ | item _ => cases passed

theorem awaits_reverse (entries : List (Registration F A T)) :
    awaits entries.reverse = awaits entries := by
  simp [awaits, ofKind, List.filter_reverse]

/-- Where a number of `await`s complete, none of them is interrupted. -/
theorem interruption_eq_none {count : Nat} {polls : List PollOutcome} {before : Nat}
    (all : completes count polls = true) (lt : before < count) :
    interruption before polls = none := by
  induction count generalizing polls before with
  | zero => omega
  | succ count ih =>
    simp only [completes] at all
    cases first : awaitFuture polls with
    | error how => simp [first] at all
    | ok rest =>
      simp only [first] at all
      cases before with
      | zero => simp [interruption, first]
      | succ before => simpa [interruption, first] using ih all (by omega)

/-- `async_drop` of a set that holds `entries` destroys them in reverse, or is interrupted at an
async entry. -/
theorem Holds.asyncDrop_cases {set : DestructorSet F A T} {entries : List (Registration F A T)}
    (h : set.Holds entries) (allow : set.allowAsync = true) (polls : List PollOutcome) :
    (completes (awaits entries) polls = true ∧ set.asyncDrop polls =
      .ok (entries.reverse.map Registration.onAsyncDrop, .returned (.ok ()))) ∨
    ∃ older fut newer how, entries = older ++ .async fut :: newer ∧
      interruption (awaits newer) polls = some how ∧
      ∃ events, set.asyncDrop polls = .ok (events, .interrupted how) := by
  rcases asyncDropLoop_cases entries.reverse polls with
    ⟨all, loop⟩ | ⟨newer, fut, older, how, split, stopped, loop⟩
  · refine .inl ⟨by rwa [awaits_reverse] at all, ?_⟩
    have rest : (Drains.of ([] : List (Registration F A T))).drop = .ok [] := rfl
    simp only [asyncDrop, h.waiting, allow, Bool.not_true, Bool.false_eq_true, if_false, h.drains,
      h.order_reverse, loop, rest, drop_drained_ran, bind, Except.bind, pure, Except.pure,
      List.append_nil]
  · have drained := drains_drop_of older.reverse
    rw [List.reverse_reverse] at drained
    refine .inr ⟨older.reverse, fut, newer.reverse, how, ?_, by rwa [awaits_reverse],
      newer.map Registration.onAsyncDrop ++ [.cancelled fut] ++
        (leftBehind older.reverse).map Registration.onDrop, ?_⟩
    · rw [← List.reverse_reverse entries, split]
      simp
    · simp only [asyncDrop, h.waiting, allow, Bool.not_true, Bool.false_eq_true, if_false,
        h.drains, h.order_reverse, loop, drained, drop_drained, bind, Except.bind, pure,
        Except.pure, List.append_nil]

theorem awaits_lt (older : List (Registration F A T)) (fut : A)
    (newer : List (Registration F A T)) : awaits newer < awaits (older ++ .async fut :: newer) := by
  simp only [awaits, ofKind, List.filter_append, List.length_append]
  simp [Registration.kind]
  omega

/-- A new set, whatever is registered with it, holds it all. -/
theorem registerAll_new (name : String) (rs : List (Registration F A T)) :
    ((new name).registerAll rs).1 = rs ∧ ((new name).registerAll rs).2.Holds rs ∧
      ((new name).registerAll rs).2.allowAsync = true := by
  obtain ⟨accepted, holds, allow⟩ :=
    registerAll_holds (new_holds (F := F) (A := A) (T := T) name) rs
  have all : rs.filter (accepts true) = rs := by simp [accepts]
  rw [show (new name : DestructorSet F A T).allowAsync = true from rfl, all] at accepted
  rw [accepted, List.nil_append] at holds
  exact ⟨accepted, holds, allow⟩

theorem registerAll_asyncDrop (name : String) (rs : List (Registration F A T))
    {polls : List PollOutcome} (all : completes (awaits rs) polls = true) :
    ((new name).registerAll rs).2.asyncDrop polls =
      .ok (rs.reverse.map Registration.onAsyncDrop, .returned (.ok ())) := by
  obtain ⟨-, holds, allow⟩ := registerAll_new name rs
  rcases holds.asyncDrop_cases allow polls with
    ⟨-, done⟩ | ⟨older, fut, newer, how, rfl, stopped, -⟩
  · exact done
  · rw [interruption_eq_none all (awaits_lt older fut newer)] at stopped
    cases stopped

theorem registerAll_drop (name : String) (rs : List (Registration F A T)) :
    ((new name).registerAll rs).2.drop = .ok (rs.reverse.map Registration.onDrop) :=
  (registerAll_new name rs).2.1.drop

/-! ### Both teardowns -/

end DestructorSet

end SubspaceSdk
