import SubspaceSdk.Node.BlockHeader
import SubspaceSdk.ProofKit.History
import SubspaceSdk.Utils.RpcSubscription

/-! `subscribe_new_heads` and `subscribe_finalized_heads` of a node: the stream of the RPC client,
whose headers are converted when the caller polls.  A header that cannot be converted panics in the
caller, which polls no more. -/

namespace SubspaceSdk

open ProofKit RpcSubscription

structure Heads (Raw Hash PreDigest : Type) where
  headers : RpcSubscription Raw (Header Hash) := {}
  /-- What the caller's stream has given. -/
  given : List (BlockHeader Hash PreDigest) := []
  /-- The message with which the caller's poll panicked. -/
  panicked : Option String := none

namespace Heads

section

variable {Raw Hash PreDigest : Type} (decode : Raw → Option (Header Hash))
variable (hash : Header Hash → Hash) (codec : PreDigestCodec PreDigest)

/-- `.map(Into::into)`, of the header that the poll gave, if it gave one. -/
def convert (s : Heads Raw Hash PreDigest) (headers : RpcSubscription Raw (Header Hash)) :
    Heads Raw Hash PreDigest :=
  match headers.items[s.headers.items.length]? with
  | none => { s with headers }
  | some header =>
    match BlockHeader.ofHeader hash codec header with
    | .ok blockHeader => { s with headers, given := s.given ++ [blockHeader] }
    | .error message => { s with headers, panicked := some message }

def next (s : Heads Raw Hash PreDigest) :
    RpcSubscription.Action Raw → Option (Heads Raw Hash PreDigest)
  | .poll =>
    if s.panicked.isSome then none
    else ((RpcSubscription.system decode).next s.headers .poll).map (s.convert hash codec)
  | a => ((RpcSubscription.system decode).next s.headers a).map ({ s with headers := · })

def system : System (Heads Raw Hash PreDigest) (RpcSubscription.Action Raw) :=
  ⟨next decode hash codec⟩

end

variable {Raw Hash PreDigest : Type} {decode : Raw → Option (Header Hash)}
variable {hash : Header Hash → Hash} {codec : PreDigestCodec PreDigest}
variable {s t : Heads Raw Hash PreDigest} {a : RpcSubscription.Action Raw}
variable {as : List (RpcSubscription.Action Raw)}

/-! ### What a step can do -/

variable (hash codec s) in
/-- A step of the subscription, and what comes of the header that it gives, if it gives one. -/
inductive Step (headers : RpcSubscription Raw (Header Hash)) : Heads Raw Hash PreDigest → Prop
  | quiet (same : headers.items = s.headers.items) : Step headers { s with headers }
  | converted {header : Header Hash} {blockHeader : BlockHeader Hash PreDigest}
      (awake : s.panicked = none) (more : headers.items = s.headers.items ++ [header])
      (fine : BlockHeader.ofHeader hash codec header = .ok blockHeader) :
      Step headers { s with headers, given := s.given ++ [blockHeader] }
  | panics {header : Header Hash} {message : String} (awake : s.panicked = none)
      (more : headers.items = s.headers.items ++ [header])
      (fails : BlockHeader.ofHeader hash codec header = .error message) :
      Step headers { s with headers, panicked := some message }

/-- A poll gives at most one item, and nothing else gives one. -/
theorem items_of_next {s t : RpcSubscription Raw (Header Hash)}
    (h : (RpcSubscription.system decode).next s a = some t) :
    t.items = s.items ∨ a = .poll ∧ ∃ header, t.items = s.items ++ [header] := by
  cases RpcSubscription.step_of_next h with
  | @ready raw buffer alive first =>
    cases decode raw with
    | none => exact .inl (List.append_nil _)
    | some header => exact .inr ⟨rfl, header, rfl⟩
  | _ => exact .inl rfl

theorem step_convert {headers : RpcSubscription Raw (Header Hash)} (awake : s.panicked = none)
    (items : headers.items = s.headers.items ∨
      ∃ header, headers.items = s.headers.items ++ [header]) :
    Step hash codec s headers (s.convert hash codec headers) := by
  unfold convert
  rcases items with same | ⟨header, more⟩
  · rw [List.getElem?_eq_none (same ▸ Nat.le_refl _)]
    exact .quiet same
  · rw [show headers.items[s.headers.items.length]? = some header by simp [more]]
    dsimp only
    split
    · next fine => exact .converted awake more fine
    · next fails => exact .panics awake more fails

theorem step_of_next (h : (system decode hash codec).next s a = some t) :
    ∃ headers, (RpcSubscription.system decode).next s.headers a = some headers ∧
      Step hash codec s headers t := by
  have quietly : ∀ {b : RpcSubscription.Action Raw}, b ≠ .poll →
      ((RpcSubscription.system decode).next s.headers b).map ({ s with headers := · }) = some t →
      ∃ headers, (RpcSubscription.system decode).next s.headers b = some headers ∧
        Step hash codec s headers t := by
    intro b other h
    obtain ⟨headers, moved, rfl⟩ := Option.map_eq_some_iff.mp h
    exact ⟨headers, moved, .quiet ((items_of_next moved).resolve_right fun poll => other poll.1)⟩
  cases a with
  | poll =>
    simp only [system, next] at h
    split at h
    · cases h
    · next awake =>
      obtain ⟨headers, moved, rfl⟩ := Option.map_eq_some_iff.mp h
      refine ⟨headers, moved, step_convert (by simpa using awake) ?_⟩
      exact (items_of_next moved).imp_right And.right
  | publish | task | drop => exact quietly (fun same => by cases same) h

theorem component : System.Component (system decode hash codec) (RpcSubscription.system decode)
    Heads.headers some := by
  refine ⟨fun s a t b hnext own => ?_, fun s a t _ other => by cases other⟩
  cases own
  obtain ⟨headers, moved, step⟩ := step_of_next hnext
  cases step <;> exact moved

theorem run_headers (run : (system decode hash codec).Run {} as t) :
    (RpcSubscription.system decode).Run {} as t.headers := by
  simpa using component.run run

/-! ### What the caller gets -/

/-- Headers are converted up to the first one that cannot be, with which the caller panicked. -/
inductive Converts (hash : Header Hash → Hash) (codec : PreDigestCodec PreDigest)
    (headers : List (Header Hash)) (given : List (BlockHeader Hash PreDigest)) :
    Option String → Prop
  | all (same : headers.mapM (BlockHeader.ofHeader hash codec) = .ok given) :
      Converts hash codec headers given none
  | upTo {before : List (Header Hash)} {header : Header Hash} {message : String}
      (order : headers = before ++ [header])
      (same : before.mapM (BlockHeader.ofHeader hash codec) = .ok given)
      (fails : BlockHeader.ofHeader hash codec header = .error message) :
      Converts hash codec headers given (some message)

theorem Converts.step {headers : RpcSubscription Raw (Header Hash)}
    (before : Converts hash codec s.headers.items s.given s.panicked)
    (step : Step hash codec s headers t) :
    Converts hash codec t.headers.items t.given t.panicked := by
  cases step with
  | quiet same => exact same ▸ before
  | converted awake more fine =>
    rw [awake] at before
    cases before with
    | all same =>
      rw [awake]
      refine .all ?_
      rw [more, List.mapM_append, same]
      simp only [List.mapM_cons, List.mapM_nil, fine]
      rfl
  | panics awake more fails =>
    rw [awake] at before
    cases before with
    | all same => exact .upTo more same fails

theorem run_converts (run : (system decode hash codec).Run {} as t) :
    Converts hash codec t.headers.items t.given t.panicked :=
  run.invariant (I := fun _ t => Converts hash codec t.headers.items t.given t.panicked)
    (.all rfl) fun _ _ _ _ before _ hnext =>
      have ⟨_, _, step⟩ := step_of_next hnext
      before.step step

theorem run_beginning (run : (system decode hash codec).Run {} as t) :
    t.headers.items <+: (forwarded (published as)).filterMap decode := by
  obtain ⟨polled, first, items⟩ := run_gaveBeginning (run_headers run)
  exact items ▸ first.filterMap decode

/-! ### What the caller can still get -/

theorem convert_headers (headers : RpcSubscription Raw (Header Hash)) :
    (s.convert hash codec headers).headers = headers := by
  unfold convert
  split
  · rfl
  · split <;> rfl

variable (hash codec) in
/-- A caller that has not panicked goes along with its subscription. -/
theorem next_of_headers {headers : RpcSubscription Raw (Header Hash)} (awake : s.panicked = none)
    (h : (RpcSubscription.system decode).next s.headers a = some headers) :
    ∃ t, (system decode hash codec).next s a = some t ∧ t.headers = headers := by
  cases a with
  | poll =>
    refine ⟨s.convert hash codec headers, ?_, convert_headers headers⟩
    simp only [system, next, awake, Option.isSome_none, Bool.false_eq_true, if_false, h,
      Option.map_some]
  | publish | task | drop =>
    refine ⟨{ s with headers }, ?_, rfl⟩
    simp only [system, next, h, Option.map_some]

variable (hash codec) in
theorem run_of_headers {bs : List (RpcSubscription.Action Raw)}
    {headers : RpcSubscription Raw (Header Hash)}
    (run : (RpcSubscription.system decode).Run s.headers bs headers) :
    ∃ cs u, cs <+: bs ∧ (system decode hash codec).Run s cs u ∧
      (u.panicked = none → cs = bs ∧ u.headers = headers) := by
  induction run with
  | start => exact ⟨[], s, List.prefix_rfl, .start, fun _ => ⟨rfl, rfl⟩⟩
  | @step bs b _ headers _ _ hnext ih =>
    obtain ⟨cs, u, first, rest, along⟩ := ih
    cases panicked : u.panicked with
    | some message =>
      refine ⟨cs, u, first.trans (List.prefix_append _ _), rest, fun awake => ?_⟩
      exact absurd (panicked.symm.trans awake) (Option.some_ne_none _)
    | none =>
      obtain ⟨rfl, same⟩ := along panicked
      obtain ⟨v, hnext', there⟩ := next_of_headers hash codec panicked (same ▸ hnext)
      exact ⟨cs ++ [b], v, List.prefix_rfl, rest.next hnext', fun _ => ⟨rfl, there⟩⟩

/-- In every run, whatever the pace of the caller: it gets the converted headers, in order, of a
beginning of those that can be decoded of what the inner subscription gave before its first failure,
up to the first header that cannot be converted, with which its poll panics.  And as long as the
caller keeps its stream it can get to where it has all of them, and to the end if there was a
failure, unless one of them cannot be converted. -/
theorem run_heads (run : (system decode hash codec).Run {} as t) :
    (∃ headers, headers <+: (forwarded (published as)).filterMap decode ∧
      Converts hash codec headers t.given t.panicked) ∧
    (t.headers.notifs.receiverAlive = true → ∃ bs u, (∀ a ∈ bs, a.isOnward = true) ∧
      (system decode hash codec).Run t bs u ∧
        (((forwarded (published as)).filterMap decode).mapM (BlockHeader.ofHeader hash codec) =
            .ok u.given ∧ u.panicked = none ∧
            ((∃ result ∈ published as, Failure result) → u.headers.ended = true) ∨
          ∃ header ∈ (forwarded (published as)).filterMap decode, ∃ message,
            BlockHeader.ofHeader hash codec header = .error message ∧
              u.panicked = some message)) := by
  refine ⟨⟨_, run_beginning run, run_converts run⟩, fun alive => ?_⟩
  obtain ⟨bs, headers, onward, rest, items, ended⟩ := run_toAll (run_headers run) alive
  obtain ⟨cs, u, first, rest', along⟩ := run_of_headers hash codec rest
  have onward' : ∀ a ∈ cs, a.isOnward = true := fun a mem => onward a (first.subset mem)
  have beginning := run_beginning (run.append rest')
  have converts := run_converts (run.append rest')
  rw [published_onward onward'] at beginning
  refine ⟨cs, u, onward', rest', ?_⟩
  cases panicked : u.panicked with
  | none =>
    obtain ⟨-, same⟩ := along panicked
    rw [panicked] at converts
    cases converts with
    | all given => exact .inl ⟨by rwa [← items, ← same], rfl, same ▸ ended⟩
  | some message =>
    rw [panicked] at converts
    cases converts with
    | upTo order _ fails =>
      refine .inr ⟨_, beginning.subset ?_, message, fails, rfl⟩
      rw [order]
      exact List.mem_append_right _ List.mem_cons_self

abbrev SlotHeads := Heads (Header Nat) Nat { slot : List UInt8 // slot.length = 8 }

/-- A block of the chain, and one whose digest begins with another engine's item. -/
def twoHeads : List (Header Nat) :=
  [⟨7, 1, 2, 3, [.preRuntime subspaceEngineId (slotCodec.encode slotNine)]⟩,
    ⟨8, 7, 2, 3, [.preRuntime auraEngineId [9, 0, 0, 0, 0, 0, 0, 0],
      .preRuntime subspaceEngineId (slotCodec.encode slotNine)]⟩]

theorem run_heads_aura :
    ∃ (t : SlotHeads) (headers : List (Header Nat)),
      (system some (fun header => header.number) slotCodec).Run {}
          (twoHeads.map (fun header => .publish (some (.ok header))) ++
            [.task, .task, .task, .task, .poll, .poll]) t ∧
        t.panicked = some "Pre digest is always scale encoded" ∧ headers <+: twoHeads ∧
        Converts (fun header => header.number) slotCodec headers t.given t.panicked := by
  obtain ⟨t, done, panicked⟩ : ∃ t : SlotHeads,
      (system some (fun header => header.number) slotCodec).exec (fun _ _ _ => True) [] {}
          (twoHeads.map (fun header => .publish (some (.ok header))) ++
            [.task, .task, .task, .task, .poll, .poll]) = some t ∧
        t.panicked = some "Pre digest is always scale encoded" := ⟨_, rfl, rfl⟩
  have run := System.RunIf.of_exec done
  obtain ⟨⟨headers, beginning, converts⟩, -⟩ := run_heads run
  exact ⟨t, headers, run, panicked, beginning, converts⟩

end Heads

end SubspaceSdk
