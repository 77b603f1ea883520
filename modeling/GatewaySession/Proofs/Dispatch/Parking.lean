import GatewaySession.Proofs.Dispatch.Marks

/-!
# How long a parked record lies

A record is parked when its execution cannot go on without input: a credential, an unlocked key
store, a one-time passcode. It lies among the pending records with the context that it had, and
nothing is dispatched while it is the one that the queue waits for.

It does not lie until input arrives *for it*. The queue remembers one record that waits, and two
things release all the others. Input for a number that is not pending ends the halt, whoever it was
for that the queue was waiting; and the end of a record with priority dispatches everything that is
pending, parked or not. A record that is released in either way is executed again with the context
that it was parked with, hence without what it was parked for.

This is settled here to the end: `Queue.Releases` says of each move whether it releases, and a
parked record lies where it is until one does or input arrives for it. If it is the one that the
queue waits for, then nothing but input, be it for any number, comes into question.

## Main definitions

* `Queue.Move.supplied?` — the number that input arrives for
* `Queue.Releases` — which moves dispatch what lies parked
* `Queue.History.StaysParked` — how long a record lies, and what becomes of it

## Main results

* `Queue.History.lies_after` — one move that is not about a parked record
* `Queue.History.parked_until_released` — a record from the moment when it is parked
-/

namespace GatewaySession

namespace Queue

/-! ### Moves beside a parked record -/

/-- The number that input arrives for. -/
def Move.supplied? : Move → Option Nat
  | .supplyOtp id _ _ _ => some id
  | .supplyNothing id _ => some id
  | _ => none

/-- Whether a move dispatches every pending record, although no input has arrived for them: the
queue is processed while no mark is set, input arrives for a number that is not pending, or the
record with priority is resolved. -/
def Releases (queue : Queue) : Move → Prop
  | .process _ => queue.awaiting = none ∧ queue.priority = none
  | .supplyOtp id _ _ _ => id ∉ queue.pendingIds ∧ queue.priority = none
  | .supplyNothing id _ => id ∉ queue.pendingIds ∧ queue.priority = none
  | .finish ctx result _ =>
    ctx.id ∈ queue.active ∧ isParking result = false ∧ queue.priority = some ctx.id ∧
      queue.awaiting = none
  | _ => False

/-- What releases a pending record is not about it. -/
theorem Releases.beside {queue : Queue} {move : Move} {id : Nat} (releases : queue.Releases move)
    (pending : id ∈ queue.pendingIds) : move.supplied? ≠ some id ∧ move ≠ .cancel id := by
  cases move with
  | supplyOtp other channel otp now =>
    refine ⟨?_, Move.noConfusion⟩
    rintro ⟨⟩
    exact releases.1 pending
  | supplyNothing other now =>
    refine ⟨?_, Move.noConfusion⟩
    rintro ⟨⟩
    exact releases.1 pending
  | process | finish => exact ⟨fun same => (nomatch same), fun same => (nomatch same)⟩
  | _ => cases releases

/-- A record is pending as it is, and not ahead of the others. -/
structure Lies (queue : Queue) (ctx : Context) : Prop where
  pending : ctx ∈ queue.pending
  behind : queue.priority ≠ some ctx.id

/-- A record is active, with a task that has its context. -/
structure HasTask (queue : Queue) (ctx : Context) : Prop where
  active : ctx.id ∈ queue.active
  waiting : ctx ∈ queue.waiting

section Lies

variable {queue : Queue} {ctx : Context}

/-- Processing leaves a record where it is as long as a mark is set. -/
theorem Lies.process (lies : queue.Lies ctx) (marked : queue.Marked)
    (held : ¬(queue.awaiting = none ∧ queue.priority = none)) (now : Nat) :
    (queue.process now).2.Lies ctx := by
  cases mark : queue.awaiting with
  | some id =>
    rw [(process_halted mark now).2]
    exact ⟨lies.pending, lies.behind⟩
  | none =>
    obtain ⟨-, launches, -, priority⟩ := process_open mark now
    rw [marked.livePriority_eq] at priority
    refine ⟨?_, priority ▸ lies.behind⟩
    cases prior : queue.priority with
    | none => exact absurd ⟨mark, prior⟩ held
    | some id =>
      -- Another record has priority and goes alone, or is under way.
      by_cases pending : id ∈ queue.pendingIds
      · obtain ⟨other, mem, rfl⟩ := List.mem_map.1 pending
        rw [marked.due_of_pending mem prior] at launches
        refine launches.mem_pending lies.pending fun same => ?_
        rw [List.map_singleton, List.mem_singleton] at same
        exact lies.behind (same ▸ prior)
      · have active := (marked.priority id prior).resolve_left pending
        rw [due_of_active prior pending active] at launches
        exact launches.mem_pending lies.pending (List.not_mem_nil)

/-- Processing dispatches every pending record if no mark is set. -/
theorem hasTask_process (pending : ctx ∈ queue.pending) (clear : queue.awaiting = none)
    (free : queue.priority = none) (now : Nat) : (queue.process now).2.HasTask ctx := by
  have launches := launches_all queue clear free now
  constructor
  · rw [launches.active]
    exact List.mem_append_right _ (List.mem_map_of_mem pending)
  · rw [launches.waiting]
    exact List.mem_append_right _ pending

/-- Input for another number leaves the record as it is. -/
theorem Lies.supplied (lies : queue.Lies ctx) {id : Nat} (apart : id ≠ ctx.id)
    (update : Context → Context) : (queue.supplied id update).Lies ctx := by
  constructor
  · exact List.mem_map.2 ⟨ctx, lies.pending, if_neg (Ne.symm apart)⟩
  · change (if queue.isPending id then some id else queue.priority) ≠ some ctx.id
    split
    · exact fun same => apart (Option.some.inj same)
    · exact lies.behind

/-- Input for another number dispatches the record exactly if that number is not pending and none
has priority. -/
theorem Lies.resume (lies : queue.Lies ctx) (marked : queue.Marked) {id : Nat}
    (apart : id ≠ ctx.id) {update : Context → Context}
    (same : ∀ ctx, (update ctx).id = ctx.id) (now : Nat) :
    (id ∉ queue.pendingIds ∧ queue.priority = none →
        (queue.resume id update now).2.HasTask ctx) ∧
      (¬(id ∉ queue.pendingIds ∧ queue.priority = none) →
        (queue.resume id update now).2.Lies ctx) := by
  have beside := lies.supplied apart update
  have priority : (queue.supplied id update).priority =
      if queue.isPending id then some id else queue.priority := rfl
  constructor
  · rintro ⟨absent, free⟩
    refine hasTask_process beside.pending rfl ?_ now
    rw [priority, if_neg (mt isPending_iff.1 absent), free]
  · intro held
    refine beside.process (marked.supplied_marked id same) (fun clear => held ?_) now
    rw [priority] at clear
    split at clear
    · exact absurd clear.2 (Option.some_ne_none _)
    · next absent => exact ⟨mt isPending_iff.2 absent, clear.2⟩

/-- The end of a task dispatches the record exactly if the one that ends had priority, is resolved,
and none waits for input. -/
theorem Lies.finish (lies : queue.Lies ctx) (other : Context) (result : Except Error Response)
    (now : Nat) :
    (queue.Releases (.finish other result now) → (queue.finish other result now).HasTask ctx) ∧
      (¬queue.Releases (.finish other result now) →
        (queue.finish other result now).Lies ctx) := by
  obtain ⟨pending, actives, -, -, awaiting, priority⟩ := reported_eq queue other result now
  rcases queue.finish_cases other result now with
    ⟨inactive, eq⟩ | ⟨active, parks, eq⟩ | ⟨active, resolves, eq⟩
  · rw [eq]
    exact ⟨fun releases => absurd releases.1 inactive, fun _ => ⟨lies.pending, lies.behind⟩⟩
  · rw [eq]
    refine ⟨fun releases => ?_, fun _ => ⟨mem_insertPending.2 (Or.inr lies.pending), ?_⟩⟩
    · exact absurd (parks.symm.trans releases.2.1) Bool.true_eq_false.mp
    · exact fun prior => lies.behind (unmark_eq_some_iff.1 prior).1
  · have still : ctx ∈ (queue.reported other result now).freed.pending :=
      show ctx ∈ (queue.reported other result now).pending from pending ▸ lies.pending
    rw [eq, resolve_eq]
    constructor
    · rintro ⟨-, -, prior, clear⟩
      have halted : (queue.reported other result now).freed.awaiting = none :=
        awaiting.trans clear
      have free : (queue.reported other result now).freed.priority = none := rfl
      rw [if_pos prior]
      exact hasTask_process still halted free now
    · intro held
      split
      · next prior =>
        cases mark : queue.awaiting with
        | none => exact absurd ⟨active, resolves, prior, mark⟩ held
        | some id =>
          have halted : (queue.reported other result now).freed.awaiting = some id :=
            awaiting.trans mark
          rw [(process_halted halted now).2]
          exact ⟨still, fun prior => absurd prior.symm (Option.some_ne_none _)⟩
      · exact ⟨still, fun prior => lies.behind (priority.symm.trans prior)⟩

theorem Lies.start (lies : queue.Lies ctx) (id : Nat) : (queue.start id).2.Lies ctx := by
  rcases queue.start_cases id with eq | ⟨_, -, -, ⟨-, eq⟩ | ⟨-, eq⟩⟩ <;> rw [eq]
  · exact lies
  · exact ⟨lies.pending, lies.behind⟩
  · exact ⟨lies.pending, lies.behind⟩

theorem Lies.cancel (lies : queue.Lies ctx) {id : Nat} (apart : id ≠ ctx.id) :
    (queue.cancel id).2.Lies ctx := by
  rcases queue.cancel_cases id with ⟨-, eq⟩ | ⟨-, -, eq⟩ <;> rw [eq]
  · exact ⟨List.mem_filter.2 ⟨lies.pending, bne_iff_ne.2 (Ne.symm apart)⟩,
      fun prior => lies.behind (unmark_eq_some_iff.1 prior).1⟩
  · exact lies

end Lies

namespace History

variable {history : History} {ctx : Context}

/-- **One move** that is not about a parked record: it is dispatched as it is if the move releases,
and lies as it is if not. -/
theorem lies_after (marked : history.queue.Marked) (lies : history.queue.Lies ctx) {move : Move}
    (other : move.supplied? ≠ some ctx.id) (uncancelled : move ≠ .cancel ctx.id) :
    (history.queue.Releases move → (history.after move).queue.HasTask ctx) ∧
      (¬history.queue.Releases move → (history.after move).queue.Lies ctx) := by
  cases move with
  | allocate => exact ⟨False.elim, fun _ => ⟨lies.pending, lies.behind⟩⟩
  | submit request =>
    exact ⟨False.elim, fun _ => ⟨mem_insertPending.2 (Or.inr lies.pending), lies.behind⟩⟩
  | process now =>
    exact ⟨fun clear => hasTask_process lies.pending clear.1 clear.2 now,
      fun held => lies.process marked held now⟩
  | start id => exact ⟨False.elim, fun _ => lies.start id⟩
  | finish ended result now => exact lies.finish ended result now
  | cancel id =>
    exact ⟨False.elim, fun _ => lies.cancel fun same => uncancelled (congrArg Move.cancel same)⟩
  | supplyOtp id channel otp now =>
    exact lies.resume marked (fun same => other (congrArg some same))
      (fun _ => by cases channel <;> rfl) now
  | supplyNothing id now =>
    exact lies.resume marked (fun same => other (congrArg some same)) (fun _ => rfl) now
  | take id => exact ⟨False.elim, fun _ => ⟨lies.pending, lies.behind⟩⟩
  | evict now => exact ⟨False.elim, fun _ => ⟨lies.pending, lies.behind⟩⟩

/-! ### Runs -/

/-- Moves that come one after the other, each of which is admitted and of the given kind where it is
made. -/
inductive LeadsBy (kind : Queue → Move → Prop) (start : History) : History → Prop where
  | here : LeadsBy kind start start
  | move {history : History} (move : Move) : LeadsBy kind start history →
      history.queue.Admits move → kind history.queue move →
      LeadsBy kind start (history.after move)

theorem LeadsBy.leads {kind : Queue → Move → Prop} {start : History}
    (reached : start.LeadsBy kind history) : start.Leads history := by
  induction reached with
  | here => exact .here
  | move move _ admitted _ ih => exact .move move ih admitted

/-- A request was cancelled, and is resolved by that. -/
structure Gone (history : History) (id : Nat) : Prop where
  cancelled : id ∈ history.cancelled
  resolved : id ∈ history.resolved

theorem Gone.after {id : Nat} (gone : history.Gone id) (move : Move) :
    (history.after move).Gone id := by
  obtain ⟨cancelled, resolved⟩ := gone
  cases move with
  | finish => exact ⟨cancelled, List.mem_append_left _ resolved⟩
  | cancel => exact ⟨List.mem_append_left _ cancelled, List.mem_append_left _ resolved⟩
  | _ => exact ⟨cancelled, resolved⟩

/-- Cancelling a pending record. -/
theorem gone_after_cancel {id : Nat} (pending : id ∈ history.queue.pendingIds) :
    (history.after (.cancel id)).Gone id := by
  have found : (history.queue.cancel id).1 = true := by
    simp [Queue.cancel, isPending_iff.2 pending]
  refine ⟨?_, resolved_cancel found⟩
  simp only [History.after, found, if_true]
  exact List.mem_append_right _ List.mem_cons_self

/-- A record lies as it was parked, or was cancelled since. -/
def Rests (history : History) (ctx : Context) : Prop :=
  history.queue.Lies ctx ∨ history.Gone ctx.id

namespace Rests

/-- A record that rests is not under way. -/
theorem inactive (rests : history.Rests ctx) (kept : history.Kept) :
    ctx.id ∉ history.queue.active := by
  rcases rests with lies | gone
  · exact kept.inactive (List.mem_map_of_mem lies.pending)
  · exact (kept.settled.of_resolved (Or.inl gone.resolved)).2

/-- A record that rests and is pending lies as it was parked: it was not cancelled. -/
theorem lies (rests : history.Rests ctx) (kept : history.Kept)
    (pending : ctx ∈ history.queue.pending) : history.queue.Lies ctx := by
  refine rests.resolve_right fun gone => ?_
  exact (kept.settled.of_resolved (Or.inl gone.resolved)).1 (List.mem_map_of_mem pending)

/-- Where a record that rests stands. -/
theorem pending_or_cancelled (rests : history.Rests ctx) :
    ctx ∈ history.queue.pending ∨ ctx.id ∈ history.cancelled :=
  rests.imp Lies.pending Gone.cancelled

/-- A record that rests does so after every move that neither releases nor is input for it. -/
theorem after (rests : history.Rests ctx) (marked : history.queue.Marked) {move : Move}
    (other : move.supplied? ≠ some ctx.id)
    (held : history.queue.Lies ctx → ¬history.queue.Releases move) :
    (history.after move).Rests ctx := by
  rcases rests with lies | gone
  · by_cases uncancelled : move = .cancel ctx.id
    · rw [uncancelled]
      exact Or.inr (gone_after_cancel (List.mem_map_of_mem lies.pending))
    · exact Or.inl ((lies_after marked lies other uncancelled).2 (held lies))
  · exact Or.inr (gone.after move)

end Rests

/-- The queue waits for the same record after every move that brings no input and does not cancel
it. -/
theorem awaiting_after {id : Nat} (awaits : history.queue.awaiting = some id) {move : Move}
    (mute : move.supplied? = none) (uncancelled : move ≠ .cancel id) :
    (history.after move).queue.awaiting = some id := by
  cases move with
  | process now =>
    change (history.queue.process now).2.awaiting = some id
    rw [(process_halted awaits now).2]
    exact awaits
  | start other =>
    change (history.queue.start other).2.awaiting = some id
    rcases history.queue.start_cases other with eq | ⟨_, -, -, ⟨-, eq⟩ | ⟨-, eq⟩⟩ <;> rw [eq] <;>
      exact awaits
  | finish ctx result now =>
    change (history.queue.finish ctx result now).awaiting = some id
    obtain ⟨-, -, -, -, awaiting, -⟩ := reported_eq history.queue ctx result now
    rcases history.queue.finish_cases ctx result now with ⟨-, eq⟩ | ⟨-, -, eq⟩ | ⟨-, -, eq⟩ <;>
      rw [eq]
    · exact awaits
    · simp [park, ended, awaits]
    · have halted : (history.queue.reported ctx result now).freed.awaiting = some id :=
        awaiting.trans awaits
      rw [resolve_eq]
      split
      · rw [(process_halted halted now).2]
        exact halted
      · exact halted
  | cancel other =>
    change (history.queue.cancel other).2.awaiting = some id
    rcases history.queue.cancel_cases other with ⟨-, eq⟩ | ⟨-, -, eq⟩ <;> rw [eq]
    · refine unmark_eq_some_iff.2 ⟨awaits, fun same => uncancelled ?_⟩
      rw [same]
    · exact awaits
  | supplyOtp other channel otp now => cases mute
  | supplyNothing other now => cases mute
  | _ => exact awaits

/-- While a record waits for input, only input releases the others. -/
theorem not_releases {queue : Queue} {id : Nat} (awaits : queue.awaiting = some id) {move : Move}
    (mute : move.supplied? = none) : ¬queue.Releases move := by
  have halted : queue.awaiting ≠ none := by
    rw [awaits]
    exact Option.some_ne_none id
  cases move with
  | process now => exact fun releases => halted releases.1
  | finish ctx result now => exact fun releases => halted releases.2.2.2
  | supplyOtp id channel otp now => cases mute
  | supplyNothing id now => cases mute
  | _ => exact False.elim

/-- What becomes of a record that was parked. -/
structure StaysParked (parked : History) (ctx : Context) : Prop where
  /-- Until input arrives for it or a move releases what lies parked, no task of it is taken up, and
  it lies with the context that it was parked with, unless it is cancelled. -/
  rests : ∀ later, parked.LeadsBy (fun queue move =>
      move.supplied? ≠ some ctx.id ∧ ¬queue.Releases move) later →
    later.started.count ctx.id = parked.started.count ctx.id ∧
      (ctx ∈ later.queue.pending ∨ ctx.id ∈ later.cancelled)
  /-- A move that releases makes it active, and a free worker that takes it up executes it with the
  context that it was parked with. -/
  released : ∀ later, parked.LeadsBy (fun queue move =>
      move.supplied? ≠ some ctx.id ∧ ¬queue.Releases move) later →
    ctx ∈ later.queue.pending →
    ∀ move, later.queue.Admits move → later.queue.Releases move →
      (later.after move).queue.isActive ctx.id = true ∧
        ((later.after move).queue.hasFreeWorker = true →
          ((later.after move).queue.start ctx.id).1 = some ctx)
  /-- If the queue waits for it, nothing releases it as long as no input arrives for any number. -/
  halted : parked.queue.awaiting = some ctx.id → ∀ later,
    parked.LeadsBy (fun _ move => move.supplied? = none) later →
    later.started.count ctx.id = parked.started.count ctx.id ∧
      (ctx ∈ later.queue.pending ∨ ctx.id ∈ later.cancelled)

section Runs

variable {workers retention : Nat} {parked later : History}
  (reached : (opened workers retention).Leads parked) (rests : parked.Rests ctx)

include reached rests

/-- **Until a move releases** or input arrives for it, a record rests and is not executed. -/
theorem rests_of_leadsBy (run : parked.LeadsBy (fun queue move =>
      move.supplied? ≠ some ctx.id ∧ ¬queue.Releases move) later) :
    later.Rests ctx ∧ later.started.count ctx.id = parked.started.count ctx.id := by
  induction run with
  | here => exact ⟨rests, rfl⟩
  | @move history move run _ held ih =>
    have onward := reached.trans run.leads
    have inactive := ih.1.inactive ((kept_opened workers retention).leads onward)
    exact ⟨ih.1.after (Marked.leads onward) held.1 fun _ => held.2,
      (started_after inactive move).trans ih.2⟩

/-- **Until input arrives** for any number, a record that the queue waits for rests and is not
executed. -/
theorem rests_of_awaiting (awaits : parked.queue.awaiting = some ctx.id)
    (run : parked.LeadsBy (fun _ move => move.supplied? = none) later) :
    later.Rests ctx ∧ later.started.count ctx.id = parked.started.count ctx.id := by
  -- The queue waits for it until it is cancelled, and from then on it does not lie any more.
  suffices waits : (later.Rests ctx ∧
      later.started.count ctx.id = parked.started.count ctx.id) ∧
      (later.queue.awaiting = some ctx.id ∨ later.Gone ctx.id) from waits.1
  induction run with
  | here => exact ⟨⟨rests, rfl⟩, Or.inl awaits⟩
  | @move history move run _ mute ih =>
    obtain ⟨⟨resting, started⟩, waits⟩ := ih
    have onward := reached.trans run.leads
    have kept := (kept_opened workers retention).leads onward
    have other : move.supplied? ≠ some ctx.id := by
      rw [mute]
      exact (Option.some_ne_none _).symm
    have held : history.queue.Lies ctx → ¬history.queue.Releases move := fun lies =>
      not_releases (waits.resolve_right fun gone =>
        (kept.settled.of_resolved (Or.inl gone.resolved)).1 (List.mem_map_of_mem lies.pending)) mute
    refine ⟨⟨resting.after (Marked.leads onward) other held,
      (started_after (resting.inactive kept) move).trans started⟩, ?_⟩
    rcases waits with awaits | gone
    · by_cases uncancelled : move = .cancel ctx.id
      · rw [uncancelled]
        have marked := Marked.leads onward
        exact Or.inr (gone_after_cancel (marked.awaiting _ awaits))
      · exact Or.inl (awaiting_after awaits mute uncancelled)
    · exact Or.inr (gone.after move)

end Runs

/-- A free worker that takes up the task of an active record executes it with the context of the
task. -/
theorem start_of_hasTask (kept : history.Kept) (task : history.queue.HasTask ctx)
    (free : history.queue.hasFreeWorker = true) :
    (history.queue.start ctx.id).1 = some ctx := by
  have distinct : (history.queue.waiting.map (·.id)).Nodup := by
    refine List.nodup_iff_count.2 fun id => ?_
    have := kept.settled.lone id
    have := kept.settled.once id
    have := Queue.count_taskIds history.queue id
    omega
  rw [Queue.start, if_pos free, withId_of_mem distinct task.waiting]
  exact congrArg Prod.fst (if_pos (isActive_iff.2 task.active))

/-- **A parked record** lies until a move releases it or input arrives for it, after any moves of a
queue that was opened empty. -/
theorem parked_until_released {workers retention : Nat}
    (reached : (opened workers retention).Leads history) (obstacle : Obstacle) (now : Nat)
    (runs : ctx.id ∈ history.queue.running) (active : history.queue.isActive ctx.id = true) :
    (history.after (.finish ctx (.error (.awaitingInput obstacle)) now)).StaysParked ctx := by
  have parked := Leads.move (.finish ctx (.error (.awaitingInput obstacle)) now) reached runs
  have eq : (history.after (.finish ctx (.error (.awaitingInput obstacle)) now)).queue =
      (history.queue.ended ctx.id).park ctx := if_pos active
  have rests :
      (history.after (.finish ctx (.error (.awaitingInput obstacle)) now)).Rests ctx := by
    refine Or.inl ?_
    rw [eq]
    exact ⟨mem_insertPending.2 (Or.inl rfl), fun prior => (unmark_eq_some_iff.1 prior).2 rfl⟩
  refine ⟨fun later run => ?_, fun later run pending move admitted releases => ?_,
    fun awaits later run => ?_⟩
  · obtain ⟨resting, started⟩ := rests_of_leadsBy parked rests run
    exact ⟨started, resting.pending_or_cancelled⟩
  · have onward := parked.trans run.leads
    have kept := (kept_opened workers retention).leads onward
    have lies := (rests_of_leadsBy parked rests run).1.lies kept pending
    obtain ⟨other, uncancelled⟩ := releases.beside (List.mem_map_of_mem pending)
    have task := (lies_after (Marked.leads onward) lies other uncancelled).1 releases
    exact ⟨isActive_iff.2 task.active, start_of_hasTask (kept.after move admitted) task⟩
  · obtain ⟨resting, started⟩ := rests_of_awaiting parked rests awaits run
    exact ⟨started, resting.pending_or_cancelled⟩

/-- Two requests that workers execute at the same time. -/
def paired : History :=
  (((((opened 2 60).after (.submit { method := .get, url := "" })).after
    (.submit { method := .get, url := "" })).after (.process 0)).after (.start 1)).after (.start 2)

/-- The first of the two, when it was sent once. -/
def sentOnce : Context := { id := 1, request := { method := .get, url := "" }, attempts := 1 }

/-- The first request is parked for a one-time passcode. When input arrives for a number that there
is not, it is executed again as it was parked. -/
theorem parked_until_released_resent :
    ((opened 2 60).Leads paired ∧ sentOnce.id ∈ paired.queue.running ∧
      paired.queue.isActive sentOnce.id = true) ∧
    (paired.after (.finish sentOnce (.error (.awaitingInput .otpRequired)) 0)).StaysParked
      sentOnce ∧
    (((paired.after (.finish sentOnce (.error (.awaitingInput .otpRequired)) 0)).after
      (.supplyNothing 99 1)).after (.start 1)).started = [1, 2, 1] :=
  have reached : (opened 2 60).Leads paired :=
    .move _ (.move _ (.move _ (.move _ (.move _ .here trivial) trivial) trivial) trivial) trivial
  have runs : sentOnce.id ∈ paired.queue.running := List.mem_cons_self
  ⟨⟨reached, runs, rfl⟩, parked_until_released reached .otpRequired 0 runs rfl, rfl⟩

end History

end Queue

end GatewaySession
