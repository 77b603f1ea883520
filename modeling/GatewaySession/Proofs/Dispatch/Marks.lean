import GatewaySession.Proofs.Dispatch.Resolution

/-!
# The marks of a queue

Two marks decide what is dispatched: the record that waits for input halts everything, and the
record with priority goes alone, ahead of the others. A mark that outlives its record would halt the
queue for ever, and there are many moves that set, move or clear one of them while tasks are under
way.

The invariant is that a mark is on a record whose end clears it: the one that waits for input is
pending, and the one with priority is pending or active. What a queue owes to its pending records
follows from it. Processing dispatches at least one unless a record waits for input or the one with
priority is under way; the first is pending and input or a cancellation clears its mark, and the
second has a task, with whose end the others are dispatched.

What follows the record with priority depends on how it ends. When the worker that executed it
resolves it, the others are dispatched at once. When it is cancelled before that, its marks go with
it, and the others are dispatched as soon as the queue is processed, for which the cancellation
gives the signal.

## Main definitions

* `Queue.Launches` — pending records become active, and nothing else moves
* `Queue.Marked` — marks are on records that will clear them
* `Queue.History.NeverWedges` — what callers rely on

## Main results

* `Queue.Marked.after` — every admitted move keeps the marks
* `Queue.History.neverWedges` — no queue that was opened empty ever halts for good
-/

namespace GatewaySession

namespace Queue

/-! ### Launching -/

/-- Some pending records become active in their order, each with a task behind those that wait. The
others stay where they are, and no task starts or ends. -/
structure Launches (before : Queue) (records : List Context) (after : Queue) : Prop where
  pending : after.pending = before.pending.filter fun ctx => ctx.id ∉ records.map (·.id)
  active : after.active = before.active ++ records.map (·.id)
  waiting : after.waiting = before.waiting ++ records
  running : after.running = before.running

section Launches

variable {queue : Queue}

/-- Processing dispatches nothing while a record waits for input. -/
theorem process_halted {id : Nat} (halted : queue.awaiting = some id) (now : Nat) :
    (queue.process now).1 = 0 ∧ (queue.process now).2 = (queue.evict now).2 := by
  constructor
  · rw [process]
    simp only [evict, halted]
  · rw [process_snd, halted]

/-- While a record waits for input, processing moves nothing. -/
theorem launches_halted {id : Nat} (halted : queue.awaiting = some id) (now : Nat) :
    (queue.process now).1 = 0 ∧ queue.Launches [] (queue.process now).2 := by
  obtain ⟨none, same⟩ := process_halted halted now
  refine ⟨none, ?_⟩
  rw [same]
  exact ⟨(List.filter_eq_self.2 fun _ _ => rfl).symm, (List.append_nil _).symm,
    (List.append_nil _).symm, rfl⟩

theorem launches_dispatch (queue : Queue) (records : List Context) :
    queue.Launches records (queue.dispatch records) := by
  refine ⟨List.filter_congr fun ctx _ => ?_, rfl, rfl, rfl⟩
  rw [Bool.eq_iff_iff]
  simp

/-- Processing dispatches the records that are due if none waits for input. -/
theorem process_open (clear : queue.awaiting = none) (now : Nat) :
    (queue.process now).1 = queue.due.length ∧ queue.Launches queue.due (queue.process now).2 ∧
      (queue.process now).2.awaiting = none ∧
      (queue.process now).2.priority = queue.livePriority := by
  have launched := launches_dispatch queue queue.due
  refine ⟨?_, ?_, ?_, ?_⟩
  · rw [process]
    simp only [evict, clear]
    rfl
  · rw [process_snd, clear]
    exact ⟨launched.pending, launched.active, launched.waiting, launched.running⟩
  · rw [process_snd, clear]
    exact clear
  · rw [process_snd, clear]
    rfl

/-- All pending records are due if none has priority. -/
theorem due_of_none (clear : queue.priority = none) : queue.due = queue.pending := by
  rw [due, clear]

/-- Nothing is due while the record with priority is under way. -/
theorem due_of_active {id : Nat} (prior : queue.priority = some id)
    (absent : id ∉ queue.pendingIds) (active : id ∈ queue.active) : queue.due = [] := by
  rw [due, prior]
  exact (if_neg (mt isPending_iff.1 absent)).trans (if_pos (isActive_iff.2 active))

/-- Processing dispatches all pending records if no mark is in the way. -/
theorem launches_all (queue : Queue) (clear : queue.awaiting = none)
    (free : queue.priority = none) (now : Nat) :
    queue.Launches queue.pending (queue.process now).2 := by
  have launches := (process_open clear now).2.1
  rwa [due_of_none free] at launches

/-- Launching looks at the places of records alone. -/
theorem Launches.congr {other after : Queue} {records : List Context}
    (launches : queue.Launches records after) (pending : queue.pending = other.pending)
    (active : queue.active = other.active) (waiting : queue.waiting = other.waiting)
    (running : queue.running = other.running) : other.Launches records after :=
  ⟨pending ▸ launches.pending, active ▸ launches.active, waiting ▸ launches.waiting,
    running ▸ launches.running⟩

/-- A record that is not launched stays pending. -/
theorem Launches.mem_pending {records : List Context} {after : Queue}
    (launches : queue.Launches records after) {ctx : Context} (pending : ctx ∈ queue.pending)
    (left : ctx.id ∉ records.map (·.id)) : ctx ∈ after.pending := by
  rw [launches.pending]
  exact List.mem_filter.2 ⟨pending, by simpa using left⟩

/-- Launching loses no record. -/
theorem Launches.there {records : List Context} {after : Queue}
    (launches : queue.Launches records after) {id : Nat}
    (before : id ∈ queue.pendingIds ∨ id ∈ queue.active) :
    id ∈ after.pendingIds ∨ id ∈ after.active := by
  rw [launches.active, List.mem_append]
  rcases before with pending | active
  · obtain ⟨ctx, mem, rfl⟩ := List.mem_map.1 pending
    by_cases launched : ctx.id ∈ records.map (·.id)
    · exact Or.inr (Or.inr launched)
    · exact Or.inl (List.mem_map.2 ⟨ctx, launches.mem_pending mem launched, rfl⟩)
  · exact Or.inr (Or.inl active)

end Launches

/-! ### Before a move dispatches -/

/-! ### Order -/

theorem perm_insertPending (ctx : Context) (records : List Context) :
    (insertPending ctx records).Perm (ctx :: records) := by
  induction records with
  | nil => exact .refl _
  | cons other rest ih =>
    rw [insertPending]
    split
    · exact .refl _
    · exact (ih.cons other).trans (.swap ctx other rest)

theorem mem_insertPending {ctx other : Context} {records : List Context} :
    other ∈ insertPending ctx records ↔ other = ctx ∨ other ∈ records := by
  rw [(perm_insertPending ctx records).mem_iff, List.mem_cons]

/-- A record with a new number is put where the order wants it. -/
theorem pairwise_insertPending {ctx : Context} {records : List Context}
    (ascending : records.Pairwise fun a b => a.id < b.id)
    (unseen : ctx.id ∉ records.map (·.id)) :
    (insertPending ctx records).Pairwise fun a b => a.id < b.id := by
  induction records with
  | nil => exact List.pairwise_singleton _ _
  | cons other rest ih =>
    obtain ⟨first, others⟩ := List.pairwise_cons.1 ascending
    rw [List.map_cons, List.mem_cons, not_or] at unseen
    rw [insertPending]
    split
    · next less =>
      refine List.pairwise_cons.2 ⟨fun record mem => ?_, ascending⟩
      rcases List.mem_cons.1 mem with rfl | later
      · exact less
      · exact Nat.lt_trans less (first record later)
    · next notLess =>
      have beyond : other.id < ctx.id :=
        Nat.lt_of_le_of_ne (Nat.le_of_not_lt notLess) (Ne.symm unseen.1)
      refine List.pairwise_cons.2 ⟨fun record mem => ?_, ih others unseen.2⟩
      rcases mem_insertPending.1 mem with rfl | later
      · exact beyond
      · exact first record later

/-- There is one record with a number if no two records have the same. -/
theorem withId_of_mem {ctx : Context} {records : List Context}
    (distinct : (records.map (·.id)).Nodup) (mem : ctx ∈ records) :
    withId ctx.id records = [ctx] := by
  induction records with
  | nil => cases mem
  | cons other rest ih =>
    rw [List.map_cons, List.nodup_cons] at distinct
    rw [withId, List.filter_cons]
    rcases List.mem_cons.1 mem with rfl | later
    · rw [if_pos (beq_self_eq_true _), List.filter_eq_nil_iff.2]
      intro record mem' same
      exact distinct.1 (List.mem_map.2 ⟨record, mem', eq_of_beq same⟩)
    · rw [if_neg, ← withId, ih distinct.2 later]
      intro same
      exact distinct.1 (List.mem_map.2 ⟨ctx, later, (eq_of_beq same).symm⟩)

/-! ### Where records stand -/

namespace History.Kept

variable {history : History}

/-- A pending record is not active. -/
theorem inactive (kept : history.Kept) {id : Nat} (pending : id ∈ history.queue.pendingIds) :
    id ∉ history.queue.active := by
  have := List.count_pos_iff.2 pending
  have := kept.settled.place id
  have := kept.settled.once id
  rw [← List.count_eq_zero]
  omega

/-- A record whose task is under way is not pending. -/
theorem absent (kept : history.Kept) {id : Nat} (runs : id ∈ history.queue.running) :
    id ∉ history.queue.pendingIds :=
  List.count_eq_zero.1 (kept.settled.ended runs id).2.2.2.2

/-- The next number is no record's. -/
theorem unseen (kept : history.Kept) : history.queue.nextId ∉ history.queue.pendingIds := by
  have := kept.settled.fresh history.queue.nextId (Nat.le_refl _)
  have := kept.settled.place history.queue.nextId
  rw [← List.count_eq_zero]
  omega

/-- An active record has one task. -/
theorem count_taskIds (kept : history.Kept) {id : Nat} (active : id ∈ history.queue.active) :
    history.queue.taskIds.count id = 1 := by
  have := List.count_pos_iff.2 active
  have := kept.settled.tasked id
  have := kept.settled.lone id
  have := kept.settled.once id
  omega

end History.Kept

/-! ### Marks -/

/-- Marks are on records that will clear them, and pending records are in order. -/
structure Marked (queue : Queue) : Prop where
  /-- Who waits for input is pending. -/
  awaiting : ∀ id, queue.awaiting = some id → id ∈ queue.pendingIds
  /-- Who has priority is pending or active. -/
  priority : ∀ id, queue.priority = some id → id ∈ queue.pendingIds ∨ id ∈ queue.active
  /-- Numbers of pending records ascend. -/
  ascending : queue.pending.Pairwise fun a b => a.id < b.id

theorem unmark_eq_some_iff {id other : Nat} {mark : Option Nat} :
    unmark id mark = some other ↔ mark = some other ∧ other ≠ id := by
  rw [unmark]
  split
  · next same =>
    subst same
    simp only [reduceCtorEq, Option.some.injEq, false_iff, not_and, Decidable.not_not]
    exact Eq.symm
  · next apart =>
    refine ⟨fun marked => ⟨marked, ?_⟩, And.left⟩
    rintro rfl
    exact apart marked

namespace Marked

variable {queue : Queue}

theorem opened (workers retention : Nat) : Marked { workers, retention } :=
  ⟨fun _ h => (nomatch h), fun _ h => (nomatch h), .nil⟩

/-- No two pending records have the same number. -/
theorem nodup (marked : queue.Marked) : queue.pendingIds.Nodup :=
  (List.pairwise_map.2 marked.ascending).imp Nat.ne_of_lt

/-- The mark of priority is not taken away by processing: its record is still there. -/
theorem livePriority_eq (marked : queue.Marked) : queue.livePriority = queue.priority := by
  rw [livePriority]
  cases prior : queue.priority with
  | none => rfl
  | some id =>
    refine Option.filter_some_pos ?_
    rw [Bool.or_eq_true, isPending_iff, isActive_iff]
    exact marked.priority id prior

/-- A pending record with priority is due alone. -/
theorem due_of_pending (marked : queue.Marked) {ctx : Context} (pending : ctx ∈ queue.pending)
    (prior : queue.priority = some ctx.id) : queue.due = [ctx] := by
  rw [due, prior]
  exact (if_pos (isPending_iff.2 (List.mem_map_of_mem pending))).trans
    (withId_of_mem marked.nodup pending)

/-! ### Moves -/

theorem process (marked : queue.Marked) (now : Nat) : (queue.process now).2.Marked := by
  cases mark : queue.awaiting with
  | some id =>
    rw [(process_halted mark now).2]
    exact ⟨marked.awaiting, marked.priority, marked.ascending⟩
  | none =>
    obtain ⟨-, launches, noAwaiting, priority⟩ := process_open mark now
    refine ⟨fun id awaits => ?_, fun id prior => ?_, ?_⟩
    · rw [noAwaiting] at awaits
      cases awaits
    · rw [priority, marked.livePriority_eq] at prior
      exact launches.there (marked.priority id prior)
    · rw [launches.pending]
      exact marked.ascending.filter _

/-- The number that input arrives for has priority if it is pending. -/
theorem supplied_marked (marked : queue.Marked) (id : Nat) {update : Context → Context}
    (same : ∀ ctx, (update ctx).id = ctx.id) : (supplied queue id update).Marked := by
  have numbers := pendingIds_supplied queue id same
  refine ⟨fun _ awaits => (nomatch awaits), fun other prior => ?_, ?_⟩
  · rw [numbers]
    change (if queue.isPending id then some id else queue.priority) = some other at prior
    split at prior
    · next pending =>
      cases prior
      exact Or.inl (isPending_iff.1 pending)
    · exact marked.priority other prior
  · have ids : (supplied queue id update).pendingIds.Pairwise (· < ·) :=
      numbers ▸ List.pairwise_map.2 marked.ascending
    exact List.pairwise_map.1 ids

theorem resume (marked : queue.Marked) (id : Nat) {update : Context → Context}
    (same : ∀ ctx, (update ctx).id = ctx.id) (now : Nat) :
    (queue.resume id update now).2.Marked :=
  (marked.supplied_marked id same).process now

theorem submit (marked : queue.Marked) (unseen : queue.nextId ∉ queue.pendingIds)
    (request : Request) : (queue.submit request).2.Marked := by
  have keeps : ∀ id ∈ queue.pendingIds, id ∈ (queue.submit request).2.pendingIds := by
    intro id pending
    obtain ⟨ctx, mem, rfl⟩ := List.mem_map.1 pending
    exact List.mem_map.2 ⟨ctx, mem_insertPending.2 (Or.inr mem), rfl⟩
  exact ⟨fun id awaits => keeps id (marked.awaiting id awaits),
    fun id prior => (marked.priority id prior).imp_left (keeps id),
    pairwise_insertPending marked.ascending unseen⟩

theorem start (marked : queue.Marked) (id : Nat) : (queue.start id).2.Marked := by
  rcases queue.start_cases id with eq | ⟨ctx, -, -, ⟨-, eq⟩ | ⟨-, eq⟩⟩ <;> rw [eq]
  · exact marked
  · exact ⟨marked.awaiting, marked.priority, marked.ascending⟩
  · exact ⟨marked.awaiting, marked.priority, marked.ascending⟩

/-- A task that ends without a record takes no record with it. -/
theorem discard (marked : queue.Marked) {id : Nat} (inactive : id ∉ queue.active) :
    (queue.ended id).Marked := by
  refine ⟨marked.awaiting, fun other prior => ?_, marked.ascending⟩
  refine (marked.priority other prior).imp_right fun active => List.mem_filter.2 ⟨active, ?_⟩
  rw [bne_iff_ne]
  rintro rfl
  exact inactive active

/-- Whoever has priority and is not the record that ends stays where it is. -/
theorem there_of_ne (marked : queue.Marked) {id other : Nat} (prior : queue.priority = some other)
    (apart : other ≠ id) : other ∈ queue.pendingIds ∨ other ∈ (queue.ended id).active :=
  (marked.priority other prior).imp_right fun active =>
    List.mem_filter.2 ⟨active, bne_iff_ne.2 apart⟩

theorem park (marked : queue.Marked) {ctx : Context} (absent : ctx.id ∉ queue.pendingIds) :
    ((queue.ended ctx.id).park ctx).Marked := by
  have self : ctx.id ∈ ((queue.ended ctx.id).park ctx).pendingIds :=
    List.mem_map.2 ⟨ctx, mem_insertPending.2 (Or.inl rfl), rfl⟩
  have keeps : ∀ id ∈ queue.pendingIds, id ∈ ((queue.ended ctx.id).park ctx).pendingIds := by
    intro id pending
    obtain ⟨record, mem, rfl⟩ := List.mem_map.1 pending
    exact List.mem_map.2 ⟨record, mem_insertPending.2 (Or.inr mem), rfl⟩
  refine ⟨fun id awaits => ?_, fun id prior => ?_,
    pairwise_insertPending marked.ascending absent⟩
  · -- The first to be parked keeps the mark.
    cases mark : queue.awaiting with
    | none =>
      have : some ctx.id = some id := by simpa [Queue.park, ended, mark] using awaits
      cases this
      exact self
    | some first =>
      have : some first = some id := by simpa [Queue.park, ended, mark] using awaits
      exact keeps id (marked.awaiting id (mark.trans this))
  · obtain ⟨old, apart⟩ := unmark_eq_some_iff.1 prior
    exact (marked.there_of_ne old apart).imp_left (keeps id)

theorem resolve (marked : queue.Marked) (ctx : Context) (result : Except Error Response)
    (now : Nat) : ((queue.ended ctx.id).resolve ctx result now).Marked := by
  obtain ⟨pending, active, -, -, awaiting, priority⟩ := reported_eq queue ctx result now
  have numbers : (reported queue ctx result now).pendingIds = queue.pendingIds :=
    congrArg (List.map Context.id) pending
  have halted : ∀ id, (reported queue ctx result now).awaiting = some id →
      id ∈ (reported queue ctx result now).pendingIds := by
    rw [awaiting, numbers]
    exact marked.awaiting
  have ascending : (reported queue ctx result now).pending.Pairwise fun a b => a.id < b.id :=
    pending ▸ marked.ascending
  rw [resolve_eq]
  split
  · have clear : (freed (reported queue ctx result now)).Marked :=
      ⟨halted, fun _ prior => absurd prior.symm (Option.some_ne_none _), ascending⟩
    exact clear.process now
  · next apart =>
    refine ⟨halted, fun id prior => ?_, ascending⟩
    rw [priority] at prior
    rw [numbers, active]
    refine marked.there_of_ne prior ?_
    rintro rfl
    exact apart prior

theorem cancel (marked : queue.Marked) (id : Nat) : (queue.cancel id).2.Marked := by
  rcases queue.cancel_cases id with ⟨-, eq⟩ | ⟨-, -, eq⟩
  · have keeps : ∀ other ∈ queue.pendingIds, other ≠ id →
        other ∈ (queue.dropped id).pendingIds := by
      intro other pending apart
      obtain ⟨record, mem, rfl⟩ := List.mem_map.1 pending
      exact List.mem_map.2 ⟨record, List.mem_filter.2 ⟨mem, bne_iff_ne.2 apart⟩, rfl⟩
    rw [eq]
    refine ⟨fun other awaits => ?_, fun other prior => ?_, marked.ascending.filter _⟩
    · obtain ⟨old, apart⟩ := unmark_eq_some_iff.1 awaits
      exact keeps other (marked.awaiting other old) apart
    · obtain ⟨old, apart⟩ := unmark_eq_some_iff.1 prior
      refine (marked.priority other old).imp (keeps other · apart) fun active => ?_
      change other ∈ if queue.isPending id then queue.active else queue.active.filter (· != id)
      split
      · exact active
      · exact List.mem_filter.2 ⟨active, bne_iff_ne.2 apart⟩
  · rw [eq]
    exact marked

/-- **Every move** that is admitted keeps the marks. -/
theorem after {history : History} (marked : history.queue.Marked) (kept : history.Kept)
    (move : Move) (admitted : history.queue.Admits move) :
    (history.after move).queue.Marked := by
  cases move with
  | allocate => exact ⟨marked.awaiting, marked.priority, marked.ascending⟩
  | submit request => exact marked.submit kept.unseen request
  | process now => exact marked.process now
  | start id => exact marked.start id
  | finish ctx result now =>
    change (history.queue.finish ctx result now).Marked
    rcases history.queue.finish_cases ctx result now with
      ⟨inactive, eq⟩ | ⟨-, -, eq⟩ | ⟨-, -, eq⟩ <;> rw [eq]
    · exact marked.discard inactive
    · exact marked.park (kept.absent admitted)
    · exact marked.resolve ctx result now
  | cancel id => exact marked.cancel id
  | supplyOtp id channel otp now =>
    exact marked.resume id (fun _ => by cases channel <;> rfl) now
  | supplyNothing id now => exact marked.resume id (fun _ => rfl) now
  | take id => exact ⟨marked.awaiting, marked.priority, marked.ascending⟩
  | evict now => exact ⟨marked.awaiting, marked.priority, marked.ascending⟩

/-- **Every queue** that was opened empty has its marks where they will be cleared. -/
theorem leads {workers retention : Nat} {history : History}
    (reached : (History.opened workers retention).Leads history) :
    history.queue.Marked := by
  induction reached with
  | here => exact opened workers retention
  | move move reached admitted ih =>
    exact ih.after ((History.kept_opened workers retention).leads reached) move admitted

end Marked

/-! ### What callers rely on -/

namespace History

/-- What callers of a queue rely on. -/
structure NeverWedges (history : History) : Prop where
  /-- Who waits for input is pending. -/
  awaiting : ∀ id, history.queue.awaiting = some id → history.queue.isPending id = true
  /-- Who has priority is pending or active. -/
  priority : ∀ id, history.queue.priority = some id →
    history.queue.isPending id = true ∨ history.queue.isActive id = true
  /-- An active record has one task, which waits or is under way. -/
  tasked : ∀ id, history.queue.isActive id = true → history.queue.taskIds.count id = 1
  /-- Processing dispatches a pending record unless one waits for input or the one with priority
  is active: the one with priority if it is pending, and otherwise all of them in ascending
  order. -/
  progress : ∀ now, history.queue.pending ≠ [] → history.queue.awaiting = none →
    (∀ id, history.queue.priority = some id → history.queue.isActive id = false) →
    ∃ records, 0 < records.length ∧ (history.queue.process now).1 = records.length ∧
      history.queue.Launches records (history.queue.process now).2 ∧
      ((∃ ctx ∈ history.queue.pending, history.queue.priority = some ctx.id ∧ records = [ctx]) ∨
        (∀ ctx ∈ history.queue.pending, history.queue.priority ≠ some ctx.id) ∧
          records = history.queue.pending ∧ records.Pairwise fun a b => a.id < b.id)
  /-- Processing dispatches nothing while a record waits for input. -/
  halted : ∀ id now, history.queue.awaiting = some id →
    (history.queue.process now).1 = 0 ∧
      history.queue.Launches [] (history.queue.process now).2
  /-- When the record with priority is resolved, all pending ones are dispatched at once unless
  another one waits for input. -/
  followed : ∀ ctx result now, history.queue.isActive ctx.id = true → isParking result = false →
    history.queue.priority = some ctx.id →
    (∀ id, id ≠ ctx.id → history.queue.awaiting ≠ some id) →
    (history.queue.ended ctx.id).Launches history.queue.pending
      (history.queue.finish ctx result now)
  /-- When the record with priority is cancelled, all others that are pending are dispatched as
  soon as the queue is processed, unless another one waits for input. -/
  released : ∀ id now, history.queue.priority = some id →
    (∀ other, other ≠ id → history.queue.awaiting ≠ some other) →
    (history.queue.cancel id).2.isSignalled = true ∧
      (history.queue.cancel id).2.Launches (withoutId id history.queue.pending)
        ((history.queue.cancel id).2.process now).2

theorem progress_of_marked {queue : Queue} (marked : queue.Marked) (now : Nat)
    (nonempty : queue.pending ≠ []) (clear : queue.awaiting = none)
    (idle : ∀ id, queue.priority = some id → queue.isActive id = false) :
    ∃ records, 0 < records.length ∧ (queue.process now).1 = records.length ∧
      queue.Launches records (queue.process now).2 ∧
      ((∃ ctx ∈ queue.pending, queue.priority = some ctx.id ∧ records = [ctx]) ∨
        (∀ ctx ∈ queue.pending, queue.priority ≠ some ctx.id) ∧
          records = queue.pending ∧ records.Pairwise fun a b => a.id < b.id) := by
  obtain ⟨count, launches, -, -⟩ := process_open clear now
  cases prior : queue.priority with
  | none =>
    rw [due_of_none prior] at count launches
    exact ⟨queue.pending, List.length_pos_iff.2 nonempty, count, launches,
      Or.inr ⟨fun _ _ => (Option.some_ne_none _).symm, rfl, marked.ascending⟩⟩
  | some id =>
    -- The one with priority is not active, so it is pending.
    have pending : id ∈ queue.pendingIds :=
      (marked.priority id prior).resolve_right fun active =>
        Bool.false_ne_true ((idle id prior).symm.trans (isActive_iff.2 active))
    obtain ⟨ctx, mem, rfl⟩ := List.mem_map.1 pending
    rw [marked.due_of_pending mem prior] at count launches
    exact ⟨[ctx], Nat.one_pos, count, launches, Or.inl ⟨ctx, mem, rfl, rfl⟩⟩

/-- When the record with priority ends without parking, all pending records follow it. -/
theorem launches_finish {history : History} (marked : history.queue.Marked) (kept : history.Kept)
    {ctx : Context} {result : Except Error Response} (now : Nat)
    (active : ctx.id ∈ history.queue.active) (resolves : isParking result = false)
    (prior : history.queue.priority = some ctx.id)
    (others : ∀ id, id ≠ ctx.id → history.queue.awaiting ≠ some id) :
    (history.queue.ended ctx.id).Launches history.queue.pending
      (history.queue.finish ctx result now) := by
  -- The record that ends is active, so it is not the one that waits for input either.
  have clear : history.queue.awaiting = none := by
    cases mark : history.queue.awaiting with
    | none => rfl
    | some id =>
      refine absurd mark (others id ?_)
      rintro rfl
      exact kept.inactive (marked.awaiting _ mark) active
  obtain ⟨pending, actives, waiting, running, awaiting, -⟩ :=
    reported_eq history.queue ctx result now
  rcases history.queue.finish_cases ctx result now with
    ⟨inactive, -⟩ | ⟨-, parks, -⟩ | ⟨-, -, eq⟩
  · exact absurd active inactive
  · rw [resolves] at parks
    cases parks
  · rw [eq, resolve_eq, if_pos prior]
    have launches := launches_all (freed (reported history.queue ctx result now))
      (awaiting.trans clear) rfl now
    rw [show (freed (reported history.queue ctx result now)).pending =
      history.queue.pending from pending] at launches
    exact launches.congr pending actives waiting running

/-- When the record with priority is cancelled, the others follow with the next processing, for
which there is a signal. -/
theorem launches_cancel {queue : Queue} (marked : queue.Marked) {id : Nat} (now : Nat)
    (prior : queue.priority = some id)
    (others : ∀ other, other ≠ id → queue.awaiting ≠ some other) :
    (queue.cancel id).2.isSignalled = true ∧
      (queue.cancel id).2.Launches (withoutId id queue.pending)
        ((queue.cancel id).2.process now).2 := by
  rcases queue.cancel_cases id with ⟨-, eq⟩ | ⟨noPending, noActive, -⟩
  · have clear : (queue.dropped id).awaiting = none := by
      refine Option.eq_none_iff_forall_not_mem.2 fun other awaits => ?_
      obtain ⟨old, apart⟩ := unmark_eq_some_iff.1 awaits
      exact others other apart old
    rw [eq]
    exact ⟨rfl, launches_all ((queue.dropped id).deliver id (.error .cancelled)) clear
      (if_pos prior) now⟩
  · exact absurd (marked.priority id prior) (not_or.2 ⟨noPending, noActive⟩)

/-- **No queue ever halts for good**, after any moves since it was opened empty. -/
theorem neverWedges {workers retention : Nat} {history : History}
    (reached : (opened workers retention).Leads history) : history.NeverWedges := by
  have kept := (kept_opened workers retention).leads reached
  have marked := Marked.leads reached
  exact {
    awaiting := fun id awaits => isPending_iff.2 (marked.awaiting id awaits)
    priority := fun id prior => (marked.priority id prior).imp isPending_iff.2 isActive_iff.2
    tasked := fun id active => kept.count_taskIds (isActive_iff.1 active)
    progress := fun now => progress_of_marked marked now
    halted := fun id now awaits => launches_halted awaits now
    followed := fun ctx result now active =>
      launches_finish marked kept now (isActive_iff.1 active)
    released := fun id now => launches_cancel marked now }

/-- A request that waited for input which has arrived, with another one pending. -/
def resumed : History :=
  (((((((opened 1 60).after (.submit { method := .get, url := "" })).after (.process 0)).after
    (.start 1)).after (.submit { method := .get, url := "" })).after
    (.finish { id := 1, request := { method := .get, url := "" } }
      (.error (.awaitingInput .credentialsRequired)) 5)).after
    (.supplyNothing 1 9)).after (.start 1)

theorem neverWedges_resumed : (opened 1 60).Leads resumed ∧ resumed.NeverWedges :=
  have reached : (opened 1 60).Leads resumed :=
    .move _ (.move _ (.move _ (.move _ (.move _ (.move _ (.move _ .here trivial) trivial) trivial)
      trivial) (List.mem_singleton.2 rfl)) trivial) trivial
  ⟨reached, neverWedges reached⟩

end History

end Queue

end GatewaySession
