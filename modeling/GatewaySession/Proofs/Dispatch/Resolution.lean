import GatewaySession.Proofs.Dispatch.History
import Mathlib.Data.List.Nodup

/-!
# Every request is resolved once

A submitted request is pending, active or resolved, and nothing twice. Its outcome is delivered when
it is resolved and at no other time, and a successful outcome is the response that is kept. This
holds after every sequence of moves, although tasks outlive the cancellation of their records and a
task that parks its record makes it pending again.

Two invariants carry it. `Settled` is the bookkeeping of places: for each number it counts pending
records, active ones, tasks and outcomes, so that a move is checked by arithmetic on these counts.
`Recorded` ties the responses that were ever kept, and the cancellations, to the outcomes. Responses
are found where the queue has them, or among those that it handed out or dropped, so a move can only
carry them from one place to another, or keep one more.

## Main definitions

* `Queue.Settled` — where the numbers of requests stand
* `Queue.Recorded` — what is known of the responses that were kept and of cancellations
* `Queue.History.ResolvesOnce` — what callers of a queue rely on

## Main results

* `Queue.History.Kept.perm_kept` — no response is lost and none is made up
* `Queue.History.Kept.after` — every admitted move keeps the invariants
* `Queue.History.resolvesOnce` — the property after any moves of a queue that was opened empty
-/

namespace GatewaySession

namespace Queue

/-! ### Places -/

/-- Where the numbers of requests stand, given those that were submitted and those that were
resolved. -/
structure Settled (queue : Queue) (submitted resolved : List Nat) : Prop where
  /-- A submitted request is in one place, any other in none. -/
  place : ∀ id, queue.pendingIds.count id + queue.active.count id + resolved.count id =
    submitted.count id
  /-- No number is given out twice. -/
  once : ∀ id, submitted.count id ≤ 1
  /-- Numbers to come were not given out. -/
  fresh : ∀ id, queue.nextId ≤ id → submitted.count id = 0
  /-- Outcomes are delivered of resolved requests, one for each. -/
  outcome : ∀ id, queue.outcomeIds.count id = resolved.count id
  /-- An active record has a task. -/
  tasked : ∀ id, queue.active.count id ≤ queue.taskIds.count id
  /-- A pending record has no task, and no record has two. -/
  lone : ∀ id, queue.pendingIds.count id + queue.taskIds.count id ≤ submitted.count id

section Settled

variable {queue : Queue} {submitted resolved : List Nat}

theorem settled_opened (workers retention : Nat) :
    Settled { workers, retention } [] [] := by
  constructor <;> intro id <;> simp [pendingIds, outcomeIds, taskIds]

/-- A resolved request is neither pending nor active. -/
theorem Settled.of_resolved (h : queue.Settled submitted resolved) {id : Nat}
    (gone : id ∈ resolved ∨ id ∉ submitted) : id ∉ queue.pendingIds ∧ id ∉ queue.active := by
  have place := h.place id
  have once := h.once id
  have : 0 < resolved.count id ∨ submitted.count id = 0 :=
    gone.imp List.count_pos_iff.2 List.count_eq_zero.2
  rw [← List.count_eq_zero, ← List.count_eq_zero]
  omega

theorem Settled.dispatched (h : queue.Settled submitted resolved) {next : Queue}
    (moved : queue.Dispatched next) : next.Settled submitted resolved where
  place id := by
    have := h.place id
    rcases moved.moved id with ⟨hp, ha, ht⟩ | ⟨hp, ha, ht⟩ <;> omega
  once := h.once
  fresh id := by
    rw [moved.nextId]
    exact h.fresh id
  outcome id := by
    rw [outcomeIds, moved.delivered]
    exact h.outcome id
  tasked id := by
    have := h.tasked id
    rcases moved.moved id with ⟨hp, ha, ht⟩ | ⟨hp, ha, ht⟩ <;> omega
  lone id := by
    have := h.lone id
    rcases moved.moved id with ⟨hp, ha, ht⟩ | ⟨hp, ha, ht⟩ <;> omega

/-- A change of the queue is told by what it does to the counts; the arithmetic is the same for
all. -/
theorem Settled.of_counts {next : Queue} {submitted' resolved' : List Nat}
    (h : queue.Settled submitted resolved)
    (numbers : queue.nextId ≤ next.nextId)
    (counts : ∀ id,
      submitted'.count id = submitted.count id ∨
        submitted.count id = 0 ∧ submitted'.count id = 1 ∧ id < next.nextId)
    (places : ∀ id, next.pendingIds.count id + next.active.count id + resolved'.count id +
        submitted.count id =
      queue.pendingIds.count id + queue.active.count id + resolved.count id + submitted'.count id)
    (outcomes : ∀ id, next.outcomeIds.count id + resolved.count id =
      queue.outcomeIds.count id + resolved'.count id)
    (tasks : ∀ id, next.active.count id ≤ next.taskIds.count id ∧
      next.pendingIds.count id + next.taskIds.count id ≤ submitted'.count id) :
    next.Settled submitted' resolved' where
  place id := by
    have := h.place id
    have := places id
    omega
  once id := by
    have := h.once id
    have := counts id
    omega
  fresh id later := by
    have := h.fresh id (Nat.le_trans numbers later)
    have := counts id
    omega
  outcome id := by
    have := h.outcome id
    have := outcomes id
    omega
  tasked id := (tasks id).1
  lone id := (tasks id).2

theorem Settled.allocate (h : queue.Settled submitted resolved) :
    queue.allocate.2.Settled submitted resolved :=
  h.of_counts (Nat.le_succ _) (fun _ => Or.inl rfl) (fun _ => rfl) (fun _ => rfl)
    fun id => ⟨h.tasked id, h.lone id⟩

theorem Settled.submit (h : queue.Settled submitted resolved) (request : Request) :
    (queue.submit request).2.Settled (submitted ++ [queue.nextId]) resolved := by
  have pending : ∀ id, (queue.submit request).2.pendingIds.count id =
      queue.pendingIds.count id + [queue.nextId].count id := fun id => count_insertPending _ id _
  have unseen := h.fresh queue.nextId (Nat.le_refl _)
  refine h.of_counts (Nat.le_succ _) (fun id => ?_) (fun id => ?_) (fun _ => rfl) (fun id => ?_)
  · rw [List.count_append, count_singleton]
    split
    · next same => exact Or.inr ⟨same ▸ unseen, by rw [same, unseen], same ▸ Nat.lt_succ_self _⟩
    · exact Or.inl rfl
  · rw [pending, List.count_append]
    change _ + queue.active.count id + _ + _ = _
    omega
  · rw [pending, List.count_append]
    have := h.lone id
    refine ⟨h.tasked id, ?_⟩
    change _ + queue.taskIds.count id ≤ _
    omega

theorem Settled.start (h : queue.Settled submitted resolved) (id : Nat) :
    (queue.start id).2.Settled submitted resolved := by
  rcases queue.start_cases id with same | ⟨ctx, waits, rfl, ⟨active, eq⟩ | ⟨inactive, eq⟩⟩
  · rw [same]
    exact h
  · have there := count_id_pos waits
    rw [eq]
    refine h.of_counts (Nat.le_refl _) (fun _ => Or.inl rfl) (fun _ => rfl) (fun _ => rfl)
      fun id => ?_
    change queue.active.count id ≤ _ ∧ queue.pendingIds.count id + _ ≤ _
    have tasked := h.tasked id
    have lone := h.lone id
    have once := h.once id
    rw [count_taskIds_launched]
    rw [count_taskIds] at *
    split
    · next same => subst same; omega
    · omega
  · rw [eq]
    refine h.of_counts (Nat.le_refl _) (fun _ => Or.inl rfl) (fun _ => rfl) (fun _ => rfl)
      fun id => ?_
    change queue.active.count id ≤ _ ∧ queue.pendingIds.count id + _ ≤ _
    have tasked := h.tasked id
    have lone := h.lone id
    have absent := List.count_eq_zero.2 inactive
    rw [count_taskIds_withoutTask]
    rw [count_taskIds] at *
    split
    · next same => subst same; omega
    · omega

/-- Once a task has ended nothing of it is left, whether its record is parked or resolved. -/
theorem Settled.ended (h : queue.Settled submitted resolved) {id : Nat}
    (runs : id ∈ queue.running) (other : Nat) :
    (queue.ended id).active.count other ≤ (queue.ended id).taskIds.count other ∧
      (other ≠ id → (queue.ended id).active.count other = queue.active.count other ∧
        (queue.ended id).taskIds.count other = queue.taskIds.count other) ∧
      (queue.ended id).active.count id = 0 ∧ (queue.ended id).taskIds.count id = 0 ∧
      queue.pendingIds.count id = 0 := by
  have running : 0 < queue.running.count id := List.count_pos_iff.2 runs
  have lone := h.lone id
  have once := h.once id
  have tasked := h.tasked other
  rw [count_taskIds] at lone
  simp only [count_active_ended, count_taskIds_ended, if_true]
  refine ⟨?_, fun different => by simp [different], trivial, by omega, by omega⟩
  split
  · exact Nat.zero_le _
  · exact tasked

/-- A record that is parked is pending again. -/
theorem Settled.park (h : queue.Settled submitted resolved) {ctx : Context}
    (active : ctx.id ∈ queue.active) (runs : ctx.id ∈ queue.running) :
    ((queue.ended ctx.id).park ctx).Settled submitted resolved := by
  have pending : ∀ id, ((queue.ended ctx.id).park ctx).pendingIds.count id =
      queue.pendingIds.count id + [ctx.id].count id := fun id => count_insertPending _ id _
  have there : 0 < queue.active.count ctx.id := List.count_pos_iff.2 active
  have place := h.place ctx.id
  have once := h.once ctx.id
  refine h.of_counts (Nat.le_refl _) (fun _ => Or.inl rfl) (fun id => ?_) (fun _ => rfl)
    fun id => ?_
  · obtain ⟨-, apart, noActive, -⟩ := h.ended runs id
    rw [pending, count_singleton]
    change _ + (queue.ended ctx.id).active.count id + _ + _ = _
    by_cases same : id = ctx.id
    · subst same
      rw [if_pos rfl]
      omega
    · rw [if_neg same, (apart same).1]
      omega
  · obtain ⟨tasked, apart, -, noTask, noPending⟩ := h.ended runs id
    have lone := h.lone id
    rw [pending, count_singleton]
    refine ⟨tasked, ?_⟩
    change _ + (queue.ended ctx.id).taskIds.count id ≤ _
    by_cases same : id = ctx.id
    · subst same
      rw [if_pos rfl]
      omega
    · rw [if_neg same, (apart same).2]
      omega

/-- A record that is resolved by its task is gone, and its outcome is delivered. -/
theorem Settled.resolve (h : queue.Settled submitted resolved) {ctx : Context}
    (active : ctx.id ∈ queue.active) (runs : ctx.id ∈ queue.running)
    (result : Except Error Response) (now : Nat) :
    ((queue.ended ctx.id).resolve ctx result now).Settled submitted (resolved ++ [ctx.id]) := by
  have there : 0 < queue.active.count ctx.id := List.count_pos_iff.2 active
  have place := h.place ctx.id
  have once := h.once ctx.id
  refine Settled.dispatched ?_ (Dispatched.resolve queue ctx result now)
  obtain ⟨pending, active', waiting, running, -⟩ := reported_eq queue ctx result now
  have delivered : (reported queue ctx result now).outcomeIds = queue.outcomeIds ++ [ctx.id] := by
    rw [outcomeIds, delivered_reported]
    exact List.map_append
  have rest : ∀ id,
      (reported queue ctx result now).pendingIds.count id = queue.pendingIds.count id ∧
        (reported queue ctx result now).active.count id = (queue.ended ctx.id).active.count id ∧
        (reported queue ctx result now).taskIds.count id =
          (queue.ended ctx.id).taskIds.count id := by
    intro id
    rw [pendingIds, taskIds, pending, active', waiting, running]
    exact ⟨rfl, rfl, rfl⟩
  refine h.of_counts (Nat.le_of_eq (nextId_reported queue ctx result now).symm)
    (fun _ => Or.inl rfl) (fun id => ?_) (fun id => ?_) fun id => ?_
  · obtain ⟨-, apart, noActive, -⟩ := h.ended runs id
    rw [(rest id).1, (rest id).2.1, List.count_append, count_singleton]
    by_cases same : id = ctx.id
    · subst same
      rw [if_pos rfl]
      omega
    · rw [if_neg same, (apart same).1, Nat.add_zero]
  · rw [delivered, List.count_append, List.count_append]
    omega
  · obtain ⟨tasked, apart, -, noTask, noPending⟩ := h.ended runs id
    have lone := h.lone id
    rw [(rest id).1, (rest id).2.1, (rest id).2.2]
    refine ⟨tasked, ?_⟩
    by_cases same : id = ctx.id
    · subst same
      omega
    · rw [(apart same).2]
      omega

/-- The end of a task whose record was cancelled changes no place. -/
theorem Settled.discard (h : queue.Settled submitted resolved) {id : Nat}
    (inactive : id ∉ queue.active) (runs : id ∈ queue.running) :
    (queue.ended id).Settled submitted resolved := by
  have absent := List.count_eq_zero.2 inactive
  refine h.of_counts (Nat.le_refl _) (fun _ => Or.inl rfl) (fun other => ?_) (fun _ => rfl)
    fun other => ?_
  · obtain ⟨-, apart, noActive, -⟩ := h.ended runs other
    change queue.pendingIds.count other + (queue.ended id).active.count other + _ + _ = _
    by_cases same : other = id
    · subst same
      omega
    · rw [(apart same).1]
  · obtain ⟨tasked, apart, -, noTask, noPending⟩ := h.ended runs other
    have lone := h.lone other
    refine ⟨tasked, ?_⟩
    change queue.pendingIds.count other + (queue.ended id).taskIds.count other ≤ _
    by_cases same : other = id
    · subst same
      omega
    · rw [(apart same).2]
      omega

/-- A cancelled record is gone from wherever it stood; a task it may have stays behind. -/
theorem Settled.cancel (h : queue.Settled submitted resolved) {id : Nat}
    (there : id ∈ queue.pendingIds ∨ id ∈ queue.active) :
    ((queue.dropped id).deliver id (.error .cancelled)).Settled submitted (resolved ++ [id]) := by
  have present : 0 < queue.pendingIds.count id ∨ 0 < queue.active.count id :=
    there.imp List.count_pos_iff.2 List.count_pos_iff.2
  have place := h.place id
  have once := h.once id
  have alone : id ∈ queue.pendingIds → queue.active.count id = 0 := fun pending => by
    have := List.count_pos_iff.2 pending
    omega
  refine h.of_counts (Nat.le_refl _) (fun _ => Or.inl rfl) (fun other => ?_) (fun other => ?_)
    fun other => ?_
  · change (queue.dropped id).pendingIds.count other + (queue.dropped id).active.count other +
      _ + _ = _
    rw [count_pendingIds_dropped, count_active_dropped, List.count_append, count_singleton]
    by_cases same : other = id
    · subst same
      by_cases pending : other ∈ queue.pendingIds
      · have := alone pending
        simp only [pending, not_true_eq_false, and_false, if_true, if_false]
        omega
      · have := List.count_eq_zero.2 pending
        simp only [pending, not_false_eq_true, and_true, if_true]
        omega
    · simp only [same, false_and, if_false]
      omega
  · have : ((queue.dropped id).deliver id (.error .cancelled)).outcomeIds =
        queue.outcomeIds ++ [id] := List.map_append
    rw [this, List.count_append, List.count_append]
    omega
  · have tasked := h.tasked other
    have lone := h.lone other
    change (queue.dropped id).active.count other ≤ queue.taskIds.count other ∧
      (queue.dropped id).pendingIds.count other + queue.taskIds.count other ≤ _
    rw [count_pendingIds_dropped, count_active_dropped]
    constructor <;> split <;> omega

end Settled

/-! ### Responses and cancellations -/

/-- What is known of the responses that were ever kept, and of cancellations. -/
structure Recorded (queue : Queue) (cancelled : List Nat) (kept : List Completed) : Prop where
  /-- The successful outcomes are the responses that were kept. -/
  success : ∀ id response, (id, .ok response) ∈ queue.delivered ↔
    ∃ entry ∈ kept, entry.id = id ∧ entry.response = response
  /-- No request had two responses. -/
  once : (kept.map (·.id)).Nodup
  /-- The outcome of a cancelled request is its cancellation. -/
  refused : ∀ id ∈ cancelled, (id, .error .cancelled) ∈ queue.delivered

section Recorded

variable {queue : Queue} {cancelled : List Nat} {kept : List Completed}

theorem recorded_opened (workers retention : Nat) : Recorded { workers, retention } [] [] := by
  constructor <;> simp

/-- Responses may go from one place to another while nothing is delivered. -/
theorem Recorded.of_perm (h : queue.Recorded cancelled kept) {next : Queue}
    (delivered : next.delivered = queue.delivered) {kept' : List Completed}
    (moved : kept'.Perm kept) : next.Recorded cancelled kept' where
  success id response := by
    rw [delivered, h.success id response]
    exact exists_congr fun entry => and_congr_left fun _ => moved.mem_iff.symm
  once := (moved.map _).nodup_iff.2 h.once
  refused id mem := delivered ▸ h.refused id mem

/-- Nothing was kept for a request without an outcome. -/
theorem Recorded.id_ne (h : queue.Recorded cancelled kept) {id : Nat}
    (unresolved : id ∉ queue.outcomeIds) {entry : Completed} (mem : entry ∈ kept) :
    entry.id ≠ id := by
  rintro rfl
  have there := (h.success entry.id entry.response).2 ⟨entry, mem, rfl, rfl⟩
  exact unresolved (List.mem_map.2 ⟨_, there, rfl⟩)

/-- Keeping the response and delivering the outcome go together. -/
theorem Recorded.report (h : queue.Recorded cancelled kept) (ctx : Context)
    (unresolved : ctx.id ∉ queue.outcomeIds) (result : Except Error Response) (now : Nat) :
    (reported queue ctx result now).Recorded cancelled
      ((completion? ctx now result).toList ++ kept) := by
  have delivered := delivered_reported queue ctx result now
  refine ⟨fun id response => ?_, ?_, fun id mem => ?_⟩
  · rw [delivered, List.mem_append, h.success id response]
    cases result with
    | error error => simp [completion?]
    | ok response' =>
      simp only [completion?, Option.toList_some, List.mem_append, List.mem_singleton,
        Prod.mk.injEq, Except.ok.injEq, or_and_right, exists_or, exists_eq_left]
      rw [or_comm, eq_comm, eq_comm (a := response)]
  · cases result with
    | error error => exact h.once
    | ok response =>
      refine List.nodup_cons.2 ⟨fun mem => ?_, h.once⟩
      obtain ⟨entry, mem, same⟩ := List.mem_map.1 mem
      exact h.id_ne unresolved mem same
  · rw [delivered]
    exact List.mem_append_left _ (h.refused id mem)

theorem Recorded.cancel (h : queue.Recorded cancelled kept) (id : Nat) :
    ((queue.dropped id).deliver id (.error .cancelled)).Recorded (cancelled ++ [id]) kept where
  success other response := by
    rw [← h.success other response]
    simp [deliver, dropped]
  once := h.once
  refused other mem := by
    rcases List.mem_append.1 mem with old | new
    · exact List.mem_append_left _ (h.refused other old)
    · rw [List.mem_singleton.1 new]
      exact List.mem_append_right _ List.mem_cons_self

end Recorded

/-! ### Moves -/

namespace History

/-- The two invariants together. -/
structure Kept (history : History) : Prop where
  settled : history.queue.Settled history.submitted history.resolved
  recorded : history.queue.Recorded history.cancelled history.kept

theorem kept_opened (workers retention : Nat) : (opened workers retention).Kept :=
  ⟨settled_opened workers retention, recorded_opened workers retention⟩

/-- A request whose record is active has no outcome yet. -/
theorem Kept.unresolved {history : History} (h : history.Kept) {id : Nat}
    (active : id ∈ history.queue.active) : id ∉ history.queue.outcomeIds := by
  have := List.count_pos_iff.2 active
  have := h.settled.place id
  have := h.settled.once id
  have := h.settled.outcome id
  rw [← List.count_eq_zero]
  omega

/-- Nothing was kept yet for a record that is active. -/
theorem Kept.first {history : History} (h : history.Kept) {id : Nat}
    (active : id ∈ history.queue.active) {entry : Completed}
    (mem : entry ∈ history.queue.completed) : entry.id ≠ id :=
  h.recorded.id_ne (h.unresolved active) (List.mem_append_left _ mem)

theorem Kept.nodup_completed {history : History} (h : history.Kept) :
    (history.queue.completed.map (·.id)).Nodup :=
  h.recorded.once.sublist ((List.sublist_append_left _ _).map _)

/-- Responses that go from those that are there to those that are gone are still the same. -/
theorem perm_gone {left gone all : List Completed} (h : (left ++ gone).Perm all)
    (first second : List Completed) :
    (left ++ (first ++ (second ++ gone))).Perm (all ++ (first ++ second)) :=
  calc (left ++ (first ++ (second ++ gone))).Perm (left ++ (gone ++ (first ++ second))) := by
        rw [← List.append_assoc first]
        exact List.perm_append_comm.append_left left
    List.Perm _ (all ++ (first ++ second)) := by
        rw [← List.append_assoc]
        exact h.append_right _

/-- What is stale goes from the responses that are there to those that were dropped. -/
theorem perm_kept_evict (history : History) {next : Queue} {now : Nat}
    (completed : next.completed = (history.queue.evict now).2.completed) :
    (next.completed ++ (history.taken ++ (history.dropped ++ history.queue.stale now))).Perm
      history.kept :=
  completed ▸ perm_gone (perm_evict _ _) _ _

/-- The end of a task adds the response with which it resolves a record that is active. -/
theorem Kept.perm_kept_finish {history : History} (h : history.Kept) (ctx : Context)
    (result : Except Error Response) (now : Nat) :
    (history.after (.finish ctx result now)).kept.Perm
      (history.queue.keeps (.finish ctx result now) ++ history.kept) := by
  rcases history.queue.finish_cases ctx result now with
    ⟨inactive, eq⟩ | ⟨active, parks, eq⟩ | ⟨active, resolves, eq⟩
  · have inactive' := mt isActive_iff.1 inactive
    simp only [History.kept, History.after, drops, keeps, eq, inactive', Bool.false_and,
      Bool.false_eq_true, if_false, List.append_nil, List.nil_append]
    exact .refl _
  · simp only [History.kept, History.after, drops, keeps, eq, isActive_iff.2 active, parks,
      Bool.not_true, Bool.and_false, Bool.false_and, Bool.false_eq_true, if_false,
      List.append_nil, if_true]
    cases result with
    | ok response => cases parks
    | error error => exact .refl _
  · have reported := completed_reported result now fun entry => h.first active
    have moved := perm_gone (perm_resolve active resolves now) history.taken history.dropped
    rw [reported] at moved
    simp only [History.kept, History.after, keeps, eq, isActive_iff.2 active, if_true]
    refine moved.trans ?_
    rw [List.append_assoc]
    exact List.perm_append_comm_assoc _ _ _

/-- **No response is lost** and none is made up: what a move adds to the responses that were ever
kept is the one with which it resolves a record. -/
theorem Kept.perm_kept {history : History} (h : history.Kept) (move : Move) :
    (history.after move).kept.Perm (history.queue.keeps move ++ history.kept) := by
  cases move with
  | allocate => exact .refl _
  | submit request => exact .refl _
  | process now => exact perm_kept_evict history (completed_process _ now)
  | start id =>
    have same : (history.queue.start id).2.completed = history.queue.completed := by
      rcases history.queue.start_cases id with eq | ⟨_, _, _, ⟨_, eq⟩ | ⟨_, eq⟩⟩ <;> rw [eq] <;> rfl
    exact .of_eq (congrArg (· ++ _) same)
  | finish ctx result now => exact h.perm_kept_finish ctx result now
  | cancel id =>
    rcases history.queue.cancel_cases id with ⟨_, eq⟩ | ⟨_, _, eq⟩
    · simp only [History.kept, History.after, eq]
      exact .refl _
    · simp only [History.kept, History.after, eq]
      exact .refl _
  | supplyOtp id channel otp now => exact perm_kept_evict history (completed_resume _ id _ now)
  | supplyNothing id now => exact perm_kept_evict history (completed_resume _ id _ now)
  | take id =>
    have moved := perm_gone (perm_take h.nodup_completed id) history.dropped history.taken
    exact (List.perm_append_comm.append_left _).trans
      (moved.trans (List.perm_append_comm.append_left _))
  | evict now => exact perm_kept_evict history rfl

/-- A move that keeps and delivers nothing. -/
theorem Kept.silent {history next : History} (h : history.Kept)
    (settled : next.queue.Settled next.submitted next.resolved)
    (delivered : next.queue.delivered = history.queue.delivered)
    (cancelled : next.cancelled = history.cancelled) (moved : next.kept.Perm history.kept) :
    next.Kept :=
  ⟨settled, cancelled ▸ h.recorded.of_perm delivered moved⟩

theorem Kept.finish {history : History} (h : history.Kept) {ctx : Context}
    (runs : ctx.id ∈ history.queue.running) (result : Except Error Response) (now : Nat) :
    (history.after (.finish ctx result now)).Kept := by
  have moved := h.perm_kept (.finish ctx result now)
  rcases history.queue.finish_cases ctx result now with
    ⟨inactive, eq⟩ | ⟨active, parks, eq⟩ | ⟨active, resolves, eq⟩
  · have inactive' := mt isActive_iff.1 inactive
    simp only [keeps, inactive', Bool.false_eq_true, if_false, List.nil_append] at moved
    have delivered : (history.queue.finish ctx result now).delivered = history.queue.delivered := by
      rw [eq]
      rfl
    refine h.silent ?_ delivered rfl moved
    simp only [History.after, eq, inactive', Bool.false_and, Bool.false_eq_true, if_false,
      List.append_nil]
    exact h.settled.discard inactive runs
  · have nothing : completion? ctx now result = none := by
      cases result with
      | ok => cases parks
      | error => rfl
    simp only [keeps, nothing, Option.toList_none, ite_self, List.nil_append] at moved
    have delivered : (history.queue.finish ctx result now).delivered = history.queue.delivered := by
      rw [eq]
      rfl
    refine h.silent ?_ delivered rfl moved
    simp only [History.after, eq, isActive_iff.2 active, parks, Bool.not_true, Bool.and_false,
      Bool.false_eq_true, if_false, List.append_nil]
    exact h.settled.park active runs
  · have delivered := (Dispatched.resolve history.queue ctx result now).delivered
    have reported := h.recorded.report ctx (h.unresolved active) result now
    simp only [keeps, isActive_iff.2 active, if_true] at moved
    refine ⟨?_, reported.of_perm ((congrArg Queue.delivered eq).trans delivered) moved⟩
    simp only [History.after, eq, isActive_iff.2 active, resolves, Bool.not_false, Bool.and_true,
      if_true]
    exact h.settled.resolve active runs result now

theorem Kept.after {history : History} (h : history.Kept) (move : Move)
    (admitted : history.queue.Admits move) : (history.after move).Kept := by
  have moved := h.perm_kept move
  cases move with
  | allocate => exact h.silent h.settled.allocate rfl rfl moved
  | submit request => exact h.silent (h.settled.submit request) rfl rfl moved
  | process now =>
    have dispatched := Dispatched.process history.queue now
    exact h.silent (h.settled.dispatched dispatched) dispatched.delivered rfl moved
  | start id =>
    have delivered : (history.queue.start id).2.delivered = history.queue.delivered := by
      rcases history.queue.start_cases id with eq | ⟨_, _, _, ⟨_, eq⟩ | ⟨_, eq⟩⟩ <;> rw [eq] <;> rfl
    exact h.silent (h.settled.start id) delivered rfl moved
  | finish ctx result now => exact h.finish admitted result now
  | cancel id =>
    rcases history.queue.cancel_cases id with ⟨there, eq⟩ | ⟨-, -, eq⟩
    · simp only [History.after, eq, if_true]
      exact ⟨h.settled.cancel there, h.recorded.cancel id⟩
    · simp only [History.after, eq, Bool.false_eq_true, if_false, List.append_nil]
      exact h
  | supplyOtp id channel otp now =>
    have dispatched := Dispatched.supplyOtp history.queue id channel otp now
    exact h.silent (h.settled.dispatched dispatched) dispatched.delivered rfl moved
  | supplyNothing id now =>
    have dispatched := Dispatched.supplyNothing history.queue id now
    exact h.silent (h.settled.dispatched dispatched) dispatched.delivered rfl moved
  | take id =>
    have settled : (history.queue.take id).2.Settled history.submitted history.resolved :=
      h.settled.of_counts (Nat.le_refl _) (fun _ => Or.inl rfl) (fun _ => rfl) (fun _ => rfl)
        fun id => ⟨h.settled.tasked id, h.settled.lone id⟩
    exact h.silent settled rfl rfl moved
  | evict now =>
    exact h.silent (h.settled.dispatched (dispatched_evict history.queue now)) rfl rfl moved

theorem Kept.leads {start history : History} (h : start.Kept) (reached : start.Leads history) :
    history.Kept := by
  induction reached with
  | here => exact h
  | move move _ admitted ih => exact ih.after move admitted

/-- What is resolved stays so. -/
theorem Leads.resolved {start history : History} (reached : start.Leads history) {id : Nat}
    (resolved : id ∈ start.resolved) : id ∈ history.resolved := by
  induction reached with
  | here => exact resolved
  | move move _ _ ih =>
    cases move <;> first | exact ih | exact List.mem_append_left _ ih

/-- A move takes up no task of a record that is not active. -/
theorem started_after {history : History} {id : Nat} (inactive : id ∉ history.queue.active)
    (move : Move) : (history.after move).started.count id = history.started.count id := by
  cases move with
  | start other =>
    change (history.started ++ _).count id = _
    rw [List.count_append, Nat.add_eq_left, List.count_eq_zero]
    rcases history.queue.start_cases other with eq | ⟨_, _, rfl, ⟨active, eq⟩ | ⟨_, eq⟩⟩ <;> rw [eq]
    · exact List.not_mem_nil
    · intro mem
      cases List.mem_singleton.1 mem
      exact inactive active
    · exact List.not_mem_nil
  | _ => rfl

/-- No task of a resolved request is taken up in order to execute it. -/
theorem Kept.started {start history : History} (h : start.Kept) (reached : start.Leads history)
    {id : Nat} (resolved : id ∈ start.resolved) :
    history.started.count id = start.started.count id := by
  induction reached with
  | here => rfl
  | @move history move reached admitted ih =>
    have inactive := ((h.leads reached).settled.of_resolved (Or.inl (reached.resolved resolved))).2
    rw [started_after inactive, ih]

/-! ### What callers rely on -/

/-- What callers of a queue rely on. -/
structure ResolvesOnce (history : History) : Prop where
  /-- A submitted request is in exactly one of three places. -/
  place : ∀ id ∈ history.submitted,
    history.queue.isPending id = true ∧ history.queue.isActive id = false ∧
        id ∉ history.resolved ∨
      history.queue.isPending id = false ∧ history.queue.isActive id = true ∧
        id ∉ history.resolved ∨
      history.queue.isPending id = false ∧ history.queue.isActive id = false ∧
        id ∈ history.resolved
  /-- One outcome of a resolved request is delivered, and none of any other. -/
  outcome : ∀ id, history.queue.outcomeIds.count id = if id ∈ history.resolved then 1 else 0
  /-- No record has two tasks. -/
  lone : history.queue.taskIds.Nodup
  /-- No task of a request is executed once the request has been cancelled, whatever comes. -/
  unexecuted : ∀ id, (history.queue.cancel id).1 = true →
    ∀ later, (history.after (.cancel id)).Leads later →
      later.started.count id = history.started.count id
  /-- An outcome is successful with a response exactly if that response was kept: it is there, was
  taken, or was dropped when it was stale. -/
  success : ∀ id response, (id, .ok response) ∈ history.queue.delivered ↔
    ∃ entry ∈ history.kept, entry.id = id ∧ entry.response = response
  /-- When a task ends with a response and its record is active, the response is delivered, and it
  is there to be taken, unless it is stale at once and others are dispatched. -/
  inserted : ∀ ctx response now, history.queue.isActive ctx.id = true →
    let next := history.after (.finish ctx (.ok response) now)
    let entry : Completed := ⟨ctx.id, response, ctx.attempts, now⟩
    (ctx.id, .ok response) ∈ next.queue.delivered ∧
      (entry ∈ next.queue.completed ∨
        history.queue.retention = 0 ∧ history.queue.priority = some ctx.id ∧
          entry ∈ next.dropped)
  /-- A response that is there is the one that is taken under its number. -/
  handed : ∀ entry ∈ history.queue.completed, (history.queue.take entry.id).1 = some entry
  /-- Nothing is kept for a cancelled request. -/
  refused : ∀ id ∈ history.cancelled, ∀ entry ∈ history.kept, entry.id ≠ id
  /-- A request has one response at most, and it is in one place: there, taken or dropped. -/
  once : (history.kept.map (·.id)).Nodup
  /-- No response is taken twice. -/
  takenOnce : (history.taken.map (·.id)).Nodup
  /-- Cancelling a resolved request, or one that there never was, does nothing. -/
  idle : ∀ id, id ∈ history.resolved ∨ id ∉ history.submitted →
    history.queue.cancel id = (false, history.queue)

/-- Cancelling resolves. -/
theorem resolved_cancel {history : History} {id : Nat}
    (found : (history.queue.cancel id).1 = true) :
    id ∈ (history.after (.cancel id)).resolved := by
  simp only [History.after, found, if_true]
  exact List.mem_append_right _ List.mem_cons_self

theorem Kept.nodup_outcomeIds {history : History} (h : history.Kept) :
    history.queue.outcomeIds.Nodup := by
  refine List.nodup_iff_count.2 fun id => ?_
  have := h.settled.outcome id
  have := h.settled.place id
  have := h.settled.once id
  omega

/-- The outcome of a cancelled request is not a response, since it has only one outcome. -/
theorem Kept.refused {history : History} (h : history.Kept) {id : Nat}
    (cancelled : id ∈ history.cancelled) {entry : Completed} (mem : entry ∈ history.kept) :
    entry.id ≠ id := by
  rintro rfl
  have refusal := h.recorded.refused entry.id cancelled
  have success := (h.recorded.success entry.id entry.response).2 ⟨entry, mem, rfl, rfl⟩
  have same := List.inj_on_of_nodup_map h.nodup_outcomeIds refusal success rfl
  cases same

/-- When a task ends with a response, that is delivered and kept if the record is active. -/
theorem inserted_finish {history : History} {ctx : Context}
    (active : ctx.id ∈ history.queue.active) (response : Response) (now : Nat) :
    let next := history.after (.finish ctx (.ok response) now)
    let entry : Completed := ⟨ctx.id, response, ctx.attempts, now⟩
    (ctx.id, .ok response) ∈ next.queue.delivered ∧
      (entry ∈ next.queue.completed ∨
        history.queue.retention = 0 ∧ history.queue.priority = some ctx.id ∧
          entry ∈ next.dropped) := by
  intro next entry
  have resolves : next.queue = (history.queue.ended ctx.id).resolve ctx (.ok response) now :=
    if_pos (isActive_iff.2 active)
  refine ⟨?_, ?_⟩
  · rw [resolves, (Dispatched.resolve history.queue ctx (.ok response) now).delivered,
      delivered_reported]
    exact List.mem_append_right _ List.mem_cons_self
  · by_cases lasting : 0 < history.queue.retention ∨ history.queue.priority ≠ some ctx.id
    · exact .inl (resolves ▸ mem_completed_resolve history.queue ctx response now lasting)
    · obtain ⟨nothing, prior⟩ := not_or.1 lasting
      have none : history.queue.retention = 0 := Nat.eq_zero_of_not_pos nothing
      have prior := not_not.1 prior
      refine .inr ⟨none, prior, List.mem_append_right _ ?_⟩
      have there : entry ∈ (history.queue.reported ctx (.ok response) now).completed :=
        List.mem_append_right _ List.mem_cons_self
      have stale : entry ∈ (history.queue.reported ctx (.ok response) now).stale now :=
        List.mem_filter.2 ⟨there, by simp [reported, keep, deliver, ended, none]⟩
      simpa [drops, isActive_iff.2 active, isParking, prior] using stale

theorem Kept.handed {history : History} (h : history.Kept) {entry : Completed}
    (there : entry ∈ history.queue.completed) : (history.queue.take entry.id).1 = some entry := by
  refine Option.mem_toList.1 ?_
  rw [toList_take h.nodup_completed]
  exact List.mem_filter.2 ⟨there, beq_self_eq_true _⟩

/-- A submitted request is in exactly one of three places. -/
theorem Kept.place {history : History} (h : history.Kept) {id : Nat}
    (submitted : id ∈ history.submitted) :
    history.queue.isPending id = true ∧ history.queue.isActive id = false ∧
        id ∉ history.resolved ∨
      history.queue.isPending id = false ∧ history.queue.isActive id = true ∧
        id ∉ history.resolved ∨
      history.queue.isPending id = false ∧ history.queue.isActive id = false ∧
        id ∈ history.resolved := by
  have there := List.count_pos_iff.2 submitted
  have place := h.settled.place id
  have once := h.settled.once id
  simp only [← Bool.not_eq_true, isPending_iff, isActive_iff, ← List.count_pos_iff]
  omega

/-- **Every request is resolved once**, after any moves of a queue that was opened empty. -/
theorem resolvesOnce {workers retention : Nat} {history : History}
    (reached : (opened workers retention).Leads history) : history.ResolvesOnce := by
  have h := (kept_opened workers retention).leads reached
  have taken : history.taken.Sublist history.kept :=
    (List.sublist_append_left _ _).trans (List.sublist_append_right _ _)
  refine ⟨fun id mem => h.place mem, fun id => ?_, List.nodup_iff_count.2 fun id => ?_,
    fun id found later onward => ?_, h.recorded.success,
    fun ctx response now active => inserted_finish (isActive_iff.1 active) response now,
    fun entry there => h.handed there, fun id mem entry mem' => h.refused mem mem',
    h.recorded.once, h.recorded.once.sublist (taken.map _), fun id gone => ?_⟩
  · have outcome := h.settled.outcome id
    have place := h.settled.place id
    have once := h.settled.once id
    rw [outcome]
    split
    · next mem =>
      have := List.count_pos_iff.2 mem
      omega
    · next absent => exact List.count_eq_zero.2 absent
  · have lone := h.settled.lone id
    have once := h.settled.once id
    omega
  · have cancelled : (history.after (.cancel id)).Kept := h.after (.cancel id) trivial
    exact cancelled.started onward (resolved_cancel found)
  · obtain ⟨noPending, noActive⟩ := h.settled.of_resolved gone
    rcases history.queue.cancel_cases id with ⟨there, -⟩ | ⟨-, -, eq⟩
    · exact absurd there (not_or.2 ⟨noPending, noActive⟩)
    · exact eq

/-- A request that is cancelled while a worker executes it, which then finishes with a response; one
whose response is taken; and one whose response is still there. -/
def raced : History :=
  let request : Request := { method := .get, url := "" }
  let finished (id : Nat) : Move := .finish { id, request, attempts := 1 } (.ok { status := 200 }) 5
  [.submit request, .submit request, .process 0, .start 1, .cancel 1, finished 1, .start 2,
    finished 2, .take 2, .submit request, .process 6, .start 3, finished 3].foldl after
      (opened 1 60)

theorem resolvesOnce_raced :
    (opened 1 60).Leads raced ∧ raced.cancelled = [1] ∧ raced.taken.map (·.id) = [2] ∧
      raced.queue.completed.map (·.id) = [3] ∧ raced.ResolvesOnce :=
  have reached : (opened 1 60).Leads raced := by
    simp only [raced, List.foldl]
    refine .move _ (.move _ (.move _ (.move _ (.move _ (.move _ (.move _ (.move _ (.move _ (.move _
      (.move _ (.move _ (.move _ .here ?_) ?_) ?_) ?_) ?_) ?_) ?_) ?_) ?_) ?_) ?_) ?_) ?_
    all_goals first | trivial | exact List.mem_singleton.2 rfl
  ⟨reached, rfl, rfl, rfl, resolvesOnce reached⟩

end History

end Queue

end GatewaySession
