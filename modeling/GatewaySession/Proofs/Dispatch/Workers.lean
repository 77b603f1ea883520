import GatewaySession.Proofs.Dispatch.Office
import GatewaySession.Proofs.Dispatch.Parking
import GatewaySession.Proofs.Gateway.Settings
import GatewaySession.Proofs.Json.Object

/-!
# Who executes what was dispatched

A dispatched record is active, with a task that waits for a worker. How many workers there are is
decided by the settings when the queue is opened, and no move changes it.

With at least one worker every active record has its turn. Its task can be taken up as soon as fewer
tasks are under way than there are workers, and that comes about when those that are under way end,
whatever they end with. Without workers no task is ever taken up: a dispatched record stays active
for good, and the only outcome that any request ever has is that it was cancelled.

Settings that state zero workers are accepted from a text, although a choice of zero is raised to
one. So both cases occur, and what settings were accepted decides which of them it is.

## Main definitions

* `Settings.opened` — a queue that is opened by settings
* `Queue.History.Staffed` — what workers make sure of
* `Queue.History.Unstaffed` — what follows from there being none

## Main results

* `Queue.History.active_after` — what ends the activity of a record
* `Queue.History.staffed`, `Queue.History.unstaffed` — after any moves
* `Settings.IsAccepted.decides_staff` — which of them it is for accepted settings
-/

namespace GatewaySession

namespace Queue

variable {queue : Queue} {id : Nat}

/-! ### The number of workers -/

theorem workers_process (queue : Queue) (now : Nat) :
    (queue.process now).2.workers = queue.workers := by
  rw [process_snd]
  split <;> rfl

theorem workers_finish (queue : Queue) (ctx : Context) (result : Except Error Response)
    (now : Nat) : (queue.finish ctx result now).workers = queue.workers := by
  have reported : (queue.reported ctx result now).workers = queue.workers := by
    rw [Queue.reported, keep_eq]
    split <;> rfl
  rcases queue.finish_cases ctx result now with ⟨-, eq⟩ | ⟨-, -, eq⟩ | ⟨-, -, eq⟩ <;> rw [eq]
  · rfl
  · rfl
  · rw [resolve_eq]
    split
    · exact ((queue.reported ctx result now).freed.workers_process now).trans reported
    · exact reported

/-! ### What ends the activity of a record -/

theorem mem_active_process (queue : Queue) (active : id ∈ queue.active) (now : Nat) :
    id ∈ (queue.process now).2.active := by
  obtain ⟨records, launches, -⟩ := queue.exists_launches now
  rw [launches.active]
  exact List.mem_append_left _ active

theorem mem_active_finish (active : id ∈ queue.active) {ctx : Context} (other : ctx.id ≠ id)
    (result : Except Error Response) (now : Nat) :
    id ∈ (queue.finish ctx result now).active := by
  have ended : id ∈ (queue.ended ctx.id).active :=
    List.mem_filter.2 ⟨active, bne_iff_ne.2 (Ne.symm other)⟩
  have reported : id ∈ (queue.reported ctx result now).active :=
    (queue.reported_eq ctx result now).2.1 ▸ ended
  rcases queue.finish_cases ctx result now with ⟨-, eq⟩ | ⟨-, -, eq⟩ | ⟨-, -, eq⟩ <;> rw [eq]
  · exact ended
  · exact ended
  · rw [resolve_eq]
    split
    · exact mem_active_process (queue.reported ctx result now).freed reported now
    · exact reported

theorem mem_active_cancel (active : id ∈ queue.active) {other : Nat} (apart : other ≠ id) :
    id ∈ (queue.cancel other).2.active := by
  rcases queue.cancel_cases other with ⟨-, eq⟩ | ⟨-, -, eq⟩ <;> rw [eq]
  · change id ∈ if queue.isPending other then queue.active else queue.active.filter (· != other)
    split
    · exact active
    · exact List.mem_filter.2 ⟨active, bne_iff_ne.2 (Ne.symm apart)⟩
  · exact active

namespace History

variable {history later : History}

theorem workers_after (history : History) (move : Move) :
    (history.after move).queue.workers = history.queue.workers := by
  cases move with
  | process now => exact history.queue.workers_process now
  | start id =>
    change (history.queue.start id).2.workers = _
    rcases history.queue.start_cases id with eq | ⟨_, -, -, ⟨-, eq⟩ | ⟨-, eq⟩⟩ <;> rw [eq]
    · rfl
    · rfl
  | finish ctx result now => exact history.queue.workers_finish ctx result now
  | cancel id =>
    change (history.queue.cancel id).2.workers = _
    rcases history.queue.cancel_cases id with ⟨-, eq⟩ | ⟨-, -, eq⟩ <;> rw [eq]
    rfl
  | supplyOtp id channel otp now => exact workers_process _ now
  | supplyNothing id now => exact workers_process _ now
  | _ => rfl

/-- **No move changes the number of workers.** -/
theorem Leads.workers (reached : history.Leads later) :
    later.queue.workers = history.queue.workers := by
  induction reached with
  | here => rfl
  | @move between move _ _ ih => rw [workers_after, ih]

/-- **An active record stays active** until its own task ends or it is cancelled. -/
theorem active_after (active : id ∈ history.queue.active) (move : Move) :
    id ∈ (history.after move).queue.active ∨ move = .cancel id ∨
      ∃ ctx result now, move = .finish ctx result now ∧ ctx.id = id := by
  cases move with
  | process now => exact Or.inl (mem_active_process _ active now)
  | start other =>
    refine Or.inl ?_
    change id ∈ (history.queue.start other).2.active
    rcases history.queue.start_cases other with eq | ⟨_, -, -, ⟨-, eq⟩ | ⟨-, eq⟩⟩ <;> rw [eq] <;>
      exact active
  | finish ctx result now =>
    by_cases own : ctx.id = id
    · exact Or.inr (Or.inr ⟨ctx, result, now, rfl, own⟩)
    · exact Or.inl (mem_active_finish active own result now)
  | cancel other =>
    by_cases own : other = id
    · exact Or.inr (Or.inl (own ▸ rfl))
    · exact Or.inl (mem_active_cancel active own)
  | supplyOtp other channel otp now =>
    exact Or.inl (mem_active_process (history.queue.supplied other _) active now)
  | supplyNothing other now =>
    exact Or.inl (mem_active_process (history.queue.supplied other _) active now)
  | _ => exact Or.inl active

/-! ### With workers -/

/-- A task other than that of a record ends, with any result. -/
def OtherEnds (id : Nat) (_ : Queue) (move : Move) : Prop :=
  ∃ ctx result now, move = .finish ctx result now ∧ ctx.id ≠ id

/-- What workers make sure of, given how many tasks may be under way at once. -/
structure Staffed (limit : Nat) (history : History) : Prop where
  /-- An active record whose task is not under way is executed by the next worker that takes it up,
  as soon as fewer than the limit are executing others. -/
  startable : ∀ id, history.queue.isActive id = true → id ∉ history.queue.running →
    history.queue.running.length < limit →
    ∃ ctx, ctx.id = id ∧ history.queue.start id = (some ctx, history.queue.launched id)
  /-- An active record is being executed, or will be when enough of the other tasks have ended. -/
  turn : ∀ id, history.queue.isActive id = true → id ∈ history.queue.running ∨
    ∃ later, history.LeadsBy (OtherEnds id) later ∧
      ∃ ctx, ctx.id = id ∧ later.queue.start id = (some ctx, later.queue.launched id)
  /-- There is a worker for further tasks when enough of those under way have ended. -/
  free : ∃ later, history.LeadsBy (OtherEnds history.queue.nextId) later ∧
    later.queue.hasFreeWorker = true

/-- A free worker executes the active record whose task it takes up. -/
theorem start_of_active (kept : history.Kept) (active : id ∈ history.queue.active)
    (idle : id ∉ history.queue.running) (free : history.queue.hasFreeWorker = true) :
    ∃ ctx, ctx.id = id ∧ history.queue.start id = (some ctx, history.queue.launched id) := by
  -- The record has a task, which is not under way, so it waits.
  have waits : 0 < (history.queue.waiting.map (·.id)).count id := by
    have := kept.settled.tasked id
    have := List.count_pos_iff.2 active
    have := List.count_eq_zero.2 idle
    have := history.queue.count_taskIds id
    omega
  obtain ⟨ctx, waiting, rfl⟩ := List.mem_map.1 (List.count_pos_iff.1 waits)
  have taken := start_of_hasTask kept ⟨active, waiting⟩ free
  rcases history.queue.start_cases ctx.id with eq | ⟨other, -, same, ⟨-, eq⟩ | ⟨-, eq⟩⟩
  · rw [eq] at taken
    cases taken
  · exact ⟨other, same, eq⟩
  · rw [eq] at taken
    cases taken

/-- The tasks under way can all end, and a record whose task is not among them stays active. -/
theorem exists_drained {start : History} (reached : start.LeadsBy (OtherEnds id) history)
    (idle : id ∉ history.queue.running) :
    ∃ later, start.LeadsBy (OtherEnds id) later ∧ later.queue.running = [] ∧
      (id ∈ history.queue.active → id ∈ later.queue.active) := by
  -- By induction on how many are under way; each that ends leaves fewer.
  induction count : history.queue.running.length using Nat.strongRecOn generalizing history with
  | ind many ih =>
    cases tasks : history.queue.running with
    | nil => exact ⟨history, reached, tasks, fun active => active⟩
    | cons first rest =>
      have runs : first ∈ history.queue.running := tasks ▸ List.mem_cons_self
      have apart : first ≠ id := fun same => idle (same ▸ runs)
      let ctx : Context := { id := first, request := { method := .get, url := "" } }
      have ends : OtherEnds id history.queue (.finish ctx (.error .cancelled) 0) :=
        ⟨ctx, _, _, rfl, apart⟩
      have fewer : (history.after (.finish ctx (.error .cancelled) 0)).queue.running =
          history.queue.running.filter (· != first) := history.queue.running_finish ctx _ 0
      have less :
          (history.after (.finish ctx (.error .cancelled) 0)).queue.running.length < many := by
        rw [fewer, ← count]
        exact List.length_filter_lt_length_iff_exists.2 ⟨first, runs, by simp⟩
      obtain ⟨later, led, drained, stays⟩ := ih _ less
        (reached.move (.finish ctx (.error .cancelled) 0) runs ends)
        (by rw [fewer]; exact fun mem => idle (List.mem_filter.1 mem).1) rfl
      exact ⟨later, led, drained, fun active => stays (mem_active_finish active apart _ 0)⟩

/-- A worker is free when no task is under way. -/
theorem hasFreeWorker_of_drained {workers : Nat} (some : 1 ≤ workers)
    (count : history.queue.workers = workers) (drained : history.queue.running = []) :
    history.queue.hasFreeWorker = true := by
  rw [hasFreeWorker, drained, count]
  exact decide_eq_true some

/-- **With at least one worker** every active record has its turn, after any moves. -/
theorem staffed {workers retention : Nat} (some : 1 ≤ workers)
    (reached : (opened workers retention).Leads history) : history.Staffed workers := by
  have kept := (kept_opened workers retention).leads reached
  refine ⟨fun id active idle fewer => ?_, fun id active => ?_, ?_⟩
  · have free : history.queue.hasFreeWorker = true := by
      rw [hasFreeWorker, reached.workers]
      exact decide_eq_true fewer
    exact start_of_active kept (isActive_iff.1 active) idle free
  · by_cases idle : id ∈ history.queue.running
    · exact Or.inl idle
    · obtain ⟨later, led, drained, stays⟩ := exists_drained .here idle
      have onward := reached.trans led.leads
      refine Or.inr ⟨later, led, start_of_active ((kept_opened workers retention).leads onward)
        (stays (isActive_iff.1 active)) ?_ (hasFreeWorker_of_drained some onward.workers drained)⟩
      rw [drained]
      exact List.not_mem_nil
  · have idle : history.queue.nextId ∉ history.queue.running := by
      have := kept.settled.fresh history.queue.nextId (Nat.le_refl _)
      have := kept.settled.lone history.queue.nextId
      have := history.queue.count_taskIds history.queue.nextId
      rw [← List.count_eq_zero]
      omega
    obtain ⟨later, led, drained, -⟩ := exists_drained .here idle
    exact ⟨later, led,
      hasFreeWorker_of_drained some (reached.trans led.leads).workers drained⟩

/-! ### Without workers -/

/-- What follows from there being no workers. -/
structure Unstaffed (history : History) : Prop where
  /-- No task is under way. -/
  idle : history.queue.running = []
  /-- No task was ever taken up in order to execute it. -/
  unstarted : history.started = []
  /-- Requests were resolved by being cancelled alone. -/
  unresolved : history.resolved = history.cancelled
  /-- A dispatched record is active for good unless it is cancelled. -/
  stuck : ∀ id, history.queue.isActive id = true → ∀ later, history.Leads later →
    later.queue.isActive id = true ∨ id ∈ later.cancelled

/-- What is known of a queue without workers. -/
structure Idles (history : History) : Prop where
  workers : history.queue.workers = 0
  idle : history.queue.running = []
  unstarted : history.started = []
  unresolved : history.resolved = history.cancelled

/-- Every move keeps it so: no worker is free to start a task, and so none finishes one. -/
theorem Idles.after (idles : history.Idles) {move : Move} (admitted : history.queue.Admits move) :
    (history.after move).Idles := by
  obtain ⟨workers, idle, unstarted, unresolved⟩ := idles
  have workers' := (history.workers_after move).trans workers
  cases move with
  | process now =>
    exact ⟨workers', (history.queue.running_process now).trans idle, unstarted, unresolved⟩
  | start id =>
    have busy : ¬ history.queue.hasFreeWorker = true := by
      rw [hasFreeWorker, workers]
      simp
    have same : history.queue.start id = (none, history.queue) := if_neg busy
    refine ⟨workers', ?_, ?_, unresolved⟩
    · change (history.queue.start id).2.running = []
      rw [same, idle]
    · change history.started ++ _ = []
      rw [same, unstarted]
      rfl
  | finish ctx result now =>
    rw [Admits, idle] at admitted
    cases admitted
  | cancel id =>
    refine ⟨workers', ?_, unstarted, ?_⟩
    · change (history.queue.cancel id).2.running = []
      rcases history.queue.cancel_cases id with ⟨-, eq⟩ | ⟨-, -, eq⟩ <;> rw [eq] <;> exact idle
    · exact congrArg (· ++ _) unresolved
  | supplyOtp id channel otp now =>
    exact ⟨workers', (running_process (history.queue.supplied id _) now).trans idle, unstarted,
      unresolved⟩
  | supplyNothing id now =>
    exact ⟨workers', (running_process (history.queue.supplied id _) now).trans idle, unstarted,
      unresolved⟩
  | _ => exact ⟨workers', idle, unstarted, unresolved⟩

theorem Idles.leads (idles : history.Idles) (reached : history.Leads later) : later.Idles := by
  induction reached with
  | here => exact idles
  | move move _ admitted ih => exact ih.after admitted

/-- An active record is active as long as it is not cancelled. -/
theorem Idles.active (idles : history.Idles) (active : id ∈ history.queue.active)
    (reached : history.Leads later) : id ∈ later.queue.active ∨ id ∈ later.cancelled := by
  induction reached with
  | here => exact Or.inl active
  | @move between move reached admitted ih =>
    rcases ih with active | cancelled
    · rcases active_after active move with stays | rfl | ⟨ctx, result, now, rfl, -⟩
      · exact Or.inl stays
      · refine Or.inr ?_
        have found : (between.queue.cancel id).1 = true := by
          simp [Queue.cancel, isActive_iff.2 active]
        simp only [History.after, found, if_true]
        exact List.mem_append_right _ List.mem_cons_self
      · rw [Admits, (idles.leads reached).idle] at admitted
        cases admitted
    · refine Or.inr ?_
      cases move with
      | cancel => exact List.mem_append_left _ cancelled
      | _ => exact cancelled

/-- **Without workers** nothing is ever executed, after any moves. -/
theorem unstaffed {retention : Nat} (reached : (opened 0 retention).Leads history) :
    history.Unstaffed := by
  have idles := Idles.leads ⟨rfl, rfl, rfl, rfl⟩ reached
  exact ⟨idles.idle, idles.unstarted, idles.unresolved, fun id active later onward =>
    (idles.active (isActive_iff.1 active) onward).imp_left isActive_iff.2⟩

end History

end Queue

/-! ### Accepted settings -/

namespace Settings

/-- A queue that is opened by settings on a machine with a number of cores. -/
def opened (settings : Settings) (cores : Nat) : Queue.History :=
  .opened (settings.workerLimit cores) settings.responseTtl.toNat

/-- **Accepted settings give a queue that runs** unless they state zero workers and choose no other
number. In that case, which is accepted too, nothing that is dispatched ever runs. -/
theorem IsAccepted.decides_staff {settings : Settings} {origin : Origin} {choices : List Choice}
    (accepted : settings.IsAccepted origin choices) (cores : Nat) :
    (¬ (chosenWorkers? choices = none ∧ origin.statedWorkers? = some 0) →
      1 ≤ settings.workerLimit cores ∧
        ∀ history, (settings.opened cores).Leads history →
          history.Staffed (settings.workerLimit cores)) ∧
    (chosenWorkers? choices = none ∧ origin.statedWorkers? = some 0 →
      settings.workerLimit cores = 0 ∧
        ∀ history, (settings.opened cores).Leads history → history.Unstaffed) := by
  have zero := accepted.workerLimit_eq_zero_iff cores
  constructor
  · intro stated
    have some : 1 ≤ settings.workerLimit cores := Nat.one_le_iff_ne_zero.2 (mt zero.1 stated)
    exact ⟨some, fun history reached => Queue.History.staffed some reached⟩
  · intro stated
    have none : settings.workerLimit cores = 0 := zero.2 stated
    refine ⟨none, fun history reached => ?_⟩
    rw [opened, none] at reached
    exact Queue.History.unstaffed reached

/-- A text that states zero workers. -/
def idleText : Bytes :=
  (Json.Value.object [("host", .string "gw"), ("client_id", .string "client"),
    ("max_workers", .integer 0)]).encode

/-- What it says. -/
def idle : Settings := { make "gw" "client" with maxWorkers := some 0 }

/-- A request that was dispatched by the queue of these settings. -/
def stranded : Queue.History :=
  ((idle.opened 1).after (.submit { method := .get, url := "" })).after (.process 0)

/-- The text is accepted, and the request that is dispatched never runs. With a choice of zero on
top it would. -/
theorem decides_staff_zero :
    (idle.IsAccepted (.text idleText) [] ∧ idle.workerLimit 1 = 0 ∧
      (idle.opened 1).Leads stranded ∧ stranded.queue.isActive 1 = true ∧ stranded.Unstaffed) ∧
    (idle.withMaxWorkers 0).IsAccepted (.text idleText) [.maxWorkers 0] ∧
      1 ≤ (idle.withMaxWorkers 0).workerLimit 1 := by
  have parsed : (Origin.text idleText).settings = .ok idle := rfl
  have accepted : idle.IsAccepted (.text idleText) [] := ⟨⟨idle, parsed, rfl⟩, rfl⟩
  have chosen : (idle.withMaxWorkers 0).IsAccepted (.text idleText) [.maxWorkers 0] :=
    ⟨⟨idle, parsed, rfl⟩, rfl⟩
  have reached : (idle.opened 1).Leads stranded := .move _ (.move _ .here trivial) trivial
  obtain ⟨none, never⟩ := (accepted.decides_staff 1).2 ⟨rfl, rfl⟩
  refine ⟨⟨accepted, none, reached, rfl, never stranded reached⟩, chosen, ?_⟩
  exact ((chosen.decides_staff 1).1 fun stated => by cases stated.1).1

end Settings

end GatewaySession
