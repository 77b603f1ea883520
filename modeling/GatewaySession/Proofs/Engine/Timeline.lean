import GatewaySession.Proofs.Engine.ClientChange
import GatewaySession.Proofs.Session.Composition
import GatewaySession.Proofs.Vault.Moments

/-!
# Timelines

Several sessions work with one vault: the session of an engine, and those of engines that are
started after it over the same storage. Each is asked for any number of errands at any time. They
take their effects one by one and mix in any order; only the store is held by one task of a session
at a time. Everything may fail, and a task that holds the store may be abandoned, which lets others
in again.

A timeline is such a run with a log of all that was done. Whatever a watch says of every errand is
said of the log: at every entry, what is done is permitted at the mark that the earlier entries of
the same task have left. Nothing else has to be known of a run, so that what is proved below about
the vault as a whole is proved about logs.

## Main definitions

* `Session.Errand` — everything that a session can be asked for
* `Household` — sessions with one vault
* `Household.Timeline`, `Household.Step` — what was done and what remains, and what happens next
* `Household.Consistent`, `Household.Followed` — what holds of every timeline, and of one that a
  watch looks at
* `Household.History`, `Household.storedAfter` — what a log tells of a run

## Main results

* `Session.Affairs.errand`, `Session.Whole.errand` — what holds of the parts holds of every errand
* `Household.Consistent.run`, `Household.Followed.run` — what every step and every run keeps
* `Household.exclusive_run` — the store is held by one task at a time
* `Household.history_run` — the log of a run is a history
-/

namespace GatewaySession

open Program (Meets)

/-! ### Errands -/

/-- What a session can be asked for: the operations of an engine, and what is done with a session by
itself. -/
inductive Session.Errand (session : Session) : Program Unit → Prop where
  /-- An operation of an engine. -/
  | operation (operation : Engine.Operation) : Errand session (operation.program session)
  /-- Everything is forgotten, the record of the client id too. -/
  | forget : Errand session session.destroyAll
  /-- A request is sent as it is. -/
  | send (request : Request) : Errand session (do let _ ← session.send .asIs request)
  /-- The connection is dropped. -/
  | dropConnection : Errand session Program.dropConnection
  /-- The cached credential of the user is looked at. -/
  | user : Errand session (do let _ ← Program.user)

section

variable {P : (α : Type) → Program α → Prop} {session : Session} {program : Program Unit}

/-- An engine that is started again reconciles as the session does. -/
theorem Session.Affairs.restart (affairs : session.Affairs P) (device : Device) :
    P _ (Engine.start session.settings device) := by
  have reconciled : P _ (⟨session.settings, device⟩ : Session).reconcile := affairs.reconcile
  rw [Engine.start]
  cases made : Session.make session.settings device with
  | error error => exact affairs.done _
  | ok other =>
    obtain ⟨rfl, -⟩ := Session.eq_of_make made
    have opened : P Session (do
        let _ ← (⟨session.settings, device⟩ : Session).reconcile
        return ⟨session.settings, device⟩) := affairs.bind reconciled fun _ => affairs.pure _
    exact opened

/-- **Every errand** has a property of the affairs, if storing a registration has it where that is
the errand. -/
theorem Session.Affairs.errand (affairs : session.Affairs P)
    (stored : ∀ identity, program = session.setDeviceIdentity identity → P _ program)
    (errand : session.Errand program) : P _ program := by
  have discarded {α : Type} {program : Program α} (h : P _ program) :
      P _ (do let _ ← program) := affairs.bind h fun _ => affairs.pure ()
  cases errand with
  | forget => exact affairs.destroyAll
  | send request => exact discarded (affairs.sendAsIs request)
  | dropConnection => exact affairs.dropConnection
  | user => exact discarded (affairs.ask .user trivial)
  | operation operation =>
    cases operation with
    | execute ctx => exact discarded (affairs.execute ctx)
    | requestOtp channel => exact affairs.deliverOtp channel
    | logout contactServer => exact affairs.logout contactServer
    | deregister => exact affairs.deregister
    | destroyAll => exact affairs.forgetAll
    | restart device => exact discarded (affairs.restart device)
    | reconcile => exact discarded affairs.reconcile
    | isLoggedIn => exact discarded affairs.isLoggedIn
    | isDeviceRegistered =>
      exact discarded (affairs.isDeviceRegistered (affairs.deviceIdentity (affairs.clear _)))
    | accessToken => exact discarded (affairs.accessToken (affairs.clear _))
    | validAccessToken => exact discarded affairs.validAccessToken
    | isAccessTokenExpired => exact discarded affairs.isAccessTokenExpired
    | setAccessToken token => exact affairs.setAccessToken token
    | clearAccessToken => exact affairs.clear _
    | hasRefreshToken => exact discarded affairs.hasRefreshToken
    | takeRefreshToken => exact discarded affairs.takeRefreshToken
    | setRefreshToken token => exact affairs.setRefreshToken token
    | idToken => exact discarded (affairs.idToken (affairs.clear _))
    | acceptIdToken value type => exact affairs.acceptIdToken value type
    | clearIdToken => exact affairs.clear _
    | storedClientCredential =>
      exact discarded (affairs.storedClientCredential (affairs.clear _))
    | clientCredential => exact discarded (affairs.clientCredential (affairs.clear _))
    | setClientCredential credential => exact affairs.setClientCredential credential
    | clearClientCredential => exact affairs.clear _
    | deviceIdentity => exact discarded (affairs.deviceIdentity (affairs.clear _))
    | setDeviceIdentity identity => exact stored identity rfl
    | clearDeviceIdentity => exact affairs.clear _
    | cacheUser credential => exact affairs.ask (.cacheUser (some credential)) trivial
    | dropUser => exact affairs.dropUser
    | clearUserTokens => exact affairs.clearUserTokens

/-- **Every errand** has a property that the parts have. -/
theorem Session.Whole.errand (whole : session.Whole P) (errand : session.Errand program) :
    P _ program :=
  whole.affairs.errand (fun identity same => same ▸ whole.setDeviceIdentity identity) errand

end

/-! ### Sessions with one vault -/

/-- Sessions with one vault, and the surroundings as each of them finds them. -/
structure Household (ι κ σ : Type) (vault : Vault) (key : Aes256.Key) where
  /-- The sessions. -/
  session : ι → Session
  /-- The vault is theirs. -/
  vault_eq (owner : ι) : (session owner).vault = vault
  /-- The lock that a session holds while it writes. -/
  lock : ι → κ
  /-- How a session is answered. -/
  keeper : ι → Keeper σ vault key
  /-- What is stored. -/
  stored : σ → String → Option Bytes
  /-- What is stored is the same for all sessions. -/
  stored_eq (owner : ι) : (keeper owner).stored = stored
  /-- The states in which the surroundings keep what is stored. -/
  IsSound : σ → Prop
  /-- The sound states are the same for all sessions. -/
  isSound_eq (owner : ι) : (keeper owner).IsSound = IsSound

namespace Household

/-- A moment, and whose it was. -/
structure Entry (ι σ : Type) extends Moment σ where
  /-- The number of the task. -/
  task : Nat
  /-- The session that it belongs to. -/
  owner : ι

/-- What remains of an errand. -/
structure Job (ι : Type) where
  /-- The session that was asked for it. -/
  owner : ι
  /-- What remains. -/
  rest : Program Unit

/-- The surroundings, what remains of every task that ever began, and what was done. -/
structure Timeline (ι κ σ : Type) where
  /-- The state of the surroundings. -/
  state : σ
  /-- The task that holds each lock. -/
  holder : κ → Option Nat
  /-- What remains of the tasks, by their numbers. -/
  jobs : Nat → Option (Job ι)
  /-- What was done, in order. -/
  log : List (Entry ι σ)

/-- Nothing was asked for yet. -/
def Timeline.blank {ι κ σ : Type} (state : σ) : Timeline ι κ σ where
  state := state
  holder _ := none
  jobs _ := none
  log := []

variable {ι κ σ : Type} {vault : Vault} {key : Aes256.Key}

/-- What one task has done. -/
def events (log : List (Entry ι σ)) (task : Nat) : List Event :=
  (log.filter (·.task = task)).map (·.toEvent)

/-- Whether somebody with a past holds the store. -/
def holdsAfter (past : List Event) : Bool :=
  past.foldl (fun held event => event.effect.holds held) false

section

variable {log early late : List (Entry ι σ)} {entry : Entry ι σ} {task : Nat}

/-- The last of a list, or one before it. -/
theorem append_singleton_eq {α : Type} {init early late : List α} {last other : α}
    (h : init ++ [last] = early ++ other :: late) :
    init = early ∧ last = other ∧ late = [] ∨
      ∃ mid, init = early ++ other :: mid ∧ late = mid ++ [last] := by
  obtain rfl | ⟨mid, final, rfl⟩ := List.eq_nil_or_concat late
  · obtain ⟨rfl, same⟩ := List.append_inj' h rfl
    exact .inl ⟨rfl, List.head_eq_of_cons_eq same, rfl⟩
  · rw [List.concat_eq_append, ← List.cons_append, ← List.append_assoc] at h
    obtain ⟨rfl, same⟩ := List.append_inj' h rfl
    obtain rfl := List.head_eq_of_cons_eq same
    exact .inr ⟨mid, rfl, List.concat_eq_append⟩

theorem events_append (early late : List (Entry ι σ)) (task : Nat) :
    events (early ++ late) task = events early task ++ events late task := by
  rw [events, List.filter_append, List.map_append, ← events, ← events]

theorem events_cons_self (entry : Entry ι σ) (late : List (Entry ι σ)) :
    events (entry :: late) entry.task = entry.toEvent :: events late entry.task := by
  simp [events]

/-- An entry is the last that its own task has done. -/
theorem events_append_self (log : List (Entry ι σ)) (entry : Entry ι σ) :
    events (log ++ [entry]) entry.task = events log entry.task ++ [entry.toEvent] := by
  rw [events_append, events_cons_self]
  rfl

theorem mem_events {entry : Entry ι σ} (mem : entry ∈ log) :
    entry.toEvent ∈ events log entry.task :=
  List.mem_map_of_mem (List.mem_filter.2 ⟨mem, decide_eq_true rfl⟩)

/-- An entry is nothing that another task has done. -/
theorem events_append_of_ne (log : List (Entry ι σ)) {entry : Entry ι σ}
    (other : entry.task ≠ task) : events (log ++ [entry]) task = events log task := by
  simp [events, other]

/-- A task that has done something is in the log. -/
theorem exists_entry {event : Event} (mem : event ∈ events log task) :
    ∃ entry ∈ log, entry.task = task ∧ entry.toEvent = event := by
  obtain ⟨entry, within, rfl⟩ := List.mem_map.1 mem
  obtain ⟨mem, own⟩ := List.mem_filter.1 within
  exact ⟨entry, mem, of_decide_eq_true own, rfl⟩

/-- Whoever holds the store has done something. -/
theorem exists_of_holdsAfter (holds : holdsAfter (events log task) = true) :
    ∃ entry ∈ log, entry.task = task := by
  cases past : events log task with
  | nil =>
    rw [past] at holds
    cases holds
  | cons event past' =>
    have mem : event ∈ events log task := past ▸ List.mem_cons_self
    obtain ⟨entry, mem, own, -⟩ := exists_entry mem
    exact ⟨entry, mem, own⟩

theorem holdsAfter_append (past : List Event) (event : Event) :
    holdsAfter (past ++ [event]) = event.effect.holds (holdsAfter past) :=
  List.foldl_append

end

section

variable (household : Household ι κ σ vault key)

/-! ### What holds of timelines -/

/-- What holds of every timeline that began with something stored. -/
structure Consistent (first : String → Option Bytes) (timeline : Timeline ι κ σ) : Prop where
  /-- The surroundings keep what is stored. -/
  sound : household.IsSound timeline.state
  /-- What was done was answered by the surroundings. -/
  answered : ∀ entry ∈ timeline.log, (household.keeper entry.owner).Answered entry.toMoment
  /-- What is stored leads from one entry to the next. -/
  linked : Linked household.stored first (timeline.log.map (·.toMoment))
    (household.stored timeline.state)
  /-- A task belongs to one session. -/
  owner {task : Nat} {job : Job ι} : timeline.jobs task = some job →
    ∀ entry ∈ timeline.log, entry.task = task → entry.owner = job.owner
  /-- Only tasks that began have done anything. -/
  began {task : Nat} : timeline.jobs task = none → ∀ entry ∈ timeline.log, entry.task ≠ task
  /-- A task that holds the store holds the lock of its session. -/
  holder {task : Nat} : holdsAfter (events timeline.log task) = true →
    ∃ job, timeline.jobs task = some job ∧
      timeline.holder (household.lock job.owner) = some task

/-- Whether nobody takes hold of the store while a task of a session with another lock holds it.
This is so if all sessions share one lock, and if a session is used only when the tasks of the
earlier one have let go. -/
def Apart (log : List (Entry ι σ)) : Prop :=
  ∀ (early late : List (Entry ι σ)) (entry : Entry ι σ), log = early ++ entry :: late →
    entry.effect = .hold → ∀ other ∈ early, holdsAfter (events early other.task) = true →
      household.lock other.owner = household.lock entry.owner

/-- Whether the store is held by one task at a time. -/
def Exclusive (log : List (Entry ι σ)) : Prop :=
  ∀ early late : List (Entry ι σ), log = early ++ late → ∀ task other : Nat,
    holdsAfter (events early task) = true → holdsAfter (events early other) = true → task = other

/-- What a log tells, if it is followed by a watch and leads from one thing stored to another. -/
structure History {γ : Type} (watch : ι → Watch γ) (mark : γ) (first : String → Option Bytes)
    (log : List (Entry ι σ)) (last : String → Option Bytes) : Prop where
  /-- What was done was answered by the surroundings. -/
  answered : ∀ entry ∈ log, (household.keeper entry.owner).Answered entry.toMoment
  /-- What is stored leads from one entry to the next. -/
  linked : Linked household.stored first (log.map (·.toMoment)) last
  /-- A task belongs to one session. -/
  owner : ∀ entry ∈ log, ∀ other ∈ log, entry.task = other.task → entry.owner = other.owner
  /-- What was done was permitted. -/
  permitted {early late : List (Entry ι σ)} {entry : Entry ι σ} : log = early ++ entry :: late →
    (watch entry.owner).permits ((watch entry.owner).markAfter mark (events early entry.task))
      entry.effect

/-- Whether all errands meet a watch from a mark, and the watch asks for nothing more than that the
surroundings have one key for the vault. -/
structure Watched {γ : Type} (household : Household ι κ σ vault key) (watch : ι → Watch γ)
    (mark : γ) : Prop where
  /-- Every errand meets the watch. -/
  errand {owner : ι} {program : Program Unit} : (household.session owner).Errand program →
    program.Meets (watch owner) (fun _ _ => True) mark
  /-- The watch takes nothing more for granted. -/
  granted {owner : ι} {effect : Effect} {reply : effect.Reply} :
    vault.Keyed key effect reply → (watch owner).grants effect reply
  /-- The store may be released at any time. -/
  released {owner : ι} (past : γ) : (watch owner).permits past .release

/-- What holds of every timeline if all errands meet a watch. -/
structure Followed {γ : Type} (watch : ι → Watch γ) (mark : γ) (timeline : Timeline ι κ σ) :
    Prop where
  /-- What remains of a task meets the watch at the mark that it has left. -/
  meets {task : Nat} {job : Job ι} : timeline.jobs task = some job →
    job.rest.Meets (watch job.owner) (fun _ _ => True)
      ((watch job.owner).markAfter mark (events timeline.log task))
  /-- What was done was permitted. -/
  permitted {early late : List (Entry ι σ)} {entry : Entry ι σ} :
    timeline.log = early ++ entry :: late → (watch entry.owner).permits
      ((watch entry.owner).markAfter mark (events early entry.task)) entry.effect

end

/-- What is stored after part of a log. -/
def storedAfter (household : Household ι κ σ vault key) (first : String → Option Bytes)
    (log : List (Entry ι σ)) : String → Option Bytes :=
  log.foldl (fun _ entry => household.stored entry.after) first

section

variable {household : Household ι κ σ vault key} {γ : Type} {watch : ι → Watch γ} {mark : γ}
  {first last : String → Option Bytes} {log early late : List (Entry ι σ)}

theorem storedAfter_append (log : List (Entry ι σ)) (entry : Entry ι σ) :
    household.storedAfter first (log ++ [entry]) = household.stored entry.after :=
  List.foldl_append

/-- Nobody takes hold of the store under another lock if there is but one. -/
theorem apart_of_shared (shared : ∀ owner other, household.lock owner = household.lock other)
    (log : List (Entry ι σ)) : household.Apart log :=
  fun _ _ _ _ _ _ _ _ => shared _ _

/-- Earlier it was the same. -/
theorem Apart.before (h : household.Apart (early ++ late)) : household.Apart early := by
  intro early' late' entry split
  exact h early' (late' ++ late) entry (by rw [split, List.append_assoc]; rfl)

theorem History.before (h : household.History watch mark first (early ++ late) last) :
    ∃ between, household.History watch mark first early between := by
  have linked := h.linked
  rw [List.map_append] at linked
  obtain ⟨between, linked, -⟩ := Linked.append.1 linked
  refine ⟨between, fun entry mem => h.answered entry (List.mem_append_left _ mem), linked,
    fun entry mem other mem' => h.owner entry (List.mem_append_left _ mem) other
      (List.mem_append_left _ mem'), fun {early' late' entry} split => ?_⟩
  have split' : early ++ late = early' ++ entry :: (late' ++ late) := by
    rw [split, List.append_assoc]
    rfl
  exact h.permitted split'

namespace History

variable (h : household.History watch mark first log last) {entry : Entry ι σ}

include h

theorem leaves (mem : entry ∈ log) : entry.toMoment.Leaves household.stored :=
  household.stored_eq entry.owner ▸ (h.answered entry mem).leaves

/-- What is stored at last is what the entries have left. -/
theorem last_eq : last = household.storedAfter first log := by
  rw [h.linked.eq_foldl, List.foldl_map, storedAfter]

/-- What is stored before an entry is what the earlier entries have left. -/
theorem before_eq (split : log = early ++ entry :: late) :
    household.stored entry.before = household.storedAfter first early := by
  have linked := h.linked
  rw [split, List.map_append] at linked
  obtain ⟨between, earlier, here, -⟩ := Linked.append.1 linked
  rw [here, earlier.eq_foldl, List.foldl_map, storedAfter]

/-- What is found is stored. -/
theorem found (split : log = early ++ entry :: late) {name : String} {value : Option Bytes}
    (read : entry.toEvent = ⟨.read name, .ok value⟩) :
    value = household.storedAfter first early name := by
  have answered := h.answered entry (split ▸ List.mem_append_right _ List.mem_cons_self)
  have stored := answered.read read
  rwa [household.stored_eq, h.before_eq split] at stored

/-- What an entry neither writes nor removes stays. -/
theorem stored_eq (split : log = early ++ entry :: late) {name : String}
    (kept : ∀ value, entry.effect ≠ .write name value) (left : entry.effect ≠ .remove name) :
    household.stored entry.after name = household.storedAfter first early name := by
  rw [← h.before_eq split]
  exact (h.leaves (split ▸ List.mem_append_right _ List.mem_cons_self)).stored_eq kept left

end History

end

/-- A blank timeline is consistent. -/
theorem Consistent.blank {household : Household ι κ σ vault key} {state : σ}
    (sound : household.IsSound state) :
    household.Consistent (household.stored state) (.blank state) where
  sound := sound
  answered _ mem := absurd mem List.not_mem_nil
  linked := rfl
  owner begun := nomatch begun
  began _ _ mem := absurd mem List.not_mem_nil
  holder holds := nomatch holds

/-- A timeline that is blank follows any watch. -/
theorem Followed.blank {γ : Type} {watch : ι → Watch γ} {mark : γ} {state : σ} :
    Followed watch mark (Timeline.blank state : Timeline ι κ σ) where
  meets begun := nomatch begun
  permitted split := absurd split.symm (by simp [Timeline.blank])

section

variable [DecidableEq κ]

/-- Who holds the locks after a task has performed an effect. -/
def holderAfter (holder : κ → Option Nat) (lock : κ) (task : Nat) : Effect → κ → Option Nat
  | .hold => Function.update holder lock (some task)
  | .release => if holder lock = some task then Function.update holder lock none else holder
  | _ => holder

variable (household : Household ι κ σ vault key)

/-- A task performs an effect and goes on with the answer. -/
def Timeline.advance (timeline : Timeline ι κ σ) (task : Nat) (owner : ι) (effect : Effect)
    (next : effect.Reply → Program Unit) : Timeline ι κ σ where
  state := ((household.keeper owner).handle effect timeline.state).2
  holder := holderAfter timeline.holder (household.lock owner) task effect
  jobs := Function.update timeline.jobs task
    (some ⟨owner, next ((household.keeper owner).handle effect timeline.state).1⟩)
  log := timeline.log ++ [⟨⟨⟨effect, ((household.keeper owner).handle effect timeline.state).1⟩,
    timeline.state, ((household.keeper owner).handle effect timeline.state).2⟩, task, owner⟩]

section

variable (timeline : Timeline ι κ σ) (task : Nat) (owner : ι) (effect : Effect)
  (next : effect.Reply → Program Unit)

theorem jobs_advance_self : (timeline.advance household task owner effect next).jobs task =
    some ⟨owner, next ((household.keeper owner).handle effect timeline.state).1⟩ :=
  Function.update_self _ _ _

theorem jobs_advance_of_ne {other : Nat} (differs : other ≠ task) :
    (timeline.advance household task owner effect next).jobs other = timeline.jobs other :=
  Function.update_of_ne differs _ _

end

/-- A step of a timeline. -/
inductive Step : Timeline ι κ σ → Timeline ι κ σ → Prop where
  /-- A session is asked for an errand. -/
  | start (timeline : Timeline ι κ σ) (task : Nat) (owner : ι) (program : Program Unit)
    (fresh : timeline.jobs task = none) (errand : (household.session owner).Errand program) :
    Step timeline
      { timeline with jobs := Function.update timeline.jobs task (some ⟨owner, program⟩) }
  /-- A task performs its next effect. It gets hold of the store only if nobody holds the lock. -/
  | perform (timeline : Timeline ι κ σ) (task : Nat) (owner : ι) (effect : Effect)
    (next : effect.Reply → Program Unit)
    (runs : timeline.jobs task = some ⟨owner, .perform effect next⟩)
    (free : effect = .hold → timeline.holder (household.lock owner) = none) :
    Step timeline (timeline.advance household task owner effect next)
  /-- A task is abandoned while it holds the store. (One that is abandoned at any other time just
  performs nothing more.) -/
  | abandon (timeline : Timeline ι κ σ) (task : Nat) (owner : ι) (rest : Program Unit)
    (error : Error) (runs : timeline.jobs task = some ⟨owner, rest⟩)
    (holds : timeline.holder (household.lock owner) = some task) :
    Step timeline (timeline.advance household task owner .release fun _ => .done (.error error))
  /-- The surroundings change, but not what is stored. -/
  | elsewhere (timeline : Timeline ι κ σ) (state : σ) (sound : household.IsSound state)
    (same : household.stored state = household.stored timeline.state) :
    Step timeline { timeline with state }

/-- The timelines that lead on from one another. -/
abbrev Run : Timeline ι κ σ → Timeline ι κ σ → Prop := Relation.ReflTransGen household.Step

variable {household} {first : String → Option Bytes} {timeline timeline' : Timeline ι κ σ}
  {task : Nat} {owner : ι} {rest : Program Unit}

/-! ### Consistency -/

namespace Consistent

/-- A task that holds the store after an effect holds the lock. -/
theorem holder_advance (h : household.Consistent first timeline)
    (runs : timeline.jobs task = some ⟨owner, rest⟩) {effect : Effect}
    (free : effect = .hold → timeline.holder (household.lock owner) = none)
    (next : effect.Reply → Program Unit) {other : Nat}
    (holds : holdsAfter (events (timeline.advance household task owner effect next).log other) =
      true) :
    ∃ job, (timeline.advance household task owner effect next).jobs other = some job ∧
      (timeline.advance household task owner effect next).holder (household.lock job.owner) =
        some other := by
  by_cases same : other = task
  · subst same
    refine ⟨_, jobs_advance_self household timeline other owner effect next, ?_⟩
    rw [Timeline.advance, events_append_self, holdsAfter_append] at holds
    have held (past : holdsAfter (events timeline.log other) = true) :
        timeline.holder (household.lock owner) = some other := by
      obtain ⟨job, there, held⟩ := h.holder past
      obtain rfl := Option.some.inj (runs.symm.trans there)
      exact held
    cases effect with
    | hold => exact Function.update_self _ _ _
    | release => cases holds
    | _ => exact held holds
  · rw [Timeline.advance, events_append_of_ne _ (Ne.symm same)] at holds
    obtain ⟨job, there, held⟩ := h.holder holds
    refine ⟨job, (jobs_advance_of_ne _ _ _ _ _ _ same).trans there, ?_⟩
    -- The lock of the other task is not the one that changes hands.
    cases effect with
    | hold =>
      refine (Function.update_of_ne (fun shared => ?_) _ _).trans held
      rw [shared, free rfl] at held
      cases held
    | release =>
      rw [Timeline.advance, holderAfter]
      split
      next mine =>
        refine (Function.update_of_ne (fun shared => same ?_) _ _).trans held
        rw [shared, mine] at held
        exact (Option.some.inj held).symm
      · exact held
    | _ => exact held

/-- **Performing an effect** keeps a timeline consistent. -/
theorem advance (h : household.Consistent first timeline)
    (runs : timeline.jobs task = some ⟨owner, rest⟩) {effect : Effect}
    (free : effect = .hold → timeline.holder (household.lock owner) = none)
    (next : effect.Reply → Program Unit) :
    household.Consistent first (timeline.advance household task owner effect next) := by
  have sound : (household.keeper owner).IsSound timeline.state :=
    household.isSound_eq owner ▸ h.sound
  refine ⟨?sound, ?answered, ?linked, ?owner, ?began, h.holder_advance runs free next⟩
  case sound => exact household.isSound_eq owner ▸ (household.keeper owner).isSound effect sound
  case answered =>
    intro entry mem
    obtain mem | new := List.mem_append.1 mem
    · exact h.answered entry mem
    · obtain rfl := List.mem_singleton.1 new
      exact ⟨sound, rfl⟩
  case linked =>
    rw [Timeline.advance, List.map_append]
    exact Linked.append.2 ⟨_, h.linked, rfl, rfl⟩
  case owner =>
    intro other job there entry mem own
    obtain old | new := List.mem_append.1 mem
    · by_cases same : other = task
      · subst same
        obtain rfl := Option.some.inj ((jobs_advance_self ..).symm.trans there)
        exact h.owner runs entry old own
      · exact h.owner ((jobs_advance_of_ne _ _ _ _ _ _ same).symm.trans there) entry old own
    · obtain rfl := List.mem_singleton.1 new
      subst own
      obtain rfl := Option.some.inj ((jobs_advance_self ..).symm.trans there)
      rfl
  case began =>
    intro other absent entry mem own
    by_cases same : other = task
    · subst same
      exact nomatch (jobs_advance_self ..).symm.trans absent
    · have absent' := (jobs_advance_of_ne _ _ _ _ _ _ same).symm.trans absent
      obtain mem | new := List.mem_append.1 mem
      · exact h.began absent' entry mem own
      · obtain rfl := List.mem_singleton.1 new
        exact same own.symm

/-- **A step** keeps a timeline consistent. -/
theorem step (h : household.Consistent first timeline) (step : household.Step timeline timeline') :
    household.Consistent first timeline' := by
  cases step with
  | start task owner program fresh errand =>
    have begun {other : Nat} {job : Job ι} (old : timeline.jobs other = some job) :
        Function.update timeline.jobs task (some ⟨owner, program⟩) other = some job := by
      refine (Function.update_of_ne (fun same => ?_) _ _).trans old
      rw [same, fresh] at old
      cases old
    refine ⟨h.sound, h.answered, h.linked, ?owner, ?began, ?holder⟩
    case owner =>
      intro other job there entry mem own
      by_cases same : other = task
      · subst same
        exact absurd own (h.began fresh entry mem)
      · exact h.owner ((Function.update_of_ne same _ _).symm.trans there) entry mem own
    case began =>
      intro other absent
      refine h.began ?_
      by_contra there
      obtain ⟨job, there⟩ := Option.ne_none_iff_exists'.1 there
      exact nomatch (begun there).symm.trans absent
    case holder =>
      intro other holds
      obtain ⟨job, there, held⟩ := h.holder holds
      exact ⟨job, begun there, held⟩
  | perform task owner effect next runs free => exact h.advance runs free next
  | abandon task owner rest error runs holds => exact h.advance runs (by nofun) _
  | elsewhere state sound same =>
    exact ⟨sound, h.answered, same ▸ h.linked, h.owner, h.began, h.holder⟩

/-- **A run** keeps a timeline consistent. -/
theorem run (h : household.Consistent first timeline) (run : household.Run timeline timeline') :
    household.Consistent first timeline' := by
  induction run with
  | refl => exact h
  | tail _ step ih => exact ih.step step

end Consistent

/-! ### Watches -/

namespace Followed

variable {γ : Type} {watch : ι → Watch γ} {mark : γ}

/-- **Performing a permitted effect** follows a watch. -/
theorem advance (h : Followed watch mark timeline)
    {effect : Effect} {next : effect.Reply → Program Unit}
    (granted : (watch owner).grants effect
      ((household.keeper owner).handle effect timeline.state).1)
    (meets : (Program.perform effect next).Meets (watch owner) (fun _ _ => True)
      ((watch owner).markAfter mark (events timeline.log task))) :
    Followed watch mark (timeline.advance household task owner effect next) where
  meets := by
    intro other job there
    rw [Timeline.advance]
    by_cases same : other = task
    · subst same
      obtain rfl := Option.some.inj ((jobs_advance_self ..).symm.trans there)
      rw [events_append_self, Watch.markAfter_append]
      exact meets.2 _ granted
    · rw [events_append_of_ne _ (Ne.symm same)]
      exact h.meets ((jobs_advance_of_ne _ _ _ _ _ _ same).symm.trans there)
  permitted := by
    intro early late entry split
    obtain ⟨rfl, rfl, -⟩ | ⟨_, old, -⟩ := append_singleton_eq split
    · exact meets.1
    · exact h.permitted old

/-- **A step** follows a watch that all errands meet. -/
theorem step (watched : household.Watched watch mark) (sound : household.IsSound timeline.state)
    (began : ∀ {task}, timeline.jobs task = none → ∀ entry ∈ timeline.log, entry.task ≠ task)
    (h : Followed watch mark timeline) (step : household.Step timeline timeline') :
    Followed watch mark timeline' := by
  have granted (owner : ι) (effect : Effect) : (watch owner).grants effect
      ((household.keeper owner).handle effect timeline.state).1 :=
    watched.granted ((household.keeper owner).keyed effect (household.isSound_eq owner ▸ sound))
  cases step with
  | start task owner program fresh errand =>
    refine ⟨fun {other job} there => ?_, h.permitted⟩
    by_cases same : other = task
    · subst same
      obtain rfl := Option.some.inj ((Function.update_self other _ timeline.jobs).symm.trans there)
      have nothing : events timeline.log other = [] := by
        rw [events, List.filter_eq_nil_iff.2, List.map_nil]
        exact fun entry mem own => began fresh entry mem (of_decide_eq_true own)
      rw [nothing]
      exact watched.errand errand
    · exact h.meets ((Function.update_of_ne same _ _).symm.trans there)
  | perform task owner effect next runs free => exact h.advance (granted ..) (h.meets runs)
  | abandon task owner rest error runs holds =>
    exact h.advance (granted ..) ⟨watched.released _, fun _ _ => trivial⟩
  | elsewhere state sound same => exact ⟨h.meets, h.permitted⟩

/-- **A run** follows a watch that all errands meet. -/
theorem run (watched : household.Watched watch mark)
    (consistent : household.Consistent first timeline) (h : Followed watch mark timeline)
    (run : household.Run timeline timeline') :
    Followed watch mark timeline' := by
  induction run with
  | refl => exact h
  | tail earlier step ih =>
    have before := consistent.run earlier
    exact ih.step watched before.sound before.began step

end Followed

/-! ### One at a time -/

/-- **Performing an effect** leaves the store with one task at most. -/
theorem Exclusive.advance (h : Exclusive timeline.log)
    (consistent : household.Consistent first timeline)
    {effect : Effect} {next : effect.Reply → Program Unit}
    (free : effect = .hold → timeline.holder (household.lock owner) = none)
    (apart : household.Apart (timeline.advance household task owner effect next).log) :
    Exclusive (timeline.advance household task owner effect next).log := by
  intro early late split
  obtain rfl | ⟨mid, final, rfl⟩ := List.eq_nil_or_concat late
  · rw [List.append_nil] at split
    subst split
    by_cases takes : effect = .hold
    · subst takes
      have mine {other : Nat} (holds : holdsAfter (events
          (timeline.advance household task owner .hold next).log other) = true) : other = task := by
        by_contra differs
        rw [Timeline.advance, events_append_of_ne _ (Ne.symm differs)] at holds
        obtain ⟨job, there, held⟩ := consistent.holder holds
        obtain ⟨entry, mem, rfl⟩ := exists_of_holdsAfter holds
        have shared := apart _ _ _ rfl rfl entry mem holds
        rw [consistent.owner there entry mem rfl] at shared
        rw [shared, free rfl] at held
        cases held
      exact fun _ _ holds holds' => (mine holds).trans (mine holds').symm
    · have before {other : Nat} (holds : holdsAfter (events
          (timeline.advance household task owner effect next).log other) = true) :
          holdsAfter (events timeline.log other) = true := by
        by_cases same : other = task
        · subst same
          rw [Timeline.advance, events_append_self, holdsAfter_append] at holds
          cases effect with
          | hold => exact absurd rfl takes
          | release => cases holds
          | _ => exact holds
        · rwa [Timeline.advance, events_append_of_ne _ (Ne.symm same)] at holds
      exact fun task other holds holds' =>
        h _ [] (List.append_nil _).symm task other (before holds) (before holds')
  · rw [List.concat_eq_append, ← List.append_assoc] at split
    exact h early mid (List.append_inj' split rfl).1

/-- **The store is held by one task at a time** in every run. -/
theorem exclusive_run {state : σ} (sound : household.IsSound state)
    (run : household.Run (.blank state) timeline) (apart : household.Apart timeline.log) :
    Exclusive timeline.log := by
  induction run with
  | refl =>
    intro early late split task other holds
    obtain ⟨rfl, -⟩ := List.append_eq_nil_iff.1 split.symm
    cases holds
  | tail earlier step ih =>
    have consistent := (Consistent.blank sound).run earlier
    cases step with
    | start task owner program fresh errand => exact ih apart
    | perform task owner effect next runs free =>
      exact (ih apart.before).advance consistent free apart
    | abandon task owner rest error runs holds =>
      exact (ih apart.before).advance consistent (by nofun) apart
    | elsewhere state sound same => exact ih apart

/-! ### Histories -/

/-- **The log of a run** is a history. -/
theorem history_run {γ : Type} {watch : ι → Watch γ} {mark : γ}
    (watched : household.Watched watch mark) {state : σ} (sound : household.IsSound state)
    (run : household.Run (.blank state) timeline) :
    household.History watch mark (household.stored state) timeline.log
      (household.stored timeline.state) := by
  have consistent := (Consistent.blank sound).run run
  refine ⟨consistent.answered, consistent.linked, ?_,
    (Followed.blank.run watched (.blank sound) run).permitted⟩
  intro entry mem other mem' same
  cases there : timeline.jobs entry.task with
  | none => exact absurd rfl (consistent.began there entry mem)
  | some job =>
    exact (consistent.owner there entry mem rfl).trans
      (consistent.owner there other mem' same.symm).symm

end

end Household

end GatewaySession
