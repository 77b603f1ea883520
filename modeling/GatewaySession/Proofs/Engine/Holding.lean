import GatewaySession.Proofs.Engine.Timeline
import GatewaySession.Proofs.Session.Handling
import Mathlib.Data.List.Induction

/-!
# Holding the store

Whoever holds the store of a timeline has the slots to himself: nobody else writes or removes then.
So what a task has seen in a slot since it got hold of the store is there, and what was in the slot
stays there while the task spares it. Taking the refresh token out is such a time: it either removes
what it has seen, or it fails and leaves the slot as it was.

## Main definitions

* `Household.hand` — what a task has in hand of the refresh token

## Main results

* `Household.exists_removal` — what is in hand was seen and removed
* `Household.seen_stored` — what a task has seen while it holds the store is there
* `Household.History.slot_eq_of_failed` — where taking the token out fails, the slot is as it was
* `Household.exists_run` — no task keeps itself from going on
-/

namespace GatewaySession

namespace Household

variable {ι κ σ : Type} {vault : Vault} {key : Aes256.Key}

/-! ### What a task has in hand -/

section

variable {slotKey : String}

/-- What a task has in hand of the refresh token, where the slot has a storage key. -/
def hand (slotKey : String) (log : List (Entry ι σ)) (task : Nat) : Hand :=
  (events log task).foldl (fun hand event => hand.after slotKey event.effect event.reply) .empty

theorem hand_append_self (log : List (Entry ι σ)) (entry : Entry ι σ) :
    hand slotKey (log ++ [entry]) entry.task =
      (hand slotKey log entry.task).after slotKey entry.effect entry.reply := by
  rw [hand, events_append_self, List.foldl_append]
  rfl

theorem hand_append_of_ne (log : List (Entry ι σ)) {entry : Entry ι σ} {task : Nat}
    (other : entry.task ≠ task) : hand slotKey (log ++ [entry]) task = hand slotKey log task := by
  rw [hand, events_append_of_ne _ other, hand]

/-- Whether the store is held does not depend on the slot. -/
theorem holding_hand (log : List (Entry ι σ)) (task : Nat) :
    (hand slotKey log task).holding = holdsAfter (events log task) := by
  rw [hand]
  induction events log task using List.reverseRecOn with
  | nil => rfl
  | append_singleton past event ih =>
    rw [List.foldl_append, holdsAfter_append, ← ih]
    exact Hand.holding_after _ _

/-- **What is in hand** was seen and removed, and the task has presented nothing since. -/
theorem exists_removal {log : List (Entry ι σ)} {n task : Nat} {blob : Bytes}
    (out : (hand slotKey (log.take n) task).out = some blob) :
    ∃ taken < n, ∃ removal, log[taken]? = some removal ∧ removal.task = task ∧
      removal.toEvent = ⟨.remove slotKey, .ok ()⟩ ∧
      (hand slotKey (log.take taken) task).seen = some blob ∧
      ∀ m entry, taken < m → m < n → log[m]? = some entry → entry.task = task →
        entry.effect.isRefresh = false := by
  induction n with
  | zero => cases out
  | succ n ih =>
    -- The last entry is the removal, or it presents nothing.
    have last : (∃ removal, log[n]? = some removal ∧ removal.task = task ∧
          removal.toEvent = ⟨.remove slotKey, .ok ()⟩ ∧
          (hand slotKey (log.take n) task).seen = some blob) ∨
        (hand slotKey (log.take n) task).out = some blob ∧
          ∀ entry, log[n]? = some entry → entry.task = task → entry.effect.isRefresh = false := by
      rw [List.take_add_one] at out
      cases there : log[n]? with
      | none =>
        rw [there, Option.toList_none, List.append_nil] at out
        exact .inr ⟨out, fun _ same => nomatch same⟩
      | some entry =>
        rw [there, Option.toList_some] at out
        by_cases own : entry.task = task
        · subst own
          rw [hand_append_self] at out
          obtain ⟨removed, seen⟩ | ⟨before, quiet⟩ := Hand.out_after out
          · exact .inl ⟨entry, rfl, rfl, removed, seen⟩
          · refine .inr ⟨before, fun other same _ => ?_⟩
            obtain rfl := Option.some.inj same
            exact quiet
        · rw [hand_append_of_ne _ own] at out
          refine .inr ⟨out, fun other same own' => absurd own' ?_⟩
          obtain rfl := Option.some.inj same
          exact own
    obtain ⟨removal, there, own, removed, seen⟩ | ⟨before, quiet⟩ := last
    · refine ⟨n, n.lt_succ_self, removal, there, own, removed, seen, ?_⟩
      intro m entry later within
      exact absurd (Nat.lt_succ_iff.1 within) (Nat.not_le.2 later)
    · obtain ⟨taken, less, removal, there, own, removed, seen, since⟩ := ih before
      refine ⟨taken, Nat.lt_succ_of_lt less, removal, there, own, removed, seen, ?_⟩
      intro m entry later within
      obtain within | rfl := Nat.lt_succ_iff_lt_or_eq.1 within
      · exact since m entry later within
      · exact quiet entry

end

/-! ### What is stored -/

section

variable (household : Household ι κ σ vault key)

/-- The watch over the refresh token, for each of the sessions. -/
abbrev handling (owner : ι) : Watch Hand := (household.session owner).handling key

/-- **All errands** meet the watch. -/
theorem watched_handling : household.Watched household.handling .empty where
  errand errand := ((Session.handling_whole key).errand errand .empty ⟨rfl, trivial⟩).mono
    fun _ _ _ => trivial
  granted {owner _ _} granted := by
    rw [← household.vault_eq owner] at granted
    exact granted
  released _ := trivial

variable {household} {first last : String → Option Bytes} {log early late : List (Entry ι σ)}
  {entry : Entry ι σ}

namespace History

variable (h : household.History household.handling .empty first log last)

include h

/-- What is done is permitted with what the task has in hand. -/
theorem handles (split : log = early ++ entry :: late) :
    (household.session entry.owner).Handles key
      (hand (vault.keyFor .refreshToken) early entry.task) entry.effect := by
  have permitted : (household.session entry.owner).Handles key
      (hand ((household.session entry.owner).vault.keyFor .refreshToken) early entry.task)
      entry.effect := h.permitted split
  rwa [household.vault_eq] at permitted

/-- **Nobody else writes or removes** while a task holds the store. -/
theorem stored_eq_of_holds (exclusive : Exclusive log) (split : log = early ++ entry :: late)
    {task : Nat} (holds : holdsAfter (events early task) = true) (other : entry.task ≠ task)
    (name : String) :
    household.stored entry.after name = household.storedAfter first early name := by
  have mine (holding : (hand (vault.keyFor .refreshToken) early entry.task).holding = true) :
      entry.task = task := by
    rw [holding_hand] at holding
    exact exclusive early (entry :: late) split _ _ holding holds
  have permitted := h.handles split
  refine h.stored_eq split (fun value write => ?_) fun remove => ?_
  · rw [write] at permitted
    exact other (mine permitted)
  · rw [remove] at permitted
    exact other (mine permitted)

end History

/-- **What a task has seen** while it holds the store is there. -/
theorem seen_stored (h : household.History household.handling .empty first log last)
    (exclusive : Exclusive log) {task : Nat} {blob : Bytes}
    (seen : (hand (vault.keyFor .refreshToken) log task).seen = some blob) :
    holdsAfter (events log task) = true ∧
      household.storedAfter first log (vault.keyFor .refreshToken) = some blob := by
  induction log using List.reverseRecOn generalizing last with
  | nil => cases seen
  | append_singleton log entry ih =>
    obtain ⟨between, earlier⟩ := h.before
    have exclusive' : Exclusive log := fun early late split =>
      exclusive early (late ++ [entry]) (by rw [split, List.append_assoc])
    have mem : entry ∈ log ++ [entry] := List.mem_append_right _ List.mem_cons_self
    rw [storedAfter_append]
    by_cases own : entry.task = task
    · subst own
      rw [hand_append_self] at seen
      rw [events_append_self, holdsAfter_append]
      obtain ⟨holding, found⟩ | ⟨before, kept, left, noHold, noRelease⟩ := Hand.seen_after seen
      · have reads : entry.effect = .read (vault.keyFor .refreshToken) :=
          congrArg Event.effect found
        rw [holding_hand] at holding
        rw [h.stored_eq rfl (by rw [reads]; nofun) (by rw [reads]; nofun), reads]
        exact ⟨holding, (h.found rfl found).symm⟩
      · obtain ⟨holds, filled⟩ := ih earlier exclusive' before
        rw [h.stored_eq rfl kept left, Effect.holds_of_ne noHold noRelease]
        exact ⟨holds, filled⟩
    · rw [hand_append_of_ne _ own] at seen
      rw [events_append_of_ne _ own]
      obtain ⟨holds, filled⟩ := ih earlier exclusive' seen
      exact ⟨holds, (h.stored_eq_of_holds exclusive rfl holds own _).trans filled⟩

/-! ### Takes that fail -/

/-- The store is held for as long as it is not let go of. -/
theorem holdsAfter_of_spares {slotKey : String} {past since : List Event}
    (held : holdsAfter past = true) (spares : ∀ event ∈ since, Session.Spares slotKey event) :
    holdsAfter (past ++ since) = true := by
  induction since using List.reverseRecOn with
  | nil => rwa [List.append_nil]
  | append_singleton since event ih =>
    obtain ⟨effect, reply⟩ := event
    have spared := spares ⟨effect, reply⟩ (List.mem_append_right _ List.mem_cons_self)
    have before := ih fun event mem => spares event (List.mem_append_left _ mem)
    rw [← List.append_assoc, holdsAfter_append, before]
    cases effect with
    | release => exact spared.elim
    | _ => rfl

section

variable (h : household.History household.handling .empty first log last)
  (exclusive : Exclusive log)

include h exclusive

/-- **What is in the slot stays there** while a task holds the store and spares the slot, unless a
removal that was reported as failed has removed it. -/
theorem History.slot_eq_of_spares {mid : List (Entry ι σ)} {task : Nat}
    (split : log = early ++ (mid ++ late)) (held : holdsAfter (events early task) = true)
    (spares : ∀ event ∈ events mid task, Session.Spares (vault.keyFor .refreshToken) event)
    (honest : ∀ entry ∈ mid, entry.task = task → ∀ source,
      entry.toEvent = ⟨.remove (vault.keyFor .refreshToken), .error source⟩ →
        household.stored entry.after (vault.keyFor .refreshToken) =
          household.stored entry.before (vault.keyFor .refreshToken)) :
    household.storedAfter first (early ++ mid) (vault.keyFor .refreshToken) =
      household.storedAfter first early (vault.keyFor .refreshToken) := by
  induction mid using List.reverseRecOn generalizing late with
  | nil => rw [List.append_nil]
  | append_singleton mid entry ih =>
    rw [events_append] at spares
    have split' : log = (early ++ mid) ++ entry :: late := by rw [split]; simp
    have mem : entry ∈ mid ++ [entry] := List.mem_append_right _ List.mem_cons_self
    have before := ih (split'.trans (List.append_assoc ..))
      (fun event mem => spares event (List.mem_append_left _ mem))
      (fun entry mem => honest entry (List.mem_append_left _ mem))
    rw [← List.append_assoc, storedAfter_append, ← before]
    by_cases own : entry.task = task
    · subst own
      have spared := spares entry.toEvent (List.mem_append_right _ (mem_events List.mem_cons_self))
      obtain ⟨kept, left | ⟨source, failed⟩⟩ := spared.cases
      · exact h.stored_eq split' kept left
      · rw [honest entry mem rfl source failed, h.before_eq split']
    · refine h.stored_eq_of_holds exclusive split' ?_ own _
      rw [events_append]
      exact holdsAfter_of_spares held fun event mem => spares event (List.mem_append_left _ mem)

/-- **When taking the refresh token out fails**, what was in the slot is there afterwards. -/
theorem History.slot_eq_of_failed {taker final : Entry ι σ} {body : List (Entry ι σ)}
    {error : Error} (split : log = early ++ taker :: (body ++ final :: late))
    (own : final.task = taker.task)
    (ends : (household.session taker.owner).takeRefreshToken.Ends
      (events (taker :: (body ++ [final])) taker.task) (.error error))
    (honest : ∀ entry ∈ body, entry.task = taker.task → ∀ source,
      entry.toEvent = ⟨.remove (vault.keyFor .refreshToken), .error source⟩ →
        household.stored entry.after (vault.keyFor .refreshToken) =
          household.stored entry.before (vault.keyFor .refreshToken)) :
    household.storedAfter first (early ++ taker :: (body ++ [final])) (vault.keyFor .refreshToken) =
      household.storedAfter first early (vault.keyFor .refreshToken) := by
  obtain ⟨within, path, spares⟩ := Session.ends_takeRefreshToken_error ends
  rw [household.vault_eq] at spares
  have shape : events (taker :: (body ++ [final])) taker.task =
      taker.toEvent :: (events body taker.task ++ [final.toEvent]) := by
    rw [events_cons_self, events_append, ← own, events_cons_self]
    rfl
  obtain ⟨taken, inner⟩ := List.cons.inj (shape.symm.trans path)
  obtain ⟨rfl, released⟩ := List.append_inj' inner rfl
  have takes : taker.effect = .hold := congrArg Event.effect taken
  have lets : final.effect = .release := congrArg Event.effect (List.head_eq_of_cons_eq released)
  have held : holdsAfter (events (early ++ [taker]) taker.task) = true := by
    rw [events_append_self, holdsAfter_append, takes]
    rfl
  have whole : early ++ taker :: (body ++ [final]) = (early ++ [taker] ++ body) ++ [final] := by
    simp
  -- Neither taking hold of the store nor letting go of it changes what is stored.
  have first' : household.storedAfter first (early ++ [taker]) (vault.keyFor .refreshToken) =
      household.storedAfter first early (vault.keyFor .refreshToken) := by
    rw [storedAfter_append]
    exact h.stored_eq split (by rw [takes]; nofun) (by rw [takes]; nofun)
  have split' : log = (early ++ [taker] ++ body) ++ final :: late := by
    rw [split]
    simp
  have last' : household.stored final.after (vault.keyFor .refreshToken) =
      household.storedAfter first (early ++ [taker] ++ body) (vault.keyFor .refreshToken) :=
    h.stored_eq split' (by rw [lets]; nofun) (by rw [lets]; nofun)
  have between := h.slot_eq_of_spares exclusive (split'.trans (List.append_assoc ..)) held spares
    honest
  rw [whole, storedAfter_append, last', between, first']

end

end

/-! ### Going on -/

/-- **A task that begins when nobody holds the lock** is never kept from going on, and may run to
its end. -/
theorem exists_run [DecidableEq κ] {household : Household ι κ σ vault key} {owner : ι}
    {program : Program Unit} {hand : Hand} (task : Nat) {timeline : Timeline ι κ σ}
    (sound : household.IsSound timeline.state)
    (runs : timeline.jobs task = some ⟨owner, program⟩)
    (meets : program.Meets (household.handling owner) (fun _ _ => True) hand)
    (lock : timeline.holder (household.lock owner) = if hand.holding then some task else none) :
    ∃ timeline', household.Run timeline timeline' ∧ timeline'.log.map (·.effect) =
      timeline.log.map (·.effect) ++
        program.effects (household.keeper owner).handle timeline.state := by
  induction program generalizing timeline hand with
  | done result => exact ⟨timeline, .refl, (List.append_nil _).symm⟩
  | perform effect next ih =>
    obtain ⟨permitted, rest⟩ := meets
    have own : (household.keeper owner).IsSound timeline.state :=
      household.isSound_eq owner ▸ sound
    have sound' : household.IsSound (timeline.advance household task owner effect next).state :=
      household.isSound_eq owner ▸ (household.keeper owner).isSound effect own
    have granted : (household.handling owner).grants effect
        ((household.keeper owner).handle effect timeline.state).1 :=
      household.watched_handling.granted ((household.keeper owner).keyed effect own)
    have free (holds : effect = .hold) : timeline.holder (household.lock owner) = none := by
      subst holds
      rw [lock, show hand.holding = false from permitted]
      rfl
    have lock' : holderAfter timeline.holder (household.lock owner) task effect
        (household.lock owner) = if effect.holds hand.holding then some task else none := by
      cases effect with
      | hold => exact Function.update_self _ _ _
      | release =>
        rw [holderAfter]
        split
        · exact Function.update_self _ _ _
        next other =>
          rw [lock] at other ⊢
          cases holding : hand.holding with
          | true => exact absurd (if_pos holding) other
          | false => rfl
      | _ => exact lock
    rw [← Hand.holding_after] at lock'
    obtain ⟨timeline', run, same⟩ :=
      ih _ sound' (jobs_advance_self ..) (rest _ granted) lock'
    refine ⟨timeline', .head (.perform timeline task owner effect next runs free) run, ?_⟩
    rw [same, Timeline.advance, List.map_append, List.append_assoc]
    rfl

/-- **An errand** that a session is asked for when nothing else runs may run to its end. -/
theorem exists_run_errand [DecidableEq κ] {household : Household ι κ σ vault key} {owner : ι}
    {program : Program Unit} (state : σ) (sound : household.IsSound state)
    (errand : (household.session owner).Errand program) :
    ∃ timeline, household.Run (.blank state) timeline ∧
      timeline.log.map (·.effect) = program.effects (household.keeper owner).handle state := by
  let begun : Timeline ι κ σ :=
    { (.blank state : Timeline ι κ σ) with
      jobs := Function.update (fun _ => none) 0 (some ⟨owner, program⟩) }
  have start : household.Step (.blank state) begun :=
    .start (.blank state) 0 owner program rfl errand
  have runs : begun.jobs 0 = some ⟨owner, program⟩ := rfl
  obtain ⟨timeline, run, same⟩ :=
    exists_run 0 sound runs (household.watched_handling.errand errand) rfl
  exact ⟨timeline, .head start run, same⟩

end Household

end GatewaySession
