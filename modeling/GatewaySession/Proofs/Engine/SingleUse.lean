import GatewaySession.Proofs.Engine.Holding
import GatewaySession.Proofs.Exchange.Between
import Mathlib.Data.Set.Card

/-!
# Refresh tokens are presented once

Many tasks work with one vault, and any of them may take the refresh token out and present it. What
a task removes is what it has seen while it held the store, and what it presents is what it has
removed. Here the log of such a run is read position by position.

A record is known by the position of the log at which it was stored. Each presented token belongs
to the record that was stored last when it was taken out. After that the slot is empty until
something is stored again, so no record is presented twice, and there are no more presentations
than records.

## Main definitions

* `Household.StoresAt`, `Household.slotAt` — what is stored at a position, and what is in the slot
* `Household.LastStored` — the record that was stored last
* `Household.Presents`, `Household.Spends` — a refresh token is presented, and belongs to a record
* `Household.SpentOnce` — what is said of a log

## Main results

* `Household.History.exists_storesAt` — what comes into the slot was stored in between
* `Household.History.exists_spends` — every token that is presented belongs to a record
* `Household.refreshToken_spent_once` — and no two belong to the same
-/

namespace GatewaySession

namespace Household

variable {ι κ σ : Type} {vault : Vault} {key : Aes256.Key}

/-! ### Records -/

section

variable {household : Household ι κ σ vault key} {first last : String → Option Bytes}
  {log early late : List (Entry ι σ)} {entry : Entry ι σ}

/-- The last of a prefix that grows by one. -/
theorem storedAfter_take {n : Nat} (there : log[n]? = some entry) :
    household.storedAfter first (log.take (n + 1)) = household.stored entry.after := by
  rw [List.take_add_one, there, Option.toList_some, storedAfter_append]

theorem storedAfter_take_of_none {n : Nat} (none : log[n]? = none) :
    household.storedAfter first (log.take (n + 1)) = household.storedAfter first (log.take n) := by
  rw [List.take_add_one, none, Option.toList_none, List.append_nil]

/-- An entry splits the log. -/
theorem split_of_getElem? {n : Nat} (there : log[n]? = some entry) :
    log = log.take n ++ entry :: log.drop (n + 1) := by
  obtain ⟨less, rfl⟩ := List.getElem?_eq_some_iff.1 there
  rw [← List.drop_eq_getElem_cons less, List.take_append_drop]

section

variable (household) (first log)

/-- Whether a blob is stored as the refresh token at a position of the log. -/
def StoresAt (n : Nat) (blob : Bytes) : Prop :=
  ∃ entry, log[n]? = some entry ∧
    entry.toMoment.Stores household.stored (vault.keyFor .refreshToken) blob

/-- What is in the slot of the refresh token before a position of the log. -/
def slotAt (n : Nat) : Option Bytes :=
  household.storedAfter first (log.take n) (vault.keyFor .refreshToken)

/-- Whether a record is the last that was stored before a position. A record is known by the
position at which it was stored; the one that was there at first has none. -/
def LastStored (n : Nat) : Option Nat → Prop
  | some k => k < n ∧ (∃ blob, household.StoresAt log k blob) ∧
      ∀ j, k < j → j < n → ∀ blob, ¬household.StoresAt log j blob
  | none => ∀ j < n, ∀ blob, ¬household.StoresAt log j blob

/-- Whether a record consists of a blob. -/
def Consists (blob : Bytes) : Option Nat → Prop
  | some k => household.StoresAt log k blob
  | none => first (vault.keyFor .refreshToken) = some blob

end

/-- There is always one that was stored last, or nothing was stored yet. -/
theorem exists_lastStored (household : Household ι κ σ vault key) (log : List (Entry ι σ))
    (n : Nat) : ∃ record, household.LastStored log n record := by
  induction n with
  | zero => exact ⟨none, fun _ less => absurd less (Nat.not_lt_zero _)⟩
  | succ n ih =>
    by_cases stores : ∃ blob, household.StoresAt log n blob
    · refine ⟨some n, n.lt_succ_self, stores, fun j later within => ?_⟩
      exact absurd (Nat.lt_succ_iff.1 within) (Nat.not_le.2 later)
    obtain ⟨record, last⟩ := ih
    have here (j : Nat) (within : j < n + 1) (earlier : j < n → ∀ blob,
        ¬household.StoresAt log j blob) : ∀ blob, ¬household.StoresAt log j blob := by
      obtain less | rfl := Nat.lt_succ_iff_lt_or_eq.1 within
      · exact earlier less
      · exact fun blob there => stores ⟨blob, there⟩
    cases record with
    | none => exact ⟨none, fun j within => here j within (last j)⟩
    | some k =>
      obtain ⟨less, filled, since⟩ := last
      exact ⟨some k, less.trans n.lt_succ_self, filled,
        fun j later within => here j within (since j later)⟩

namespace History

variable {γ : Type} {watch : ι → Watch γ} {mark : γ}
  (h : household.History watch mark first log last)

include h

/-- **What comes into the slot** was stored there at a position in between. -/
theorem exists_storesAt {n m : Nat} {blob : Bytes} (le : n ≤ m)
    (absent : household.slotAt first log n ≠ some blob)
    (present : household.slotAt first log m = some blob) :
    ∃ k, n ≤ k ∧ k < m ∧ household.StoresAt log k blob := by
  induction m, le using Nat.le_induction with
  | base => exact absurd present absent
  | succ m le ih =>
    by_cases before : household.slotAt first log m = some blob
    · obtain ⟨k, later, less, stores⟩ := ih before
      exact ⟨k, later, less.trans m.lt_succ_self, stores⟩
    cases there : log[m]? with
    | none =>
      rw [slotAt, storedAfter_take_of_none there] at present
      exact absurd present before
    | some entry =>
      rw [slotAt, storedAfter_take there] at present
      rw [slotAt, ← h.before_eq (split_of_getElem? there)] at before
      have leaves := h.leaves (List.mem_of_getElem? there)
      exact ⟨m, le, m.lt_succ_self, entry, there, leaves.eq_write before present, present⟩

/-- What is in the slot is what the last record consists of. -/
theorem consists {n : Nat} {blob : Bytes} {record : Option Nat}
    (filled : household.slotAt first log n = some blob)
    (lastStored : household.LastStored log n record) :
    household.Consists first log blob record := by
  by_contra other
  cases record with
  | none =>
    obtain ⟨k, -, less, stores⟩ := h.exists_storesAt (Nat.zero_le n) other filled
    exact lastStored k less blob stores
  | some k =>
    obtain ⟨less, ⟨blob', entry, there, effect, stored⟩, since⟩ := lastStored
    have absent : household.slotAt first log (k + 1) ≠ some blob := by
      intro same
      rw [slotAt, storedAfter_take there] at same
      obtain rfl := Option.some.inj (stored.symm.trans same)
      exact other ⟨entry, there, effect, stored⟩
    obtain ⟨j, later, within, stores⟩ := h.exists_storesAt less absent filled
    exact since j later within blob stores

/-- A record that was removed is not the last when the slot is filled again. -/
theorem ne_of_removed {n m : Nat} {record kept : Option Nat} (less : n < m)
    (removed : household.slotAt first log (n + 1) = none)
    (filled : household.slotAt first log m ≠ none) (lastStored : household.LastStored log n record)
    (lastStored' : household.LastStored log m kept) : record ≠ kept := by
  rintro rfl
  obtain ⟨blob, present⟩ := Option.ne_none_iff_exists'.1 filled
  obtain ⟨k, later, within, stores⟩ := h.exists_storesAt less
    (fun same => nomatch removed.symm.trans same) present
  cases record with
  | none => exact lastStored' k within blob stores
  | some j =>
    have before := lastStored.1
    exact lastStored'.2.2 k (by omega) within blob stores

end History

/-! ### Presentations -/

/-- Whether a refresh token is presented to the gateway at a position of the log. -/
def Presents (log : List (Entry ι σ)) (n : Nat) : Prop :=
  ∃ entry, log[n]? = some entry ∧ entry.effect.isRefresh = true

section

variable (household) (first log)

/-- Whether the token that is presented at a position belongs to a record, which was taken out at an
earlier position. -/
structure Spends (n taken : Nat) (record : Option Nat) : Prop where
  /-- It was taken out earlier. -/
  earlier : taken < n
  /-- The task that presents the token has taken it out: it has removed the blob of the record, and
  what it presents is the content of that blob. -/
  own : ∃ removal sent connection request blob token, log[taken]? = some removal ∧
    log[n]? = some sent ∧ removal.task = sent.task ∧
    removal.toEvent = ⟨.remove (vault.keyFor .refreshToken), .ok ()⟩ ∧
    sent.effect = .send connection (.grant .refreshToken) request ∧
    household.slotAt first log taken = some blob ∧ household.Consists first log blob record ∧
    vault.content? key blob = some token ∧
    (household.session sent.owner).Carries request (Session.refreshParams token)
  /-- The record was the last that was stored. -/
  last : household.LastStored log taken record
  /-- It is gone: whatever is in the slot afterwards was stored since. -/
  gone : ∀ m, taken < m → ∀ blob, household.slotAt first log m = some blob →
    ∃ k, taken < k ∧ k < m ∧ household.StoresAt log k blob
  /-- The task has presented nothing in between. -/
  once : ∀ m removal sent, taken < m → m < n → log[taken]? = some removal → log[m]? = some sent →
    sent.task = removal.task → sent.effect.isRefresh = false

end

namespace History

variable (h : household.History household.handling .empty first log last)
  (exclusive : Exclusive log)

include h exclusive

/-- **Every token that is presented** belongs to a record. -/
theorem exists_spends {n : Nat} (presents : Presents log n) :
    ∃ taken record, household.Spends first log n taken record := by
  obtain ⟨sent, there, refresh⟩ := presents
  obtain ⟨connection, request, effect⟩ := Effect.eq_refresh refresh
  have permitted := h.handles (split_of_getElem? there)
  rw [effect] at permitted
  obtain ⟨blob, token, out, content, carries⟩ := permitted
  rw [household.vault_eq] at content
  obtain ⟨taken, less, removal, there', own, removed, seen, since⟩ := exists_removal out
  obtain ⟨record, lastStored⟩ := exists_lastStored household log taken
  -- What the task had seen was there, so it is the last record.
  obtain ⟨_, earlier⟩ := (split_of_getElem? there' ▸ h).before
  have filled := (seen_stored earlier (fun early late split => exclusive early
    (late ++ log.drop taken) (by rw [← List.append_assoc, ← split, List.take_append_drop])) seen).2
  have empty : household.slotAt first log (taken + 1) = none := by
    rw [slotAt, storedAfter_take there']
    exact (h.leaves (List.mem_of_getElem? there')).removed removed
  refine ⟨taken, record, less, ?own, lastStored, ?gone, ?once⟩
  case own =>
    exact ⟨removal, sent, connection, request, blob, token, there', there, own, removed, effect,
      filled, h.consists filled lastStored, content, carries⟩
  case gone =>
    intro m later blob' present
    exact h.exists_storesAt later (fun same => nomatch empty.symm.trans same) present
  case once =>
    intro m removal' other later within same there mine
    obtain rfl := Option.some.inj (there'.symm.trans same)
    exact since m other later within there (mine.trans own)

end History

/-- The slot is empty after a record was taken out. -/
theorem Spends.removed {n taken : Nat} {record : Option Nat}
    (spends : household.Spends first log n taken record) :
    household.slotAt first log (taken + 1) = none := by
  by_contra present
  obtain ⟨blob, present⟩ := Option.ne_none_iff_exists'.1 present
  obtain ⟨k, later, within, -⟩ := spends.gone _ taken.lt_succ_self blob present
  omega

/-- Records that were taken out one after the other are different. -/
theorem History.spends_ne {γ : Type} {watch : ι → Watch γ} {mark : γ}
    (h : household.History watch mark first log last) {n m taken taken' : Nat}
    {record record' : Option Nat} (spends : household.Spends first log n taken record)
    (spends' : household.Spends first log m taken' record') (less : taken < taken') :
    record ≠ record' := by
  obtain ⟨_, _, _, _, blob, _, -, -, -, -, -, filled, -⟩ := spends'.own
  exact h.ne_of_removed less spends.removed (filled ▸ Option.some_ne_none blob) spends.last
    spends'.last

/-- What is taken out once is presented once. -/
theorem Spends.not_lt {n m taken : Nat} {record record' : Option Nat}
    (spends : household.Spends first log n taken record)
    (spends' : household.Spends first log m taken record') (presents : Presents log n) :
    ¬n < m := by
  intro less
  obtain ⟨removal, sent, _, _, _, _, there, there', own, -⟩ := spends.own
  obtain ⟨entry, same, refresh⟩ := presents
  obtain rfl := Option.some.inj (there'.symm.trans same)
  have quiet := spends'.once n removal sent spends.earlier less there there' own.symm
  rw [refresh] at quiet
  cases quiet

/-- **There are no more presentations than records** if no two are of the same record. -/
theorem ncard_presents_le {taken : Nat → Nat} {record : Nat → Option Nat}
    (spends : ∀ n, Presents log n → household.Spends first log n (taken n) (record n))
    (distinct : ∀ n m, Presents log n → Presents log m → record n = record m → n = m) :
    {n | Presents log n}.ncard ≤ {k | ∃ blob, household.StoresAt log k blob}.ncard +
      (first (vault.keyFor .refreshToken)).isSome.toNat := by
  have finite : {k | ∃ blob, household.StoresAt log k blob}.Finite := by
    refine (Set.finite_lt_nat log.length).subset ?_
    rintro k ⟨blob, entry, there, -⟩
    exact (List.getElem?_eq_some_iff.1 there).1
  let atFirst : Set (Option Nat) :=
    {record | record = none ∧ (first (vault.keyFor .refreshToken)).isSome}
  have few : atFirst.Finite := (Set.finite_singleton none).subset fun _ mem => mem.1
  have count : atFirst.ncard ≤ (first (vault.keyFor .refreshToken)).isSome.toNat := by
    cases there : (first (vault.keyFor .refreshToken)).isSome with
    | false =>
      have empty : atFirst = ∅ := Set.eq_empty_of_forall_notMem fun _ mem =>
        absurd (there.symm.trans mem.2) (by decide)
      rw [empty, Set.ncard_empty]
      exact Nat.zero_le _
    | true => exact (Set.ncard_le_ncard (fun _ mem => mem.1)).trans (Set.ncard_singleton none).le
  have maps : ∀ n ∈ {n | Presents log n},
      record n ∈ some '' {k | ∃ blob, household.StoresAt log k blob} ∪ atFirst := by
    intro n presents
    obtain ⟨_, _, _, _, blob, _, -, -, -, -, -, -, consists, -⟩ := (spends n presents).own
    cases same : record n with
    | none =>
      rw [same] at consists
      exact .inr ⟨rfl, Option.isSome_iff_exists.2 ⟨blob, consists⟩⟩
    | some k =>
      rw [same] at consists
      exact .inl ⟨k, ⟨blob, consists⟩, rfl⟩
  have one : Set.InjOn record {n | Presents log n} := fun n first m second =>
    distinct n m first second
  calc {n | Presents log n}.ncard
      ≤ (some '' {k | ∃ blob, household.StoresAt log k blob} ∪ atFirst).ncard :=
        Set.ncard_le_ncard_of_injOn record maps one ((finite.image some).union few)
    _ ≤ (some '' {k | ∃ blob, household.StoresAt log k blob}).ncard + atFirst.ncard :=
        Set.ncard_union_le _ _
    _ ≤ _ := by
        rw [Set.ncard_image_of_injective _ (Option.some_injective _)]
        exact Nat.add_le_add_left count _

section

variable (household) (first log)

/-- What is said of a log about the refresh tokens in it. Each position at which one is presented
has one at which it was taken out, and a record. -/
structure SpentOnce (taken : Nat → Nat) (record : Nat → Option Nat) : Prop where
  /-- What is presented belongs to the record, which is gone from the store by then. -/
  spends : ∀ n, Presents log n → household.Spends first log n (taken n) (record n)
  /-- No record is presented twice. -/
  distinct : ∀ n m, Presents log n → Presents log m → record n = record m → n = m
  /-- There are no more presentations than records, with the one that was there at first. -/
  bounded : {n | Presents log n}.ncard ≤ {k | ∃ blob, household.StoresAt log k blob}.ncard +
    (first (vault.keyFor .refreshToken)).isSome.toNat
  /-- The record that is in the slot at any time has not been presented. -/
  unspent : ∀ m kept, household.slotAt first log m ≠ none → household.LastStored log m kept →
    ∀ n < m, Presents log n → record n ≠ kept
  /-- Where taking the token out fails, the record is in the slot afterwards as it was before, if
  removals that fail do not remove. -/
  failed : ∀ early taker body final late error, log = early ++ taker :: (body ++ final :: late) →
    final.task = taker.task → (household.session taker.owner).takeRefreshToken.Ends
      (events (taker :: (body ++ [final])) taker.task) (.error error) →
    (∀ entry ∈ body, entry.task = taker.task → ∀ source,
      entry.toEvent = ⟨.remove (vault.keyFor .refreshToken), .error source⟩ →
        household.stored entry.after (vault.keyFor .refreshToken) =
          household.stored entry.before (vault.keyFor .refreshToken)) →
    household.slotAt first log (early.length + (body.length + 2)) =
      household.slotAt first log early.length

end

/-- **Refresh tokens are presented once.** -/
theorem refreshToken_spent_once [DecidableEq κ] {state : σ} {timeline : Timeline ι κ σ}
    (sound : household.IsSound state) (run : household.Run (.blank state) timeline)
    (apart : household.Apart timeline.log) :
    ∃ taken record, household.SpentOnce (household.stored state) timeline.log taken record := by
  have h := history_run household.watched_handling sound run
  have exclusive := exclusive_run sound run apart
  have exists_spends (n : Nat) : ∃ taken record, Presents timeline.log n →
      household.Spends (household.stored state) timeline.log n taken record := by
    by_cases presents : Presents timeline.log n
    · obtain ⟨taken, record, spends⟩ := h.exists_spends exclusive presents
      exact ⟨taken, record, fun _ => spends⟩
    · exact ⟨0, none, fun absurd => (presents absurd).elim⟩
  choose taken record spends using exists_spends
  have distinct (n m : Nat) (first : Presents timeline.log n) (second : Presents timeline.log m)
      (same : record n = record m) : n = m := by
    have one := spends n first
    have other := spends m second
    obtain less | same' | less := Nat.lt_trichotomy (taken n) (taken m)
    · exact absurd same (h.spends_ne one other less)
    · rw [same'] at one
      exact Nat.le_antisymm (Nat.not_lt.1 (other.not_lt one second))
        (Nat.not_lt.1 (one.not_lt other first))
    · exact absurd same.symm (h.spends_ne other one less)
  refine ⟨taken, record, spends, distinct, ?bounded, ?unspent, ?failed⟩
  case bounded => exact ncard_presents_le spends distinct
  case unspent =>
    intro m kept filled lastStored n less presents
    have spent := spends n presents
    exact h.ne_of_removed (spent.earlier.trans less) spent.removed filled spent.last lastStored
  case failed =>
    intro early taker body final late error split own ends honest
    have whole : timeline.log.take (early.length + (body.length + 2)) =
        early ++ taker :: (body ++ [final]) := by
      have split' : timeline.log = (early ++ taker :: (body ++ [final])) ++ late := by
        rw [split]
        simp
      rw [split']
      exact List.take_left' (by simp)
    have before : timeline.log.take early.length = early := split ▸ List.take_left
    rw [slotAt, slotAt, whole, before]
    exact h.slot_eq_of_failed exclusive split own ends honest

end

end Household

/-! ### A run in which a token is presented -/

namespace Surroundings

/-- A refresh token, sealed. -/
def refreshToken : Bytes :=
  Session.confidential.vault.blob (Vector.replicate 32 0) (Vector.replicate 12 0) "refresh"

/-- What is stored: a registration, and the refresh token as long as it is there. -/
def yielded (present : Bool) (name : String) : Option Bytes :=
  if name = "gatewarden.device_identity" then some registration
  else if name = "gatewarden.refresh_token" ∧ present = true then some refreshToken
  else none

/-- The device is registered, and there is a refresh token, which can be removed. Nothing can be
stored, and the gateway is out of reach. -/
def yielding : (effect : Effect) → Bool → effect.Reply × Bool
  | .read name, present => (.ok (yielded present name), present)
  | .write _ _, present => (.error .cancelled, present)
  | .remove name, present =>
    if name = "gatewarden.refresh_token" then (.ok (), false) else (.error .cancelled, present)
  | .list _, present => (.error .cancelled, present)
  | .sealingKey _, present => (.ok (Vector.replicate 32 0), present)
  | .nonce, present => (Vector.replicate 12 0, present)
  | .identifier, present => ("", present)
  | .time, present => (⟨0, 0⟩, present)
  | .hold, present => ((), present)
  | .release, present => ((), present)
  | .user, present => (none, present)
  | .cacheUser _, present => ((), present)
  | .connection, present => (some ⟨none⟩, present)
  | .cacheConnection _, present => ((), present)
  | .connect _, present => (.ok (), present)
  | .send _ _ _, present => (.error .cancelled, present)
  | .ask _ _, present => (.cancelled, present)

/-- They keep what is stored. -/
def yieldingKeeper : Keeper Bool Session.confidential.vault (Vector.replicate 32 0) where
  handle := yielding
  stored := yielded
  IsSound _ := True
  isSound _ _ := trivial
  leaves {present} effect _ := by
    cases effect with
    | write name value => exact .inl rfl
    | remove name =>
      by_cases here : name = "gatewarden.refresh_token"
      · subst here
        show yielded false = Function.update (yielded present) _ none
        funext other
        by_cases same : other = "gatewarden.refresh_token"
        · subst same
          rw [Function.update_self]
          rfl
        · rw [Function.update_of_ne same, yielded, yielded]
          simp [same]
      · rw [yielding, if_neg here]
        exact .inl rfl
    | _ => exact rfl
  read _ _ _ found := (Except.ok.inj found).symm
  list _ _ listed := nomatch listed
  sealingKey _ _ given := (Except.ok.inj given).symm

end Surroundings

namespace Session

open Surroundings (yielding)

/-- The token is taken out. -/
theorem run_takeRefreshToken_yielding :
    confidential.takeRefreshToken.run yielding true = (.ok (some "refresh"), false) := by
  have read : (confidential.vault.read .refreshToken).run yielding (yielding .hold true).2 =
      (.ok (some "refresh"), true) :=
    Vault.run_read_blob (Record.faithful_text _) rfl rfl
  have removed : (confidential.vault.remove .refreshToken).run yielding true = (.ok (), false) :=
    Vault.run_about_ok rfl
  have taken : confidential.vault.takeRefreshToken.run yielding true =
      (.ok (some "refresh"), false) := by
    rw [Vault.takeRefreshToken, Program.run_guarded, Program.run_attempt_bind read]
    simp only
    rw [Program.run_bind_ok removed]
    rfl
  rw [takeRefreshToken, Program.run_attempt_bind taken]
  rfl

/-- The registration is there, before and after. -/
theorem run_deviceIdentity_yielding (present : Bool) :
    confidential.deviceIdentity.run yielding present =
      (.ok (some ⟨"pem", "assigned", ⟨0, 0⟩⟩), present) :=
  run_deviceIdentity_registration rfl rfl

/-- A token that is in hand is presented. -/
theorem refresh_mem_effects_grant (client : ClientCredential) (params : Form.Params) :
    ∃ effect ∈ (confidential.grant client .refreshToken params).effects yielding false,
      effect.isRefresh = true := by
  have decorated : (confidential.withDeviceHeaders (confidential.grantRequest client params)).run
      yielding false = (.ok (((confidential.grantRequest client params).setHeader "device-id"
        "device").setHeader "mag-identifier" "assigned"), false) := by
    rw [withDeviceHeaders, Program.run_bind_ok (run_deviceIdentity_yielding false)]
    rfl
  have connected : confidential.connection.run yielding false = (.ok ⟨none⟩, false) := rfl
  refine ⟨_, Program.mem_effects_bind_ok decorated (Program.mem_effects_bind
    (Program.mem_effects_bind (Program.mem_effects_bind_ok connected List.mem_cons_self))), rfl⟩

/-- A request that needs an access token presents the refresh token. -/
theorem refresh_mem_effects_execute (ctx : Context) (isPrivate : ctx.request.isPublic = false) :
    ∃ effect ∈ (confidential.execute ctx).effects yielding true, effect.isRefresh = true := by
  have registered : confidential.ensureRegistered.run yielding true = (.ok (), true) := by
    have looked : confidential.isDeviceRegistered.run yielding true = (.ok true, true) := by
      rw [isDeviceRegistered, Program.run_bind_ok (run_deviceIdentity_yielding true)]
      rfl
    rw [ensureRegistered, Program.run_bind_ok looked]
    rfl
  have named : confidential.ensureClientCredential.run yielding true =
      (.ok confidential.configuredCredential, true) := rfl
  have absent : confidential.validAccessToken.run yielding true = (.ok none, true) := rfl
  obtain ⟨effect, mem, refresh⟩ := refresh_mem_effects_grant confidential.configuredCredential
    (refreshParams "refresh")
  have presented : effect ∈ (confidential.grantByRefreshToken
      confidential.configuredCredential).effects yielding true := by
    refine Program.mem_effects_bind_ok run_takeRefreshToken_yielding (Program.mem_effects_bind ?_)
    rwa [Program.effects_attempt]
  have ensured : effect ∈ confidential.ensureAccessToken.effects yielding true :=
    Program.mem_effects_bind_ok absent (Program.mem_effects_bind_ok named
      (Program.mem_effects_bind presented))
  have prepared : effect ∈ (confidential.prepare ctx).effects yielding true := by
    refine Program.mem_effects_bind_ok registered (Program.mem_effects_bind_ok named
      (Program.mem_effects_bind ?_))
    rw [tokenFor, isPrivate]
    exact Program.mem_effects_bind ensured
  have round : effect ∈ (confidential.round ctx).effects yielding true := by
    refine Program.mem_effects_bind ?_
    rwa [Program.effects_attempt]
  refine ⟨effect, ?_, refresh⟩
  rw [execute]
  exact Program.mem_effects_bind round

end Session

namespace Household

open Surroundings (yielded yieldingKeeper)

/-- One session, whose refresh token is there. -/
def lone : Household Unit Unit Bool Session.confidential.vault (Vector.replicate 32 0) where
  session _ := Session.confidential
  vault_eq _ := rfl
  lock _ := ()
  keeper _ := yieldingKeeper
  stored := yielded
  stored_eq _ := rfl
  IsSound _ := True
  isSound_eq _ := rfl

/-- A request is executed, and the refresh token presented. -/
theorem refreshToken_spent_once_presented :
    ∃ (timeline : Timeline Unit Unit Bool) (n : Nat) (taken : Nat → Nat)
      (record : Nat → Option Nat), lone.Run (.blank true) timeline ∧ Presents timeline.log n ∧
        lone.SpentOnce (yielded true) timeline.log taken record := by
  let ctx : Context := { id := 1, request := { method := .get, url := "/" } }
  have errand : (lone.session ()).Errand
      ((Engine.Operation.execute ctx).program Session.confidential) := .operation (.execute ctx)
  obtain ⟨timeline, run, same⟩ := exists_run_errand true trivial errand
  obtain ⟨effect, mem, refresh⟩ := Session.refresh_mem_effects_execute ctx rfl
  have logged : effect ∈ timeline.log.map (·.effect) := by
    rw [same]
    exact Program.mem_effects_bind mem
  obtain ⟨entry, within, rfl⟩ := List.mem_map.1 logged
  obtain ⟨n, there⟩ := List.mem_iff_getElem?.1 within
  obtain ⟨taken, record, spent⟩ :=
    refreshToken_spent_once trivial run (apart_of_shared (fun _ _ => rfl) _)
  exact ⟨timeline, n, taken, record, run, ⟨entry, there, refresh⟩, spent⟩

end Household

end GatewaySession
