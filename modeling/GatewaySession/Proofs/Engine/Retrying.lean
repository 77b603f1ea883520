import GatewaySession.Proofs.Engine.Corruption
import GatewaySession.Proofs.Vault.Depot

/-!
# Starting again

A session may fail to start because the key store is locked, and it may have emptied its vault by
then: a client id that is too short to be opened is nobody's, which is found without the key, and
the key is wanted only when the client id is to be recorded. Starting again once the key store is
unlocked comes to the same, whatever was stored, as one start would have come to. And a session that
has started can start again, any number of times: nothing is removed then, and the client id is
sealed anew.

What is stored is compared once it is opened, since a sealed value depends on its nonce.

## Main definitions

* `Storage.Alike` — the same keys with the same values, once opened
* `Session.Reconciles`, `Session.Halts` — how a start ends that has its key, and what one has done
  by then that is kept from it

## Main results

* `Session.ensures_reconcile` — a start comes to its end, or it halts
* `Session.Reconciles.of_halts`, `Session.Reconciles.again` — after a start that halted, and after
  one that succeeded
* `Engine.start_retries` — starting again
-/

namespace GatewaySession

variable {σ τ υ α : Type}

/-! ### What is stored, once opened -/

namespace Storage

/-- What is found under a key, opened with the key of a vault. -/
def opened (vault : Vault) (key : Aes256.Key) (name : String) (storage : Storage) :
    Except Error (Option (Except Error Bytes)) :=
  (storage.get name).map (·.map (Envelope.unwrap key vault.name))

theorem opened_eq_none_iff {vault : Vault} {key : Aes256.Key} {name : String} {storage : Storage} :
    storage.opened vault key name = .ok none ↔ storage.get name = .ok none := by
  unfold opened
  cases storage.get name with
  | error error => simp [Except.map]
  | ok found => cases found <;> simp [Except.map]

/-- A sealed value opens to what was sealed. -/
theorem opened_of_blob [Record α] {vault : Vault} {key : Aes256.Key} {name : String}
    {storage : Storage} {nonce : Gcm.Nonce} {value : α}
    (found : storage.get name = .ok (some (vault.blob key nonce value))) :
    storage.opened vault key name = .ok (some (.ok (Record.encode value))) := by
  rw [opened, found]
  exact congrArg (Except.ok ∘ some) (Envelope.unwrap_wrap key vault.name nonce _)

/-- The same keys with the same values, once these are opened. The sealed client id alone may differ
before that. -/
structure Alike (vault : Vault) (key : Aes256.Key) (first second : Storage) : Prop where
  /-- The same keys. -/
  list (start : String) : second.list start = first.list start
  /-- The same values, but for the sealed client id. -/
  get (name : String) : name ≠ vault.keyFor .configuredClientId → second.get name = first.get name
  /-- The same values, once opened. -/
  opened (name : String) : second.opened vault key name = first.opened vault key name

namespace Alike

variable {vault : Vault} {key : Aes256.Key} {first second : Storage}

theorem refl (vault : Vault) (key : Aes256.Key) (storage : Storage) :
    storage.Alike vault key storage :=
  ⟨fun _ => rfl, fun _ _ => rfl, fun _ => rfl⟩

/-- Storages with the same values are alike if the client id opens to the same. -/
theorem of_opened (usable : first.IsUsable) (usable' : second.IsUsable)
    (get : ∀ name, name ≠ vault.keyFor .configuredClientId → second.get name = first.get name)
    (client : second.opened vault key (vault.keyFor .configuredClientId) =
      first.opened vault key (vault.keyFor .configuredClientId)) :
    first.Alike vault key second := by
  have opened (name : String) : second.opened vault key name = first.opened vault key name := by
    by_cases same : name = vault.keyFor .configuredClientId
    · rw [same, client]
    · rw [Storage.opened, get name same, Storage.opened]
  refine ⟨usable.list_congr usable' fun name => ?_, get, opened⟩
  rw [← opened_eq_none_iff, opened, opened_eq_none_iff]

end Alike

end Storage

/-! ### One start -/

namespace Session

variable (session : Session) (key : Aes256.Key)

/-- The key of the slot that records the client id. -/
def mark : String := session.vault.keyFor .configuredClientId

/-- Whether what is stored was issued for another client, as far as the storage can tell. -/
def isForeign (storage : Storage) : Except Error Bool :=
  (session.vault.finding key storage .configuredClientId).verdict session.mark
    session.settings.clientId

/-- The storage when the client id is to be recorded: what was issued for another client is gone. -/
def Cleared (isForeign : Bool) (before after : Storage) : Prop :=
  if isForeign then before.Emptied session.vault after else after = before

/-- The client id is recorded, if its key is admitted. -/
def Records (before : Storage) (result : Except Error Unit) (after : Storage) : Prop :=
  ∃ nonce, Depot.Puts session.mark (session.vault.blob key nonce session.settings.clientId) before
    result after

/-- How a start ends that has its key: it fails if the record of the client id is
garbled; otherwise what was issued for another client is removed, and the client id recorded. -/
def Reconciles (before : Storage) (result : Except Error Bool) (after : Storage) : Prop :=
  match session.isForeign key before with
  | .error error => result = .error error ∧ after = before
  | .ok isForeign => ∃ between, session.Cleared isForeign before between ∧
      ∃ recorded, session.Records key between recorded after ∧
        result = recorded.map fun _ => isForeign

/-- What a start has done that is kept from its key: nothing, or it has removed what was issued for
another client. -/
def Halts (before after : Storage) : Prop :=
  after = before ∨ session.isForeign key before = .ok true ∧ before.Emptied session.vault after

variable {session key} {depot : Depot σ session.vault key} {before : Storage}

/-- The client id is looked up. An unreadable one is another's, unless the session has none of its
own. -/
theorem ensures_recordedClientId (present : session.settings.clientId ≠ "") :
    depot.Ensures before session.recordedClientId fun result after =>
      (result.map (·.any (· != session.settings.clientId)) = session.isForeign key before ∨
        depot.Locks result) ∧ after = before := by
  refine .rescue ((Depot.ensures_read .configuredClientId).mono ?_)
  rintro result before ⟨reads | locks, rfl⟩
  · unfold isForeign
    cases finding : session.vault.finding key before .configuredClientId with
    | nothing =>
      rw [finding] at reads
      obtain rfl := reads
      exact .done ⟨.inl rfl, rfl⟩
    | garbled error =>
      rw [finding] at reads
      obtain rfl := reads
      exact .done ⟨.inl rfl, rfl⟩
    | corrupt =>
      rw [finding] at reads
      obtain ⟨detail, rfl⟩ := reads
      have foreign : ("" != session.settings.clientId) = true := bne_iff_ne.2 (Ne.symm present)
      exact .done ⟨.inl (congrArg Except.ok foreign), rfl⟩
    | record owner =>
      rw [finding] at reads
      obtain rfl := reads
      exact .done ⟨.inl rfl, rfl⟩
  · obtain ⟨rfl, locked⟩ := locks
    exact .done ⟨.inr ⟨rfl, locked⟩, rfl⟩

/-- Everything is removed if it was issued for another client. -/
theorem ensures_cleared (usable : before.IsUsable) (isForeign : Bool) :
    depot.Ensures before (if isForeign then session.destroyAll else pure ()) fun result after =>
      result = .ok () ∧ session.Cleared isForeign before after ∧ after.IsUsable := by
  cases isForeign with
  | false => exact .done ⟨rfl, rfl, usable⟩
  | true =>
    refine .perform (.inr (.inl rfl)) fun _ _ _ => ?_
    exact (Depot.ensures_clearAll usable).mono fun _ _ ⟨done, emptied⟩ =>
      ⟨done, emptied, emptied.usable⟩

/-- The client id is recorded, after everything was removed if it was issued for another client. -/
theorem ensures_recorded (usable : before.IsUsable) {isForeign : Bool}
    (told : session.isForeign key before = .ok isForeign) :
    depot.Ensures before (do
        if isForeign then session.destroyAll
        session.vault.setConfiguredClientId session.settings.clientId
        return isForeign) fun result after =>
      session.Reconciles key before result after ∨
        depot.Locks result ∧ session.Halts key before after := by
  have cleared : depot.Ensures before
      ((if isForeign then session.destroyAll else pure ()) >>= fun _ => do
        session.vault.setConfiguredClientId session.settings.clientId
        return isForeign) fun result after =>
      session.Reconciles key before result after ∨
        depot.Locks result ∧ session.Halts key before after := by
    refine .bind ((ensures_cleared usable isForeign).mono ?_)
    rintro _ between ⟨rfl, cleared, usable'⟩
    refine .bind ((Depot.ensures_store usable' .configuredClientId _).mono ?_)
    rintro recorded after (⟨nonce, puts⟩ | ⟨⟨rfl, locked⟩, rfl⟩)
    · have reconciles : session.Reconciles key before (recorded.map fun _ => isForeign) after := by
        rw [Reconciles, told]
        exact ⟨between, cleared, recorded, ⟨nonce, puts⟩, rfl⟩
      cases recorded with
      | error error => exact .inl reconciles
      | ok _ => exact .done (.inl reconciles)
    · refine .inr ⟨⟨rfl, locked⟩, ?_⟩
      cases isForeign with
      | false => exact .inl cleared
      | true => exact .inr ⟨told, cleared⟩
  cases isForeign with
  | false => exact cleared
  | true => exact cleared

/-- **Reconciling** comes to its end, or it halts because the key store is locked. -/
theorem ensures_reconcile (usable : before.IsUsable) (present : session.settings.clientId ≠ "") :
    depot.Ensures before session.reconcile fun result after =>
      session.Reconciles key before result after ∨
        depot.Locks result ∧ session.Halts key before after := by
  refine .bind ((ensures_recordedClientId present).mono ?_)
  rintro result before ⟨told | locks, rfl⟩
  · cases result with
    | error error =>
      refine .inl ?_
      rw [Reconciles, ← told]
      exact ⟨rfl, rfl⟩
    | ok recorded =>
    cases recorded with
    | none => exact ensures_recorded usable told.symm
    | some owner => exact ensures_recorded usable told.symm
  · obtain ⟨rfl, locked⟩ := locks
    exact .inr ⟨⟨rfl, locked⟩, .inl rfl⟩

/-- Where the key store is never locked, it comes to its end. -/
theorem reconciles_of_isUnlocked (unlocked : depot.IsUnlocked)
    (present : session.settings.clientId ≠ "") {state : σ} (sound : depot.IsSound state)
    (usable : (depot.storage state).IsUsable) :
    session.Reconciles key (depot.storage state) (session.reconcile.run depot.handle state).1
      (depot.storage (session.reconcile.run depot.handle state).2) :=
  (ensures_reconcile usable present state sound rfl).2.resolve_right
    fun ⟨⟨_, locked⟩, _⟩ => locked unlocked

/-! ### Several starts -/

/-- If the storage cannot tell, reading has failed. -/
theorem exists_of_isForeign {error : Error} (told : session.isForeign key before = .error error) :
    ∃ source, error = .storageOperation "get" session.mark source := by
  unfold isForeign at told
  cases finding : session.vault.finding key before .configuredClientId with
  | garbled source =>
    rw [finding] at told
    exact ⟨source, (Except.error.inj told).symm⟩
  | nothing =>
    rw [finding] at told
    cases told
  | corrupt =>
    rw [finding] at told
    cases told
  | record owner =>
    rw [finding] at told
    cases told

/-- If the client id is not recorded, writing has failed. -/
theorem exists_of_records {error : Error} {after : Storage}
    (h : session.Records key before (.error error) after) :
    ∃ source, error = .storageOperation "put" session.mark source := by
  obtain ⟨nonce, puts⟩ := h
  unfold Depot.Puts at puts
  split at puts
  · cases puts.1
  · exact ⟨_, Except.error.inj puts.1⟩

/-- A start that has its key does not end for want of it. -/
theorem Reconciles.ne_storeLocked {result : Except Error Bool} {after : Storage}
    (h : session.Reconciles key before result after) : result ≠ .error .storeLocked := by
  rintro rfl
  unfold Reconciles at h
  split at h
  · next error told =>
    obtain ⟨source, rfl⟩ := exists_of_isForeign told
    cases h.1
  · obtain ⟨_, -, recorded, records, same⟩ := h
    cases recorded with
    | ok _ => cases same
    | error error =>
      obtain ⟨source, rfl⟩ := exists_of_records records
      cases same

theorem Cleared.usable {isForeign : Bool} {after : Storage} (usable : before.IsUsable)
    (h : session.Cleared isForeign before after) : after.IsUsable := by
  cases isForeign with
  | false => exact h ▸ usable
  | true => exact Storage.Emptied.usable h

theorem Records.usable {after : Storage} {result : Except Error Unit} (usable : before.IsUsable)
    (h : session.Records key before result after) : after.IsUsable := by
  obtain ⟨nonce, puts⟩ := h
  unfold Depot.Puts at puts
  split at puts
  · exact puts.2.usable
  · exact puts.2 ▸ usable

theorem Reconciles.usable {result : Except Error Bool} {after : Storage} (usable : before.IsUsable)
    (h : session.Reconciles key before result after) : after.IsUsable := by
  unfold Reconciles at h
  split at h
  · exact h.2 ▸ usable
  · obtain ⟨_, cleared, _, records, -⟩ := h
    exact records.usable (cleared.usable usable)

theorem Halts.usable {after : Storage} (usable : before.IsUsable)
    (h : session.Halts key before after) : after.IsUsable := by
  obtain rfl | ⟨-, emptied⟩ := h
  · exact usable
  · exact emptied.usable

/-- What is found after everything was removed, or nothing. -/
theorem Cleared.get_eq {isForeign : Bool} {first second : Storage}
    (h : session.Cleared isForeign before first) (h' : session.Cleared isForeign before second)
    (name : String) : second.get name = first.get name := by
  cases isForeign with
  | false => rw [h, h']
  | true => rw [h.get, h'.get]

/-- What is found where the client id is recorded. -/
theorem Records.marks {after : Storage} (h : session.Records key before (.ok ()) after) :
    StorageKey.check session.mark = .ok () ∧
      ∃ nonce, before.Sets session.mark
        (some (session.vault.blob key nonce session.settings.clientId)) after := by
  obtain ⟨nonce, puts⟩ := h
  unfold Depot.Puts at puts
  split at puts
  · next checked => exact ⟨checked, nonce, puts.2⟩
  · cases puts.1

/-- Recording the client id over what is the same elsewhere leaves the same. -/
theorem Records.alike {first second after after' : Storage} {result result' : Except Error Unit}
    (usable : first.IsUsable) (usable' : second.IsUsable)
    (same : ∀ name, name ≠ session.mark → second.get name = first.get name)
    (client : result = .ok () ∨ second.get session.mark = first.get session.mark)
    (h : session.Records key first result after) (h' : session.Records key second result' after') :
    result' = result ∧ after.Alike session.vault key after' := by
  obtain ⟨nonce, puts⟩ := h
  obtain ⟨nonce', puts'⟩ := h'
  unfold Depot.Puts at puts puts'
  cases checked : StorageKey.check session.mark with
  | error error =>
    rw [checked] at puts puts'
    obtain ⟨rfl, rfl⟩ := puts
    obtain ⟨rfl, rfl⟩ := puts'
    replace client := client.resolve_left nofun
    exact ⟨rfl, .of_opened usable usable' same (congrArg (Except.map _) client)⟩
  | ok _ =>
    rw [checked] at puts puts'
    obtain ⟨rfl, sets⟩ := puts
    obtain ⟨rfl, sets'⟩ := puts'
    refine ⟨rfl, .of_opened sets.usable sets'.usable (fun name other => ?_) ?_⟩
    · rw [sets'.get_of_ne name other, sets.get_of_ne name other, same name other]
    · exact (Storage.opened_of_blob sets'.get_self).trans
        (Storage.opened_of_blob sets.get_self).symm

/-- **Two starts from the same storage** end the same and leave the same. -/
theorem Reconciles.alike {result result' : Except Error Bool} {after after' : Storage}
    (usable : before.IsUsable) (h : session.Reconciles key before result after)
    (h' : session.Reconciles key before result' after') :
    result' = result ∧ after.Alike session.vault key after' := by
  unfold Reconciles at h h'
  cases told : session.isForeign key before with
  | error error =>
    rw [told] at h h'
    obtain ⟨rfl, rfl⟩ := h
    obtain ⟨rfl, rfl⟩ := h'
    exact ⟨rfl, .refl _ _ _⟩
  | ok isForeign =>
    rw [told] at h h'
    obtain ⟨between, cleared, recorded, records, rfl⟩ := h
    obtain ⟨between', cleared', recorded', records', rfl⟩ := h'
    have same := cleared.get_eq cleared'
    obtain ⟨rfl, alike⟩ := Records.alike (cleared.usable usable) (cleared'.usable usable)
      (fun name _ => same name) (.inr (same _)) records records'
    exact ⟨rfl, alike⟩

/-- **After a start that had emptied the vault**, starting comes to what it would have come to from
the storage as it was. -/
theorem Reconciles.of_emptied {emptied after : Storage} {result : Except Error Bool}
    (foreign : session.isForeign key before = .ok true)
    (gone : before.Emptied session.vault emptied)
    (h : session.Reconciles key emptied result after) :
    ∃ straight, session.Reconciles key before straight after ∧
      (straight.map fun _ => session) = result.map fun _ => session := by
  have nothing : session.isForeign key emptied = .ok false := by
    have absent : emptied.get session.mark = .ok none :=
      (gone.get _).trans (if_pos (session.vault.isPrefixOf_keyFor .configuredClientId))
    rw [isForeign, Vault.finding, ← mark, absent]
    rfl
  unfold Reconciles at h
  rw [nothing] at h
  obtain ⟨between, rfl, recorded, records, rfl⟩ := h
  refine ⟨recorded.map fun _ => true, ?_, ?_⟩
  · rw [Reconciles, foreign]
    exact ⟨between, gone, recorded, records, rfl⟩
  · cases recorded <;> rfl

/-- **After a start that halted**, too. -/
theorem Reconciles.of_halts {halted after : Storage} {result : Except Error Bool}
    (halts : session.Halts key before halted) (h : session.Reconciles key halted result after) :
    ∃ straight, session.Reconciles key before straight after ∧
      (straight.map fun _ => session) = result.map fun _ => session := by
  obtain rfl | ⟨foreign, gone⟩ := halts
  · exact ⟨result, h, rfl⟩
  · exact h.of_emptied foreign gone

/-- A client id that was recorded is the session's own. -/
theorem isForeign_of_blob {nonce : Gcm.Nonce}
    (found : before.get session.mark =
      .ok (some (session.vault.blob key nonce session.settings.clientId))) :
    session.isForeign key before = .ok false := by
  have content : (session.vault.content? key
      (session.vault.blob key nonce session.settings.clientId) : Option String) =
        some session.settings.clientId :=
    Vault.content?_blob (Record.faithful_text _) nonce
  have recorded : session.vault.finding key before .configuredClientId =
      .record session.settings.clientId := by
    rw [Vault.finding, ← mark, found]
    simp only [content]
  rw [isForeign, recorded, Finding.verdict, bne_self_eq_false]

/-- **After a start that succeeded**, the client id is found and nothing is removed. -/
theorem Reconciles.again {isForeign : Bool} {after last : Storage} {result : Except Error Bool}
    (usable : before.IsUsable) (h : session.Reconciles key before (.ok isForeign) after)
    (h' : session.Reconciles key after result last) :
    result = .ok false ∧ after.Alike session.vault key last := by
  unfold Reconciles at h
  split at h
  · cases h.1
  · obtain ⟨between, cleared, recorded, records, same⟩ := h
    cases recorded with
    | error error => cases same
    | ok _ =>
    obtain ⟨-, nonce, sets⟩ := records.marks
    unfold Reconciles at h'
    rw [isForeign_of_blob sets.get_self] at h'
    obtain ⟨_, rfl, recorded, records', rfl⟩ := h'
    obtain ⟨rfl, alike⟩ := Records.alike (cleared.usable usable) sets.usable sets.get_of_ne
      (.inl rfl) records records'
    exact ⟨rfl, alike⟩

end Session

/-! ### Starting again -/

namespace Engine

/-- A session starts as it reconciles, if settings and device are admitted. -/
theorem run_start {handle : (effect : Effect) → σ → effect.Reply × σ} {session : Session}
    (made : Session.make session.settings session.device = .ok session) (state : σ) :
    (start session.settings session.device).run handle state =
      ((session.reconcile.run handle state).1.map fun _ => session,
        (session.reconcile.run handle state).2) := by
  have opened : (Program.ofExcept (Session.make session.settings session.device)).run handle state =
      (.ok session, state) := by
    rw [made, Program.run_ofExcept]
  rw [start, Program.run_bind_ok opened]
  cases run : session.reconcile.run handle state with
  | mk result last =>
  cases result with
  | error error => exact Program.run_bind_error run
  | ok isForeign => exact Program.run_bind_ok run

/-- The surroundings are as they should be after a start. -/
theorem isSound_start {session : Session} {key : Aes256.Key} {depot : Depot σ session.vault key}
    (made : Session.make session.settings session.device = .ok session) {state last : σ}
    (sound : depot.IsSound state) (usable : (depot.storage state).IsUsable)
    {result : Except Error Session}
    (run : (start session.settings session.device).run depot.handle state = (result, last)) :
    depot.IsSound last := by
  rw [run_start made] at run
  obtain ⟨-, rfl⟩ := Prod.mk.inj run
  exact (Session.ensures_reconcile usable (Session.eq_of_make made).2 state sound rfl).1

variable {session : Session} {key : Aes256.Key} {first : Depot σ session.vault key}
  {later : Depot τ session.vault key} {straight : Depot υ session.vault key}

/-- **Starting again** after a start that failed because the key store was locked ends as one start
from the storage as it was and leaves the same; and after a start that succeeded it succeeds,
removes nothing and leaves the same. -/
theorem start_retries (unlocked : later.IsUnlocked) (unlocked' : straight.IsUnlocked) {state : σ}
    (sound : first.IsSound state) (usable : (first.storage state).IsUsable)
    {result : Except Error Session} {left : σ}
    (run : (start session.settings session.device).run first.handle state = (result, left))
    {again : τ} (sound' : later.IsSound again) (same : later.storage again = first.storage left) :
    (result = .error .storeLocked → ∀ afresh, straight.IsSound afresh →
      straight.storage afresh = first.storage state →
      ∃ ended last last', (start session.settings session.device).run later.handle again =
          (ended, last) ∧
        (start session.settings session.device).run straight.handle afresh = (ended, last') ∧
        (straight.storage last').Alike session.vault key (later.storage last)) ∧
    ∀ started, result = .ok started → ∃ last,
      (start session.settings session.device).run later.handle again = (.ok started, last) ∧
        session.reconcile.run later.handle again = (.ok false, last) ∧
        (first.storage left).Alike session.vault key (later.storage last) := by
  cases made : Session.make session.settings session.device with
  | error error =>
    -- Nothing is done, here or there.
    have refused {ρ : Type} (handle : (effect : Effect) → ρ → effect.Reply × ρ) (state : ρ) :
        (start session.settings session.device).run handle state = (.error error, state) :=
      Program.run_bind_error (congrArg (·, state) made)
    rw [refused] at run
    obtain ⟨rfl, rfl⟩ := Prod.mk.inj run
    refine ⟨fun _ afresh _ same' => ⟨_, again, afresh, refused _ _, refused _ _, ?_⟩, ?_⟩
    · rw [same, same']
      exact .refl _ _ _
    · intro started other
      cases other
  | ok other =>
  obtain ⟨rfl, present⟩ := Session.eq_of_make made
  rw [run_start made] at run
  obtain ⟨rfl, rfl⟩ := Prod.mk.inj run
  obtain ⟨-, tried⟩ := Session.ensures_reconcile usable present state sound rfl
  have reconciles (usable' : (later.storage again).IsUsable) :=
    Session.reconciles_of_isUnlocked unlocked present sound' usable'
  rw [same] at reconciles
  rw [run_start made]
  cases reconciled : (session.reconcile.run first.handle state).1 with
  | error error =>
    rw [reconciled] at tried
    refine ⟨fun locked afresh sound'' same' => ?_, ?_⟩
    · obtain rfl := Except.error.inj locked
      have halts := (tried.resolve_left fun settled => settled.ne_storeLocked rfl).2
      obtain ⟨result, straightened, mapped⟩ := (reconciles (halts.usable usable)).of_halts halts
      have direct := Session.reconciles_of_isUnlocked unlocked' present sound'' (same' ▸ usable)
      rw [same'] at direct
      obtain ⟨rfl, alike⟩ := direct.alike usable straightened
      refine ⟨_, _, _, rfl, ?_, alike⟩
      rw [run_start made, mapped]
    · intro started other
      cases other
  | ok isForeign =>
    rw [reconciled] at tried
    refine ⟨?_, fun started eq => ?_⟩
    · intro other
      cases other
    · obtain rfl := Except.ok.inj eq
      have settled := tried.resolve_right nofun
      obtain ⟨told, alike⟩ := settled.again usable (reconciles (settled.usable usable))
      refine ⟨_, ?_, Prod.ext told rfl, alike⟩
      rw [told]
      rfl

/-- A world where the client id is too short to be one, and the ring is locked or not. -/
def shortMarked (isLocked : Bool) : Rehearsal.World where
  storage := .memory { values := Table.empty.insert "gatewarden.configured_client_id" [0] }
  ring := { keys := Table.empty.insert "gatewarden" (Vector.replicate 32 0), isLocked }
  now := 0

/-- Whether a run ends because the key store is locked, and leaves nothing under a name. -/
def endsLocked {α : Type} (name : String) : Except Error α × Rehearsal.World → Bool
  | (.error .storeLocked, left) => decide ((left.storage.get name).toOption = some none)
  | _ => false

theorem exists_of_endsLocked {α : Type} {name : String} {run : Except Error α × Rehearsal.World}
    (locked : endsLocked name run = true) :
    ∃ left, run = (.error .storeLocked, left) ∧ left.storage.get name = .ok none := by
  unfold endsLocked at locked
  split at locked
  next left =>
    have gone := of_decide_eq_true locked
    refine ⟨left, rfl, ?_⟩
    cases got : left.storage.get name with
    | error error =>
      rw [got] at gone
      cases gone
    | ok value =>
      rw [got] at gone
      exact congrArg _ (Option.some.inj gone)
  next => cases locked

/-- While the ring is locked, a session does not start there, and the vault is emptied. -/
theorem start_shortMarked :
    ∃ left, (shortMarked true).perform { seat := 0 }
        (start (.make "gw.test" "a") ⟨"device-1", "Pixel"⟩) = (.error .storeLocked, left) ∧
      left.storage.get "gatewarden.configured_client_id" = .ok none :=
  exists_of_endsLocked (by decide +kernel)

/-- Once the ring is unlocked, starting ends there as it would have, and starting after that changes
nothing. -/
theorem start_retries_shortMarked :
    let session : Session := ⟨.make "gw.test" "a", ⟨"device-1", "Pixel"⟩⟩
    let start := Engine.start session.settings session.device
    let key : Aes256.Key := Vector.replicate 32 0
    ∃ left : Rehearsal.World, (shortMarked true).perform { seat := 0 } start =
        (.error .storeLocked, left) ∧
      left.storage.get "gatewarden.configured_client_id" = .ok none ∧
      ∃ last last' again,
        { left with ring := (shortMarked false).ring }.perform { seat := 0 } start =
          (.ok session, last) ∧
        (shortMarked false).perform { seat := 0 } start = (.ok session, last') ∧
        last'.storage.Alike session.vault key last.storage ∧
        last'.perform { seat := 0 } session.reconcile = (.ok false, again) ∧
        last'.storage.Alike session.vault key again.storage := by
  intro session start key
  let closed := Rehearsal.World.depot { seat := 0 } session.vault key true
  let opened := Rehearsal.World.depot { seat := 0 } session.vault key false
  have unlocked : opened.IsUnlocked := Rehearsal.World.isUnlocked_depot
  have sound : closed.IsSound (shortMarked true) := ⟨rfl, rfl, rfl, rfl⟩
  have sound' : opened.IsSound (shortMarked false) := ⟨rfl, rfl, rfl, rfl⟩
  have usable (isLocked : Bool) : (shortMarked isLocked).storage.IsUsable := ⟨rfl, rfl, rfl⟩
  have made : Session.make session.settings session.device = .ok session :=
    show Session.make (.make "gw.test" "a") ⟨"device-1", "Pixel"⟩ = .ok ⟨_, _⟩ from rfl
  obtain ⟨left, run, gone⟩ := start_shortMarked
  have halted : closed.IsSound left := isSound_start made sound (usable true) run
  have unsealed : opened.IsSound { left with ring := (shortMarked false).ring } :=
    ⟨halted.storageFaults, halted.faults, rfl, rfl⟩
  obtain ⟨retried, -⟩ := start_retries unlocked unlocked sound (usable true) run unsealed rfl
  obtain ⟨ended, last, last', run₁, run₂, alike⟩ := retried rfl (shortMarked false) sound' rfl
  have started : ended = .ok session := by
    have opens : (shortMarked false).Opens { seat := 0 } session.vault key :=
      ⟨usable false, rfl, rfl, rfl, rfl⟩
    have corrupt : session.vault.finding key (shortMarked false).storage .configuredClientId =
        .corrupt :=
      Vault.finding_eq_corrupt (show (shortMarked false).storage.get _ = .ok (some [0]) from rfl)
        (Vault.content?_of_short (show Envelope.checkLength [0] = .error _ from rfl))
    have admitted : StorageKey.check ((⟨"gatewarden"⟩ : Vault).keyFor .configuredClientId) =
        .ok () := rfl
    obtain ⟨direct, run, -⟩ := starts opens made admitted
    rw [corrupt] at run
    exact congrArg Prod.fst (run₂.symm.trans run)
  subst started
  have sound'' : opened.IsSound last' := isSound_start made sound' (usable false) run₂
  obtain ⟨-, repeated⟩ := start_retries unlocked unlocked sound' (usable false) run₂ sound'' rfl
  obtain ⟨again, -, reconciled, alike'⟩ := repeated session rfl
  exact ⟨left, run, gone, last, last', again, run₁, run₂, alike, reconciled, alike'⟩

end Engine

end GatewaySession
