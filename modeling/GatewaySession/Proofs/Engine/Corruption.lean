import GatewaySession.Engine
import GatewaySession.Proofs.Vault.Finding
import GatewaySession.Proofs.Vault.Keeping

/-!
# Corrupt records

A session that finds a value without a record drops it and takes the record for absent. That is so
for every accessor and for every content of the storage, with one exception: where a text in a
storage file encodes no value, the storage reports an integrity error of its own, which arrives
wrapped as the failure of a storage operation. It is not recognized, so the accessor fails, and so
does the opening of a session that finds its client id garbled. The text stays until the slot is
filled or emptied.

## Main definitions

* `Session.LooksAt` — a program that answers from one slot and drops what is corrupt
* `Engine.Starts` — how the opening of a session ends

## Main results

* `Session.looksAt_readable` — reading a slot
* `Engine.starts` — opening a session
* `Engine.content_decides` — accessors and opening, for every content of the storage
-/

namespace GatewaySession

open Rehearsal

namespace Session

variable {session : Session} {world : World} {place : Place} {key : Aes256.Key} {β γ : Type}

/-- A program that answers from what is found in a slot, and drops what is corrupt. It takes a
record out or leaves it. -/
def LooksAt (session : Session) (place : Place) (key : Aes256.Key) (world : World) (slot : Slot)
    (takes : Bool) (view : Option slot.Content → β) (program : Program β) : Prop :=
  ∃ last, world.perform place program =
      ((session.vault.finding key world.storage slot).answer (session.vault.keyFor slot) view,
        last) ∧
    (session.vault.finding key world.storage slot).Leaves takes (session.vault.keyFor slot)
      world.storage last.storage

/-! ### Rules -/

/-- What comes after a look at a slot may change the view of the record, if it leaves the storage
alone. -/
theorem LooksAt.then {slot : Slot} {takes : Bool} {view : Option slot.Content → β}
    {program : Program β} (looks : session.LooksAt place key world slot takes view program)
    {view' : Option slot.Content → γ} {f : β → Program γ}
    (after : ∀ last record, world.perform place program = (.ok (view record), last) →
      (f (view record)).run (World.answer place) last = (.ok (view' record), last)) :
    session.LooksAt place key world slot takes view' (program >>= f) := by
  obtain ⟨last, run, leaves⟩ := looks
  refine ⟨last, ?_, leaves⟩
  cases finding : session.vault.finding key world.storage slot with
  | nothing =>
    rw [finding] at run
    exact (Program.run_bind_ok run).trans (after last none run)
  | garbled error =>
    rw [finding] at run
    exact Program.run_bind_error run
  | corrupt =>
    rw [finding] at run
    exact (Program.run_bind_ok run).trans (after last none run)
  | record value =>
    rw [finding] at run
    exact (Program.run_bind_ok run).trans (after last (some value) run)

theorem LooksAt.map {slot : Slot} {takes : Bool} {view : Option slot.Content → β}
    {program : Program β} (looks : session.LooksAt place key world slot takes view program)
    (f : β → γ) :
    session.LooksAt place key world slot takes (f ∘ view) (do return f (← program)) :=
  looks.then fun _ _ _ => Program.run_pure _ _ _

/-- **Reading a slot** drops what is corrupt and keeps the time. -/
theorem run_readable (opens : world.Opens place session.vault key) (slot : Slot) :
    ∃ last, world.perform place
          (session.readable slot (session.vault.read slot : Program (Option slot.Content))) =
        ((session.vault.finding key world.storage slot).answer (session.vault.keyFor slot) id,
          last) ∧
      (session.vault.finding key world.storage slot).Leaves false (session.vault.keyFor slot)
        world.storage last.storage ∧
      last.now = world.now ∧ last.Opens place session.vault key := by
  obtain ⟨result, between, read, reads, opens₁, sameStorage, sameTime⟩ :=
    Vault.opens_read opens slot
  obtain ⟨last, cleared, sets, opens₂, sameTime'⟩ := Vault.opens_clear opens₁ slot
  rw [sameStorage] at sets
  rw [World.perform, readable, Program.run_attempt_bind read]
  cases finding : session.vault.finding key world.storage slot with
  | nothing =>
    rw [finding] at reads
    obtain rfl := reads
    exact ⟨between, Program.run_ofExcept _ _ _, sameStorage, sameTime, opens₁⟩
  | garbled error =>
    rw [finding] at reads
    obtain rfl := reads
    exact ⟨between, Program.run_ofExcept _ _ _, sameStorage, sameTime, opens₁⟩
  | corrupt =>
    rw [finding] at reads
    obtain ⟨detail, rfl⟩ := reads
    refine ⟨last, ?_, sets, sameTime'.trans sameTime, opens₂⟩
    exact (Program.run_attempt_bind cleared).trans (Program.run_pure _ _ _)
  | record value =>
    rw [finding] at reads
    obtain rfl := reads
    exact ⟨between, Program.run_ofExcept _ _ _, sameStorage, sameTime, opens₁⟩

theorem looksAt_readable (opens : world.Opens place session.vault key) (slot : Slot) :
    session.LooksAt place key world slot false id
      (session.readable slot (session.vault.read slot : Program (Option slot.Content))) := by
  obtain ⟨last, run, leaves, -⟩ := run_readable opens slot
  exact ⟨last, run, leaves⟩

/-! ### Accessors -/

theorem looksAt_hasRefreshToken (opens : world.Opens place session.vault key) :
    session.LooksAt place key world .refreshToken false Option.isSome session.hasRefreshToken :=
  (looksAt_readable opens .refreshToken).map Option.isSome

/-- Taking the refresh token out drops it, and drops what holds none. -/
theorem looksAt_takeRefreshToken (opens : world.Opens place session.vault key) :
    session.LooksAt place key world .refreshToken true id session.takeRefreshToken := by
  obtain ⟨result, last, taken, reads, leaves⟩ := Vault.opens_takeRefreshToken opens
  refine ⟨last, ?_, leaves⟩
  rw [World.perform, takeRefreshToken, Program.run_attempt_bind taken]
  cases finding : session.vault.finding key world.storage .refreshToken with
  | nothing =>
    rw [finding] at reads
    obtain rfl := reads
    exact Program.run_ofExcept _ _ _
  | garbled error =>
    rw [finding] at reads
    obtain rfl := reads
    exact Program.run_ofExcept _ _ _
  | corrupt =>
    rw [finding] at reads
    obtain ⟨detail, rfl⟩ := reads
    exact Program.run_pure _ _ _
  | record token =>
    rw [finding] at reads
    obtain rfl := reads
    exact Program.run_ofExcept _ _ _

/-- The client credential is seen unless it has expired. -/
theorem looksAt_storedClientCredential (opens : world.Opens place session.vault key) :
    session.LooksAt place key world .clientCredential false
      (·.filter fun credential => !credential.isExpiredAt (Int64.ofInt world.now))
      session.storedClientCredential := by
  refine (looksAt_readable opens .clientCredential).then fun last record run => ?_
  obtain ⟨last', run', -, sameTime, -⟩ := run_readable opens .clientCredential
  obtain rfl : last' = last := congrArg Prod.snd (run'.symm.trans run)
  cases record with
  | none => exact Program.run_pure _ _ _
  | some credential =>
    have seconds : Program.seconds.run (World.answer place) last' =
        (.ok (Int64.ofInt world.now), last') := by
      rw [← sameTime]
      rfl
    refine (Program.run_bind_ok seconds).trans ((Program.run_pure _ _ _).trans ?_)
    rw [Option.filter_some]
    cases credential.isExpiredAt (Int64.ofInt world.now) <;> rfl

end Session

/-! ### Opening a session -/

/-- Whether the record of the client id is of another client. A corrupt one is; of a garbled one
nothing is known. -/
def Finding.verdict (key clientId : String) : Finding String → Except Error Bool
  | nothing => .ok false
  | garbled error => .error (.storageOperation "get" key error)
  | corrupt => .ok true
  | record owner => .ok (owner != clientId)

namespace Session

variable {session : Session} {world : World} {place : Place} {key : Aes256.Key}

/-- The storage after the opening of a session: the client id is recorded, and what was there under
other keys is gone if it was of another client and is as it was otherwise. -/
def Opened (session : Session) (key : Aes256.Key) (isForeign : Bool) (before after : Storage) :
    Prop :=
  (∃ nonce, after.get (session.vault.keyFor .configuredClientId) =
      .ok (some (session.vault.blob key nonce session.settings.clientId))) ∧
    ∀ name, name ≠ session.vault.keyFor .configuredClientId → after.get name =
      if isForeign && session.vault.keyStart.toList.isPrefixOf name.toList then .ok none
      else before.get name

/-- The storage after an attempt to open a session, by what was found of the client id. -/
def Concludes (session : Session) (key : Aes256.Key) (finding : Finding String)
    (before after : Storage) : Prop :=
  match finding.verdict (session.vault.keyFor .configuredClientId) session.settings.clientId with
  | .error _ => after = before
  | .ok isForeign => session.Opened key isForeign before after

/-- Forgetting everything works whatever is there. -/
theorem run_destroyAll_any (opens : world.Opens place session.vault key) :
    ∃ last, world.perform place session.destroyAll = (.ok (), last) ∧
      last.Opens place session.vault key ∧
      ∀ name, last.storage.get name =
        if session.vault.keyStart.toList.isPrefixOf name.toList then .ok none
        else world.storage.get name :=
  Vault.opens_clearAll (opens.cacheUser none)

/-- Recording the client id, after everything was forgotten if it was of another client. -/
theorem run_settled (opens : world.Opens place session.vault key)
    (admitted : StorageKey.check (session.vault.keyFor .configuredClientId) = .ok ())
    (isForeign : Bool) :
    ∃ last, world.perform place (do
          if isForeign then session.destroyAll
          session.vault.setConfiguredClientId session.settings.clientId
          return isForeign) = (.ok isForeign, last) ∧
      session.Opened key isForeign world.storage last.storage := by
  cases isForeign with
  | false =>
    obtain ⟨nonce, last, stored, sets⟩ :=
      Vault.opens_store opens admitted session.settings.clientId
    refine ⟨last, ?_, ⟨nonce, sets.get_self⟩, fun name ne => sets.get_of_ne name ne⟩
    exact (Program.run_bind_ok stored).trans (Program.run_pure _ _ _)
  | true =>
    obtain ⟨emptied, destroyed, opens', gone⟩ := run_destroyAll_any opens
    obtain ⟨nonce, last, stored, sets⟩ :=
      Vault.opens_store opens' admitted session.settings.clientId
    refine ⟨last, ?_, ⟨nonce, sets.get_self⟩, fun name ne => ?_⟩
    · refine (Program.run_bind_ok destroyed).trans ?_
      exact (Program.run_bind_ok stored).trans (Program.run_pure _ _ _)
    · rw [sets.get_of_ne name ne, gone name, Bool.true_and]

/-- **Reconciling** fails if the record of the client id is garbled, and otherwise tells whether it
is of another client. -/
theorem run_reconcile_any (opens : world.Opens place session.vault key)
    (admitted : StorageKey.check (session.vault.keyFor .configuredClientId) = .ok ())
    (present : session.settings.clientId ≠ "") :
    ∃ last, world.perform place session.reconcile =
        ((session.vault.finding key world.storage .configuredClientId).verdict
          (session.vault.keyFor .configuredClientId) session.settings.clientId, last) ∧
      session.Concludes key (session.vault.finding key world.storage .configuredClientId)
        world.storage last.storage := by
  obtain ⟨result, between, read, reads, opens', sameStorage, -⟩ :=
    Vault.opens_read opens .configuredClientId
  have recorded : session.recordedClientId.run (World.answer place) world = _ :=
    Program.run_attempt_bind read
  have settled (isForeign : Bool) := run_settled opens' admitted isForeign
  rw [sameStorage] at settled
  cases finding : session.vault.finding key world.storage .configuredClientId with
  | garbled error =>
    rw [finding] at reads
    obtain rfl := reads
    refine ⟨between, ?_, sameStorage⟩
    exact Program.run_bind_error (recorded.trans (Program.run_fail _ _ _))
  | nothing =>
    rw [finding] at reads
    obtain rfl := reads
    obtain ⟨last, run, opened⟩ := settled false
    refine ⟨last, ?_, opened⟩
    exact (Program.run_bind_ok (recorded.trans (Program.run_pure _ _ _))).trans run
  | corrupt =>
    rw [finding] at reads
    obtain ⟨detail, rfl⟩ := reads
    have foreign : ("" != session.settings.clientId) = true := bne_iff_ne.2 (Ne.symm present)
    obtain ⟨last, run, opened⟩ := settled ("" != session.settings.clientId)
    refine ⟨last, ?_, ?_⟩
    · refine (Program.run_bind_ok (recorded.trans (Program.run_pure _ _ _))).trans (run.trans ?_)
      rw [foreign]
      rfl
    · rw [foreign] at opened
      exact opened
  | record owner =>
    rw [finding] at reads
    obtain rfl := reads
    obtain ⟨last, run, opened⟩ := settled (owner != session.settings.clientId)
    refine ⟨last, ?_, opened⟩
    exact (Program.run_bind_ok (recorded.trans (Program.run_pure _ _ _))).trans run

end Session

variable {session : Session} {world : World} {place : Place} {key : Aes256.Key}

/-- How the opening of a session ends: as reconciliation does, with the session. -/
def Engine.Starts (session : Session) (place : Place) (key : Aes256.Key) (world : World) : Prop :=
  let finding := session.vault.finding key world.storage .configuredClientId
  ∃ last, world.perform place (Engine.start session.settings session.device) =
      ((fun _ => session) <$> finding.verdict (session.vault.keyFor .configuredClientId)
        session.settings.clientId, last) ∧
    session.Concludes key finding world.storage last.storage

theorem Engine.starts (opens : world.Opens place session.vault key)
    (made : Session.make session.settings session.device = .ok session)
    (admitted : StorageKey.check (session.vault.keyFor .configuredClientId) = .ok ()) :
    Engine.Starts session place key world := by
  obtain ⟨last, run, concludes⟩ :=
    Session.run_reconcile_any opens admitted (Session.eq_of_make made).2
  refine ⟨last, ?_, concludes⟩
  have opened : (Program.ofExcept (Session.make session.settings session.device)).run
      (World.answer place) world = (.ok session, world) := by
    rw [made, Program.run_ofExcept]
  rw [World.perform, Engine.start, Program.run_bind_ok opened]
  cases verdict : (session.vault.finding key world.storage .configuredClientId).verdict
      (session.vault.keyFor .configuredClientId) session.settings.clientId with
  | error error =>
    rw [verdict] at run
    exact Program.run_bind_error run
  | ok isForeign =>
    rw [verdict] at run
    exact (Program.run_bind_ok run).trans (Program.run_pure _ _ _)

/-! ### Every content -/

/-- **What is stored decides**, for every content of the storage: each accessor and the opening of a
session answers from what is found in its slot, and drops it if it is corrupt. They fail for
a garbled slot and for no other. -/
theorem Engine.content_decides (opens : world.Opens place session.vault key) :
    session.LooksAt place key world .accessToken false id session.accessToken ∧
    session.LooksAt place key world .refreshToken false Option.isSome session.hasRefreshToken ∧
    session.LooksAt place key world .refreshToken true id session.takeRefreshToken ∧
    (session.settings.ssoEnabled = true →
      session.LooksAt place key world .idToken false id session.idToken) ∧
    session.LooksAt place key world .clientCredential false
      (·.filter fun credential => !credential.isExpiredAt (Int64.ofInt world.now))
      session.storedClientCredential ∧
    session.LooksAt place key world .deviceIdentity false id session.deviceIdentity ∧
    (Session.make session.settings session.device = .ok session →
      StorageKey.check (session.vault.keyFor .configuredClientId) = .ok () →
      Engine.Starts session place key world) ∧
    ∀ slot, (∃ error, session.vault.finding key world.storage slot = .garbled error) ↔
      world.storage.IsGarbled (session.vault.keyFor slot) := by
  refine ⟨Session.looksAt_readable opens .accessToken, Session.looksAt_hasRefreshToken opens,
    Session.looksAt_takeRefreshToken opens, fun sso => ?_,
    Session.looksAt_storedClientCredential opens, Session.looksAt_readable opens .deviceIdentity,
    fun made admitted => Engine.starts opens made admitted,
    fun slot => Vault.finding_eq_garbled_iff opens.storage slot⟩
  rw [Session.idToken, if_pos sso]
  exact Session.looksAt_readable opens .idToken

/-- Texts in a damaged file. That of the access token encodes no value, and that of the refresh
token encodes one that is too short for a record. -/
def damagedTexts : Table String :=
  (Table.empty.insert "gatewarden.refresh_token" "AAAA").insert "gatewarden.access_token" "!!!"

/-- A world with a damaged file. -/
def damaged : World where
  storage := .file (.ofDocument damagedTexts)
  ring := KeyRing.withKey {} "gatewarden" (Vector.replicate 32 0)
  now := 0

theorem get_damaged (name : String) :
    damaged.storage.get name = match damagedTexts.get? name with
      | some text => (FileState.decode name text).map some
      | none => .ok none :=
  FileState.get_of_document (FileState.document_ofDocument damagedTexts) name

/-- Where the file is damaged, the refresh token counts as absent and is dropped, the client id is
absent and the session opens, and the access token cannot be read. -/
theorem Engine.content_decides_damaged :
    let session : Session := ⟨.make "gw.test" "a", ⟨"device-1", "Pixel"⟩⟩
    damaged.Opens { seat := 0 } session.vault (Vector.replicate 32 0) ∧
      (∃ last, damaged.perform { seat := 0 } session.hasRefreshToken = (.ok false, last) ∧
        last.storage.get "gatewarden.refresh_token" = .ok none) ∧
      (∃ last, damaged.perform { seat := 0 } (Engine.start session.settings session.device) =
        (.ok session, last)) ∧
      ∃ last, damaged.perform { seat := 0 } session.accessToken =
        (.error (.storageOperation "get" "gatewarden.access_token"
          (.integrity "invalid base64 for gatewarden.access_token: <base64>")), last) := by
  intro session
  have opens : damaged.Opens { seat := 0 } session.vault (Vector.replicate 32 0) :=
    ⟨FileState.noConfusion, rfl, rfl, rfl, rfl⟩
  obtain ⟨access, refresh, -, -, -, -, starts, -⟩ := Engine.content_decides opens
  have garbled : session.vault.finding (Vector.replicate 32 0) damaged.storage .accessToken =
      .garbled (.integrity "invalid base64 for gatewarden.access_token: <base64>") := by
    rw [Vault.finding, get_damaged]
    rfl
  have corrupt : session.vault.finding (Vector.replicate 32 0) damaged.storage .refreshToken =
      .corrupt :=
    Vault.finding_eq_corrupt (get_damaged "gatewarden.refresh_token")
      (Vault.content?_of_short (show Envelope.checkLength [0, 0, 0] = .error _ from rfl))
  have absent : session.vault.finding (Vector.replicate 32 0) damaged.storage
      .configuredClientId = .nothing := by
    rw [Vault.finding, get_damaged]
    rfl
  refine ⟨opens, ?_, ?_, ?_⟩
  · obtain ⟨last, run, leaves⟩ := refresh
    rw [corrupt] at run leaves
    exact ⟨last, run, leaves.get_self⟩
  · have made : Session.make (.make "gw.test" "a") ⟨"device-1", "Pixel"⟩ = .ok ⟨_, _⟩ := rfl
    have admitted : StorageKey.check ((⟨"gatewarden"⟩ : Vault).keyFor .configuredClientId) =
        .ok () := rfl
    obtain ⟨last, run, -⟩ := starts made admitted
    rw [absent] at run
    exact ⟨last, run⟩
  · obtain ⟨last, run, -⟩ := access
    rw [garbled] at run
    exact ⟨last, run⟩

end GatewaySession
