import GatewaySession.Proofs.Credential.Acceptance
import GatewaySession.Proofs.Engine.SingleUse
import GatewaySession.Proofs.Exchange.Rejection
import GatewaySession.Proofs.Session.Vetting

/-!
# Identity tokens are kept and used after validation only

Sessions that share a vault share its identity token, and with it the verdict of whichever session
accepted it. What the log of a run tells of that verdict is told here: where the client credential
was looked up, what lay in its slot, what the clock said, and that the token validated.

Between the look and the write another task may provision a credential or remove one. The verdict
is about the credential that was in effect at the look. As long as nobody else changes the slot it
is still in effect at the write, and so it is whenever tasks run one after the other.

## Main definitions

* `Household.Undisturbed`, `Household.Sequential` — other tasks leave a slot alone, and no two tasks
  overlap
* `Household.Validation`, `Household.Vouches` — a token was validated, and written for that
* `Household.IdTokensVouched` — what is said of a log

## Main results

* `Household.History.slot_eq_or_removed` — a slot that other tasks leave alone
* `Household.Validation.current` — the credential is still in effect when the token is written
* `Household.History.vouches_of_write`, `Household.History.exists_vouches`,
  `Household.History.exists_vouches_of_send` — what is written, what lies there, what is presented
* `Household.idToken_validated` — all of it, and what a rejection leads to
-/

namespace GatewaySession

namespace Household

variable {ι κ σ : Type} {vault : Vault} {key : Aes256.Key}

/-! ### The past of a task -/

/-- What a task has done is in the log. -/
theorem exists_of_events {log : List (Entry ι σ)} {task : Nat} {before after : List Event}
    {event : Event} (h : events log task = before ++ event :: after) :
    ∃ early entry late, log = early ++ entry :: late ∧ entry.task = task ∧ entry.toEvent = event ∧
      events early task = before ∧ events late task = after := by
  obtain ⟨first, rest, split, rfl, mapped⟩ := List.map_eq_append_iff.1 h
  obtain ⟨entry, second, rfl, rfl, rfl⟩ := List.map_eq_cons_iff.1 mapped
  obtain ⟨early, others, rfl, rfl, filtered⟩ := List.filter_eq_append_iff.1 split
  obtain ⟨skipped, late, rfl, none, own, rfl⟩ := List.filter_eq_cons_iff.1 filtered
  have skips : events skipped task = [] := by
    rw [events, List.filter_eq_nil_iff.2 none, List.map_nil]
  refine ⟨early ++ skipped, entry, late, (List.append_assoc ..).symm, of_decide_eq_true own, rfl,
    ?_, rfl⟩
  rw [events_append, skips, List.append_nil, events]

/-- Whether other tasks leave what is stored under a name alone. -/
def Undisturbed (name : String) (task : Nat) (log : List (Entry ι σ)) : Prop :=
  ∀ entry ∈ log, entry.task ≠ task →
    (∀ blob, entry.effect ≠ .write name blob) ∧ entry.effect ≠ .remove name

/-- Whether tasks run one after the other: between two entries of one task there is no other. -/
def Sequential (log : List (Entry ι σ)) : Prop :=
  ∀ (early mid late : List (Entry ι σ)) (entry other : Entry ι σ),
    log = early ++ entry :: (mid ++ other :: late) → entry.task = other.task →
      ∀ between ∈ mid, between.task = other.task

/-- Nobody disturbs a task while tasks run one after the other. -/
theorem Sequential.undisturbed {early mid late : List (Entry ι σ)} {entry other : Entry ι σ}
    (h : Sequential (early ++ entry :: (mid ++ other :: late))) (own : entry.task = other.task)
    (name : String) : Undisturbed name other.task mid :=
  fun between mem differs => absurd (h early mid late entry other rfl own between mem) differs

section

variable {household : Household ι κ σ vault key} {γ : Type} {watch : ι → Watch γ} {mark : γ}
  {first last : String → Option Bytes} {log early late : List (Entry ι σ)} {entry : Entry ι σ}

/-- **A slot that other tasks leave alone** and the task itself does not write to holds what it
held, or nothing if the task has removed it. -/
theorem History.slot_eq_or_removed {between : List (Entry ι σ)}
    (h : household.History watch mark first (early ++ between) last) {name : String} {task : Nat}
    (undisturbed : Undisturbed name task between)
    (kept : ∀ event ∈ events between task, ∀ blob, event.effect ≠ .write name blob) :
    household.storedAfter first (early ++ between) name = household.storedAfter first early name ∨
      household.storedAfter first (early ++ between) name = none ∧
        ∃ event ∈ events between task, event.effect = .remove name := by
  induction between using List.reverseRecOn generalizing last with
  | nil => exact .inl (by rw [List.append_nil])
  | append_singleton between entry ih =>
    rw [← List.append_assoc] at h ⊢
    rw [events_append] at kept ⊢
    obtain ⟨_, earlier⟩ := h.before
    have before := ih earlier (fun entry mem => undisturbed entry (List.mem_append_left _ mem))
      fun event mem => kept event (List.mem_append_left _ mem)
    have mem : entry ∈ between ++ [entry] := List.mem_append_right _ (List.mem_singleton_self _)
    have unwritten (blob : Bytes) : entry.effect ≠ .write name blob := by
      by_cases own : entry.task = task
      · subst own
        exact kept _ (List.mem_append_right _ (mem_events (List.mem_singleton_self _))) blob
      · exact (undisturbed entry mem own).1 blob
    rw [storedAfter_append]
    by_cases removes : entry.effect = .remove name
    · have own : entry.task = task := by
        by_contra other
        exact (undisturbed entry mem other).2 removes
      subst own
      have here : entry.toEvent ∈ events [entry] entry.task :=
        mem_events (List.mem_singleton_self _)
      have leaves := h.leaves (List.mem_append_right _ (List.mem_singleton_self _))
      obtain same | gone := leaves.eq_or_removed removes
      · rw [same, h.before_eq rfl]
        exact before.imp_right fun ⟨absent, event, mem, removed⟩ =>
          ⟨absent, event, List.mem_append_left _ mem, removed⟩
      · exact .inr ⟨gone, entry.toEvent, List.mem_append_right _ here, removes⟩
    · rw [h.stored_eq rfl unwritten removes]
      exact before.imp_right fun ⟨absent, event, mem, removed⟩ =>
        ⟨absent, event, List.mem_append_left _ mem, removed⟩

end

/-! ### Verdicts -/

section

variable (household : Household ι κ σ vault key) (first : String → Option Bytes)

/-- Whether a task has validated a token: an entry of the task has looked the client credential up,
and the clock was read since, when the token validated against the credential in effect and the
device. -/
structure Validation (early : List (Entry ι σ)) (writer : Entry ι σ) (value : String)
    (before between : List (Entry ι σ)) (reader : Entry ι σ) (client : ClientCredential)
    (now : Timestamp) : Prop where
  /-- The credential was looked up earlier. -/
  split : early = before ++ reader :: between
  /-- The same task has looked. -/
  own : reader.task = writer.task
  /-- The lookup was told what lay in the slot. -/
  looked : reader.toEvent = ⟨.read (vault.keyFor .clientCredential),
    .ok (household.storedAfter first before (vault.keyFor .clientCredential))⟩
  /-- The credential was in effect when it was looked up. -/
  inEffect : (household.session writer.owner).InEffect key
    (household.storedAfter first before (vault.keyFor .clientCredential))
    (events between writer.task) client
  /-- The credential still is in effect, unless another task has changed the slot since. -/
  standing : Undisturbed (vault.keyFor .clientCredential) writer.task between →
    (household.session writer.owner).InEffect key
      (household.storedAfter first early (vault.keyFor .clientCredential))
      (events between writer.task) client
  /-- The clock was read since. -/
  timed : ⟨.time, now⟩ ∈ events between writer.task
  /-- The token validates. -/
  valid : ∃ claims, Jwt.validate value client.clientId
    (household.session writer.owner).device.identity (Utf8.encode client.secret)
    (Int64.ofInt now.seconds) = .ok claims

variable {household} {first} in
/-- **The credential that a token was validated against** is in effect when the token is written, if
tasks run one after the other. -/
theorem Validation.current {log early late before between : List (Entry ι σ)}
    {writer reader : Entry ι σ} {value : String} {client : ClientCredential} {now : Timestamp}
    (h : household.Validation first early writer value before between reader client now)
    (split : log = early ++ writer :: late) (sequential : Sequential log) :
    (household.session writer.owner).InEffect key
      (household.storedAfter first early (vault.keyFor .clientCredential))
      (events between writer.task) client := by
  have whole : log = before ++ reader :: (between ++ writer :: late) := by
    rw [split, h.split, List.append_assoc, List.cons_append]
  rw [whole] at sequential
  exact h.standing (sequential.undisturbed h.own _)

/-- Whether a blob is written as the identity token by a session with single sign-on, and holds a
token that the task has validated. -/
def Vouches (early : List (Entry ι σ)) (writer : Entry ι σ) (token : IdToken)
    (blob : Bytes) : Prop :=
  (household.session writer.owner).settings.ssoEnabled = true ∧
    (∃ nonce, blob = vault.blob key nonce token) ∧
      ∃ before between reader client now,
        household.Validation first early writer token.value before between reader client now

/-- The rule on identity tokens, for each of the sessions. -/
abbrev vetting (owner : ι) : Watch Stretch :=
  (household.session owner).vault.chronicle key ((household.session owner).vetting key)

/-- **All errands** follow the rule. -/
theorem watched_vetting : household.Watched household.vetting ⟨none, []⟩ where
  errand errand := ((Session.vetting_whole _ key).errand errand _ trivial).mono
    fun _ _ _ => trivial
  granted {owner _ _} granted := by
    rw [← household.vault_eq owner] at granted
    exact granted
  released _ := nofun

end

section

variable {household : Household ι κ σ vault key} {first last : String → Option Bytes}
  {log early late : List (Entry ι σ)} {entry : Entry ι σ}

namespace History

variable (h : household.History household.vetting ⟨none, []⟩ first log last)

include h

/-- What is done follows the rule, with the end of what the task has done. -/
theorem ruled (split : log = early ++ entry :: late) (ruled : entry.effect.isRuled = true) :
    ∃ answer older since, events early entry.task = older ++ since ∧
      (household.session entry.owner).vetting key ⟨answer, since⟩ entry.effect := by
  obtain ⟨older, same⟩ := Vault.exists_since (events early entry.task)
  exact ⟨_, older, _, same, h.permitted split ruled⟩

/-- **The credential that was looked up** is still in effect if other tasks have left its slot
alone. -/
theorem inEffect_of_stands {before between : List (Entry ι σ)} {reader : Entry ι σ}
    (split : log = before ++ reader :: between) {held : Option Bytes} (owner : ι) {task : Nat}
    {client : ClientCredential}
    (looked : reader.toEvent = ⟨.read (vault.keyFor .clientCredential), .ok held⟩)
    (stands : (household.session owner).Stands key held client (events between task))
    (undisturbed : Undisturbed (vault.keyFor .clientCredential) task between) :
    (household.session owner).InEffect key
      (household.storedAfter first log (vault.keyFor .clientCredential))
      (events between task) client := by
  have reads : reader.effect = .read (vault.keyFor .clientCredential) :=
    congrArg Event.effect looked
  have same : household.storedAfter first (before ++ [reader]) (vault.keyFor .clientCredential) =
      held := by
    rw [storedAfter_append, h.stored_eq split (by rw [reads]; nofun) (by rw [reads]; nofun)]
    exact (h.found split looked).symm
  have split' : log = (before ++ [reader]) ++ between := by rw [split]; simp
  subst split'
  have kept := stands.kept
  have removed := stands.removed
  rw [household.vault_eq] at kept removed
  obtain held | ⟨gone, event, mem, removes⟩ := h.slot_eq_or_removed undisturbed kept
  · rw [held, same]
    exact stands.inEffect
  · rw [gone, removed event mem removes]
    exact .absent rfl

/-- **What is written as an identity token** was validated. -/
theorem vouches_of_write (split : log = early ++ entry :: late) {blob : Bytes}
    (writes : entry.effect = .write (vault.keyFor .idToken) blob) :
    ∃ token, household.Vouches first early entry token blob := by
  obtain ⟨answer, older, since, past, ruled⟩ := h.ruled split (by rw [writes]; rfl)
  rw [writes, Session.vetting] at ruled
  obtain ⟨sso, token, nonce, sealed, vetted⟩ := ruled (by rw [household.vault_eq])
  obtain ⟨earlier, held, told, ⟨client, now, claims, stands, timed, valid⟩, rfl⟩ := vetted
  rw [← List.append_assoc] at past
  obtain ⟨before, reader, between, rfl, own, looked, -, rfl⟩ := exists_of_events past
  rw [household.vault_eq] at sealed looked
  obtain ⟨_, earlier⟩ := (split ▸ h).before
  have held := earlier.found rfl looked
  refine ⟨token, sso, ⟨nonce, sealed⟩, before, between, reader, client, now, rfl, own,
    held ▸ looked, held ▸ stands.inEffect, fun undisturbed => ?_, timed, claims, valid⟩
  exact earlier.inEffect_of_stands rfl _ looked stands undisturbed

/-- **What lies there as an identity token** was written as one, if nothing lay there at first. -/
theorem exists_vouches (empty : first (vault.keyFor .idToken) = none) (split : log = early ++ late)
    {blob : Bytes}
    (present : household.storedAfter first early (vault.keyFor .idToken) = some blob) :
    ∃ token before writer after, early = before ++ writer :: after ∧
      writer.toMoment.Stores household.stored (vault.keyFor .idToken) blob ∧
        household.Vouches first before writer token blob := by
  subst split
  obtain ⟨between, earlier⟩ := h.before
  have leaves : ∀ moment ∈ early.map (·.toMoment), moment.Leaves household.stored :=
    List.forall_mem_map.2 fun _ mem => earlier.leaves mem
  obtain ⟨_, _, _, mapped, stores⟩ := Moment.exists_stores leaves earlier.linked
    (by rw [empty]; nofun) (earlier.last_eq ▸ present)
  obtain ⟨before, rest, rfl, -, mapped⟩ := List.map_eq_append_iff.1 mapped
  obtain ⟨writer, after, rfl, rfl, -⟩ := List.map_eq_cons_iff.1 mapped
  obtain ⟨token, vouches⟩ := earlier.vouches_of_write rfl stores.1
  exact ⟨token, before, writer, after, rfl, stores, vouches⟩

/-- **What is presented as an identity token** was found there by the same task. -/
theorem found_of_send (split : log = early ++ entry :: late) {connection : Connection}
    {purpose : Purpose} {request : Request}
    (sends : entry.effect = .send connection purpose request) (uses : purpose.usesIdToken = true) :
    (household.session entry.owner).settings.ssoEnabled = true ∧ ∃ token blob before reader between,
      (household.session entry.owner).CarriesIdToken request token purpose ∧
        early = before ++ reader :: between ∧ reader.task = entry.task ∧
          household.storedAfter first before (vault.keyFor .idToken) = some blob ∧
            vault.content? key blob = some token := by
  obtain ⟨answer, older, since, past, ruled⟩ := h.ruled split (by rw [sends]; rfl)
  rw [sends, Session.vetting] at ruled
  obtain ⟨sso, token, carries, event, mem, blob, rfl, content⟩ := ruled uses
  obtain ⟨earlier, later, rfl⟩ := List.append_of_mem mem
  rw [← List.append_assoc] at past
  obtain ⟨before, reader, between, rfl, own, found, -, -⟩ := exists_of_events past
  rw [household.vault_eq] at found content
  obtain ⟨_, earlier⟩ := (split ▸ h).before
  exact ⟨sso, token, blob, before, reader, between, carries, rfl, own,
    (earlier.found rfl found).symm, content⟩

/-- **What is presented as an identity token** was written as one. -/
theorem exists_vouches_of_send (empty : first (vault.keyFor .idToken) = none)
    (split : log = early ++ entry :: late) {connection : Connection} {purpose : Purpose}
    {request : Request} (sends : entry.effect = .send connection purpose request)
    (uses : purpose.usesIdToken = true) :
    ∃ token blob before writer after,
      (household.session entry.owner).CarriesIdToken request token purpose ∧
        early = before ++ writer :: after ∧
          writer.toMoment.Stores household.stored (vault.keyFor .idToken) blob ∧
            household.Vouches first before writer token blob := by
  obtain ⟨-, token, blob, before, reader, between, carries, rfl, -, present, content⟩ :=
    h.found_of_send split sends uses
  obtain ⟨other, older, writer, after, rfl, stores, sso, ⟨nonce, sealed⟩, validated⟩ :=
    h.exists_vouches empty (split.trans (List.append_assoc ..)) present
  -- A blob holds one token.
  rw [sealed, Vault.content?_blob (Record.faithful_idToken other) nonce] at content
  obtain rfl := Option.some.inj content
  exact ⟨other, blob, older, writer, after ++ reader :: between, carries, by simp, stores, sso,
    ⟨nonce, sealed⟩, validated⟩

/-- **Without single sign-on** nothing is written as an identity token, and none is presented. -/
theorem off (mem : entry ∈ log)
    (disabled : (household.session entry.owner).settings.ssoEnabled = false) :
    (∀ blob, entry.effect ≠ .write (vault.keyFor .idToken) blob) ∧
      ∀ connection purpose request, entry.effect = .send connection purpose request →
        purpose.usesIdToken = false := by
  obtain ⟨early, late, split⟩ := List.append_of_mem mem
  constructor
  · intro blob writes
    obtain ⟨_, sso, -⟩ := h.vouches_of_write split writes
    rw [disabled] at sso
    cases sso
  · intro connection purpose request sends
    by_contra uses
    obtain ⟨sso, -⟩ := h.found_of_send split sends (Bool.not_eq_false _ ▸ uses)
    rw [disabled] at sso
    cases sso

end History

/-- **While a token is rejected**, the task leaves the record and the user's credential alone. -/
theorem History.unmoved_of_rejects {γ : Type} {watch : ι → Watch γ} {mark : γ}
    (h : household.History watch mark first log last) {part : List (Entry ι σ)} {owner : ι}
    {value : String} {error : Jwt.Error} (within : part <:+: log) (mem : entry ∈ part)
    (rejects : (household.session owner).Rejects value error (events part entry.task)) :
    household.stored entry.after (vault.keyFor .idToken) =
        household.stored entry.before (vault.keyFor .idToken) ∧
      ∀ credential, entry.effect ≠ .cacheUser credential := by
  have looks := Session.looking_of_rejects rejects _ (mem_events mem)
  have leaves := h.leaves (within.subset mem)
  refine ⟨leaves.stored_eq ?unwritten ?left, ?cached⟩
  case unwritten =>
    intro blob writes
    rw [writes] at looks
    exact looks
  case left =>
    intro removes
    rw [removes, Session.Looking, household.vault_eq] at looks
    exact vault.keyFor_ne (by decide) looks
  case cached =>
    intro credential caches
    rw [caches] at looks
    exact looks

section

variable (household) (first log)

/-- What is said of a log about the identity tokens in it. -/
structure IdTokensVouched : Prop where
  /-- Whatever is written as an identity token was validated, by a session with single sign-on. -/
  written : ∀ early entry late blob, log = early ++ entry :: late →
    entry.effect = .write (vault.keyFor .idToken) blob →
      ∃ token, household.Vouches first early entry token blob
  /-- If tasks run one after the other, it was validated against the client credential that is in
  effect when it is written. -/
  current : Sequential log → ∀ early entry late value before between reader client now,
    log = early ++ entry :: late →
      household.Validation first early entry value before between reader client now →
        (household.session entry.owner).InEffect key
          (household.storedAfter first early (vault.keyFor .clientCredential))
          (events between entry.task) client
  /-- Whatever lies there at any time was written so. -/
  kept : ∀ early late blob, log = early ++ late →
    household.storedAfter first early (vault.keyFor .idToken) = some blob →
      ∃ token before writer after, early = before ++ writer :: after ∧
        writer.toMoment.Stores household.stored (vault.keyFor .idToken) blob ∧
          household.Vouches first before writer token blob
  /-- Whatever is presented to be exchanged or revoked was written so. -/
  used : ∀ early entry late connection purpose request, log = early ++ entry :: late →
    entry.effect = .send connection purpose request → purpose.usesIdToken = true →
      ∃ token blob before writer after,
        (household.session entry.owner).CarriesIdToken request token purpose ∧
          early = before ++ writer :: after ∧
            writer.toMoment.Stores household.stored (vault.keyFor .idToken) blob ∧
              household.Vouches first before writer token blob
  /-- Without single sign-on nothing is written, exchanged or revoked. -/
  off : ∀ entry ∈ log, (household.session entry.owner).settings.ssoEnabled = false →
    (∀ blob, entry.effect ≠ .write (vault.keyFor .idToken) blob) ∧
      ∀ connection purpose request, entry.effect = .send connection purpose request →
        purpose.usesIdToken = false
  /-- While a token is rejected, the task leaves the record alone and the user's credential too. -/
  rejected : ∀ part task owner value error, part <:+: log →
    (household.session owner).Rejects value error (events part task) →
      ∀ entry ∈ part, entry.task = task →
        household.stored entry.after (vault.keyFor .idToken) =
            household.stored entry.before (vault.keyFor .idToken) ∧
          ∀ credential, entry.effect ≠ .cacheUser credential

end

/-- **Identity tokens are kept and used after validation only**, and a rejected one is not kept and
stops nothing else. -/
theorem idToken_validated [DecidableEq κ] {state : σ} {timeline : Timeline ι κ σ}
    (sound : household.IsSound state)
    (empty : household.stored state (vault.keyFor .idToken) = none)
    (run : household.Run (.blank state) timeline) :
    household.IdTokensVouched (household.stored state) timeline.log ∧
      ∀ owner, (household.session owner).Tolerates := by
  have h := history_run household.watched_vetting sound run
  refine ⟨⟨?written, ?current, ?kept, ?used, ?off, ?rejected⟩, fun owner => Session.tolerates _⟩
  case written => exact fun _ _ _ _ split writes => h.vouches_of_write split writes
  case current =>
    exact fun sequential _ _ _ _ _ _ _ _ _ split validation => validation.current split sequential
  case kept => exact fun _ _ _ split present => h.exists_vouches empty split present
  case used =>
    exact fun _ _ _ _ _ _ split sends uses => h.exists_vouches_of_send empty split sends uses
  case off => exact fun _ mem disabled => h.off mem disabled
  case rejected =>
    rintro part _ owner value error within rejects entry mem rfl
    exact h.unmoved_of_rejects within mem rejects

end

end Household

/-! ### A run in which a token is accepted -/

namespace Surroundings

/-- Whatever is stored is there, and everything else is as where a token is given out. -/
def retaining : (effect : Effect) → (String → Option Bytes) →
    effect.Reply × (String → Option Bytes)
  | .read name, stored => (.ok (stored name), stored)
  | .write name value, stored => (.ok (), Function.update stored name (some value))
  | .remove name, stored => (.ok (), Function.update stored name none)
  | effect, stored => ((yielding effect false).1, stored)

/-- They keep what is stored. -/
def retainingKeeper : Keeper (String → Option Bytes) Session.confidential.vault
    (Vector.replicate 32 0) where
  handle := retaining
  stored stored := stored
  IsSound _ := True
  isSound _ _ := trivial
  leaves effect _ := by
    cases effect with
    | _ => exact rfl
  read _ _ _ found := (Except.ok.inj found).symm
  list _ _ listed := nomatch listed
  sealingKey _ _ given := (Except.ok.inj given).symm

end Surroundings

namespace Session

open Surroundings (retaining)

/-- The payload of a token for the session. -/
def claimed : List (String × Json.Value) :=
  [("aud", .string "client"), ("azp", .string "device"), ("exp", .integer 1)]

/-- A token for the session. -/
def genuine : String := Jwt.sign (.object claimed) (Utf8.encode "secret")

theorem validate_genuine :
    Jwt.validate genuine "client" "device" (Utf8.encode "secret") 0 =
      .ok ⟨Jwt.header, .object claimed⟩ := by
  have read : Json.parse? (Json.Value.object claimed).encode = some (.object claimed) := by rfl
  exact Jwt.validate_sign read (.inl rfl) rfl ⟨.integer 1, _, rfl, .integer 1, by decide⟩

/-- The token is accepted where nothing was stored. -/
theorem write_mem_effects_acceptIdToken :
    .write (confidential.vault.keyFor .idToken)
        (confidential.vault.blob (Vector.replicate 32 0) (Vector.replicate 12 0)
          (IdToken.withType genuine none)) ∈
      (confidential.acceptIdToken genuine none).effects retaining fun _ => none := by
  have named : confidential.clientCredential.run retaining (fun _ => none) =
      (.ok confidential.configuredCredential, fun _ => none) := rfl
  have timed : Program.seconds.run retaining (fun _ => none) = (.ok 0, fun _ => none) := rfl
  have sso : confidential.settings.ssoEnabled = true := rfl
  rw [acceptIdToken, if_pos sso]
  have valid : Jwt.validate genuine confidential.configuredCredential.clientId
      confidential.device.identity (Utf8.encode confidential.configuredCredential.secret) 0 =
        .ok ⟨Jwt.header, .object claimed⟩ := validate_genuine
  have stored : (confidential.vault.setIdToken (.withType genuine none)).effects retaining
      (fun _ => none) = [.hold, .sealingKey confidential.vault.name, .nonce,
        .write (confidential.vault.keyFor .idToken) (confidential.vault.blob
          (Vector.replicate 32 0) (Vector.replicate 12 0) (IdToken.withType genuine none)),
        .release] := rfl
  refine Program.mem_effects_bind_ok named (Program.mem_effects_bind_ok timed ?_)
  rw [valid]
  refine Program.mem_effects_bind ?_
  rw [stored]
  simp

end Session

namespace Household

open Surroundings (retainingKeeper)

/-- One session, which begins with nothing stored. -/
def retainer : Household Unit Unit (String → Option Bytes) Session.confidential.vault
    (Vector.replicate 32 0) where
  session _ := Session.confidential
  vault_eq := lone.vault_eq
  lock _ := ()
  keeper _ := retainingKeeper
  stored stored := stored
  stored_eq _ := rfl
  IsSound _ := True
  isSound_eq _ := rfl

/-- A token is accepted, and stored. -/
theorem idToken_validated_accepted :
    ∃ (timeline : Timeline Unit Unit (String → Option Bytes)) (entry : Entry Unit _) (blob : Bytes),
      retainer.Run (.blank fun _ => none) timeline ∧ entry ∈ timeline.log ∧
        entry.effect = .write (Session.confidential.vault.keyFor .idToken) blob ∧
          retainer.IdTokensVouched (fun _ => none) timeline.log ∧
            ∀ owner, (retainer.session owner).Tolerates := by
  have errand : (retainer.session ()).Errand
      ((Engine.Operation.acceptIdToken Session.genuine none).program Session.confidential) :=
    .operation (.acceptIdToken _ none)
  obtain ⟨timeline, run, same⟩ := exists_run_errand (fun _ => none) trivial errand
  have logged := same ▸ Session.write_mem_effects_acceptIdToken
  obtain ⟨entry, within, writes⟩ := List.mem_map.1 logged
  obtain ⟨vouched, tolerates⟩ := idToken_validated trivial rfl run
  exact ⟨timeline, entry, _, run, within, writes, vouched, tolerates⟩

end Household

end GatewaySession
