import GatewaySession.Proofs.Session.Composition
import GatewaySession.Proofs.Session.Ordinary
import GatewaySession.Proofs.Vault.Keeping

/-!
# Who removes the record of the client id

The record of the client id is what tells the next engine whether the other records are its own.
Most of what an engine does leaves it alone. Forgetting everything removes it with the rest, and
stores it anew as the last thing; so does the opening of a session that finds a foreign one.

A watch follows a single program with one bit: whether the program owes the record, so that it may
remove it, and has to store it before it ends without an error. With an error it may end any time,
and nothing stores the record then.

## Main definitions

* `Vault.recording` — the watch
* `Program.Spares` — programs that leave the record alone
* `Program.Records` — programs that owe the record from the beginning
* `Program.Behaves` — programs that do not owe it and leave it there

## Main results

* `Session.spares_execute` — executing a request leaves the record alone
* `Engine.records_destroyAll`, `Engine.records_deregister`, `Engine.records_start` — forgetting
  everything, and opening a session, owe it
-/

namespace GatewaySession

/-- The watch on the record of the client id. The mark says whether a program owes the record. -/
def Vault.recording (vault : Vault) (key : Aes256.Key) (clientId : String) : Watch Bool where
  permits
    | _, .write name value =>
      name = vault.keyFor .configuredClientId → vault.Marks key clientId (some value)
    | owes, .remove name => name = vault.keyFor .configuredClientId → owes = true
    | _, _ => True
  grants
    | .sealingKey name, .ok other => name = vault.name → other = key
    | _, _ => True
  next
    | owes, .write name _, .ok _ => owes && name != vault.keyFor .configuredClientId
    | owes, _, _ => owes

namespace Program

variable {α β : Type} {vault : Vault} {key : Aes256.Key} {clientId : String}

/-- Whether a program leaves the record alone. -/
def Spares (vault : Vault) (key : Aes256.Key) (clientId : String) (program : Program α) : Prop :=
  ∀ owes, program.Meets (vault.recording key clientId) (fun owes' _ => owes' = owes) owes

/-- Whether a program that owes the record does not store it. -/
def Owes (vault : Vault) (key : Aes256.Key) (clientId : String) (program : Program α) : Prop :=
  program.Meets (vault.recording key clientId) (fun owes _ => owes = true) true

/-- Whether a program that owes the record has stored it when it ends without an error. -/
def Records (vault : Vault) (key : Aes256.Key) (clientId : String) (program : Program α) : Prop :=
  program.Meets (vault.recording key clientId)
    (fun owes result => ∀ a, result = .ok a → owes = false) true

/-- Whether a program that does not owe the record leaves it there. It may store it. -/
def Behaves (vault : Vault) (key : Aes256.Key) (clientId : String) (program : Program α) : Prop :=
  program.Meets (vault.recording key clientId) (fun _ _ => True) false

/-! ### Rules -/

namespace Spares

theorem pure (a : α) : Spares vault key clientId (Pure.pure a) := fun _ => rfl

theorem bind {program : Program α} {f : α → Program β} (h : program.Spares vault key clientId)
    (hf : ∀ a, (f a).Spares vault key clientId) : (program >>= f).Spares vault key clientId := by
  refine fun owes => Meets.bind ((h owes).mono ?_)
  rintro mark (error | a) rfl
  · rfl
  · exact hf a mark

/-- **Sparing the record** is kept by the ways of building programs. -/
theorem formed : Formed fun _ program => program.Spares vault key clientId where
  done _ _ := rfl
  bind := bind
  attempt h owes := Meets.attempt (h owes)
  perform := by
    intro _ effect next neutral h owes
    refine ⟨?_, fun reply _ => ?_⟩
    · cases effect with
      | write | remove => exact neutral.elim
      | _ => trivial
    · have same : (vault.recording key clientId).next owes effect reply = owes := by
        cases effect with
        | write => exact neutral.elim
        | _ => rfl
      rw [same]
      exact h reply owes

/-- Ordinary programs leave the record alone, whatever they may fail with. -/
theorem of_ordinary {program : Program α} (h : program.Ordinary vault fun _ => True) :
    program.Spares vault key clientId := by
  intro owes
  refine Meets.mono (Meets.transfer (fun _ owes' => owes' = owes) ?_ ?_ ?_ rfl h)
    fun owes' result ⟨_, same, _⟩ => same
  · intro _ owes' effect _ permitted
    cases effect with
    | write name value => exact fun same => absurd same permitted
    | remove name => exact fun same => absurd same permitted
    | _ => trivial
  · intro _ effect reply _ _
    cases effect <;> first | trivial | exact fun _ _ => trivial
  · intro _ owes' effect reply same permitted
    cases effect with
    | write name value =>
      have other : (name != vault.keyFor .configuredClientId) = true := bne_iff_ne.2 permitted
      cases reply with
      | error error => exact same
      | ok _ =>
        show (owes' && name != vault.keyFor .configuredClientId) = owes
        rw [other, Bool.and_true]
        exact same
    | _ => exact same

/-- Ordinary programs leave the record alone also where nobody looks at what they find. -/
theorem of_ordinary_discarded {program : Program α} (h : program.Ordinary vault fun _ => True) :
    (program >>= fun _ => Pure.pure ()).Spares vault key clientId :=
  .bind (.of_ordinary h) fun _ => .pure ()

/-- A program that spares the record leaves it there. -/
theorem behaves {program : Program α} (h : program.Spares vault key clientId) :
    program.Behaves vault key clientId := (h false).mono fun _ _ _ => trivial

/-- A program that spares the record still owes it. -/
theorem owes {program : Program α} (h : program.Spares vault key clientId) :
    program.Owes vault key clientId := h true

end Spares

namespace Owes

theorem then_owes {program : Program α} {f : α → Program β} (h : program.Owes vault key clientId)
    (hf : ∀ a, (f a).Owes vault key clientId) : (program >>= f).Owes vault key clientId := by
  refine Meets.bind (h.mono ?_)
  rintro mark (error | a) rfl
  · rfl
  · exact hf a

theorem then_records {program : Program α} {f : α → Program β} (h : program.Owes vault key clientId)
    (hf : ∀ a, (f a).Records vault key clientId) : (program >>= f).Records vault key clientId := by
  refine Meets.bind (h.mono ?_)
  rintro mark (error | a) rfl
  · exact fun _ ok => nomatch ok
  · exact hf a

theorem rescue_records {program : Program α} {f : Except Error α → Program β}
    (h : program.Owes vault key clientId) (hf : ∀ result, (f result).Records vault key clientId) :
    (program.attempt >>= f).Records vault key clientId := by
  refine Meets.rescue (h.mono ?_)
  rintro mark result rfl
  exact hf result

end Owes

namespace Records

/-- A program that has recorded need not do more. -/
theorem then_ofExcept {program : Program α} {f : α → Except Error β}
    (h : program.Records vault key clientId) :
    (program >>= fun a => ofExcept (f a)).Records vault key clientId := by
  refine Meets.bind (h.mono ?_)
  rintro mark (error | a) recorded
  · exact fun _ ok => nomatch ok
  · exact fun _ _ => recorded a rfl

theorem then_pure {program : Program α} {f : α → β} (h : program.Records vault key clientId) :
    (program >>= fun a => Pure.pure (f a)).Records vault key clientId :=
  then_ofExcept (f := fun a => .ok (f a)) h

/-- A program that owes the record cannot have ended without an error. -/
theorem not_done_ok {a : α} : ¬(done (.ok a) : Program α).Records vault key clientId :=
  fun h => nomatch h a rfl

/-- One effect of a program that owes the record: it goes on owing it, or it has stored it. -/
theorem perform {effect : Effect} {next : effect.Reply → Program α}
    (h : (Program.perform effect next).Records vault key clientId) :
    (vault.recording key clientId).permits true effect ∧
      ∀ reply, (vault.recording key clientId).grants effect reply →
        (vault.recording key clientId).next true effect reply = true ∧
            (next reply).Records vault key clientId ∨
          (vault.recording key clientId).next true effect reply = false ∧
            (next reply).Behaves vault key clientId := by
  refine ⟨h.1, ?_⟩
  intro reply granted
  have met := h.2 reply granted
  cases owes : (vault.recording key clientId).next true effect reply with
  | true =>
    rw [owes] at met
    exact .inl ⟨rfl, met⟩
  | false =>
    rw [owes] at met
    exact .inr ⟨rfl, met.mono fun _ _ _ => trivial⟩

end Records

/-- One effect of a program that leaves the record there. -/
theorem Behaves.perform {effect : Effect} {next : effect.Reply → Program α}
    (h : (Program.perform effect next).Behaves vault key clientId) :
    (vault.recording key clientId).permits false effect ∧
      ∀ reply, (vault.recording key clientId).grants effect reply →
        (next reply).Behaves vault key clientId := by
  refine ⟨h.1, ?_⟩
  intro reply granted
  have met := h.2 reply granted
  have still : (vault.recording key clientId).next false effect reply = false := by
    cases effect with
    | write name value => cases reply <;> rfl
    | _ => rfl
  rw [still] at met
  exact met

/-- Holding the store changes nothing. -/
theorem Meets.guarded {program : Program α} {post : Bool → Except Error α → Prop} {owes : Bool}
    (h : program.Meets (vault.recording key clientId) post owes) :
    program.guarded.Meets (vault.recording key clientId) post owes :=
  ask trivial fun _ _ => rescue (h.mono fun _ _ met => ask trivial fun _ _ => met)

end Program

open Program (Meets Spares Owes Records)

variable {key : Aes256.Key} {clientId : String}

/-! ### Vaults -/

namespace Vault

variable {vault : Vault}

/-- Removing a key owes the record if the key is its own. -/
theorem owes_removeKeys (names : List String) : (removeKeys names).Owes vault key clientId := by
  induction names with
  | nil => exact Spares.owes (.pure ())
  | cons name names ih =>
    refine Owes.then_owes (Meets.rescue ⟨fun _ => rfl, fun reply _ => ?_⟩) fun _ => ih
    cases reply with
    | error error => rfl
    | ok _ => rfl

theorem owes_clearAll : vault.clearAll.Owes vault key clientId := by
  refine Meets.guarded (Owes.then_owes (Meets.rescue ⟨trivial, fun reply _ => ?_⟩) owes_removeKeys)
  cases reply with
  | error error => rfl
  | ok names => rfl

/-- **Storing the record** pays what is owed. -/
theorem records_setConfiguredClientId :
    (vault.setConfiguredClientId clientId).Records vault key clientId := by
  refine Meets.guarded (Meets.bind (Meets.bind ⟨trivial, fun reply granted => ?_⟩))
  cases reply with
  | error error => exact fun _ ok => nomatch ok
  | ok other =>
    obtain rfl := granted rfl
    refine ⟨trivial, fun nonce _ => Meets.rescue ⟨fun _ => ⟨nonce, rfl⟩, fun reply _ => ?_⟩⟩
    cases reply with
    | error error => exact fun _ ok => nomatch ok
    | ok _ =>
      intro _ _
      show (true && vault.keyFor .configuredClientId != vault.keyFor .configuredClientId) = false
      rw [bne_self_eq_false, Bool.and_false]

end Vault

/-! ### Sessions -/

namespace Session

variable {session : Session}

/-- Everything is admitted. -/
theorem admitted (error : Error) (_ : ¬error.IsVerdict) : (fun _ : Error => True) error := trivial

theorem owes_destroyAll : session.destroyAll.Owes session.vault key clientId :=
  (Spares.owes (.of_ordinary .dropUser)).then_owes fun _ => Vault.owes_clearAll

/-- **Reconciling** may find a foreign record, and stores its own at the end. -/
theorem records_reconcile :
    session.reconcile.Records session.vault key session.settings.clientId := by
  have read : session.recordedClientId.Ordinary session.vault fun _ => True := by
    refine .rescue (Vault.ordinary_read admitted _) fun result _ => ?_
    split
    · exact .pure _
    · exact .fail trivial
    · exact .pure _
  refine (Spares.of_ordinary read).owes.then_records fun recorded => ?_
  have record (foreign : Bool) : (do
      session.vault.setConfiguredClientId session.settings.clientId
      return foreign).Records session.vault key session.settings.clientId :=
    Records.then_ofExcept Vault.records_setConfiguredClientId
  have settle (foreign : Bool) : (if foreign then do
        session.destroyAll
        session.vault.setConfiguredClientId session.settings.clientId
        return foreign
      else do
        session.vault.setConfiguredClientId session.settings.clientId
        return foreign).Records session.vault key session.settings.clientId := by
    split
    · exact owes_destroyAll.then_records fun _ => record _
    · exact record _
  exact settle _

/-! ### Executing requests -/

theorem spares_send (purpose : Purpose) (request : Request) :
    (session.send purpose request).Spares session.vault key clientId :=
  .bind (.of_ordinary (ordinary_connection admitted)) fun _ _ => ⟨trivial, fun _ _ => rfl⟩

/-- **An attempt** leaves the record alone: what goes before and after the caller's request is
ordinary, but for asking the user. -/
theorem spares_round (ctx : Context) :
    (session.round ctx).Spares session.vault key clientId :=
  Spares.formed.round (fun channel => .of_ordinary (ordinary_deliverOtp admitted channel))
    (fun error => .of_ordinary (ordinary_react admitted error))
    (fun ctx => .of_ordinary (ordinary_prepare admitted ctx))
    (fun id request => spares_send (.caller id) request) ctx

/-- **Executing a request** leaves the record alone. -/
theorem spares_execute (ctx : Context) :
    (session.execute ctx).Spares session.vault key clientId :=
  Spares.formed.execute spares_round ctx

end Session

/-! ### Engines -/

namespace Engine

variable {session : Session}

/-- Telling the gateway comes first, and what it says is reported last. -/
theorem records_thenAlways {vault : Vault} {tell clear : Program Unit}
    (told : tell.Ordinary vault fun _ => True) (h : clear.Records vault key clientId) :
    (thenAlways tell clear).Records vault key clientId :=
  (Spares.of_ordinary told).owes.rescue_records fun told =>
    Records.then_ofExcept (f := fun _ => told) h

/-- **Forgetting everything** owes the record. -/
theorem records_destroyAll :
    (destroyAll session).Records session.vault key session.settings.clientId :=
  Session.owes_destroyAll.then_records fun _ =>
    (Spares.owes (.of_ordinary .dropConnection)).then_records fun _ =>
      Records.then_ofExcept Session.records_reconcile

/-- **Removing the device** owes the record, whatever the gateway says. -/
theorem records_deregister :
    (deregister session).Records session.vault key session.settings.clientId :=
  records_thenAlways (ordinary_removeDevice Session.admitted) records_destroyAll

/-- **Opening a session** owes the record. -/
theorem records_start (settings : Settings) (device : Device) :
    (start settings device).Records ⟨settings.storagePrefix⟩ key settings.clientId := by
  rw [start]
  cases made : Session.make settings device with
  | error error =>
    intro _ ok
    cases ok
  | ok session =>
    obtain ⟨rfl, -⟩ := Session.eq_of_make made
    exact Records.then_ofExcept Session.records_reconcile

/-- Ending the user's session leaves the record alone. -/
theorem spares_logout (contactServer : Bool) :
    (logout session contactServer).Spares session.vault key clientId := by
  refine .of_ordinary (.rescue ?_ fun told _ => .bind (.bind ?_ fun _ => .dropConnection)
    fun _ => .ofExcept fun _ _ => trivial)
  · split
    · exact ordinary_revokeIdToken Session.admitted
    · exact .pure ()
  · exact Session.ordinary_clearUserTokens Session.admitted

end Engine

-- What these say of a program is said by the rules above, and never by walking its tree.
attribute [irreducible] Program.Spares Program.Owes Program.Records Program.Behaves

end GatewaySession
