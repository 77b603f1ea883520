import GatewaySession.Proofs.Credential.Acceptance
import GatewaySession.Proofs.Engine.Corruption
import GatewaySession.Proofs.Exchange.Rejection
import GatewaySession.Proofs.Rehearsal.Keeping
import GatewaySession.Proofs.Vault.Reach

/-!
# Identity tokens without a client secret

The client credential in effect may have no secret: it was provisioned without one, or none is
configured and none was provisioned yet. Identity tokens are then validated under the empty secret.
Nobody needs to know anything to sign under it, so everybody can make a token that is accepted.

What is said here is exactly this. Where the credential in effect has no secret, or an empty one, a
token is accepted if it would be genuine under the empty secret, for the client and the device and
at the time; every other token is rejected, as a token, and leaves what is stored and who is logged
in as it was. The tokens that come with a registration or with a grant go the same way.

## Main definitions

* `Session.IsUnkeyed` — what a token has to be where there is no secret
* `Session.Refuses`, `Session.Admits` — what becomes of a token

## Main results

* `Session.run_clientCredential` — the credential in effect, by what is stored
* `Session.unkeyed_decides` — which tokens are accepted without a secret
-/

namespace GatewaySession

open Rehearsal
open Program (Meets)

namespace Session

variable {session : Session} {world : World} {place : Place} {key : Aes256.Key}

/-! ### Looking up the credential -/

/-- Reading a slot reaches that slot only, which is emptied if what it holds cannot be read. -/
theorem reach_readable {α : Type} [Record α] (slot : Slot) :
    (session.readable slot (session.vault.read slot : Program (Option α))).Meets
      (Vault.reach session.vault.name (· = session.vault.keyFor slot)) (fun _ _ => True) () := by
  refine Meets.rescue (Vault.reach_read.mono ?_)
  rintro _ (error | value) -
  · have cleared : (session.vault.clear slot).Meets (Vault.reach session.vault.name
        (· = session.vault.keyFor slot)) (fun _ _ => True) () := Vault.reach_clear rfl
    split
    · exact Meets.rescue (cleared.mono fun _ _ _ => trivial)
    · trivial
  · trivial

/-- Looking up the client credential reaches its slot only. -/
theorem reach_clientCredential : session.clientCredential.Meets
    (Vault.reach session.vault.name (· = session.vault.keyFor .clientCredential))
    (fun _ _ => True) () := by
  refine Meets.bind (Meets.bind ((reach_readable .clientCredential).mono ?_))
  rintro _ (error | (_ | credential)) -
  · trivial
  · trivial
  · exact Meets.seconds trivial fun _ _ => trivial

/-- **The credential in effect** is the one found in its slot, unless it has expired, or else that
of the settings. -/
theorem run_clientCredential (opens : world.Opens place session.vault key) :
    ∃ last, world.perform place session.clientCredential =
        (((session.vault.finding key world.storage .clientCredential).answer
            (session.vault.keyFor .clientCredential)
            (·.filter fun credential => !credential.isExpiredAt (Int64.ofInt world.now))).map
          (·.getD session.configuredCredential), last) ∧
      last.Opens place session.vault key := by
  obtain ⟨last, run, -, sameTime, opens'⟩ := run_readable opens .clientCredential
  refine ⟨last, ?_, opens'⟩
  cases finding : session.vault.finding key world.storage .clientCredential with
  | garbled error =>
    rw [finding] at run
    exact Program.run_bind_error (Program.run_bind_error run)
  | nothing =>
    rw [finding] at run
    exact Program.run_bind_ok ((Program.run_bind_ok run).trans (Program.run_pure _ _ _))
  | corrupt =>
    rw [finding] at run
    exact Program.run_bind_ok ((Program.run_bind_ok run).trans (Program.run_pure _ _ _))
  | record credential =>
    rw [finding] at run
    have seconds : Program.seconds.run (World.answer place) last =
        (.ok (Int64.ofInt world.now), last) := by
      rw [← sameTime]
      rfl
    have stored : session.storedClientCredential.run (World.answer place) world =
        (.ok (if credential.isExpiredAt (Int64.ofInt world.now) then none else some credential),
          last) :=
      (Program.run_bind_ok run).trans ((Program.run_bind_ok seconds).trans
        (Program.run_pure _ _ _))
    refine (Program.run_bind_ok stored).trans ((Program.run_pure _ _ _).trans ?_)
    rw [Finding.answer, Option.filter_some]
    cases credential.isExpiredAt (Int64.ofInt world.now) <;> rfl

/-! ### What becomes of a token -/

/-- What a token has to be for a session without a secret: genuine under the empty one. -/
def IsUnkeyed (session : Session) (client : ClientCredential) (now : Int64) (value : String) :
    Prop :=
  ∃ first second last claims, Text.Joins '.' value [first, second, last] ∧
    Jwt.IsGenuine first second last client.clientId session.device.identity [] now claims

/-- What is validated under the empty secret. -/
theorem isUnkeyed_iff {client : ClientCredential} {now : Int64} {value : String} :
    session.IsUnkeyed client now value ↔ ∃ claims,
      Jwt.validate value client.clientId session.device.identity [] now = .ok claims := by
  constructor
  · rintro ⟨first, second, third, claims, joins, genuine⟩
    exact ⟨claims, Jwt.validate_eq_ok_iff.2 ⟨first, second, third, joins, genuine⟩⟩
  · rintro ⟨claims, valid⟩
    obtain ⟨first, second, third, joins, genuine⟩ := Jwt.validate_eq_ok_iff.1 valid
    exact ⟨first, second, third, claims, joins, genuine⟩

/-- Whether a token is refused: as a token, or silently where it comes with a response, and without
a trace in what is stored and in who is logged in. -/
structure Refuses (session : Session) (world : World) (place : Place) (value : String)
    (type : Option String) : Prop where
  /-- The token is rejected, and slot and credential stay as they were. -/
  rejects : ∃ error last, world.perform place (session.acceptIdToken value type) =
      (.error (.jwt error), last) ∧
    last.storage.get (session.vault.keyFor .idToken) =
      world.storage.get (session.vault.keyFor .idToken) ∧
    (last.seat place.seat).user = (world.seat place.seat).user
  /-- With a registration, it is ignored. -/
  ignores : ∃ last, world.perform place (session.acceptIssuedIdToken value type) = (.ok (), last) ∧
    last.storage.get (session.vault.keyFor .idToken) =
      world.storage.get (session.vault.keyFor .idToken) ∧
    (last.seat place.seat).user = (world.seat place.seat).user
  /-- With a grant, it is not stored, whatever comes of the rest. -/
  plants : ∀ grant : TokenGrant, grant.idToken = some value → grant.idTokenType = type →
    (world.perform place (session.acceptGrant grant)).2.storage.get
        (session.vault.keyFor .idToken) = world.storage.get (session.vault.keyFor .idToken)

/-- Whether a token is accepted: it is stored, and the cached credential of the user is dropped. -/
def Admits (session : Session) (world : World) (place : Place) (key : Aes256.Key)
    (value : String) (type : Option String) : Prop :=
  ∃ nonce last, world.perform place (session.acceptIdToken value type) = (.ok (), last) ∧
    last.storage.get (session.vault.keyFor .idToken) =
      .ok (some (session.vault.blob key nonce (IdToken.withType value type))) ∧
    (last.seat place.seat).user = none

/-! ### Refused -/

/-- Looking the credential up leaves the identity token, the user and the clock alone. -/
theorem leaves_clientCredential {result : Except Error ClientCredential} {last : World}
    (run : world.perform place session.clientCredential = (result, last)) :
    last.storage.get (session.vault.keyFor .idToken) =
        world.storage.get (session.vault.keyFor .idToken) ∧
      (last.seat place.seat).user = (world.seat place.seat).user ∧ last.now = world.now := by
  have met : session.clientCredential.Meets (Vault.reach session.vault.name
      (· = session.vault.keyFor .clientCredential)) (fun _ _ => True) () := reach_clientCredential
  have leaves := met.leaves place world
  rw [show session.clientCredential.run (World.answer place) world = (result, last) from run]
    at leaves
  refine ⟨leaves.get _ ?_, ?_, leaves.now⟩
  · exact Vault.keyFor_ne _ nofun
  · rw [World.seat, World.seat, leaves.seats]

/-- Whether a program leaves what is stored under a name alone, in any world. -/
def Preserves {α : Type} (place : Place) (name : String) (program : Program α) : Prop :=
  ∀ world : World, (world.perform place program).2.storage.get name = world.storage.get name

theorem Preserves.bind {α β : Type} {name : String} {program : Program α} {f : α → Program β}
    (h : Preserves place name program) (rest : ∀ a, Preserves place name (f a)) :
    Preserves place name (program >>= f) := by
  intro world
  rw [World.perform, Program.run_bind]
  have first := h world
  rw [World.perform] at first
  cases run : program.run (World.answer place) world with
  | mk result last =>
  rw [run] at first
  cases result with
  | error error => exact first
  | ok a => exact (rest a last).trans first

/-- A grant without an identity token leaves its slot alone. -/
theorem preserves_acceptGrant {grant : TokenGrant} (unissued : grant.idToken = none) :
    Preserves place (session.vault.keyFor .idToken) (session.acceptGrant grant) := by
  have stored {α : Type} [Record α] (slot : Slot) (other : Slot.idToken ≠ slot) (value : α) :
      Preserves place (session.vault.keyFor .idToken) (session.vault.store slot value) := by
    intro world
    have reached : (session.vault.store slot value).Meets (Vault.reach session.vault.name
        (· = session.vault.keyFor slot)) (fun _ _ => True) () := Vault.reach_store rfl
    exact (reached.leaves place world).get _ (Vault.keyFor_ne _ other)
  have dropped : Preserves place (session.vault.keyFor .idToken) Program.dropConnection :=
    fun world => congrArg (Storage.get _) (World.sameStore_cacheConnection world place.desk none).1
  unfold acceptGrant
  rw [unissued]
  refine Preserves.bind (fun _ => rfl) fun now => Preserves.bind ?_ fun _ => ?_
  · exact Preserves.bind (stored .accessToken nofun _) fun _ _ => rfl
  · cases grant.refreshToken with
    | none => exact Preserves.bind dropped fun _ _ => rfl
    | some token =>
      exact Preserves.bind (stored .refreshToken nofun token) fun _ =>
        Preserves.bind dropped fun _ _ => rfl

/-- A token that is not genuine under the empty secret is refused. -/
theorem refuses {client : ClientCredential} {value : String} {type : Option String}
    (sso : session.settings.ssoEnabled = true)
    (effective : (world.perform place session.clientCredential).1 = .ok client)
    (secretless : client.secret = "")
    (fake : ¬session.IsUnkeyed client (Int64.ofInt world.now) value) :
    session.Refuses world place value type := by
  cases run : world.perform place session.clientCredential with
  | mk result last =>
  obtain rfl : result = .ok client := by
    rw [run] at effective
    exact effective
  obtain ⟨stored, user, sameTime⟩ := leaves_clientCredential run
  have seconds : Program.seconds.run (World.answer place) last =
      (.ok (Int64.ofInt world.now), last) := by
    rw [← sameTime]
    rfl
  obtain ⟨error, invalid⟩ : ∃ error, Jwt.validate value client.clientId session.device.identity
      (Utf8.encode client.secret) (Int64.ofInt world.now) = .error error := by
    rw [secretless]
    cases valid : Jwt.validate value client.clientId session.device.identity [] _ with
    | error error => exact ⟨error, valid⟩
    | ok claims => exact absurd (isUnkeyed_iff.2 ⟨claims, valid⟩) fake
  have rejected : (session.acceptIdToken value type).run (World.answer place) world =
      (.error (.jwt error), last) := by
    rw [acceptIdToken, if_pos sso, Program.run_bind_ok run, Program.run_bind_ok seconds, invalid]
    exact Program.run_fail _ _ _
  have ignored : (session.acceptIssuedIdToken value type).run (World.answer place) world =
      (.ok (), last) :=
    (Program.run_attempt_bind rejected).trans (Program.run_pure _ _ _)
  refine ⟨⟨error, last, rejected, stored, user⟩, ⟨last, ignored, stored, user⟩, ?_⟩
  intro grant issued typed
  subst typed
  rw [World.perform, acceptGrant_eq issued, Program.run_bind_ok ignored]
  exact (preserves_acceptGrant rfl last).trans stored

/-! ### Accepted -/

theorem user_cacheUser (world : World) (n : Nat) (credential : Option UserCredential) :
    ((world.cacheUser n credential).seat n).user = credential ∨
      ((world.cacheUser n credential).seat n).user = none := by
  rw [World.seat, World.cacheUser, List.getD_eq_getElem?_getD, List.getElem?_modify_eq]
  cases world.seats[n]? with
  | none => exact .inr rfl
  | some seat => exact .inl rfl

/-- A token that is genuine under the empty secret is accepted. -/
theorem admits {client : ClientCredential} {value : String} (type : Option String)
    (sso : session.settings.ssoEnabled = true) (opens : world.Opens place session.vault key)
    (admitted : StorageKey.check (session.vault.keyFor .idToken) = .ok ())
    (effective : (world.perform place session.clientCredential).1 = .ok client)
    (secretless : client.secret = "")
    (forged : session.IsUnkeyed client (Int64.ofInt world.now) value) :
    session.Admits world place key value type := by
  obtain ⟨between, run, opens'⟩ := run_clientCredential opens
  rw [run] at effective
  rw [show Except.map _ _ = Except.ok client from effective] at run
  obtain ⟨-, -, sameTime⟩ := leaves_clientCredential run
  have seconds : Program.seconds.run (World.answer place) between =
      (.ok (Int64.ofInt world.now), between) := by
    rw [← sameTime]
    rfl
  obtain ⟨claims, valid⟩ := isUnkeyed_iff.1 forged
  have valid' : Jwt.validate value client.clientId session.device.identity
      (Utf8.encode client.secret) (Int64.ofInt world.now) = .ok claims := by
    rw [secretless]
    exact valid
  obtain ⟨nonce, last, stored, sets⟩ :=
    Vault.opens_store opens' admitted (IdToken.withType value type)
  refine ⟨nonce, last.cacheUser place.seat none, ?_, sets.get_self, ?_⟩
  · rw [World.perform, acceptIdToken, if_pos sso, Program.run_bind_ok run,
      Program.run_bind_ok seconds, valid']
    exact Program.run_bind_ok stored
  · exact (user_cacheUser last place.seat none).elim id id

/-- **Without a secret** what is validated is validated under the empty one. A token that is not
genuine under it is refused, as a token and without a trace, in any world. One that is, and anybody
can make one, is accepted. -/
theorem unkeyed_decides {client : ClientCredential} {value : String} (type : Option String)
    (sso : session.settings.ssoEnabled = true)
    (effective : (world.perform place session.clientCredential).1 = .ok client)
    (secretless : client.secret = "") :
    (¬session.IsUnkeyed client (Int64.ofInt world.now) value →
        session.Refuses world place value type) ∧
      (session.IsUnkeyed client (Int64.ofInt world.now) value →
        ∀ key, world.Opens place session.vault key →
          StorageKey.check (session.vault.keyFor .idToken) = .ok () →
            session.Admits world place key value type) :=
  ⟨refuses sso effective secretless, fun forged _ opens admitted =>
    admits type sso opens admitted effective secretless forged⟩

/-- A session with single sign-on for which no client secret is configured. -/
def secretless : Session where
  settings := { Settings.make "gw.test" "client" with ssoEnabled := true }
  device := ⟨"device", "Pixel"⟩

/-- A token for it that anybody can make. -/
def forgery : String :=
  Jwt.sign (.object [("aud", .string "client"), ("azp", .string "device"), ("exp", .integer 1)]) []

/-- A session without a secret refuses what is no token, and accepts a forgery. -/
theorem unkeyed_decides_forgery :
    let world : World :=
      { now := 0, ring := KeyRing.withKey {} "gatewarden" (Vector.replicate 32 0) }
    let place : Place := { seat := 0 }
    (world.perform place secretless.clientCredential).1 = .ok secretless.configuredCredential ∧
      secretless.configuredCredential.secret = "" ∧
      secretless.Refuses world place "x" none ∧
      secretless.Admits world place (Vector.replicate 32 0) forgery none := by
  intro world place
  have opens : world.Opens place secretless.vault (Vector.replicate 32 0) :=
    ⟨(Storage.Holds.memory _).isUsable, rfl, rfl, rfl, rfl⟩
  have effective : (world.perform place secretless.clientCredential).1 =
      .ok secretless.configuredCredential := by
    obtain ⟨last, run, -⟩ := run_clientCredential opens
    rw [run]
    rfl
  have admitted : StorageKey.check (secretless.vault.keyFor .idToken) = .ok () := rfl
  have fake : ¬secretless.IsUnkeyed secretless.configuredCredential 0 "x" := by
    rw [isUnkeyed_iff]
    rintro ⟨claims, valid⟩
    exact nomatch valid
  have forged : secretless.IsUnkeyed secretless.configuredCredential 0 forgery :=
    isUnkeyed_iff.2 ⟨_, Jwt.validate_sign (by rfl) (.inl rfl) rfl
      ⟨.integer 1, _, rfl, .integer 1, by decide⟩⟩
  exact ⟨effective, rfl, (unkeyed_decides none rfl effective rfl).1 fake,
    (unkeyed_decides none rfl effective rfl).2 forged _ opens admitted⟩

end Session

end GatewaySession
