import GatewaySession.Proofs.Exchange.Asking
import GatewaySession.Proofs.Session.Impersonal
import GatewaySession.Rehearsal.World

/-!
# Where a password goes

The secret part of a user's credential goes to the gateway in the bodies of two kinds of requests:
those that register the device, and those that ask for an access token for the credential. It goes
nowhere else. What a request ends with, what is stored, what the user is asked, which requests are
sent and everything else about them do not depend on it.

Nothing is said about how much the gateway gives away: the two executions that are compared meet a
gateway whose replies are scripted.

## Main definitions

* `Session.Confides` — the requests in whose bodies a credential is confided to the gateway
* `Session.Discreet` — what two executions have in common

## Main results

* `Session.parallel_register`, `Session.parallel_grantByUser` — the two kinds of requests
* `Session.parallel_execute` — an execution does the same whatever the secrets are
* `Session.execute_discreet` — two executions that differ in secrets only
-/

namespace GatewaySession

/-- The question to the user that an effect is. -/
def Effect.question? : Effect → Option (Nat × Need)
  | .ask id need => some (id, need)
  | _ => none

/-- Whether an effect sends a request. -/
def Effect.isSend : Effect → Bool
  | .send _ _ _ => true
  | _ => false

section

variable {confides : Purpose → Request → Prop} {effects effects' : List Effect}
  (alike : List.Forall₂ (Effect.Alike confides) effects effects')

include alike

/-- Effects that differ in secrets only ask the same questions. -/
theorem Effect.questions_eq_of_alike :
    effects.filterMap Effect.question? = effects'.filterMap Effect.question? := by
  induction alike with
  | nil => rfl
  | cons here _ ih =>
    obtain ⟨effect⟩ | _ | _ := here
    · rw [List.filterMap_cons, List.filterMap_cons, ih]
    · exact ih
    · exact ih

/-- They send requests that differ in secrets only. -/
theorem Effect.sends_alike :
    List.Forall₂ (Effect.Alike confides) (effects.filter Effect.isSend)
      (effects'.filter Effect.isSend) := by
  refine List.rel_filter (fun _ _ here => ?_) alike
  obtain _ | _ | _ := here
  · exact Iff.rfl
  · exact Iff.rfl
  · exact Iff.rfl

end

/-- Forms of one request may differ if they are confidential. -/
theorem Request.Alike.withForm {confides : Purpose → Request → Prop} {purpose : Purpose}
    {request : Request} (params params' : Form.Params)
    (confided : confides purpose (request.withForm params)) :
    (request.withForm params).Alike confides purpose (request.withForm params') :=
  .body (some (Form.encode params')) confided

open Program (Parallel)

namespace Session

variable (session : Session)

/-- Whether a credential is confided in the body of a request: a registration, or a grant for the
user's credential. -/
def Confides (purpose : Purpose) (request : Request) : Prop :=
  purpose = .registration ∧ request.url = session.settings.urlFor .register ∨
    purpose = .grant .userCredential ∧ request.url = session.settings.urlFor .token

/-! ### Confiding a credential -/

/-- Sending requests that differ in a confidential body. -/
theorem parallel_sendChecked {purpose : Purpose} {request request' : Request}
    (alike : request.Alike session.Confides purpose request') :
    Parallel session.Confides Eq (session.sendChecked purpose request)
      (session.sendChecked purpose request') := by
  have sent : Parallel session.Confides Eq (session.send purpose request)
      (session.send purpose request') :=
    session.impersonal_connection.parallel.bindSame fun connection =>
      .send alike fun reply => .done (.refl reply)
  exact sent.bindSame fun response => .done (.refl _)

/-- Registration requests for credentials that differ in their secret part. -/
theorem alike_registrationRequest (client : ClientCredential)
    {credential credential' : Option UserCredential}
    (alike : Option.Rel UserCredential.Alike credential credential') :
    (session.registrationRequest client credential).Alike session.Confides .registration
      (session.registrationRequest client credential') := by
  cases alike with
  | none => exact .same _
  | some _ => exact .withForm _ _ (.inl ⟨rfl, rfl⟩)

/-- What follows the response to a registration does not mention the credential any more. -/
theorem impersonal_registered (response : Response) : (do
    let identifier ← .ofExcept (assignedIdentifier response)
    session.setDeviceIdentity ⟨response.text, identifier, ← Program.time⟩
    Program.dropConnection
    match response.header? "id-token" with
    | some token => session.acceptIssuedIdToken token (response.header? "id-token-type")
    | none => return () : Program Unit).Impersonal := by
  refine .bind trivial fun _ => .bind (.ask trivial) fun _ =>
    .bind (session.vault.impersonal_store _ _) fun _ =>
      .bind impersonal_dropConnection fun _ => ?_
  split
  · exact session.impersonal_acceptIssuedIdToken _ _
  · trivial

/-- **Registering** is the same but for the body of the request. -/
theorem parallel_register {credential credential' : Option UserCredential}
    (alike : Option.Rel UserCredential.Alike credential credential') :
    Parallel session.Confides Eq (session.register credential) (session.register credential') := by
  refine session.impersonal_ensureClientCredential.parallel.bindSame fun client =>
    (session.parallel_sendChecked
      (session.alike_registrationRequest client alike)).bindSame fun response => ?_
  exact (session.impersonal_registered response).parallel

/-- The device headers do not look at the body of a request. -/
theorem parallel_withDeviceHeaders (request : Request) (body : Option Bytes) :
    Parallel session.Confides
      (fun decorated decorated' => decorated.url = request.url ∧
        ∃ body, decorated' = { decorated with body })
      (session.withDeviceHeaders request) (session.withDeviceHeaders { request with body }) := by
  refine session.impersonal_deviceIdentity.parallel.bindSame fun identity => ?_
  cases identity with
  | none => exact .done (.ok ⟨rfl, body, rfl⟩)
  | some identity => exact .done (.ok ⟨rfl, body, rfl⟩)

/-- **A grant for the user's credential** is the same but for the body of the request. -/
theorem parallel_grant (client : ClientCredential) (params params' : Form.Params) :
    Parallel session.Confides Eq (session.grant client .userCredential params)
      (session.grant client .userCredential params') := by
  refine (session.parallel_withDeviceHeaders (session.grantRequest client params)
    (session.grantRequest client params').body).bind ?_
  rintro request _ ⟨url, body, rfl⟩
  refine (session.parallel_sendChecked (.body body (.inr ⟨rfl, url⟩))).bindSame fun response => ?_
  have accepted : (Program.ofExcept (TokenGrant.ofBody response.body) >>=
      session.acceptGrant).Impersonal := .bind trivial session.impersonal_acceptGrant
  exact accepted.parallel

/-! ### The ways to a token -/

theorem parallel_grantByUser (client : ClientCredential) :
    Parallel session.Confides Eq (session.grantByUser client) (session.grantByUser client) := by
  refine .user fun credential credential' alike => ?_
  cases alike with
  | none => exact .fail _
  | some _ => exact session.parallel_grant client _ _

theorem parallel_ensureAccessToken :
    Parallel session.Confides Eq session.ensureAccessToken session.ensureAccessToken := by
  refine session.impersonal_validAccessToken.parallel.bindSame fun token => ?_
  split
  · exact .pure _
  refine session.impersonal_ensureClientCredential.parallel.bindSame fun client =>
    (session.impersonal_grantByRefreshToken client).parallel.bindSame fun token => ?_
  split
  · exact .pure _
  refine (session.impersonal_grantByIdToken client).parallel.bindSame fun token => ?_
  split
  · exact .pure _
  · exact session.parallel_grantByUser client

theorem parallel_tokenFor (request : Request) :
    Parallel session.Confides Eq (session.tokenFor request) (session.tokenFor request) := by
  rw [tokenFor]
  split
  · exact .pure none
  · exact session.parallel_ensureAccessToken.bindSame fun _ => .pure _

theorem parallel_ensureRegistered :
    Parallel session.Confides Eq session.ensureRegistered session.ensureRegistered := by
  refine session.impersonal_isDeviceRegistered.parallel.bindSame fun registered => ?_
  split
  · exact .pure ()
  · refine .user fun credential credential' alike => ?_
    show Parallel _ Eq
      (if credential.isNone && session.settings.registrationRequiresUser then
        .fail (.recoverable .credentialsRequired) else session.register credential)
      (if credential'.isNone && session.settings.registrationRequiresUser then
        .fail (.recoverable .credentialsRequired) else session.register credential')
    have known : credential'.isNone = credential.isNone := by
      cases alike with
      | none => rfl
      | some _ => rfl
    rw [known]
    split
    · exact .fail _
    · exact session.parallel_register alike

/-! ### Attempts -/

/-- **Preparing a request** is the same whatever the secrets are. -/
theorem parallel_prepare (ctx : Context) :
    Parallel session.Confides Eq (session.prepare ctx) (session.prepare ctx) :=
  session.parallel_ensureRegistered.bindSame fun _ =>
    session.impersonal_ensureClientCredential.parallel.bindSame fun _ =>
      (session.parallel_tokenFor ctx.request).bindSame fun _ =>
        (session.impersonal_withDeviceHeaders ctx.request).parallel.bindSame fun _ => .pure _

/-- **Asking the user**: a credential he supplies is cached, and what follows is the same. -/
theorem parallel_recover (obstacle : Obstacle) (need : Need) (ctx : Context) :
    Parallel session.Confides Eq (session.recover obstacle need ctx)
      (session.recover obstacle need ctx) := by
  induction need, ctx using session.recover_induction obstacle with
  | exhausted need ctx _ eq =>
    rw [eq]
    exact .pure _
  | asks need ctx more eq again =>
    rw [eq]
    refine .ask fun answer answer' alike => ?_
    cases alike with
    | credentials alike => exact .cacheUser alike (.pure _)
    | same =>
    cases answer with
    | credentials credential => exact .cacheUser (.refl credential) (.pure _)
    | otpChannel channel =>
      refine (session.impersonal_deliverOtp channel).parallel.rescueSame fun result => ?_
      cases result with
      | error error => exact .pure _
      | ok _ => exact .bindSame (again channel) fun _ => .pure _
    | _ => exact .pure _

theorem parallel_afterUnsent (ctx : Context) (error : Error) :
    Parallel session.Confides Eq (session.afterUnsent ctx error)
      (session.afterUnsent ctx error) := by
  refine (session.impersonal_react error).parallel.rescueSame fun result => ?_
  split
  · exact .pure _
  · exact .pure _
  · simp only
    split
    · exact .pure _
    · exact .pure _
  · exact session.parallel_recover _ _ _

theorem parallel_afterRefusal (ctx : Context) (response : Response) :
    Parallel session.Confides Eq (session.afterRefusal ctx response)
      (session.afterRefusal ctx response) := by
  refine (session.impersonal_react _).parallel.rescueSame fun result => ?_
  split
  · exact .pure _
  · exact .pure _
  · split
    · split
      · exact (session.parallel_recover _ _ _).bindSame fun _ => .pure _
      · exact .pure _
    · exact .pure _

/-- **An attempt** is the same whatever the secrets are. -/
theorem parallel_round (ctx : Context) :
    Parallel session.Confides Eq (session.round ctx) (session.round ctx) := by
  refine (session.parallel_prepare ctx).rescueSame fun result => ?_
  split
  · exact session.parallel_afterUnsent _ _
  · refine (session.impersonal_send _ _).parallel.rescueSame fun result => ?_
    split
    · exact .pure _
    · split
      · exact .pure _
      · exact session.parallel_afterRefusal _ _

/-- **An execution** is the same whatever the secrets are. -/
theorem parallel_execute (ctx : Context) :
    Parallel session.Confides Eq (session.execute ctx) (session.execute ctx) := by
  induction ctx using Context.allowance_induction with
  | step ctx ih =>
    rw [execute]
    refine (session.parallel_round ctx).bindSame fun round => ?_
    cases round with
    | finished result last => exact .pure _
    | again next less => exact ih _ less

/-! ### Two executions -/

/-- What two executions of a request have in common. -/
structure Discreet (session : Session) {σ : Type}
    (machine : (effect : Effect) → σ → effect.Reply × σ) (ctx : Context) (first second : Scene σ) :
    Prop where
  /-- The result is the same, and the context that is left. -/
  outcome : ((session.execute ctx).run (Scene.answer machine) first).1 =
    ((session.execute ctx).run (Scene.answer machine) second).1
  /-- What is stored is the same, and the cached connection, and so is everything else that is left
  but for secrets. -/
  left : ((session.execute ctx).run (Scene.answer machine) first).2.Alike
    ((session.execute ctx).run (Scene.answer machine) second).2
  /-- The user is asked the same questions. -/
  asked : ((session.execute ctx).effects (Scene.answer machine) first).filterMap Effect.question? =
    ((session.execute ctx).effects (Scene.answer machine) second).filterMap Effect.question?
  /-- The same requests are sent, but for the bodies in which a credential is confided. -/
  sent : List.Forall₂ (Effect.Alike session.Confides)
    (((session.execute ctx).effects (Scene.answer machine) first).filter Effect.isSend)
    (((session.execute ctx).effects (Scene.answer machine) second).filter Effect.isSend)

/-- **A password goes nowhere else**: two executions that differ in nothing but secrets of the user
differ in nothing but the bodies of requests in which they are confided to the gateway. -/
theorem execute_discreet (session : Session) {σ : Type}
    (machine : (effect : Effect) → σ → effect.Reply × σ) (ctx : Context) {first second : Scene σ}
    (alike : first.Alike second) : session.Discreet machine ctx first second := by
  have both := (session.parallel_execute ctx).run machine alike
  exact {
    outcome := both.result.eq
    left := both.last
    asked := Effect.questions_eq_of_alike both.effects
    sent := Effect.sends_alike both.effects }

/-! #### Two passwords -/

/-- A session with a client secret, on a device that is not registered. -/
def newcomer : Session :=
  ⟨{ Settings.make "gateway" "client" with clientSecret := some "secret" }, ⟨"device", "Device"⟩⟩

/-- A rehearsed world in which nothing is stored, and a user whose password is cached and who would
give it again. -/
def confiding (secret : String) : Scene Rehearsal.World where
  rest := { now := 0 }
  user := some (.password "user" secret)
  connection := none
  answers := [.credentials (.password "user" secret)]

/-- A request that nobody has tried yet. -/
def newRequest : Context := { id := 1, request := { method := .get, url := "/" } }

/-- The request that registers a newcomer. -/
def confidedRequest (secret : String) : Request :=
  newcomer.registrationRequest newcomer.configuredCredential (some (.password "user" secret))

open Rehearsal (World)

/-- A newcomer's password is sent. -/
theorem confidedRequest_mem_effects (ctx : Context) (secret : String) :
    .send ⟨none⟩ .registration (confidedRequest secret) ∈
      (newcomer.execute ctx).effects (Scene.answer (World.answer ⟨0, none⟩))
        (confiding secret) := by
  have registering : .send ⟨none⟩ .registration (confidedRequest secret) ∈
      newcomer.ensureRegistered.effects (Scene.answer (World.answer ⟨0, none⟩))
        (confiding secret) :=
    List.mem_of_mem_getLast? rfl
  rw [execute]
  refine Program.mem_effects_bind (Program.mem_effects_bind ?_)
  rw [Program.effects_attempt]
  exact Program.mem_effects_bind registering

/-- The body of the registration is not the same for another password. -/
example : (confidedRequest "one").body ≠ (confidedRequest "two").body := by decide

/-- Two newcomers with different passwords send each his own, and there is no other difference. -/
theorem execute_discreet_newcomer :
    (confiding "one").Alike (confiding "two") ∧
      newcomer.Discreet (World.answer ⟨0, none⟩) newRequest (confiding "one") (confiding "two") ∧
      .send ⟨none⟩ .registration (confidedRequest "one") ∈ (newcomer.execute newRequest).effects
        (Scene.answer (World.answer ⟨0, none⟩)) (confiding "one") ∧
      .send ⟨none⟩ .registration (confidedRequest "two") ∈ (newcomer.execute newRequest).effects
        (Scene.answer (World.answer ⟨0, none⟩)) (confiding "two") := by
  have alike : (confiding "one").Alike (confiding "two") :=
    ⟨rfl, .some (.password _ _ _), rfl, .cons (.credentials (.password _ _ _)) .nil⟩
  exact ⟨alike, execute_discreet _ _ _ alike, confidedRequest_mem_effects _ _,
    confidedRequest_mem_effects _ _⟩

end Session

end GatewaySession
