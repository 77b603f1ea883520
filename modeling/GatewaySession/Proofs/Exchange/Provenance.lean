import GatewaySession.Proofs.Exchange.GrantChain
import GatewaySession.Proofs.Vault.Candor

/-!
# Where an access token comes from

A token that a session comes up with was stored and has not expired, or it was brought by the last
request for one that the session made. Which of the two it was is told from what happened, so the
second is said about paths and holds whoever answers; only the first needs surroundings in which
what is looked up is what can be read.

Everything that comes before, registering the device and having a client credential provisioned,
asks for no token and leaves the slot of the access token alone.

## Main definitions

* `Program.Gives` — every end of a program satisfies a condition, whoever answers
* `Brings` — the last request for a token among events brought a token
* `Keeper.Bears` — a token was stored and is valid, or was brought

## Main results

* `Session.tends_ensureRegistered` — what registering the device touches
* `Session.brings_grant`, `Session.brings_ways` — a token that was granted
* `Keeper.bears_of_ensureAccessToken` — every token that a session comes up with
-/

namespace GatewaySession

open Program (Ends Meets Performs)

variable {α β σ : Type} {session : Session}

/-! ### Paths and their ends -/

namespace Program

/-- The events of a run, in order. -/
def events (handle : (effect : Effect) → σ → effect.Reply × σ) (program : Program α) (state : σ) :
    List Event := (program.trace handle state).map (·.toEvent)

section

variable {handle : (effect : Effect) → σ → effect.Reply × σ} {program : Program α} {state last : σ}

/-- The events of two programs one after the other. -/
theorem events_bind_ok {f : α → Program β} {a : α}
    (run : program.run handle state = (.ok a, last)) :
    (program >>= f).events handle state =
      program.events handle state ++ (f a).events handle last := by
  rw [events, trace_bind_ok run, List.map_append]
  rfl

/-- A run is a path to its result. -/
theorem ends_of_run {result : Except Error α} (run : program.run handle state = (result, last)) :
    program.Ends (program.events handle state) result := by
  have ends := ends_trace handle program state
  rwa [run] at ends

end

end Program

variable {events early late : List Event}

namespace Program

/-- Two programs one after the other have a result only if both have. -/
theorem Ends.of_bind_ok {program : Program α} {f : α → Program β} {b : β}
    (h : (program >>= f).Ends events (.ok b)) :
    ∃ a early late, events = early ++ late ∧ program.Ends early (.ok a) ∧
      (f a).Ends late (.ok b) := by
  obtain ⟨_, -, failed⟩ | both := Ends.of_bind h
  · cases failed
  · exact both

/-- Whether every end of a program satisfies a condition, whoever answers. -/
abbrev Gives (post : Except Error α → Prop) (program : Program α) : Prop :=
  program.Meets (.only fun _ => True) (fun _ => post) ()

namespace Gives

variable {post : Except Error β → Prop}

theorem all {post : Except Error α → Prop} (h : ∀ result, post result) (program : Program α) :
    program.Gives post := by
  induction program with
  | done result => exact h result
  | perform effect next ih => exact ⟨trivial, fun reply _ => ih reply⟩

/-- Where nothing is asked of an error, the second of two programs decides. -/
theorem bind {program : Program α} {f : α → Program β} (failed : ∀ error, post (.error error))
    (hf : ∀ a, (f a).Gives post) : (program >>= f).Gives post := by
  have any : program.Gives fun _ => True := all (fun _ => trivial) program
  refine Meets.bind (any.mono ?_)
  rintro _ (error | a) _
  · exact failed error
  · exact hf a

/-- After one whose errors are caught, the second of two programs decides. -/
theorem rescue {program : Program α} {f : Except Error α → Program β}
    (hf : ∀ result, (f result).Gives post) : (program.attempt >>= f).Gives post :=
  Meets.rescue (all hf program)

theorem ends {program : Program β} {result : Except Error β} (h : program.Gives post)
    (ends : program.Ends events result) : post result :=
  (Meets.ends h (fun _ _ => trivial) ends).1

end Gives

end Program

/-! ### Requests for a token -/

/-- The requests for a token among events, in order. -/
def attemptsAmong (events : List Event) : List Attempt := events.filterMap Event.attempt?

@[simp] theorem attemptsAmong_append (early late : List Event) :
    attemptsAmong (early ++ late) = attemptsAmong early ++ attemptsAmong late :=
  List.filterMap_append

/-- Whether the last request for a token among events brought a token. -/
def Brings (events : List Event) (token : AccessToken) : Prop :=
  ∃ early attempt grant, attemptsAmong events = early ++ [attempt] ∧
    attempt.Grants grant ∧ token.value = grant.accessToken

namespace Brings

variable {token : AccessToken}

theorem after (h : Brings late token) : Brings (early ++ late) token := by
  obtain ⟨before, attempt, grant, asked, grants, own⟩ := h
  refine ⟨attemptsAmong early ++ before, attempt, grant, ?_, grants, own⟩
  rw [attemptsAmong_append, asked, List.append_assoc]

theorem before (h : Brings early token) (unasked : attemptsAmong late = []) :
    Brings (early ++ late) token := by
  obtain ⟨before, attempt, grant, asked, grants, own⟩ := h
  refine ⟨before, attempt, grant, ?_, grants, own⟩
  rw [attemptsAmong_append, asked, unasked, List.append_nil]

end Brings

/-- Looking after slots asks for no token. -/
theorem Vault.attemptsAmong_eq_nil {vault : Vault} {slots : Slot → Prop} {drops : Prop}
    {program : Program α} {result : Except Error α}
    (tends : program.Performs (vault.Tends slots drops)) (ends : program.Ends events result) :
    attemptsAmong events = [] :=
  List.filterMap_eq_nil_iff.2 fun event mem => (tends.ends ends event mem).attempt? event.reply

namespace Session

/-! ### Looking after slots -/

section

variable {slots : Slot → Prop} {drops : Prop}

theorem tends_deviceIdentity (device : slots .deviceIdentity) :
    session.deviceIdentity.Performs (session.vault.Tends slots drops) :=
  tends_readable device

theorem tends_withDeviceHeaders (device : slots .deviceIdentity) (request : Request) :
    (session.withDeviceHeaders request).Performs (session.vault.Tends slots drops) := by
  refine (tends_deviceIdentity device).bind fun registration => ?_
  cases registration with
  | none => trivial
  | some identity => trivial

theorem tends_validAccessToken (access : slots .accessToken) :
    session.validAccessToken.Performs (session.vault.Tends slots drops) := by
  refine .bind (tends_readable access) fun found => ?_
  cases found with
  | none => trivial
  | some token => exact .bind (.seconds trivial) fun _ => trivial

theorem tends_acceptIssuedIdToken (client : slots .clientCredential) (identity : slots .idToken)
    (value : String) (type : Option String) :
    (session.acceptIssuedIdToken value type).Performs (session.vault.Tends slots True) := by
  have accepted : (session.acceptIdToken value type).Performs
      (session.vault.Tends slots True) := by
    rw [acceptIdToken]
    split
    · refine .bind (tends_clientCredential client) fun client =>
        .bind (.seconds trivial) fun _ => ?_
      split
      · trivial
      · exact .bind (Vault.tends_store identity _) fun _ => .ask ⟨trivial, rfl⟩
    · trivial
  refine accepted.rescue fun result => ?_
  split
  · trivial
  · trivial

/-- **Registering the device** looks after the registration, the client credential, and the
identity token that may come along. -/
theorem tends_ensureRegistered (device : slots .deviceIdentity) (client : slots .clientCredential)
    (identity : slots .idToken) :
    session.ensureRegistered.Performs (session.vault.Tends slots True) := by
  have registered (credential : Option UserCredential) :
      (session.register credential).Performs (session.vault.Tends slots True) := by
    refine .bind (tends_ensureClientCredential client device) fun _ =>
      .bind (.bind (.bind (tends_connection device) fun _ =>
        ⟨fun _ => Purpose.noConfusion, fun _ _ => trivial⟩) fun _ => trivial) fun response =>
      .bind trivial fun _ => .bind (.ask trivial) fun _ =>
      .bind (Vault.tends_store device _) fun _ => .bind (.ask trivial) fun _ => ?_
    split
    · exact tends_acceptIssuedIdToken client identity _ _
    · trivial
  refine .bind (.bind (tends_deviceIdentity device) fun _ => trivial) fun present => ?_
  split
  · trivial
  · refine .bind (.ask trivial) fun credential => ?_
    split
    · trivial
    · exact registered credential

/-- Storing what was granted asks for nothing. -/
theorem tends_acceptGrant (grant : TokenGrant) :
    (session.acceptGrant grant).Performs (session.vault.Tends (fun _ => True) True) := by
  have kept (token : AccessToken) :
      (session.setAccessToken token).Performs (session.vault.Tends (fun _ => True) True) :=
    .bind (Vault.tends_store trivial _) fun _ => .ask ⟨trivial, rfl⟩
  rw [acceptGrant]
  split
  -- An identity token is accepted first, and the rest is the same.
  case' h_1 => refine (tends_acceptIssuedIdToken trivial trivial _ _).bind fun _ => ?_
  all_goals
    refine .bind (.seconds trivial) fun now => (kept _).bind fun _ => ?_
    split
    · exact .bind (Vault.tends_store trivial _) fun _ => .bind (.ask trivial) fun _ => trivial
    · exact .bind (.ask trivial) fun _ => trivial

end

/-! ### Grants -/

/-- What was granted is the token that is stored. -/
theorem acceptGrant_gives (grant : TokenGrant) : (session.acceptGrant grant).Gives
    fun result => ∀ token, result = .ok token → token.value = grant.accessToken := by
  have granted (now : Int64) (token : AccessToken)
      (same : (.ok (.expiringIn grant.accessToken now grant.expiresIn grant.scope) :
        Except Error AccessToken) = .ok token) : token.value = grant.accessToken :=
    Except.ok.inj same ▸ rfl
  have failed (error : Error) (token : AccessToken)
      (same : (.error error : Except Error AccessToken) = .ok token) :
      token.value = grant.accessToken := by
    cases same
  rw [acceptGrant]
  split
  case' h_1 => refine .bind failed fun _ => ?_
  all_goals
    refine .bind failed fun now => .bind failed fun _ => ?_
    split
    · exact .bind failed fun _ => .bind failed fun _ => granted now
    · exact .bind failed fun _ => granted now

variable {client : ClientCredential} {presented : Presented} {params : Form.Params}
  {token : AccessToken}

/-- A request whose answer is a success is sent after others that ask for no token. -/
theorem ends_sendChecked {purpose : Purpose} {request : Request} {response : Response}
    (ends : (session.sendChecked purpose request).Ends events (.ok response)) :
    response.isSuccess = true ∧ ∃ early connection,
      events = early ++ [⟨.send connection purpose request, .ok response⟩] := by
  obtain ⟨answer, early, _, rfl, sent, ⟨rfl, checked⟩⟩ := ends.of_bind_ok
  obtain ⟨connection, before, _, rfl, -, _, _, rfl, rfl, rfl⟩ := sent.of_bind_ok
  rw [Response.checked] at checked
  split at checked
  next success =>
    cases checked
    exact ⟨success, before, connection, List.append_nil _⟩
  next => cases checked

/-- **A grant** that has a token was asked for by the last request for one. -/
theorem brings_grant
    (ends : (session.grant client presented params).Ends events (.ok token)) :
    Brings events token := by
  obtain ⟨request, headers, _, rfl, -, asking⟩ := ends.of_bind_ok
  obtain ⟨response, _, accepting, rfl, sent, reading⟩ := asking.of_bind_ok
  obtain ⟨grant, _, storing, rfl, ⟨rfl, read⟩, stored⟩ := reading.of_bind_ok
  obtain ⟨success, early, connection, rfl⟩ := ends_sendChecked sent
  have brought : Brings [⟨.send connection (.grant presented) request, .ok response⟩] token :=
    ⟨[], ⟨presented, request, .ok response⟩, grant, rfl, ⟨response, rfl, success, read⟩,
      (acceptGrant_gives grant).ends stored token rfl⟩
  exact ((brought.after).before (Vault.attemptsAmong_eq_nil (tends_acceptGrant grant) stored)).after

theorem brings_tryGrant
    (ends : (session.tryGrant client presented params).Ends events (.ok (some token))) :
    Brings events token := by
  obtain ⟨result, early, late, rfl, granted, ends⟩ := Ends.of_rescue ends
  cases result with
  | error error =>
    have ends : Ends (if isGrantRejected error then _ else _) late _ := ends
    split at ends
    · cases ends.2
    · cases ends.2
  | ok granted' =>
    obtain ⟨rfl, same⟩ := ends
    cases same
    rw [List.append_nil]
    exact brings_grant granted

theorem brings_grantByRefreshToken
    (ends : (session.grantByRefreshToken client).Ends events (.ok (some token))) :
    Brings events token := by
  obtain ⟨taken, early, late, rfl, -, ends⟩ := ends.of_bind_ok
  cases taken with
  | none => cases ends.2
  | some refreshToken => exact (brings_tryGrant ends).after

theorem brings_grantByIdToken
    (ends : (session.grantByIdToken client).Ends events (.ok (some token))) :
    Brings events token := by
  obtain ⟨found, early, late, rfl, -, ends⟩ := ends.of_bind_ok
  cases found with
  | none => cases ends.2
  | some idToken =>
    obtain ⟨granted, tried, rest, rfl, trying, ends⟩ := ends.of_bind_ok
    cases granted with
    | none =>
      -- A refused token is removed, and there is no other.
      obtain ⟨_, _, _, -, -, none⟩ := ends.of_bind_ok
      cases none.2
    | some granted =>
      obtain ⟨rfl, same⟩ := ends
      cases same
      rw [List.append_nil]
      exact (brings_tryGrant trying).after

theorem brings_grantByUser (ends : (session.grantByUser client).Ends events (.ok token)) :
    Brings events token := by
  obtain ⟨credential, early, late, rfl, -, ends⟩ := ends.of_bind_ok
  cases credential with
  | none => cases ends.2
  | some credential => exact (brings_grant ends).after

/-- **The ways to a token**, taken one after the other: the last request for one brought it. -/
theorem brings_ways
    (ends : (do
        let client ← session.ensureClientCredential
        if let some token ← session.grantByRefreshToken client then return token
        if let some token ← session.grantByIdToken client then return token
        session.grantByUser client : Program AccessToken).Ends events (.ok token)) :
    Brings events token := by
  obtain ⟨client, naming, rest, rfl, -, ends⟩ := ends.of_bind_ok
  refine Brings.after ?_
  obtain ⟨refreshed, trying, more, rfl, tried, ends⟩ := ends.of_bind_ok
  cases refreshed with
  | some granted =>
    obtain ⟨rfl, same⟩ := ends
    cases same
    rw [List.append_nil]
    exact brings_grantByRefreshToken tried
  | none =>
  refine Brings.after ?_
  obtain ⟨asserted, trying, last, rfl, tried, ends⟩ := ends.of_bind_ok
  cases asserted with
  | some granted =>
    obtain ⟨rfl, same⟩ := ends
    cases same
    rw [List.append_nil]
    exact brings_grantByIdToken tried
  | none => exact (brings_grantByUser ends).after

end Session

/-! ### Tokens that were stored -/

namespace Keeper

variable {key : Aes256.Key}

section

variable (keeper : Keeper σ session.vault key)

/-- Whether a token is one to bear after events: it was stored at first and has not expired at a
time that was told, and none was asked for; or the last request for one brought it. -/
inductive Bears (first : σ) (events : List Event) (token : AccessToken) : Prop where
  /-- It was stored. -/
  | stored (present : keeper.content first .accessToken = some token) (now : Timestamp)
    (told : ⟨.time, now⟩ ∈ events) (valid : token.isExpiredAt (Int64.ofInt now.seconds) = false)
    (unasked : attemptsAmong events = [])
  /-- It was granted. -/
  | brought (brings : Brings events token)

end

variable {keeper : Keeper σ session.vault key} {first state last : σ} {token : AccessToken}

/-- What is done before and after makes no difference, if it asks for no token and leaves the slot
of the token alone. -/
theorem Bears.within (h : keeper.Bears state events token)
    (same : keeper.content state .accessToken = keeper.content first .accessToken)
    (before : attemptsAmong early = []) (after : attemptsAmong late = []) :
    keeper.Bears first (early ++ (events ++ late)) token := by
  cases h with
  | stored present now told valid unasked =>
    refine .stored (same ▸ present) now ?_ valid ?_
    · exact List.mem_append_right _ (List.mem_append_left _ told)
    · rw [attemptsAmong_append, attemptsAmong_append, before, unasked, after]
      rfl
  | brought brings => exact .brought (brings.before after).after

/-- **A valid token that is found** was stored, and has not expired at the time that is told. -/
theorem bears_of_validAccessToken (candid : keeper.IsCandid) (sound : keeper.IsSound state)
    (run : session.validAccessToken.run keeper.handle state = (.ok (some token), last)) :
    keeper.Bears state (session.validAccessToken.events keeper.handle state) token := by
  have tends : session.validAccessToken.Performs (session.vault.Tends (fun _ => True) False) :=
    Session.tends_validAccessToken trivial
  have unasked := Vault.attemptsAmong_eq_nil tends (Program.ends_of_run run)
  obtain ⟨found, looked, looking, rest⟩ := Program.run_bind_eq_ok run
  have present := content_of_readable candid sound looking
  cases found with
  | none => cases rest
  | some stored =>
  obtain ⟨now, told, clock, rest⟩ := Program.run_bind_eq_ok rest
  have within : ⟨.time, (keeper.handle .time looked).1⟩ ∈
      session.validAccessToken.events keeper.handle state := by
    unfold Session.validAccessToken
    rw [Program.events_bind_ok looking]
    exact List.mem_append_right _ List.mem_cons_self
  obtain ⟨told, -⟩ := Prod.mk.inj clock
  obtain ⟨valid, -⟩ := Prod.mk.inj rest
  have valid := Except.ok.inj valid
  split at valid
  next => cases valid
  next unexpired =>
    cases valid
    refine .stored present.symm _ within ?_ unasked
    rw [Except.ok.inj told]
    exact Bool.eq_false_iff.2 unexpired

/-- **A token that a session comes up with** was stored and is valid, or it was granted. -/
theorem bears_of_ensureAccessToken (candid : keeper.IsCandid) (sound : keeper.IsSound state)
    (run : session.ensureAccessToken.run keeper.handle state = (.ok token, last)) :
    keeper.Bears state (session.ensureAccessToken.events keeper.handle state) token := by
  obtain ⟨valid, looked, looking, rest⟩ := Program.run_bind_eq_ok run
  unfold Session.ensureAccessToken
  rw [Program.events_bind_ok looking]
  cases valid with
  | some found =>
    obtain ⟨same, -⟩ := Prod.mk.inj rest
    cases same
    show keeper.Bears state (_ ++ []) token
    rw [List.append_nil]
    exact bears_of_validAccessToken candid sound looking
  | none => exact .brought (Session.brings_ways (Program.ends_of_run rest)).after

end Keeper

end GatewaySession
