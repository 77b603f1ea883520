import GatewaySession.Exchange.Context
import GatewaySession.Exchange.Grant
import GatewaySession.Text.Split

/-!
# Executing requests

An attempt on a request makes sure of registration, client credential and access token, decorates
the request, and sends it. What follows a failure depends on its cause:

* a token, certificate or user that the gateway no longer accepts is dropped, and the request is
  tried again;
* a locked key store, a missing credential and a missing one-time passcode are put to the user, who
  may also say that the input will come later;
* anything else is the result.

Trying again and asking are bounded by the counts of the context, so an execution ends whatever
gateway and user do.

## Main definitions

* `Session.prepare` — the decorated request
* `Session.react` — what follows a failure, and what is dropped
* `Session.recover` — asking the user until he has supplied what is needed
* `Session.round` — one attempt
* `Session.execute` — attempts until there is a result
-/

namespace GatewaySession

namespace Session

/-! ### Decoration -/

/-- Sets a header if it has a value. -/
def setHeaderIfSome (request : Request) (name : String) : Option String → Request
  | some value => request.setHeader name value
  | none => request

/-- A request with an access token, if there is one, and with what the user supplied. -/
def decorate (ctx : Context) (token : Option AccessToken) (request : Request) : Request :=
  let request := setHeaderIfSome request "authorization" (token.map fun token =>
    s!"Bearer {token.value}")
  let request := setHeaderIfSome request "X-OTP" ctx.otp?
  setHeaderIfSome request "X-OTP-CHANNEL" ctx.otpChannel?

/-- The access token of a request; a public one has none. -/
def tokenFor (session : Session) (request : Request) : Program (Option AccessToken) := do
  if request.isPublic then return none else return some (← session.ensureAccessToken)

/-- The request as it is sent: with the device headers, the access token, and what the user
supplied. -/
def prepare (session : Session) (ctx : Context) : Program Request := do
  session.ensureRegistered
  let _ ← session.ensureClientCredential
  let token ← session.tokenFor ctx.request
  return decorate ctx token (← session.withDeviceHeaders ctx.request)

/-! ### Failures -/

/-- What follows a failure. -/
inductive Reaction where
  /-- The user has to remove an obstacle. -/
  | recover (obstacle : Obstacle)
  /-- Another attempt may succeed. -/
  | retry
  /-- The failure is the result. -/
  | giveUp

/-- Drops what a refusal makes useless, and tells what follows. -/
def reactTo (session : Session) : Refusal → Program Reaction
  | .invalidAccessToken | .accessTokenExpired => do
    session.clearAccessToken
    return .retry
  | .clientCertificateExpired => do
    session.clearDeviceIdentity
    Program.dropConnection
    return .retry
  | .invalidResourceOwner => do
    session.clearUserTokens
    return .retry
  | .invalidClientCredential => do
    session.clearClientCredential
    Program.dropConnection
    return .giveUp
  | .otpRequired | .invalidOtp | .otpExpired => return .recover .otpRequired
  | .unknown => return .giveUp

/-- What follows an error. -/
def react (session : Session) (error : Error) : Program Reaction :=
  if error.isStoreLocked then return .recover .storeLocked
  else
    match error with
    | .recoverable obstacle => return .recover obstacle
    | .server refusal _ _ _ => session.reactTo refusal
    | _ => return .giveUp

/-- The channels for one-time passcodes that a response offers. -/
def otpChannels (response : Response) : List String :=
  match response.header? "x-otp-channels" with
  | some value => ((Text.split ',' value).map Text.trim).filter fun channel => !channel.isEmpty
  | none => []

/-! ### Asking the user -/

/-- What the user is asked for when an obstacle is met. -/
def needFor (channels : List String) : Obstacle → Need
  | .credentialsRequired => .credentials
  | .storeLocked => .unlock
  | .otpRequired => .otp channels none

/-- A need after a channel for the passcode was chosen. -/
def selectChannel (channel : String) : Need → Need
  | .otp channels _ => .otp channels (some channel)
  | need => need

/-- Asks the user until an obstacle is removed. A passcode is sent for whenever the user chooses a
channel, and then asked for again. -/
def recover (session : Session) (obstacle : Obstacle) (need : Need) (ctx : Context) :
    Program (Round ctx) := do
  let asked := ctx.countRecovery
  if h : Context.maxRecoveries < asked.recoveries then
    return .finished (.error (.recoverable obstacle)) asked
  else
    have less : asked.allowance < ctx.allowance := Context.allowance_countRecovery_lt h
    match ← Program.ask (.ask ctx.id need) with
    | .credentials credential =>
      Program.cacheUser credential
      return .again asked less
    | .otpChannel channel =>
      match ← (session.deliverOtp channel).attempt with
      | .error error => return .finished (.error error) asked
      | .ok () =>
        let chosen := asked.withOtpChannel channel
        have le : chosen.allowance ≤ ctx.allowance := Nat.le_of_lt less
        return (← recover session obstacle (selectChannel channel need) chosen).earlier le
    | .otp otp => return .again (asked.withOtp otp) less
    | .unlocked => return .again asked less
    | .deferred => return .finished (.error (.awaitingInput obstacle)) asked
    | .cancelled => return .finished (.error .cancelled) asked
termination_by ctx.allowance

/-! ### Attempts -/

/-- What follows a failure before the request was sent. Another attempt is counted although nothing
was sent; asking the user is not. -/
def afterUnsent (session : Session) (ctx : Context) (error : Error) : Program (Round ctx) := do
  match ← (session.react error).attempt with
  | .error error => return .finished (.error error) ctx
  | .ok .giveUp => return .finished (.error error) ctx
  | .ok .retry =>
    let counted := ctx.countAttempt
    if h : counted.attempts < Context.maxAttempts then
      return .again counted (Context.allowance_countAttempt_lt h)
    else return .finished (.error (.tooManyAttempts counted.attempts (some error))) counted
  | .ok (.recover obstacle) => session.recover obstacle (needFor [] obstacle) ctx

/-- What follows a response that is not a success. Whatever follows, there must be an attempt
left. -/
def afterRefusal (session : Session) (ctx : Context) (response : Response) :
    Program (Round ctx) := do
  let counted := ctx.countAttempt.withoutOtp
  match ← (session.react response.refusal).attempt with
  | .error error => return .finished (.error error) counted
  | .ok .giveUp => return .finished (.error response.refusal) counted
  | .ok reaction =>
    if h : ctx.countAttempt.attempts < Context.maxAttempts then
      have less : counted.allowance < ctx.allowance := Context.allowance_countAttempt_lt h
      match reaction with
      | .recover obstacle =>
        let need := needFor (otpChannels response) obstacle
        return (← session.recover obstacle need counted).earlier (Nat.le_of_lt less)
      | _ => return .again counted less
    else
      return .finished (.error (.tooManyAttempts counted.attempts (some response.refusal))) counted

/-- One attempt on a request. -/
def round (session : Session) (ctx : Context) : Program (Round ctx) := do
  match ← (session.prepare ctx).attempt with
  | .error error => session.afterUnsent ctx error
  | .ok request =>
    match ← (session.send (.caller ctx.id) request).attempt with
    | .error error => return .finished (.error error) ctx.countAttempt
    | .ok response =>
      if response.isSuccess then return .finished (.ok response) ctx.countAttempt.withoutOtp
      else session.afterRefusal ctx response

/-- Attempts on a request until there is a result, with the context as it is then. -/
def execute (session : Session) (ctx : Context) : Program (Except Error Response × Context) := do
  match ← session.round ctx with
  | .finished result last => return (result, last)
  | .again next _ => execute session next
termination_by ctx.allowance

end Session

end GatewaySession
