/-!
# Errors

Every failure of the engine is a value of one type. A constructor names the cause; the wording is in
`Error.message` alone. Two constructors wrap the error they were caused by: a storage operation with
the key it was about, and the end of a retry loop with the last refusal.

## Main definitions

* `Obstacle` — what only input from outside can remove
* `Refusal` — the kinds of refusal that a gateway's error code distinguishes
* `Jwt.Error` — why an identity token was rejected
* `Error`, `Error.message` — failures and their wording
* `Error.isStoreLocked` — whether a locked key store is at the bottom of it
-/

namespace GatewaySession

/-- What halts an attempt until input arrives from outside. -/
inductive Obstacle where
  /-- No user credential to obtain a token or register the device with. -/
  | credentialsRequired
  /-- The key store has to be unlocked first. -/
  | storeLocked
  /-- The gateway demands a one-time passcode. -/
  | otpRequired
  deriving DecidableEq

/-- The wording of an obstacle. -/
def Obstacle.text : Obstacle → String
  | credentialsRequired => "credentials required"
  | storeLocked => "token store locked"
  | otpRequired => "one-time passcode required"

/-- The kinds of refusal that the last three digits of a gateway error code distinguish. -/
inductive Refusal where
  /-- The client id or secret was rejected. -/
  | invalidClientCredential
  /-- The username or password was rejected. -/
  | invalidResourceOwner
  /-- The certificate of the device has expired. -/
  | clientCertificateExpired
  /-- The access token is unknown. -/
  | invalidAccessToken
  /-- The access token expired on the way. -/
  | accessTokenExpired
  /-- A one-time passcode must accompany the request. -/
  | otpRequired
  /-- The one-time passcode was wrong. -/
  | invalidOtp
  /-- The one-time passcode has expired. -/
  | otpExpired
  /-- Any other code, or none. -/
  | unknown
  deriving DecidableEq

namespace Refusal

/-- The name of a kind, as it stands in error messages. -/
def name : Refusal → String
  | invalidClientCredential => "InvalidClientCredential"
  | invalidResourceOwner => "InvalidResourceOwner"
  | clientCertificateExpired => "ClientCertificateExpired"
  | invalidAccessToken => "InvalidAccessToken"
  | accessTokenExpired => "AccessTokenExpired"
  | otpRequired => "OtpRequired"
  | invalidOtp => "InvalidOtp"
  | otpExpired => "OtpExpired"
  | unknown => "Unknown"

/-- The kind of an error code. Only the last three digits count. -/
def ofCode (code : UInt64) : Refusal :=
  match code.toNat % 1000 with
  | 201 => invalidClientCredential
  | 202 => invalidResourceOwner
  | 206 => clientCertificateExpired
  | 990 => invalidAccessToken
  | 991 => accessTokenExpired
  | 140 => otpRequired
  | 142 => invalidOtp
  | 143 => otpExpired
  | _ => unknown

/-- Whether a one-time passcode could help. -/
def isOtp : Refusal → Bool
  | otpRequired | invalidOtp | otpExpired => true
  | _ => false

end Refusal

namespace Jwt

/-- Which check an identity token failed. -/
inductive Check where
  /-- Segments, base64 and JSON of header and payload. -/
  | malformed
  /-- The audience is the client. -/
  | invalidAudience
  /-- The authorized party is the device. -/
  | invalidAuthorizedParty
  /-- The time of expiry is not past. -/
  | expired
  /-- The signature is there and right. -/
  | invalidSignature
  deriving DecidableEq

/-- The wording of a failed check. -/
def Check.text : Check → String
  | malformed => "malformed"
  | invalidAudience => "invalid audience"
  | invalidAuthorizedParty => "invalid authorized party"
  | expired => "expired"
  | invalidSignature => "invalid signature"

/-- Why an identity token was rejected. -/
structure Error where
  /-- The check that failed. -/
  check : Check
  /-- What was wrong. -/
  detail : String
  deriving DecidableEq

/-- The wording of a rejection. -/
def Error.message (error : Error) : String := s!"JWT {error.check.text}: {error.detail}"

end Jwt

/-- What the file system can report. -/
inductive FileFault where
  | notFound
  | invalidData
  | isADirectory
  deriving DecidableEq

/-- A failure of the engine. -/
inductive Error where
  /-- A sealed record was altered, cut short, or sealed under another key. -/
  | integrity (detail : String)
  /-- An identity token was rejected. -/
  | jwt (error : Jwt.Error)
  /-- An attempt cannot proceed without input. -/
  | recoverable (obstacle : Obstacle)
  /-- Input was asked for and will come later. -/
  | awaitingInput (obstacle : Obstacle)
  /-- The gateway refused, with the kind of the code it gave. -/
  | server (refusal : Refusal) (status : UInt16) (code : Option UInt64) (text : String)
  /-- The retry loop gave up. -/
  | tooManyAttempts (attempts : Nat) (source : Option Error)
  /-- The request was cancelled. -/
  | cancelled
  /-- No response was received. -/
  | transport (detail : String)
  /-- The key store is locked. -/
  | storeLocked
  /-- There is no key under an alias. -/
  | keyUnavailable (name : String)
  /-- The settings are incomplete. -/
  | config (detail : String)
  /-- The caller supplied a value that is not admitted. -/
  | invalidInput (detail : String)
  /-- A storage operation failed. -/
  | storageOperation (operation : String) (key : String) (source : Error)
  /-- The file system reported a fault. -/
  | io (fault : FileFault)
  /-- A document is not the JSON it should be. -/
  | json
  /-- Any other failure, by its text. -/
  | other (text : String)

namespace Error

instance : Inhabited Error := ⟨cancelled⟩

/-- The wording of an error. Texts of the file system and of the JSON reader are left out. -/
def message : Error → String
  | integrity detail => s!"integrity check failed: {detail}"
  | jwt error => error.message
  | recoverable obstacle => s!"recoverable condition: {obstacle.text}"
  | awaitingInput obstacle => s!"awaiting out-of-band input: {obstacle.text}"
  | server refusal status _ text => s!"server error {status} ({refusal.name}): {text}"
  | tooManyAttempts attempts _ => s!"too many attempts ({attempts})"
  | cancelled => "request cancelled"
  | transport detail => s!"transport error: {detail}"
  | storeLocked => "key store is locked"
  | keyUnavailable name => s!"key unavailable: {name}"
  | config detail => s!"configuration error: {detail}"
  | invalidInput detail => s!"invalid input: {detail}"
  | storageOperation operation key source => s!"storage: {operation} {key}: {source.message}"
  | io _ => "I/O error: <io>"
  | json => "JSON error: <json>"
  | other text => text

/-- The refusal of a gateway, classified by its code. -/
def ofReply (status : UInt16) (code : Option UInt64) (text : String) : Error :=
  server ((code.map Refusal.ofCode).getD .unknown) status code text

/-- The kind of refusal, if a gateway refused. -/
def refusal? : Error → Option Refusal
  | server refusal _ _ _ => some refusal
  | _ => none

/-- Whether a locked key store is the cause, seen through storage operations only. -/
def isStoreLocked : Error → Bool
  | storeLocked => true
  | storageOperation _ _ source => source.isStoreLocked
  | _ => false

/-- How many errors stand behind this one. Faults of the file system and of the JSON reader have the
text they leave out behind them. -/
def depth : Error → Nat
  | storageOperation _ _ source => source.depth + 1
  | tooManyAttempts _ (some source) => source.depth + 1
  | io _ => 1
  | json => 1
  | _ => 0

end Error

end GatewaySession
