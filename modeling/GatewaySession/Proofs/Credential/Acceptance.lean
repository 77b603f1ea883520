import GatewaySession.Credential.Jwt
import GatewaySession.Proofs.Number.Decimal
import GatewaySession.Proofs.Text.Base64
import GatewaySession.Proofs.Text.Split
import Mathlib.Order.Lattice

/-!
# Which identity tokens are accepted

What a token has to be is said here without its reader: of which segments it is made, which octets
a segment spells, what its claims name. Each step of the reader decides one of these properties and
nothing else, so a token is accepted exactly if it has all of them, and the error is that of the
first that it lacks.

The segments and what the first two of them hold are its *opening*. Only the last step looks at the
signature. So of two tokens that differ in the signature alone either both fail an earlier check,
with the same error, or neither does.

A number too large for the integers of the format is a double, which is why a time may be one. The
time it states is its integral part, as far as 64 bits hold it.

## Main definitions

* `Jwt.Spells`, `Jwt.Holds` — octets and object of a segment
* `Jwt.Claims.NamesAudience`, `Jwt.Claims.NamesDevice`, `Jwt.Claims.LastsUntil`,
  `Jwt.Claims.IsSigned` — what each check asks for
* `Jwt.Stage` — a step of the reader with the property that it decides
* `Jwt.Opens`, `Jwt.Passes`, `Jwt.FailsFirst` — the opening of a token, and its first failing check
* `Jwt.IsGenuine` — what a token of three segments has to be

## Main results

* `Jwt.octets?_eq_some_iff`, `Jwt.object?_eq_ok_iff`, `Jwt.time?_eq_some_iff` — the readers
* `Jwt.Stage.run_eq_ok`, `Jwt.Stage.run_eq_error` — stages one after the other
* `Jwt.validate_eq_ok_iff`, `Jwt.validate_eq_error_iff` — acceptance, and the order of the checks
* `Jwt.validate_sign_eq`, `Jwt.validate_sign` — of a token that is signed here only the claims are
  in question
* `Jwt.validate_of_other_third` — the signature is looked at last
* `Jwt.validate_exact` — all of it, with the octets that are signed
-/

namespace GatewaySession

namespace Jwt

open Json (Value)

/-! ### Segments -/

/-- Whether a segment spells octets: it is the text written for them, with any padding after it. -/
def Spells (segment : String) (octets : Bytes) : Prop :=
  ∃ count, segment.toList =
    Base64.encodeChars Base64.urlSafe false octets ++ List.replicate count '='

/-- **The octets of a segment** are those that it spells. -/
theorem octets?_eq_some_iff {segment : String} {octets : Bytes} :
    octets? segment = some octets ↔ Spells segment octets := by
  rw [octets?, Base64.decode?, Base64.decodeChars?_eq_some_iff Base64.isFaithful_urlSafe]
  constructor
  · intro written
    obtain ⟨count, cut⟩ := Text.exists_append_trimEnd '=' segment
    exact ⟨count, written ▸ cut⟩
  · rintro ⟨count, spelled⟩
    rw [Text.trimEnd_eq_of_append spelled
      (Base64.padding_notMem_encodeChars Base64.isFaithful_urlSafe octets), String.toList_ofList]

/-- Whether a segment holds an object. -/
def Holds (segment : String) (value : Value) : Prop :=
  ∃ octets, Spells segment octets ∧ Json.parse? octets = some value ∧
    ∃ members, value = .object members

theorem isObject_iff {value : Value} :
    value.isObject = true ↔ ∃ members, value = .object members := by
  cases value <;> simp [Value.isObject]

/-- **The object of a segment** is what it holds. -/
theorem object?_eq_ok_iff {part segment : String} {value : Value} :
    object? part segment = .ok value ↔ Holds segment value := by
  constructor
  · intro h
    rw [object?] at h
    split at h
    · cases h
    next octets spelled =>
    split at h
    · cases h
    next parsed =>
    split at h
    next object =>
      obtain rfl := Except.ok.inj h
      exact ⟨octets, octets?_eq_some_iff.1 spelled, parsed, isObject_iff.1 object⟩
    · cases h
  · rintro ⟨octets, spelled, parsed, object⟩
    rw [object?, octets?_eq_some_iff.2 spelled]
    simp only
    rw [parsed]
    exact if_pos (isObject_iff.2 object)

/-- A segment that is rejected is malformed. -/
theorem check_of_object? {part segment : String} {e : Error} (h : object? part segment = .error e) :
    e.check = .malformed := by
  rw [object?] at h
  split at h
  · exact Except.error.inj h ▸ rfl
  split at h
  · exact Except.error.inj h ▸ rfl
  split at h
  · cases h
  · exact Except.error.inj h ▸ rfl

/-! ### Claims -/

/-- The 64-bit integer with sign nearest to an integer. -/
def nearest (n : Int) : Int := max Int64.minValue.toInt (min n Int64.maxValue.toInt)

theorem toInt_ofIntClamp (n : Int) : (Int64.ofIntClamp n).toInt = nearest n := by
  rw [Int64.ofIntClamp, nearest]
  have order : Int64.minValue.toInt ≤ Int64.maxValue.toInt := by decide
  split_ifs with least most
  · rw [Int64.toInt_ofIntLE, min_eq_left most, max_eq_right least]
  · rw [min_eq_right (not_le.1 most).le, max_eq_right order]
  · rw [min_eq_left ((not_le.1 least).le.trans order), max_eq_left (not_le.1 least).le]

/-- The integral part of a double. -/
def truncated (bits : UInt64) : Int :=
  if Binary64.isNegative bits then -(Binary64.truncate (Binary64.code bits) : Int)
  else Binary64.truncate (Binary64.code bits)

/-- The time that a value states. Of a number the nearest one that 64 bits can hold counts, a text
has to spell one that they hold. -/
inductive States : Value → Int → Prop
  | integer (n : Int) : States (.integer n) (nearest n)
  | double (bits : UInt64) : States (.float bits) (nearest (truncated bits))
  | text {text : String} {n : Int} (spelled : Decimal.Spells text.toList n)
      (least : Int64.minValue.toInt ≤ n) (most : n ≤ Int64.maxValue.toInt) :
      States (.string text) n

/-- **The time of a value** is the one that it states. -/
theorem time?_eq_some_iff {value : Value} {time : Int64} :
    time? value = some time ↔ States value time.toInt := by
  constructor
  · intro h
    cases value with
    | integer n =>
      obtain rfl := Option.some.inj h
      rw [toInt_ofIntClamp]
      exact .integer n
    | float bits =>
      obtain rfl := Option.some.inj h
      rw [integralPart, toInt_ofIntClamp]
      exact .double bits
    | string text =>
      exact .text (Decimal.readInt64?_eq_some_iff.1 h) (Int64.minValue_le_toInt time)
        (Int64.toInt_le time)
    | _ => cases h
  · intro h
    generalize stated : time.toInt = n at h
    cases h with
    | integer n => rw [time?, Int64.toInt_inj.1 (stated.trans (toInt_ofIntClamp n).symm)]
    | double bits =>
      rw [time?, Int64.toInt_inj.1 (stated.trans (toInt_ofIntClamp (truncated bits)).symm)]
      rfl
    | text spelled => exact Decimal.readInt64?_eq_some_iff.2 (stated ▸ spelled)

namespace Claims

/-- Whether the audience is the given one, or a list with it. -/
def NamesAudience (claims : Claims) (audience : String) : Prop :=
  claims.payload.get? "aud" = some (.string audience) ∨
    ∃ items, claims.payload.get? "aud" = some (.array items) ∧ .string audience ∈ items

/-- Whether the authorized party is the given one. -/
def NamesDevice (claims : Claims) (device : String) : Prop :=
  claims.payload.get? "azp" = some (.string device)

/-- Whether the time of expiry is stated and not past. -/
def LastsUntil (claims : Claims) (now : Int64) : Prop :=
  ∃ value time, claims.payload.get? "exp" = some value ∧ States value time ∧ now.toInt ≤ time

/-- Whether there is a third segment, not empty, that spells the signature of the first two, and the
header names its algorithm. -/
def IsSigned (claims : Claims) (first second : String) (rest : List String)
    (secret : Bytes) : Prop :=
  claims.header.get? "alg" = some (.string "HS256") ∧
    ∃ last more, rest = last :: more ∧ last ≠ "" ∧ Spells last (signature first second secret)

end Claims

theorem text?_eq_some_iff {value : Value} {text : String} :
    value.text? = some text ↔ value = .string text := by
  cases value <;> simp [Value.text?]

/-- A member is a given text. -/
theorem bind_text?_eq_some_iff {value : Option Value} {text : String} :
    value.bind Value.text? = some text ↔ value = some (.string text) := by
  rw [Option.bind_eq_some_iff]
  constructor
  · rintro ⟨value, rfl, text⟩
    rw [text?_eq_some_iff.1 text]
  · rintro rfl
    exact ⟨_, rfl, rfl⟩

theorem isFor_iff {claims : Claims} {audience : String} :
    claims.isFor audience = true ↔ claims.NamesAudience audience := by
  rw [Claims.isFor, Claims.NamesAudience, Claims.get?]
  split
  next text named => simp [named]
  next items named =>
    simp [named, text?_eq_some_iff]
  next noText noArray =>
    refine iff_of_false Bool.false_ne_true ?_
    rintro (named | ⟨items, named, -⟩)
    · exact noText _ named
    · exact noArray _ named

theorem isAuthorizedFor_iff {claims : Claims} {device : String} :
    claims.isAuthorizedFor device = true ↔ claims.NamesDevice device := by
  rw [Claims.isAuthorizedFor, beq_iff_eq]
  exact bind_text?_eq_some_iff

/-! ### One check -/

/-- Whether a step of the reader decides a property: it goes on if that holds, and reports the check
otherwise. -/
structure Decides (step : Except Error Unit) (check : Check) (holds : Prop) : Prop where
  /-- The step goes on. -/
  ok : holds → step = .ok ()
  /-- The step reports the check. -/
  error : ¬ holds → ∃ detail, step = .error ⟨check, detail⟩

theorem decides_require {holds : Bool} {property : Prop} (iff : holds = true ↔ property)
    (check : Check) (detail : String) : Decides (require holds check detail) check property := by
  constructor
  · intro h
    rw [require, if_pos (iff.2 h)]
  · intro h
    exact ⟨detail, by rw [require, if_neg fun holds => h (iff.1 holds)]⟩

theorem decides_checkExpiry (claims : Claims) (now : Int64) :
    Decides (checkExpiry claims now) .expired (claims.LastsUntil now) := by
  have stated {time : Int64} : claims.expiresAt? = some time ↔
      ∃ value, claims.payload.get? "exp" = some value ∧ States value time.toInt := by
    simp only [Claims.expiresAt?, Option.bind_eq_some_iff, time?_eq_some_iff, Claims.get?]
  -- Every stated time fits 64 bits, so it is one that the reader can hold.
  have held {value : Value} {n : Int} (h : States value n) : ∃ time : Int64, time.toInt = n := by
    cases h with
    | integer n => exact ⟨_, toInt_ofIntClamp n⟩
    | double bits => exact ⟨_, toInt_ofIntClamp (truncated bits)⟩
    | text spelled least most => exact ⟨.ofIntLE n least most, Int64.toInt_ofIntLE⟩
  rw [checkExpiry]
  cases found : claims.expiresAt? with
  | none =>
    refine ⟨?_, fun _ => ⟨_, rfl⟩⟩
    rintro ⟨value, n, get, states, -⟩
    obtain ⟨time, rfl⟩ := held states
    rw [stated.2 ⟨value, get, states⟩] at found
    cases found
  | some time =>
    refine decides_require ?_ _ _
    rw [decide_eq_true_iff, Int64.le_iff_toInt_le]
    constructor
    · intro lasts
      obtain ⟨value, get, states⟩ := stated.1 found
      exact ⟨value, time.toInt, get, states, lasts⟩
    · rintro ⟨value, n, get, states, lasts⟩
      obtain ⟨other, rfl⟩ := held states
      obtain rfl := Option.some.inj (found.symm.trans (stated.2 ⟨value, get, states⟩))
      exact lasts

theorem givenSignature?_eq_some_iff {rest : List String} {octets : Bytes} :
    givenSignature? rest = some octets ↔
      ∃ last more, rest = last :: more ∧ last ≠ "" ∧ Spells last octets := by
  cases rest with
  | nil => simp [givenSignature?]
  | cons last more =>
    rw [givenSignature?]
    split_ifs with empty
    · rw [String.isEmpty_iff] at empty
      simp [empty]
    · rw [String.isEmpty_iff] at empty
      simp [empty, octets?_eq_some_iff]

theorem decides_checkSignature (claims : Claims) (first second : String) (rest : List String)
    (secret : Bytes) :
    Decides (checkSignature claims first second rest secret) .invalidSignature
      (claims.IsSigned first second rest secret) := by
  -- A header that names no algorithm counts as one that names `none`.
  have named : claims.algorithm?.getD "none" = "HS256" ↔
      claims.header.get? "alg" = some (.string "HS256") := by
    rw [← bind_text?_eq_some_iff]
    show claims.algorithm?.getD "none" = "HS256" ↔ claims.algorithm? = some "HS256"
    cases claims.algorithm? <;> simp
  rw [Claims.IsSigned, ← givenSignature?_eq_some_iff, ← named, checkSignature]
  cases found : givenSignature? rest with
  | none => exact ⟨fun signed => (nomatch signed.2), fun _ => ⟨_, rfl⟩⟩
  | some given =>
    dsimp only
    split_ifs with known
    · exact decides_require (by simp [known]) _ _
    · exact ⟨fun signed => absurd signed.1 known, fun _ => ⟨_, rfl⟩⟩

/-! ### One check after the other -/

/-- A step of the reader with the property that it decides. -/
structure Stage where
  /-- What is reported. -/
  check : Check
  /-- The step. -/
  step : Except Error Unit
  /-- The property. -/
  holds : Prop
  /-- The step decides it. -/
  decides : Decides step check holds

namespace Stage

/-- The stages one after the other, up to the first error. -/
def run : List Stage → Except Error Unit
  | [] => .ok ()
  | stage :: rest => do
    stage.step
    run rest

theorem run_append (first second : List Stage) :
    run (first ++ second) = (do run first; run second) := by
  induction first with
  | nil => rfl
  | cons stage first ih =>
    rw [List.cons_append, run, run, ih]
    cases stage.step <;> rfl

/-- Nothing is reported if all that is asked for holds. -/
theorem run_eq_ok {stages : List Stage} (h : ∀ stage ∈ stages, stage.holds) :
    run stages = .ok () := by
  induction stages with
  | nil => rfl
  | cons stage stages ih =>
    obtain ⟨first, rest⟩ := List.forall_mem_cons.1 h
    rw [run, stage.decides.ok first]
    exact ih rest

/-- **The first stage whose property is missing** is reported, and no later one matters. -/
theorem run_eq_error {earlier : List Stage} {stage : Stage} (h : ∀ stage ∈ earlier, stage.holds)
    (fails : ¬ stage.holds) (later : List Stage) :
    ∃ detail, run (earlier ++ stage :: later) = .error ⟨stage.check, detail⟩ := by
  obtain ⟨detail, error⟩ := stage.decides.error fails
  refine ⟨detail, ?_⟩
  rw [run_append, run_eq_ok h, run, error]
  rfl

/-- Either all properties hold, or one is the first that is missing. -/
theorem holds_or_fails (stages : List Stage) :
    (∀ stage ∈ stages, stage.holds) ∨
      ∃ earlier stage later, stages = earlier ++ stage :: later ∧
        (∀ stage ∈ earlier, stage.holds) ∧ ¬ stage.holds := by
  induction stages with
  | nil => exact .inl fun stage mem => absurd mem List.not_mem_nil
  | cons first stages ih =>
    by_cases h : first.holds
    case neg => exact .inr ⟨[], first, stages, rfl, fun stage mem => absurd mem List.not_mem_nil, h⟩
    rcases ih with all | ⟨earlier, stage, later, rfl, before, fails⟩
    · exact .inl (List.forall_mem_cons.2 ⟨h, all⟩)
    · exact .inr ⟨first :: earlier, stage, later, rfl, List.forall_mem_cons.2 ⟨h, before⟩, fails⟩

end Stage

namespace Claims

/-- The stages that look at the claims. -/
def stages (claims : Claims) (audience device : String) (now : Int64) : List Stage :=
  [⟨.invalidAudience, _, claims.NamesAudience audience,
      decides_require isFor_iff _ s!"aud does not match '{audience}'"⟩,
    ⟨.invalidAuthorizedParty, _, claims.NamesDevice device,
      decides_require isAuthorizedFor_iff _ "azp does not match the device identity"⟩,
    ⟨.expired, _, claims.LastsUntil now, decides_checkExpiry claims now⟩]

/-- The stage that looks at the signature. -/
def signatureStage (claims : Claims) (first second : String) (rest : List String)
    (secret : Bytes) : Stage :=
  ⟨.invalidSignature, _, claims.IsSigned first second rest secret,
    decides_checkSignature claims first second rest secret⟩

end Claims

/-! ### The opening of a token -/

/-- Whether a token opens: it has two or three segments, of which the first two hold objects. -/
structure Opens (token first second : String) (rest : List String) (claims : Claims) : Prop where
  /-- The segments of the token. -/
  joins : Text.Joins '.' token (first :: second :: rest)
  /-- At most one is left. -/
  short : rest.length ≤ 1
  /-- The first segment holds the header. -/
  header : Holds first claims.header
  /-- The second segment holds the payload. -/
  payload : Holds second claims.payload

theorem Holds.unique {segment : String} {value other : Value} (h : Holds segment value)
    (h' : Holds segment other) : value = other := by
  have read : object? "" segment = .ok value := object?_eq_ok_iff.2 h
  exact Except.ok.inj (read.symm.trans (object?_eq_ok_iff.2 h'))

/-- A token opens in one way. -/
theorem Opens.unique {token first second first' second' : String} {rest rest' : List String}
    {claims claims' : Claims} (h : Opens token first second rest claims)
    (h' : Opens token first' second' rest' claims') :
    first = first' ∧ second = second' ∧ rest = rest' ∧ claims = claims' := by
  have same := h.joins.unique h'.joins
  simp only [List.cons.injEq] at same
  obtain ⟨rfl, rfl, rfl⟩ := same
  obtain ⟨header, payload⟩ := claims
  obtain ⟨header', payload'⟩ := claims'
  obtain rfl : header = header' := h.header.unique h'.header
  obtain rfl : payload = payload' := h.payload.unique h'.payload
  exact ⟨rfl, rfl, rfl, rfl⟩

section

variable {token audience device : String} {secret : Bytes} {now : Int64}

/-- Two or three segments are looked into. -/
theorem validate_of_joins {first second : String} {rest : List String}
    (joins : Text.Joins '.' token (first :: second :: rest)) (short : rest.length ≤ 1) :
    validate token audience device secret now =
      validateSegments first second rest audience device secret now := by
  rw [validate, segments, Text.split_eq_iff.2 joins]
  match rest, short with
  | [], _ => rfl
  | [_], _ => rfl

/-- **A token that opens** goes through the stages of its claims and that of its signature. -/
theorem validate_of_opens {first second : String} {rest : List String} {claims : Claims}
    (h : Opens token first second rest claims) :
    validate token audience device secret now = (do
      Stage.run (claims.stages audience device now ++
        [claims.signatureStage first second rest secret])
      return claims) := by
  have opened : validateSegments first second rest audience device secret now = (do
      require (claims.isFor audience) .invalidAudience s!"aud does not match '{audience}'"
      require (claims.isAuthorizedFor device) .invalidAuthorizedParty
        "azp does not match the device identity"
      checkExpiry claims now
      checkSignature claims first second rest secret
      return claims) := by
    rw [validateSegments, object?_eq_ok_iff.2 h.header, object?_eq_ok_iff.2 h.payload]
    rfl
  rw [validate_of_joins h.joins h.short, opened]
  simp only [Claims.stages, Claims.signatureStage, Stage.run, List.cons_append, List.nil_append,
    bind_assoc]
  rfl

/-- Segments that hold no objects are malformed. -/
theorem validateSegments_of_not_holds {first second : String}
    (h : ∀ claims : Claims, Holds first claims.header → ¬ Holds second claims.payload) :
    ∃ detail, ∀ rest, validateSegments first second rest audience device secret now =
      .error ⟨.malformed, detail⟩ := by
  simp only [validateSegments]
  cases header : object? "header" first with
  | error e =>
    obtain ⟨check, detail⟩ := e
    obtain rfl : check = .malformed := check_of_object? header
    exact ⟨detail, fun _ => rfl⟩
  | ok header' =>
  cases payload : object? "payload" second with
  | error e =>
    obtain ⟨check, detail⟩ := e
    obtain rfl : check = .malformed := check_of_object? payload
    exact ⟨detail, fun _ => rfl⟩
  | ok payload' =>
    exact absurd (object?_eq_ok_iff.1 payload)
      (h ⟨header', payload'⟩ (object?_eq_ok_iff.1 header))

/-- **A token that does not open** is malformed. -/
theorem validate_of_not_opens
    (h : ∀ first second rest claims, ¬ Opens token first second rest claims) :
    ∃ detail, validate token audience device secret now = .error ⟨.malformed, detail⟩ := by
  have unheld {first second : String} {rest : List String}
      (pieces : segments token = first :: second :: rest) (short : rest.length ≤ 1)
      (claims : Claims) (header : Holds first claims.header) : ¬ Holds second claims.payload :=
    fun payload => h first second rest claims
      ⟨Text.split_eq_iff.1 pieces, short, header, payload⟩
  rw [validate]
  split
  next pieces =>
    obtain ⟨detail, error⟩ := validateSegments_of_not_holds (unheld pieces (Nat.zero_le 1))
    exact ⟨detail, error []⟩
  next last pieces =>
    obtain ⟨detail, error⟩ := validateSegments_of_not_holds (unheld pieces (Nat.le_refl 1))
    exact ⟨detail, error [last]⟩
  · exact ⟨_, rfl⟩

end

/-! ### Acceptance -/

/-- What a token of three segments has to be. -/
structure IsGenuine (first second last audience device : String) (secret : Bytes) (now : Int64)
    (claims : Claims) : Prop where
  /-- The first segment holds the header. -/
  header : Holds first claims.header
  /-- The second segment holds the payload. -/
  payload : Holds second claims.payload
  /-- The header names the algorithm. -/
  algorithm : claims.header.get? "alg" = some (.string "HS256")
  /-- The token is meant for the audience. -/
  audience : claims.NamesAudience audience
  /-- The token is given to the device. -/
  device : claims.NamesDevice device
  /-- The token has not expired. -/
  lasts : claims.LastsUntil now
  /-- There is a signature. -/
  ne_empty : last ≠ ""
  /-- The signature is right. -/
  signed : Spells last (signature first second secret)

section

variable (token audience device : String) (secret : Bytes) (now : Int64)

/-- Whether a token passes a check. -/
def Passes (check : Check) : Prop :=
  ∃ first second rest claims, Opens token first second rest claims ∧
    match check with
    | .malformed => True
    | .invalidAudience => claims.NamesAudience audience
    | .invalidAuthorizedParty => claims.NamesDevice device
    | .expired => claims.LastsUntil now
    | .invalidSignature => claims.IsSigned first second rest secret

/-- The checks in their order. -/
def checks : List Check :=
  [.malformed, .invalidAudience, .invalidAuthorizedParty, .expired, .invalidSignature]

/-- Whether a check is the first that a token fails. -/
def FailsFirst (check : Check) : Prop :=
  ∃ earlier later, checks = earlier ++ check :: later ∧
    (∀ other ∈ earlier, Passes token audience device secret now other) ∧
    ¬ Passes token audience device secret now check

end

section

variable {token audience device : String} {secret : Bytes} {now : Int64}

/-- A token has one first failing check. -/
theorem FailsFirst.unique {check other : Check}
    (h : FailsFirst token audience device secret now check)
    (h' : FailsFirst token audience device secret now other) : check = other := by
  obtain ⟨earlier, later, order, passed, fails⟩ := h
  obtain ⟨earlier', later', order', passed', fails'⟩ := h'
  rcases List.append_eq_append_iff.1 (order.symm.trans order') with
    ⟨between, rfl, more⟩ | ⟨between, rfl, more⟩
  · cases between with
    | nil => exact (List.cons.inj more).1
    | cons c between =>
      obtain ⟨rfl, -⟩ := List.cons.inj more
      exact absurd (passed' check (by simp)) fails
  · cases between with
    | nil => exact (List.cons.inj more).1.symm
    | cons c between =>
      obtain ⟨rfl, -⟩ := List.cons.inj more
      exact absurd (passed other (by simp)) fails'

/-- What an opened token passes. -/
theorem passes_iff {first second : String} {rest : List String} {claims : Claims}
    (h : Opens token first second rest claims) {stage : Stage}
    (mem : stage ∈ claims.stages audience device now ++
      [claims.signatureStage first second rest secret]) :
    Passes token audience device secret now stage.check ↔ stage.holds := by
  constructor
  · rintro ⟨first', second', rest', claims', opens, passes⟩
    obtain ⟨rfl, rfl, rfl, rfl⟩ := h.unique opens
    simp only [Claims.stages, Claims.signatureStage, List.cons_append, List.nil_append,
      List.mem_cons, List.not_mem_nil, or_false] at mem
    rcases mem with rfl | rfl | rfl | rfl <;> exact passes
  · intro holds
    refine ⟨first, second, rest, claims, h, ?_⟩
    simp only [Claims.stages, Claims.signatureStage, List.cons_append, List.nil_append,
      List.mem_cons, List.not_mem_nil, or_false] at mem
    rcases mem with rfl | rfl | rfl | rfl <;> exact holds

/-- **The verdict**: a token either opens, passes all its stages and is accepted, or is rejected
with the first check that it fails. -/
theorem validate_cases (token audience device : String) (secret : Bytes) (now : Int64) :
    (∃ first second rest claims, Opens token first second rest claims ∧
      (∀ stage ∈ claims.stages audience device now ++
        [claims.signatureStage first second rest secret], stage.holds) ∧
      validate token audience device secret now = .ok claims) ∨
    ∃ check detail, FailsFirst token audience device secret now check ∧
      validate token audience device secret now = .error ⟨check, detail⟩ := by
  by_cases opens : ∃ first second rest claims, Opens token first second rest claims
  case neg =>
    simp only [not_exists] at opens
    obtain ⟨detail, error⟩ := validate_of_not_opens opens
    refine .inr ⟨.malformed, detail, ⟨[], _, rfl, nofun, ?_⟩, error⟩
    rintro ⟨first, second, rest, claims, opened, -⟩
    exact opens first second rest claims opened
  obtain ⟨first, second, rest, claims, opened⟩ := opens
  have order : checks = .malformed :: (claims.stages audience device now ++
    [claims.signatureStage first second rest secret]).map Stage.check := rfl
  have passes (stage : Stage) (mem : stage ∈ claims.stages audience device now ++
      [claims.signatureStage first second rest secret]) :
      Passes token audience device secret now stage.check ↔ stage.holds := passes_iff opened mem
  rw [validate_of_opens opened]
  rcases Stage.holds_or_fails (claims.stages audience device now ++
    [claims.signatureStage first second rest secret]) with
    all | ⟨earlier, stage, later, eq, before, fails⟩
  · refine .inl ⟨first, second, rest, claims, opened, all, ?_⟩
    rw [Stage.run_eq_ok all]
    rfl
  · rw [eq] at order passes
    obtain ⟨detail, error⟩ := Stage.run_eq_error before fails later
    refine .inr ⟨stage.check, detail, ⟨.malformed :: earlier.map Stage.check, later.map Stage.check,
      by rw [order, List.map_append, List.map_cons, List.cons_append], ?_, ?_⟩, ?_⟩
    · intro other mem
      rcases List.mem_cons.1 mem with rfl | mem
      · exact ⟨first, second, rest, claims, opened, trivial⟩
      · obtain ⟨passed, within, rfl⟩ := List.mem_map.1 mem
        exact (passes _ (List.mem_append_left _ within)).2 (before passed within)
    · exact fun passed => fails ((passes _ (List.mem_append_right _ List.mem_cons_self)).1 passed)
    · rw [eq, error]
      rfl

/-- **Acceptance** asks for three segments and for everything else in `IsGenuine`. -/
theorem validate_eq_ok_iff {claims : Claims} :
    validate token audience device secret now = .ok claims ↔
      ∃ first second last, Text.Joins '.' token [first, second, last] ∧
        IsGenuine first second last audience device secret now claims := by
  constructor
  · intro accepted
    rcases validate_cases token audience device secret now with
      ⟨first, second, rest, claims', opened, holds, ok⟩ | ⟨check, detail, -, error⟩
    · obtain rfl := Except.ok.inj (ok.symm.trans accepted)
      simp only [Claims.stages, Claims.signatureStage, List.cons_append, List.nil_append,
        List.forall_mem_cons] at holds
      obtain ⟨meant, given, lasts, ⟨algorithm, last, more, rfl, ne_empty, signed⟩, -⟩ := holds
      obtain rfl : more = [] := by
        have short := opened.short
        rw [List.length_cons] at short
        exact List.eq_nil_of_length_eq_zero (by omega)
      exact ⟨first, second, last, opened.joins, opened.header, opened.payload, algorithm, meant,
        given, lasts, ne_empty, signed⟩
    · rw [error] at accepted
      cases accepted
  · rintro ⟨first, second, last, joins, genuine⟩
    have opened : Opens token first second [last] claims :=
      ⟨joins, le_rfl, genuine.header, genuine.payload⟩
    rw [validate_of_opens opened, Stage.run_eq_ok]
    · rfl
    · simp only [Claims.stages, Claims.signatureStage, List.cons_append, List.nil_append,
        List.forall_mem_cons]
      exact ⟨genuine.audience, genuine.device, genuine.lasts,
        ⟨genuine.algorithm, last, [], rfl, genuine.ne_empty, genuine.signed⟩, nofun⟩

/-- **A rejection** reports the first check that fails. -/
theorem validate_eq_error_iff {check : Check} :
    (∃ detail, validate token audience device secret now = .error ⟨check, detail⟩) ↔
      FailsFirst token audience device secret now check := by
  constructor
  · rintro ⟨detail, error⟩
    rcases validate_cases token audience device secret now with
      ⟨_, _, _, _, -, -, ok⟩ | ⟨check', detail', fails, error'⟩
    · rw [ok] at error
      cases error
    · obtain ⟨rfl, -⟩ := Error.mk.inj (Except.error.inj (error'.symm.trans error))
      exact fails
  · intro fails
    rcases validate_cases token audience device secret now with
      ⟨first, second, rest, claims, opened, holds, -⟩ | ⟨check', detail, fails', error⟩
    · obtain ⟨earlier, later, order, -, fails⟩ := fails
      have mem : check ∈ checks := order ▸ List.mem_append_right _ List.mem_cons_self
      rcases List.mem_cons.1 mem with rfl | mem
      · exact absurd ⟨first, second, rest, claims, opened, trivial⟩ fails
      · obtain ⟨stage, within, rfl⟩ := List.mem_map.1 (show check ∈
          (claims.stages audience device now ++
            [claims.signatureStage first second rest secret]).map Stage.check from mem)
        exact absurd ((passes_iff opened within).2 (holds stage within)) fails
    · obtain rfl := fails.unique fails'
      exact ⟨detail, error⟩

/-! ### Signing -/

/-- A segment that is written here spells what it is written for. -/
theorem spells_encode (octets : Bytes) :
    Spells (Base64.encode Base64.urlSafe false octets) octets :=
  ⟨0, by rw [Base64.encode, String.toList_ofList, List.replicate_zero, List.append_nil]⟩

/-- A token that is signed here is made of three segments. -/
theorem joins_sign (payload : Value) (secret : Bytes) :
    Text.Joins '.' (sign payload secret) [segment header, segment payload,
      Base64.encode Base64.urlSafe false
        (signature (segment header) (segment payload) secret)] := by
  have free (octets : Bytes) : '.' ∉ (Base64.encode Base64.urlSafe false octets).toList := by
    unfold Base64.encode
    rw [String.toList_ofList]
    exact Base64.notMem_encodeChars (by decide) octets
  refine ⟨by simp, ?_, ?_⟩
  · simp only [List.forall_mem_cons]
    exact ⟨free _, free _, free _, nofun⟩
  · simp only [sign, List.map_cons, List.map_nil, List.intercalate_cons_cons,
      List.intercalate_singleton, String.toList_append, List.append_assoc]
    rfl

section

variable {members : List (String × Value)} {secret : Bytes}

/-- The third segment of a token that is signed here. -/
def lastSegment (payload : Value) (secret : Bytes) : String :=
  Base64.encode Base64.urlSafe false (signature (segment header) (segment payload) secret)

/-- A token that is signed here opens to what it was signed for. -/
theorem opens_sign (read : Json.parse? (Value.object members).encode = some (.object members)) :
    Opens (sign (.object members) secret) (segment header) (segment (.object members))
      [lastSegment (.object members) secret] ⟨header, .object members⟩ where
  joins := joins_sign _ secret
  short := le_rfl
  header := ⟨_, spells_encode _, by rfl, _, rfl⟩
  payload := ⟨_, spells_encode _, read, _, rfl⟩

/-- The third segment is not empty, because a signature has octets. -/
theorem lastSegment_ne_empty (payload : Value) (secret : Bytes) :
    lastSegment payload secret ≠ "" := by
  intro empty
  have octets : signature (segment header) (segment payload) secret ≠ [] := by
    rw [signature, ne_eq, Vector.toList_eq_nil_iff]
    decide
  refine Base64.encodeChars_ne_nil Base64.isFaithful_urlSafe octets ?_
  rw [← String.toList_eq_nil_iff, lastSegment, Base64.encode, String.toList_ofList] at empty
  exact empty

/-- A token that is signed here is signed. -/
theorem isSigned_sign (payload : Value) (secret : Bytes) :
    (⟨header, payload⟩ : Claims).IsSigned (segment header) (segment payload)
      [lastSegment payload secret] secret :=
  ⟨rfl, _, [], rfl, lastSegment_ne_empty payload secret, spells_encode _⟩

/-- **Only the claims** of a token that is signed here are in question, if its payload is read as it
was written. -/
theorem validate_sign_eq
    (read : Json.parse? (Value.object members).encode = some (.object members)) :
    validate (sign (.object members) secret) audience device secret now = (do
      Stage.run ((⟨header, .object members⟩ : Claims).stages audience device now)
      return ⟨header, .object members⟩) := by
  have signed : Stage.run [(⟨header, .object members⟩ : Claims).signatureStage (segment header)
      (segment (.object members)) [lastSegment (.object members) secret] secret] = .ok () :=
    Stage.run_eq_ok (List.forall_mem_singleton.2 (isSigned_sign _ secret))
  rw [validate_of_opens (opens_sign read), Stage.run_append, signed]
  cases Stage.run _ <;> rfl

/-- **A token that is signed here** is accepted, if its payload is read as it was written and names
what is asked for. -/
theorem validate_sign
    (read : Json.parse? (Value.object members).encode = some (.object members))
    (meant : (⟨header, .object members⟩ : Claims).NamesAudience audience)
    (given : (⟨header, .object members⟩ : Claims).NamesDevice device)
    (lasts : (⟨header, .object members⟩ : Claims).LastsUntil now) :
    validate (sign (.object members) secret) audience device secret now =
      .ok ⟨header, .object members⟩ := by
  have holds : ∀ stage ∈ (⟨header, .object members⟩ : Claims).stages audience device now,
      stage.holds := by
    simp only [Claims.stages, List.forall_mem_cons]
    exact ⟨meant, given, lasts, fun _ mem => absurd mem List.not_mem_nil⟩
  rw [validate_sign_eq read, Stage.run_eq_ok holds]
  rfl

end

/-! ### The signature -/

/-- **Another third segment** changes nothing about a token that fails an earlier check. -/
theorem validate_of_other_third {changed first second third other : String} {more : List String}
    {e : Error} (joins : Text.Joins '.' token (first :: second :: third :: more))
    (joins' : Text.Joins '.' changed (first :: second :: other :: more))
    (error : validate token audience device secret now = .error e)
    (earlier : e.check ≠ .invalidSignature) :
    validate changed audience device secret now = .error e := by
  cases more with
  | cons next more =>
    rw [validate, segments, Text.split_eq_iff.2 joins] at error
    rw [validate, segments, Text.split_eq_iff.2 joins', ← error]
    rfl
  | nil =>
  by_cases holds : ∃ claims : Claims, Holds first claims.header ∧ Holds second claims.payload
  case neg =>
    simp only [not_exists, not_and] at holds
    obtain ⟨detail, malformed⟩ := validateSegments_of_not_holds holds
    rw [validate_of_joins joins le_rfl, malformed] at error
    rw [validate_of_joins joins' le_rfl, malformed, error]
  obtain ⟨claims, header, payload⟩ := holds
  rw [validate_of_opens ⟨joins, le_rfl, header, payload⟩, Stage.run_append] at error
  rw [validate_of_opens ⟨joins', le_rfl, header, payload⟩, Stage.run_append]
  cases claims_ok : Stage.run (claims.stages audience device now) with
  | error e' =>
    rw [claims_ok] at error
    exact error
  | ok _ =>
    rw [claims_ok] at error
    by_cases signed : claims.IsSigned first second [third] secret
    · rw [Stage.run_eq_ok (by simpa [Claims.signatureStage] using signed)] at error
      cases error
    · have nothing : ∀ stage ∈ ([] : List Stage), stage.holds := nofun
      have fails : ¬ (claims.signatureStage first second [third] secret).holds := signed
      obtain ⟨detail, unsigned⟩ := Stage.run_eq_error nothing fails []
      rw [List.nil_append] at unsigned
      rw [unsigned] at error
      exact absurd (Except.error.inj error ▸ rfl) earlier

end

/-- The octets up to the second separator, which is how many are signed. -/
def signedLength (first second : String) : Nat :=
  (Utf8.encode first).length + 1 + (Utf8.encode second).length

theorem length_signingInput (first second : String) :
    (signingInput first second).length = signedLength first second := by
  simp only [signingInput, signedLength, Utf8.encode, Utf8.encodeChars, String.toList_append,
    List.flatMap_append, List.length_append]
  rfl

/-- **What is signed** is the beginning of the token, up to a place between two characters. -/
theorem exists_append_of_joins {token first second : String} {rest : List String}
    (joins : Text.Joins '.' token (first :: second :: rest)) :
    ∃ after, token = (first ++ "." ++ second) ++ after := by
  have whole := joins.join
  cases rest with
  | nil =>
    refine ⟨"", String.toList_inj.1 ?_⟩
    simp [whole, List.intercalate_cons_cons]
  | cons third rest =>
    refine ⟨String.ofList ('.' :: ['.'].intercalate ((third :: rest).map String.toList)),
      String.toList_inj.1 ?_⟩
    simp [whole, List.intercalate_cons_cons]

/-- **Identity tokens**, read exactly. A token is accepted if and only if it has three segments that
are genuine; it is rejected with a check if and only if that is the first it fails; another third
segment changes nothing about an earlier check; and what is signed is a part of the token that ends
between two characters. -/
theorem validate_exact (token audience device : String) (secret : Bytes) (now : Int64) :
    (∀ claims, validate token audience device secret now = .ok claims ↔
      ∃ first second last, Text.Joins '.' token [first, second, last] ∧
        IsGenuine first second last audience device secret now claims) ∧
    (∀ check, (∃ detail, validate token audience device secret now = .error ⟨check, detail⟩) ↔
      FailsFirst token audience device secret now check) ∧
    (∀ changed first second third other more e,
      Text.Joins '.' token (first :: second :: third :: more) →
      Text.Joins '.' changed (first :: second :: other :: more) →
      validate token audience device secret now = .error e → e.check ≠ .invalidSignature →
      validate changed audience device secret now = .error e) ∧
    (∀ first second rest, Text.Joins '.' token (first :: second :: rest) →
      signedLength first second ≤ (Utf8.encode token).length ∧
      (Utf8.encode token).take (signedLength first second) = signingInput first second ∧
      ∃ before after, token = before ++ after ∧
        (Utf8.encode before).length = signedLength first second) := by
  refine ⟨fun claims => validate_eq_ok_iff, fun check => validate_eq_error_iff,
    fun changed first second third other more e => validate_of_other_third,
    fun first second rest joins => ?_⟩
  obtain ⟨after, whole⟩ := exists_append_of_joins joins
  have octets : Utf8.encode token = signingInput first second ++ Utf8.encode after := by
    rw [whole, signingInput, Utf8.encode, Utf8.encodeChars, String.toList_append,
      List.flatMap_append]
    rfl
  refine ⟨?_, ?_, first ++ "." ++ second, after, whole, length_signingInput first second⟩
  · rw [octets, List.length_append, length_signingInput]
    exact Nat.le_add_right _ _
  · rw [octets, ← length_signingInput, List.take_left]

end Jwt

end GatewaySession
