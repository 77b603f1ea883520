import GatewaySession.Proofs.Credential.Acceptance
import GatewaySession.Proofs.Json.Value

/-!
# What becomes of the tokens that are signed here

A token that is signed here opens to the payload it was signed for, and its signature is right. So
nothing can go wrong with it but its claims: they are looked at in their order, and the verdict is
that of the first that fails. This asks for a payload that is read as it was written, which holds of
every object without doubles that nests no deeper than values may.

In such a payload the time of expiry is an integer or a text. Integers from 2^63 on count as the
largest of 64 bits with sign, which no time is beyond, so for integers it makes no difference. A
text that spells one states no time at all.

## Main definitions

* `Jwt.Claims.ExpiresNotBefore` — the time of expiry in such a payload

## Main results

* `Jwt.Claims.lastsUntil_iff` — the time of expiry, in terms of integers
* `Jwt.validate_signed` — the verdict on every token that is signed here
-/

namespace GatewaySession

namespace Json

/-- The members of an exact object are exact within one level less. -/
theorem Value.IsExact.of_get? {depth : Nat} {members : List (String × Value)} {name : String}
    {value : Value} (exact : (Value.object members).IsExact (depth + 1))
    (found : (Value.object members).get? name = some value) : value.IsExact depth := by
  cases exact with
  | object _ members_exact => exact members_exact _ (Table.mem_of_findValue? found)

end Json

namespace Jwt

open Json (Value)

/-! ### The time of expiry -/

namespace Claims

/-- Whether the time of expiry is not before a given time: it is an integer, or a text that spells
one up to the largest of 64 bits with sign. -/
def ExpiresNotBefore (claims : Claims) (now : Int64) : Prop :=
  ∃ n : Int, now.toInt ≤ n ∧
    (claims.payload.get? "exp" = some (.integer n) ∨
      ∃ text : String, claims.payload.get? "exp" = some (.string text) ∧
        Decimal.Spells text.toList n ∧ n ≤ Int64.maxValue.toInt)

/-- Of an integer that is not below those of 64 bits, the nearest one is as good as itself. -/
theorem le_nearest_iff {now : Int64} {n : Int} (least : -9223372036854775808 ≤ n) :
    now.toInt ≤ nearest n ↔ now.toInt ≤ n := by
  have bottom : Int64.minValue.toInt = -9223372036854775808 := rfl
  have within : now.toInt ≤ Int64.maxValue.toInt := Int64.toInt_le now
  rw [nearest]
  omega

/-- **The time of expiry** of an exact payload. -/
theorem lastsUntil_iff {depth : Nat} {header : Value} {members : List (String × Value)}
    {now : Int64} (exact : (Value.object members).IsExact (depth + 1)) :
    (⟨header, .object members⟩ : Claims).LastsUntil now ↔
      (⟨header, .object members⟩ : Claims).ExpiresNotBefore now := by
  have least : Int64.minValue.toInt ≤ now.toInt := Int64.minValue_le_toInt now
  constructor
  · rintro ⟨value, time, found, states, lasts⟩
    cases states with
    | integer n =>
      cases exact.of_get? found with
      | integer bounded => exact ⟨n, (le_nearest_iff bounded).1 lasts, .inl found⟩
    | double bits => cases exact.of_get? found
    | text spelled _ most => exact ⟨time, lasts, .inr ⟨_, found, spelled, most⟩⟩
  · rintro ⟨n, lasts, found | ⟨text, found, spelled, most⟩⟩
    · cases exact.of_get? found with
      | integer bounded =>
        exact ⟨_, _, found, .integer n, (le_nearest_iff bounded).2 lasts⟩
    · exact ⟨_, n, found, .text spelled (least.trans lasts) most, lasts⟩

end Claims

/-! ### The verdict -/

namespace Stage

variable {stage : Stage}

theorem run_cons_of_holds (h : stage.holds) (rest : List Stage) :
    run (stage :: rest) = run rest := by
  rw [run, stage.decides.ok h]
  rfl

theorem run_cons_of_fails {property : Check → Prop} (h : ¬stage.holds)
    (of_check : property stage.check) (rest : List Stage) :
    ∃ check detail, run (stage :: rest) = .error ⟨check, detail⟩ ∧ property check := by
  obtain ⟨detail, error⟩ := run_eq_error (fun _ mem => absurd mem List.not_mem_nil) h rest
  exact ⟨stage.check, detail, error, of_check⟩

end Stage

/-- Whether a check is the first that claims fail. -/
inductive Claims.Fails (claims : Claims) (audience device : String) (now : Int64) : Check → Prop
  | audience (other : ¬claims.NamesAudience audience) : claims.Fails audience device now
      .invalidAudience
  | device (meant : claims.NamesAudience audience) (other : ¬claims.NamesDevice device) :
      claims.Fails audience device now .invalidAuthorizedParty
  | expiry (meant : claims.NamesAudience audience) (given : claims.NamesDevice device)
      (past : ¬claims.ExpiresNotBefore now) : claims.Fails audience device now .expired

/-- Whether claims name the audience and the device and have not expired. -/
structure Claims.Hold (claims : Claims) (audience device : String) (now : Int64) : Prop where
  /-- The audience is named. -/
  meant : claims.NamesAudience audience
  /-- The device is named. -/
  given : claims.NamesDevice device
  /-- The time of expiry is not past. -/
  lasts : claims.ExpiresNotBefore now

namespace Claims

variable {claims : Claims} {audience device : String} {now : Int64}

theorem Fails.not_hold {check : Check} (fails : claims.Fails audience device now check) :
    ¬claims.Hold audience device now := by
  intro holds
  cases fails with
  | audience other => exact other holds.meant
  | device _ other => exact other holds.given
  | expiry _ _ past => exact past holds.lasts

/-- Claims fail one check first. -/
theorem Fails.unique {check check' : Check} (fails : claims.Fails audience device now check)
    (fails' : claims.Fails audience device now check') : check = check' := by
  cases fails with
  | audience other =>
    cases fails' with
    | audience => rfl
    | device meant => exact absurd meant other
    | expiry meant => exact absurd meant other
  | device meant other =>
    cases fails' with
    | audience not => exact absurd meant not
    | device => rfl
    | expiry _ given => exact absurd given other
  | expiry meant given past =>
    cases fails' with
    | audience not => exact absurd meant not
    | device _ not => exact absurd given not
    | expiry => rfl

/-- The stages of the claims report the first check that fails. -/
theorem run_stages (lasts_iff : claims.LastsUntil now ↔ claims.ExpiresNotBefore now) :
    (Stage.run (claims.stages audience device now) = .ok () ∧ claims.Hold audience device now) ∨
      ∃ check detail, Stage.run (claims.stages audience device now) = .error ⟨check, detail⟩ ∧
        claims.Fails audience device now check := by
  rw [stages]
  by_cases meant : claims.NamesAudience audience
  case neg => exact .inr (Stage.run_cons_of_fails meant (.audience meant) _)
  rw [Stage.run_cons_of_holds meant]
  by_cases given : claims.NamesDevice device
  case neg => exact .inr (Stage.run_cons_of_fails given (.device meant given) _)
  rw [Stage.run_cons_of_holds given]
  by_cases lasts : claims.LastsUntil now
  case neg =>
    have past : ¬claims.ExpiresNotBefore now := fun expires => lasts (lasts_iff.2 expires)
    exact .inr (Stage.run_cons_of_fails lasts (.expiry meant given past) _)
  rw [Stage.run_cons_of_holds lasts]
  exact .inl ⟨rfl, meant, given, lasts_iff.1 lasts⟩

end Claims

/-- **Tokens that are signed here**: the verdict. Let the payload be an object without doubles that
nests at most 127 levels deep. Whatever the secret, the token is accepted if and only if its claims
name the audience and the device and have not expired; then header and payload are those it was
signed for. Otherwise it is rejected with the first of these checks that fails, and never as
malformed or for its signature. -/
theorem validate_signed {members : List (String × Value)}
    (exact : (Value.object members).IsExact 127) (secret : Bytes) (audience device : String)
    (now : Int64) :
    let claims : Claims := ⟨header, .object members⟩
    claims.algorithm? = some "HS256" ∧
      (∀ found, validate (sign (.object members) secret) audience device secret now = .ok found ↔
        found = claims ∧ claims.Hold audience device now) ∧
      ∀ check, (∃ detail, validate (sign (.object members) secret) audience device secret now =
        .error ⟨check, detail⟩) ↔ claims.Fails audience device now check := by
  intro claims
  have verdict : validate (sign (.object members) secret) audience device secret now = (do
      Stage.run (claims.stages audience device now)
      return claims) := validate_sign_eq (Json.parse?_encode exact)
  rw [verdict]
  refine ⟨rfl, ?_⟩
  rcases Claims.run_stages (Claims.lastsUntil_iff exact) with
    ⟨run, holds⟩ | ⟨check, detail, run, fails⟩
  · rw [run]
    refine ⟨fun found => ?_, fun check => ?_⟩
    · constructor
      · intro accepted
        exact ⟨(Except.ok.inj accepted).symm, holds⟩
      · rintro ⟨rfl, -⟩
        rfl
    · constructor
      · rintro ⟨detail, rejected⟩
        cases rejected
      · intro fails
        exact absurd holds fails.not_hold
  · rw [run]
    refine ⟨fun found => ?_, fun check' => ?_⟩
    · constructor
      · intro accepted
        cases accepted
      · rintro ⟨-, holds⟩
        exact absurd holds fails.not_hold
    · constructor
      · rintro ⟨detail', rejected⟩
        obtain ⟨rfl, -⟩ := Error.mk.inj (Except.error.inj rejected)
        exact fails
      · intro fails'
        obtain rfl := fails.unique fails'
        exact ⟨detail, rfl⟩

/-- A payload with a list of audiences, a time as text, and much that nobody asks for. -/
def motley : List (String × Value) :=
  [("aud", .array [.null, .string "client"]), ("azp", .string "device"),
    ("exp", .string "1700000000"),
    ("limits", .object [("", .array [.integer (-9223372036854775808),
      .integer 18446744073709551615]), ("\n\"", .object [])])]

theorem isExact_motley : (Value.object motley).IsExact 127 := by
  have limits : (Value.array [.integer (-9223372036854775808),
      .integer 18446744073709551615]).IsExact 125 := by
    refine .array ?_
    simp only [List.forall_mem_cons]
    exact ⟨.integer (by decide) (by decide), .integer (by decide) (by decide), nofun⟩
  refine .object (by decide) ?_
  simp only [motley, List.forall_mem_cons]
  refine ⟨.array ?_, .string _, .string _, .object (by decide) ?_, nofun⟩
  · simp only [List.forall_mem_cons]
    exact ⟨.null, .string _, nofun⟩
  · simp only [List.forall_mem_cons]
    exact ⟨limits, .object .nil nofun, nofun⟩

/-- Two verdicts on one token, signed with no octets for a secret. -/
theorem validate_signed_motley :
    (Value.object motley).IsExact 127 ∧
      validate (sign (.object motley) []) "client" "device" [] 1700000000 =
        .ok ⟨header, .object motley⟩ ∧
      ∃ detail, validate (sign (.object motley) []) "other" "device" [] 1700000000 =
        .error ⟨.invalidAudience, detail⟩ := by
  have spelled : Decimal.Spells "1700000000".toList 1700000000 :=
    Decimal.signed?_eq_some_iff.1 rfl
  obtain ⟨-, accepted, -⟩ := validate_signed isExact_motley [] "client" "device" 1700000000
  obtain ⟨-, -, rejected⟩ := validate_signed isExact_motley [] "other" "device" 1700000000
  refine ⟨isExact_motley, (accepted _).2 ⟨rfl, ?_, rfl, ?_⟩, (rejected _).2 (.audience ?_)⟩
  · exact .inr ⟨_, rfl, by simp⟩
  · exact ⟨1700000000, le_rfl, .inr ⟨_, rfl, spelled, by decide⟩⟩
  · rintro (named | ⟨items, named, mem⟩)
    · cases named
    · cases named
      simp at mem

/-- A text that spells the integer after the largest of 64 bits with sign states no time, although
that integer is not before the given one. -/
theorem validate_signed_beyond :
    let members : List (String × Value) := [("aud", .string "client"), ("azp", .string "device"),
      ("exp", .string "9223372036854775808")]
    (Value.object members).IsExact 127 ∧
      (⟨header, .object members⟩ : Claims).NamesAudience "client" ∧
      (⟨header, .object members⟩ : Claims).NamesDevice "device" ∧
      Decimal.Spells "9223372036854775808".toList 9223372036854775808 ∧
      (0 : Int64).toInt ≤ 9223372036854775808 ∧
      validate (sign (.object members) []) "client" "device" [] 0 =
        .error ⟨.expired, "missing exp claim"⟩ := by
  intro members
  have exact : (Value.object members).IsExact 127 := by
    refine .object (by decide) ?_
    simp only [members, List.forall_mem_cons]
    exact ⟨.string _, .string _, .string _, nofun⟩
  refine ⟨exact, .inl rfl, rfl, Decimal.signed?_eq_some_iff.1 rfl, by decide, ?_⟩
  rw [validate_sign_eq (Json.parse?_encode exact)]
  rfl

end Jwt

end GatewaySession
