import GatewaySession.Sealing.Envelope

/-!
# Opening what was sealed

Adding the same key stream twice changes nothing, because the stream is as long as the text. So
ciphertext and tag decrypt to the plaintext they were made of, and a blob opens under the key and
the name that sealed it.

There is no slack in a blob. The code and the tag are functions of what stands between them, the
lengths of the three fields are fixed, and the key stream can be taken off again; so a blob that
opens is the one that sealing makes of its plaintext and its nonce.

## Main definitions

* `Envelope.nonceIn`, `Envelope.core` — the nonce in a blob, and what stands between code and tag

## Main results

* `Gcm.applyKeyStream_applyKeyStream` — decryption inverts encryption
* `Envelope.checkLength_wrap`, `Envelope.unwrapWith_wrap` — a sealed blob is long enough, and opens
* `Envelope.wrap_of_unwrap`, `Envelope.eq_of_core_eq` — a blob that opens was sealed
* `Envelope.wrap_unwrap_inverse` — sealing and opening are inverse in both directions
-/

namespace GatewaySession

/-! ### The key stream -/

namespace Gcm

theorem length_keyStream (columns : Array Aes256.Column) (nonce : Nonce) (blocks : Nat) :
    (keyStream columns nonce blocks).length = 16 * blocks := by
  rw [keyStream, List.length_flatMap]
  simp only [Vector.length_toList, List.map_const', List.sum_replicate_nat, List.length_range]
  exact Nat.mul_comm blocks 16

/-- The key stream reaches to the end of the text. -/
theorem length_le_keyStream (columns : Array Aes256.Column) (nonce : Nonce) (text : Bytes) :
    text.length ≤ (keyStream columns nonce (blockCount text)).length := by
  rw [length_keyStream, blockCount]
  omega

/-- Adding octets twice changes nothing. -/
theorem zipWith_xor_xor (text stream : Bytes) (h : text.length ≤ stream.length) :
    List.zipWith (· ^^^ ·) (List.zipWith (· ^^^ ·) text stream) stream = text := by
  induction text generalizing stream with
  | nil => rfl
  | cons octet text ih =>
    cases stream with
    | nil => exact absurd h (by simp)
    | cons mask stream =>
      have rest := ih stream (Nat.le_of_succ_le_succ h)
      rw [List.zipWith_cons_cons, List.zipWith_cons_cons, rest, UInt8.xor_assoc, UInt8.xor_self,
        UInt8.xor_zero]

@[simp] theorem length_applyKeyStream (key : Aes256.Key) (nonce : Nonce) (text : Bytes) :
    (applyKeyStream key nonce text).length = text.length := by
  rw [applyKeyStream, List.length_zipWith]
  exact Nat.min_eq_left (length_le_keyStream _ _ _)

/-- **Decryption inverts encryption.** -/
@[simp] theorem applyKeyStream_applyKeyStream (key : Aes256.Key) (nonce : Nonce) (text : Bytes) :
    applyKeyStream key nonce (applyKeyStream key nonce text) = text := by
  have count : blockCount (applyKeyStream key nonce text) = blockCount text := by
    rw [blockCount, blockCount, length_applyKeyStream]
  rw [applyKeyStream, count]
  exact zipWith_xor_xor text _ (length_le_keyStream _ _ _)

end Gcm

/-! ### Blobs -/

namespace Envelope

section

variable (key : Aes256.Key) (name : String) (nonce : Gcm.Nonce) (plaintext : Bytes)

theorem length_encrypt : (encrypt key nonce plaintext).length = plaintext.length + tagLength := by
  simp [encrypt, tagLength]

theorem nonceOf_toList : nonceOf nonce.toList = nonce := by
  refine Vector.ext fun i h => ?_
  simp [nonceOf]

/-- The tag of a ciphertext is right. -/
theorem decrypt?_encrypt : decrypt? key nonce (encrypt key nonce plaintext) = some plaintext := by
  have cut : (encrypt key nonce plaintext).length - tagLength =
      (Gcm.applyKeyStream key nonce plaintext).length := by
    rw [length_encrypt, Nat.add_sub_cancel, Gcm.length_applyKeyStream]
  rw [decrypt?, cut, encrypt]
  simp only [List.take_left, List.drop_left, if_true, Gcm.applyKeyStream_applyKeyStream]

theorem length_wrap : (wrap key name nonce plaintext).length = plaintext.length + overhead := by
  simp only [wrap, List.length_append, Vector.length_toList, length_encrypt, overhead, codeLength,
    nonceLength, tagLength]
  omega

/-- A sealed blob is long enough to be opened. -/
@[simp] theorem checkLength_wrap : checkLength (wrap key name nonce plaintext) = .ok () := by
  rw [checkLength, length_wrap, if_neg (by omega)]

/-- **A sealed blob opens** under the key and the name that sealed it. -/
@[simp] theorem unwrapWith_wrap :
    unwrapWith key name (wrap key name nonce plaintext) = .ok plaintext := by
  have code32 (digest : Sha256.Digest) (rest : Bytes) :
      (digest.toList ++ rest).take codeLength = digest.toList ∧
        (digest.toList ++ rest).drop codeLength = rest :=
    ⟨List.take_left' (Vector.length_toList ..), List.drop_left' (Vector.length_toList ..)⟩
  have nonce12 (rest : Bytes) :
      (nonce.toList ++ rest).take nonceLength = nonce.toList ∧
        (nonce.toList ++ rest).drop nonceLength = rest :=
    ⟨List.take_left' (Vector.length_toList ..), List.drop_left' (Vector.length_toList ..)⟩
  rw [unwrapWith, wrap, List.append_assoc]
  simp only [← List.drop_drop, (code32 _ _).1, (code32 _ _).2, (nonce12 _).1, (nonce12 _).2,
    if_true, nonceOf_toList, decrypt?_encrypt]

end

/-! ### What opens was sealed -/

/-- The nonce in a blob. -/
def nonceIn (blob : Bytes) : Gcm.Nonce := nonceOf ((blob.drop codeLength).take nonceLength)

/-- What a blob holds between the detached code and the tag: nonce and encrypted text. -/
def core (blob : Bytes) : Bytes := (blob.take (blob.length - tagLength)).drop codeLength

variable {key : Aes256.Key} {name : String} {nonce : Gcm.Nonce} {blob plaintext : Bytes}

/-- Twelve octets are the octets of their nonce. -/
theorem toList_nonceOf {octets : Bytes} (h : octets.length = nonceLength) :
    (nonceOf octets).toList = octets := by
  refine List.ext_getElem (by simp [h, nonceLength]) fun i h₁ h₂ => ?_
  simp [nonceOf, List.getElem?_eq_getElem h₂]

theorem toList_nonceIn (long : overhead ≤ blob.length) :
    (nonceIn blob).toList = (blob.drop codeLength).take nonceLength := by
  refine toList_nonceOf ?_
  simp only [overhead, codeLength, nonceLength, tagLength] at long ⊢
  simp only [List.length_take, List.length_drop]
  omega

/-- **A ciphertext that decrypts** is the encryption of its plaintext. -/
theorem encrypt_of_decrypt? {ciphertext : Bytes}
    (h : decrypt? key nonce ciphertext = some plaintext) :
    encrypt key nonce plaintext = ciphertext := by
  simp only [decrypt?] at h
  split at h
  · next tagged =>
    obtain rfl := Option.some.inj h
    simp only [encrypt, Gcm.applyKeyStream_applyKeyStream, tagged]
    exact List.take_append_drop _ _
  · cases h

theorem checkLength_eq_ok_iff : checkLength blob = .ok () ↔ overhead ≤ blob.length := by
  rw [checkLength]
  split
  · next short => exact iff_of_false nofun (Nat.not_le.2 short)
  · next long => exact iff_of_true rfl (Nat.le_of_not_lt long)

theorem unwrap_of_long (long : checkLength blob = .ok ()) :
    unwrap key name blob = unwrapWith key name blob := by
  simp only [unwrap, long, bind, Except.bind]

theorem unwrap_of_short {error : Error} (short : checkLength blob = .error error) :
    unwrap key name blob = .error error := by
  simp only [unwrap, short, bind, Except.bind]

theorem unwrapWith_eq (key : Aes256.Key) (name : String) (blob : Bytes) :
    unwrapWith key name blob =
      if (code key name (blob.drop (codeLength + nonceLength))).toList = blob.take codeLength then
        match decrypt? key (nonceIn blob) (blob.drop (codeLength + nonceLength)) with
        | some plaintext => .ok plaintext
        | none => .error (.integrity "authentication tag mismatch")
      else .error (.integrity "MAC mismatch") := rfl

/-- What a blob was checked for if it opens. -/
theorem checked_of_unwrap (h : unwrap key name blob = .ok plaintext) :
    overhead ≤ blob.length ∧
      (code key name (blob.drop (codeLength + nonceLength))).toList = blob.take codeLength ∧
      decrypt? key (nonceIn blob) (blob.drop (codeLength + nonceLength)) = some plaintext := by
  cases long : checkLength blob with
  | error error =>
    rw [unwrap, long] at h
    cases h
  | ok _ =>
    rw [unwrap_of_long long, unwrapWith_eq] at h
    split at h
    · next coded =>
      split at h
      · next decrypted =>
        obtain rfl := Except.ok.inj h
        exact ⟨checkLength_eq_ok_iff.1 long, coded, decrypted⟩
      · cases h
    · cases h

/-- **A blob that opens** is the plaintext sealed with the nonce in the blob. -/
theorem wrap_of_unwrap (h : unwrap key name blob = .ok plaintext) :
    wrap key name (nonceIn blob) plaintext = blob := by
  obtain ⟨long, coded, decrypted⟩ := checked_of_unwrap h
  simp only [wrap, encrypt_of_decrypt? decrypted, coded, toList_nonceIn long]
  rw [← List.drop_drop, List.append_assoc, List.take_append_drop, List.take_append_drop]

@[simp] theorem unwrap_wrap (key : Aes256.Key) (name : String) (nonce : Gcm.Nonce)
    (plaintext : Bytes) : unwrap key name (wrap key name nonce plaintext) = .ok plaintext :=
  (unwrap_of_long (checkLength_wrap key name nonce plaintext)).trans
    (unwrapWith_wrap key name nonce plaintext)

/-- What does not open is an integrity error. -/
theorem integrity_of_checkLength {error : Error} (short : checkLength blob = .error error) :
    ∃ detail, error = .integrity detail := by
  rw [checkLength] at short
  split at short
  · cases short
    exact ⟨_, rfl⟩
  · cases short

theorem integrity_of_unwrapWith {error : Error}
    (altered : unwrapWith key name blob = .error error) : ∃ detail, error = .integrity detail := by
  rw [unwrapWith] at altered
  repeat' split at altered
  all_goals cases altered
  all_goals exact ⟨_, rfl⟩

theorem integrity_of_unwrap {error : Error} (refused : unwrap key name blob = .error error) :
    ∃ detail, error = .integrity detail := by
  cases long : checkLength blob with
  | error other =>
    simp only [unwrap, long, bind, Except.bind] at refused
    obtain rfl := Except.error.inj refused
    exact integrity_of_checkLength long
  | ok _ =>
    rw [unwrap_of_long long] at refused
    exact integrity_of_unwrapWith refused

/-! ### What a blob can be altered in -/

theorem nonceIn_eq (long : overhead ≤ blob.length) :
    nonceIn blob = nonceOf ((core blob).take nonceLength) := by
  rw [nonceIn, core, List.drop_take, List.take_take, Nat.min_eq_left]
  simp only [overhead, codeLength, nonceLength, tagLength] at long ⊢
  omega

/-- The plaintext of a blob that opens depends on its core alone. -/
theorem plaintext_eq_of_unwrap (h : unwrap key name blob = .ok plaintext) :
    plaintext = Gcm.applyKeyStream key (nonceIn blob) ((core blob).drop nonceLength) := by
  obtain ⟨long, -, decrypted⟩ := checked_of_unwrap h
  have text : (blob.drop (codeLength + nonceLength)).take
      ((blob.drop (codeLength + nonceLength)).length - tagLength) =
        (core blob).drop nonceLength := by
    rw [core, List.drop_drop, List.drop_take, List.length_drop, Nat.sub_right_comm]
  simp only [decrypt?] at decrypted
  split at decrypted
  · rw [← text]
    exact (Option.some.inj decrypted).symm
  · cases decrypted

/-- **A blob that opens** is the only one with its core that does: code and tag are determined. -/
theorem eq_of_core_eq {other plaintext' : Bytes} (h : unwrap key name blob = .ok plaintext)
    (h' : unwrap key name other = .ok plaintext') (same : core other = core blob) :
    other = blob := by
  have nonce : nonceIn other = nonceIn blob := by
    rw [nonceIn_eq (checked_of_unwrap h').1, nonceIn_eq (checked_of_unwrap h).1, same]
  have text : plaintext' = plaintext := by
    rw [plaintext_eq_of_unwrap h, plaintext_eq_of_unwrap h', nonce, same]
  rw [← wrap_of_unwrap h, ← wrap_of_unwrap h', text, nonce]

/-! ### Sealing and opening are inverse -/

/-- **Sealing and opening are inverse.** A sealed plaintext is longer by the overhead, and opens to
the plaintext under the key and the name that sealed it. Conversely, a blob of any length that opens
is the plaintext sealed with the nonce that stands in it after the code. So no second blob with that
nonce opens to the same plaintext, and a blob that is altered in its code or its tag, and nowhere
else, is refused. -/
theorem wrap_unwrap_inverse (key : Aes256.Key) (name : String) :
    (∀ nonce plaintext, (wrap key name nonce plaintext).length = 60 + plaintext.length ∧
      unwrap key name (wrap key name nonce plaintext) = .ok plaintext) ∧
    (∀ blob plaintext, unwrap key name blob = .ok plaintext →
      (nonceIn blob).toList = (blob.drop 32).take 12 ∧
        wrap key name (nonceIn blob) plaintext = blob) ∧
    (∀ blob other plaintext, unwrap key name blob = .ok plaintext →
      unwrap key name other = .ok plaintext →
      (other.drop 32).take 12 = (blob.drop 32).take 12 → other = blob) ∧
    (∀ blob plaintext altered, unwrap key name blob = .ok plaintext →
      (altered.take (altered.length - 16)).drop 32 = (blob.take (blob.length - 16)).drop 32 →
      altered ≠ blob → ∃ detail, unwrap key name altered = .error (.integrity detail)) := by
  refine ⟨?sealed, ?opened, ?single, ?altered⟩
  case sealed =>
    intro nonce plaintext
    refine ⟨?_, unwrap_wrap key name nonce plaintext⟩
    rw [length_wrap, Nat.add_comm]
    rfl
  case opened =>
    intro blob plaintext h
    exact ⟨toList_nonceIn (checked_of_unwrap h).1, wrap_of_unwrap h⟩
  case single =>
    intro blob other plaintext h h' same
    have nonce : nonceIn other = nonceIn blob := congrArg nonceOf same
    rw [← wrap_of_unwrap h, ← wrap_of_unwrap h', nonce]
  case altered =>
    intro blob plaintext altered h same differs
    cases refused : unwrap key name altered with
    | ok plaintext' => exact absurd (eq_of_core_eq h refused same) differs
    | error error =>
      obtain ⟨detail, rfl⟩ := integrity_of_unwrap refused
      exact ⟨detail, rfl⟩

/-- A blob with its first bit flipped: it has another code, and is refused. -/
theorem wrap_unwrap_inverse_flipped :
    let key : Aes256.Key := Vector.replicate 32 1
    let blob := wrap key "t" (Vector.replicate 12 2) [3]
    let flipped := blob.modifyHead (· ^^^ 0x80)
    (unwrap key "t" blob = .ok [3] ∧ wrap key "t" (nonceIn blob) [3] = blob) ∧
      flipped ≠ blob ∧ ∃ detail, unwrap key "t" flipped = .error (.integrity detail) := by
  intro key blob flipped
  have opened : unwrap key "t" blob = .ok [3] := unwrap_wrap key "t" _ [3]
  have same : (flipped.take (flipped.length - 16)).drop 32 =
      (blob.take (blob.length - 16)).drop 32 := by
    simp only [flipped, List.length_modifyHead, List.drop_take]
    rw [List.drop_modifyHead_of_pos (by decide)]
  have differs : flipped ≠ blob := by
    have long : 0 < blob.length := by
      rw [length_wrap]
      decide
    obtain ⟨octet, rest, shape⟩ := List.exists_cons_of_length_pos long
    simp only [flipped, shape, List.modifyHead_cons]
    intro same
    have bit : octet ^^^ 0x80 = octet ^^^ 0 := by
      rw [UInt8.xor_zero]
      exact (List.cons.inj same).1
    exact absurd ((UInt8.xor_right_inj octet).1 bit) (by decide)
  obtain ⟨-, inverse, -, refused⟩ := wrap_unwrap_inverse key "t"
  exact ⟨⟨opened, (inverse blob [3] opened).2⟩, differs,
    refused blob [3] flipped opened same differs⟩

end Envelope

end GatewaySession
