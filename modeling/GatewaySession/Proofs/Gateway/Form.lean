import GatewaySession.Gateway.Form
import GatewaySession.Proofs.Text.Utf8

/-!
# Form bodies are read as they were written

The two octets that structure a body, the ampersand between pairs and the equals sign within a pair,
are never written for anything else. So cutting a body at its ampersands gives the pairs, cutting a
pair at its first equals sign gives name and value, and each of these is octets that were escaped
one by one. All octets that are written are below `0x80`, so a body is a text.

## Main results

* `Form.decodeOctets_encodeOctet` — one octet
* `Form.decodeText_encodeText`, `Form.decodePair_encodePair` — a text, and a pair
* `Form.decode_encode` — a body
* `Form.exists_encode_eq` — a body is a text
-/

namespace GatewaySession

namespace Form

/-! ### Octets -/

theorem digitValue?_digit : ∀ n < 16, digitValue? (digit n) = some n := by decide

/-- A digit neither structures a body nor begins an escape. -/
theorem digit_ne : ∀ n < 16, digit n ≠ 0x26 ∧ digit n ≠ 0x3D := by decide

/-- The octets that stand for themselves are none of those with a meaning. -/
theorem ne_of_isPlain {b : UInt8} (plain : isPlain b = true) :
    b ≠ 0x25 ∧ b ≠ 0x26 ∧ b ≠ 0x2B ∧ b ≠ 0x3D := by
  refine ⟨?_, ?_, ?_, ?_⟩
  all_goals
    rintro rfl
    exact absurd plain (by decide)

/-- The halves of an octet give the octet. -/
theorem ofNat_halves (b : UInt8) : UInt8.ofNat (b.toNat / 16 * 16 + b.toNat % 16) = b := by
  rw [Nat.div_add_mod', UInt8.ofNat_toNat]

/-- An octet that begins no escape. -/
theorem decodeOctets_cons {b : UInt8} (noEscape : b ≠ 0x25) (rest : Bytes) :
    decodeOctets (b :: rest) = (if b == 0x2B then 0x20 else b) :: decodeOctets rest := by
  rw [decodeOctets]
  rintro high low more same
  exact absurd same noEscape

/-- **An octet** is read as it was written. -/
theorem decodeOctets_encodeOctet (b : UInt8) (rest : Bytes) :
    decodeOctets (encodeOctet b ++ rest) = b :: decodeOctets rest := by
  rw [encodeOctet]
  split
  · next space =>
    rw [List.singleton_append, decodeOctets_cons (by decide), beq_iff_eq.1 space]
    rfl
  split
  · next plain =>
    obtain ⟨noEscape, -, noPlus, -⟩ := ne_of_isPlain plain
    rw [List.singleton_append, decodeOctets_cons noEscape, if_neg (by simpa using noPlus)]
  · have size : b.toNat < 256 := b.toNat_lt
    have high := digitValue?_digit (b.toNat / 16) (by omega)
    have low := digitValue?_digit (b.toNat % 16) (by omega)
    simp only [List.cons_append, List.nil_append, decodeOctets, high, low, ofNat_halves]

/-- No octet is written with one that structures a body. -/
theorem notMem_encodeOctet (b : UInt8) : 0x26 ∉ encodeOctet b ∧ 0x3D ∉ encodeOctet b := by
  rw [encodeOctet]
  split
  · decide
  split
  · next plain =>
    obtain ⟨-, noAmpersand, -, noEquals⟩ := ne_of_isPlain plain
    simp only [List.mem_singleton]
    exact ⟨noAmpersand.symm, noEquals.symm⟩
  · have size : b.toNat < 256 := b.toNat_lt
    have high := digit_ne (b.toNat / 16) (by omega)
    have low := digit_ne (b.toNat % 16) (by omega)
    simp only [List.mem_cons, List.not_mem_nil, or_false, not_or]
    exact ⟨⟨by decide, high.1.symm, low.1.symm⟩, by decide, high.2.symm, low.2.symm⟩

/-! ### Texts and pairs -/

theorem decodeOctets_flatMap (octets : Bytes) :
    decodeOctets (octets.flatMap encodeOctet) = octets := by
  induction octets with
  | nil => rfl
  | cons b octets ih => rw [List.flatMap_cons, decodeOctets_encodeOctet, ih]

/-- **A name or value** is read as it was written. -/
theorem decodeText_encodeText (text : String) : decodeText (encodeText text) = text := by
  rw [decodeText, encodeText, decodeOctets_flatMap, Utf8.decodeLossy_encode]

theorem notMem_encodeText (text : String) : 0x26 ∉ encodeText text ∧ 0x3D ∉ encodeText text := by
  simp only [encodeText, List.mem_flatMap, not_exists, not_and]
  exact ⟨fun b _ => (notMem_encodeOctet b).1, fun b _ => (notMem_encodeOctet b).2⟩

/-- **A pair** is read as it was written. -/
theorem decodePair_encodePair (pair : String × String) : decodePair (encodePair pair) = pair := by
  have before : ∀ b ∈ encodeText pair.1, (b != 0x3D) = true := fun b mem =>
    bne_iff_ne.2 fun same => (notMem_encodeText pair.1).2 (same ▸ mem)
  have name : (encodePair pair).takeWhile (· != 0x3D) = encodeText pair.1 := by
    rw [encodePair, List.takeWhile_append_of_pos before]
    simp
  have value : ((encodePair pair).dropWhile (· != 0x3D)).drop 1 = encodeText pair.2 := by
    rw [encodePair, List.dropWhile_append_of_pos before]
    simp
  rw [decodePair, name, value, decodeText_encodeText, decodeText_encodeText]

theorem notMem_encodePair (pair : String × String) : 0x26 ∉ encodePair pair := by
  rw [encodePair, List.mem_append, List.mem_cons]
  rintro (name | equals | value)
  · exact (notMem_encodeText pair.1).1 name
  · exact absurd equals (by decide)
  · exact (notMem_encodeText pair.2).1 value

theorem encodePair_ne_nil (pair : String × String) : encodePair pair ≠ [] := by
  rw [encodePair]
  exact List.append_ne_nil_of_right_ne_nil _ (List.cons_ne_nil _ _)

/-! ### Bodies -/

/-- **A body** is read as it was written. -/
theorem decode_encode (params : Params) : decode (encode params) = params := by
  cases params with
  | nil => rfl
  | cons first rest =>
    have parts : (encode (first :: rest)).splitOn 0x26 = (first :: rest).map encodePair := by
      refine List.splitOn_intercalate 0x26 ?_ (List.cons_ne_nil _ _)
      simp only [List.mem_map, forall_exists_index, and_imp]
      rintro _ pair - rfl
      exact notMem_encodePair pair
    have filled : ∀ part ∈ (first :: rest).map encodePair, (!part.isEmpty) = true := by
      simp only [List.mem_map, forall_exists_index, and_imp]
      rintro _ pair - rfl
      rw [Bool.not_eq_true', List.isEmpty_eq_false_iff]
      exact encodePair_ne_nil pair
    rw [decode, parts, List.filter_eq_self.2 filled, List.map_map]
    exact (List.map_congr_left fun pair _ => decodePair_encodePair pair).trans (List.map_id _)

/-! ### Bodies as texts -/

theorem toNat_digit_lt : ∀ n < 16, (digit n).toNat < 0x80 := by decide

theorem toNat_lt_of_isPlain {b : UInt8} (plain : isPlain b = true) : b.toNat < 0x80 := by
  simp only [isPlain, Bool.or_eq_true, Bool.and_eq_true, decide_eq_true_eq, beq_iff_eq,
    UInt8.le_iff_toNat_le] at plain
  obtain ((((((⟨-, le⟩ | ⟨-, le⟩) | ⟨-, le⟩) | rfl) | rfl) | rfl) | rfl) := plain
  all_goals first | decide | exact Nat.lt_of_le_of_lt le (by decide)

theorem toNat_lt_of_mem_encodeOctet {b octet : UInt8} (mem : octet ∈ encodeOctet b) :
    octet.toNat < 0x80 := by
  rw [encodeOctet] at mem
  split at mem
  · obtain rfl := List.mem_singleton.1 mem
    decide
  split at mem
  · next plain =>
    obtain rfl := List.mem_singleton.1 mem
    exact toNat_lt_of_isPlain plain
  · have size : b.toNat < 256 := b.toNat_lt
    simp only [List.mem_cons, List.not_mem_nil, or_false] at mem
    obtain rfl | rfl | rfl := mem
    · decide
    · exact toNat_digit_lt _ (by omega)
    · exact toNat_digit_lt _ (by omega)

theorem toNat_lt_of_mem_encodePair {pair : String × String} {octet : UInt8}
    (mem : octet ∈ encodePair pair) : octet.toNat < 0x80 := by
  have within {text : String} (mem : octet ∈ encodeText text) : octet.toNat < 0x80 := by
    obtain ⟨b, -, mem⟩ := List.mem_flatMap.1 mem
    exact toNat_lt_of_mem_encodeOctet mem
  obtain name | value := List.mem_append.1 mem
  · exact within name
  obtain rfl | value := List.mem_cons.1 value
  · decide
  · exact within value

theorem encode_singleton (pair : String × String) : encode [pair] = encodePair pair := by
  simp [encode]

theorem encode_cons_cons (first second : String × String) (rest : Params) :
    encode (first :: second :: rest) = encodePair first ++ 0x26 :: encode (second :: rest) := by
  simp [encode, List.intercalate]

theorem toNat_lt_of_mem_encode {params : Params} {octet : UInt8} (mem : octet ∈ encode params) :
    octet.toNat < 0x80 := by
  induction params with
  | nil => cases mem
  | cons first rest ih =>
    cases rest with
    | nil => exact toNat_lt_of_mem_encodePair (encode_singleton first ▸ mem)
    | cons second rest =>
      rw [encode_cons_cons, List.mem_append, List.mem_cons] at mem
      obtain pair | rfl | rest := mem
      · exact toNat_lt_of_mem_encodePair pair
      · decide
      · exact ih rest

/-- **A body** is a text. -/
theorem exists_encode_eq (params : Params) : ∃ text, Utf8.encode text = encode params :=
  Utf8.exists_encode_eq fun _ mem => toNat_lt_of_mem_encode mem

end Form

end GatewaySession
