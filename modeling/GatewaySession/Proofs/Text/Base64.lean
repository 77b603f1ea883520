import GatewaySession.Text.Base64

/-!
# Reading what was written in base64

A symbol stands for the value it was chosen for, so a group of symbols stands for the octets it was
made of, and the groups of a text are read one after the other. The padding of the last group tells
it from a full one, because no symbol of the alphabet is the padding.

Reading is strict: what is read is what would have been written. A symbol with a value is the symbol
of that value, and the bits of the last symbol that stand for no octet are zero, so that a text that
is read at all is the text of its octets. Without padding this is an equivalence, and an octet
sequence has one text.

## Main definitions

* `Base64.Alphabet.IsFaithful` — alphabets whose symbols differ from each other and from the padding

## Main results

* `Base64.decode?_encode` — a text, with padding
* `Base64.decodeChars?_eq_some_iff` — a text without padding is read as what it was written for
* `Base64.notMem_encodeChars` — nothing but symbols in a text without padding
-/

namespace GatewaySession

namespace Base64

/-! ### Symbols -/

/-- Whether every value has a symbol of its own, which is not the padding. -/
structure Alphabet.IsFaithful (a : Alphabet) : Prop where
  /-- The symbol of a value stands for it. -/
  value?_symbol : ∀ n < 64, a.value? (a.symbol n) = some n
  /-- No symbol is the padding. -/
  symbol_ne_padding : ∀ n < 64, a.symbol n ≠ '='

theorem isFaithful_standard : standard.IsFaithful := by
  constructor <;> decide

theorem isFaithful_urlSafe : urlSafe.IsFaithful := by
  constructor <;> decide

/-- The symbol of a code, counted from the first of its range. -/
theorem ofNat_add_sub {c : Char} {first : Nat} (h : first ≤ c.toNat) :
    Char.ofNat (first + (c.toNat - first)) = c := by
  rw [Nat.add_sub_cancel' h, Char.ofNat_toNat]

/-- **A symbol that has a value** is the symbol of that value. -/
theorem Alphabet.symbol_of_value? {a : Alphabet} {c : Char} {n : Nat} (h : a.value? c = some n) :
    n < 64 ∧ a.symbol n = c := by
  have code {first last : Char} (within : first ≤ c ∧ c ≤ last) :
      first.toNat ≤ c.toNat ∧ c.toNat ≤ last.toNat := within
  rw [value?] at h
  split at h
  · next within =>
    obtain ⟨least, most⟩ := code within
    simp only [Char.reduceToNat] at least most
    obtain rfl := Option.some.inj h
    simp only [Char.reduceToNat, symbol]
    rw [if_pos (by omega)]
    exact ⟨by omega, ofNat_add_sub least⟩
  split at h
  · next within =>
    obtain ⟨least, most⟩ := code within
    simp only [Char.reduceToNat] at least most
    obtain rfl := Option.some.inj h
    simp only [Char.reduceToNat, symbol]
    rw [if_neg (by omega), if_pos (by omega), Nat.add_sub_cancel]
    exact ⟨by omega, ofNat_add_sub least⟩
  split at h
  · next within =>
    obtain ⟨least, most⟩ := code within
    simp only [Char.reduceToNat] at least most
    obtain rfl := Option.some.inj h
    simp only [Char.reduceToNat, symbol]
    rw [if_neg (by omega), if_neg (by omega), if_pos (by omega), Nat.add_sub_cancel]
    exact ⟨by omega, ofNat_add_sub least⟩
  split at h
  · next same =>
    obtain rfl := Option.some.inj h
    exact ⟨by decide, same.symm⟩
  split at h
  · next same =>
    obtain rfl := Option.some.inj h
    exact ⟨by decide, same.symm⟩
  · cases h

/-! ### Groups -/

theorem octet_eq {n : Nat} {x : UInt8} (h : n = x.toNat) : UInt8.ofNat n = x := by
  rw [h, UInt8.ofNat_toNat]

theorem toNat_octet {n : Nat} (h : n < 256) : (UInt8.ofNat n).toNat = n :=
  UInt8.toNat_ofNat_of_lt' h

section Encoded

variable {a : Alphabet} (faithful : a.IsFaithful)

include faithful

theorem decodeOne?_encoded (x : UInt8) :
    decodeOne? a (a.symbol (x.toNat / 4)) (a.symbol (x.toNat % 4 * 16)) = some [x] := by
  have hx := x.toNat_lt
  rw [decodeOne?, faithful.value?_symbol _ (by omega), faithful.value?_symbol _ (by omega)]
  simp only [Option.bind_eq_bind, Option.bind_some]
  rw [if_pos (by omega), octet_eq (x := x) (by omega)]

theorem decodeTwo?_encoded (x y : UInt8) :
    decodeTwo? a (a.symbol (x.toNat / 4)) (a.symbol (x.toNat % 4 * 16 + y.toNat / 16))
      (a.symbol (y.toNat % 16 * 4)) = some [x, y] := by
  have hx := x.toNat_lt
  have hy := y.toNat_lt
  rw [decodeTwo?, faithful.value?_symbol _ (by omega), faithful.value?_symbol _ (by omega),
    faithful.value?_symbol _ (by omega)]
  simp only [Option.bind_eq_bind, Option.bind_some]
  rw [if_pos (by omega), octet_eq (x := x) (by omega), octet_eq (x := y) (by omega)]

theorem decodeThree?_encoded (x y z : UInt8) :
    decodeThree? a (a.symbol (x.toNat / 4)) (a.symbol (x.toNat % 4 * 16 + y.toNat / 16))
      (a.symbol (y.toNat % 16 * 4 + z.toNat / 64)) (a.symbol (z.toNat % 64)) =
      some [x, y, z] := by
  have hx := x.toNat_lt
  have hy := y.toNat_lt
  have hz := z.toNat_lt
  rw [decodeThree?, faithful.value?_symbol _ (by omega), faithful.value?_symbol _ (by omega),
    faithful.value?_symbol _ (by omega), faithful.value?_symbol _ (by omega)]
  simp only [Option.bind_eq_bind, Option.bind_some]
  rw [octet_eq (x := x) (by omega), octet_eq (x := y) (by omega), octet_eq (x := z) (by omega)]

end Encoded

section Decoded

variable {a : Alphabet} {c₀ c₁ c₂ c₃ : Char} {bytes : Bytes}

/-- A last group of two symbols that is read is the group of its octet. -/
theorem encodeChars_of_decodeOne? (h : decodeOne? a c₀ c₁ = some bytes) :
    encodeChars a false bytes = [c₀, c₁] := by
  simp only [decodeOne?, Option.bind_eq_bind, Option.bind_eq_some_iff] at h
  obtain ⟨v₀, first, v₁, second, h⟩ := h
  obtain ⟨lt₀, rfl⟩ := Alphabet.symbol_of_value? first
  obtain ⟨lt₁, rfl⟩ := Alphabet.symbol_of_value? second
  split at h
  · next zero =>
    obtain rfl := Option.some.inj h
    simp only [encodeChars, padding, Bool.false_eq_true, if_false]
    rw [toNat_octet (by omega), show (v₀ * 4 + v₁ / 16) / 4 = v₀ by omega,
      show (v₀ * 4 + v₁ / 16) % 4 * 16 = v₁ by omega]
  · cases h

/-- A last group of three symbols that is read is the group of its octets. -/
theorem encodeChars_of_decodeTwo? (h : decodeTwo? a c₀ c₁ c₂ = some bytes) :
    encodeChars a false bytes = [c₀, c₁, c₂] := by
  simp only [decodeTwo?, Option.bind_eq_bind, Option.bind_eq_some_iff] at h
  obtain ⟨v₀, first, v₁, second, v₂, third, h⟩ := h
  obtain ⟨lt₀, rfl⟩ := Alphabet.symbol_of_value? first
  obtain ⟨lt₁, rfl⟩ := Alphabet.symbol_of_value? second
  obtain ⟨lt₂, rfl⟩ := Alphabet.symbol_of_value? third
  split at h
  · next zero =>
    obtain rfl := Option.some.inj h
    simp only [encodeChars, padding, Bool.false_eq_true, if_false]
    rw [toNat_octet (by omega), toNat_octet (by omega),
      show (v₀ * 4 + v₁ / 16) / 4 = v₀ by omega,
      show (v₀ * 4 + v₁ / 16) % 4 * 16 + (v₁ % 16 * 16 + v₂ / 4) / 16 = v₁ by omega,
      show (v₁ % 16 * 16 + v₂ / 4) % 16 * 4 = v₂ by omega]
  · cases h

/-- A full group that is read is the group of its octets, whatever follows. -/
theorem encodeChars_of_decodeThree? (h : decodeThree? a c₀ c₁ c₂ c₃ = some bytes) (rest : Bytes) :
    encodeChars a false (bytes ++ rest) = c₀ :: c₁ :: c₂ :: c₃ :: encodeChars a false rest := by
  simp only [decodeThree?, Option.bind_eq_bind, Option.bind_eq_some_iff] at h
  obtain ⟨v₀, first, v₁, second, v₂, third, v₃, fourth, h⟩ := h
  obtain ⟨lt₀, rfl⟩ := Alphabet.symbol_of_value? first
  obtain ⟨lt₁, rfl⟩ := Alphabet.symbol_of_value? second
  obtain ⟨lt₂, rfl⟩ := Alphabet.symbol_of_value? third
  obtain ⟨lt₃, rfl⟩ := Alphabet.symbol_of_value? fourth
  obtain rfl := Option.some.inj h
  simp only [List.cons_append, List.nil_append, encodeChars]
  rw [toNat_octet (by omega), toNat_octet (by omega), toNat_octet (by omega),
    show (v₀ * 4 + v₁ / 16) / 4 = v₀ by omega,
    show (v₀ * 4 + v₁ / 16) % 4 * 16 + (v₁ % 16 * 16 + v₂ / 4) / 16 = v₁ by omega,
    show (v₁ % 16 * 16 + v₂ / 4) % 16 * 4 + (v₂ % 4 * 64 + v₃) / 64 = v₂ by omega,
    show (v₂ % 4 * 64 + v₃) % 64 = v₃ by omega]

end Decoded

/-! ### Texts with padding -/

/-- **Characters** are read as they were written. -/
theorem decodeChars?_encodeChars (bytes : Bytes) :
    decodeChars? standard true (encodeChars standard true bytes) = some bytes := by
  induction bytes using encodeChars.induct with
  | case1 => rfl
  | case2 x =>
    simp only [encodeChars, padding, if_true, List.replicate, decodeChars?, and_self]
    exact decodeOne?_encoded isFaithful_standard x
  | case3 x y =>
    have notPadding := isFaithful_standard.symbol_ne_padding (y.toNat % 16 * 4) (by omega)
    simp only [encodeChars, padding, if_true, List.replicate, decodeChars?, and_self]
    rw [if_neg notPadding]
    exact decodeTwo?_encoded isFaithful_standard x y
  | case4 x y z rest ih =>
    have notPadding := isFaithful_standard.symbol_ne_padding (z.toNat % 64) (by omega)
    rw [encodeChars, decodeChars?, if_neg fun h => notPadding h.2.2,
      decodeThree?_encoded isFaithful_standard, ih]
    rfl

/-- **Octets** are read as they were written. -/
@[simp] theorem decode?_encode (bytes : Bytes) :
    decode? standard true (encode standard true bytes) = some bytes := by
  rw [decode?, encode, String.toList_ofList, decodeChars?_encodeChars]

/-! ### Texts without padding -/

section Unpadded

variable {a : Alphabet}

theorem decodeChars?_encodeChars_unpadded (faithful : a.IsFaithful) (bytes : Bytes) :
    decodeChars? a false (encodeChars a false bytes) = some bytes := by
  induction bytes using encodeChars.induct with
  | case1 => rfl
  | case2 x =>
    simp only [encodeChars, padding, Bool.false_eq_true, if_false, decodeChars?]
    exact decodeOne?_encoded faithful x
  | case3 x y =>
    simp only [encodeChars, padding, Bool.false_eq_true, if_false, decodeChars?]
    exact decodeTwo?_encoded faithful x y
  | case4 x y z rest ih =>
    rw [encodeChars, decodeChars?, if_neg fun h => Bool.false_ne_true h.1,
      decodeThree?_encoded faithful, ih]
    rfl

theorem encodeChars_of_decodeChars? : ∀ {text : List Char} {bytes : Bytes},
    decodeChars? a false text = some bytes → encodeChars a false bytes = text
  | [], _, h => by
    obtain rfl := Option.some.inj h
    rfl
  | [_], _, h => nomatch h
  | [_, _], _, h => encodeChars_of_decodeOne? h
  | [_, _, _], _, h => encodeChars_of_decodeTwo? h
  | c₀ :: c₁ :: c₂ :: c₃ :: rest, bytes, h => by
    rw [decodeChars?, if_neg fun h => Bool.false_ne_true h.1] at h
    simp only [Option.bind_eq_bind, Option.bind_eq_some_iff] at h
    obtain ⟨group, first, others, tail, h⟩ := h
    obtain rfl := Option.some.inj h
    rw [encodeChars_of_decodeThree? first, encodeChars_of_decodeChars? tail]

/-- **A text without padding** stands for octets exactly if it is what is written for them. -/
theorem decodeChars?_eq_some_iff (faithful : a.IsFaithful) {text : List Char} {bytes : Bytes} :
    decodeChars? a false text = some bytes ↔ text = encodeChars a false bytes := by
  constructor
  · intro h
    exact (encodeChars_of_decodeChars? h).symm
  · rintro rfl
    exact decodeChars?_encodeChars_unpadded faithful bytes

/-- What is no symbol is not in a text that is written without padding. -/
theorem notMem_encodeChars {c : Char} (other : ∀ n < 64, a.symbol n ≠ c) (bytes : Bytes) :
    c ∉ encodeChars a false bytes := by
  have symbol {n : Nat} (h : n < 64) : c ≠ a.symbol n := (other n h).symm
  induction bytes using encodeChars.induct with
  | case1 => exact List.not_mem_nil
  | case2 x =>
    have hx := x.toNat_lt
    simp only [encodeChars, padding, Bool.false_eq_true, if_false, List.mem_cons, not_or]
    exact ⟨symbol (by omega), symbol (by omega), List.not_mem_nil⟩
  | case3 x y =>
    have hx := x.toNat_lt
    have hy := y.toNat_lt
    simp only [encodeChars, padding, Bool.false_eq_true, if_false, List.mem_cons, not_or]
    exact ⟨symbol (by omega), symbol (by omega), symbol (by omega), List.not_mem_nil⟩
  | case4 x y z rest ih =>
    have hx := x.toNat_lt
    have hy := y.toNat_lt
    have hz := z.toNat_lt
    simp only [encodeChars, List.mem_cons, not_or]
    exact ⟨symbol (by omega), symbol (by omega), symbol (by omega), symbol (by omega), ih⟩

/-- There is no padding in a text that is written without. -/
theorem padding_notMem_encodeChars (faithful : a.IsFaithful) (bytes : Bytes) :
    '=' ∉ encodeChars a false bytes :=
  notMem_encodeChars faithful.symbol_ne_padding bytes

/-- A text for some octets is not empty. -/
theorem encodeChars_ne_nil (faithful : a.IsFaithful) {bytes : Bytes} (some_octet : bytes ≠ []) :
    encodeChars a false bytes ≠ [] := by
  intro empty
  have read := decodeChars?_encodeChars_unpadded faithful bytes
  rw [empty] at read
  exact some_octet (Option.some.inj read).symm

end Unpadded

end Base64

end GatewaySession
