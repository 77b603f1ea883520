import GatewaySession.Sealing.Aes256

/-!
# Galois counter mode

Authenticated encryption over AES with 96-bit nonces and no associated data. The text is added to a
key stream, the images of a counter that follows the nonce; the tag is a polynomial in the
ciphertext over the field of `2 ^ 128` elements, masked by the image of the first counter.

## Main definitions

* `Gcm.Nonce`, `Gcm.Tag` — 12 and 16 octets, by type
* `Gcm.applyKeyStream` — encryption and decryption, which are one operation
* `Gcm.tag` — the tag of a ciphertext
-/

namespace GatewaySession

namespace Gcm

open Aes256

/-- A nonce. -/
abbrev Nonce := Vector UInt8 12

/-- A tag. -/
abbrev Tag := Vector UInt8 16

/-! ### The field -/

/-- A polynomial of degree below 128, its constant term in the highest bit. -/
structure Element where
  /-- Coefficients 0 to 63. -/
  high : UInt64
  /-- Coefficients 64 to 127. -/
  low : UInt64

namespace Element

/-- The zero polynomial. -/
def zero : Element := ⟨0, 0⟩

/-- Sum. -/
def add (x y : Element) : Element := ⟨x.high ^^^ y.high, x.low ^^^ y.low⟩

/-- Product with the indeterminate, reduced. -/
def shift (x : Element) : Element :=
  let carry := x.high <<< 63
  let high := x.high >>> 1
  let low := (x.low >>> 1) ||| carry
  if x.low &&& 1 = 0 then ⟨high, low⟩ else ⟨high ^^^ 0xe100000000000000, low⟩

/-- The coefficient of a power. -/
def coefficient (x : Element) (i : Nat) : Bool :=
  if i < 64 then (x.high >>> UInt64.ofNat (63 - i)) &&& 1 == 1
  else (x.low >>> UInt64.ofNat (127 - i)) &&& 1 == 1

/-- Product, reduced. -/
def mul (x y : Element) : Element :=
  ((List.range 128).foldl (fun (sum, power) i =>
    (if x.coefficient i then sum.add power else sum, power.shift)) (zero, y)).1

/-- The word of eight octets, most significant first; missing ones count as zero. -/
def wordOf (octets : Bytes) : UInt64 :=
  (List.range 8).foldl (fun word i => (word <<< 8) ||| (octets.getD i 0).toUInt64) 0

/-- The element of up to sixteen octets. -/
def ofBytes (octets : Bytes) : Element := ⟨wordOf octets, wordOf (octets.drop 8)⟩

/-- The element as a block. -/
def toBlock (x : Element) : Block :=
  Vector.ofFn fun i =>
    let word := if i.val < 8 then x.high else x.low
    (word >>> UInt64.ofNat (56 - 8 * (i.val % 8))).toUInt8

end Element

/-- The value of the polynomial whose coefficients are the blocks of the text, the last one filled
with zeros, at a point; the blocks are counted down by the first argument. -/
def evaluate (point : Element) : Nat → Element → Bytes → Element
  | 0, sum, _ => sum
  | count + 1, sum, text =>
    evaluate point count ((sum.add (Element.ofBytes (text.take 16))).mul point) (text.drop 16)

/-- Number of blocks of a text. -/
def blockCount (text : Bytes) : Nat := (text.length + 15) / 16

/-! ### Encryption -/

/-- The block of a nonce and a counter. -/
def counterBlock (nonce : Nonce) (counter : Nat) : Block :=
  Vector.ofFn fun i =>
    if h : i.val < 12 then nonce[i.val] else UInt8.ofNat (counter / Nat.pow 256 (15 - i.val))

/-- As many octets of the key stream as fill a number of blocks. The counter of the text begins at
two; one masks the tag. -/
def keyStream (columns : Array Column) (nonce : Nonce) (blocks : Nat) : Bytes :=
  (List.range blocks).flatMap fun i => (encryptWith columns (counterBlock nonce (i + 2))).toList

/-- Adds the key stream to a text. -/
def applyKeyStream (key : Key) (nonce : Nonce) (text : Bytes) : Bytes :=
  List.zipWith (· ^^^ ·) text (keyStream (expand key) nonce (blockCount text))

/-- The tag of a ciphertext. -/
def tag (key : Key) (nonce : Nonce) (ciphertext : Bytes) : Tag :=
  let columns := expand key
  let point := Element.ofBytes (encryptWith columns (Vector.replicate 16 0)).toList
  let sum := evaluate point (blockCount ciphertext) .zero ciphertext
  let lengths : Element := ⟨0, UInt64.ofNat (ciphertext.length * 8)⟩
  let hash := ((sum.add lengths).mul point).toBlock
  Vector.zipWith (· ^^^ ·) hash (encryptWith columns (counterBlock nonce 1))

end Gcm

end GatewaySession
