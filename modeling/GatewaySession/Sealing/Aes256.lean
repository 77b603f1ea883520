import GatewaySession.Bytes

/-!
# AES with 256-bit keys

The forward block cipher of FIPS 197. Counter mode never inverts it, so the inverse cipher is not
here. A block is a 4 by 4 matrix of octets by columns; a round substitutes each octet, rotates the
rows, multiplies the columns by a fixed matrix over the field of 256 elements, and adds a round key.

## Main definitions

* `Aes256.Key`, `Aes256.Block` — 32 and 16 octets, by type
* `Aes256.expand` — the round keys, as 60 words of four octets
* `Aes256.encrypt` — the image of a block
-/

namespace GatewaySession

namespace Aes256

/-- A key. -/
abbrev Key := Vector UInt8 32

/-- A block. -/
abbrev Block := Vector UInt8 16

/-- The substitution: inversion in the field, then an affine map. -/
def substitution : Array UInt8 := #[
  0x63, 0x7c, 0x77, 0x7b, 0xf2, 0x6b, 0x6f, 0xc5, 0x30, 0x01, 0x67, 0x2b, 0xfe, 0xd7, 0xab, 0x76,
  0xca, 0x82, 0xc9, 0x7d, 0xfa, 0x59, 0x47, 0xf0, 0xad, 0xd4, 0xa2, 0xaf, 0x9c, 0xa4, 0x72, 0xc0,
  0xb7, 0xfd, 0x93, 0x26, 0x36, 0x3f, 0xf7, 0xcc, 0x34, 0xa5, 0xe5, 0xf1, 0x71, 0xd8, 0x31, 0x15,
  0x04, 0xc7, 0x23, 0xc3, 0x18, 0x96, 0x05, 0x9a, 0x07, 0x12, 0x80, 0xe2, 0xeb, 0x27, 0xb2, 0x75,
  0x09, 0x83, 0x2c, 0x1a, 0x1b, 0x6e, 0x5a, 0xa0, 0x52, 0x3b, 0xd6, 0xb3, 0x29, 0xe3, 0x2f, 0x84,
  0x53, 0xd1, 0x00, 0xed, 0x20, 0xfc, 0xb1, 0x5b, 0x6a, 0xcb, 0xbe, 0x39, 0x4a, 0x4c, 0x58, 0xcf,
  0xd0, 0xef, 0xaa, 0xfb, 0x43, 0x4d, 0x33, 0x85, 0x45, 0xf9, 0x02, 0x7f, 0x50, 0x3c, 0x9f, 0xa8,
  0x51, 0xa3, 0x40, 0x8f, 0x92, 0x9d, 0x38, 0xf5, 0xbc, 0xb6, 0xda, 0x21, 0x10, 0xff, 0xf3, 0xd2,
  0xcd, 0x0c, 0x13, 0xec, 0x5f, 0x97, 0x44, 0x17, 0xc4, 0xa7, 0x7e, 0x3d, 0x64, 0x5d, 0x19, 0x73,
  0x60, 0x81, 0x4f, 0xdc, 0x22, 0x2a, 0x90, 0x88, 0x46, 0xee, 0xb8, 0x14, 0xde, 0x5e, 0x0b, 0xdb,
  0xe0, 0x32, 0x3a, 0x0a, 0x49, 0x06, 0x24, 0x5c, 0xc2, 0xd3, 0xac, 0x62, 0x91, 0x95, 0xe4, 0x79,
  0xe7, 0xc8, 0x37, 0x6d, 0x8d, 0xd5, 0x4e, 0xa9, 0x6c, 0x56, 0xf4, 0xea, 0x65, 0x7a, 0xae, 0x08,
  0xba, 0x78, 0x25, 0x2e, 0x1c, 0xa6, 0xb4, 0xc6, 0xe8, 0xdd, 0x74, 0x1f, 0x4b, 0xbd, 0x8b, 0x8a,
  0x70, 0x3e, 0xb5, 0x66, 0x48, 0x03, 0xf6, 0x0e, 0x61, 0x35, 0x57, 0xb9, 0x86, 0xc1, 0x1d, 0x9e,
  0xe1, 0xf8, 0x98, 0x11, 0x69, 0xd9, 0x8e, 0x94, 0x9b, 0x1e, 0x87, 0xe9, 0xce, 0x55, 0x28, 0xdf,
  0x8c, 0xa1, 0x89, 0x0d, 0xbf, 0xe6, 0x42, 0x68, 0x41, 0x99, 0x2d, 0x0f, 0xb0, 0x54, 0xbb, 0x16
]

/-- The image of an octet under the substitution. -/
def substitute (x : UInt8) : UInt8 := substitution.getD x.toNat 0

/-- Multiplication by the generator of the field. -/
def double (x : UInt8) : UInt8 :=
  if x &&& 0x80 = 0 then x <<< 1 else (x <<< 1) ^^^ 0x1b

/-! ### Round keys -/

/-- A column of a round key. -/
structure Column where
  a : UInt8
  b : UInt8
  c : UInt8
  d : UInt8
  deriving Inhabited

namespace Column

/-- Sum of columns. -/
def add (x y : Column) : Column := ⟨x.a ^^^ y.a, x.b ^^^ y.b, x.c ^^^ y.c, x.d ^^^ y.d⟩

/-- Substitutes every octet. -/
def substitute (x : Column) : Column :=
  ⟨Aes256.substitute x.a, Aes256.substitute x.b, Aes256.substitute x.c, Aes256.substitute x.d⟩

/-- Moves the first octet to the end. -/
def rotate (x : Column) : Column := ⟨x.b, x.c, x.d, x.a⟩

end Column

/-- The next column of the expanded key: eight columns back, plus the last one, which is altered at
every fourth place. -/
def nextColumn (columns : Array Column) (roundConstant : UInt8) : Column :=
  let n := columns.size
  let last := columns.getD (n - 1) default
  let altered :=
    if n % 8 = 0 then last.rotate.substitute.add ⟨roundConstant, 0, 0, 0⟩
    else if n % 8 = 4 then last.substitute
    else last
  (columns.getD (n - 8) default).add altered

/-- The 60 columns of the round keys. -/
def expand (key : Key) : Array Column :=
  let first := (Array.range 8).map fun i =>
    (⟨key.toArray.getD (4 * i) 0, key.toArray.getD (4 * i + 1) 0, key.toArray.getD (4 * i + 2) 0,
      key.toArray.getD (4 * i + 3) 0⟩ : Column)
  ((List.range 52).foldl (fun (columns, constant) _ =>
    (columns.push (nextColumn columns constant),
      if columns.size % 8 = 0 then double constant else constant)) (first, 1)).1

/-! ### The cipher -/

/-- Adds the round key that begins at a column. -/
def addRoundKey (columns : Array Column) (round : Nat) (block : Block) : Block :=
  Vector.ofFn fun i =>
    let column := columns.getD (4 * round + i.val / 4) default
    block[i] ^^^
      match i.val % 4 with
      | 0 => column.a
      | 1 => column.b
      | 2 => column.c
      | _ => column.d

/-- Substitutes every octet and rotates row `r` by `r` places. -/
def substituteAndShift (block : Block) : Block :=
  Vector.ofFn fun i =>
    substitute (block.toArray.getD ((i.val + 4 * (i.val % 4)) % 16) 0)

/-- Multiplies every column by the fixed matrix. -/
def mixColumns (block : Block) : Block :=
  Vector.ofFn fun i =>
    let start := i.val / 4 * 4
    let octet (k : Nat) : UInt8 := block.toArray.getD (start + (i.val + k) % 4) 0
    double (octet 0) ^^^ (double (octet 1) ^^^ octet 1) ^^^ octet 2 ^^^ octet 3

/-- The image of a block under an expanded key: fourteen rounds, the last without mixing. -/
def encryptWith (columns : Array Column) (block : Block) : Block :=
  let start := addRoundKey columns 0 block
  let inner := (List.range 13).foldl
    (fun block i => addRoundKey columns (i + 1) (mixColumns (substituteAndShift block))) start
  addRoundKey columns 14 (substituteAndShift inner)

/-- The image of a block under a key. -/
def encrypt (key : Key) (block : Block) : Block := encryptWith (expand key) block

end Aes256

end GatewaySession
