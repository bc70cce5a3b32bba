import SealedDrop.Bytes

/-!
# The AES block cipher with keys of 256 bits

Encrypts one block of sixteen bytes. Counter mode needs no decryption of blocks.

## The model

* Bytes are elements of the field with 256 elements: addition is exclusive or, and `double` and `product` multiply
  modulo the cipher's polynomial.
* The substitution of bytes is inversion in that field followed by an affine map; `substitution` tabulates it.
* A block is four columns of four bytes. A round substitutes the bytes, rotates the rows, mixes every column by a
  fixed matrix, and adds a round key; the last round leaves out the mixing.
-/

namespace SealedDrop.Cipher.Aes256

/-! ### The field -/

/-- Multiplication by the element 2. -/
def double (x : UInt8) : UInt8 :=
  (x <<< 1) ^^^ (if x < 0x80 then 0 else 0x1B)

/-- Multiplication, taking the lowest `bits` bits of the second factor. -/
def productBits : Nat → UInt8 → UInt8 → UInt8
  | 0, _, _ => 0
  | bits + 1, x, y => (if y &&& 1 = 1 then x else 0) ^^^ productBits bits (double x) (y >>> 1)

/-- Multiplication of field elements. -/
def product (x y : UInt8) : UInt8 :=
  productBits 8 x y

/-- Powers of a field element. -/
def power (x : UInt8) : Nat → UInt8
  | 0 => 1
  | n + 1 => product x (power x n)

/-- The inverse of a field element; zero goes to zero. -/
def inverse (x : UInt8) : UInt8 :=
  power x 254

/-- Rotation of the bits of a byte to the left, by more than no and less than all bits. -/
def rotate (x n : UInt8) : UInt8 :=
  (x <<< n) ||| (x >>> (8 - n))

/-- The substitute of every byte. -/
def substitution : Vector UInt8 256 :=
  Vector.ofFn fun i =>
    let y := inverse (UInt8.ofNat i.val)
    y ^^^ rotate y 1 ^^^ rotate y 2 ^^^ rotate y 3 ^^^ rotate y 4 ^^^ 0x63

/-- The substitute of a byte. -/
def substitute (x : UInt8) : UInt8 :=
  substitution.get ⟨x.toNat, x.toNat_lt⟩

/-! ### Columns and blocks -/

/-- Four bytes, from the top row to the bottom row. -/
structure Column where
  /-- The byte in the first row. -/
  r₀ : UInt8
  /-- The byte in the second row. -/
  r₁ : UInt8
  /-- The byte in the third row. -/
  r₂ : UInt8
  /-- The byte in the fourth row. -/
  r₃ : UInt8

namespace Column

/-- Bytewise addition. -/
def add (a b : Column) : Column :=
  ⟨a.r₀ ^^^ b.r₀, a.r₁ ^^^ b.r₁, a.r₂ ^^^ b.r₂, a.r₃ ^^^ b.r₃⟩

/-- Applies a function to each byte. -/
def map (f : UInt8 → UInt8) (a : Column) : Column :=
  ⟨f a.r₀, f a.r₁, f a.r₂, f a.r₃⟩

/-- The combination of four bytes with the coefficients 2, 3, 1 and 1. -/
def combine (x y z w : UInt8) : UInt8 :=
  double x ^^^ double y ^^^ y ^^^ z ^^^ w

/-- The product with the fixed matrix. -/
def mix (a : Column) : Column :=
  ⟨combine a.r₀ a.r₁ a.r₂ a.r₃, combine a.r₁ a.r₂ a.r₃ a.r₀, combine a.r₂ a.r₃ a.r₀ a.r₁,
    combine a.r₃ a.r₀ a.r₁ a.r₂⟩

/-- The column of the first four bytes; missing ones are zero. -/
def ofBytes (b : Bytes) : Column :=
  ⟨b.getD 0 0, b.getD 1 0, b.getD 2 0, b.getD 3 0⟩

end Column

/-- Four columns, from left to right. -/
structure Block where
  /-- The first column. -/
  c₀ : Column
  /-- The second column. -/
  c₁ : Column
  /-- The third column. -/
  c₂ : Column
  /-- The fourth column. -/
  c₃ : Column

namespace Block

/-- Bytewise addition. -/
def add (a b : Block) : Block :=
  ⟨a.c₀.add b.c₀, a.c₁.add b.c₁, a.c₂.add b.c₂, a.c₃.add b.c₃⟩

/-- Applies a function to each column. -/
def map (f : Column → Column) (a : Block) : Block :=
  ⟨f a.c₀, f a.c₁, f a.c₂, f a.c₃⟩

/-- Rotates each row to the left, by none, one, two and three places. -/
def shiftRows (a : Block) : Block :=
  ⟨⟨a.c₀.r₀, a.c₁.r₁, a.c₂.r₂, a.c₃.r₃⟩, ⟨a.c₁.r₀, a.c₂.r₁, a.c₃.r₂, a.c₀.r₃⟩,
    ⟨a.c₂.r₀, a.c₃.r₁, a.c₀.r₂, a.c₁.r₃⟩, ⟨a.c₃.r₀, a.c₀.r₁, a.c₁.r₂, a.c₂.r₃⟩⟩

/-- The block of the first sixteen bytes, column by column; missing ones are zero. -/
def ofBytes (b : Bytes) : Block :=
  ⟨.ofBytes b, .ofBytes (b.drop 4), .ofBytes (b.drop 8), .ofBytes (b.drop 12)⟩

/-- The sixteen bytes, column by column. -/
def toBytes (a : Block) : Bytes :=
  [a.c₀, a.c₁, a.c₂, a.c₃].flatMap fun c => [c.r₀, c.r₁, c.r₂, c.r₃]

@[simp] theorem length_toBytes (a : Block) : a.toBytes.length = 16 := rfl

end Block

/-! ### Round keys -/

/-- The column at place `place` of the key schedule, from the eight columns before it. -/
def nextColumn (place : Nat) (constant : UInt8) (first last : Column) : Column :=
  if place % 8 = 0 then
    let turned : Column := ⟨last.r₁, last.r₂, last.r₃, last.r₀⟩
    (first.add (turned.map substitute)).add ⟨constant, 0, 0, 0⟩
  else if place % 8 = 4 then first.add (last.map substitute)
  else first.add last

/-- The next `n` columns of the key schedule, of which the first eight are given; the last of them precedes `place`. -/
def columns : Nat → Nat → UInt8 → List Column → List Column
  | n + 1, place, constant, c :: window =>
    let next := nextColumn place constant c (window.getLastD c)
    c :: columns n (place + 1) (if place % 8 = 0 then double constant else constant) (window ++ [next])
  | _, _, _, _ => []

/-- Groups columns into blocks. -/
def groups : List Column → List Block
  | a :: b :: c :: d :: rest => ⟨a, b, c, d⟩ :: groups rest
  | _ => []

/-- The fifteen round keys of a key of 32 bytes. -/
def roundKeys (key : Bytes) : List Block :=
  groups (columns 60 8 1 ((key.blocks 4).map Column.ofBytes))

/-! ### The cipher -/

/-- The rounds with these round keys; the last of them does not mix. -/
def rounds (b : Block) : List Block → Block
  | [] => b
  | [k] => ((b.map (·.map substitute)).shiftRows).add k
  | k :: keys => rounds ((((b.map (·.map substitute)).shiftRows).map Column.mix).add k) keys

/-- The encryption of a block under round keys. -/
def encryptBlock (keys : List Block) (b : Bytes) : Bytes :=
  match keys with
  | [] => (Block.ofBytes b).toBytes
  | k :: rest => (rounds ((Block.ofBytes b).add k) rest).toBytes

@[simp] theorem length_encryptBlock (keys : List Block) (b : Bytes) : (encryptBlock keys b).length = 16 := by
  cases keys <;> simp [encryptBlock]

end SealedDrop.Cipher.Aes256
