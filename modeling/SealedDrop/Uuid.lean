import SealedDrop.Bytes

/-!
# Random identifiers

Identifiers of 122 random bits, in the two spellings in use: with hyphens and without.

## The model

Of sixteen random bytes the upper half of the seventh is replaced by the version, four, and the two upper bits of the ninth
by the variant.
-/

namespace SealedDrop.Uuid

/-- The sixteen bytes of an identifier from sixteen random ones. -/
def stamp (b : Bytes) : Bytes :=
  (b.modify 6 fun x => (x &&& 0x0F) ||| 0x40).modify 8 fun x => (x &&& 0x3F) ||| 0x80

/-- The digits of an identifier. -/
def simple (b : Bytes) : String :=
  (stamp b).toHex

/-- The digits of an identifier in groups. -/
def hyphenated (b : Bytes) : String :=
  let b := stamp b
  "-".intercalate [Bytes.toHex (b.take 4), Bytes.toHex ((b.drop 4).take 2), Bytes.toHex ((b.drop 6).take 2),
    Bytes.toHex ((b.drop 8).take 2), Bytes.toHex (b.drop 10)]

end SealedDrop.Uuid
