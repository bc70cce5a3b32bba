import SealedDrop.Bytes
import Mathlib.Data.List.Basic
import Mathlib.Tactic.Linarith
import Mathlib.Tactic.Ring

/-!
# Bytes as numbers and as text

The laws of reading and writing big-endian numbers, and of the bytes of a text.
-/

namespace SealedDrop

/-! ### Numbers -/

namespace Bytes

/-- One more byte in front counts as many times as there are numbers in the rest. -/
theorem foldl_toNat (b : Bytes) (n : Nat) :
    b.foldl (fun n x => 256 * n + x.toNat) n = n * 256 ^ b.length + toNat b := by
  unfold toNat
  induction b generalizing n with
  | nil => simp
  | cons x b ih =>
    rw [List.foldl_cons, List.foldl_cons, ih, ih (256 * 0 + x.toNat), List.length_cons, Nat.pow_succ]
    ring

theorem toNat_append (a b : Bytes) : toNat (a ++ b) = toNat a * 256 ^ b.length + toNat b := by
  rw [toNat, List.foldl_append, foldl_toNat]
  rfl

theorem toNat_singleton (x : UInt8) : toNat [x] = x.toNat := by simp [toNat]

theorem toNat_cons (x : UInt8) (b : Bytes) : toNat (x :: b) = x.toNat * 256 ^ b.length + toNat b := by
  rw [← List.singleton_append, toNat_append, toNat_singleton]

theorem toNat_lt (b : Bytes) : toNat b < 256 ^ b.length := by
  induction b with
  | nil => decide
  | cons x b ih =>
    have hx := x.toNat_lt
    rw [toNat_cons, List.length_cons, Nat.pow_succ]
    nlinarith

/-- Writing a number in a given width and reading it back leaves what fits. -/
theorem toNat_ofNatWidth (width n : Nat) : toNat (ofNatWidth width n) = n % 256 ^ width := by
  induction width generalizing n with
  | zero => simp [ofNatWidth, toNat, Nat.mod_one]
  | succ width ih =>
    rw [ofNatWidth, toNat_append, ih, toNat_singleton, List.length_singleton, pow_one, UInt8.toNat_ofNat',
      pow_succ' 256 width, Nat.mod_mul]
    omega

/-- Byte strings of one length are told apart by their numbers. -/
theorem eq_of_toNat_eq {a b : Bytes} (hl : a.length = b.length) (h : toNat a = toNat b) : a = b := by
  induction a generalizing b with
  | nil => exact (List.length_eq_zero_iff.mp hl.symm).symm
  | cons x a ih =>
    obtain _ | ⟨y, b⟩ := b
    · cases hl
    rw [List.length_cons, List.length_cons, Nat.add_right_cancel_iff] at hl
    rw [toNat_cons, toNat_cons, hl] at h
    have ha := toNat_lt a
    have hb := toNat_lt b
    rw [hl] at ha
    have hpos : 0 < 256 ^ b.length := Nat.pow_pos (by decide)
    have hxy : x.toNat = y.toNat := by
      have := congrArg (· / 256 ^ b.length) h
      simpa [Nat.mul_comm, Nat.mul_add_div hpos, Nat.div_eq_of_lt ha, Nat.div_eq_of_lt hb] using this
    rw [hxy] at h
    rw [UInt8.toNat_inj.mp hxy, ih hl (Nat.add_left_cancel h)]

theorem ofNatWidth_toNat (b : Bytes) : ofNatWidth b.length (toNat b) = b := by
  refine eq_of_toNat_eq (length_ofNatWidth _ _) ?_
  rw [toNat_ofNatWidth, Nat.mod_eq_of_lt (toNat_lt b)]

/-- A positive number has its first digit in the place that `widthOf` counts. -/
theorem pow_widthOf_le {n : Nat} (h : n ≠ 0) : 256 ^ (widthOf n - 1) ≤ n := by
  rw [widthOf, if_neg h, Nat.add_sub_cancel, show 256 = 2 ^ 8 from rfl, ← Nat.pow_mul]
  exact (Nat.pow_le_pow_right (by decide) (Nat.mul_div_le _ 8)).trans (Nat.log2_self_le h)

theorem lt_pow_widthOf (n : Nat) : n < 256 ^ widthOf n := by
  unfold widthOf
  split
  · next h =>
    rw [h]
    decide
  · rw [show 256 = 2 ^ 8 from rfl, ← Nat.pow_mul]
    refine Nat.lt_log2_self.trans_le (Nat.pow_le_pow_right (by decide) ?_)
    omega

/-- The digits of a number denote it. -/
theorem toNat_ofNat (n : Nat) : toNat (ofNat n) = n := by
  rw [ofNat, toNat_ofNatWidth, Nat.mod_eq_of_lt (lt_pow_widthOf n)]

theorem length_ofNat (n : Nat) : (ofNat n).length = widthOf n := length_ofNatWidth _ _

theorem widthOf_pos {n : Nat} (h : n ≠ 0) : 0 < widthOf n := by
  rw [widthOf, if_neg h]
  exact Nat.succ_pos _

theorem widthOf_le {n width : Nat} (h : n < 256 ^ width) : widthOf n ≤ width := by
  by_cases hn : n = 0
  · subst hn
    exact Nat.zero_le _
  · have hlt : 256 ^ (widthOf n - 1) < 256 ^ width := (pow_widthOf_le hn).trans_lt h
    have hexponent := (Nat.pow_lt_pow_iff_right (by decide)).mp hlt
    omega

/-! ### Bits -/

/-- The bit of this weight in the byte at this place. -/
def bit? (b : Bytes) (place weight : Nat) : Option Bool :=
  b[place]?.map (·.toNat.testBit weight)

/-- The byte strings have the same length and differ in exactly one bit. -/
def OneBitApart (b b' : Bytes) : Prop :=
  b'.length = b.length ∧ ∃! p : Nat × Nat, b'.bit? p.1 p.2 ≠ b.bit? p.1 p.2

theorem OneBitApart.ne {b b' : Bytes} (h : b.OneBitApart b') : b ≠ b' := by
  rintro rfl
  obtain ⟨-, p, hp, -⟩ := h
  exact hp rfl

/-- An exclusive or with one flips the lowest bit of a byte and no other. -/
theorem testBit_xor_one_ne_iff (x : UInt8) (weight : Nat) :
    (x ^^^ 1).toNat.testBit weight ≠ x.toNat.testBit weight ↔ weight = 0 := by
  have hone : (1 : UInt8).toNat = 1 := rfl
  rw [UInt8.toNat_xor, Nat.testBit_xor, hone, ← Nat.testBit_one_eq_true_iff_self_eq_zero]
  cases x.toNat.testBit weight <;> simp

/-- Bytes of one place that agree in every bit are the same, and so are places without a byte. -/
theorem getElem?_eq_of_bit? {b b' : Bytes} {place : Nat} (h : ∀ weight, b'.bit? place weight = b.bit? place weight) :
    b'[place]? = b[place]? := by
  unfold bit? at h
  cases hb : b[place]? with
  | none =>
    have hnone := h 0
    rw [hb, Option.map_none, Option.map_eq_none_iff] at hnone
    exact hnone
  | some x =>
    cases hb' : b'[place]? with
    | none =>
      have hnone := h 0
      rw [hb, hb'] at hnone
      cases hnone
    | some y =>
      rw [hb, hb'] at h
      have hbits : y.toNat = x.toNat := Nat.eq_of_testBit_eq fun weight => Option.some.inj (h weight)
      rw [UInt8.toNat_inj.mp hbits]

end Bytes

/-! ### Text -/

/-- The bytes of a text are those of its characters in order. -/
theorem utf8_eq_flatMap (s : String) : utf8 s = s.toList.flatMap String.utf8EncodeChar := by
  have hbytes : s.toByteArray = s.toList.utf8Encode := by
    rw [← String.toByteArray_ofList, String.ofList_toList]
  rw [utf8, String.toUTF8_eq_toByteArray, hbytes, List.utf8Encode, List.data_toByteArray]

theorem utf8_append (s s' : String) : utf8 (s ++ s') = utf8 s ++ utf8 s' := by
  simp [utf8_eq_flatMap]

theorem length_utf8 (s : String) : (utf8 s).length = s.utf8ByteSize := by
  rw [utf8, Array.length_toList]
  rfl

/-- Text is determined by its bytes. -/
theorem utf8_inj {s s' : String} : utf8 s = utf8 s' ↔ s = s' := by
  refine ⟨fun h => ?_, congrArg utf8⟩
  have := congrArg text? h
  rwa [text?_utf8, text?_utf8, Option.some.injEq] at this

/-- Bytes are read as a text just if they are its encoding. -/
theorem text?_eq_some_iff {b : Bytes} {s : String} : text? b = some s ↔ b = utf8 s := by
  constructor
  · intro h
    simp only [text?, String.fromUTF8?, Option.dite_none_right_eq_some, Option.some.injEq] at h
    obtain ⟨hvalid, rfl⟩ := h
    rfl
  · rintro rfl
    exact text?_utf8 s

/-- The number of an ASCII character. -/
theorem toNat_charOfNat {n : Nat} (h : n < 128) : (Char.ofNat n).toNat = n := by
  rw [Char.ofNat, dif_pos (Or.inl (by omega))]
  rfl

/-- An ASCII character is one byte. -/
theorem utf8EncodeChar_of_lt {c : Char} (h : c.toNat < 128) : String.utf8EncodeChar c = [UInt8.ofNat c.toNat] := by
  have hsize : c.utf8Size = 1 := by
    rw [Char.utf8Size_eq_one_iff, UInt32.le_iff_toNat_le]
    exact Nat.le_of_lt_succ h
  rw [String.utf8EncodeChar_eq_singleton hsize]
  congr 1

/-- The bytes of a character outside ASCII are outside ASCII. -/
theorem le_of_mem_utf8EncodeChar {c : Char} (h : 128 ≤ c.toNat) : ∀ x ∈ String.utf8EncodeChar c, 0x80 ≤ x := by
  have hbyte : ∀ {n : Nat}, 0x80 ≤ n → n < 256 → (0x80 : UInt8) ≤ UInt8.ofNat n := by
    intro n hlow hhigh
    rw [UInt8.le_iff_toNat_le, UInt8.toNat_ofNat', Nat.mod_eq_of_lt hhigh]
    exact hlow
  change 128 ≤ c.val.toNat at h
  unfold String.utf8EncodeChar
  generalize c.val.toNat = v at h
  rw [if_neg (by omega)]
  split
  · simp only [List.forall_mem_cons, List.not_mem_nil, false_implies, implies_true, and_true]
    exact ⟨hbyte (by omega) (by omega), hbyte (by omega) (by omega)⟩
  · split
    · simp only [List.forall_mem_cons, List.not_mem_nil, false_implies, implies_true, and_true]
      exact ⟨hbyte (by omega) (by omega), hbyte (by omega) (by omega), hbyte (by omega) (by omega)⟩
    · simp only [List.forall_mem_cons, List.not_mem_nil, false_implies, implies_true, and_true]
      exact ⟨hbyte (by omega) (by omega), hbyte (by omega) (by omega), hbyte (by omega) (by omega),
        hbyte (by omega) (by omega)⟩

/-- The bytes of a text of ASCII characters are their numbers. -/
theorem utf8_of_ascii {s : String} (h : ∀ c ∈ s.toList, c.toNat < 128) :
    utf8 s = s.toList.map fun c => UInt8.ofNat c.toNat := by
  rw [utf8_eq_flatMap, List.flatMap_congr fun c hc => utf8EncodeChar_of_lt (h c hc), List.map_eq_flatMap]

/-- ASCII bytes that are written as characters are the bytes of the text. -/
theorem utf8_of_bytes {b : Bytes} (h : ∀ x ∈ b, x < 128) :
    utf8 (String.ofList (b.map fun x => Char.ofNat x.toNat)) = b := by
  have hchar : ∀ x ∈ b, (Char.ofNat x.toNat).toNat = x.toNat :=
    fun x hx => toNat_charOfNat (UInt8.lt_iff_toNat_lt.mp (h x hx))
  rw [utf8_of_ascii, String.toList_ofList, List.map_map]
  · conv_rhs => rw [← List.map_id b]
    refine List.map_congr_left fun x hx => ?_
    rw [Function.comp_apply, hchar x hx, UInt8.ofNat_toNat, id]
  · intro c hc
    rw [String.toList_ofList, List.mem_map] at hc
    obtain ⟨x, hx, rfl⟩ := hc
    rw [hchar x hx]
    exact UInt8.lt_iff_toNat_lt.mp (h x hx)

end SealedDrop
