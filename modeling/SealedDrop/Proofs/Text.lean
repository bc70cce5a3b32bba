import SealedDrop.KeyName
import SealedDrop.Proofs.Bytes
import SealedDrop.Text.Blank
import SealedDrop.Text.Lossy
import SealedDrop.Text.Percent
import SealedDrop.Uuid
import Mathlib.Data.List.TakeWhile

/-!
# Reading back text

What is known of the texts that pass between a client and a remote: trimming takes off the white space that was put around a
text, an escaped path segment is read back, bytes of text decode without damage, and random identifiers are plain ASCII.
-/

namespace SealedDrop

/-! ### Trimming -/

namespace Text

variable {p : Char → Bool} {l l₁ l₂ : List Char}

/-- Nothing is removed where nothing satisfies the test. -/
theorem dropWhile_of_forall_not (h : ∀ c ∈ l, p c = false) : l.dropWhile p = l := by
  cases l with
  | nil => rfl
  | cons c l => rw [List.dropWhile_cons_of_neg (by simp [h c List.mem_cons_self])]

/-- What surrounds a list is removed, and no more. -/
theorem strip_surround (h₁ : ∀ c ∈ l₁, p c = true) (h₂ : ∀ c ∈ l₂, p c = true) (h : ∀ c ∈ l, p c = false) :
    strip p (l₁ ++ l ++ l₂) = l := by
  have hfront : (l₁ ++ l ++ l₂).dropWhile p = (l ++ l₂).dropWhile p := by
    rw [List.append_assoc, List.dropWhile_append_of_pos h₁]
  unfold strip
  rw [hfront]
  cases l with
  | nil =>
    have hnone : l₂.dropWhile p = [] := List.dropWhile_eq_nil_iff.mpr h₂
    rw [List.nil_append, hnone]
    rfl
  | cons c l =>
    rw [List.cons_append, List.dropWhile_cons_of_neg (by simp [h c List.mem_cons_self]), ← List.cons_append,
      List.reverse_append, List.dropWhile_append_of_pos (by simpa using h₂),
      dropWhile_of_forall_not (fun d hd => h d (List.mem_reverse.mp hd)), List.reverse_reverse]

/-- White space around a text without any is trimmed. -/
theorem trim_surround {before s after : String} (h₁ : ∀ c ∈ before.toList, isBlank c = true)
    (h₂ : ∀ c ∈ after.toList, isBlank c = true) (h : ∀ c ∈ s.toList, isBlank c = false) :
    trim (before ++ s ++ after) = s := by
  unfold trim
  rw [String.toList_append, String.toList_append, strip_surround h₁ h₂ h, String.ofList_toList]

theorem trim_of_forall_not {s : String} (h : ∀ c ∈ s.toList, isBlank c = false) : trim s = s := by
  have hempty : trim ("" ++ s ++ "") = s := trim_surround (by simp) (by simp) h
  simpa using hempty

end Text

/-! ### Path segments -/

namespace Text.Percent

/-- A byte other than the percent sign stands for itself. -/
theorem decode_cons_of_ne {b : UInt8} (h : b ≠ 0x25) (rest : Bytes) : decode (b :: rest) = b :: decode rest := by
  match rest with
  | [] => rfl
  | [_] => rfl
  | _ :: _ :: _ => rw [decode, if_neg h]

theorem value?_digit {n : UInt8} (h : n < 16) : value? (digit n) = some n ∧ digit n < 128 := by
  have hall : ∀ k < 16, value? (digit (UInt8.ofNat k)) = some (UInt8.ofNat k) ∧ digit (UInt8.ofNat k) < 128 := by
    decide
  have hn := hall n.toNat (UInt8.lt_iff_toNat_lt.mp h)
  rwa [UInt8.ofNat_toNat] at hn

theorem high_lt (b : UInt8) : b / 16 < 16 := by
  rw [UInt8.lt_iff_toNat_lt, UInt8.toNat_div]
  exact Nat.div_lt_of_lt_mul b.toNat_lt

theorem low_lt (b : UInt8) : b % 16 < 16 := by
  rw [UInt8.lt_iff_toNat_lt, UInt8.toNat_mod]
  exact Nat.mod_lt _ (by decide)

/-- An encoded byte is read back. -/
theorem decode_encodeByte (b : UInt8) (rest : Bytes) : decode (encodeByte b ++ rest) = b :: decode rest := by
  unfold encodeByte
  by_cases hb : isUnreserved b = true
  · have hne : b ≠ 0x25 := by
      rintro rfl
      exact absurd hb (by decide)
    rw [if_pos hb, List.singleton_append, decode_cons_of_ne hne]
  · have hlt := b.toNat_lt
    have hbyte : 16 * (b / 16) + b % 16 = b := by
      rw [← UInt8.toNat_inj, UInt8.toNat_add, UInt8.toNat_mul, UInt8.toNat_div, UInt8.toNat_mod]
      change (16 * (b.toNat / 16) % 2 ^ 8 + b.toNat % 16) % 2 ^ 8 = b.toNat
      omega
    rw [if_neg hb]
    simp only [List.cons_append, List.nil_append]
    rw [decode, if_pos rfl, (value?_digit (high_lt b)).1, (value?_digit (low_lt b)).1]
    simp only [hbyte]

/-- **Reading back**: decoding undoes encoding. -/
theorem decode_encode (b : Bytes) : decode (encode b) = b := by
  induction b with
  | nil => rfl
  | cons x b ih =>
    rw [encode, List.flatMap_cons, decode_encodeByte, ← encode, ih]

theorem encode_ne_nil {b : Bytes} (h : b ≠ []) : encode b ≠ [] := by
  intro hnil
  have hdecode := decode_encode b
  rw [hnil] at hdecode
  exact h hdecode.symm

/-- An encoded text is ASCII. -/
theorem lt_of_mem_encode (b : Bytes) : ∀ x ∈ encode b, x < 128 := by
  intro x hx
  obtain ⟨y, -, hy⟩ := List.mem_flatMap.mp hx
  have hunreserved : ∀ k < 256, isUnreserved (UInt8.ofNat k) = true → UInt8.ofNat k < 128 := by decide +kernel
  unfold encodeByte at hy
  split at hy
  · next h =>
    have hlt := hunreserved y.toNat y.toNat_lt
    rw [UInt8.ofNat_toNat] at hlt
    rw [List.mem_singleton.mp hy]
    exact hlt h
  · simp only [List.mem_cons, List.not_mem_nil, or_false] at hy
    rcases hy with rfl | rfl | rfl
    · decide
    · exact (value?_digit (high_lt y)).2
    · exact (value?_digit (low_lt y)).2

/-- The bytes of an encoded text. -/
theorem utf8_encodeText (s : String) : utf8 (encodeText s) = encode (utf8 s) :=
  utf8_of_bytes (lt_of_mem_encode _)

end Text.Percent

/-! ### Decoding without damage -/

namespace Text

/-- The ranges that a leading byte asks for, in numbers. -/
theorem continuations_ofNat : ∀ n < 256, continuations (UInt8.ofNat n) =
    if n < 0x80 then some []
    else if n < 0xC2 then none
    else if n < 0xE0 then some [(0x80, 0xBF)]
    else if n = 0xE0 then some [(0xA0, 0xBF), (0x80, 0xBF)]
    else if n = 0xED then some [(0x80, 0x9F), (0x80, 0xBF)]
    else if n < 0xF0 then some [(0x80, 0xBF), (0x80, 0xBF)]
    else if n = 0xF0 then some [(0x90, 0xBF), (0x80, 0xBF), (0x80, 0xBF)]
    else if n < 0xF4 then some [(0x80, 0xBF), (0x80, 0xBF), (0x80, 0xBF)]
    else if n = 0xF4 then some [(0x80, 0x8F), (0x80, 0xBF), (0x80, 0xBF)]
    else none := by
  decide +kernel

/-- Bytes that follow the ranges one by one. -/
inductive Follows : List (UInt8 × UInt8) → Bytes → Prop where
  /-- No range is left. -/
  | nil : Follows [] []
  /-- The next byte lies in the next range. -/
  | cons {lo hi b : UInt8} {ranges : List (UInt8 × UInt8)} {tail : Bytes} (hlo : lo ≤ b) (hhi : b ≤ hi)
    (h : Follows ranges tail) : Follows ((lo, hi) :: ranges) (b :: tail)

theorem Follows.length_eq {ranges : List (UInt8 × UInt8)} {tail : Bytes} (h : Follows ranges tail) :
    tail.length = ranges.length := by
  induction h with
  | nil => rfl
  | cons _ _ _ ih => rw [List.length_cons, List.length_cons, ih]

theorem Follows.following_eq {ranges : List (UInt8 × UInt8)} {tail : Bytes} (h : Follows ranges tail) (rest : Bytes) :
    following ranges (tail ++ rest) = tail := by
  induction h with
  | nil => cases rest <;> rfl
  | cons hlo hhi _ ih => rw [List.cons_append, following, if_pos ⟨hlo, hhi⟩, ih]

/-- A leading byte and the bytes it asks for are read as one character. -/
theorem lossyChars_of_follows {lead : UInt8} {tail : Bytes} {ranges : List (UInt8 × UInt8)}
    (hlead : continuations lead = some ranges) (h : Follows ranges tail) (rest : Bytes) :
    lossyChars (lead :: (tail ++ rest)) = assemble lead tail :: lossyChars rest := by
  rw [lossyChars, hlead]
  simp only [h.following_eq, h.length_eq, if_true]
  rw [← h.length_eq, List.drop_left]

/-- One more byte in its range. -/
theorem Follows.ofNat {lo hi : UInt8} {n : Nat} {ranges : List (UInt8 × UInt8)} {tail : Bytes} (hlo : lo.toNat ≤ n)
    (hhi : n ≤ hi.toNat) (h : Follows ranges tail) : Follows ((lo, hi) :: ranges) (UInt8.ofNat n :: tail) := by
  have hn : (UInt8.ofNat n).toNat = n := by
    rw [UInt8.toNat_ofNat']
    exact Nat.mod_eq_of_lt (hhi.trans_lt hi.toNat_lt)
  refine .cons ?_ ?_ h
  · rw [UInt8.le_iff_toNat_le, hn]
    exact hlo
  · rw [UInt8.le_iff_toNat_le, hn]
    exact hhi

/-- The ranges for the second and third byte of a character of three. -/
theorem continuations_three {v : Nat} (hvalid : v.isValidChar) (hlow : 0x800 ≤ v) (hhigh : v < 0x10000) :
    ∃ lo hi : UInt8, continuations (UInt8.ofNat (v / 4096 % 0x10 + 0xE0)) = some [(lo, hi), (0x80, 0xBF)] ∧
      lo.toNat ≤ v / 64 % 0x40 + 0x80 ∧ v / 64 % 0x40 + 0x80 ≤ hi.toNat := by
  have hlead := continuations_ofNat (v / 4096 % 0x10 + 0xE0) (by omega)
  rw [if_neg (by omega), if_neg (by omega), if_neg (by omega)] at hlead
  -- two leading bytes narrow the second: one rules out overlong forms, the other surrogates
  by_cases hfirst : v / 4096 % 0x10 + 0xE0 = 0xE0
  · rw [if_pos hfirst] at hlead
    refine ⟨0xA0, 0xBF, hlead, ?_, ?_⟩
    · change 0xA0 ≤ _
      omega
    · change _ ≤ 0xBF
      omega
  · rw [if_neg hfirst] at hlead
    by_cases hsurrogate : v / 4096 % 0x10 + 0xE0 = 0xED
    · rw [if_pos hsurrogate] at hlead
      refine ⟨0x80, 0x9F, hlead, Nat.le_add_left _ _, ?_⟩
      change _ ≤ 0x9F
      rcases hvalid with h | h <;> omega
    · rw [if_neg hsurrogate, if_pos (by omega)] at hlead
      refine ⟨0x80, 0xBF, hlead, Nat.le_add_left _ _, ?_⟩
      change _ ≤ 0xBF
      omega

/-- The ranges for the second to fourth byte of a character of four. -/
theorem continuations_four {v : Nat} (hlow : 0x10000 ≤ v) (hhigh : v < 0x110000) :
    ∃ lo hi : UInt8, continuations (UInt8.ofNat (v / 262144 % 0x08 + 0xF0)) = some [(lo, hi), (0x80, 0xBF), (0x80, 0xBF)] ∧
      lo.toNat ≤ v / 4096 % 0x40 + 0x80 ∧ v / 4096 % 0x40 + 0x80 ≤ hi.toNat := by
  have hlead := continuations_ofNat (v / 262144 % 0x08 + 0xF0) (by omega)
  rw [if_neg (by omega), if_neg (by omega), if_neg (by omega), if_neg (by omega), if_neg (by omega),
    if_neg (by omega)] at hlead
  by_cases hfirst : v / 262144 % 0x08 + 0xF0 = 0xF0
  · rw [if_pos hfirst] at hlead
    refine ⟨0x90, 0xBF, hlead, ?_, ?_⟩
    · change 0x90 ≤ _
      omega
    · change _ ≤ 0xBF
      omega
  · rw [if_neg hfirst] at hlead
    by_cases hlast : v / 262144 % 0x08 + 0xF0 < 0xF4
    · rw [if_pos hlast] at hlead
      refine ⟨0x80, 0xBF, hlead, Nat.le_add_left _ _, ?_⟩
      change _ ≤ 0xBF
      omega
    · rw [if_neg hlast, if_pos (by omega)] at hlead
      refine ⟨0x80, 0x8F, hlead, Nat.le_add_left _ _, ?_⟩
      change _ ≤ 0x8F
      omega

/-- A byte in the last range of a character. -/
theorem Follows.last (n : Nat) {ranges : List (UInt8 × UInt8)} {tail : Bytes} (h : Follows ranges tail) :
    Follows ((0x80, 0xBF) :: ranges) (UInt8.ofNat (n % 0x40 + 0x80) :: tail) := by
  refine .ofNat (Nat.le_add_left _ _) ?_ h
  change _ ≤ 0xBF
  omega

/-- A character is read back from its bytes. -/
theorem lossyChars_utf8EncodeChar (c : Char) (rest : Bytes) :
    lossyChars (String.utf8EncodeChar c ++ rest) = c :: lossyChars rest := by
  have hback : Char.ofNat c.val.toNat = c := Char.ofNat_toNat c
  have hvalid : c.val.toNat.isValidChar := c.valid
  unfold String.utf8EncodeChar
  generalize c.val.toNat = v at hback hvalid
  have hlt : v < 0x110000 := by
    rcases hvalid with h | h <;> omega
  -- reading one character reads the numbers of its bytes back into its own
  have hread : ∀ {lead : Nat} {tail : Bytes} {ranges : List (UInt8 × UInt8)},
      continuations (UInt8.ofNat lead) = some ranges → Follows ranges tail → assemble (UInt8.ofNat lead) tail = Char.ofNat v →
      lossyChars (UInt8.ofNat lead :: (tail ++ rest)) = c :: lossyChars rest := by
    intro lead tail ranges hlead hfollows hassemble
    rw [lossyChars_of_follows hlead hfollows, hassemble, hback]
  by_cases h₁ : v ≤ 0x7f
  · rw [if_pos h₁]
    have hlead : continuations (UInt8.ofNat v) = some [] := by
      rw [continuations_ofNat v (by omega), if_pos (by omega)]
    refine hread hlead .nil (congrArg Char.ofNat ?_)
    simp only [List.length_nil, List.foldl_nil, UInt8.toNat_ofNat']
    omega
  rw [if_neg h₁]
  by_cases h₂ : v ≤ 0x7ff
  · rw [if_pos h₂]
    have hlead : continuations (UInt8.ofNat (v / 64 % 0x20 + 0xc0)) = some [(0x80, 0xBF)] := by
      rw [continuations_ofNat _ (by omega), if_neg (by omega), if_neg (by omega), if_pos (by omega)]
    refine hread hlead (.last v .nil) (congrArg Char.ofNat ?_)
    simp only [List.length_cons, List.length_nil, List.foldl_cons, List.foldl_nil, UInt8.toNat_ofNat']
    omega
  rw [if_neg h₂]
  by_cases h₃ : v ≤ 0xffff
  · rw [if_pos h₃]
    obtain ⟨lo, hi, hlead, hlo, hhi⟩ := continuations_three hvalid (by omega) (by omega)
    refine hread hlead (.ofNat hlo hhi (.last v .nil)) (congrArg Char.ofNat ?_)
    simp only [List.length_cons, List.length_nil, List.foldl_cons, List.foldl_nil, UInt8.toNat_ofNat']
    omega
  · rw [if_neg h₃]
    obtain ⟨lo, hi, hlead, hlo, hhi⟩ := continuations_four (by omega) hlt
    refine hread hlead (.ofNat hlo hhi (.last (v / 64) (.last v .nil))) (congrArg Char.ofNat ?_)
    simp only [List.length_cons, List.length_nil, List.foldl_cons, List.foldl_nil, UInt8.toNat_ofNat']
    omega

/-- **Reading back**: the bytes of a text decode to it. -/
theorem lossy_utf8 (s : String) : lossy (utf8 s) = s := by
  have hchars : ∀ l : List Char, lossyChars (l.flatMap String.utf8EncodeChar) = l := by
    intro l
    induction l with
    | nil => rw [List.flatMap_nil, lossyChars]
    | cons c l ih => rw [List.flatMap_cons, lossyChars_utf8EncodeChar, ih]
  rw [lossy, utf8_eq_flatMap, hchars, String.ofList_toList]

end Text

/-! ### Plain characters -/

/-- The characters of key names are ASCII, and none of them is a slash. -/
theorem KeyName.toNat_of_isLater {c : Char} (h : isLater c = true) : 45 ≤ c.toNat ∧ c.toNat ≤ 122 ∧ c.toNat ≠ 47 := by
  simp only [isLater, isAlphanumeric, Bool.or_eq_true, Bool.and_eq_true, decide_eq_true_eq, beq_iff_eq] at h
  rcases h with ((((h | h) | h) | rfl) | rfl) | rfl
  · have hlo : 65 ≤ c.toNat := h.1
    have hhi : c.toNat ≤ 90 := h.2
    omega
  · have hlo : 97 ≤ c.toNat := h.1
    have hhi : c.toNat ≤ 122 := h.2
    omega
  · have hlo : 48 ≤ c.toNat := h.1
    have hhi : c.toNat ≤ 57 := h.2
    omega
  all_goals decide

theorem KeyName.ne_of_isLater {c d : Char} (h : isLater c = true) (hd : isLater d = false) : c ≠ d := by
  rintro rfl
  rw [h] at hd
  cases hd

/-- A text of such characters has as many bytes. -/
theorem utf8ByteSize_of_isLater {s : String} (h : ∀ c ∈ s.toList, KeyName.isLater c = true) :
    s.utf8ByteSize = s.toList.length := by
  have hascii : ∀ c ∈ s.toList, c.toNat < 128 := fun c hc => by
    have := KeyName.toNat_of_isLater (h c hc)
    omega
  rw [← length_utf8, utf8_of_ascii hascii, List.length_map]

namespace Bytes

theorem isLater_hexDigit : ∀ n < 16, KeyName.isLater (hexDigit n) = true := by
  decide

theorem isLater_of_mem_toHex (b : Bytes) : ∀ c ∈ (toHex b).toList, KeyName.isLater c = true := by
  intro c hc
  rw [toHex, String.toList_ofList, List.mem_flatMap] at hc
  obtain ⟨x, -, hx⟩ := hc
  have hlt := x.toNat_lt
  simp only [List.mem_cons, List.not_mem_nil, or_false] at hx
  rcases hx with rfl | rfl
  · exact isLater_hexDigit _ (by omega)
  · exact isLater_hexDigit _ (by omega)

theorem length_toHex (b : Bytes) : (toHex b).toList.length = 2 * b.length := by
  rw [toHex, String.toList_ofList]
  induction b with
  | nil => rfl
  | cons x b ih =>
    rw [List.flatMap_cons, List.length_append, ih]
    simp only [List.length_cons, List.length_nil]
    omega

end Bytes

namespace Uuid

theorem length_stamp (b : Bytes) : (stamp b).length = b.length := by
  rw [stamp, List.length_modify, List.length_modify]

/-- The digits of an identifier. -/
theorem isLater_of_mem_simple (b : Bytes) : ∀ c ∈ (simple b).toList, KeyName.isLater c = true :=
  Bytes.isLater_of_mem_toHex _

theorem utf8ByteSize_simple {b : Bytes} (h : b.length = 16) : (simple b).utf8ByteSize = 32 := by
  rw [utf8ByteSize_of_isLater (isLater_of_mem_simple b), simple, Bytes.length_toHex, length_stamp, h]

/-- An identifier is its five groups and the hyphens between them. -/
theorem hyphenated_eq (b : Bytes) :
    hyphenated b = Bytes.toHex ((stamp b).take 4) ++ "-" ++ Bytes.toHex (((stamp b).drop 4).take 2) ++ "-" ++
      Bytes.toHex (((stamp b).drop 6).take 2) ++ "-" ++ Bytes.toHex (((stamp b).drop 8).take 2) ++ "-" ++
      Bytes.toHex ((stamp b).drop 10) := by
  simp only [hyphenated, String.intercalate_cons_cons, String.intercalate_singleton, String.append_assoc]

theorem isLater_of_mem_hyphenated (b : Bytes) : ∀ c ∈ (hyphenated b).toList, KeyName.isLater c = true := by
  have hjoin : ∀ {s : String} (b : Bytes), (∀ c ∈ s.toList, KeyName.isLater c = true) →
      ∀ c ∈ (s ++ "-" ++ Bytes.toHex b).toList, KeyName.isLater c = true := by
    intro s b hs c hc
    rw [String.toList_append, String.toList_append, List.mem_append, List.mem_append] at hc
    obtain (hc | hc) | hc := hc
    · exact hs c hc
    · rw [List.mem_singleton.mp hc]
      decide
    · exact Bytes.isLater_of_mem_toHex b c hc
  rw [hyphenated_eq]
  exact hjoin _ (hjoin _ (hjoin _ (hjoin _ (Bytes.isLater_of_mem_toHex _))))

theorem length_hyphenated {b : Bytes} (h : b.length = 16) : (utf8 (hyphenated b)).length = 36 := by
  have hhyphen : "-".toList.length = 1 := rfl
  rw [length_utf8, utf8ByteSize_of_isLater (isLater_of_mem_hyphenated b), hyphenated_eq]
  simp only [String.toList_append, List.length_append, Bytes.length_toHex, List.length_take, List.length_drop, length_stamp,
    h, hhyphen]
  omega

end Uuid

end SealedDrop
