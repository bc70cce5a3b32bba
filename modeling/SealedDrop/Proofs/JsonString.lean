import SealedDrop.Json.Writer
import SealedDrop.Proofs.Bytes

/-!
# Reading back strings in JSON

The JSON text of any string denotes that string.

## The model

A byte is plain (`IsPlain`) if it stands for itself in a JSON string. Each character is written as plain bytes or as one escape
(`escapeBytes_cases`). The pass over the bytes collects what is written
for a character and does nothing else (`foldlM_step_escapeBytes`), and unescaping turns it into the bytes of the character
(`unescape?_escapeBytes`). Both facts are carried from characters to strings by induction.
-/

namespace SealedDrop.Json

/-! ### Plain bytes -/

/-- A byte that stands for itself in a string: no quotation mark, no backslash and no control code. -/
def IsPlain (b : UInt8) : Prop :=
  b ≠ 0x22 ∧ b ≠ 0x5C ∧ ¬ b < 0x20

/-- A plain byte is added to the string that is being read. -/
theorem step_plain {b : UInt8} (h : IsPlain b) (tokens : List Token) (rev : Bytes) :
    Lexer.step ⟨tokens, .string rev .outside⟩ b = some ⟨tokens, .string (b :: rev) .outside⟩ := by
  obtain ⟨hquote, hbackslash, hcontrol⟩ := h
  unfold Lexer.step
  simp only [if_neg hquote, if_neg hbackslash, if_neg hcontrol]

/-- So is a run of them. -/
theorem foldlM_step_plain {b : Bytes} (h : ∀ x ∈ b, IsPlain x) (tokens : List Token) (rev : Bytes) :
    b.foldlM Lexer.step ⟨tokens, .string rev .outside⟩ = some ⟨tokens, .string (b.reverse ++ rev) .outside⟩ := by
  induction b generalizing rev with
  | nil => rfl
  | cons x b ih =>
    rw [List.foldlM_cons, step_plain (h x List.mem_cons_self)]
    refine (ih (fun y hy => h y (List.mem_cons_of_mem x hy)) (x :: rev)).trans ?_
    rw [List.reverse_cons, List.append_assoc, List.singleton_append]

/-- Nothing is replaced in a run of plain bytes, and each byte is one step. -/
theorem unescape?_append {b : Bytes} (h : ∀ x ∈ b, IsPlain x) (fuel : Nat) (rev rest : Bytes) :
    unescape? (b.length + fuel) rev (b ++ rest) = unescape? fuel (b.reverse ++ rev) rest := by
  induction b generalizing rev with
  | nil => simp
  | cons x b ih =>
    rw [List.length_cons, Nat.add_right_comm, List.cons_append, unescape?, if_neg (h x List.mem_cons_self).2.1,
      ih (fun y hy => h y (List.mem_cons_of_mem x hy)), List.reverse_cons, List.append_assoc, List.singleton_append]

/-! ### Characters -/

/-- The bytes of the escaped spelling of a character. -/
def escapeBytes (c : Char) : Bytes :=
  (escapeChar c).flatMap String.utf8EncodeChar

/-- A character that needs no escape is written as plain bytes. -/
theorem isPlain_of_mem_utf8EncodeChar {c : Char} (hquote : c ≠ '"') (hbackslash : c ≠ '\\') (hcontrol : ¬ c.toNat < 0x20) :
    ∀ x ∈ String.utf8EncodeChar c, IsPlain x := by
  intro x hx
  by_cases hascii : c.toNat < 128
  · rw [utf8EncodeChar_of_lt hascii, List.mem_singleton] at hx
    have hnum : x.toNat = c.toNat := by
      rw [hx, UInt8.toNat_ofNat']
      omega
    refine ⟨?_, ?_, ?_⟩
    · rintro rfl
      exact hquote (Char.toNat_inj.mp hnum.symm)
    · rintro rfl
      exact hbackslash (Char.toNat_inj.mp hnum.symm)
    · rw [UInt8.lt_iff_toNat_lt, hnum]
      exact hcontrol
  · have hle := UInt8.le_iff_toNat_le.mp (le_of_mem_utf8EncodeChar (Nat.le_of_not_lt hascii) x hx)
    change 128 ≤ x.toNat at hle
    refine ⟨?_, ?_, ?_⟩
    · rintro rfl
      exact absurd hle (by decide)
    · rintro rfl
      exact absurd hle (by decide)
    · rw [UInt8.lt_iff_toNat_lt]
      exact Nat.not_lt.mpr (Nat.le_trans (by decide) hle)

/-- Four hexadecimal digits stand for the character with their number. -/
theorem escaped?_hexQuad {a b c d : UInt8} {n : Nat} (h : hexQuad? a b c d = some n) (hn : n < 0xD800) (rest : Bytes) :
    escaped? (0x75 :: a :: b :: c :: d :: rest) = some (utf8 (String.singleton (Char.ofNat n)), rest) := by
  unfold escaped?
  simp only [h, bind, Option.bind]
  rw [if_neg (by omega), if_neg (by omega)]

/-- The two last hexadecimal digits of the number of a control character. -/
theorem hexDigits_control : ∀ n < 0x20,
    isHexDigit (UInt8.ofNat (Bytes.hexDigit (n / 16)).toNat) = true ∧
      isHexDigit (UInt8.ofNat (Bytes.hexDigit (n % 16)).toNat) = true ∧
      hexQuad? 0x30 0x30 (UInt8.ofNat (Bytes.hexDigit (n / 16)).toNat) (UInt8.ofNat (Bytes.hexDigit (n % 16)).toNat) =
        some n := by
  decide

/-- A control character without a letter of its own is written with the digits of its number. -/
theorem escapeBytes_control : ∀ n < 0x20, n ∉ [0x08, 0x0C, 0x0A, 0x0D, 0x09] →
    escapeBytes (Char.ofNat n) = [0x5C, 0x75, 0x30, 0x30, UInt8.ofNat (Bytes.hexDigit (n / 16)).toNat,
      UInt8.ofNat (Bytes.hexDigit (n % 16)).toNat] := by
  decide

/-- How a character is written: as itself, as a backslash with one symbol, or as a backslash with four hexadecimal digits. -/
theorem escapeBytes_cases (c : Char) :
    (escapeBytes c = String.utf8EncodeChar c ∧ ∀ x ∈ String.utf8EncodeChar c, IsPlain x) ∨
    (∃ symbol, escapeBytes c = [0x5C, symbol] ∧ symbol ∈ utf8 "\"\\/bfnrt" ∧
      ∀ rest, escaped? (symbol :: rest) = some (String.utf8EncodeChar c, rest)) ∨
    (∃ high low, escapeBytes c = [0x5C, 0x75, 0x30, 0x30, high, low] ∧ isHexDigit high = true ∧ isHexDigit low = true ∧
      ∀ rest, escaped? (0x75 :: 0x30 :: 0x30 :: high :: low :: rest) = some (String.utf8EncodeChar c, rest)) := by
  by_cases hquote : c = '"'
  · subst hquote
    exact .inr (.inl ⟨0x22, by decide, by decide, fun _ => rfl⟩)
  by_cases hbackslash : c = '\\'
  · subst hbackslash
    exact .inr (.inl ⟨0x5C, by decide, by decide, fun _ => rfl⟩)
  by_cases hcontrol : c.toNat < 0x20
  · have hc : Char.ofNat c.toNat = c := Char.ofNat_toNat c
    by_cases hletter : c.toNat ∈ [0x08, 0x0C, 0x0A, 0x0D, 0x09]
    · simp only [List.mem_cons, List.not_mem_nil, or_false] at hletter
      rcases hletter with h | h | h | h | h <;> rw [← hc, h]
      · exact .inr (.inl ⟨0x62, by decide, by decide, fun _ => rfl⟩)
      · exact .inr (.inl ⟨0x66, by decide, by decide, fun _ => rfl⟩)
      · exact .inr (.inl ⟨0x6E, by decide, by decide, fun _ => rfl⟩)
      · exact .inr (.inl ⟨0x72, by decide, by decide, fun _ => rfl⟩)
      · exact .inr (.inl ⟨0x74, by decide, by decide, fun _ => rfl⟩)
    · obtain ⟨hhigh, hlow, hquad⟩ := hexDigits_control c.toNat hcontrol
      have hbytes := escapeBytes_control c.toNat hcontrol hletter
      rw [hc] at hbytes
      refine .inr (.inr ⟨_, _, hbytes, hhigh, hlow, fun rest => ?_⟩)
      rw [escaped?_hexQuad hquad (by omega), hc, utf8_eq_flatMap]
      simp
  · refine .inl ⟨?_, isPlain_of_mem_utf8EncodeChar hquote hbackslash hcontrol⟩
    have hother : ∀ d : Char, d.toNat < 0x20 → c ≠ d := by
      rintro d hd rfl
      exact hcontrol hd
    have hself : escapeChar c = [c] := by
      rw [escapeChar, if_neg hquote, if_neg hbackslash, if_neg (hother _ (by decide)), if_neg (hother _ (by decide)),
        if_neg (hother _ (by decide)), if_neg (hother _ (by decide)), if_neg (hother _ (by decide)), if_neg hcontrol]
    rw [escapeBytes, hself, List.flatMap_cons, List.flatMap_nil, List.append_nil]

/-- The pass over the bytes collects what is written for a character. -/
theorem foldlM_step_escapeBytes (c : Char) (tokens : List Token) (rev : Bytes) :
    (escapeBytes c).foldlM Lexer.step ⟨tokens, .string rev .outside⟩ =
      some ⟨tokens, .string ((escapeBytes c).reverse ++ rev) .outside⟩ := by
  have hopen : ∀ rev, Lexer.step ⟨tokens, .string rev .outside⟩ 0x5C = some ⟨tokens, .string (0x5C :: rev) .opened⟩ :=
    fun _ => rfl
  obtain ⟨hself, hplain⟩ | ⟨symbol, hbytes, hsymbol, -⟩ | ⟨high, low, hbytes, hhigh, hlow, -⟩ := escapeBytes_cases c
  · rw [hself]
    exact foldlM_step_plain hplain tokens rev
  · have hclose : ∀ b ∈ utf8 "\"\\/bfnrt", ∀ rev, Lexer.step ⟨tokens, .string rev .opened⟩ b =
        some ⟨tokens, .string (b :: rev) .outside⟩ := by
      intro b hb rev
      have hne : b ≠ 0x75 := by
        rintro rfl
        exact absurd hb (by decide)
      unfold Lexer.step
      simp only [if_neg hne, List.contains_iff_mem.mpr hb, if_true]
    rw [hbytes, List.foldlM_cons, hopen]
    change List.foldlM Lexer.step _ [symbol] = _
    rw [List.foldlM_cons, hclose symbol hsymbol]
    rfl
  · have hdigit : ∀ {b : UInt8}, isHexDigit b = true → ∀ rev more,
        Lexer.step ⟨tokens, .string rev (.hex (more + 1))⟩ b = some ⟨tokens, .string (b :: rev) (.hex more)⟩ ∧
        Lexer.step ⟨tokens, .string rev (.hex 0)⟩ b = some ⟨tokens, .string (b :: rev) .outside⟩ := by
      intro b hb rev more
      unfold Lexer.step
      simp only [hb, if_true, and_self]
    have hzero : isHexDigit 0x30 = true := by decide
    have hunicode : ∀ rev, Lexer.step ⟨tokens, .string rev .opened⟩ 0x75 = some ⟨tokens, .string (0x75 :: rev) (.hex 3)⟩ :=
      fun _ => rfl
    rw [hbytes]
    simp only [List.foldlM_cons, List.foldlM_nil, hopen, hunicode, bind, Option.bind, (hdigit hzero _ _).1,
      (hdigit hhigh _ _).1, (hdigit hlow _ 0).2]
    rfl

/-- What is written for a character is turned back into its bytes; an escape takes less fuel than it has bytes. -/
theorem unescape?_escapeBytes (c : Char) {rest : Bytes} {fuel : Nat} (hfuel : (escapeBytes c ++ rest).length ≤ fuel)
    (rev : Bytes) :
    ∃ fuel', rest.length ≤ fuel' ∧
      unescape? fuel rev (escapeBytes c ++ rest) = unescape? fuel' ((String.utf8EncodeChar c).reverse ++ rev) rest := by
  rw [List.length_append] at hfuel
  have hescape : ∀ {tail : Bytes}, (∃ digits, tail = digits ++ rest ∧ escapeBytes c = 0x5C :: digits) →
      escaped? tail = some (String.utf8EncodeChar c, rest) → ∃ fuel', rest.length ≤ fuel' ∧
        unescape? fuel rev (0x5C :: tail) = unescape? fuel' ((String.utf8EncodeChar c).reverse ++ rev) rest := by
    rintro tail ⟨digits, rfl, hbytes⟩ hescaped
    rw [hbytes, List.length_cons] at hfuel
    obtain ⟨fuel, rfl⟩ : ∃ k, fuel = k + 1 := ⟨fuel - 1, by omega⟩
    refine ⟨fuel, by omega, ?_⟩
    rw [unescape?, if_pos rfl, hescaped]
    rfl
  obtain ⟨hself, hplain⟩ | ⟨symbol, hbytes, -, hescaped⟩ | ⟨high, low, hbytes, -, -, hescaped⟩ := escapeBytes_cases c
  · rw [hself] at hfuel ⊢
    obtain ⟨fuel', rfl⟩ := Nat.exists_eq_add_of_le (Nat.le_trans (Nat.le_add_right _ _) hfuel)
    exact ⟨fuel', by omega, unescape?_append hplain fuel' rev rest⟩
  · rw [hbytes]
    exact hescape ⟨[symbol], rfl, hbytes⟩ (hescaped rest)
  · rw [hbytes]
    exact hescape ⟨[0x75, 0x30, 0x30, high, low], rfl, hbytes⟩ (hescaped rest)

/-! ### Strings -/

variable (s : String)

/-- The bytes between the quotation marks. -/
def escapedText : Bytes :=
  s.toList.flatMap escapeBytes

theorem utf8_quote : utf8 (quote s) = 0x22 :: (escapedText s ++ [0x22]) := by
  rw [utf8_eq_flatMap, quote, String.toList_ofList, List.cons_append, List.flatMap_cons, List.flatMap_append,
    List.flatMap_assoc]
  rfl

/-- The pass over the bytes adds one string to the tokens before it. -/
theorem foldlM_step_quote (tokens : List Token) :
    (utf8 (quote s)).foldlM Lexer.step ⟨tokens, .nothing⟩ = some ⟨.string (escapedText s) :: tokens, .nothing⟩ := by
  have hrun : ∀ (l : List Char) (rev : Bytes), (l.flatMap escapeBytes).foldlM Lexer.step ⟨tokens, .string rev .outside⟩ =
      some ⟨tokens, .string ((l.flatMap escapeBytes).reverse ++ rev) .outside⟩ := by
    intro l
    induction l with
    | nil => exact fun _ => rfl
    | cons c l ih =>
      intro rev
      rw [List.flatMap_cons, List.foldlM_append, foldlM_step_escapeBytes]
      refine (ih _).trans ?_
      rw [List.reverse_append, List.append_assoc]
  rw [utf8_quote]
  change (escapedText s ++ [0x22]).foldlM Lexer.step ⟨tokens, .string [] .outside⟩ = _
  rw [List.foldlM_append, escapedText, hrun, List.append_nil, ← escapedText]
  change some (Lexer.mk (.string (escapedText s).reverse.reverse :: tokens) .nothing) = _
  rw [List.reverse_reverse]

theorem tokens?_quote : tokens? (utf8 (quote s)) = some [.string (escapedText s)] := by
  unfold tokens?
  rw [foldlM_step_quote]
  rfl

/-- What is between the quotation marks stands for the text. -/
theorem decodeString?_escapedText : decodeString? (escapedText s) = some s := by
  have hrun : ∀ (l : List Char) (fuel : Nat) (rev : Bytes), (l.flatMap escapeBytes).length ≤ fuel →
      unescape? fuel rev (l.flatMap escapeBytes) = some (rev.reverse ++ l.flatMap String.utf8EncodeChar) := by
    intro l
    induction l with
    | nil =>
      intro fuel rev _
      rw [List.flatMap_nil, unescape?, List.flatMap_nil, List.append_nil]
    | cons c l ih =>
      intro fuel rev hfuel
      rw [List.flatMap_cons] at hfuel ⊢
      obtain ⟨fuel', hfuel', hread⟩ := unescape?_escapeBytes c hfuel rev
      rw [hread, ih fuel' _ hfuel', List.reverse_append, List.reverse_reverse, List.flatMap_cons, List.append_assoc]
  unfold decodeString?
  rw [escapedText, hrun s.toList _ [] (le_refl _), List.reverse_nil, List.nil_append, ← utf8_eq_flatMap]
  exact text?_utf8 s

/-- **Reading back**: the JSON text of a string denotes the string. -/
theorem Value.parse?_quote : Value.parse? (quote s) = some (.string s) := by
  have htree : Tree.parse? (utf8 (quote s)) = some (.string (escapedText s)) := by
    rw [Tree.parse?, tokens?_quote]
    rfl
  rw [Value.parse?, htree]
  change Value.ofTree? (.string (escapedText s)) = _
  rw [Value.ofTree?, decodeString?_escapedText]
  rfl

end SealedDrop.Json
