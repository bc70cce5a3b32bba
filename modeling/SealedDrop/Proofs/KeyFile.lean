import SealedDrop.Proofs.Base64
import SealedDrop.Proofs.Der
import SealedDrop.Proofs.Secret

/-!
# Reading back key files

A labelled block is read back as the bytes it was written from, and a file with the numbers of a usable private key as that
key.

## The model

The lines of a block are full but for the last (`exists_lines`), and no symbol is a line end, so that the line ends in a block
are those that were written between the lines. No text holds blocks under two labels (`decode?_eq_none_of_decode?`), so that no file
holds two kinds of key.
-/

namespace SealedDrop

namespace Pem

variable {b : Bytes}

/-! ### Lines -/

/-- Blocks put together again. -/
theorem flatten_blocks (size : Nat) (b : Bytes) : (b.blocks size).flatten = b := by
  fun_induction Bytes.blocks size b with
  | case1 b rest h hb => simpa using hb.symm
  | case2 b rest h hb => simp
  | case3 b rest h ih => rw [List.flatten_cons, ih, List.take_append_drop]

/-- Bytes without a line end at the back keep their end. -/
theorem dropLastEol?_eq_none {l : Bytes} {c : UInt8} (h : c ≠ 0x0A ∧ c ≠ 0x0D) : dropLastEol? (l ++ [c]) = none := by
  unfold dropLastEol?
  rw [List.reverse_append, List.reverse_singleton, List.singleton_append]
  obtain ⟨hlf, hcr⟩ := h
  split
  · next heq => exact absurd (List.cons.inj heq).1 hlf
  · next heq => exact absurd (List.cons.inj heq).1 hlf
  · next heq => exact absurd (List.cons.inj heq).1 hcr
  · rfl

/-- A line feed at the back is removed, unless a carriage return stands before it. -/
theorem dropLastEol?_append {l : Bytes} {c : UInt8} (h : c ≠ 0x0D) : dropLastEol? (l ++ [c] ++ [0x0A]) = some (l ++ [c]) := by
  unfold dropLastEol?
  rw [List.reverse_append, List.reverse_singleton, List.singleton_append, List.reverse_append, List.reverse_singleton,
    List.singleton_append]
  split
  · next heq => exact absurd (List.cons.inj (List.cons.inj heq).2).1 h
  · next heq =>
    obtain rfl := (List.cons.inj heq).2
    rw [List.reverse_cons, List.reverse_reverse]
  · next heq => cases (List.cons.inj heq).1
  · next hlf _ => exact absurd rfl (hlf _)

/-- No block is empty. -/
theorem ne_nil_of_mem_blocks (b : Bytes) : ∀ line ∈ b.blocks lineWidth, line ≠ [] := by
  fun_induction Bytes.blocks lineWidth b with
  | case1 b rest h hb => simp
  | case2 b rest h hb =>
    intro line hline
    rw [List.mem_singleton.mp hline]
    simpa using hb
  | case3 b rest h ih =>
    intro line hline
    rcases List.mem_cons.mp hline with rfl | hline
    · intro hnil
      rw [List.take_eq_nil_iff] at hnil
      rcases hnil with hnil | rfl
      · cases hnil
      · exact h (.inr rfl)
    · exact ih line hline

/-- **Lines**: the lines that were written are read back, if there is any and none has a line end of its own. -/
theorem exists_lines (hb : b ≠ []) (h : ∀ c ∈ b, c ≠ 0x0A ∧ c ≠ 0x0D) :
    ∃ l c, (b.blocks lineWidth).flatMap (· ++ [0x0A]) = l ++ [c] ++ [0x0A] ∧ c ∈ b ∧
      lines? (l ++ [c]) = some (b.blocks lineWidth) := by
  fun_induction Bytes.blocks lineWidth b with
  | case1 b rest hlast hempty => exact absurd (List.isEmpty_iff.mp hempty) hb
  | case2 b rest hlast hempty =>
    have hshort : b.length ≤ lineWidth := by
      rcases hlast with hzero | hrest
      · cases hzero
      · exact List.drop_eq_nil_iff.mp (List.isEmpty_iff.mp hrest)
    have hsplit : b.dropLast ++ [b.getLast hb] = b := List.dropLast_concat_getLast hb
    have hmem : b.getLast hb ∈ b := List.getLast_mem hb
    have hnone : dropLastEol? b = none := by
      rw [← hsplit]
      exact dropLastEol?_eq_none (h _ hmem)
    refine ⟨b.dropLast, b.getLast hb, ?_, hmem, ?_⟩
    · rw [hsplit, List.flatMap_singleton]
    · rw [hsplit, lines?, if_pos hshort, hnone, if_neg (by simpa using hb)]
      rfl
  | case3 b rest hmore ih =>
    rw [not_or] at hmore
    have hrest : b.drop lineWidth ≠ [] := fun hnil => hmore.2 (List.isEmpty_iff.mpr hnil)
    obtain ⟨l, c, hflat, hc, hlines⟩ := ih hrest fun c hc => h c (List.mem_of_mem_drop hc)
    have hlong : lineWidth < b.length := by
      by_contra hle
      exact hrest (List.drop_eq_nil_of_le (Nat.not_lt.mp hle))
    have hwidth : (b.take lineWidth).length = lineWidth := by
      rw [List.length_take]
      omega
    refine ⟨b.take lineWidth ++ 0x0A :: l, c, ?_, List.mem_of_mem_drop hc, ?_⟩
    · rw [List.flatMap_cons, hflat]
      simp only [List.append_assoc, List.nil_append, List.cons_append]
    · have hbody : b.take lineWidth ++ 0x0A :: l ++ [c] = b.take lineWidth ++ 0x0A :: (l ++ [c]) := by
        rw [List.append_assoc, List.cons_append]
      have hdrop : (b.take lineWidth ++ 0x0A :: (l ++ [c])).drop lineWidth = 0x0A :: (l ++ [c]) :=
        List.drop_left' hwidth
      have htake : (b.take lineWidth ++ 0x0A :: (l ++ [c])).take lineWidth = b.take lineWidth := List.take_left' hwidth
      have htoo : ¬ (b.take lineWidth ++ 0x0A :: (l ++ [c])).length ≤ lineWidth := by
        rw [List.length_append, List.length_cons, hwidth]
        omega
      rw [hbody, lines?, if_neg htoo]
      split
      · next hnone =>
        rw [hdrop] at hnone
        cases hnone
      · next tail hsome =>
        rw [hdrop] at hsome
        cases hsome
        rw [hlines, htake]
        rfl

/-! ### Blocks with a label -/

/-- Some symbols stand for some bytes. -/
theorem encode_ne_nil (hb : b ≠ []) : Base64.encode .standard b ≠ [] := by
  intro hnil
  have hdecode := Base64.decode_encode .standard b
  rw [hnil] at hdecode
  cases hdecode
  exact hb rfl

/-- No symbol is a line end. -/
theorem ne_eol_of_mem_encode (b : Bytes) : ∀ c ∈ Base64.encode .standard b, c ≠ 0x0A ∧ c ≠ 0x0D := by
  have hsymbol : ∀ n < 64, Base64.Alphabet.standard.symbol n ≠ 0x0A ∧ Base64.Alphabet.standard.symbol n ≠ 0x0D := by
    decide
  intro c hc
  obtain rfl | ⟨n, hn, rfl⟩ := Base64.eq_of_mem_encode .standard b c hc
  · decide
  · exact hsymbol n hn

theorem decodeLines?_blocks (hb : b ≠ []) : decodeLines? ((Base64.encode .standard b).blocks lineWidth) = some b := by
  cases hlast : ((Base64.encode .standard b).blocks lineWidth).getLast? with
  | none =>
    rw [List.getLast?_eq_none_iff] at hlast
    have hflat := flatten_blocks lineWidth (Base64.encode .standard b)
    rw [hlast] at hflat
    exact absurd hflat.symm (encode_ne_nil hb)
  | some last =>
    have hfull : last.isEmpty = false := by
      have hmem := ne_nil_of_mem_blocks _ last (List.mem_of_getLast? hlast)
      simpa using hmem
    unfold decodeLines?
    simp only [bind, Option.bind, hlast, hfull, flatten_blocks, Base64.decode_encode, Bool.false_eq_true, false_and, if_false]
    rfl

/-- **Reading back**: a block is read as the bytes it was written from. -/
theorem decode?_encode (label : String) (hb : b ≠ []) : decode? label (encode label b) = some b := by
  obtain ⟨l, c, hbody, hc, hlines⟩ := exists_lines (encode_ne_nil hb) (ne_eol_of_mem_encode b)
  set body := ((Base64.encode .standard b).blocks lineWidth).flatMap (· ++ [0x0A]) with hbodyDef
  obtain ⟨y, hclosing⟩ : ∃ y, closing label = y ++ [0x2D] :=
    ⟨utf8 ("-----END " ++ label ++ "----"), by
      rw [closing, utf8_append, utf8_append ("-----END " ++ label), List.append_assoc]
      rfl⟩
  obtain ⟨z, hopening⟩ : ∃ z, opening label = utf8 "-----BEGIN " ++ z :=
    ⟨utf8 (label ++ "-----"), by rw [opening, String.append_assoc, utf8_append]⟩
  have hencode : encode label b = opening label ++ 0x0A :: (body ++ closing label ++ [0x0A]) := by
    simp only [encode, ← hbodyDef, List.cons_append, List.append_assoc]
  have hpreamble : dropPreamble? (utf8 "-----BEGIN ") (encode label b) = some (encode label b) := by
    have hprefix : (utf8 "-----BEGIN ").isPrefixOf (encode label b) = true := by
      rw [hencode, hopening, List.append_assoc]
      exact List.isPrefixOf_iff_prefix.mpr (List.prefix_append _ _)
    rw [dropPreamble?, if_pos hprefix]
  have hstart : Bytes.dropStart? (opening label) (encode label b) = some (0x0A :: (body ++ closing label ++ [0x0A])) := by
    rw [hencode, Bytes.dropStart?, if_pos (List.isPrefixOf_iff_prefix.mpr (List.prefix_append _ _)), List.drop_left]
  have heol : dropLastEol? (body ++ closing label ++ [0x0A]) = some (body ++ closing label) := by
    rw [hclosing, ← List.append_assoc]
    exact dropLastEol?_append (by decide)
  have hend : Bytes.dropEnd? (closing label) (body ++ closing label) = some body := by
    rw [Bytes.dropEnd?, List.reverse_append, Bytes.dropStart?,
      if_pos (List.isPrefixOf_iff_prefix.mpr (List.prefix_append _ _)), List.drop_left, Option.map_some, List.reverse_reverse]
  have hlast : dropLastEol? body = some (l ++ [c]) := by
    rw [hbody]
    exact dropLastEol?_append (ne_eol_of_mem_encode b c hc).2
  have hfirst : dropEol? (0x0A :: (body ++ closing label ++ [0x0A])) = some (body ++ closing label ++ [0x0A]) := rfl
  unfold decode?
  simp only [bind, Option.bind, hpreamble, hstart, hfirst, heol, Option.getD_some, hend, hlast, hlines, decodeLines?_blocks hb]

/-- A block is text. -/
theorem isSome_text?_encode (label : String) (b : Bytes) : (text? (encode label b)).isSome = true := by
  set body := 0x0A :: ((Base64.encode .standard b).blocks lineWidth).flatMap (· ++ [0x0A]) with hbody
  have hascii : ∀ c ∈ body, c < 128 := by
    intro c hc
    rw [hbody, List.mem_cons, List.mem_flatMap] at hc
    rcases hc with rfl | ⟨line, hline, hc⟩
    · decide
    · rcases List.mem_append.mp hc with hc | hc
      · refine Base64.lt_of_mem_encode .standard b c ?_
        rw [← flatten_blocks lineWidth (Base64.encode .standard b)]
        exact List.mem_flatten_of_mem hline hc
      · rw [List.mem_singleton.mp hc]
        decide
  have htext : encode label b = utf8 ("-----BEGIN " ++ label ++ "-----" ++
      String.ofList (body.map fun x => Char.ofNat x.toNat) ++ ("-----END " ++ label ++ "-----") ++ "\n") := by
    rw [utf8_append, utf8_append _ ("-----END " ++ label ++ "-----"), utf8_append _ (String.ofList _), utf8_of_bytes hascii]
    rfl
  rw [htext, text?_utf8]
  rfl

/-! ### Labels -/

section Labels

variable {label label' : String} {text : Bytes}

/-- What is read as a block under a label has an opening boundary with this label. -/
theorem exists_of_decode? (h : decode? label text = some b) :
    ∃ start, dropPreamble? (utf8 "-----BEGIN ") text = some start ∧ opening label <+: start := by
  obtain ⟨start, hstart, h⟩ := Option.bind_eq_some_iff.mp h
  obtain ⟨rest, hrest, -⟩ := Option.bind_eq_some_iff.mp h
  obtain ⟨hopening, -⟩ := Option.ite_none_right_eq_some.mp hrest
  exact ⟨start, hstart, List.isPrefixOf_iff_prefix.mp hopening⟩

/-- **One label**: no text holds blocks under two labels, if neither opening boundary begins the other one. -/
theorem decode?_eq_none_of_decode? (hlabels : ¬ opening label <+: opening label') (hlabels' : ¬ opening label' <+: opening label)
    (h : decode? label text = some b) : decode? label' text = none := by
  rw [Option.eq_none_iff_forall_ne_some]
  intro b' h'
  obtain ⟨start, hstart, hopening⟩ := exists_of_decode? h
  obtain ⟨start', hstart', hopening'⟩ := exists_of_decode? h'
  rw [hstart] at hstart'
  cases hstart'
  exact (List.prefix_or_prefix_of_prefix hopening hopening').elim hlabels hlabels'

end Labels

end Pem

namespace KeyFile

variable {contents file : Bytes} {k : Rsa.PrivateKey} {key : Rsa.PublicKey}

/-! ### What is read -/

/-- A private key is its numbers in a block, and three numbers that readers ignore. -/
theorem privateKey?_eq_some_iff : privateKey? contents = some k ↔ ∃ x y z, Pem.decode? privateLabel contents =
      some (Der.sequence [0, k.toPublic.modulus, k.toPublic.exponent, k.exponent, k.p, k.q, x, y, z]) ∧
    ([0, k.toPublic.modulus, k.toPublic.exponent, k.exponent, k.p, k.q, x, y, z].flatMap Der.integer).length < Der.lengthLimit ∧
    k.IsUsable := by
  constructor
  · intro h
    obtain ⟨document, hdocument, h⟩ := Option.bind_eq_some_iff.mp h
    obtain ⟨l, hl, h⟩ := Option.bind_eq_some_iff.mp h
    split at h
    · next version modulus exponent d p q x y z =>
      obtain ⟨⟨rfl, husable⟩, hk⟩ := Option.ite_none_right_eq_some.mp h
      cases hk
      obtain ⟨rfl, hlength⟩ := Der.eq_of_sequence? hl
      exact ⟨x, y, z, hdocument, hlength, husable⟩
    · cases h
  · rintro ⟨x, y, z, hdocument, hlength, husable⟩
    have hsequence : Der.sequence? 9 (Der.sequence _) = some _ := Der.sequence?_sequence hlength
    unfold privateKey?
    rw [hdocument]
    change (Der.sequence? 9 _).bind _ = _
    rw [hsequence]
    exact if_pos ⟨rfl, husable⟩

/-- A public key is its numbers in a block. -/
theorem publicKey?_eq_some_iff : publicKey? contents = some key ↔
    Pem.decode? publicLabel contents = some (Der.sequence [key.modulus, key.exponent]) ∧
    ([key.modulus, key.exponent].flatMap Der.integer).length < Der.lengthLimit ∧ key.IsUsable ∧
    Rsa.bitLength key.modulus ≤ Rsa.PublicKey.modulusLimit := by
  constructor
  · intro h
    obtain ⟨document, hdocument, h⟩ := Option.bind_eq_some_iff.mp h
    obtain ⟨l, hl, h⟩ := Option.bind_eq_some_iff.mp h
    split at h
    · obtain ⟨husable, hkey⟩ := Option.ite_none_right_eq_some.mp h
      cases hkey
      obtain ⟨rfl, hlength⟩ := Der.eq_of_sequence? hl
      exact ⟨hdocument, hlength, husable⟩
    · cases h
  · rintro ⟨hdocument, hlength, husable⟩
    have hsequence : Der.sequence? 2 (Der.sequence _) = some _ := Der.sequence?_sequence hlength
    unfold publicKey?
    rw [hdocument]
    change (Der.sequence? 2 _).bind _ = _
    rw [hsequence]
    exact if_pos husable

theorem readPrivate_eq_ok_iff : readPrivate contents = .ok k ↔ (text? contents).isSome = true ∧ privateKey? contents = some k := by
  rw [readPrivate_eq]
  cases htext : text? contents <;> cases hkey : privateKey? contents <;> simp

theorem readPublic_eq_ok_iff : readPublic contents = .ok key ↔ (text? contents).isSome = true ∧ publicKey? contents = some key := by
  rw [readPublic_eq]
  cases htext : text? contents <;> cases hkey : publicKey? contents <;> simp

theorem usable_of_readPrivate (h : readPrivate contents = .ok k) : k.IsUsable := by
  obtain ⟨-, -, -, -, -, -, husable⟩ := (readPrivate_eq_ok_iff.trans (and_congr_right' privateKey?_eq_some_iff)).mp h
  exact husable

/-! ### Reading back -/

/-- **Reading back**: a file with the numbers of a usable private key holds that key, whatever the three numbers are that
readers ignore. -/
theorem readPrivate_encode {k : Rsa.PrivateKey} (hk : k.IsUsable) {x y z : Nat}
    (hsize : ([0, k.toPublic.modulus, k.toPublic.exponent, k.exponent, k.p, k.q, x, y, z].flatMap Der.integer).length <
      Der.lengthLimit) :
    readPrivate (Pem.encode privateLabel
      (Der.sequence [0, k.toPublic.modulus, k.toPublic.exponent, k.exponent, k.p, k.q, x, y, z])) = .ok k :=
  readPrivate_eq_ok_iff.mpr ⟨Pem.isSome_text?_encode _ _,
    privateKey?_eq_some_iff.mpr ⟨x, y, z, Pem.decode?_encode _ (Der.sequence_ne_nil _), hsize, hk⟩⟩

/-- The file of a usable public key that is not too long holds that key. -/
theorem readPublic_publicText {k : Rsa.PublicKey} (hk : k.IsUsable) (hmodulus : Rsa.bitLength k.modulus ≤ Rsa.PublicKey.modulusLimit)
    (hsize : ([k.modulus, k.exponent].flatMap Der.integer).length < Der.lengthLimit) : readPublic (publicText k) = .ok k :=
  readPublic_eq_ok_iff.mpr ⟨Pem.isSome_text?_encode _ _,
    publicKey?_eq_some_iff.mpr ⟨Pem.decode?_encode _ (Der.sequence_ne_nil _), hsize, hk, hmodulus⟩⟩

/-- The file that a usable private key is written to holds that key. -/
theorem readPrivate_privateText (hk : k.IsUsable) (h : privateText k = .ok file) : readPrivate file = .ok k := by
  unfold privateText at h
  cases hl : privateIntegers? k with
  | none =>
    rw [hl] at h
    cases h
  | some l =>
    simp only [hl] at h
    obtain ⟨coefficient, -, rfl⟩ := Option.map_eq_some_iff.mp hl
    split at h
    · cases h
    · next hshort =>
      cases h
      exact readPrivate_encode hk (lt_trans (Der.length_lt_length_value _ _) (Nat.not_le.mp hshort))

/-- **One kind**: no file holds both a private key and a public one. -/
theorem readPublic_ne_of_readPrivate (h : readPrivate contents = .ok k) (key : Rsa.PublicKey) : readPublic contents ≠ .ok key := by
  intro h'
  obtain ⟨-, hkey⟩ := readPrivate_eq_ok_iff.mp h
  obtain ⟨-, hkey'⟩ := readPublic_eq_ok_iff.mp h'
  obtain ⟨x, y, z, hdocument, -⟩ := privateKey?_eq_some_iff.mp hkey
  obtain ⟨hdocument', -⟩ := publicKey?_eq_some_iff.mp hkey'
  rw [Pem.decode?_eq_none_of_decode? (by decide) (by decide) hdocument] at hdocument'
  cases hdocument'

end KeyFile

end SealedDrop
