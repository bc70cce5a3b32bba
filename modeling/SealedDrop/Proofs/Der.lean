import SealedDrop.Der
import SealedDrop.Proofs.Bytes

/-!
# Reading back distinguished encoding

A sequence of integers is read back as these integers, as long as its contents are not too long for the readers
(`sequence?_sequence`), and nothing else is read as a sequence of integers (`eq_of_sequence?`, `eq_of_sequence_eq`).
-/

namespace SealedDrop

namespace Der

variable {n n' : Nat} {tag : UInt8} {contents contents' b rest : Bytes} {l l' : List Nat}

/-- A length is split off. -/
theorem length?_length (h : n < lengthLimit) (rest : Bytes) : length? (length n ++ rest) = some (n, rest) := by
  have hlimit : n < 2 ^ 28 := h
  unfold length
  by_cases hshort : n < 128
  · have hbyte : (UInt8.ofNat n).toNat = n := by
      rw [UInt8.toNat_ofNat']
      omega
    have hlt : UInt8.ofNat n < 0x80 := by
      rw [UInt8.lt_iff_toNat_lt, hbyte]
      exact hshort
    rw [if_pos hshort, List.singleton_append, length?, if_pos hlt, hbyte]
  · have hpos : 0 < Bytes.widthOf n := Bytes.widthOf_pos (by omega)
    have hle : Bytes.widthOf n ≤ 4 := Bytes.widthOf_le (by omega)
    have hbyte : (UInt8.ofNat (128 + Bytes.widthOf n)).toNat = 128 + Bytes.widthOf n := by
      rw [UInt8.toNat_ofNat']
      omega
    have hlt : ¬ UInt8.ofNat (128 + Bytes.widthOf n) < 0x80 := by
      rw [UInt8.lt_iff_toNat_lt, hbyte]
      exact Nat.not_lt.mpr (Nat.le_add_right _ _)
    have hlength : (Bytes.ofNat n).length = Bytes.widthOf n := Bytes.length_ofNat n
    have htake : (Bytes.ofNat n ++ rest).take (Bytes.widthOf n) = Bytes.ofNat n := by
      rw [← hlength, List.take_left]
    have hdrop : (Bytes.ofNat n ++ rest).drop (Bytes.widthOf n) = rest := by
      rw [← hlength, List.drop_left]
    rw [if_neg hshort, List.cons_append, length?, if_neg hlt]
    simp only [hbyte, Nat.add_sub_cancel_left, htake, hdrop, hlength, Bytes.toNat_ofNat]
    rw [if_pos ⟨hpos, hle, trivial, trivial, by omega, h⟩]

/-- A value is split off. -/
theorem value?_value (h : contents.length < lengthLimit) (rest : Bytes) :
    value? tag (value tag contents ++ rest) = some (contents, rest) := by
  have hshort : ¬ (contents ++ rest).length < contents.length := by
    rw [List.length_append]
    omega
  unfold value
  rw [List.cons_append, List.cons_append, List.append_assoc, value?, if_neg (not_not_intro rfl)]
  simp only [bind, Option.bind, pure, length?_length h, if_neg hshort, List.take_left, List.drop_left]

/-- The contents of an integer denote it. -/
theorem integerContents?_integerContents (n : Nat) : integerContents? (integerContents n) = some n := by
  have hvalue : Bytes.toNat (integerContents n) = n := by
    have hn := Bytes.toNat_ofNat n
    unfold integerContents
    cases hdigits : Bytes.ofNat n with
    | nil =>
      rw [hdigits] at hn
      exact hn
    | cons b rest =>
      rw [hdigits] at hn
      simp only
      split
      · exact hn
      · rw [Bytes.toNat_cons, hn]
        simp
  rw [integerContents?, hvalue, if_pos rfl]

theorem integer?_integer (h : (integerContents n).length < lengthLimit) (rest : Bytes) :
    integer? (integer n ++ rest) = some (n, rest) := by
  unfold integer? integer
  simp only [bind, Option.bind, pure, value?_value h, integerContents?_integerContents]

/-- The contents of a value are shorter than its encoding. -/
theorem length_lt_length_value (tag : UInt8) (contents : Bytes) : contents.length < (value tag contents).length := by
  rw [value, List.cons_append, List.length_cons, List.length_append]
  omega

/-- Integers are read back in order. -/
theorem integers?_flatMap (h : (l.flatMap integer).length < lengthLimit) :
    integers? l.length (l.flatMap integer) = some l := by
  induction l with
  | nil => rfl
  | cons n l ih =>
    have hlength : (integerContents n).length < (integer n).length := length_lt_length_value _ _
    rw [List.flatMap_cons, List.length_append] at h
    rw [List.flatMap_cons, List.length_cons, integers?]
    simp only [bind, Option.bind, pure, integer?_integer (n := n) (by omega), ih (by omega)]

theorem sequence_ne_nil (l : List Nat) : sequence l ≠ [] := List.cons_ne_nil _ _

/-- **Reading back**: a sequence of integers is read as these integers. -/
theorem sequence?_sequence (h : (l.flatMap integer).length < lengthLimit) :
    sequence? l.length (sequence l) = some l := by
  have hvalue : value? sequenceTag (value sequenceTag (l.flatMap integer) ++ []) = some (l.flatMap integer, []) :=
    value?_value h []
  rw [List.append_nil] at hvalue
  unfold sequence? sequence
  simp only [bind, Option.bind, hvalue, List.isEmpty_nil, if_true, integers?_flatMap h]

/-! ### Nothing else is read -/

/-- What is split off as a length is its encoding, and no length is at or beyond the limit. -/
theorem eq_of_length? (h : length? b = some (n, rest)) : b = length n ++ rest ∧ n < lengthLimit := by
  cases b with
  | nil => cases h
  | cons c tail =>
    rw [length?] at h
    by_cases hshort : c < 0x80
    · have hc : c.toNat < 128 := UInt8.lt_iff_toNat_lt.mp hshort
      rw [if_pos hshort] at h
      cases h
      rw [length, if_pos hc, UInt8.ofNat_toNat]
      exact ⟨rfl, hc.trans (by decide)⟩
    · have hc : 128 ≤ c.toNat := Nat.not_lt.mp fun hc => hshort (UInt8.lt_iff_toNat_lt.mpr hc)
      rw [if_neg hshort] at h
      simp only [ite_eq_iff, reduceCtorEq, and_false, or_false, Option.some.injEq, Prod.mk.injEq] at h
      obtain ⟨⟨-, -, hcount, hdigits, hlong, hlimit⟩, hn, hrest⟩ := h
      rw [hn] at hdigits hlong hlimit
      have hwidth : Bytes.widthOf n = c.toNat - 128 := by
        rw [← Bytes.length_ofNat, hdigits, hcount]
      have hfirst : UInt8.ofNat (128 + Bytes.widthOf n) = c := by
        rw [hwidth, Nat.add_sub_cancel' hc, UInt8.ofNat_toNat]
      rw [length, if_neg (Nat.not_lt.mpr hlong), hfirst, hdigits, ← hrest, List.cons_append, List.take_append_drop]
      exact ⟨rfl, hlimit⟩

/-- What is split off as a value is its encoding. -/
theorem eq_of_value? (h : value? tag b = some (contents, rest)) :
    b = value tag contents ++ rest ∧ contents.length < lengthLimit := by
  cases b with
  | nil => cases h
  | cons c tail =>
    rw [value?] at h
    by_cases htag : c = tag
    swap
    · rw [if_pos htag] at h
      cases h
    subst htag
    rw [if_neg (not_not_intro rfl)] at h
    obtain ⟨⟨n, tail'⟩, hlength, hsplit⟩ := Option.bind_eq_some_iff.mp h
    obtain ⟨rfl, hlimit⟩ := eq_of_length? hlength
    by_cases hshort : tail'.length < n
    · simp only [if_pos hshort] at hsplit
      cases hsplit
    · simp only [if_neg hshort] at hsplit
      cases hsplit
      have hwhole : (tail'.take n).length = n := List.length_take_of_le (Nat.not_lt.mp hshort)
      rw [value, hwhole, List.cons_append, List.cons_append, List.append_assoc, List.take_append_drop]
      exact ⟨rfl, hlimit⟩

/-- What is split off as an integer is its encoding. -/
theorem eq_of_integer? (h : integer? b = some (n, rest)) : b = integer n ++ rest := by
  obtain ⟨⟨contents, tail⟩, hvalue, h⟩ := Option.bind_eq_some_iff.mp h
  obtain ⟨n', hcontents, h⟩ := Option.bind_eq_some_iff.mp h
  cases h
  obtain ⟨hshape, hn⟩ := Option.ite_none_right_eq_some.mp hcontents
  cases hn
  rw [(eq_of_value? hvalue).1, integer, hshape]

/-- What is read as integers is their encodings. -/
theorem eq_of_integers? {count : Nat} (h : integers? count b = some l) : b = l.flatMap integer := by
  induction count generalizing b l with
  | zero =>
    obtain ⟨hempty, hl⟩ := Option.ite_none_right_eq_some.mp h
    cases hl
    exact List.isEmpty_iff.mp hempty
  | succ count ih =>
    obtain ⟨⟨n, rest⟩, hn, h⟩ := Option.bind_eq_some_iff.mp h
    obtain ⟨l', hl', h⟩ := Option.bind_eq_some_iff.mp h
    cases h
    rw [eq_of_integer? hn, ih hl', List.flatMap_cons]

/-- **One encoding**: what is read as a sequence of integers is its encoding, and not too long. -/
theorem eq_of_sequence? {count : Nat} (h : sequence? count b = some l) :
    b = sequence l ∧ (l.flatMap integer).length < lengthLimit := by
  obtain ⟨⟨contents, rest⟩, hvalue, h⟩ := Option.bind_eq_some_iff.mp h
  obtain ⟨hrest, hl⟩ := Option.ite_none_right_eq_some.mp h
  obtain ⟨rfl, hlimit⟩ := eq_of_value? hvalue
  obtain rfl := eq_of_integers? hl
  obtain rfl := List.isEmpty_iff.mp hrest
  exact ⟨List.append_nil _, hlimit⟩

/-! ### The size of an encoding -/

theorem length_length (n : Nat) : (length n).length = if n < 128 then 1 else Bytes.widthOf n + 1 := by
  unfold length
  split
  · rfl
  · rw [List.length_cons, Bytes.length_ofNat]

theorem length_length_le (h : n ≤ n') : (length n).length ≤ (length n').length := by
  have hwidth : Bytes.widthOf n ≤ Bytes.widthOf n' := Bytes.widthOf_le (h.trans_lt (Bytes.lt_pow_widthOf n'))
  rw [length_length, length_length]
  split <;> split <;> omega

theorem length_value (tag : UInt8) (contents : Bytes) :
    (value tag contents).length = contents.length + (length contents.length).length + 1 := by
  simp only [value, List.length_append, List.length_cons]
  omega

theorem length_value_le {size : Nat} (h : contents.length ≤ size) :
    (value tag contents).length ≤ size + (length size).length + 1 := by
  rw [length_value]
  exact Nat.succ_le_succ (Nat.add_le_add h (length_length_le h))

/-- Longer contents have a longer encoding. -/
theorem length_value_lt (h : contents.length < contents'.length) : (value tag contents).length < (value tag contents').length := by
  rw [length_value, length_value]
  exact Nat.succ_lt_succ (Nat.add_lt_add_of_lt_of_le h (length_length_le h.le))

/-- An encoding that can be read is the encoding of nothing else. -/
theorem eq_of_sequence_eq (h : sequence l = sequence l') (hcount : l.length = l'.length)
    (hsize : (l'.flatMap integer).length < lengthLimit) : l = l' := by
  have hsame : (l.flatMap integer).length = (l'.flatMap integer).length := by
    by_contra hne
    rcases Nat.lt_or_gt_of_ne hne with hlt | hlt
    · exact (length_value_lt hlt).ne (congrArg List.length h)
    · exact (length_value_lt hlt).ne (congrArg List.length h.symm)
  have hread := sequence?_sequence (l := l) (hsame ▸ hsize)
  rw [h, hcount, sequence?_sequence hsize] at hread
  exact (Option.some.inj hread).symm

theorem length_integerContents_le (n : Nat) : (integerContents n).length ≤ Bytes.widthOf n + 1 := by
  have hwidth := Bytes.length_ofNat n
  unfold integerContents
  cases hn : Bytes.ofNat n with
  | nil => simp
  | cons c rest =>
    rw [hn] at hwidth
    dsimp only
    split <;> simp only [List.length_cons] at hwidth ⊢ <;> omega

/-- The encoding of an integer of few bytes has few more. -/
theorem length_integer_le {width : Nat} (h : Bytes.widthOf n ≤ width) :
    (integer n).length ≤ width + 2 + (length (width + 1)).length := by
  have hcontents : (integerContents n).length ≤ width + 1 :=
    (length_integerContents_le n).trans (Nat.add_le_add_right h 1)
  have hvalue : (integer n).length ≤ width + 1 + (length (width + 1)).length + 1 := length_value_le hcontents
  omega

/-- So have those of several. -/
theorem length_flatMap_integer_le {width : Nat} (h : ∀ n ∈ l, Bytes.widthOf n ≤ width) :
    (l.flatMap integer).length ≤ l.length * (width + 2 + (length (width + 1)).length) := by
  induction l with
  | nil => simp
  | cons n l ih =>
    obtain ⟨hn, hl⟩ := List.forall_mem_cons.mp h
    rw [List.flatMap_cons, List.length_append, List.length_cons, Nat.succ_mul, Nat.add_comm]
    exact Nat.add_le_add (ih hl) (length_integer_le hn)

end Der

end SealedDrop
