import SealedDrop.Base64
import SealedDrop.Proofs.Bytes
import SealedDrop.Text.Blank

/-!
# Reading back base64

What `Base64.encode` writes, `Base64.decode` reads back, in either alphabet, and it reads nothing else: a text that is decoded
is the one spelling of the bytes that come out.
-/

namespace SealedDrop

/-- What a computation in two steps gives, the steps give. -/
theorem exists_of_bind_eq_ok {ε α β : Type} {x : Except ε α} {f : α → Except ε β} {r : β} (h : (x >>= f) = .ok r) :
    ∃ y, x = .ok y ∧ f y = .ok r := by
  cases x with
  | error e => cases h
  | ok y => exact ⟨y, rfl, h⟩

namespace Base64

variable {a : Alphabet}

/-! ### Symbols -/

/-- The symbols of an alphabet stand for different numbers, and none is the padding or outside ASCII. -/
theorem value?_symbol (a : Alphabet) : ∀ n < 64, a.value? (a.symbol n) = some n ∧ a.symbol n ≠ pad ∧ a.symbol n < 128 := by
  cases a <;> decide

/-- The symbols of the last group are read one by one. -/
theorem lastSymbols_symbol {n : Nat} (h : n < 64) (offset place : Nat) (rest : Bytes) :
    lastSymbols a offset place none (a.symbol n :: rest) =
      (lastSymbols a offset (place + 1) none rest).map fun (numbers, pads) => (n :: numbers, pads) := by
  obtain ⟨hvalue, hpad, -⟩ := value?_symbol a n h
  rw [lastSymbols, if_neg hpad, symbolAt, hvalue]
  rfl

/-- Padding is counted from the third place on. -/
theorem lastSymbols_pad {place : Nat} (h : 2 ≤ place) (offset : Nat) (padding : Option Nat) (rest : Bytes) :
    lastSymbols a offset place padding (pad :: rest) =
      (lastSymbols a offset (place + 1) (some (padding.getD place)) rest).map
        fun (numbers, pads) => (numbers, pads + 1) := by
  rw [lastSymbols.eq_def]
  simp only [if_true, if_neg (Nat.not_lt.mpr h)]
  rfl

/-- Three bytes from four symbols. -/
theorem ofNatWidth_three (x y z : UInt8) :
    Bytes.ofNatWidth 3 ((x.toNat * 256 + y.toNat) * 256 + z.toNat) = [x, y, z] := by
  have h := Bytes.ofNatWidth_toNat [x, y, z]
  rw [← h]
  congr 1
  simp only [Bytes.toNat, List.foldl_cons, List.foldl_nil]
  omega

theorem ofNatWidth_two (x y : UInt8) : Bytes.ofNatWidth 2 (x.toNat * 256 + y.toNat) = [x, y] := by
  have h := Bytes.ofNatWidth_toNat [x, y]
  rw [← h]
  congr 1
  simp only [Bytes.toNat, List.foldl_cons, List.foldl_nil]
  omega

/-! ### Groups -/

/-- A last group is decoded from the number that its symbols spell, if the spare bits are zero. -/
theorem decodeLast_of_lastSymbols (count : Nat) {offset pads number : Nat} {group : Bytes} {numbers : List Nat}
    (h : lastSymbols a offset 0 none group = .ok (numbers, pads)) (hlength : numbers.length = count) (hcount : 2 ≤ count)
    (hpads : (count + pads) % 4 = 0) (hnumber : numbers.foldl (fun n x => 64 * n + x) 0 = number)
    (hspare : number % Nat.pow 2 (count * 6 - count * 6 / 8 * 8) = 0) :
    decodeLast a offset group =
      .ok (Bytes.ofNatWidth (count * 6 / 8) (number / Nat.pow 2 (count * 6 - count * 6 / 8 * 8))) := by
  subst hlength hnumber
  unfold decodeLast
  rw [h]
  simp only [bind, Except.bind, Nat.not_lt.mpr hcount, and_false, if_false, hpads, hspare, ne_eq, not_true_eq_false]
  rfl

/-- A last group of three bytes. -/
theorem decodeLast_encode_three (a : Alphabet) (offset : Nat) (x y z : UInt8) :
    decodeLast a offset (encode a [x, y, z]) = .ok [x, y, z] := by
  have hx := x.toNat_lt
  have hy := y.toNat_lt
  have hz := z.toNat_lt
  simp only [encode]
  generalize hn : (x.toNat * 256 + y.toNat) * 256 + z.toNat = n
  have h : lastSymbols a offset 0 none
      [a.symbol (n / 262144), a.symbol (n / 4096 % 64), a.symbol (n / 64 % 64), a.symbol (n % 64)] =
        .ok ([n / 262144, n / 4096 % 64, n / 64 % 64, n % 64], 0) := by
    rw [lastSymbols_symbol (by omega), lastSymbols_symbol (by omega), lastSymbols_symbol (by omega),
      lastSymbols_symbol (by omega)]
    rfl
  have hnumber : [n / 262144, n / 4096 % 64, n / 64 % 64, n % 64].foldl (fun n x => 64 * n + x) 0 = n := by
    simp only [List.foldl_cons, List.foldl_nil]
    omega
  rw [decodeLast_of_lastSymbols 4 h rfl (by decide) (by decide) hnumber (Nat.mod_one _), ← ofNatWidth_three x y z, hn]
  exact congrArg (fun n => Except.ok (Bytes.ofNatWidth 3 n)) (Nat.div_one n)

/-- A last group of two bytes. -/
theorem decodeLast_encode_two (a : Alphabet) (offset : Nat) (x y : UInt8) :
    decodeLast a offset (encode a [x, y]) = .ok [x, y] := by
  have hx := x.toNat_lt
  have hy := y.toNat_lt
  simp only [encode]
  generalize hn : (x.toNat * 256 + y.toNat) * 4 = n
  have h : lastSymbols a offset 0 none [a.symbol (n / 4096), a.symbol (n / 64 % 64), a.symbol (n % 64), pad] =
      .ok ([n / 4096, n / 64 % 64, n % 64], 1) := by
    rw [lastSymbols_symbol (by omega), lastSymbols_symbol (by omega), lastSymbols_symbol (by omega),
      lastSymbols_pad (by decide)]
    rfl
  have hnumber : [n / 4096, n / 64 % 64, n % 64].foldl (fun n x => 64 * n + x) 0 = n := by
    simp only [List.foldl_cons, List.foldl_nil]
    omega
  have hspare : n % 4 = 0 := by omega
  rw [decodeLast_of_lastSymbols 3 h rfl (by decide) (by decide) hnumber hspare, ← ofNatWidth_two x y]
  change Except.ok (Bytes.ofNatWidth 2 (n / 4)) = _
  rw [← hn, Nat.mul_div_cancel _ (by decide)]

/-- A last group of one byte. -/
theorem decodeLast_encode_one (a : Alphabet) (offset : Nat) (x : UInt8) :
    decodeLast a offset (encode a [x]) = .ok [x] := by
  have hx := x.toNat_lt
  simp only [encode]
  generalize hn : x.toNat * 16 = n
  have h : lastSymbols a offset 0 none [a.symbol (n / 64), a.symbol (n % 64), pad, pad] =
      .ok ([n / 64, n % 64], 2) := by
    rw [lastSymbols_symbol (by omega), lastSymbols_symbol (by omega), lastSymbols_pad (by decide),
      lastSymbols_pad (by decide)]
    rfl
  have hnumber : [n / 64, n % 64].foldl (fun n x => 64 * n + x) 0 = n := by
    simp only [List.foldl_cons, List.foldl_nil]
    omega
  have hspare : n % 16 = 0 := by omega
  rw [decodeLast_of_lastSymbols 2 h rfl (by decide) (by decide) hnumber hspare]
  change Except.ok (Bytes.ofNatWidth 1 (n / 16)) = _
  rw [← hn, Nat.mul_div_cancel _ (by decide), ← Bytes.toNat_singleton]
  exact congrArg Except.ok (Bytes.ofNatWidth_toNat [x])

/-! ### Whole texts -/

theorem length_encode (a : Alphabet) (b : Bytes) : (encode a b).length = (b.length + 2) / 3 * 4 := by
  fun_induction encode a b with
  | case1 => rfl
  | case2 => simp
  | case3 => simp
  | case4 x y z rest n ih =>
    simp only [List.length_cons, ih]
    omega

/-- All groups are decoded, wherever they stand. -/
theorem decodeGroups_encode (a : Alphabet) (b : Bytes) (offset : Nat) : decodeGroups a offset (encode a b) = .ok b := by
  fun_induction encode a b generalizing offset with
  | case1 => rfl
  | case2 x => exact decodeLast_encode_one a offset x
  | case3 x y => exact decodeLast_encode_two a offset x y
  | case4 x y z rest n ih =>
    cases rest with
    | nil => exact decodeLast_encode_three a offset x y z
    | cons u rest =>
      have hlength := length_encode a (u :: rest)
      have hx := x.toNat_lt
      have hy := y.toNat_lt
      have hz := z.toNat_lt
      have hsymbol : ∀ {k offset}, k < 64 → symbolAt a offset (a.symbol k) = .ok k := by
        intro k offset hk
        rw [symbolAt, (value?_symbol a k hk).1]
      obtain ⟨v, more, hmore⟩ := List.exists_cons_of_length_pos (l := encode a (u :: rest)) (by
        rw [hlength, List.length_cons]
        omega)
      rw [hmore] at ih ⊢
      rw [decodeGroups, hsymbol (by omega), hsymbol (by omega), hsymbol (by omega), hsymbol (by omega)]
      simp only [bind, Except.bind, ih]
      have hnumber : ((n / 262144 * 64 + n / 4096 % 64) * 64 + n / 64 % 64) * 64 + n % 64 = n := by omega
      rw [hnumber, ofNatWidth_three]
      rfl

/-- **Reading back**: decoding undoes encoding. -/
theorem decode_encode (a : Alphabet) (b : Bytes) : decode a (encode a b) = .ok b := by
  have hlength := length_encode a b
  have hstray : strayLast? a (encode a b) = none := by
    rw [strayLast?, if_neg (by omega)]
  rw [decode, hstray]
  exact decodeGroups_encode a b 0

/-! ### Canonical texts -/

/-- A byte that has a number is the symbol of that number. -/
theorem symbol_of_value? {b : UInt8} {n : Nat} (h : a.value? b = some n) : n < 64 ∧ a.symbol n = b := by
  have hall : ∀ k < 256, (a.value? (UInt8.ofNat k)).all fun n => n < 64 ∧ a.symbol n = UInt8.ofNat k := by
    cases a <;> decide +kernel
  have hb := hall b.toNat b.toNat_lt
  rw [UInt8.ofNat_toNat, h] at hb
  simpa using hb

theorem symbol_of_symbolAt {offset n : Nat} {b : UInt8} (h : symbolAt a offset b = .ok n) : n < 64 ∧ a.symbol n = b := by
  unfold symbolAt at h
  split at h
  · next m hm =>
    cases h
    exact symbol_of_value? hm
  · cases h

/-- The last group consists of the symbols that are read from it and of its padding; behind padding there are no symbols. -/
theorem eq_of_lastSymbols {offset place pads : Nat} {padding : Option Nat} {group : Bytes} {numbers : List Nat}
    (h : lastSymbols a offset place padding group = .ok (numbers, pads)) :
    (∀ n ∈ numbers, n < 64) ∧ group = numbers.map a.symbol ++ List.replicate pads pad ∧
      (padding ≠ none → numbers = []) := by
  induction group generalizing place padding numbers pads with
  | nil =>
    cases h
    exact ⟨by simp, rfl, fun _ => rfl⟩
  | cons b rest ih =>
    rw [lastSymbols.eq_def] at h
    by_cases hb : b = pad
    · simp only [if_pos hb] at h
      by_cases hplace : place < 2
      · rw [if_pos hplace] at h
        cases h
      rw [if_neg hplace] at h
      obtain ⟨found, hrest, h⟩ := exists_of_bind_eq_ok h
      cases h
      obtain ⟨-, hgroup, hnone⟩ := ih hrest
      rw [hnone (by simp)] at hgroup ⊢
      refine ⟨by simp, ?_, fun _ => rfl⟩
      rw [hb, hgroup]
      rfl
    · simp only [if_neg hb] at h
      cases padding with
      | some start => cases h
      | none =>
        obtain ⟨n, hsymbol, h⟩ := exists_of_bind_eq_ok h
        obtain ⟨found, hrest, h⟩ := exists_of_bind_eq_ok h
        cases h
        obtain ⟨hlt, hgroup, -⟩ := ih hrest
        obtain ⟨hn, rfl⟩ := symbol_of_symbolAt hsymbol
        refine ⟨List.forall_mem_cons.mpr ⟨hn, hlt⟩, ?_, fun hne => absurd rfl hne⟩
        rw [hgroup]
        rfl

/-- What a last group must be to be decoded. -/
theorem decodeLast_eq_ok {offset : Nat} {group d : Bytes} (h : decodeLast a offset group = .ok d) :
    ∃ numbers pads, lastSymbols a offset 0 none group = .ok (numbers, pads) ∧ (group ≠ [] → 2 ≤ numbers.length) ∧
      (numbers.length + pads) % 4 = 0 ∧
      numbers.foldl (fun n x => 64 * n + x) 0 % Nat.pow 2 (numbers.length * 6 - numbers.length * 6 / 8 * 8) = 0 ∧
      d = Bytes.ofNatWidth (numbers.length * 6 / 8)
        (numbers.foldl (fun n x => 64 * n + x) 0 / Nat.pow 2 (numbers.length * 6 - numbers.length * 6 / 8 * 8)) := by
  unfold decodeLast at h
  obtain ⟨⟨numbers, pads⟩, hread, h⟩ := exists_of_bind_eq_ok h
  simp only [bind, Except.bind] at h
  split at h
  · cases h
  next hcount =>
  split at h
  · cases h
  next hpads =>
  split at h
  · cases h
  next hspare =>
  cases h
  exact ⟨numbers, pads, hread, fun hne => by
    by_contra hlt
    exact hcount ⟨hne, by omega⟩, by omega, by omega, rfl⟩

/-- The symbols of three bytes, from the number that they denote. -/
theorem encode_ofNatWidth_three {n : Nat} (h : n < 2 ^ 24) (rest : Bytes) :
    encode a (Bytes.ofNatWidth 3 n ++ rest) =
      a.symbol (n / 262144) :: a.symbol (n / 4096 % 64) :: a.symbol (n / 64 % 64) :: a.symbol (n % 64) :: encode a rest := by
  have hnumber : ((n / 256 / 256 % 256 * 256 + n / 256 % 256) * 256 + n % 256) = n := by omega
  change encode a (UInt8.ofNat (n / 256 / 256) :: UInt8.ofNat (n / 256) :: UInt8.ofNat n :: rest) = _
  simp only [encode, UInt8.toNat_ofNat', Nat.reducePow, hnumber]

theorem encode_ofNatWidth_two {n : Nat} (h : n < 2 ^ 16) :
    encode a (Bytes.ofNatWidth 2 n) = [a.symbol (n * 4 / 4096), a.symbol (n * 4 / 64 % 64), a.symbol (n * 4 % 64), pad] := by
  have hnumber : n / 256 % 256 * 256 + n % 256 = n := by omega
  change encode a [UInt8.ofNat (n / 256), UInt8.ofNat n] = _
  simp only [encode, UInt8.toNat_ofNat', Nat.reducePow, hnumber]

theorem encode_ofNatWidth_one {n : Nat} (h : n < 2 ^ 8) :
    encode a (Bytes.ofNatWidth 1 n) = [a.symbol (n * 16 / 64), a.symbol (n * 16 % 64), pad, pad] := by
  have hnumber : n % 256 = n := by omega
  change encode a [UInt8.ofNat n] = _
  simp only [encode, UInt8.toNat_ofNat', Nat.reducePow, hnumber]

/-- A last group that is decoded is what the decoded bytes are encoded as. -/
theorem eq_encode_of_decodeLast {offset : Nat} {group d : Bytes} (hlength : group.length ≤ 4)
    (h : decodeLast a offset group = .ok d) : group = encode a d := by
  obtain ⟨numbers, pads, hread, hcount, hpads, hspare, rfl⟩ := decodeLast_eq_ok h
  obtain ⟨hlt, rfl, -⟩ := eq_of_lastSymbols hread
  rw [List.length_append, List.length_map, List.length_replicate] at hlength
  match numbers, hlt with
  | [], _ =>
    have hnone : pads = 0 := by
      by_contra hne
      have := hcount (by simp [hne])
      simp at this
    subst hnone
    rfl
  | [n], _ =>
    have := hcount (by simp)
    simp at this
  | [n₁, n₂], hlt =>
    obtain rfl : pads = 2 := by
      simp only [List.length_cons, List.length_nil] at hpads hlength
      omega
    simp only [List.forall_mem_cons] at hlt
    simp only [List.foldl_cons, List.foldl_nil, List.length_cons, List.length_nil, Nat.pow_eq, Nat.reduceAdd, Nat.reduceMul,
      Nat.reduceDiv, Nat.reduceSub, Nat.reducePow] at hspare ⊢
    rw [encode_ofNatWidth_one (by omega), Nat.div_mul_cancel (Nat.dvd_of_mod_eq_zero hspare)]
    change [a.symbol n₁, a.symbol n₂, pad, pad] = _
    rw [show (64 * (64 * 0 + n₁) + n₂) / 64 = n₁ by omega, show (64 * (64 * 0 + n₁) + n₂) % 64 = n₂ by omega]
  | [n₁, n₂, n₃], hlt =>
    obtain rfl : pads = 1 := by
      simp only [List.length_cons, List.length_nil] at hpads hlength
      omega
    simp only [List.forall_mem_cons] at hlt
    simp only [List.foldl_cons, List.foldl_nil, List.length_cons, List.length_nil, Nat.pow_eq, Nat.reduceAdd, Nat.reduceMul,
      Nat.reduceDiv, Nat.reduceSub, Nat.reducePow] at hspare ⊢
    rw [encode_ofNatWidth_two (by omega), Nat.div_mul_cancel (Nat.dvd_of_mod_eq_zero hspare)]
    change [a.symbol n₁, a.symbol n₂, a.symbol n₃, pad] = _
    rw [show (64 * (64 * (64 * 0 + n₁) + n₂) + n₃) / 4096 = n₁ by omega,
      show (64 * (64 * (64 * 0 + n₁) + n₂) + n₃) / 64 % 64 = n₂ by omega,
      show (64 * (64 * (64 * 0 + n₁) + n₂) + n₃) % 64 = n₃ by omega]
  | [n₁, n₂, n₃, n₄], hlt =>
    obtain rfl : pads = 0 := by
      simp only [List.length_cons, List.length_nil] at hlength
      omega
    simp only [List.forall_mem_cons] at hlt
    simp only [List.foldl_cons, List.foldl_nil, List.length_cons, List.length_nil, Nat.pow_eq, Nat.reduceAdd, Nat.reduceMul,
      Nat.reduceDiv, Nat.reduceSub, Nat.reducePow] at hspare ⊢
    rw [Nat.div_one, ← List.append_nil (Bytes.ofNatWidth 3 _), encode_ofNatWidth_three (by omega)]
    change [a.symbol n₁, a.symbol n₂, a.symbol n₃, a.symbol n₄] = [_, _, _, _]
    rw [show (64 * (64 * (64 * (64 * 0 + n₁) + n₂) + n₃) + n₄) / 262144 = n₁ by omega,
      show (64 * (64 * (64 * (64 * 0 + n₁) + n₂) + n₃) + n₄) / 4096 % 64 = n₂ by omega,
      show (64 * (64 * (64 * (64 * 0 + n₁) + n₂) + n₃) + n₄) / 64 % 64 = n₃ by omega,
      show (64 * (64 * (64 * (64 * 0 + n₁) + n₂) + n₃) + n₄) % 64 = n₄ by omega]
  | n₁ :: n₂ :: n₃ :: n₄ :: n₅ :: rest, _ =>
    simp only [List.length_cons] at hlength
    omega

/-- Groups that are decoded are what the decoded bytes are encoded as. -/
theorem eq_encode_of_decodeGroups {offset : Nat} {text d : Bytes} (h : decodeGroups a offset text = .ok d) :
    text = encode a d := by
  fun_induction decodeGroups a offset text generalizing d with
  | case1 offset x y z w v rest ih =>
    obtain ⟨nx, hx, h⟩ := exists_of_bind_eq_ok h
    obtain ⟨ny, hy, h⟩ := exists_of_bind_eq_ok h
    obtain ⟨nz, hz, h⟩ := exists_of_bind_eq_ok h
    obtain ⟨nw, hw, h⟩ := exists_of_bind_eq_ok h
    obtain ⟨bytes, hbytes, h⟩ := exists_of_bind_eq_ok h
    cases h
    obtain ⟨hltx, rfl⟩ := symbol_of_symbolAt hx
    obtain ⟨hlty, rfl⟩ := symbol_of_symbolAt hy
    obtain ⟨hltz, rfl⟩ := symbol_of_symbolAt hz
    obtain ⟨hltw, rfl⟩ := symbol_of_symbolAt hw
    rw [encode_ofNatWidth_three (by omega), ← ih hbytes]
    rw [show (((nx * 64 + ny) * 64 + nz) * 64 + nw) / 262144 = nx by omega,
      show (((nx * 64 + ny) * 64 + nz) * 64 + nw) / 4096 % 64 = ny by omega,
      show (((nx * 64 + ny) * 64 + nz) * 64 + nw) / 64 % 64 = nz by omega,
      show (((nx * 64 + ny) * 64 + nz) * 64 + nw) % 64 = nw by omega]
  | case2 offset group hshort =>
    refine eq_encode_of_decodeLast ?_ h
    match group, hshort with
    | [], _ | [_], _ | [_, _], _ | [_, _, _], _ | [_, _, _, _], _ => simp
    | x :: y :: z :: w :: v :: rest, hshort => exact absurd rfl (hshort x y z w v rest)

/-- **Canonical spelling**: a text is decoded to bytes exactly if it is what encoding them gives. -/
theorem decode_eq_ok_iff {text d : Bytes} : decode a text = .ok d ↔ text = encode a d := by
  constructor
  · intro h
    unfold decode at h
    split at h
    · cases h
    · exact eq_encode_of_decodeGroups h
  · rintro rfl
    exact decode_encode a d

/-! ### Texts -/

/-- Base64 consists of symbols and padding. -/
theorem eq_of_mem_encode (a : Alphabet) (b : Bytes) : ∀ c ∈ encode a b, c = pad ∨ ∃ n < 64, c = a.symbol n := by
  have hsymbol : ∀ {n}, n < 64 → a.symbol n = pad ∨ ∃ k < 64, a.symbol n = a.symbol k :=
    fun {n} h => .inr ⟨n, h, rfl⟩
  fun_induction encode a b with
  | case1 => simp
  | case2 x n =>
    have hx := x.toNat_lt
    simp only [List.forall_mem_cons, List.not_mem_nil, false_implies, implies_true, and_true, true_or]
    exact ⟨hsymbol (by omega), hsymbol (by omega)⟩
  | case3 x y n =>
    have hx := x.toNat_lt
    have hy := y.toNat_lt
    simp only [List.forall_mem_cons, List.not_mem_nil, false_implies, implies_true, and_true, true_or]
    exact ⟨hsymbol (by omega), hsymbol (by omega), hsymbol (by omega)⟩
  | case4 x y z rest n ih =>
    have hx := x.toNat_lt
    have hy := y.toNat_lt
    have hz := z.toNat_lt
    simp only [List.forall_mem_cons]
    exact ⟨hsymbol (by omega), hsymbol (by omega), hsymbol (by omega), hsymbol (by omega), ih⟩

/-- Base64 is ASCII. -/
theorem lt_of_mem_encode (a : Alphabet) (b : Bytes) : ∀ c ∈ encode a b, c < 128 := by
  intro c hc
  obtain rfl | ⟨n, hn, rfl⟩ := eq_of_mem_encode a b c hc
  · decide
  · exact (value?_symbol a n hn).2.2

/-- The bytes of the text are the symbols. -/
theorem utf8_encodeText (a : Alphabet) (b : Bytes) : utf8 (encodeText a b) = encode a b :=
  utf8_of_bytes (lt_of_mem_encode a b)

/-- Only the text of bytes is decoded to them. -/
theorem decode_utf8_eq_ok_iff {s : String} {d : Bytes} : decode a (utf8 s) = .ok d ↔ s = encodeText a d := by
  rw [decode_eq_ok_iff, ← utf8_encodeText, utf8_inj]

/-- No white space stands in the text. -/
theorem isBlank_of_mem_encodeText (a : Alphabet) (b : Bytes) : ∀ c ∈ (encodeText a b).toList, Text.isBlank c = false := by
  have hsymbol : ∀ n < 64, Text.isBlank (Char.ofNat (a.symbol n).toNat) = false := by
    cases a <;> decide
  intro c hc
  rw [encodeText, String.toList_ofList, List.mem_map] at hc
  obtain ⟨x, hx, rfl⟩ := hc
  obtain rfl | ⟨n, hn, rfl⟩ := eq_of_mem_encode a b x hx
  · decide
  · exact hsymbol n hn

end Base64

end SealedDrop
