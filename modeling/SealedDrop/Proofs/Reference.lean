import SealedDrop.Exchange
import SealedDrop.Interchange
import SealedDrop.Proofs.Base64
import SealedDrop.Proofs.JsonString
import SealedDrop.Proofs.Text

/-!
# Reading back references

Which texts are read as references to objects, and as which.

## The model

* A checksum text is the URL-safe base64 text of 32 bytes (`Checksum.parse_eq_ok_iff`).
* A reference is well formed (`Reference.WellFormed`) if both its parts are read back from their texts. The type holds other
  references as well, because a configuration format may name an object without a check.

## What is proved

* A text is read as a reference exactly if the reference is well formed and the text is its own, with white space around it or
  without (`Reference.parse_eq_ok_iff`); every other text is malformed (`Reference.parse_eq_error`).
* The text form is therefore unambiguous, and a string in JSON is read in the same way (`Reference.text_unambiguous`).
-/

namespace SealedDrop

/-! ### Identifiers -/

namespace ObjectId

variable {s : String} {id : ObjectId}

theorem ofString_of_safe (h : Safe s) : ofString s = .ok ⟨s⟩ := by
  rw [ofString, if_neg h.1, if_neg (by rw [h.2]; decide)]

theorem ofString_eq_ok_iff : ofString s = .ok id ↔ Safe s ∧ id = ⟨s⟩ := by
  constructor
  · intro h
    unfold ofString at h
    split at h
    · cases h
    next hempty =>
    split at h
    · cases h
    next hrefused =>
    cases h
    exact ⟨⟨hempty, Bool.eq_false_iff.mpr hrefused⟩, rfl⟩
  · rintro ⟨hsafe, rfl⟩
    exact ofString_of_safe hsafe

/-- No character of a safe identifier is refused. -/
theorem Safe.not_refused (h : Safe s) {c : Char} (hc : c ∈ s.toList) :
    c ≠ ':' ∧ c ≠ '/' ∧ Text.isBlank c = false ∧ Text.isControl c = false := by
  have hrefused : isRefused c = false := by
    simpa using List.any_eq_false.mp h.2 c hc
  simp only [isRefused, Bool.or_eq_false_iff, beq_eq_false_iff_ne] at hrefused
  obtain ⟨⟨⟨hcolon, hslash⟩, hblank⟩, hcontrol⟩ := hrefused
  exact ⟨hcolon, hslash, hblank, hcontrol⟩

/-- A client takes a safe identifier from the answer to an upload as it is. -/
theorem Safe.storedId (h : Safe s) : Exchange.storedId (utf8 s) = .ok ⟨s⟩ := by
  have htrim : Text.trim s = s := Text.trim_of_forall_not fun c hc => (h.not_refused hc).2.2.1
  unfold Exchange.storedId
  simp only [text?_utf8, htrim, ofString_of_safe h]
  rfl

end ObjectId

/-! ### Checksums -/

namespace Checksum

variable {s : String} {c : Checksum}

/-- **Checksum texts**: what is read as a checksum is the base64 text of 32 bytes, and it is read as it is. -/
theorem parse_eq_ok_iff :
    parse s = .ok c ↔ c = ⟨s⟩ ∧ ∃ digest : Bytes, digest.length = 32 ∧ s = Base64.encodeText .urlSafe digest := by
  constructor
  · intro h
    unfold parse at h
    simp only [bind, Except.bind] at h
    split at h
    · cases h
    split at h
    · cases h
    next digest hdecode =>
    split at h
    · cases h
    next hlength =>
    cases h
    exact ⟨rfl, digest, not_not.mp hlength, Base64.decode_utf8_eq_ok_iff.mp hdecode⟩
  · rintro ⟨rfl, digest, hlength, rfl⟩
    have hbytes : (utf8 (Base64.encodeText .urlSafe digest)).length = textSize := by
      rw [Base64.utf8_encodeText, Base64.length_encode, hlength]
      rfl
    unfold parse
    simp only [hbytes, Base64.decode_utf8_eq_ok_iff.mpr rfl, hlength, ne_eq, not_true_eq_false, if_false]
    rfl

/-- Any other text is refused as malformed. -/
theorem parse_eq_error {e : Error} (h : parse s = .error e) : ∃ what, e = .format what := by
  unfold parse at h
  simp only [bind, Except.bind] at h
  split at h
  · cases h
    exact ⟨_, rfl⟩
  split at h
  · cases h
    exact ⟨_, rfl⟩
  split at h
  · cases h
    exact ⟨_, rfl⟩
  · cases h

/-- The checksum of any bytes is read back. -/
theorem parse_ofBytes (b : Bytes) : parse (ofBytes b).text = .ok (ofBytes b) :=
  parse_eq_ok_iff.mpr ⟨rfl, Hash.sha256 b, Hash.length_sha256 b, rfl⟩

theorem isOf_ofBytes (b : Bytes) : (ofBytes b).isOf b = true := beq_self_eq_true _

/-- No white space stands in a checksum text. -/
theorem isBlank_of_parse (h : parse s = .ok c) : ∀ ch ∈ s.toList, Text.isBlank ch = false := by
  obtain ⟨-, digest, -, rfl⟩ := parse_eq_ok_iff.mp h
  exact Base64.isBlank_of_mem_encodeText _ digest

end Checksum

/-! ### References -/

namespace Reference

variable {s : String} {r : Reference}

/-- Both parts of the reference are read back from their texts. -/
structure WellFormed (r : Reference) : Prop where
  /-- The identifier may stand in a reference. -/
  objectId : ObjectId.ofString r.objectId.text = .ok r.objectId
  /-- The checksum is the text of a digest. -/
  checksum : Checksum.parse r.checksum.text = .ok r.checksum

theorem WellFormed.safe (h : r.WellFormed) : ObjectId.Safe r.objectId.text :=
  (ObjectId.ofString_eq_ok_iff.mp h.objectId).1

/-- The reference to transmitted bytes under a safe identifier is well formed. -/
theorem wellFormed_ofTransmitted {id : String} (h : ObjectId.Safe id) (b : Bytes) : (ofTransmitted ⟨id⟩ b).WellFormed :=
  ⟨ObjectId.ofString_of_safe h, Checksum.parse_ofBytes b⟩

/-- The first colon separates what has none from the rest. -/
theorem splitColon?_append {id : String} (h : ∀ c ∈ id.toList, c ≠ ':') (checksum : String) :
    splitColon? (id ++ ":" ++ checksum) = some (id, checksum) := by
  have hlist : (id ++ ":" ++ checksum).toList = id.toList ++ ':' :: checksum.toList := by
    rw [String.toList_append, String.toList_append, List.append_assoc]
    rfl
  have hbefore : (id.toList ++ ':' :: checksum.toList).takeWhile (· ≠ ':') = id.toList := by
    rw [List.takeWhile_append_of_pos (by simpa using h), List.takeWhile_cons_of_neg (by simp), List.append_nil]
  unfold splitColon?
  simp only [hlist, hbefore, List.drop_left, String.ofList_toList]

/-- What is split at the first colon is put together again by one. -/
theorem eq_of_splitColon? {before after : String} (h : splitColon? s = some (before, after)) : s = before ++ ":" ++ after := by
  have hsplit : s.toList = s.toList.takeWhile (· ≠ ':') ++ s.toList.dropWhile (· ≠ ':') :=
    List.takeWhile_append_dropWhile.symm
  have hdrop : s.toList.drop (s.toList.takeWhile (· ≠ ':')).length = s.toList.dropWhile (· ≠ ':') :=
    (congrArg (List.drop _) hsplit).trans List.drop_left
  unfold splitColon? at h
  simp only [hdrop] at h
  split at h
  · cases h
  next c rest hrest =>
    cases h
    have hcolon := List.head?_dropWhile_not (· ≠ ':') s.toList
    rw [hrest] at hcolon
    obtain rfl : c = ':' := by simpa using hcolon
    rw [hrest] at hsplit
    rw [← String.toList_inj, String.toList_append, String.toList_append, String.toList_ofList, String.toList_ofList,
      String.toList_ofList, List.append_assoc]
    exact hsplit

/-- **The grammar**: a text is read as a reference exactly if the reference is well formed and the text, white space around it
aside, is its text. -/
theorem parse_eq_ok_iff : parse s = .ok r ↔ r.WellFormed ∧ Text.trim s = r.text := by
  constructor
  · intro h
    unfold parse at h
    simp only at h
    split at h
    · cases h
    split at h
    next id checksum hsplit =>
      split at h
      · cases h
      next objectId hid =>
        obtain ⟨found, hchecksum, h⟩ := exists_of_bind_eq_ok h
        cases h
        obtain ⟨hsafe, rfl⟩ := ObjectId.ofString_eq_ok_iff.mp hid
        obtain ⟨rfl, -⟩ := Checksum.parse_eq_ok_iff.mp hchecksum
        exact ⟨⟨hid, hchecksum⟩, eq_of_splitColon? hsplit⟩
    · cases h
  · rintro ⟨hr, htrim⟩
    have hne : r.text ≠ "" := by
      intro hempty
      have := congrArg String.toList hempty
      simp [text] at this
    unfold parse
    rw [htrim]
    simp only [if_neg hne]
    rw [text, splitColon?_append fun c hc => (hr.safe.not_refused hc).1]
    simp only [hr.objectId, hr.checksum]
    rfl

/-- Any other text is refused as malformed. -/
theorem parse_eq_error {e : Error} (h : parse s = .error e) : ∃ what, e = .format what := by
  unfold parse at h
  simp only at h
  split at h
  · cases h
    exact ⟨_, rfl⟩
  split at h
  next id checksum hsplit =>
    split at h
    · cases h
      exact ⟨_, rfl⟩
    · cases hchecksum : Checksum.parse checksum with
      | error e =>
        rw [hchecksum] at h
        cases h
        exact Checksum.parse_eq_error hchecksum
      | ok c =>
        rw [hchecksum] at h
        cases h
  · cases h
    exact ⟨_, rfl⟩

/-- No white space stands in the text of a well-formed reference. -/
theorem WellFormed.isBlank_text (h : r.WellFormed) : ∀ c ∈ r.text.toList, Text.isBlank c = false := by
  intro c hc
  rw [text, String.toList_append, String.toList_append, List.mem_append, List.mem_append] at hc
  obtain (hc | hc) | hc := hc
  · exact (h.safe.not_refused hc).2.2.1
  · rw [List.mem_singleton.mp hc]
    decide
  · exact Checksum.isBlank_of_parse h.checksum c hc

/-- **Reading back**: the text of a well-formed reference is read as that reference, whatever white space is around it. -/
theorem WellFormed.parse_surround (h : r.WellFormed) {before after : String}
    (hbefore : ∀ c ∈ before.toList, Text.isBlank c = true) (hafter : ∀ c ∈ after.toList, Text.isBlank c = true) :
    parse (before ++ r.text ++ after) = .ok r :=
  parse_eq_ok_iff.mpr ⟨h, Text.trim_surround hbefore hafter h.isBlank_text⟩

theorem WellFormed.parse_text (h : r.WellFormed) : parse r.text = .ok r :=
  parse_eq_ok_iff.mpr ⟨h, Text.trim_of_forall_not h.isBlank_text⟩

/-- A string in JSON is read as a reference as its text is; the words of the refusal are the same. -/
theorem ofJson_string (s : String) : ofJson (.string s) = (parse s).mapError Error.message := by
  have htext : (Json.Value.string s).toText "a string" = .ok s := rfl
  simp only [ofJson, htext, bind, Except.bind]
  cases parse s <;> rfl

/-- **An exact, unambiguous grammar**: a text is read as a given well-formed reference exactly if it is that reference's text
with white space around it, a text that is none's is malformed, two references have two texts, and the string in JSON is read
like the text itself. -/
theorem text_unambiguous (s : String) :
    (∀ r : Reference, r.WellFormed → (parse s = .ok r ↔ Text.trim s = r.text)) ∧
    ((∀ r : Reference, r.WellFormed → Text.trim s ≠ r.text) → ∃ what, parse s = .error (.format what)) ∧
    (∀ r : Reference, r.WellFormed → parse r.text = .ok r) ∧
    (∀ r r' : Reference, r.WellFormed → r'.WellFormed → r.text = r'.text → r = r') ∧
    (Json.Value.parse? (Json.quote s) = some (.string s) ∧ ofJson (.string s) = (parse s).mapError Error.message) := by
  refine ⟨fun r hr => ?_, fun hnone => ?_, fun r hr => hr.parse_text, fun r r' hr hr' htext => ?_,
    Json.Value.parse?_quote s, ofJson_string s⟩
  · exact parse_eq_ok_iff.trans (and_iff_right hr)
  · cases hparse : parse s with
    | ok r =>
      obtain ⟨hr, htrim⟩ := parse_eq_ok_iff.mp hparse
      exact absurd htrim (hnone r hr)
    | error e =>
      obtain ⟨what, rfl⟩ := parse_eq_error hparse
      exact ⟨what, rfl⟩
  · have hread := hr.parse_text
    rw [htext, hr'.parse_text] at hread
    cases hread
    rfl

end Reference

end SealedDrop
