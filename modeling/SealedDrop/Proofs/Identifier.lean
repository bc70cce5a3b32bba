import SealedDrop.Proofs.Reference

/-!
# Where identifiers come from

By which routes a program comes by an identifier, and what becomes of the references that are made with it.

## The model

A `Route` is a way to an identifier, and `LeadsTo` says which identifiers it leads to. All but one check the identifier: a string
in JSON is taken as it is (`ObjectId.ofJson_eq_ok_iff`).

## What is proved

* `Route.safe_iff` — all routes lead to safe identifiers only, but for a string in JSON that is not one.
* `ofJson_agrees_iff` — JSON and text agree on the strings that are safe, and on no others.
* `parse_text_ofTransmitted_iff` — references with safe identifiers are read back from their texts, and no others.
* `leadsTo_exact` — for each route, whether it leads to unsafe identifiers, and to references that are not read back.
* `ofJson_unsafe` — two strings for which this makes a difference.
-/

namespace SealedDrop

/-! ### Strings in JSON -/

namespace Json.Value

variable {v : Value} {needed s : String}

theorem toText_eq_ok_iff : v.toText needed = .ok s ↔ v = .string s := by
  constructor
  · intro h
    cases v <;> cases h
    rfl
  · rintro rfl
    rfl

end Json.Value

/-- A reference in JSON is a string that is read as one. -/
theorem Reference.ofJson_eq_ok_iff {v : Json.Value} {r : Reference} : ofJson v = .ok r ↔ ∃ s, v = .string s ∧ parse s = .ok r := by
  constructor
  · intro h
    obtain ⟨s, hs, -⟩ := exists_of_bind_eq_ok h
    obtain rfl := Json.Value.toText_eq_ok_iff.mp hs
    rw [ofJson_string] at h
    cases hparse : parse s with
    | error e =>
      rw [hparse] at h
      cases h
    | ok r' =>
      rw [hparse] at h
      cases h
      exact ⟨s, rfl, hparse⟩
  · rintro ⟨s, rfl, hparse⟩
    rw [ofJson_string, hparse]
    rfl

namespace ObjectId

variable {id : ObjectId} {v : Json.Value}

/-- An identifier in JSON is any string, whatever its characters are. -/
theorem ofJson_eq_ok_iff : ofJson v = .ok id ↔ v = .string id.text := by
  constructor
  · intro h
    obtain ⟨s, hs, h⟩ := exists_of_bind_eq_ok h
    cases h
    exact Json.Value.toText_eq_ok_iff.mp hs
  · rintro rfl
    rfl

/-! ### Routes -/

/-- The ways to an identifier. -/
inductive Route where
  /-- The identifier is made from a text. -/
  | text (s : String)
  /-- It is that of a reference which is read from a text. -/
  | reference (s : String)
  /-- It is that of a reference in JSON. -/
  | referenceInJson (v : Json.Value)
  /-- It stands in JSON itself. -/
  | json (v : Json.Value)

namespace Route

/-- The route leads to the identifier. -/
def LeadsTo : Route → ObjectId → Prop
  | .text s, id => ofString s = .ok id
  | .reference s, id => ∃ r, Reference.parse s = .ok r ∧ r.objectId = id
  | .referenceInJson v, id => ∃ r, Reference.ofJson v = .ok r ∧ r.objectId = id
  | .json v, id => ofJson v = .ok id

/-- The route is not a string in JSON that is no safe identifier. -/
def IsHarmless (route : Route) : Prop :=
  ∀ s, route = .json (.string s) → Safe s

/-- The harmless routes lead to safe identifiers only, and each other route leads to an unsafe one. -/
theorem safe_iff (route : Route) : (∀ id, route.LeadsTo id → Safe id.text) ↔ route.IsHarmless := by
  have hparse : ∀ s r, Reference.parse s = .ok r → Safe r.objectId.text :=
    fun s r hr => (Reference.parse_eq_ok_iff.mp hr).1.safe
  constructor
  · rintro hsafe s rfl
    exact hsafe ⟨s⟩ rfl
  · intro hharmless id h
    cases route with
    | text s =>
      obtain ⟨hsafe, rfl⟩ := ofString_eq_ok_iff.mp h
      exact hsafe
    | reference s =>
      obtain ⟨r, hr, rfl⟩ := h
      exact hparse s r hr
    | referenceInJson v =>
      obtain ⟨r, hr, rfl⟩ := h
      obtain ⟨s, -, hs⟩ := Reference.ofJson_eq_ok_iff.mp hr
      exact hparse s r hs
    | json v =>
      obtain rfl := ofJson_eq_ok_iff.mp h
      exact hharmless id.text rfl

end Route

/-- Every string in JSON is taken as an identifier. This agrees with what becomes of it as text just if it is a safe one. -/
theorem ofJson_agrees_iff (s : String) :
    ((∃ id, ofJson (.string s) = .ok id) ↔ ∃ id, ofString s = .ok id) ↔ Safe s := by
  have htaken : ∃ id, ofJson (.string s) = .ok id := ⟨⟨s⟩, rfl⟩
  rw [iff_true_left htaken]
  constructor
  · rintro ⟨id, hid⟩
    exact (ofString_eq_ok_iff.mp hid).1
  · intro hsafe
    exact ⟨⟨s⟩, ofString_of_safe hsafe⟩

/-! ### The text form -/

/-- A reference is read back from its text just if its identifier is safe. -/
theorem parse_text_ofTransmitted_iff (id : ObjectId) (transmitted : Bytes) :
    Reference.parse (Reference.ofTransmitted id transmitted).text = .ok (Reference.ofTransmitted id transmitted) ↔ Safe id.text := by
  constructor
  · intro h
    exact (Reference.parse_eq_ok_iff.mp h).1.safe
  · intro h
    exact (Reference.wellFormed_ofTransmitted h transmitted).parse_text

/-- **Where unsafe identifiers come from**: a route leads to safe identifiers only, and with each of them only to references which are
read back from their texts, just if it is harmless. JSON and text agree on a string under the same condition. -/
theorem leadsTo_exact (route : Route) :
    ((∀ id, route.LeadsTo id → Safe id.text) ↔ route.IsHarmless) ∧
    ((∀ id, route.LeadsTo id → ∀ transmitted : Bytes,
      Reference.parse (Reference.ofTransmitted id transmitted).text = .ok (Reference.ofTransmitted id transmitted)) ↔
        route.IsHarmless) ∧
    ∀ s, route = .json (.string s) →
      (((∃ id, route.LeadsTo id) ↔ ∃ id, Route.LeadsTo (.text s) id) ↔ route.IsHarmless) := by
  refine ⟨route.safe_iff, ?_, ?_⟩
  · simp only [parse_text_ofTransmitted_iff, forall_const]
    exact route.safe_iff
  · rintro s rfl
    have hharmless : Route.IsHarmless (.json (.string s)) ↔ Safe s := by simp [Route.IsHarmless]
    exact (ofJson_agrees_iff s).trans hharmless.symm

/-- Two strings that are refused as identifiers are taken from JSON. With the one a reference has a text which is not read back, with
the other a text which is read back as the reference to another object. -/
theorem ofJson_unsafe :
    (ofString "a:b" = .error (.invalidInput "Invalid object id 'a:b'") ∧ ofJson (.string "a:b") = .ok ⟨"a:b"⟩ ∧
      Reference.parse (Reference.ofTransmitted ⟨"a:b"⟩ []).text ≠ .ok (Reference.ofTransmitted ⟨"a:b"⟩ [])) ∧
    ofString " a" = .error (.invalidInput "Invalid object id ' a'") ∧ ofJson (.string " a") = .ok ⟨" a"⟩ ∧
      Reference.parse (Reference.ofTransmitted ⟨" a"⟩ []).text = .ok (Reference.ofTransmitted ⟨"a"⟩ []) := by
  have hcolon : ¬ Safe "a:b" := by decide
  have hwell : (Reference.ofTransmitted ⟨"a"⟩ []).WellFormed := Reference.wellFormed_ofTransmitted (by decide) []
  have hbefore : ∀ c ∈ " ".toList, Text.isBlank c = true := List.all_eq_true.mp (by decide)
  have hafter : ∀ c ∈ "".toList, Text.isBlank c = true := by simp
  have htext : (Reference.ofTransmitted ⟨" a"⟩ []).text = " " ++ (Reference.ofTransmitted ⟨"a"⟩ []).text ++ "" := by
    have hspace : " a" = " " ++ "a" := rfl
    simp only [Reference.text, Reference.ofTransmitted, hspace, String.append_assoc, String.append_empty]
  refine ⟨⟨by rfl, rfl, fun h => hcolon ((parse_text_ofTransmitted_iff _ _).mp h)⟩, by rfl, rfl, ?_⟩
  rw [htext]
  exact hwell.parse_surround hbefore hafter

end ObjectId

end SealedDrop
