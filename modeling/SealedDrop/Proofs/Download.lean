import SealedDrop.Proofs.Delivery

/-!
# The path of an object

The path at which a client asks for an object names this object and no other, whatever characters its identifier is made of, and a
remote in memory hands out there what it has stored under precisely that identifier.

## The model

* `IsSegment` says of characters that they form a segment of a URL path: each stands for itself, or is part of an escape.
* `Admits` says that a remote would authorise a request with a token, whatever is asked for.
* `Addresses` is the rule for the path of an identifier.

## What is proved

* `isSegment_encodeText` — the encoding of any text is a segment.
* `execute_get_path` — what an admitted request at the path of an identifier is answered.
* `path_addresses` — the path of every identifier that is accepted obeys the rule.
-/

namespace SealedDrop

/-! ### Segments -/

namespace Text.Percent

/-- A character that stands for itself in a segment: a letter or a digit of ASCII, or one of four marks. -/
def IsPlain (c : Char) : Prop :=
  c.isAlphanum = true ∨ c ∈ ['-', '_', '.', '~']

/-- An uppercase hexadecimal digit. -/
def IsHexDigit (c : Char) : Prop :=
  c ∈ "0123456789ABCDEF".toList

/-- The characters form a segment of a path. -/
inductive IsSegment : List Char → Prop where
  /-- Nothing is left. -/
  | nil : IsSegment []
  /-- A plain character comes first. -/
  | plain {c : Char} {rest : List Char} (hc : IsPlain c) (h : IsSegment rest) : IsSegment (c :: rest)
  /-- An escape comes first. -/
  | escape {high low : Char} {rest : List Char} (hhigh : IsHexDigit high) (hlow : IsHexDigit low) (h : IsSegment rest) :
    IsSegment ('%' :: high :: low :: rest)

theorem isPlain_of_isUnreserved {b : UInt8} (h : isUnreserved b = true) : IsPlain (Char.ofNat b.toNat) := by
  have hall : ∀ n < 256, isUnreserved (UInt8.ofNat n) = true →
      (Char.ofNat n).isAlphanum = true ∨ Char.ofNat n ∈ ['-', '_', '.', '~'] := by
    decide +kernel
  exact hall b.toNat b.toNat_lt (by rwa [UInt8.ofNat_toNat])

theorem isHexDigit_digit {n : UInt8} (h : n < 16) : IsHexDigit (Char.ofNat (digit n).toNat) := by
  have hall : ∀ k < 16, Char.ofNat (digit (UInt8.ofNat k)).toNat ∈ "0123456789ABCDEF".toList := by
    decide
  have hn := hall n.toNat (UInt8.lt_iff_toNat_lt.mp h)
  rwa [UInt8.ofNat_toNat] at hn

/-- Encoding a byte puts a plain character or an escape in front. -/
theorem IsSegment.encodeByte {rest : Bytes} (b : UInt8) (h : IsSegment (rest.map fun x => Char.ofNat x.toNat)) :
    IsSegment ((Percent.encodeByte b ++ rest).map fun x => Char.ofNat x.toNat) := by
  unfold Percent.encodeByte
  by_cases hb : isUnreserved b = true
  · rw [if_pos hb]
    exact .plain (isPlain_of_isUnreserved hb) h
  · rw [if_neg hb]
    exact .escape (isHexDigit_digit (high_lt b)) (isHexDigit_digit (low_lt b)) h

/-- **The form of a segment**: every text is encoded as one. -/
theorem isSegment_encodeText (s : String) : IsSegment (encodeText s).toList := by
  have hbytes : ∀ b : Bytes, IsSegment ((encode b).map fun x => Char.ofNat x.toNat) := by
    intro b
    induction b with
    | nil => exact .nil
    | cons x b ih =>
      rw [encode, List.flatMap_cons]
      exact ih.encodeByte x
  rw [encodeText, String.toList_ofList]
  exact hbytes (utf8 s)

theorem encodeText_ne {s : String} (h : s ≠ "") : encodeText s ≠ "" := by
  intro hempty
  have hbytes := utf8_encodeText s
  rw [hempty] at hbytes
  exact encode_ne_nil (fun hnil => h (utf8_inj.mp hnil)) hbytes.symm

/-- Two texts have two encodings. -/
theorem encodeText_inj {s s' : String} (h : encodeText s = encodeText s') : s = s' := by
  have hbytes : encode (utf8 s) = encode (utf8 s') := by
    rw [← utf8_encodeText, ← utf8_encodeText, h]
  rw [← utf8_inj, ← decode_encode (utf8 s), hbytes, decode_encode]

theorem toNat_of_isPlain {c : Char} (h : IsPlain c) : c.toNat < 128 := by
  rcases h with h | h
  · delta Char.isAlphanum Char.isAlpha Char.isUpper Char.isLower Char.isDigit at h
    simp only [Bool.or_eq_true, Bool.and_eq_true, decide_eq_true_eq, UInt32.le_iff_toNat_le, ge_iff_le, Char.toNat_val,
      Char.reduceToNat] at h
    omega
  · have hall : ∀ d ∈ ['-', '_', '.', '~'], d.toNat < 128 := by simp
    exact hall c h

theorem isUnreserved_of_isPlain {c : Char} (h : IsPlain c) : isUnreserved (UInt8.ofNat c.toNat) = true := by
  have hall : ∀ n < 128, ((Char.ofNat n).isAlphanum = true ∨ Char.ofNat n ∈ ['-', '_', '.', '~']) →
      isUnreserved (UInt8.ofNat n) = true := by
    decide +kernel
  exact hall c.toNat (toNat_of_isPlain h) (by rwa [Char.ofNat_toNat])

/-- A text of plain characters is its own encoding. -/
theorem encodeText_of_isPlain {s : String} (h : ∀ c ∈ s.toList, IsPlain c) : encodeText s = s := by
  have hencode : ∀ b : Bytes, (∀ x ∈ b, isUnreserved x = true) → encode b = b := by
    intro b hb
    induction b with
    | nil => rfl
    | cons x b ih =>
      obtain ⟨hx, hb⟩ := List.forall_mem_cons.mp hb
      rw [encode, List.flatMap_cons, ← encode, ih hb, encodeByte, if_pos hx, List.singleton_append]
  rw [← utf8_inj, utf8_encodeText, utf8_of_ascii fun c hc => toNat_of_isPlain (h c hc)]
  refine hencode _ fun x hx => ?_
  obtain ⟨c, hc, rfl⟩ := List.mem_map.mp hx
  exact isUnreserved_of_isPlain (h c hc)

end Text.Percent

/-! ### Requests at a path -/

namespace Remote

variable {s : Remote} {r : Request} {token : Option BearerToken} {id : ObjectId}

/-- The remote authorises a request with this token: the token is live, and no refusal is due. -/
def Admits (s : Remote) (token : Option BearerToken) : Prop :=
  s.rejectNext = 0 ∧ ∃ t, token = some t ∧ s.isLive t.text = true

/-- A request that is authorised is served, and its token is used up. -/
theorem execute_of_admits (hr : ¬ AsksToken r) (h : s.Admits token) : s.execute r token = (s.present token).serve r := by
  obtain ⟨hreject, t, rfl, hlive⟩ := h
  rw [execute_of_not_asksToken hr, hreject, if_neg (by decide), Option.any_some, if_pos hlive]

/-- At the path of an identifier the object with this identifier is handed out, and nothing but the token is used up. -/
theorem execute_get_path (h : s.Admits token) (hmethod : r.method = .get) (hpath : r.path = id.path) (hid : id.text ≠ "") :
    s.execute r token = (s.handOut id.text, s.present token) := by
  have hr : ¬ AsksToken r := by
    rintro ⟨hpost, -⟩
    rw [hmethod] at hpost
    cases hpost
  rw [execute_of_admits hr h, serve_get_path hmethod hpath hid]
  rfl

theorem handOut_of_none {name : String} (h : s.object? name = none) : s.handOut name = reply 404 "no such object" := by
  rw [handOut, h]

theorem handOut_of_some {name : String} {body : Bytes} (h : s.object? name = some body) :
    s.handOut name = ⟨200, if s.corruptDownloads then damage body else body⟩ := by
  rw [handOut, h]

end Remote

/-! ### The rule -/

namespace ObjectId

/-- The rule for the path of an identifier. -/
structure Addresses (id : ObjectId) : Prop where
  /-- It is that of the objects, a slash and one segment, which is not empty and decodes to the bytes of the identifier. -/
  segment : ∃ segment, id.path = "/d/" ++ segment ∧ segment ≠ "" ∧ Text.Percent.IsSegment segment.toList ∧
    Text.Percent.decode (utf8 segment) = utf8 id.text
  /-- No other identifier has the same path. -/
  unique : ∀ other : ObjectId, other.path = id.path → other = id
  /-- The object that a remote has stored under the identifier is handed out there, byte for byte if the remote damages none. -/
  found : ∀ (s : Remote) (r : Request) (token : Option BearerToken) (body : Bytes), r.method = .get → r.path = id.path →
    s.Admits token → s.object? id.text = some body → s.corruptDownloads = false → (s.execute r token).1 = ⟨200, body⟩
  /-- Where a remote has stored none under it, none is found, whatever it has stored under other identifiers. -/
  missing : ∀ (s : Remote) (r : Request) (token : Option BearerToken), r.method = .get → r.path = id.path →
    s.Admits token → s.object? id.text = none → (s.execute r token).1 = ⟨404, utf8 "no such object"⟩

theorem path_eq (id : ObjectId) : id.path = "/d/" ++ Text.Percent.encodeText id.text := rfl

theorem path_inj {id other : ObjectId} (h : other.path = id.path) : other = id := by
  rw [path_eq, path_eq, ← String.toList_inj, String.toList_append, String.toList_append] at h
  have htext := Text.Percent.encodeText_inj (String.toList_inj.mp (List.append_cancel_left h))
  cases id
  cases other
  exact congrArg mk htext

/-- **A path names one object**: that of every identifier which is accepted obeys the rule. -/
theorem path_addresses {text : String} {id : ObjectId} (h : ofString text = .ok id) : id.Addresses where
  segment := by
    obtain ⟨hsafe, rfl⟩ := ofString_eq_ok_iff.mp h
    refine ⟨Text.Percent.encodeText text, path_eq _, Text.Percent.encodeText_ne hsafe.1,
      Text.Percent.isSegment_encodeText text, ?_⟩
    rw [Text.Percent.utf8_encodeText, Text.Percent.decode_encode]
  unique := fun _ => path_inj
  found := by
    obtain ⟨hsafe, rfl⟩ := ofString_eq_ok_iff.mp h
    intro s r token body hmethod hpath hadmits hobject hcorrupt
    rw [Remote.execute_get_path hadmits hmethod hpath hsafe.1, Remote.handOut_of_some hobject, hcorrupt]
    rfl
  missing := by
    obtain ⟨hsafe, rfl⟩ := ofString_eq_ok_iff.mp h
    intro s r token hmethod hpath hadmits hobject
    rw [Remote.execute_get_path hadmits hmethod hpath hsafe.1, Remote.handOut_of_none hobject]
    rfl

/-- An identifier that looks encoded is encoded like any other: what is found is the object that is stored under precisely this
text, and not the one under the text that it would decode to. -/
theorem path_addresses_encoded :
    ofString "%41日" = .ok ⟨"%41日"⟩ ∧ path ⟨"%41日"⟩ = "/d/%2541%E6%97%A5" ∧
      (Remote.execute { entropy := ⟨fun _ => 0, 0⟩, tokens := ["t"], objects := [("A日", [8]), ("%41日", [7])] }
        (.get "/d/%2541%E6%97%A5") (some ⟨"t"⟩)).1 = ⟨200, [7]⟩ ∧
      (Remote.execute { entropy := ⟨fun _ => 0, 0⟩, tokens := ["t"], objects := [("A日", [8])] }
        (.get "/d/%2541%E6%97%A5") (some ⟨"t"⟩)).1 = ⟨404, utf8 "no such object"⟩ := by
  have hid : ofString "%41日" = .ok ⟨"%41日"⟩ := rfl
  have hpath : path ⟨"%41日"⟩ = "/d/%2541%E6%97%A5" := by decide
  have haddresses := path_addresses hid
  refine ⟨hid, hpath, ?_, ?_⟩
  · exact haddresses.found _ _ _ [7] rfl hpath.symm ⟨rfl, _, rfl, by decide⟩ (by decide) rfl
  · exact haddresses.missing _ _ _ rfl hpath.symm ⟨rfl, _, rfl, by decide⟩ (by decide)

end ObjectId

end SealedDrop
