import SealedDrop.Credentials
import SealedDrop.Exchange
import SealedDrop.Proofs.JsonString
import SealedDrop.Remote.Body

/-!
# Reading back the bodies of requests

A remote finds in the body of a request the texts that the client has put there, whatever characters they have.

## The model

The bodies of requests are objects whose members are all texts. `memberTokens` lists the tokens of such members. The pass over the
bytes finds these (`foldlM_step_members`), the trees are built from them (`foldlM_step_memberTokens`), and each member is then the
only one with its name (`onlyMember?_of_mem`).
-/

namespace SealedDrop.Json

/-- The members of an object, each with a text. -/
abbrev Fields := List (String × String)

/-- The value of an object with these members. -/
def Fields.value (l : Fields) : Value :=
  .object (l.map fun m => (m.1, .string m.2))

/-- The members as they are written. -/
def Fields.raw (l : Fields) : List (Bytes × Tree) :=
  l.map fun m => (escapedText m.1, .string (escapedText m.2))

/-- The tokens of one member. -/
def memberTokens (m : String × String) : List Token :=
  [.string (escapedText m.1), .colon, .string (escapedText m.2)]

/-- The tokens of members, with commas between them. -/
def Fields.tokens (l : Fields) : List Token :=
  [Token.comma].intercalate (l.map memberTokens)

/-! ### From bytes to tokens -/

/-- The pass over the bytes finds the tokens of a member. -/
theorem foldlM_step_member (name text : String) (tokens : List Token) :
    (utf8 (quote name ++ ":" ++ quote text)).foldlM Lexer.step ⟨tokens, .nothing⟩ =
      some ⟨(memberTokens (name, text)).reverse ++ tokens, .nothing⟩ := by
  rw [utf8_append, utf8_append, List.foldlM_append, List.foldlM_append, foldlM_step_quote]
  change (utf8 (quote text)).foldlM Lexer.step ⟨.colon :: .string (escapedText name) :: tokens, .nothing⟩ = _
  rw [foldlM_step_quote]
  rfl

/-- It finds those of all members. -/
theorem foldlM_step_members (l : Fields) (tokens : List Token) :
    (utf8 (",".intercalate (Value.memberTexts (l.map fun m => (m.1, .string m.2))))).foldlM Lexer.step ⟨tokens, .nothing⟩ =
      some ⟨l.tokens.reverse ++ tokens, .nothing⟩ := by
  induction l generalizing tokens with
  | nil => rfl
  | cons m l ih =>
    obtain ⟨name, text⟩ := m
    cases l with
    | nil =>
      rw [List.map_cons, List.map_nil, Value.memberTexts, Value.memberTexts, String.intercalate_singleton, Value.text,
        foldlM_step_member]
      rfl
    | cons m l =>
      have htext : ",".intercalate (Value.memberTexts (((name, text) :: m :: l).map fun m => (m.1, .string m.2))) =
          quote name ++ ":" ++ quote text ++ "," ++
            ",".intercalate (Value.memberTexts ((m :: l).map fun m => (m.1, .string m.2))) := by
        simp only [List.map_cons, Value.memberTexts, Value.text, String.intercalate_cons_cons]
      have htokens : Fields.tokens ((name, text) :: m :: l) = memberTokens (name, text) ++ [.comma] ++ Fields.tokens (m :: l) :=
        List.intercalate_cons_cons
      rw [htext, htokens, utf8_append, utf8_append, List.foldlM_append, List.foldlM_append, foldlM_step_member]
      change (utf8 (",".intercalate (Value.memberTexts ((m :: l).map fun m => (m.1, .string m.2))))).foldlM Lexer.step
        ⟨.comma :: ((memberTokens (name, text)).reverse ++ tokens), .nothing⟩ = _
      rw [ih, List.reverse_append, List.reverse_append, List.append_assoc, List.append_assoc]
      rfl

/-- The tokens of an object with texts. -/
theorem tokens?_text (l : Fields) : tokens? (utf8 l.value.text) = some (.openObject :: l.tokens ++ [.closeObject]) := by
  have hfold : (utf8 l.value.text).foldlM Lexer.step {} =
      some ⟨.closeObject :: (l.tokens.reverse ++ [.openObject]), .nothing⟩ := by
    rw [Fields.value, Value.text, utf8_append, utf8_append, List.foldlM_append, List.foldlM_append]
    change ((utf8 (",".intercalate (Value.memberTexts (l.map fun m => (m.1, .string m.2))))).foldlM Lexer.step
      ⟨[.openObject], .nothing⟩).bind (fun s => (utf8 "\x7d").foldlM Lexer.step s) = _
    rw [foldlM_step_members]
    rfl
  unfold tokens?
  rw [hfold]
  change some ((.closeObject :: (l.tokens.reverse ++ [Token.openObject])).reverse) = _
  rw [List.reverse_cons, List.reverse_append, List.reverse_reverse]
  rfl

/-! ### From tokens to trees -/

/-- The tokens of one or more members add these to an open object. -/
theorem foldlM_step_tokens (m : String × String) (l : Fields) (rev : List (Bytes × Tree)) (outer : List Frame) (closable : Bool) :
    (Fields.tokens (m :: l)).foldlM Builder.step ⟨.object rev none :: outer, .name closable, none⟩ =
      some ⟨.object ((Fields.raw (m :: l)).reverse ++ rev) none :: outer, .separator, none⟩ := by
  have hmember : ∀ (m : String × String) (rev : List (Bytes × Tree)) (closable : Bool),
      (memberTokens m).foldlM Builder.step ⟨.object rev none :: outer, .name closable, none⟩ =
        some ⟨.object ((escapedText m.1, .string (escapedText m.2)) :: rev) none :: outer, .separator, none⟩ := by
    intro m rev closable
    cases closable <;> rfl
  induction l generalizing m rev closable with
  | nil => exact hmember m rev closable
  | cons m' l ih =>
    have htokens : Fields.tokens (m :: m' :: l) = memberTokens m ++ [.comma] ++ Fields.tokens (m' :: l) :=
      List.intercalate_cons_cons
    rw [htokens, List.foldlM_append, List.foldlM_append, hmember]
    change (Fields.tokens (m' :: l)).foldlM Builder.step ⟨.object (_ :: rev) none :: outer, .name false, none⟩ = _
    have hraw : Fields.raw (m :: m' :: l) = (escapedText m.1, .string (escapedText m.2)) :: Fields.raw (m' :: l) := rfl
    rw [ih, hraw, List.reverse_cons, List.append_assoc]
    rfl

/-- The tree of an object with texts. -/
theorem Tree.parse?_text (l : Fields) : Tree.parse? (utf8 l.value.text) = some (.object l.raw) := by
  rw [Tree.parse?, tokens?_text]
  change Tree.ofTokens? (.openObject :: l.tokens ++ [.closeObject]) = _
  cases l with
  | nil => rfl
  | cons m l =>
    have hfold : (Token.openObject :: Fields.tokens (m :: l) ++ [Token.closeObject]).foldlM Builder.step {} =
        some ⟨[], .separator, some (.object (Fields.raw (m :: l)))⟩ := by
      rw [List.foldlM_append]
      change ((Fields.tokens (m :: l)).foldlM Builder.step ⟨[.object [] none], .name true, none⟩).bind
        (fun b => [Token.closeObject].foldlM Builder.step b) = _
      rw [foldlM_step_tokens, List.append_nil]
      change some (Builder.mk [] .separator (some (.object (Fields.raw (m :: l)).reverse.reverse))) = _
      rw [List.reverse_reverse]
    rw [Tree.ofTokens?, hfold]
    rfl

end SealedDrop.Json

namespace SealedDrop.Remote

open Json

/-! ### From trees to texts -/

/-- A text is read from the member that has its name, if no other has. -/
theorem onlyMember?_of_mem {l : Fields} (hnames : (l.map (·.1)).Nodup) {m : String × String} (hm : m ∈ l) :
    onlyMember? (l.map fun m => (m.1, .string (escapedText m.2))) m.1 = some m.2 := by
  have hfilter : (l.map fun m => (m.1, Tree.string (escapedText m.2))).filter (·.1 == m.1) =
      [(m.1, .string (escapedText m.2))] := by
    induction l with
    | nil => exact absurd hm List.not_mem_nil
    | cons a l ih =>
      rw [List.map_cons, List.nodup_cons] at hnames
      rw [List.map_cons]
      rcases List.mem_cons.mp hm with rfl | hm
      · rw [List.filter_cons_of_pos (by exact beq_self_eq_true _), List.filter_eq_nil_iff.mpr]
        intro b hb heq
        obtain ⟨m', hm', rfl⟩ := List.mem_map.mp hb
        exact hnames.1 (List.mem_map.mpr ⟨m', hm', beq_iff_eq.mp heq⟩)
      · have hne : ¬ (a.1 == m.1) = true := by
          rw [beq_iff_eq]
          exact fun heq => hnames.1 (List.mem_map.mpr ⟨m, hm, heq.symm⟩)
        rw [List.filter_cons_of_neg (by exact hne)]
        exact ih hnames.2 hm
  rw [onlyMember?, hfilter]
  exact decodeString?_escapedText m.2

/-- A search that finds something for every element finds all of it. -/
theorem mapM_eq_some {α β : Type} {f : α → Option β} {g : α → β} {l : List α} (h : ∀ a ∈ l, f a = some (g a)) :
    l.mapM f = some (l.map g) := by
  induction l with
  | nil => rfl
  | cons a l ih =>
    obtain ⟨ha, hl⟩ := List.forall_mem_cons.mp h
    rw [List.mapM_cons, ha, ih hl]
    rfl

/-- **Reading back**: the texts in a body are those that were put there under these names. -/
theorem fields?_text {l : Fields} (hnames : (l.map (·.1)).Nodup) :
    fields? (l.map (·.1)) (utf8 l.value.text) = some (l.map (·.2)) := by
  have hmembers : (l.raw.mapM fun (m : Bytes × Tree) => do return (← decodeString? m.1, m.2)) =
      some (l.map fun m => (m.1, Tree.string (escapedText m.2))) := by
    rw [Fields.raw, List.mapM_map]
    refine mapM_eq_some fun m _ => ?_
    simp only [Function.comp, decodeString?_escapedText]
    rfl
  have hfields : fields? (l.map (·.1)) (utf8 l.value.text) =
      (l.raw.mapM fun (m : Bytes × Tree) => do return (← decodeString? m.1, m.2)).bind fun members =>
        (l.map fun (m : String × String) => m.1).mapM (onlyMember? members) := by
    rw [fields?, Tree.parse?_text]
    rfl
  rw [hfields, hmembers, Option.bind_some, List.mapM_map]
  exact mapM_eq_some fun m hm => onlyMember?_of_mem hnames hm

/-- The body of a token request holds the name for which it asks. -/
theorem fields?_tokenRequest (name : KeyName) : fields? ["keyName"] (Credentials.tokenRequest name).body = some [name.text] := by
  have hbody : (Credentials.tokenRequest name).body = utf8 (Fields.value [("keyName", name.text)]).text :=
    congrArg (fun v => utf8 (Value.text v)) rfl
  have hnames : ([("keyName", name.text)].map (·.1)).Nodup := by simp
  rw [hbody]
  exact fields?_text hnames

/-- The body of a registration holds the file and the name. -/
theorem fields?_addKeyRequest (file : Bytes) (name : KeyName) :
    fields? ["key", "keyName"] (Exchange.addKeyRequest file name).body =
      some [Base64.encodeText .standard file, name.text] := by
  have hbody : (Exchange.addKeyRequest file name).body =
      utf8 (Fields.value [("key", Base64.encodeText .standard file), ("keyName", name.text)]).text :=
    congrArg (fun v => utf8 (Value.text v)) rfl
  have hnames : ([("key", Base64.encodeText .standard file), ("keyName", name.text)].map (·.1)).Nodup := by simp
  rw [hbody]
  exact fields?_text hnames

end SealedDrop.Remote
