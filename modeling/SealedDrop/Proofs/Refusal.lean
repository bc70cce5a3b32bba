import SealedDrop.Proofs.Readiness

/-!
# What is refused is told in printable characters

A name or an identifier that is refused may hold anything: a line end, the escape sequences of a terminal, a mark that turns the
direction of writing. The message that refuses it holds none of these, and still tells exactly what was refused.

## The model

* A text is printable (`Text.IsPrintable`) if it consists of the printable characters of ASCII.
* `Text.unescapeChar?` reads the first character of an escaped text back.
* `RefusesPrintably` and `TellsRefused` are the rules for the refusals of a reader of texts.

## What is proved

* `Text.isPrintable_escape`, `Text.escape_inj` — escaping a text makes it printable and loses nothing.
* `refusals_printable` — every refusal of a key name, an identifier, a checksum, a reference, the name in the settings, or the
  identifier in the answer to an upload is printable; those of key names and identifiers tell what was refused.
-/

namespace SealedDrop

/-! ### Printable texts -/

namespace Text

variable {s s' : String} {c d : Char} {l l' : List Char} {n : Nat}

/-- A text of printable ASCII characters, from the space to the tilde. -/
def IsPrintable (s : String) : Prop :=
  ∀ c ∈ s.toList, 0x20 ≤ c.toNat ∧ c.toNat ≤ 0x7E

instance (s : String) : Decidable (IsPrintable s) :=
  List.decidableBAll _ s.toList

theorem IsPrintable.append (h : IsPrintable s) (h' : IsPrintable s') : IsPrintable (s ++ s') := by
  intro c hc
  rw [String.toList_append, List.mem_append] at hc
  exact hc.elim (h c) (h' c)

/-- The decimal digits of a number are printable. -/
theorem isPrintable_toString (n : Nat) : IsPrintable (toString n) := by
  intro c hc
  rw [Nat.toString_eq_ofList_toDigits, String.toList_ofList] at hc
  have hdigit := Nat.isDigit_of_mem_toDigits (by decide) (by decide) hc
  simp only [Char.isDigit, Bool.and_eq_true, decide_eq_true_eq, UInt32.le_iff_toNat_le] at hdigit
  change 48 ≤ c.toNat ∧ c.toNat ≤ 57 at hdigit
  omega

/-! ### Hexadecimal digits -/

/-- The number that hexadecimal digits denote. -/
def ofHexDigits (l : List Char) : Nat :=
  l.foldl (fun n c => 16 * n + (Bytes.hexValue? c).getD 0) 0

theorem ofHexDigits_concat (l : List Char) (c : Char) :
    ofHexDigits (l ++ [c]) = 16 * ofHexDigits l + (Bytes.hexValue? c).getD 0 := by
  rw [ofHexDigits, List.foldl_concat, ofHexDigits]

/-- The digit of a number below sixteen is read back, is printable and closes no escape. -/
theorem digitChar_lt : ∀ d < 16, Bytes.hexValue? (Nat.digitChar d) = some d ∧
    (0x20 ≤ (Nat.digitChar d).toNat ∧ (Nat.digitChar d).toNat ≤ 0x7E) ∧ Nat.digitChar d ≠ '\x7d' := by
  decide

/-- Reading the digits of a number gives it back. -/
theorem ofHexDigits_hexDigits (n : Nat) : ofHexDigits (hexDigits n) = n := by
  induction n using Nat.strongRecOn with
  | _ n ih =>
    rw [hexDigits, Nat.toDigits_eq_if (by decide)]
    split
    · next hn =>
      rw [← List.nil_append [n.digitChar], ofHexDigits_concat, (digitChar_lt n hn).1]
      exact Nat.zero_add n
    · next hn =>
      rw [ofHexDigits_concat, (digitChar_lt (n % 16) (Nat.mod_lt _ (by decide))).1, ← hexDigits, ih (n / 16) (by omega),
        Option.getD_some]
      omega

theorem exists_of_mem_hexDigits (h : c ∈ hexDigits n) : ∃ d < 16, c = Nat.digitChar d := by
  induction n using Nat.strongRecOn with
  | _ n ih =>
    rw [hexDigits, Nat.toDigits_eq_if (by decide)] at h
    split at h
    · next hn => exact ⟨n, hn, List.mem_singleton.mp h⟩
    · next hn =>
      obtain h | h := List.mem_append.mp h
      · exact ih (n / 16) (by omega) h
      · exact ⟨n % 16, Nat.mod_lt _ (by decide), List.mem_singleton.mp h⟩

/-! ### Escaping -/

/-- How a character is spelled: as itself, as a letter or a mark behind a backslash, or by its number. -/
theorem escapeChar_cases (c : Char) :
    (escapeChar c = [c] ∧ c ≠ '\\' ∧ 0x20 ≤ c.toNat ∧ c.toNat ≤ 0x7E) ∨
    (∃ d ∈ ['t', 'n', 'r', '\'', '"', '\\'], escapeChar c = ['\\', d]) ∨
    escapeChar c = '\\' :: 'u' :: '\x7b' :: (hexDigits c.toNat ++ ['\x7d']) := by
  unfold escapeChar
  split_ifs with ht hn hr hmark hprints
  · exact .inr (.inl ⟨'t', by decide, rfl⟩)
  · exact .inr (.inl ⟨'n', by decide, rfl⟩)
  · exact .inr (.inl ⟨'r', by decide, rfl⟩)
  · refine .inr (.inl ⟨c, ?_, rfl⟩)
    rcases hmark with rfl | rfl | rfl <;> decide
  · exact .inl ⟨rfl, fun h => hmark (.inr (.inr h)), hprints⟩
  · exact .inr (.inr rfl)

/-- An escaped text is printable. -/
theorem isPrintable_escape (s : String) : IsPrintable (escape s) := by
  intro c hc
  rw [escape, String.toList_ofList, List.mem_flatMap] at hc
  obtain ⟨d, -, hd⟩ := hc
  obtain ⟨heq, -, hprints⟩ | ⟨mark, hmark, heq⟩ | heq := escapeChar_cases d
  · rw [heq, List.mem_singleton] at hd
    exact hd ▸ hprints
  · have hmarks : IsPrintable (String.ofList ['t', 'n', 'r', '\'', '"', '\\']) := by decide
    rw [heq] at hd
    obtain rfl | hd := List.mem_cons.mp hd
    · decide
    · obtain rfl := List.mem_singleton.mp hd
      exact hmarks c (by rwa [String.toList_ofList])
  · simp only [heq, List.mem_cons, List.mem_append, List.not_mem_nil, or_false] at hd
    obtain rfl | rfl | rfl | hdigit | rfl := hd
    · decide
    · decide
    · decide
    · obtain ⟨k, hk, rfl⟩ := exists_of_mem_hexDigits hdigit
      exact (digitChar_lt k hk).2.1
    · decide

/-- The character at the front of an escaped text, and what follows its spelling. -/
def unescapeChar? : List Char → Option (Char × List Char)
  | '\\' :: 'u' :: '\x7b' :: rest =>
    let digits := rest.takeWhile (· ≠ '\x7d')
    some (Char.ofNat (ofHexDigits digits), rest.drop (digits.length + 1))
  | '\\' :: 't' :: rest => some ('\t', rest)
  | '\\' :: 'n' :: rest => some ('\n', rest)
  | '\\' :: 'r' :: rest => some ('\r', rest)
  | '\\' :: c :: rest => some (c, rest)
  | c :: rest => some (c, rest)
  | [] => none

/-- A character is read back from its spelling, whatever follows. -/
theorem unescapeChar?_escapeChar (c : Char) (l : List Char) : unescapeChar? (escapeChar c ++ l) = some (c, l) := by
  unfold escapeChar
  split_ifs with ht hn hr hmark hprints
  · rw [ht]
    rfl
  · rw [hn]
    rfl
  · rw [hr]
    rfl
  · rcases hmark with rfl | rfl | rfl <;> rfl
  · have hbackslash : c ≠ '\\' := fun h => hmark (.inr (.inr h))
    unfold unescapeChar?
    split <;> simp_all
  · have hdigits : ∀ d ∈ hexDigits c.toNat, (decide (d ≠ '\x7d')) = true := by
      intro d hd
      obtain ⟨k, hk, rfl⟩ := exists_of_mem_hexDigits hd
      exact decide_eq_true (digitChar_lt k hk).2.2
    have htake : (hexDigits c.toNat ++ '\x7d' :: l).takeWhile (fun d => decide (d ≠ '\x7d')) = hexDigits c.toNat := by
      rw [List.takeWhile_append_of_pos hdigits, List.takeWhile_cons_of_neg (by decide), List.append_nil]
    have hspelled : ['\\', 'u', '\x7b'] ++ hexDigits c.toNat ++ ['\x7d'] ++ l =
        '\\' :: 'u' :: '\x7b' :: (hexDigits c.toNat ++ '\x7d' :: l) := by
      simp
    rw [hspelled, unescapeChar?]
    simp only [htake, ofHexDigits_hexDigits, Char.ofNat_toNat, List.drop_append]
    simp

/-- Two texts have two escaped spellings. -/
theorem escape_inj (h : escape s = escape s') : s = s' := by
  have hlists : ∀ l l' : List Char, l.flatMap escapeChar = l'.flatMap escapeChar → l = l' := by
    intro l
    induction l with
    | nil =>
      intro l' hl
      cases l' with
      | nil => rfl
      | cons d l' =>
        have hread := unescapeChar?_escapeChar d (l'.flatMap escapeChar)
        rw [← List.flatMap_cons, ← hl] at hread
        cases hread
    | cons c l ih =>
      intro l' hl
      have hread := unescapeChar?_escapeChar c (l.flatMap escapeChar)
      rw [← List.flatMap_cons, hl] at hread
      cases l' with
      | nil => cases hread
      | cons d l' =>
        rw [List.flatMap_cons, unescapeChar?_escapeChar] at hread
        simp only [Option.some.injEq, Prod.mk.injEq] at hread
        obtain ⟨rfl, hrest⟩ := hread
        rw [ih l' hrest.symm]
  exact String.toList_inj.mp (hlists _ _ (String.ofList_injective h))

end Text

/-! ### Refusals -/

open Text

variable {α : Type} {s : String} {e : Error}

/-- No refusal of the reader shows anything but printable characters. -/
def RefusesPrintably (read : String → Except Error α) : Prop :=
  ∀ s e, read s = .error e → IsPrintable e.message

/-- The message of a refusal tells which text it was that the reader refused. -/
def TellsRefused (read : String → Except Error α) : Prop :=
  ∀ s s' e e', read s = .error e → read s' = .error e' → e.message = e'.message → s = s'

/-- A text in its escaped spelling between two printable ones. -/
theorem isPrintable_quoting {before after : String} (hbefore : IsPrintable before) (hafter : IsPrintable after) (s : String) :
    IsPrintable (before ++ escape s ++ after) :=
  (hbefore.append (isPrintable_escape s)).append hafter

/-- It tells the text. -/
theorem quoting_inj {before after s s' : String} (h : before ++ escape s ++ after = before ++ escape s' ++ after) : s = s' :=
  escape_inj ((String.append_right_inj before).mp ((String.append_left_inj after).mp h))

namespace KeyName

theorem eq_of_ofString_error (h : ofString s = .error e) : e = .invalidInput ("Invalid key name '" ++ escape s ++ "'") :=
  ((Exchange.describes_ofString s).error e h).2

theorem refusesPrintably_ofString : RefusesPrintably ofString := by
  intro s e h
  rw [eq_of_ofString_error h]
  exact IsPrintable.append (s := "Invalid input: ") (by decide) (isPrintable_quoting (by decide) (by decide) s)

theorem tellsRefused_ofString : TellsRefused ofString := by
  intro s s' e e' h h' hmessage
  rw [eq_of_ofString_error h, eq_of_ofString_error h'] at hmessage
  exact quoting_inj ((String.append_right_inj "Invalid input: ").mp hmessage)

end KeyName

namespace ObjectId

/-- An identifier is refused for being empty, or is quoted. -/
theorem ofString_error_cases (h : ofString s = .error e) :
    (s = "" ∧ e = .invalidInput "ObjectId cannot be empty") ∨
      s ≠ "" ∧ e = .invalidInput ("Invalid object id '" ++ escape s ++ "'") := by
  unfold ofString at h
  split at h
  · next hempty =>
    cases h
    exact .inl ⟨hempty, rfl⟩
  · next hempty =>
    split at h
    · cases h
      exact .inr ⟨hempty, rfl⟩
    · cases h

theorem refusesPrintably_ofString : RefusesPrintably ofString := by
  intro s e h
  have hstart : IsPrintable "Invalid input: " := by decide
  obtain ⟨-, rfl⟩ | ⟨-, rfl⟩ := ofString_error_cases h
  · exact hstart.append (by decide)
  · exact hstart.append (isPrintable_quoting (by decide) (by decide) s)

/-- The complaint about an empty identifier quotes nothing. -/
theorem empty_ne_quoting (s : String) : "ObjectId cannot be empty" ≠ "Invalid object id '" ++ escape s ++ "'" := by
  intro h
  have hfirst := congrArg (fun s => s.toList.head?) h
  simp only [String.toList_append] at hfirst
  cases hfirst

theorem tellsRefused_ofString : TellsRefused ofString := by
  intro s s' e e' h h' hmessage
  obtain ⟨rfl, rfl⟩ | ⟨-, rfl⟩ := ofString_error_cases h
  · obtain ⟨rfl, -⟩ | ⟨-, rfl⟩ := ofString_error_cases h'
    · rfl
    · exact absurd ((String.append_right_inj "Invalid input: ").mp hmessage) (empty_ne_quoting s')
  · obtain ⟨-, rfl⟩ | ⟨-, rfl⟩ := ofString_error_cases h'
    · exact absurd ((String.append_right_inj "Invalid input: ").mp hmessage).symm (empty_ne_quoting s)
    · exact quoting_inj ((String.append_right_inj "Invalid input: ").mp hmessage)

end ObjectId

theorem Base64.isPrintable_message (e : Base64.DecodeError) : IsPrintable e.message := by
  have hsymbol : ∀ {start : String}, IsPrintable start → ∀ byte offset : Nat,
      IsPrintable (start ++ toString byte ++ ", offset " ++ toString offset ++ ".") := fun hstart byte offset =>
    (((hstart.append (isPrintable_toString byte)).append (by decide)).append (isPrintable_toString offset)).append (by decide)
  cases e with
  | invalidSymbol offset byte => exact hsymbol (by decide) byte.toNat offset
  | invalidLength length => exact IsPrintable.append (by decide) (isPrintable_toString length)
  | invalidLastSymbol offset byte => exact hsymbol (by decide) byte.toNat offset
  | invalidPadding => decide

/-- A malformed text is told by its fault. -/
theorem Error.isPrintable_format {what : String} (h : IsPrintable what) : IsPrintable (Error.format what).message :=
  IsPrintable.append (s := "Format error: ") (by decide) h

theorem Checksum.refusesPrintably_parse : RefusesPrintably Checksum.parse := by
  intro s e h
  unfold Checksum.parse at h
  simp only [bind, Except.bind] at h
  split at h
  · cases h
    refine Error.isPrintable_format (IsPrintable.append ?_ (isPrintable_toString _))
    exact (IsPrintable.append (by decide) (isPrintable_toString _)).append (by decide)
  split at h
  · next fault _ =>
    cases h
    exact Error.isPrintable_format (IsPrintable.append (by decide) (Base64.isPrintable_message fault))
  split at h
  · cases h
    exact Error.isPrintable_format (by decide)
  · cases h

theorem Reference.refusesPrintably_parse : RefusesPrintably Reference.parse := by
  intro s e h
  unfold Reference.parse at h
  simp only at h
  split at h
  · cases h
    exact Error.isPrintable_format (by decide)
  split at h
  · next id checksum _ =>
    split at h
    · next fault hid =>
      cases h
      exact Error.isPrintable_format (IsPrintable.append (by decide) (ObjectId.refusesPrintably_ofString _ _ hid))
    · cases hchecksum : Checksum.parse checksum with
      | error fault =>
        rw [hchecksum] at h
        cases h
        exact Checksum.refusesPrintably_parse _ _ hchecksum
      | ok c =>
        rw [hchecksum] at h
        cases h
  · cases h
    exact Error.isPrintable_format (by decide)

/-- The name in the settings is refused in printable characters. -/
theorem Settings.isPrintable_of_registeredName_error {settings : Settings} (h : settings.registeredName = .error e) :
    IsPrintable e.message := by
  have hstart : IsPrintable "Configuration error: " := by decide
  obtain ⟨-, ⟨-, rfl⟩ | ⟨text, -, -, rfl⟩⟩ := (Exchange.describes_registeredName settings).error e h
  · exact hstart.append (by decide)
  · exact hstart.append (isPrintable_quoting (by decide) (by decide) _)

/-! ### Identifiers from a remote -/

namespace Exchange

open Op

variable {path : String} {settings : Settings} {m m' : Machine} {l : List Call} {x : Except Error Reference}

/-- An answer to an upload that names no object is refused in printable characters. -/
theorem serialization_of_storedId_error {body : Bytes} (h : storedId body = .error e) :
    (∃ what, e = .serialization what) ∧ IsPrintable e.message := by
  have hstart : IsPrintable "Serialization error: " := by decide
  unfold storedId at h
  cases htext : text? body with
  | none =>
    rw [htext] at h
    cases h
    exact ⟨⟨_, rfl⟩, hstart.append (by decide)⟩
  | some text =>
    simp only [htext] at h
    split at h
    · next fault hid =>
      cases h
      exact ⟨⟨_, rfl⟩, hstart.append (IsPrintable.append (by decide) (ObjectId.refusesPrintably_ofString _ _ hid))⟩
    · cases h

/-- After an upload has been accepted, the answer alone decides what becomes of the drop. -/
theorem Dropped.eq_stored (h : Dropped settings path m l x m') {c : Call} (hc : c ∈ l) (htoken : c.token ≠ none) {response : Response}
    (hanswer : c.answer = .ok response) (hstatus : 200 ≤ response.status ∧ response.status ≤ 299) :
    ∃ envelope, x = stored envelope response := by
  cases h with
  | unready e => cases hc
  | @sent who keyPath key plaintext envelope l answer hkeyPath hkey hfile henvelope hexchanged =>
    obtain rfl := hexchanged.accepted hc htoken hanswer ((Credentials.isSuccess_iff response).mpr hstatus)
    exact ⟨envelope, rfl⟩

/-- A drop whose upload has been accepted fails only for want of an identifier in the answer. -/
theorem serialization_of_accepted {σ : Type} {t : Transport σ} {u u' : σ}
    (hruns : Runs t (drop settings path) m u l (.error e) m' u') {c : Call} (hc : c ∈ l) (htoken : c.token ≠ none)
    {response : Response} (hanswer : c.answer = .ok response) (hstatus : 200 ≤ response.status ∧ response.status ≤ 299) :
    (∃ what, e = .serialization what) ∧ IsPrintable e.message := by
  obtain ⟨l₁, x₁, m₁, u₁, hruns₁, hdropped⟩ := runs_drop_cases t settings path m u
  obtain ⟨rfl, rfl, -⟩ := hruns₁.unique hruns
  obtain ⟨envelope, hstored⟩ := hdropped.eq_stored hc htoken hanswer hstatus
  unfold stored at hstored
  cases hid : storedId response.body with
  | ok id =>
    rw [hid] at hstored
    cases hstored
  | error fault =>
    rw [hid] at hstored
    cases hstored
    exact serialization_of_storedId_error hid

/-- If a remote accepts an upload with a text that is no identifier, the drop fails for that reason. -/
theorem exists_runs_drop_of_unusable {u : Remote} {key plaintext : Bytes} {name : KeyName} {k : Rsa.PrivateKey}
    (hclient : Equipped settings m key name k) (henrolled : u.Enrolled name k) (hkey : key ≠ []) (hreject : u.rejectNext ≤ 1)
    {id : String} (hfixed : u.fixedId = some id) (hid : storedId (utf8 id) = .error e) (hfile : m.Provides path plaintext) :
    ∃ l m' u' c, Runs Remote.transport (drop settings path) m u l (.error e) m' u' ∧ c ∈ l ∧ c.token ≠ none ∧
      c.answer = .ok (Remote.reply 200 id) := by
  obtain ⟨keyPath, who, hkeyPath, hwho, rfl, hkeys⟩ := hclient.exists_credentials
  obtain ⟨path', n, hpath, hn, hdata⟩ := hfile
  obtain ⟨envelope, -, hencrypt⟩ := runs_encryptFile (m := m) Remote.transport hkey (hkeys m.entropy).2 plaintext u
  have hreply : ∀ u₀, Remote.Keeps u u₀ → (u₀.serve (upload envelope)).1 = Remote.reply 200 id := by
    intro u₀ hkeeps
    change (u₀.store envelope).1 = _
    rw [Remote.store, hkeeps.fixedId.trans hfixed]
  have hsuccess : (Remote.reply 200 id).isSuccess = true := rfl
  have hpath' : ¬ (Method.post = .post ∧ objectsPath = tokenPath) := by decide
  obtain ⟨l, u₀, hkeeps, hsend⟩ := Remote.runs_send_served (r := upload envelope) henrolled
    (hkeys (m.entropy.skip Envelope.ivSize)).1 hpath' hreject fun u₀ hkeeps => by rw [hreply u₀ hkeeps]; exact hsuccess
  rw [hreply u₀ hkeeps] at hsend
  obtain ⟨l', x, u', hruns, hexchanged⟩ :=
    who.runs_send Remote.transport (upload envelope) { m with entropy := m.entropy.skip Envelope.ivSize } u
  obtain ⟨rfl, rfl, -⟩ := hruns.unique hsend
  obtain ⟨c, hlast, htoken, hanswer, -⟩ := (hexchanged.eq_ok_iff _).mp rfl
  refine ⟨l', { m with entropy := m.entropy.skip Envelope.ivSize }, (u₀.serve (upload envelope)).2, c, ?_,
    List.mem_of_getLast? hlast, htoken, hanswer⟩
  unfold drop
  refine (Runs.check_of_eq hkeyPath).silent_bind ((Runs.check_of_eq hwho).silent_bind ((runs_expandHome hpath).silent_bind
    ((runs_readFile Remote.transport hclient.reliable hn hdata u).silent_bind (hencrypt.silent_bind
      (hsend.bind_silent ?_)))))
  exact (Runs.check_of_eq hid).bind_error _

end Exchange

/-! ### The rule -/

/-- **Nothing that is refused is shown as it is**: whatever characters a text consists of, the message that refuses it as a key name,
an identifier, a checksum, a reference or the name in the settings is printable; and so is that of a drop which fails although its
upload has been accepted. The messages about key names and identifiers tell which text was refused. -/
theorem refusals_printable :
    (RefusesPrintably KeyName.ofString ∧ TellsRefused KeyName.ofString) ∧
    (RefusesPrintably ObjectId.ofString ∧ TellsRefused ObjectId.ofString) ∧
    RefusesPrintably Checksum.parse ∧
    RefusesPrintably Reference.parse ∧
    (∀ (settings : Settings) (e : Error), settings.registeredName = .error e → IsPrintable e.message) ∧
    ∀ (σ : Type) (t : Transport σ) (settings : Settings) (path : String) (m : Machine) (u : σ) (l : List Call) (e : Error)
      (m' : Machine) (u' : σ), Op.Runs t (Exchange.drop settings path) m u l (.error e) m' u' →
      ∀ c ∈ l, ∀ response, c.token ≠ none → c.answer = .ok response → 200 ≤ response.status ∧ response.status ≤ 299 →
        (∃ what, e = .serialization what) ∧ IsPrintable e.message := by
  refine ⟨⟨KeyName.refusesPrintably_ofString, KeyName.tellsRefused_ofString⟩,
    ⟨ObjectId.refusesPrintably_ofString, ObjectId.tellsRefused_ofString⟩, Checksum.refusesPrintably_parse,
    Reference.refusesPrintably_parse, fun settings e => Settings.isPrintable_of_registeredName_error, ?_⟩
  intro σ t settings path m u l e m' u' hruns c hc response htoken hanswer hstatus
  exact Exchange.serialization_of_accepted hruns hc htoken hanswer hstatus

/-- A text that clears a terminal, turns the direction of writing and ends a line. -/
def hostileText : String :=
  "\x1b[2J\u202e\n"

/-- It is refused everywhere in printable characters, also when a remote answers with it, and told from the text without its end. -/
theorem refusals_printable_hostile :
    (∃ e, KeyName.ofString hostileText = .error e ∧ IsPrintable e.message) ∧
    (∃ e, ObjectId.ofString hostileText = .error e ∧ IsPrintable e.message) ∧
    (∃ e, Reference.parse (hostileText ++ ":") = .error e ∧ IsPrintable e.message) ∧
    (∃ e, ({ keyName := some hostileText } : Settings).registeredName = .error e ∧ IsPrintable e.message) ∧
    (∃ l e m' u', Op.Runs Remote.transport (Exchange.drop Exchange.laptopSettings "in") Exchange.laptop
        { Exchange.office with fixedId := some hostileText } l (.error e) m' u' ∧
      (∃ what, e = .serialization what) ∧ IsPrintable e.message) ∧
    ∀ e e', ObjectId.ofString hostileText = .error e → ObjectId.ofString "\x1b[2J\u202e" = .error e' → e.message ≠ e'.message := by
  obtain ⟨⟨hname, -⟩, ⟨hid, htells⟩, -, hreference, hsetting, hdrop⟩ := refusals_printable
  have hrefused : ∀ {α : Type} (x : Except Error α), x.toOption.isNone = true → ∃ e, x = .error e := by
    intro α x hx
    cases x with
    | ok a => cases hx
    | error e => exact ⟨e, rfl⟩
  obtain ⟨e₁, h₁⟩ := hrefused (KeyName.ofString hostileText) (by decide)
  obtain ⟨e₂, h₂⟩ := hrefused (ObjectId.ofString hostileText) (by decide)
  obtain ⟨e₃, h₃⟩ := hrefused (Reference.parse (hostileText ++ ":")) (by decide)
  obtain ⟨e₄, h₄⟩ := hrefused ({ keyName := some hostileText } : Settings).registeredName (by decide)
  obtain ⟨e₅, h₅⟩ := hrefused (Exchange.storedId (utf8 hostileText)) (by simp only [Exchange.storedId, text?_utf8]; decide)
  have henrolled : ({ Exchange.office with fixedId := some hostileText } : Remote).Enrolled Exchange.laptopName
    Exchange.mersenneKey := Exchange.enrolled_office.of_key? rfl
  obtain ⟨l, m', u', c, hruns, hc, htoken, hanswer⟩ := Exchange.exists_runs_drop_of_unusable Exchange.equipped_laptop henrolled
    (List.cons_ne_nil 1 []) (by decide) rfl h₅ Exchange.provides_laptop
  refine ⟨⟨e₁, h₁, hname _ _ h₁⟩, ⟨e₂, h₂, hid _ _ h₂⟩, ⟨e₃, h₃, hreference _ _ h₃⟩, ⟨e₄, h₄, hsetting _ _ h₄⟩,
    ⟨l, e₅, m', u', hruns, hdrop _ _ _ _ _ _ _ _ _ _ hruns c hc _ htoken hanswer (by decide)⟩, ?_⟩
  intro e e' he he' hmessage
  exact absurd (htells _ _ _ _ he he' hmessage) (by decide)

end SealedDrop
