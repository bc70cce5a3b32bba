import SealedDrop.Proofs.Credentials
import SealedDrop.Proofs.Envelope
import SealedDrop.Proofs.Reference

/-!
# A drop binds its reference to what was sent

Whatever the remote answers, the reference that a drop gives names exactly the bytes that were sent in every attempt to upload
them, under the identifier in the answer that accepted them.

## The model

* `upload` is the request that a drop sends, and `stored` what it makes of the answer.
* `Dropped` lists how a drop may end: its calls, its outcome and the machine after it. An envelope is sealed at most once,
  before the first call, so that a second attempt can only repeat it.
* `Binding` is the rule for a whole drop, stated over its calls, its outcome and the machine after it.
-/

namespace SealedDrop.Exchange

open Op

variable {σ : Type} {s : Settings} {path : String} {m m' : Machine} {l : List Call} {x : Except Error Reference}

/-! ### The file and its envelope -/

theorem observes_readFile (path : String) : Observes (readFile path) :=
  (Observes.ask fun _ => rfl).bind fun _ => (Observes.access _ _).bind fun _ => .access _ _

theorem outcome_readFile (path : String) (m : Machine) :
    (readFile path).outcome m =
      ((m.answer (.openRead path)).1.mapError (Error.ioWith ("Error reading '" ++ path ++ "'"))).bind fun source =>
        (readToEnd source.events).mapError (Error.ioWith ("Error reading '" ++ path ++ "'")) := by
  unfold readFile
  refine (outcome_ask_bind rfl _).trans ((outcome_access_bind _ _ _ m).trans ?_)
  congr 1
  funext source
  exact (Observes.access _ _).outcome_eq (Runs.access (t := silent) (m := m) (s := ()) _ _)

/-- **Reading a file**: what is read is a file that can be read, and all its bytes. -/
theorem outcome_readFile_eq_ok_iff {b : Bytes} : (readFile path).outcome m = .ok b ↔ m.Reads path b := by
  rw [outcome_readFile]
  simp only [Machine.answer]
  cases hn : m.tree.find m.workDir path with
  | error e =>
    refine ⟨fun h => (by cases h), ?_⟩
    rintro ⟨n, hn', -⟩
    rw [hn] at hn'
    cases hn'
  | ok n =>
    change (readToEnd (m.source n).events).mapError _ = .ok b ↔ _
    constructor
    · intro h
      cases hb : readToEnd (m.source n).events with
      | error e =>
        rw [hb] at h
        cases h
      | ok b' =>
        rw [hb] at h
        cases h
        exact ⟨n, hn, readToEnd_eq_ok_iff.mp hb⟩
    · rintro ⟨n', hn', hread⟩
      rw [hn] at hn'
      cases hn'
      rw [readToEnd_eq_ok_iff.mpr hread]
      rfl

/-- A failure to read it is one of access, which names the path. -/
theorem outcome_readFile_eq_error {e : Error} (h : (readFile path).outcome m = .error e) :
    ∃ f, e = .ioWith ("Error reading '" ++ path ++ "'") f := by
  rw [outcome_readFile] at h
  cases hopen : (m.answer (.openRead path)).1 with
  | error f =>
    rw [hopen] at h
    cases h
    exact ⟨f, rfl⟩
  | ok source =>
    rw [hopen] at h
    change (readToEnd source.events).mapError _ = .error e at h
    cases hread : readToEnd source.events with
    | error f =>
      rw [hread] at h
      cases h
      exact ⟨f, rfl⟩
    | ok b =>
      rw [hread] at h
      cases h

/-- A file that has been read is all that its source delivers. -/
theorem delivers_of_readFile {raw : String} {b : Bytes} (hpath : Home.expand m.home raw = .ok path)
    (h : (readFile path).outcome m = .ok b) : m.Delivers raw b := by
  obtain ⟨n, hn, -, hb⟩ := outcome_readFile_eq_ok_iff.mp h
  exact ⟨path, n, hpath, hn, hb⟩

/-- Sealing under a key that can be loaded gives the envelope under the one initialisation vector drawn. -/
theorem runs_encryptFile_of_derive (t : Transport σ) {keyPath : String} {secret : Secret} {keys : Envelope.SubKeys}
    (hsecret : (Secret.load keyPath).outcome m = .ok secret) (hkeys : Envelope.SubKeys.derive secret.bytes = .ok keys)
    (plaintext : Bytes) (u : σ) :
    Runs t (encryptFile keyPath plaintext) m u [] (.ok (keys.encrypt (m.entropy.peek Envelope.ivSize) plaintext))
      { m with entropy := m.entropy.skip Envelope.ivSize } u := by
  have hload := (Secret.observes_load keyPath).runs t m u
  have hdraw := Runs.ask (t := t) (m := m) (s := u) (.draw Envelope.ivSize)
  rw [hsecret] at hload
  exact hload.silent_bind ((Runs.check_of_eq hkeys).silent_bind (hdraw.silent_bind (Runs.pure _)))

/-- Where it fails, it leaves the machine as it was. -/
theorem runs_encryptFile_of_error (t : Transport σ) {keyPath : String} {e : Error}
    (h : ((Secret.load keyPath).outcome m).bind (fun secret => Envelope.SubKeys.derive secret.bytes) = .error e)
    (plaintext : Bytes) (u : σ) : Runs t (encryptFile keyPath plaintext) m u [] (.error e) m u := by
  have hload := (Secret.observes_load keyPath).runs t m u
  cases hsecret : (Secret.load keyPath).outcome m with
  | error e' =>
    rw [hsecret] at h hload
    cases h
    exact hload.bind_error _
  | ok secret =>
    rw [hsecret] at h hload
    exact hload.silent_bind ((Runs.check_of_eq h).bind_error _)

/-- Sealing fails and leaves the machine as it was, or gives the envelope under the one initialisation vector drawn. -/
theorem runs_encryptFile_cases (t : Transport σ) (keyPath : String) (plaintext : Bytes) (m : Machine) (u : σ) :
    (∃ e, Runs t (encryptFile keyPath plaintext) m u [] (.error e) m u) ∨
    ∃ key envelope, m.Delivers keyPath key ∧
      Envelope.encrypt key (m.entropy.peek Envelope.ivSize) plaintext = .ok envelope ∧
      Runs t (encryptFile keyPath plaintext) m u [] (.ok envelope)
        { m with entropy := m.entropy.skip Envelope.ivSize } u := by
  cases hsecret : (Secret.load keyPath).outcome m with
  | error e => exact .inl ⟨e, runs_encryptFile_of_error t (by rw [hsecret]; rfl) plaintext u⟩
  | ok secret =>
    cases hkeys : Envelope.SubKeys.derive secret.bytes with
    | error e => exact .inl ⟨e, runs_encryptFile_of_error t (by rw [hsecret]; exact hkeys) plaintext u⟩
    | ok keys =>
      exact .inr ⟨secret.bytes, _, Secret.delivers_of_load hsecret, Envelope.encrypt_of_derive hkeys _ _,
        runs_encryptFile_of_derive t hsecret hkeys plaintext u⟩

/-! ### The whole drop -/

/-- The request that uploads an envelope. -/
def upload (envelope : Bytes) : Request :=
  (Request.post objectsPath envelope).withContentType .octets

/-- What a drop makes of the answer that accepted an envelope. -/
def stored (envelope : Bytes) (response : Response) : Except Error Reference :=
  (storedId response.body).map fun id => .ofTransmitted id envelope

/-- How a drop may end: its calls, its outcome and the machine after it. -/
inductive Dropped (s : Settings) (path : String) (m : Machine) :
    List Call → Except Error Reference → Machine → Prop where
  /-- The settings lack something, or the file or the shared key cannot be read. Nobody is called. -/
  | unready (e : Error) : Dropped s path m [] (.error e) m
  /-- An envelope is sealed and sent, and its reference is what the answer makes of it. -/
  | sent {who : Credentials} {keyPath : String} {key plaintext envelope : Bytes} {l : List Call}
    {answer : Except Error Response} (hkeyPath : s.encryptionKeyPath = .ok keyPath) (hkey : m.Delivers keyPath key)
    (hfile : m.Delivers path plaintext)
    (henvelope : Envelope.encrypt key (m.entropy.peek Envelope.ivSize) plaintext = .ok envelope)
    (h : Credentials.Exchanged who.keyName (who.keyOn { m with entropy := m.entropy.skip Envelope.ivSize })
      (upload envelope) l answer) :
    Dropped s path m l (answer.bind (stored envelope)) { m with entropy := m.entropy.skip Envelope.ivSize }

/-- A drop ends in one of these ways. -/
theorem runs_drop_cases (t : Transport σ) (s : Settings) (path : String) (m : Machine) (u : σ) :
    ∃ l x m' u', Runs t (drop s path) m u l x m' u' ∧ Dropped s path m l x m' := by
  unfold drop
  cases hkeyPath : s.encryptionKeyPath with
  | error e => exact ⟨_, _, _, _, (Runs.check _).bind_error _, .unready e⟩
  | ok keyPath =>
  cases credentials s with
  | error e => exact ⟨_, _, _, _, (Runs.check _).silent_bind ((Runs.check _).bind_error _), .unready e⟩
  | ok who =>
  have hexpand := (observes_expandHome path).runs t m u
  rw [outcome_expandHome] at hexpand
  cases hpath : Home.expand m.home path with
  | error e =>
    rw [hpath] at hexpand
    exact ⟨_, _, _, _, (Runs.check _).silent_bind ((Runs.check _).silent_bind (hexpand.bind_error _)), .unready e⟩
  | ok path' =>
  rw [hpath] at hexpand
  have hread := (observes_readFile path').runs t m u
  cases hplain : (readFile path').outcome m with
  | error e =>
    rw [hplain] at hread
    exact ⟨_, _, _, _, (Runs.check _).silent_bind ((Runs.check _).silent_bind (hexpand.silent_bind (hread.bind_error _))),
      .unready e⟩
  | ok plaintext =>
  rw [hplain] at hread
  obtain ⟨e, hseal⟩ | ⟨key, envelope, hkey, henvelope, hseal⟩ := runs_encryptFile_cases t keyPath plaintext m u
  · exact ⟨_, _, _, _, (Runs.check _).silent_bind ((Runs.check _).silent_bind (hexpand.silent_bind
      (hread.silent_bind (hseal.bind_error _)))), .unready e⟩
  obtain ⟨l, answer, u', hsend, hexchanged⟩ :=
    who.runs_send t (upload envelope) { m with entropy := m.entropy.skip Envelope.ivSize } u
  refine ⟨l, answer.bind (stored envelope), _, u', ?_,
    .sent hkeyPath hkey (delivers_of_readFile hpath hplain) henvelope hexchanged⟩
  refine (Runs.check _).silent_bind ((Runs.check _).silent_bind (hexpand.silent_bind (hread.silent_bind
    (hseal.silent_bind ?_))))
  cases answer with
  | error e => exact hsend.bind_error _
  | ok response =>
    refine hsend.bind_silent ?_
    have hstored : (Except.ok response).bind (stored envelope) = (storedId response.body).bind fun id =>
        .ok (.ofTransmitted id envelope) := by
      change (storedId response.body).map _ = _
      cases storedId response.body <;> rfl
    rw [hstored]
    cases storedId response.body with
    | error e => exact (Runs.check _).bind_error _
    | ok id => exact (Runs.check _).silent_bind (Runs.pure _)

/-! ### The rule -/

/-- The body of an answer names an object: it is text, and the text without the white space around it is an acceptable
identifier. -/
def NamesObject (body : Bytes) (id : ObjectId) : Prop :=
  ∃ text, text? body = some text ∧ id.text = Text.trim text ∧ ObjectId.ofString id.text = .ok id

/-- An answer is taken just if its body names an object; otherwise it has no usable form. -/
theorem storedId_cases (body : Bytes) :
    (∃ id, storedId body = .ok id ∧ NamesObject body id) ∨
      (∃ what, storedId body = .error (.serialization what)) ∧ ∀ id, ¬ NamesObject body id := by
  unfold storedId
  cases htext : text? body with
  | none =>
    refine .inr ⟨⟨_, rfl⟩, ?_⟩
    rintro id ⟨text, hsome, -⟩
    rw [htext] at hsome
    cases hsome
  | some text =>
    simp only
    cases hid : ObjectId.ofString (Text.trim text) with
    | ok id =>
      obtain ⟨-, rfl⟩ := ObjectId.ofString_eq_ok_iff.mp hid
      exact .inl ⟨_, rfl, text, htext, rfl, hid⟩
    | error e =>
      refine .inr ⟨⟨_, rfl⟩, ?_⟩
      rintro id ⟨text', hsome, htrim, hok⟩
      rw [htext] at hsome
      cases hsome
      rw [htrim, hid] at hok
      cases hok

/-- The rule for a drop on machine `m` with calls `l` and outcome `x`, which leaves the machine `m'`. -/
structure Binding (s : Settings) (path : String) (m : Machine) (l : List Call) (x : Except Error Reference) (m' : Machine) :
    Prop where
  /-- A drop that succeeds has sealed the contents of the file once, under the contents of the key file. All that it has
  posted to the objects is this envelope, as bytes, and the reference is to it: its checksum is that of the envelope, and its
  identifier is the body of the answer that accepted the envelope. So the reference is read back from its text. -/
  success : ∀ r, x = .ok r → ∃ keyPath key plaintext envelope c response,
    (s.encryptionKeyPath = .ok keyPath ∧ m.Delivers keyPath key) ∧ m.Delivers path plaintext ∧
    (Envelope.encrypt key (m.entropy.peek 16) plaintext = .ok envelope ∧ m' = { m with entropy := m.entropy.skip 16 }) ∧
    (∀ c' ∈ l, c'.request.method = .post → c'.request.path = "/d" →
      c'.request.contentType = some .octets ∧ c'.request.body = envelope) ∧
    (c ∈ l ∧ c.request = ⟨.post, "/d", some .octets, envelope⟩ ∧ c.token ≠ none ∧ c.answer = .ok response) ∧
    (200 ≤ response.status ∧ response.status ≤ 299) ∧
    r.verify envelope = true ∧ NamesObject response.body r.objectId ∧ Reference.parse r.text = .ok r
  /-- If the body of the answer that accepted the envelope names no object, the answer has no usable form. -/
  unusable : ∀ c ∈ l, ∀ response, c.token ≠ none → c.answer = .ok response →
    200 ≤ response.status ∧ response.status ≤ 299 → (∀ id, ¬ NamesObject response.body id) →
    ∃ what, x = .error (.serialization what)
  /-- No file has changed. -/
  unchanged : m'.tree = m.tree

/-- Every call of the exchange that posts to the objects posts the request itself. -/
theorem eq_upload_of_exchanged {name : KeyName} {key : Except Error Rsa.PrivateKey} {envelope : Bytes}
    {answer : Except Error Response} {c : Call} (h : Credentials.Exchanged name key (upload envelope) l answer) (hc : c ∈ l)
    (hpath : c.request.path = objectsPath) : c.request = upload envelope := by
  by_cases htoken : c.token = none
  · obtain ⟨-, token₁, token₂, hpattern⟩ := h.pattern
    have hmem := hpattern.subset (List.mem_map_of_mem hc)
    simp only [List.mem_cons, Prod.mk.injEq, List.not_mem_nil, or_false, htoken, reduceCtorEq, and_true, and_false,
      false_or, or_self] at hmem
    rw [hmem] at hpath
    change tokenPath = objectsPath at hpath
    exact absurd hpath (by decide)
  · exact h.request_eq hc htoken

/-- The ways for a drop to end obey the rule. -/
theorem Dropped.binding (h : Dropped s path m l x m') : Binding s path m l x m' := by
  cases h with
  | unready e =>
    constructor
    · intro r hr
      cases hr
    · intro c hc
      cases hc
    · rfl
  | @sent who keyPath key plaintext envelope l answer hkeyPath hkey hfile henvelope hexchanged =>
    constructor
    · intro r hr
      cases answer with
      | error e => cases hr
      | ok response =>
      obtain ⟨c, hlast, htoken, hanswer, hsuccess⟩ := (hexchanged.eq_ok_iff response).mp rfl
      have hc := List.mem_of_getLast? hlast
      change stored envelope response = .ok r at hr
      obtain ⟨id, hid, hnames⟩ | ⟨⟨what, hnone⟩, -⟩ := storedId_cases response.body
      · rw [stored, hid] at hr
        cases hr
        have hof : ObjectId.ofString id.text = .ok id := hnames.choose_spec.2.2
        have hwell : (Reference.ofTransmitted id envelope).WellFormed :=
          Reference.wellFormed_ofTransmitted (ObjectId.ofString_eq_ok_iff.mp hof).1 envelope
        refine ⟨keyPath, key, plaintext, envelope, c, response, ⟨hkeyPath, hkey⟩, hfile, ⟨henvelope, rfl⟩, ?_,
          ⟨hc, hexchanged.request_eq hc htoken, htoken, hanswer⟩, (Credentials.isSuccess_iff response).mp hsuccess,
          Checksum.isOf_ofBytes envelope, hnames, hwell.parse_text⟩
        intro c' hc' _ hpath
        rw [eq_upload_of_exchanged hexchanged hc' hpath]
        exact ⟨rfl, rfl⟩
      · rw [stored, hnone] at hr
        cases hr
    · intro c hc response htoken hanswer hstatus hunnamed
      obtain rfl := hexchanged.accepted hc htoken hanswer ((Credentials.isSuccess_iff response).mpr hstatus)
      obtain ⟨id, -, hnames⟩ | ⟨⟨what, hnone⟩, -⟩ := storedId_cases response.body
      · exact absurd hnames (hunnamed id)
      · refine ⟨what, ?_⟩
        change stored envelope response = _
        rw [stored, hnone]
        rfl
    · rfl

/-- **A drop binds its reference**: whatever the remote answers, and whatever is on the machine, a drop obeys the rule. -/
theorem drop_binds {σ : Type} (t : Transport σ) (s : Settings) (path : String) (m : Machine) (u : σ) :
    Binding s path m (Op.calls t (drop s path) m u) (Op.run t (drop s path) m u).1
      (Op.run t (drop s path) m u).2.1 := by
  obtain ⟨l, x, m', u', hrun, hdropped⟩ := runs_drop_cases t s path m u
  rw [hrun.run_eq, hrun.calls_eq]
  exact hdropped.binding

end SealedDrop.Exchange
