import SealedDrop.Proofs.Rotation

/-!
# A registration carries the key

What a client sends to register a public key is read by the remote as it was written, whatever is in the file, so that the remote
then has the key under the name, and whoever holds its private half can use it. A registration that fails has registered nothing.

## The model

* `Sent` lists how a registration may end: before it calls anyone, or with the exchange of its one request.
* `Authenticates` says of a client that it obtains a good token and has its requests served.
* `CarriesKey` is the rule for a registration by a client that is enrolled.

## What is proved

* `serve_addKeyRequest` — the remote reads the body as the client wrote it.
* `addKey_faithful` — the registration of an enrolled client obeys the rule, and one that fails, whosever it is, changes no key.
-/

namespace SealedDrop.Exchange

open Op Remote Credentials

variable {s : Settings} {path text : String} {m m' : Machine} {u v : Remote} {l : List Call} {x : Except Error Unit}
  {file : Bytes} {name : KeyName} {key : Rsa.PublicKey} {k : Rsa.PrivateKey} {who a : Credentials}

/-! ### The request -/

theorem not_asksToken_addKeyRequest (file : Bytes) (name : KeyName) : ¬ AsksToken (addKeyRequest file name) := by
  rintro ⟨-, hpath⟩
  change addKeyPath = tokenPath at hpath
  exact absurd hpath (by decide)

theorem serve_eq_addKey (u : Remote) (file : Bytes) (name : KeyName) :
    u.serve (addKeyRequest file name) = u.addKey (addKeyRequest file name).body := by
  have hmethod : (addKeyRequest file name).method = .post := rfl
  have hpath : (addKeyRequest file name).path = addKeyPath := rfl
  have hne : addKeyPath ≠ objectsPath := by decide
  rw [serve, hmethod]
  simp only [hpath, if_neg hne, if_pos]

/-- The remote reads the file and the name, and registers the key. -/
theorem serve_addKeyRequest (u : Remote) (hkey : KeyFile.readPublic file = .ok key) (name : KeyName) :
    u.serve (addKeyRequest file name) = (⟨200, []⟩, u.registerKey name.text key) := by
  rw [serve_eq_addKey, Remote.addKey]
  simp only [fields?_addKeyRequest, Base64.utf8_encodeText, Base64.decode_encode, hkey]

/-- Serving the request registers a key and answers with success, or changes no key. -/
theorem keys_serve_addKeyRequest (u : Remote) (file : Bytes) (name : KeyName) :
    (u.serve (addKeyRequest file name)).2.keys = u.keys ∨ (u.serve (addKeyRequest file name)).1 = ⟨200, []⟩ := by
  rw [serve_eq_addKey]
  rcases addKey_cases u (addKeyRequest file name).body with h | ⟨-, name', k, -, h⟩
  · exact .inl (by rw [h])
  · exact .inr (by rw [h])

/-- Whether its token is good or not, the remote never finds the request malformed. -/
theorem status_addKeyRequest_ne (u : Remote) (hkey : KeyFile.readPublic file = .ok key) (name : KeyName) (token : Option BearerToken) :
    (u.execute (addKeyRequest file name) token).1.status ≠ 400 := by
  rcases refused_or_served (not_asksToken_addKeyRequest file name) token (s := u) with ⟨hstatus, -⟩ | ⟨v, -, hserve⟩
  · rw [hstatus]
    exact Nat.ne_of_beq_eq_false rfl
  · rw [hserve, serve_addKeyRequest v hkey name]
    exact Nat.ne_of_beq_eq_false rfl

/-! ### The whole registration -/

/-- How a registration may end: its calls and its outcome. -/
inductive Sent (m : Machine) : List Call → Except Error Unit → Prop where
  /-- The name is not acceptable, the settings lack something, or the file holds no public key. Nobody is called. -/
  | unready (e : Error) : Sent m [] (.error e)
  /-- The file is sent, and what is answered decides. -/
  | sent {who : Credentials} {file : Bytes} {name : KeyName} {l : List Call} {answer : Except Error Response}
    (h : Exchanged who.keyName (who.keyOn m) (addKeyRequest file name) l answer) : Sent m l (answer.map fun _ => ())

/-- A registration ends in one of these ways. -/
theorem runs_addKey_cases {σ : Type} (t : Transport σ) (s : Settings) (path text : String) (m : Machine) (u : σ) :
    ∃ l x u', Runs t (addKey s path text) m u l x m u' ∧ Sent m l x := by
  unfold addKey
  cases KeyName.ofString text with
  | error e => exact ⟨_, _, _, (Runs.check _).bind_error _, .unready e⟩
  | ok name =>
  cases credentials s with
  | error e => exact ⟨_, _, _, (Runs.check _).silent_bind ((Runs.check _).bind_error _), .unready e⟩
  | ok who =>
  have hload := (Secret.observes_load path).runs t m u
  cases hsecret : (Secret.load path).outcome m with
  | error e =>
    rw [hsecret] at hload
    exact ⟨_, _, _, (Runs.check _).silent_bind ((Runs.check _).silent_bind (hload.bind_error _)), .unready e⟩
  | ok secret =>
  rw [hsecret] at hload
  cases hkey : KeyFile.readPublic secret.bytes with
  | error e =>
    exact ⟨_, _, _, (Runs.check _).silent_bind ((Runs.check _).silent_bind (hload.silent_bind
      ((Runs.check_of_eq hkey).bind_error _))), .unready e⟩
  | ok key =>
  obtain ⟨l, answer, u', hsend, hexchanged⟩ := who.runs_send t (addKeyRequest secret.bytes name) m u
  refine ⟨l, _, u', ?_, .sent hexchanged⟩
  refine (Runs.check _).silent_bind ((Runs.check _).silent_bind (hload.silent_bind
    ((Runs.check_of_eq hkey).silent_bind ?_)))
  cases answer with
  | error e => exact hsend.bind_error _
  | ok response => exact hsend.bind_silent (Runs.pure _)

/-- A registration that fails has changed no key. -/
theorem Sent.keys_of_error (h : Sent m l x) {e : Error} (hx : x = .error e) (hanswers : u.Answers l) :
    (u.called l).keys = u.keys := by
  cases h with
  | unready e' => rfl
  | @sent who file name l answer hexchanged =>
    rcases hexchanged.kept_or_served (not_asksToken_addKeyRequest file name) hanswers with
      ⟨-, hkeeps⟩ | ⟨v, hkeeps, hcalled, hanswer⟩
    · exact hkeeps.keys
    · rw [hcalled]
      rcases keys_serve_addKeyRequest v file name with hkeys | hsuccess
      · exact hkeys.trans hkeeps.keys
      · rw [hanswer, hsuccess] at hx
        cases hx

/-! ### Clients that can authenticate -/

/-- The client can authenticate: it obtains a token that is good, and what it asks for is answered by serving it. -/
structure Authenticates (a : Credentials) (m : Machine) (u : Remote) : Prop where
  /-- It obtains a good token. -/
  token : ∃ token u', Op.run transport a.requestToken m u = (.ok token, m, u') ∧ u'.isLive token.text = true
  /-- Every request that needs a token is served. -/
  served : ∀ r, ¬ AsksToken r → (Op.run transport (a.send r) m u).1 = conclude (judge r (.ok (u.serve r).1))

/-- A client that is enrolled can, where no more than one refusal is due. -/
theorem authenticates_of_enrolled (h : u.Enrolled a.keyName k) (hkey : a.keyOn m = .ok k) (hreject : u.rejectNext ≤ 1) :
    Authenticates a m u where
  token := by
    obtain ⟨ciphertext, hrun⟩ := runs_requestToken_enrolled h hkey
    exact ⟨_, _, hrun.run_eq, isLive_nextToken u⟩
  served := fun r hr => (run_send_of_le h hkey hr hreject).1

/-! ### The rule -/

/-- The rule for the registration of the key in a file under a name at a remote `u`: its calls are `l`, its outcome is `x`, and it
leaves the remote `u'`. -/
structure CarriesKey (u : Remote) (file : Bytes) (name : KeyName) (key : Rsa.PublicKey) (l : List Call) (x : Except Error Unit)
    (u' : Remote) : Prop where
  /-- All that is sent with a token is one request, and it is sent. -/
  request : (∃ c ∈ l, c.token ≠ none) ∧ ∀ c ∈ l, c.token ≠ none → c.request = addKeyRequest file name
  /-- The remote finds in its body the file in Base64, which it decodes to the bytes of the file, and the name. -/
  body : fields? ["key", "keyName"] (addKeyRequest file name).body = some [Base64.encodeText .standard file, name.text] ∧
    Base64.decode .standard (utf8 (Base64.encodeText .standard file)) = .ok file
  /-- So no remote ever answers that the request is malformed. -/
  wellFormed : ∀ (v : Remote) (token : Option BearerToken), (v.execute (addKeyRequest file name) token).1.status ≠ 400
  /-- The registration succeeds. -/
  success : x = .ok ()
  /-- The key in the file is registered under the name. -/
  registered : u'.key? name.text = some key
  /-- The keys under other names are as before. -/
  others : ∀ other, other ≠ name.text → u'.key? other = u.key? other
  /-- So are all objects. -/
  objects : u'.objects = u.objects
  /-- Whoever has that name and the private half of the key can authenticate. -/
  usable : ∀ (a : Credentials) (m : Machine) (k : Rsa.PrivateKey), a.keyName = name → a.keyOn m = .ok k → k.toPublic = key →
    k.IsGenuine → 166 ≤ key.size → Authenticates a m u'

/-- An enrolled client's registration obeys the rule, if the name is acceptable and the file holds a public key. -/
theorem carriesKey_of_enrolled (hwho : credentials s = .ok who) (hkeyOn : who.keyOn m = .ok k) (henrolled : u.Enrolled who.keyName k)
    (hreject : u.rejectNext ≤ 1) (hfile : (Secret.load path).outcome m = .ok ⟨file⟩) (hkey : KeyFile.readPublic file = .ok key)
    (hname : KeyName.ofString text = .ok name) :
    CarriesKey u file name key (Op.calls transport (addKey s path text) m u) (Op.run transport (addKey s path text) m u).1
      (Op.run transport (addKey s path text) m u).2.2 := by
  obtain ⟨l, answer, u', hsend, hexchanged⟩ := who.runs_send transport (addKeyRequest file name) m u
  obtain ⟨hanswer, hkeeps, hrefusals⟩ := run_send_of_le henrolled hkeyOn (not_asksToken_addKeyRequest file name) hreject
  rw [hsend.run_eq, serve_addKeyRequest u hkey name] at hanswer hkeeps
  rw [hsend.run_eq] at hrefusals
  obtain rfl : answer = .ok ⟨200, []⟩ := hanswer
  have hload := (Secret.observes_load path).runs transport m u
  rw [hfile] at hload
  have hrun : Runs transport (addKey s path text) m u l (.ok ()) m u' := by
    unfold addKey
    exact (Runs.check_of_eq hname).silent_bind ((Runs.check_of_eq hwho).silent_bind (hload.silent_bind
      ((Runs.check_of_eq hkey).silent_bind (hsend.bind_silent (Runs.pure _)))))
  have hkey' : u'.key? name.text = some key := by
    rw [hkeeps.key?_eq]
    exact lookup_insertAt_self _ _ _
  obtain ⟨c, hlast, htoken, -⟩ := (hexchanged.eq_ok_iff ⟨200, []⟩).mp rfl
  rw [hrun.run_eq, hrun.calls_eq]
  exact {
    request := ⟨⟨c, List.mem_of_getLast? hlast, htoken⟩, fun c hc ht => hexchanged.request_eq hc ht⟩
    body := ⟨fields?_addKeyRequest file name, by rw [Base64.utf8_encodeText, Base64.decode_encode]⟩
    wellFormed := fun v token => status_addKeyRequest_ne v hkey name token
    success := rfl
    registered := hkey'
    others := fun other hother => by
      rw [hkeeps.key?_eq]
      exact lookup_insertAt_of_ne hother _ _
    objects := hkeeps.objects
    usable := by
      rintro a m' k' rfl hkeyOn' rfl hgenuine hsize
      exact authenticates_of_enrolled ⟨hkey', hgenuine, hsize⟩ hkeyOn' (by rw [hrefusals]; decide) }

/-- **A registration carries the key**: one that fails, on any machine and at any remote, has changed no key; and that of an enrolled
client, where no more than one refusal is due, obeys the rule, whatever public key is in the file and whatever name is acceptable. -/
theorem addKey_faithful (s : Settings) (path text : String) (m : Machine) (u : Remote) :
    (∀ e, (Op.run transport (addKey s path text) m u).1 = .error e →
      (Op.run transport (addKey s path text) m u).2.2.keys = u.keys) ∧
    ∀ who k file key name, credentials s = .ok who → who.keyOn m = .ok k → u.Enrolled who.keyName k → u.rejectNext ≤ 1 →
      (Secret.load path).outcome m = .ok ⟨file⟩ → KeyFile.readPublic file = .ok key → KeyName.ofString text = .ok name →
      CarriesKey u file name key (Op.calls transport (addKey s path text) m u) (Op.run transport (addKey s path text) m u).1
        (Op.run transport (addKey s path text) m u).2.2 := by
  refine ⟨fun e he => ?_, fun who k file key name hwho hkeyOn henrolled hreject hfile hkey hname =>
    carriesKey_of_enrolled hwho hkeyOn henrolled hreject hfile hkey hname⟩
  obtain ⟨l, x, u', hrun, hsent⟩ := runs_addKey_cases transport s path text m u
  obtain ⟨hanswers, rfl⟩ := hrun.answers
  rw [hrun.run_eq] at he ⊢
  exact hsent.keys_of_error he hanswers

/-- The laptop with the public half of its key in a file. -/
def registrar : Machine :=
  { laptop with tree := laptop.tree.put ["public"] (.file 0o644 (KeyFile.publicText mersenneKey.toPublic)) }

/-- The name for another client. -/
def deskName : KeyName := ⟨"desk", by decide⟩

theorem isReliable_registrar : registrar.IsReliable := equipped_laptop.reliable

theorem keyOn_registrar (name : KeyName) : (Credentials.mk name "private").keyOn registrar = .ok mersenneKey := by
  have hnode : registrar.tree.node? ["private"] =
      some (.file 0o600 (Pem.encode KeyFile.privateLabel (Der.sequence mersenneIntegers))) :=
    FileTree.node?_put_of_ne laptop.tree _ (by decide)
  have hprovides : registrar.Provides "private" _ := provides_of_name rfl rfl (by decide) (by decide) rfl hnode
  exact KeyFile.outcome_loadPrivate isReliable_registrar hprovides readPrivate_mersenneKey

theorem outcome_load_registrar : (Secret.load "public").outcome registrar = .ok ⟨KeyFile.publicText mersenneKey.toPublic⟩ := by
  have hnode : registrar.tree.node? ["public"] = some (.file 0o644 (KeyFile.publicText mersenneKey.toPublic)) :=
    FileTree.node?_put_self laptop.tree _ (List.cons_ne_nil _ _)
  exact Secret.outcome_load_of_provides isReliable_registrar
    (provides_of_name rfl rfl (by decide) (by decide) rfl hnode)

/-- The laptop registers its key under another name, though a request is refused, and can then use that name. -/
theorem addKey_faithful_registrar :
    credentials laptopSettings = .ok laptopCredentials ∧ laptopCredentials.keyOn registrar = .ok mersenneKey ∧
      rotatedOffice.Enrolled laptopCredentials.keyName mersenneKey ∧ rotatedOffice.rejectNext ≤ 1 ∧
      (Secret.load "public").outcome registrar = .ok ⟨KeyFile.publicText mersenneKey.toPublic⟩ ∧
      KeyFile.readPublic (KeyFile.publicText mersenneKey.toPublic) = .ok mersenneKey.toPublic ∧
      KeyName.ofString "desk" = .ok deskName ∧
      (Op.run transport (addKey laptopSettings "public" "desk") registrar rotatedOffice).1 = .ok () ∧
      (Op.run transport (addKey laptopSettings "public" "desk") registrar rotatedOffice).2.2.key? "desk" =
        some mersenneKey.toPublic ∧
      Authenticates ⟨deskName, "private"⟩ registrar
        (Op.run transport (addKey laptopSettings "public" "desk") registrar rotatedOffice).2.2 := by
  have hwho : credentials laptopSettings = .ok laptopCredentials := rfl
  have hread : KeyFile.readPublic (KeyFile.publicText mersenneKey.toPublic) = .ok mersenneKey.toPublic :=
    KeyFile.readPublic_publicText isUsable_mersenneKey.1 (by decide +kernel) (by decide +kernel)
  have hname : KeyName.ofString "desk" = .ok deskName := by decide
  have hcarried := (addKey_faithful laptopSettings "public" "desk" registrar rotatedOffice).2 laptopCredentials mersenneKey _ _
    deskName hwho (keyOn_registrar laptopName) enrolled_rotatedOffice (by decide) outcome_load_registrar hread hname
  exact ⟨hwho, keyOn_registrar laptopName, enrolled_rotatedOffice, by decide, outcome_load_registrar, hread, hname,
    hcarried.success, hcarried.registered,
    hcarried.usable ⟨deskName, "private"⟩ registrar mersenneKey rfl (keyOn_registrar deskName) rfl isGenuine_mersenneKey
      enrolled_office.size⟩

end SealedDrop.Exchange
