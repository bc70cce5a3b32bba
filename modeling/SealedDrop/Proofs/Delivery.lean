import SealedDrop.Proofs.Authorization
import SealedDrop.Proofs.Credentials
import SealedDrop.Proofs.Json
import SealedDrop.Proofs.Oaep

/-!
# A remote in memory serves enrolled clients

A client whose public key is registered under its name gets every authenticated request served, even if the remote refuses
one token on the way.

## The model

* `Enrolled` says of a name and a private key that the remote can issue tokens under the name which that key opens: the
  public half is registered, and its modulus is long enough for a token.
* What one attempt of an enrolled client makes of a remote is known exactly: it is issued `nextToken`, which leaves the remote
  `tokenIssued`, and the remote's `reaction` to the request with that token is to refuse it, where a refusal is due, and else to
  serve it (`runs_attempt_enrolled`). Two attempts are enough for one refusal (`runs_send_of_le`).
-/

namespace SealedDrop

/-- A random identifier can stand in a header. -/
theorem BearerToken.isHeaderValue_hyphenated {b : Bytes} (h : b.length = 16) : IsHeaderValue (Uuid.hyphenated b) := by
  constructor
  · intro hempty
    have hlength := Uuid.length_hyphenated h
    rw [hempty] at hlength
    cases hlength
  · rw [List.any_eq_false]
    intro c hc
    obtain ⟨hlo, hhi, -⟩ := KeyName.toNat_of_isLater (Uuid.isLater_of_mem_hyphenated b c hc)
    simp only [Text.isControl, Bool.or_eq_true, Bool.and_eq_true, decide_eq_true_eq]
    omega

namespace Remote

open Op Credentials

variable {s s' : Remote} {name : KeyName} {k : Rsa.PrivateKey} {a : Credentials} {m : Machine} {r : Request}

/-! ### Tokens -/

/-- The remote can issue tokens under the name, and the private key opens them. -/
structure Enrolled (s : Remote) (name : KeyName) (k : Rsa.PrivateKey) : Prop where
  /-- The public half of the key is registered under the name. -/
  registered : s.key? name.text = some k.toPublic
  /-- The key is genuine. -/
  genuine : k.IsGenuine
  /-- The modulus has room for a token. -/
  size : 166 ≤ k.toPublic.size

theorem Enrolled.of_key? (h : s.Enrolled name k) (hkey : s'.key? name.text = s.key? name.text) : s'.Enrolled name k :=
  ⟨hkey.trans h.registered, h.genuine, h.size⟩

theorem Enrolled.of_keeps (h : s.Enrolled name k) (hs : Keeps s s') : s'.Enrolled name k :=
  h.of_key? (hs.key?_eq _)

/-- The token that is issued next. -/
def nextToken (s : Remote) : BearerToken :=
  ⟨Uuid.hyphenated (s.entropy.peek 16)⟩

/-- The remote after it has issued a token. -/
def tokenIssued (s : Remote) : Remote :=
  { s with
    tokenRequests := s.tokenRequests + 1
    entropy := (s.entropy.skip 16).skip BearerToken.seedSize
    tokens := s.nextToken.text :: s.tokens.filter (· != s.nextToken.text) }

theorem isLive_nextToken (s : Remote) : s.tokenIssued.isLive s.nextToken.text = true := by
  rw [isLive, tokenIssued, List.contains_iff_mem]
  exact List.mem_cons_self

/-- The remote after a request has presented the token that was issued last. -/
def tokenSpent (s : Remote) : Remote :=
  s.tokenIssued.present (some s.nextToken)

theorem keeps_tokenSpent (s : Remote) : Keeps s s.tokenSpent := ⟨rfl, rfl, rfl, rfl, rfl⟩

/-- A token is issued under a registered name if it can be encrypted to the key. -/
theorem issueToken_of_encrypt {body ciphertext : Bytes} {name : String} {k : Rsa.PublicKey}
    (hfields : fields? ["keyName"] body = some [name]) (hkey : s.key? name = some k)
    (hencrypt : BearerToken.encrypt k ((s.entropy.skip 16).peek BearerToken.seedSize) (utf8 s.nextToken.text) = .ok ciphertext) :
    s.issueToken body = (⟨200, ciphertext⟩, s.tokenIssued) := by
  have hkey' : Remote.key? { s with tokenRequests := s.tokenRequests + 1 } name = some k := hkey
  rw [nextToken] at hencrypt
  unfold issueToken
  simp only [hfields, hkey', hencrypt]
  rfl

/-- An enrolled client is issued the next token, which its key opens. -/
theorem execute_tokenRequest (h : s.Enrolled name k) :
    ∃ ciphertext, s.execute (tokenRequest name) none = (⟨200, ciphertext⟩, s.tokenIssued) ∧
      BearerToken.decrypt k ciphertext = .ok s.nextToken := by
  have hlength : (s.entropy.peek 16).length = 16 := s.entropy.length_peek 16
  obtain ⟨ciphertext, hencrypt, hdecrypt⟩ := BearerToken.exists_encrypt_decrypt h.genuine.isPair
    ((s.entropy.skip 16).length_peek BearerToken.seedSize) (BearerToken.isHeaderValue_hyphenated hlength)
    (by rw [Uuid.length_hyphenated hlength]; exact h.size)
  have hissue := issueToken_of_encrypt (fields?_tokenRequest name) h.registered hencrypt
  exact ⟨ciphertext, (execute_of_asksToken ⟨rfl, rfl⟩ none).trans hissue, hdecrypt⟩

/-! ### Sending requests -/

/-- What becomes of a request that an enrolled client sends with its next token: it is refused while a refusal is due, and else
served. -/
def reaction (s : Remote) (r : Request) : Response × Remote :=
  if 0 < s.rejectNext then (reply 401 "unauthorized", { s.tokenSpent with rejectNext := s.rejectNext - 1 })
  else s.tokenSpent.serve r

/-- The token that was issued last is good for one request. -/
theorem execute_nextToken (hr : ¬ AsksToken r) : s.tokenIssued.execute r (some s.nextToken) = s.reaction r := by
  rw [execute_of_not_asksToken hr, Option.any_some, if_pos (isLive_nextToken s)]
  rfl

/-- An enrolled client obtains the next token. -/
theorem runs_requestToken_enrolled (h : s.Enrolled a.keyName k) (hkey : a.keyOn m = .ok k) :
    ∃ ciphertext, Runs transport a.requestToken m s [⟨tokenRequest a.keyName, none, .ok ⟨200, ciphertext⟩⟩]
      (.ok s.nextToken) m s.tokenIssued := by
  obtain ⟨ciphertext, hexecute, hdecrypt⟩ := execute_tokenRequest h
  have hcall : transport (tokenRequest a.keyName) none s = (.ok ⟨200, ciphertext⟩, s.tokenIssued) := by
    rw [transport, hexecute]
  have hreceive : receive a.keyName (a.keyOn m) (.ok ⟨200, ciphertext⟩) = .ok s.nextToken := by
    rw [receive_of_success rfl, openToken, hkey]
    exact hdecrypt
  have hrun := runs_requestToken a m hcall
  rw [hreceive] at hrun
  exact ⟨ciphertext, hrun⟩

/-- The calls of an attempt of an enrolled client: it is issued the next token in a ciphertext, and sends its request with that. -/
def attemptCalls (s : Remote) (name : KeyName) (r : Request) (ciphertext : Bytes) : List Call :=
  [⟨tokenRequest name, none, .ok ⟨200, ciphertext⟩⟩, ⟨r, some s.nextToken, .ok (s.reaction r).1⟩]

/-- An attempt of an enrolled client meets the reaction of the remote. -/
theorem runs_attempt_enrolled (h : s.Enrolled a.keyName k) (hkey : a.keyOn m = .ok k) (hr : ¬ AsksToken r) :
    ∃ ciphertext, Runs transport (a.attempt r) m s (s.attemptCalls a.keyName r ciphertext)
      (judge r (.ok (s.reaction r).1)) m (s.reaction r).2 := by
  obtain ⟨ciphertext, htoken⟩ := runs_requestToken_enrolled h hkey
  have hcall : transport r (some s.nextToken) s.tokenIssued = (.ok (s.reaction r).1, (s.reaction r).2) := by
    rw [transport, execute_nextToken hr]
  exact ⟨ciphertext, htoken.bind (runs_judge r m hcall)⟩

/-- A refusal that is due is met, and keys and objects stay. -/
theorem reaction_of_pos (h : 0 < s.rejectNext) :
    s.reaction r = (reply 401 "unauthorized", { s.tokenSpent with rejectNext := s.rejectNext - 1 }) :=
  if_pos h

/-- Where none is due, the request is served. -/
theorem reaction_of_zero (h : s.rejectNext = 0) : s.reaction r = s.tokenSpent.serve r := by
  rw [reaction, h, if_neg (by decide)]

theorem keeps_reaction (h : 0 < s.rejectNext) : Keeps s (s.reaction r).2 := by
  rw [reaction_of_pos h]
  exact ⟨rfl, rfl, rfl, rfl, rfl⟩

/-- The outcome of an attempt that is served is not that its token was refused. -/
theorem judge_serve_ne (s : Remote) (r : Request) : judge r (.ok (s.serve r).1) ≠ .ok none := by
  rw [ne_eq, judge_eq_none_iff]
  rintro ⟨response, hresponse, hstatus⟩
  cases hresponse
  exact status_serve_ne s r hstatus

/-- An enrolled client is served at its first attempt if no refusal is due. -/
theorem runs_send_of_zero (h : s.Enrolled a.keyName k) (hkey : a.keyOn m = .ok k) (hr : ¬ AsksToken r) (hreject : s.rejectNext = 0) :
    ∃ ciphertext, Runs transport (a.send r) m s (s.attemptCalls a.keyName r ciphertext)
      (conclude (judge r (.ok (s.reaction r).1))) m (s.reaction r).2 := by
  obtain ⟨ciphertext, hattempt⟩ := runs_attempt_enrolled h hkey hr
  have hserved : judge r (.ok (s.reaction r).1) ≠ .ok none := by
    rw [reaction_of_zero hreject]
    exact judge_serve_ne _ r
  exact ⟨ciphertext, runs_send_of_attempt hattempt hserved⟩

/-- If one is due, a second attempt is made, and meets the reaction of the remote after the first. -/
theorem runs_send_of_pos (h : s.Enrolled a.keyName k) (hkey : a.keyOn m = .ok k) (hr : ¬ AsksToken r) (hreject : 0 < s.rejectNext) :
    ∃ ciphertext ciphertext', Runs transport (a.send r) m s
      (s.attemptCalls a.keyName r ciphertext ++ (s.reaction r).2.attemptCalls a.keyName r ciphertext')
      (conclude (judge r (.ok ((s.reaction r).2.reaction r).1))) m ((s.reaction r).2.reaction r).2 := by
  obtain ⟨ciphertext, hattempt⟩ := runs_attempt_enrolled h hkey hr
  obtain ⟨ciphertext', hattempt'⟩ := runs_attempt_enrolled (h.of_keeps (keeps_reaction (r := r) hreject)) hkey hr
  have hrefused : judge r (.ok (s.reaction r).1) = .ok none := by
    rw [reaction_of_pos hreject]
    rfl
  rw [hrefused] at hattempt
  exact ⟨ciphertext, ciphertext', runs_send_of_attempts hattempt hattempt'⟩

/-- **Two attempts are enough** for one refusal: then none is due any more, and the outcome is that of serving the request. -/
theorem runs_send_of_le (h : s.Enrolled a.keyName k) (hkey : a.keyOn m = .ok k) (hr : ¬ AsksToken r) (hreject : s.rejectNext ≤ 1) :
    ∃ l s', Keeps s s' ∧ s'.rejectNext = 0 ∧
      Runs transport (a.send r) m s l (conclude (judge r (.ok (s'.serve r).1))) m (s'.serve r).2 := by
  by_cases hzero : s.rejectNext = 0
  · obtain ⟨ciphertext, hrun⟩ := runs_send_of_zero h hkey hr hzero
    rw [reaction_of_zero hzero] at hrun
    exact ⟨_, _, keeps_tokenSpent s, hzero, hrun⟩
  · have hpos : 0 < s.rejectNext := UInt32.pos_iff_ne_zero.mpr hzero
    have hlast : (s.reaction r).2.rejectNext = 0 := by
      rw [reaction_of_pos hpos]
      change s.rejectNext - 1 = 0
      grind
    obtain ⟨ciphertext, ciphertext', hrun⟩ := runs_send_of_pos h hkey hr hpos
    rw [reaction_of_zero hlast] at hrun
    exact ⟨_, _, (keeps_reaction hpos).trans (keeps_tokenSpent _), hlast, hrun⟩

/-- So an enrolled client gets a request served if serving it succeeds. -/
theorem runs_send_served (h : s.Enrolled a.keyName k) (hkey : a.keyOn m = .ok k)
    (hr : ¬ (r.method = .post ∧ r.path = tokenPath)) (hreject : s.rejectNext ≤ 1)
    (hsuccess : ∀ s', Keeps s s' → (s'.serve r).1.isSuccess = true) :
    ∃ l s', Keeps s s' ∧ Runs transport (a.send r) m s l (.ok (s'.serve r).1) m (s'.serve r).2 := by
  obtain ⟨l, s', hkeeps, -, hrun⟩ := runs_send_of_le h hkey hr hreject
  rw [judge_ok, if_pos (hsuccess s' hkeeps)] at hrun
  exact ⟨l, s', hkeeps, hrun⟩

/-! ### Uploads and downloads -/

/-- A stored object is held under a safe identifier. -/
theorem serve_upload (s : Remote) (hfixed : ∀ id, s.fixedId = some id → ObjectId.Safe id) (body : Bytes) :
    ∃ id, ObjectId.Safe id ∧ (s.serve ((Request.post objectsPath body).withContentType .octets)).1 = reply 200 id ∧
      (s.serve ((Request.post objectsPath body).withContentType .octets)).2.Holds id body ∧
      (s.serve ((Request.post objectsPath body).withContentType .octets)).2.keys = s.keys := by
  have hserve : s.serve ((Request.post objectsPath body).withContentType .octets) = s.store body := rfl
  rw [hserve, store]
  cases hid : s.fixedId with
  | some id =>
    refine ⟨id, hfixed id hid, rfl, ⟨lookup_insertAt_self _ _ _, fun hnone => ?_⟩, rfl⟩
    cases hnone
  | none =>
    exact ⟨numberedId (s.stored + 1).toNat, safe_numberedId _, rfl,
      ⟨lookup_insertAt_self _ _ _, fun _ => ⟨_, le_refl _, rfl⟩⟩, rfl⟩

/-- What a remote answers to a request for the object with an identifier. -/
def handOut (s : Remote) (id : String) : Response :=
  match s.object? id with
  | none => reply 404 "no such object"
  | some data => ⟨200, if s.corruptDownloads then damage data else data⟩

/-- An identifier is read back from its segment, so that its object is looked up. -/
theorem fetch_encode (s : Remote) (id : String) : s.fetch (Text.Percent.encode (utf8 id)) = s.handOut id := by
  rw [fetch, Text.Percent.decode_encode, Text.lossy_utf8]
  rfl

/-- At the path of an identifier the object with this identifier is handed out. -/
theorem serve_get_path {id : ObjectId} (hmethod : r.method = .get) (hpath : r.path = id.path) (hid : id.text ≠ "") :
    s.serve r = (s.handOut id.text, s) := by
  have hbytes : utf8 r.path = utf8 (objectsPath ++ "/") ++ Text.Percent.encode (utf8 id.text) := by
    rw [hpath, ObjectId.path, utf8_append, Text.Percent.utf8_encodeText]
  have hdrop : Bytes.dropStart? (utf8 (objectsPath ++ "/")) (utf8 r.path) = some (Text.Percent.encode (utf8 id.text)) := by
    rw [hbytes, Bytes.dropStart?, if_pos (List.isPrefixOf_iff_prefix.mpr (List.prefix_append _ _)), List.drop_left]
  have hfetch := s.fetch_encode id.text
  obtain ⟨b, rest, hcons⟩ := List.exists_cons_of_ne_nil (Text.Percent.encode_ne_nil fun hnil => hid (utf8_inj.mp hnil))
  rw [hcons] at hdrop hfetch
  rw [serve, hmethod]
  simp only [hdrop, hfetch]

/-- An object is handed out at the path of its identifier. -/
theorem serve_get {id : String} {body : Bytes} (hobject : s.object? id = some body) (hid : id ≠ "")
    (hcorrupt : s.corruptDownloads = false) : s.serve (.get (ObjectId.path ⟨id⟩)) = (⟨200, body⟩, s) := by
  rw [serve_get_path rfl rfl hid, handOut, hobject, hcorrupt]
  rfl

end Remote

end SealedDrop
