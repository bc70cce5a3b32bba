import SealedDrop.Proofs.Base64
import SealedDrop.Proofs.Credentials
import SealedDrop.Proofs.Path

/-!
# Pulling is sound and all or nothing

Whatever the remote answers and whatever access to a file fails, a pull that succeeds has put the authentic plaintext of
the object that the reference names in place of the destination, and a pull that fails has changed no file.

## The model

* `accept` is what a pull does with an object that was delivered, and `Accepted` lists how that may end. `Pulled` does the
  same for the whole pull, by the step that ends it.
* `Sound` is the rule for a whole pull, stated over its calls, its outcome and the tree after it.
* Of the machine only this is asked: no entry has the name that is drawn for the temporary file.
-/

namespace SealedDrop.Exchange

open Op

variable {σ : Type} {t : Transport σ} {s : Settings} {r : Reference} {m m' : Machine} {l : List Call}

/-! ### What is done with an object -/

/-- The complaint that an object does not have the checksum of its reference. -/
def violation (r : Reference) : Error :=
  .integrityViolation ("Checksum mismatch for object '" ++ r.objectId.text ++ "'")

/-- What a pull does with the object that was delivered. -/
def accept (r : Reference) (keyPath path : String) (body : Bytes) : Op Unit := do
  if ¬ r.verify body then throw (violation r)
  let key ← Secret.load keyPath
  let plaintext ← Op.check (Envelope.decrypt key.bytes body)
  FileWriter.replace path plaintext pulledMode

/-- How that may end: its outcome and the tree after it. -/
inductive Accepted (r : Reference) (keyPath path : String) (m : Machine) (body : Bytes) :
    Except Error Unit → FileTree → Prop where
  /-- The object does not have the checksum of the reference. -/
  | tampered (hv : r.verify body = false) : Accepted r keyPath path m body (.error (violation r)) m.tree
  /-- The key cannot be loaded, the envelope not be opened, or the destination not be replaced. -/
  | unopened (hv : r.verify body = true) (e : Error) : Accepted r keyPath path m body (.error e) m.tree
  /-- The plaintext is in place. -/
  | placed {key plaintext : Bytes} {route : Route} (hv : r.verify body = true) (hkey : m.Delivers keyPath key)
    (hplaintext : Envelope.decrypt key body = .ok plaintext) (hopens : FileWriter.Opens m path)
    (hroute : m.tree.Takes m.workDir path route) :
    Accepted r keyPath path m body (.ok ()) (m.tree.put route (.file (m.masked pulledMode) plaintext))

/-- An object is accepted in one of these ways, without a call. -/
theorem runs_accept (t : Transport σ) (r : Reference) (keyPath path : String) (body : Bytes) (m : Machine) (u : σ)
    (hunused : FileWriter.Unused m path) :
    ∃ x m', Runs t (accept r keyPath path body) m u [] x m' u ∧ Accepted r keyPath path m body x m'.tree := by
  unfold accept
  by_cases hv : r.verify body = true
  swap
  · rw [if_pos hv]
    exact ⟨_, _, (Runs.throw _).bind_error _, .tampered (by simpa using hv)⟩
  rw [if_neg (not_not_intro hv)]
  have hload := (Secret.observes_load keyPath).runs t m u
  cases hsecret : (Secret.load keyPath).outcome m with
  | error e =>
    rw [hsecret] at hload
    exact ⟨_, _, hload.bind_error _, .unopened hv e⟩
  | ok secret =>
    rw [hsecret] at hload
    cases hplain : Envelope.decrypt secret.bytes body with
    | error e => exact ⟨_, _, hload.silent_bind ((Runs.check_of_eq hplain).bind_error _), .unopened hv e⟩
    | ok plaintext =>
      obtain ⟨x, m', hreplace, hx⟩ := FileWriter.runs_replace t path plaintext pulledMode m u hunused
      refine ⟨x, m', hload.silent_bind ((Runs.check_of_eq hplain).silent_bind hreplace), ?_⟩
      rcases hx with ⟨rfl, hopens, route, hroute, htree⟩ | ⟨e, rfl, htree, -⟩
      · rw [htree]
        exact .placed hv (Secret.delivers_of_load hsecret) hplain hopens hroute
      · rw [htree]
        exact .unopened hv e

/-! ### The whole pull -/

/-- How the pull of a reference may end: its calls, its outcome and the tree after it. -/
inductive Pulled (s : Settings) (r : Reference) (destination : String) (m : Machine) :
    List Call → Except Error Unit → FileTree → Prop where
  /-- The settings lack something, or the destination cannot be located. Nobody is called. -/
  | unready (e : Error) : Pulled s r destination m [] (.error e) m.tree
  /-- The remote does not deliver the object. -/
  | undelivered {who : Credentials} {l : List Call} {e : Error}
    (h : Credentials.Exchanged who.keyName (who.keyOn m) (.get r.objectId.path) l (.error e)) :
    Pulled s r destination m l (.error e) m.tree
  /-- The object is delivered, and accepted or not. -/
  | delivered {who : Credentials} {l : List Call} {response : Response} {keyPath path : String} {x : Except Error Unit}
    {tree : FileTree} (hkeyPath : s.encryptionKeyPath = .ok keyPath) (hpath : Home.expand m.home destination = .ok path)
    (h : Credentials.Exchanged who.keyName (who.keyOn m) (.get r.objectId.path) l (.ok response))
    (haccepted : Accepted r keyPath path m response.body x tree) : Pulled s r destination m l x tree

/-- A pull ends in one of these ways. -/
theorem runs_pullReference (t : Transport σ) (s : Settings) (r : Reference) (destination : String) (m : Machine) (u : σ)
    (hunused : ∀ path, Home.expand m.home destination = .ok path → FileWriter.Unused m path) :
    ∃ l x m' u', Runs t (pullReference s r destination) m u l x m' u' ∧ Pulled s r destination m l x m'.tree := by
  change ∃ l x m' u', Runs t
    (do
      let keyPath ← Op.check s.encryptionKeyPath
      let who ← Op.check (credentials s)
      let path ← expandHome destination
      let response ← who.send (.get r.objectId.path)
      accept r keyPath path response.body) m u l x m' u' ∧ Pulled s r destination m l x m'.tree
  cases hkeyPath : s.encryptionKeyPath with
  | error e => exact ⟨_, _, _, _, (Runs.check _).bind_error _, .unready e⟩
  | ok keyPath =>
  cases credentials s with
  | error e => exact ⟨_, _, _, _, (Runs.check _).silent_bind ((Runs.check _).bind_error _), .unready e⟩
  | ok who =>
  have hexpand := (observes_expandHome destination).runs t m u
  rw [outcome_expandHome] at hexpand
  cases hpath : Home.expand m.home destination with
  | error e =>
    rw [hpath] at hexpand
    exact ⟨_, _, _, _, (Runs.check _).silent_bind ((Runs.check _).silent_bind (hexpand.bind_error _)), .unready e⟩
  | ok path =>
    rw [hpath] at hexpand
    obtain ⟨l, x, u', hsend, hexchanged⟩ := who.runs_send t (.get r.objectId.path) m u
    cases x with
    | error e =>
      exact ⟨_, _, _, _, (Runs.check _).silent_bind ((Runs.check _).silent_bind
        (hexpand.silent_bind (hsend.bind_error _))), .undelivered hexchanged⟩
    | ok response =>
      obtain ⟨x, m', haccept, haccepted⟩ := runs_accept t r keyPath path response.body m u' (hunused path hpath)
      exact ⟨_, _, _, _, (Runs.check _).silent_bind ((Runs.check _).silent_bind
        (hexpand.silent_bind (hsend.bind_silent haccept))), .delivered hkeyPath hpath hexchanged haccepted⟩

/-- A pull succeeds up to its last step: the object is delivered with these calls, has the checksum of the reference, and is opened. What
is left is to put the plaintext in place of the file at this path. -/
inductive Downloaded (t : Transport σ) (s : Settings) (r : Reference) (destination : String) (m : Machine) (u : σ) (l : List Call)
    (u' : σ) (path : String) (plaintext : Bytes) : Prop where
  | intro {keyPath : String} {who : Credentials} {key : Bytes} {response : Response}
    (hkeyPath : s.encryptionKeyPath = .ok keyPath) (hwho : credentials s = .ok who)
    (hpath : Home.expand m.home destination = .ok path)
    (hsend : Runs t (who.send (.get r.objectId.path)) m u l (.ok response) m u') (hverify : r.verify response.body = true)
    (hkey : m.Loads keyPath key) (hplaintext : Envelope.decrypt key response.body = .ok plaintext)

/-- It ends as its last step ends. -/
theorem Downloaded.runs_pullReference {u u' : σ} {destination path : String} {plaintext : Bytes} {x : Except Error Unit}
    (h : Downloaded t s r destination m u l u' path plaintext)
    (hreplace : Runs t (FileWriter.replace path plaintext pulledMode) m u' [] x m' u') :
    Runs t (pullReference s r destination) m u l x m' u' := by
  obtain @⟨keyPath, who, key, response, hkeyPath, hwho, hpath, hsend, hverify, hkey, hplaintext⟩ := h
  have hload := (Secret.observes_load keyPath).runs t m u'
  have hsecret : (Secret.load keyPath).outcome m = .ok ⟨key⟩ := Secret.outcome_load_eq_ok_iff.mpr hkey
  rw [hsecret] at hload
  have haccept : Runs t (accept r keyPath path response.body) m u' [] x m' u' := by
    unfold accept
    rw [if_neg (not_not_intro hverify)]
    exact hload.silent_bind ((Runs.check_of_eq hplaintext).silent_bind hreplace)
  exact (Runs.check_of_eq hkeyPath).silent_bind ((Runs.check_of_eq hwho).silent_bind ((runs_expandHome hpath).silent_bind
    (hsend.bind_silent haccept)))

/-- The same object under another checksum is a violation, whatever key file is set. -/
theorem Downloaded.runs_violation {u u' : σ} {destination path keyPath' : String} {plaintext : Bytes} {s' : Settings} {r' : Reference}
    (h : Downloaded t s r destination m u l u' path plaintext) (hid : r'.objectId = r.objectId) (hchecksum : r'.checksum ≠ r.checksum)
    (hcredentials : credentials s' = credentials s) (hkeyPath' : s'.encryptionKeyPath = .ok keyPath') :
    Runs t (pullReference s' r' destination) m u l (.error (violation r')) m u' := by
  obtain @⟨keyPath, who, key, response, -, hwho, hpath, hsend, hverify, -, -⟩ := h
  have hverify' : ¬ r'.verify response.body = true := fun hother =>
    hchecksum ((beq_iff_eq.mp hother).trans (beq_iff_eq.mp hverify).symm)
  have haccept : Runs t (accept r' keyPath' path response.body) m u' [] (.error (violation r')) m u' := by
    unfold accept
    rw [if_pos hverify']
    exact (Runs.throw _).bind_error _
  rw [← hid] at hsend
  exact (Runs.check_of_eq hkeyPath').silent_bind ((Runs.check_of_eq (hcredentials.trans hwho)).silent_bind
    ((runs_expandHome hpath).silent_bind (hsend.bind_silent haccept)))

/-- A pull by the text of a reference ends as the text is refused, or as the pull of the reference ends. -/
theorem runs_pull_cases (t : Transport σ) (s : Settings) (reference destination : String) (m : Machine) (u : σ)
    (hunused : ∀ path, Home.expand m.home destination = .ok path → FileWriter.Unused m path) :
    ∃ l x m' u', Runs t (pull s reference destination) m u l x m' u' ∧
      ((∃ e, Reference.parse reference = .error e ∧ x = .error e ∧ m' = m) ∨
        ∃ r, Reference.parse reference = .ok r ∧ Pulled s r destination m l x m'.tree) := by
  change ∃ l x m' u',
    Runs t (Op.check (Reference.parse reference) >>= fun r => pullReference s r destination) m u l x m' u' ∧ _
  cases Reference.parse reference with
  | error e => exact ⟨_, _, _, _, (Runs.check _).bind_error _, .inl ⟨e, rfl, rfl, rfl⟩⟩
  | ok r =>
    obtain ⟨l, x, m', u', hpull, hpulled⟩ := runs_pullReference t s r destination m u hunused
    exact ⟨l, x, m', u', (Runs.check _).silent_bind hpull, .inr ⟨r, rfl, hpulled⟩⟩

/-- What a pull that succeeds has found its destination to be. -/
theorem exists_takes_of_pull {u : σ} {reference destination : String}
    (hunused : ∀ path, Home.expand m.home destination = .ok path → FileWriter.Unused m path)
    (h : (Op.run t (pull s reference destination) m u).1 = .ok ()) :
    ∃ path route, Home.expand m.home destination = .ok path ∧ m.tree.Takes m.workDir path route ∧
      FileWriter.Opens m path := by
  obtain ⟨l, x, m', u', hrun, ⟨e, -, rfl, -⟩ | ⟨r, -, hpulled⟩⟩ :=
    runs_pull_cases t s reference destination m u hunused
  · rw [hrun.run_eq] at h
    cases h
  · rw [hrun.run_eq] at h
    cases h
    generalize m'.tree = tree at hpulled
    cases hpulled with
    | delivered hkeyPath hpath hexchanged haccepted =>
      cases haccepted with
      | placed hv hkey hplaintext hopens hroute => exact ⟨_, _, hpath, hroute, hopens⟩

/-! ### The rule -/

/-- A checksum that is that of some bytes spells their digest. -/
theorem decode_of_isOf {c : Checksum} {b : Bytes} (h : c.isOf b = true) :
    Base64.decode .urlSafe (utf8 c.text) = .ok (Hash.sha256 b) := by
  obtain rfl := beq_iff_eq.mp h
  rw [Checksum.ofBytes, Base64.utf8_encodeText, Base64.decode_encode]

/-- The rule for a pull on machine `m` with calls `l` and outcome `x`, which leaves the machine `m'`. -/
structure Sound (s : Settings) (reference destination : String) (m : Machine) (l : List Call) (x : Except Error Unit)
    (m' : Machine) : Prop where
  /-- A pull that succeeds was answered the request for the object with success and a body of the digest in the
  reference; the body is an envelope under the contents of the key file, and its plaintext is now all that the
  destination holds. Nothing else has changed. -/
  success : x = .ok () → ∃ r c response keyPath key plaintext path route,
    Reference.parse reference = .ok r ∧
    (c ∈ l ∧ c.request = .get r.objectId.path ∧ c.token ≠ none ∧ c.answer = .ok response) ∧
    (200 ≤ response.status ∧ response.status ≤ 299) ∧
    Base64.decode .urlSafe (utf8 r.checksum.text) = .ok (Hash.sha256 response.body) ∧
    (s.encryptionKeyPath = .ok keyPath ∧ m.Delivers keyPath key) ∧
    Envelope.decrypt key response.body = .ok plaintext ∧
    (Home.expand m.home destination = .ok path ∧ m.tree.Names m.workDir path route) ∧
    ∀ r', m'.tree.node? r' = if r' = route then some (.file (m.masked 0o644) plaintext) else m.tree.node? r'
  /-- A pull that fails has changed no file. -/
  failure : ∀ e, x = .error e → m'.tree = m.tree
  /-- An object that does not have the digest in the reference is an integrity violation, whatever is in the key file. -/
  tampered : ∀ r c response, Reference.parse reference = .ok r → c ∈ l → c.request = .get r.objectId.path →
    c.token ≠ none → c.answer = .ok response → 200 ≤ response.status ∧ response.status ≤ 299 →
    Base64.decode .urlSafe (utf8 r.checksum.text) ≠ .ok (Hash.sha256 response.body) →
    x = .error (.integrityViolation ("Checksum mismatch for object '" ++ r.objectId.text ++ "'"))

/-- An object that was delivered is the body of the answer to an authenticated request for it. -/
theorem exists_call_of_exchanged {who : Credentials} {request : Request} {response : Response}
    (h : Credentials.Exchanged who.keyName (who.keyOn m) request l (.ok response)) :
    ∃ c ∈ l, c.request = request ∧ c.token ≠ none ∧ c.answer = .ok response ∧
      200 ≤ response.status ∧ response.status ≤ 299 := by
  obtain ⟨c, hlast, htoken, hanswer, hsuccess⟩ := (h.eq_ok_iff response).mp rfl
  have hc := List.mem_of_getLast? hlast
  exact ⟨c, hc, h.request_eq hc htoken, htoken, hanswer, (Credentials.isSuccess_iff response).mp hsuccess⟩

/-- The ways for the pull of a reference to end obey the rule. -/
theorem Pulled.sound {reference destination : String} {x : Except Error Unit} {tree : FileTree}
    (hr : Reference.parse reference = .ok r) (h : Pulled s r destination m l x tree) (hm' : m'.tree = tree) :
    Sound s reference destination m l x m' := by
  have hbad : ∀ {b}, Base64.decode .urlSafe (utf8 r.checksum.text) ≠ .ok (Hash.sha256 b) → r.verify b = false :=
    fun hne => Bool.eq_false_iff.mpr fun hv => hne (decode_of_isOf hv)
  subst hm'
  constructor
  · rintro rfl
    generalize m'.tree = tree at h
    cases h with
    | delivered hkeyPath hpath hexchanged haccepted =>
      cases haccepted with
      | placed hv hkey hplaintext hopens hroute =>
        obtain ⟨c, hc, hrequest, htoken, hanswer, hstatus⟩ := exists_call_of_exchanged hexchanged
        refine ⟨r, c, _, _, _, _, _, _, hr, ⟨hc, hrequest, htoken, hanswer⟩, hstatus, decode_of_isOf hv,
          ⟨hkeyPath, hkey⟩, hplaintext, ⟨hpath, hroute.names⟩, fun r' => ?_⟩
        rw [FileTree.node?_put _ _ hroute.names.ne_nil]
        rfl
  · rintro e rfl
    generalize m'.tree = tree at h
    cases h with
    | unready e => rfl
    | undelivered hexchanged => rfl
    | delivered hkeyPath hpath hexchanged haccepted =>
      cases haccepted with
      | tampered hv => rfl
      | unopened hv e => rfl
  · intro r' c response hr' hc _ htoken hanswer hstatus hdigest
    rw [hr, Except.ok.injEq] at hr'
    subst hr'
    have hsuccess := (Credentials.isSuccess_iff response).mpr hstatus
    generalize m'.tree = tree at h
    cases h with
    | unready e => cases hc
    | undelivered hexchanged => cases hexchanged.accepted hc htoken hanswer hsuccess
    | delivered hkeyPath hpath hexchanged haccepted =>
      cases hexchanged.accepted hc htoken hanswer hsuccess
      cases haccepted with
      | tampered hv => rfl
      | unopened hv e =>
        rw [hbad hdigest] at hv
        cases hv
      | placed hv hkey hplaintext hopens hroute =>
        rw [hbad hdigest] at hv
        cases hv

/-- **Sound and all or nothing**: whatever the remote answers and whatever access to a file fails, a pull obeys the
rule, as long as the name drawn for its temporary file is unused. -/
theorem pull_sound {σ : Type} (t : Transport σ) (s : Settings) (reference destination : String) (m : Machine) (u : σ)
    (hunused : ∀ path, Home.expand m.home destination = .ok path → FileWriter.Unused m path) :
    Sound s reference destination m (Op.calls t (pull s reference destination) m u)
      (Op.run t (pull s reference destination) m u).1 (Op.run t (pull s reference destination) m u).2.1 := by
  obtain ⟨l, x, m', u', hrun, ⟨e, hparse, rfl, rfl⟩ | ⟨r, hparse, hpulled⟩⟩ :=
    runs_pull_cases t s reference destination m u hunused
  · rw [hrun.run_eq, hrun.calls_eq]
    constructor
    · intro h
      cases h
    · intro _ _
      rfl
    · intro r c response hr
      rw [hparse] at hr
      cases hr
  · rw [hrun.run_eq, hrun.calls_eq]
    exact hpulled.sound hparse rfl

end SealedDrop.Exchange
