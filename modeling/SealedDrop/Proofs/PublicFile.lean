import SealedDrop.Proofs.KeyGeneration
import SealedDrop.Proofs.PrivateFile
import SealedDrop.Proofs.Registration

/-!
# The public file of a key pair

Whether a private key was loaded or generated, its public half is written to a file that is read as this half, registered with a
remote, and used by it to issue tokens, if the modulus is neither too long nor too short for that. There is a greatest length for
public keys, and none for private ones.

## The model

* `Published` is the rule for the public file of a private key, from the file to the token.
* The bounds are on the modulus alone: `PublicKey.modulusLimit` bits for the file, and 166 bytes for a token.

## What is proved

* `readPublic_publicText_of_isShort`, `readPublic_publicText_of_not_isShort` — what becomes of the file of a public key.
* `shows_publicText` — what is in it, if the private half can be written.
* `published_of_isUsable` — the public file of every usable key obeys the rule.
* `publicFile_exact` — so do those of all keys that are loaded, generated, or left in files by a generation.
* `not_readPublic_longKey` — a key that is loaded, and whose public file is refused.
-/

namespace SealedDrop

namespace KeyFile

open Rsa

variable {key : PublicKey}

/-! ### The file -/

theorem widthOf_le_of_bitLength_le {n width : Nat} (h : bitLength n ≤ 8 * width) : Bytes.widthOf n ≤ width := by
  unfold bitLength at h
  unfold Bytes.widthOf
  split <;> split at h <;> omega

/-- The modulus is not too long for a public key. -/
def IsShort (k : PublicKey) : Prop :=
  bitLength k.modulus ≤ PublicKey.modulusLimit

/-- The numbers of a usable public key with a modulus that is not too long can be read. -/
theorem length_numbers_lt (hk : key.IsUsable) (h : IsShort key) :
    ([key.modulus, key.exponent].flatMap Der.integer).length < Der.lengthLimit := by
  have hmodulus : Bytes.widthOf key.modulus ≤ 512 := widthOf_le_of_bitLength_le h
  have hexponent : Bytes.widthOf key.exponent ≤ 5 := Bytes.widthOf_le (lt_of_le_of_lt hk.2.2.2.2 (by decide))
  have hwidth : ∀ n ∈ [key.modulus, key.exponent], Bytes.widthOf n ≤ 512 := by
    simp only [List.forall_mem_cons, List.not_mem_nil]
    exact ⟨hmodulus, hexponent.trans (by decide), fun _ h => h.elim⟩
  have hlimit : 2 * (512 + 2 + (Der.length (512 + 1)).length) < Der.lengthLimit := by decide
  exact (Der.length_flatMap_integer_le hwidth).trans_lt hlimit

/-- The file of a usable key with such a modulus is read as this key. -/
theorem readPublic_publicText_of_isShort (hk : key.IsUsable) (h : IsShort key) : readPublic (publicText key) = .ok key :=
  readPublic_publicText hk h (length_numbers_lt hk h)

/-- That of any other key is refused, as what it holds, if it can be read at all, are the numbers of this key. -/
theorem readPublic_publicText_of_not_isShort (h : ¬ IsShort key) :
    readPublic (publicText key) = .error (.crypto "Failed to parse public key: not a usable key") := by
  have hnone : publicKey? (publicText key) = none := by
    rw [Option.eq_none_iff_forall_ne_some]
    intro key' hkey'
    obtain ⟨hdocument, hsize, -, hshort⟩ := publicKey?_eq_some_iff.mp hkey'
    rw [publicText, Pem.decode?_encode _ (Der.sequence_ne_nil _), Option.some.injEq] at hdocument
    have hsame := Der.eq_of_sequence_eq hdocument rfl hsize
    rw [← (List.cons.inj hsame).1] at hshort
    exact h hshort
  have htext : (text? (publicText key)).isNone = false := by
    rw [← Option.not_isSome, publicText, Pem.isSome_text?_encode]
    rfl
  rw [readPublic_eq, htext, hnone, if_neg (by decide)]

/-- The contents of a file show a public key: they are a labelled block with its two numbers, and unless its modulus is too long they
are read as this key. -/
structure Shows (contents : Bytes) (k : PublicKey) : Prop where
  /-- The label and the two numbers. -/
  block : ∃ document, Pem.decode? "RSA PUBLIC KEY" contents = some document ∧
    Der.sequence? 2 document = some [k.modulus, k.exponent]
  /-- What a reader makes of it. -/
  read : bitLength k.modulus ≤ 4096 → readPublic contents = .ok k

/-- The public half of a key whose file can be written is in its own file. -/
theorem shows_publicText {k : PrivateKey} {file : Bytes} (hk : k.IsUsable) (hfile : privateText k = .ok file) :
    Shows (publicText k.toPublic) k.toPublic := by
  refine ⟨⟨_, Pem.decode?_encode _ (Der.sequence_ne_nil _), Der.sequence?_sequence ?_⟩, readPublic_publicText_of_isShort hk.1⟩
  -- The two numbers are among those of the private file, which is not too long to be read.
  obtain ⟨-, hkey⟩ := readPrivate_eq_ok_iff.mp (readPrivate_privateText hk hfile)
  obtain ⟨x, y, z, -, hlength, -⟩ := privateKey?_eq_some_iff.mp hkey
  simp only [List.flatMap_cons, List.length_append, List.flatMap_nil, List.length_nil] at hlength ⊢
  omega

end KeyFile

namespace Exchange

open Op Remote Credentials Rsa KeyFile

variable {k : PrivateKey} {file : Bytes} {name : KeyName} {u : Remote}

/-! ### At a remote -/

/-- A remote refuses to register what it does not read as a public key, and changes nothing. -/
theorem serve_addKeyRequest_of_error (u : Remote) {e : Error} (h : readPublic file = .error e) (name : KeyName) :
    u.serve (addKeyRequest file name) = (reply 400 "key is not an RSA public key", u) := by
  rw [serve_eq_addKey, Remote.addKey]
  simp only [fields?_addKeyRequest, Base64.utf8_encodeText, Base64.decode_encode, h]

/-- A remote issues a token under a registered key that is long enough, whatever else it holds. -/
theorem execute_tokenRequest_of_size {key : PublicKey} (hkey : u.key? name.text = some key) (hsize : 166 ≤ key.size) :
    ∃ ciphertext, u.execute (tokenRequest name) none = (⟨200, ciphertext⟩, u.tokenIssued) := by
  have hlength : (utf8 u.nextToken.text).length = 36 := Uuid.length_hyphenated (u.entropy.length_peek 16)
  obtain ⟨-, ciphertext, hencrypt, -⟩ | ⟨hshort, -⟩ := BearerToken.encrypt_cases key
    ((u.entropy.skip 16).peek BearerToken.seedSize) (utf8 u.nextToken.text)
  · exact ⟨ciphertext, (execute_of_asksToken ⟨rfl, rfl⟩ none).trans
      (issueToken_of_encrypt (fields?_tokenRequest name) hkey hencrypt)⟩
  · omega

/-! ### The rule -/

/-- The rule for the public file of a private key. -/
structure Published (k : PrivateKey) : Prop where
  /-- The file is read as the public half, and if the modulus is too long it is refused. -/
  read : (IsShort k.toPublic → readPublic (publicText k.toPublic) = .ok k.toPublic) ∧
    (¬ IsShort k.toPublic →
      readPublic (publicText k.toPublic) = .error (.crypto "Failed to parse public key: not a usable key"))
  /-- A client that is enrolled registers it, from any machine that can load the file: no more than one refusal is in its way. -/
  registered : IsShort k.toPublic → ∀ (s : Settings) (path text : String) (m : Machine) (u : Remote) (who : Credentials)
    (own : PrivateKey) (name : KeyName), credentials s = .ok who → who.keyOn m = .ok own → u.Enrolled who.keyName own →
    u.rejectNext ≤ 1 → m.Loads path (publicText k.toPublic) → KeyName.ofString text = .ok name →
    CarriesKey u (publicText k.toPublic) name k.toPublic (Op.calls transport (addKey s path text) m u)
      (Op.run transport (addKey s path text) m u).1 (Op.run transport (addKey s path text) m u).2.2
  /-- If the modulus is too long, no client registers it, as none gets to call anyone; and a remote that is sent the file all the
  same changes nothing. -/
  barred : ¬ IsShort k.toPublic → (∀ (s : Settings) (path text : String) (m : Machine) (σ : Type) (t : Transport σ) (v : σ),
      m.Loads path (publicText k.toPublic) → ∃ e, Runs t (addKey s path text) m v [] (.error e) m v) ∧
    ∀ (u : Remote) (name : KeyName),
      u.serve (addKeyRequest (publicText k.toPublic) name) = (reply 400 "key is not an RSA public key", u)
  /-- A remote at which the public half is registered issues a token to it if the modulus is long enough, and fails otherwise; and
  the token is opened with a genuine private half. -/
  issued : ∀ (u : Remote) (name : KeyName), u.key? name.text = some k.toPublic →
    (166 ≤ k.toPublic.size → ∃ ciphertext, u.execute (tokenRequest name) none = (⟨200, ciphertext⟩, u.tokenIssued) ∧
      (k.IsGenuine → BearerToken.decrypt k ciphertext = .ok u.nextToken)) ∧
    (k.toPublic.size < 166 → (u.execute (tokenRequest name) none).1.status = 500)

/-- A registration of a file that is refused ends before anyone is called. -/
theorem runs_addKey_of_error {σ : Type} (t : Transport σ) (s : Settings) (path text : String) (m : Machine) (v : σ) {e : Error}
    (hloads : m.Loads path file) (hread : readPublic file = .error e) :
    ∃ e, Runs t (addKey s path text) m v [] (.error e) m v := by
  unfold addKey
  cases KeyName.ofString text with
  | error e => exact ⟨_, (Runs.check _).bind_error _⟩
  | ok name =>
  cases credentials s with
  | error e => exact ⟨_, (Runs.check _).silent_bind ((Runs.check _).bind_error _)⟩
  | ok who =>
  have hload := (Secret.observes_load path).runs t m v
  have houtcome : (Secret.load path).outcome m = .ok ⟨file⟩ := Secret.outcome_load_eq_ok_iff.mpr hloads
  rw [houtcome] at hload
  exact ⟨_, (Runs.check _).silent_bind ((Runs.check _).silent_bind
    (hload.silent_bind ((Runs.check_of_eq hread).bind_error _)))⟩

/-- The public file of every usable key obeys the rule. -/
theorem published_of_isUsable (hk : k.IsUsable) : Published k := by
  refine ⟨⟨readPublic_publicText_of_isShort hk.1, readPublic_publicText_of_not_isShort⟩, ?_, ?_, ?_⟩
  · intro hshort s path text m u who own name hwho hown henrolled hreject hloads hname
    exact carriesKey_of_enrolled hwho hown henrolled hreject (Secret.outcome_load_eq_ok_iff.mpr hloads)
      (readPublic_publicText_of_isShort hk.1 hshort) hname
  · intro hlong
    have hread := readPublic_publicText_of_not_isShort hlong
    exact ⟨fun s path text m σ t v hloads => runs_addKey_of_error t s path text m v hloads hread,
      fun u name => serve_addKeyRequest_of_error u hread name⟩
  · intro u name hkey
    refine ⟨fun hsize => ?_, fun hsize => ?_⟩
    · obtain ⟨ciphertext, hissued⟩ := execute_tokenRequest_of_size hkey hsize
      refine ⟨ciphertext, hissued, fun hgenuine => ?_⟩
      obtain ⟨ciphertext', hissued', hopened⟩ := execute_tokenRequest ⟨hkey, hgenuine, hsize⟩
      rw [hissued] at hissued'
      cases hissued'
      exact hopened
    · have hsmall : ∀ k', u.key? name.text = some k' → k'.size < 166 := by
        intro k' hk'
        rw [hkey] at hk'
        cases hk'
        exact hsize
      obtain ⟨response, entropy, hstatus, hexecute⟩ := execute_tokenRequest_of_barred hsmall
      rw [hexecute, hstatus, hkey]
      rfl

/-- **The public file of a key pair**: on every machine, that of every key which is loaded, and of every key which is generated,
whatever length is asked for, obeys the rule; and a generation of key files that succeeds leaves the two files of such a key, of which
the public one can be loaded if the machine is reliable. -/
theorem publicFile_exact {σ : Type} (t : Transport σ) (m : Machine) (v : σ) :
    (∀ (path : String) (k : PrivateKey), (loadPrivate path).outcome m = .ok k → Published k) ∧
    (∀ (bits : Nat) (l : List Call) (k : PrivateKey) (m' : Machine) (v' : σ),
      Runs t (Generation.generate bits) m v l (.ok k) m' v' → bitLength k.toPublic.modulus = bits ∧ Published k) ∧
    ∀ (privatePath publicPath : String) (bits : Nat) (l : List Call) (m' : Machine) (v' : σ),
      Runs t (KeyGeneration.run privatePath publicPath bits) m v l (.ok ()) m' v' →
        ∃ k, KeyGeneration.Matching m' privatePath publicPath bits k ∧ Published k ∧
          (m.IsReliable → m'.Loads publicPath (publicText k.toPublic)) := by
  refine ⟨fun path k h => published_of_isUsable (usable_of_loadPrivate h), ?_, ?_⟩
  · intro bits l k m' v' h
    obtain ⟨husable, hlength⟩ := Generation.usable_of_generate h
    exact ⟨hlength, published_of_isUsable husable⟩
  · intro privatePath publicPath bits l m' v' h
    obtain ⟨k, hmatching⟩ := KeyGeneration.matching_of_run h
    refine ⟨k, hmatching, published_of_isUsable hmatching.usable, fun hreliable => ?_⟩
    have hreliable' : m'.IsReliable := by
      intro b
      rw [h.frame.delivery]
      exact hreliable b
    exact hreliable'.loads hmatching.publicFile

/-- A machine without a file, whose random bytes give two small primes. -/
def factory : Machine where
  entropy := ⟨fun n => if n < 2 then 5 else 17, 0⟩

/-- A key is generated there and can be written, and nothing but randomness is used up. -/
theorem exists_generate_factory : ∃ l k m' v', Runs silent (Generation.generate 18) factory () l (.ok k) m' v' ∧
    (∃ file, privateText k = .ok file) ∧ m'.tree = {} ∧ m'.faults = [] := by
  have hkey : ((Op.run silent (Generation.generate 18) factory ()).1.toOption.any fun k => (privateText k).isOk) = true := by
    decide +kernel
  have htree : (Op.run silent (Generation.generate 18) factory ()).2.1.tree = {} := by decide +kernel
  have hfaults : (Op.run silent (Generation.generate 18) factory ()).2.1.faults = [] := by decide +kernel
  obtain ⟨l, x, m', v', hrun⟩ := exists_runs silent (Generation.generate 18) factory ()
  rw [hrun.run_eq] at hkey htree hfaults
  obtain ⟨k, hx, hfile⟩ := (Option.any_eq_true _ _).mp hkey
  cases x with
  | error e => cases hx
  | ok k' =>
    cases hx
    cases hwritten : privateText k with
    | error e =>
      rw [hwritten] at hfile
      cases hfile
    | ok file => exact ⟨l, k, m', v', hrun, ⟨file, hwritten⟩, htree, hfaults⟩

/-- A generation of key files succeeds there. -/
theorem exists_run_factory : ∃ l m' v', Runs silent (KeyGeneration.run "private" "public" 18) factory () l (.ok ()) m' v' := by
  obtain ⟨l, k, m', v', hkey, ⟨file, hfile⟩, htree, hfaults⟩ := exists_generate_factory
  have hless : FileWriter.Faultless m' := by
    rw [FileWriter.Faultless, hfaults]
    exact List.forall_mem_nil _
  have hdir : m'.workDir = [] := hkey.frame.workDir
  have hprivate : FileTree.newRoute {} [] "private" = .ok ["private"] :=
    FileTree.newRoute_eq_ok_iff.mpr ⟨FileTree.names_of_innerSteps rfl rfl (by decide) (by decide), by decide, rfl⟩
  have hpublic : FileTree.newRoute {} [] "public" = .ok ["public"] :=
    FileTree.newRoute_eq_ok_iff.mpr ⟨FileTree.names_of_innerSteps rfl rfl (by decide) (by decide), by decide, rfl⟩
  have hr : m'.tree.newRoute m'.workDir "private" = .ok ["private"] := by
    rwa [htree, hdir]
  have hr' : (m'.tree.put ["private"] (.file (m'.masked KeyGeneration.privateMode) file)).newRoute m'.workDir "public" =
      .ok ["public"] := by
    rw [FileWriter.newRoute_put_iff hr, htree, hdir]
    exact ⟨hpublic, by decide⟩
  have hpath : Home.expand factory.home "private" = .ok "private" := rfl
  have hpath' : Home.expand factory.home "public" = .ok "public" := rfl
  obtain ⟨m'', hrun⟩ := KeyGeneration.exists_runs_run hpath hpath' (congrArg Except.isOk (FileTree.find_of_newRoute hprivate))
    (congrArg Except.isOk (FileTree.find_of_newRoute hpublic)) hkey hfile hless hr hr'
  exact ⟨l, m'', v', hrun⟩

/-- The key of the laptop has a public file that is read, and that a remote which issues tokens to it registers; and so has the key
that is generated in the factory, in the file where it was left. -/
theorem publicFile_exact_factory :
    ((loadPrivate "private").outcome laptop = .ok mersenneKey ∧
      readPublic (publicText mersenneKey.toPublic) = .ok mersenneKey.toPublic ∧
      ∃ ciphertext, office.execute (tokenRequest laptopName) none = (⟨200, ciphertext⟩, office.tokenIssued) ∧
        BearerToken.decrypt mersenneKey ciphertext = .ok office.nextToken) ∧
    ∃ (l : List Call) (m' : Machine) (v' : Unit) (k : PrivateKey),
      Runs silent (KeyGeneration.run "private" "public" 18) factory () l (.ok ()) m' v' ∧
      bitLength k.toPublic.modulus = 18 ∧ readPublic (publicText k.toPublic) = .ok k.toPublic ∧
      m'.Loads "public" (publicText k.toPublic) := by
  have hload : (loadPrivate "private").outcome laptop = .ok mersenneKey :=
    outcome_loadPrivate equipped_laptop.reliable (provides_of_name rfl rfl (by decide) (by decide) rfl rfl) readPrivate_mersenneKey
  have hpublished := (publicFile_exact silent laptop ()).1 "private" mersenneKey hload
  have hshort : IsShort mersenneKey.toPublic := by
    unfold IsShort
    decide +kernel
  obtain ⟨ciphertext, hissued, hopened⟩ := (hpublished.issued office laptopName enrolled_office.registered).1 enrolled_office.size
  refine ⟨⟨hload, hpublished.read.1 hshort, ciphertext, hissued, hopened isGenuine_mersenneKey⟩, ?_⟩
  obtain ⟨l, m', v', hrun⟩ := exists_run_factory
  obtain ⟨k, hmatching, hpublished', hloads⟩ := (publicFile_exact silent factory ()).2.2 "private" "public" 18 l m' v' hrun
  have hshort' : IsShort k.toPublic := hmatching.length.le.trans (by decide)
  exact ⟨l, m', v', k, hrun, hmatching.length, hpublished'.read.1 hshort', hloads equipped_laptop.reliable⟩

/-- A key with a modulus of 4314 bits. -/
def longKey : PrivateKey where
  toPublic := ⟨mersenne 61 * mersenne 4253, 17⟩
  exponent := ((mersenne 61 - 1) * (mersenne 4253 - 1) + 1) / 17
  p := mersenne 61
  q := mersenne 4253

/-- The numbers in the file of that key, without those that readers ignore. -/
def longIntegers : List Nat :=
  [0, longKey.toPublic.modulus, longKey.toPublic.exponent, longKey.exponent, longKey.p, longKey.q, 0, 0, 0]

/-- The key is loaded, but its public file is refused: by whoever reads it, by a client that would register it, and by a remote. -/
theorem not_readPublic_longKey :
    (loadPrivate "private").outcome (laptopHolding (Pem.encode privateLabel (Der.sequence longIntegers))) = .ok longKey ∧
      readPublic (publicText longKey.toPublic) = .error (.crypto "Failed to parse public key: not a usable key") ∧
      office.serve (addKeyRequest (publicText longKey.toPublic) laptopName) =
        (reply 400 "key is not an RSA public key", office) := by
  have husable : longKey.IsUsable := by decide +kernel
  have hwidth : ∀ n ∈ longIntegers, Bytes.widthOf n ≤ 540 := by decide +kernel
  have hread : readPrivate (Pem.encode privateLabel (Der.sequence longIntegers)) = .ok longKey :=
    readPrivate_encode husable ((Der.length_flatMap_integer_le hwidth).trans_lt (by decide))
  have hlong : ¬ IsShort longKey.toPublic := by
    unfold IsShort
    decide +kernel
  have hpublished := published_of_isUsable husable
  exact ⟨outcome_loadPrivate_eq_ok_iff.mpr ⟨_, loads_laptopHolding _, hread⟩, hpublished.read.2 hlong,
    (hpublished.barred hlong).2 office laptopName⟩

end Exchange

end SealedDrop
