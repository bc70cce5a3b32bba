import SealedDrop.Proofs.Delivery
import SealedDrop.Proofs.Drop
import SealedDrop.Proofs.Envelope
import SealedDrop.Proofs.KeyFile
import SealedDrop.Proofs.Pull
import Mathlib.NumberTheory.LucasLehmer

/-!
# Dropping and pulling

What one client drops at a remote in memory, another client with the same shared key can pull, whatever happens to the remote
in between, as long as nobody takes the name of that client away or overwrites the object.

## The model

* A client is its settings and its machine; `Equipped` says that these provide the shared key, a name and a private key.
* A destination is `Writable` if its path leads to a name in an existing directory. That is not enough for a pull: a
  destination `Accepts` a file if moreover its path ends in that name, and is short enough for a temporary file beside it.
* Everything that is written on the way is read back by its own lemma: the envelope, the checksum, the text of the reference,
  the identifier in the path, the name in the token request and the token itself. `runs_drop` and `runs_pull` put them
  together for one operation each, and `Remote.after_spared` spans the time between.
-/

namespace SealedDrop.Exchange

open Op Remote

variable {s s' : Settings} {m m' : Machine} {u : Remote} {key plaintext : Bytes} {name name' : KeyName} {k k' : Rsa.PrivateKey}

/-! ### Clients -/

/-- The settings and the machine of a client provide what its exchanges need. -/
structure Equipped (s : Settings) (m : Machine) (key : Bytes) (name : KeyName) (k : Rsa.PrivateKey) : Prop where
  /-- Files are delivered without a failure. -/
  reliable : m.IsReliable
  /-- The settings tell the name under which the public key is registered. -/
  keyName : s.registeredName = .ok name
  /-- The shared key is in its file. -/
  sharedKey : ∃ path, s.encryptionKeyPath = .ok path ∧ m.Provides path key
  /-- The private key is in its file. -/
  privateKey : ∃ path text, s.privateKeyPath = .ok path ∧ m.Provides path text ∧ KeyFile.readPrivate text = .ok k

/-- Both keys are found where the settings say, whatever has been drawn at random before. -/
theorem Equipped.exists_credentials (h : Equipped s m key name k) :
    ∃ keyPath who, s.encryptionKeyPath = .ok keyPath ∧ credentials s = .ok who ∧ who.keyName = name ∧
      ∀ e : Entropy, who.keyOn { m with entropy := e } = .ok k ∧
        (Secret.load keyPath).outcome { m with entropy := e } = .ok ⟨key⟩ := by
  obtain ⟨hreliable, hname, ⟨keyPath, hkeyPath, hkey⟩, ⟨path, text, hpath, htext, hread⟩⟩ := h
  refine ⟨keyPath, ⟨name, path⟩, hkeyPath, ?_, rfl, fun e => ⟨?_, ?_⟩⟩
  · unfold credentials
    rw [hname, hpath]
    rfl
  · exact KeyFile.outcome_loadPrivate (m := { m with entropy := e }) hreliable htext hread
  · exact Secret.outcome_load_of_provides (m := { m with entropy := e }) hreliable hkey

/-! ### Dropping -/

/-- A file that is provided is read. -/
theorem runs_readFile {σ : Type} (t : Transport σ) (hm : m.IsReliable) {path : String} {n : Node} {b : Bytes}
    (hn : m.tree.find m.workDir path = .ok n) (hdata : n.data? = some b) (v : σ) :
    Runs t (readFile path) m v [] (.ok b) m v := by
  obtain ⟨hsmooth, hcontents, -⟩ := hm.source hdata
  have hreads : (readFile path).outcome m = .ok b :=
    outcome_readFile_eq_ok_iff.mpr ⟨n, hn, hsmooth.isFaultless, hcontents.symm⟩
  have hrun := (observes_readFile path).runs t m v
  rwa [hreads] at hrun

/-- The envelope of a file is one that the shared key opens. -/
theorem runs_encryptFile {σ : Type} (t : Transport σ) {keyPath : String} (hkey : key ≠ [])
    (hload : (Secret.load keyPath).outcome m = .ok ⟨key⟩) (plaintext : Bytes) (v : σ) :
    ∃ envelope, Envelope.decrypt key envelope = .ok plaintext ∧
      Runs t (encryptFile keyPath plaintext) m v [] (.ok envelope)
        { m with entropy := m.entropy.skip Envelope.ivSize } v := by
  obtain ⟨keys, hkeys⟩ := Envelope.SubKeys.exists_derive hkey
  obtain ⟨envelope, hencrypt, -, -, hdecrypt⟩ :=
    Envelope.exists_encrypt_decrypt hkey (m.entropy.length_peek Envelope.ivSize) plaintext
  rw [Envelope.encrypt_of_derive hkeys, Except.ok.injEq] at hencrypt
  refine ⟨envelope, hdecrypt, ?_⟩
  rw [← hencrypt]
  exact runs_encryptFile_of_derive t hload hkeys plaintext v

/-- A drop by an enrolled client ends with a reference to an object that the remote holds, and that the shared key opens. -/
theorem runs_drop (hclient : Equipped s m key name k) (henrolled : u.Enrolled name k) (hkey : key ≠ [])
    (hreject : u.rejectNext ≤ 1) (hfixed : ∀ id, u.fixedId = some id → ObjectId.Safe id) {path : String}
    (hfile : m.Provides path plaintext) :
    ∃ l id envelope m₁ u₁, Runs transport (drop s path) m u l (.ok (.ofTransmitted ⟨id⟩ envelope)) m₁ u₁ ∧
      ObjectId.Safe id ∧ u₁.Holds id envelope ∧ u₁.keys = u.keys ∧ Envelope.decrypt key envelope = .ok plaintext := by
  obtain ⟨keyPath, who, hkeyPath, hwho, rfl, hkeys⟩ := hclient.exists_credentials
  obtain ⟨path', n, hpath, hn, hdata⟩ := hfile
  obtain ⟨envelope, hdecrypt, hencrypt⟩ := runs_encryptFile (m := m) transport hkey (hkeys m.entropy).2 plaintext u
  have hupload := fun (u₀ : Remote) (hkeeps : Keeps u u₀) =>
    serve_upload u₀ (fun id hid => hfixed id (hkeeps.fixedId.symm.trans hid)) envelope
  have hpath' : ¬ (Method.post = .post ∧ objectsPath = tokenPath) := by decide
  obtain ⟨l, u₀, hkeeps, hsend⟩ := runs_send_served (r := (Request.post objectsPath envelope).withContentType .octets)
    henrolled (hkeys (m.entropy.skip Envelope.ivSize)).1 hpath' hreject fun u₀ hkeeps => by
      obtain ⟨id, -, hreply, -⟩ := hupload u₀ hkeeps
      rw [hreply]
      rfl
  obtain ⟨id, hsafe, hreply, hholds, hserved⟩ := hupload u₀ hkeeps
  rw [hreply] at hsend
  refine ⟨l, id, envelope, { m with entropy := m.entropy.skip Envelope.ivSize }, _, ?_, hsafe, hholds,
    hserved.trans hkeeps.keys, hdecrypt⟩
  unfold drop
  refine (Runs.check_of_eq hkeyPath).silent_bind ((Runs.check_of_eq hwho).silent_bind ((runs_expandHome hpath).silent_bind
    ((runs_readFile transport hclient.reliable hn hdata u).silent_bind (hencrypt.silent_bind
      (hsend.bind_silent ((Runs.check_of_eq hsafe.storedId).silent_bind ?_))))))
  exact Runs.pure _

/-! ### Pulling -/

/-- A destination can be written: its path leads to a name in an existing directory, no directory has the name, and nothing
stands in the way of a temporary file beside it. -/
structure Writable (m : Machine) (destination path : String) (place : Route) (file : String) : Prop where
  /-- A leading tilde stands for the home directory. -/
  expanded : Home.expand m.home destination = .ok path
  /-- The path leads to a name in an existing directory. -/
  names : m.tree.Names m.workDir path (file :: place)
  /-- No directory has the name. -/
  free : m.tree.node? (file :: place) ≠ some .directory
  /-- The name leaves room for what a temporary name adds to it. -/
  name_le : file.utf8ByteSize ≤ 213
  /-- No entry has the temporary name that will be drawn. -/
  unused : FileWriter.Unused m path
  /-- No access fails. -/
  faultless : FileWriter.Faultless m

/-- A destination takes a pulled file: it can be written, its path ends in the name, and leaves room for a temporary one. -/
structure Accepts (m : Machine) (destination path : String) (place : Route) (file : String) : Prop
    extends Writable m destination path place file where
  /-- No slash follows the name. -/
  plain : FileTree.endsInSlash path = false
  /-- The path leaves room for what a temporary name adds to it. -/
  path_le : path.utf8ByteSize ≤ 4053

theorem Accepts.takes {destination path file : String} {place : Route} (h : Accepts m destination path place file) :
    m.tree.Takes m.workDir path (file :: place) :=
  ⟨h.names, h.plain, h.free⟩

/-- The temporary file can be created beside a destination that takes a file. -/
theorem Accepts.exists_newRoute {destination path file : String} {place : Route}
    (h : Accepts m destination path place file) :
    ∃ directory, Path.split? path = some (directory, file) ∧
      m.tree.newRoute m.workDir (FileWriter.sibling directory file (m.entropy.peek 16)) =
        .ok (FileWriter.hidden file (m.entropy.peek 16) :: place) := by
  have hname := h.name_le
  have hpath := h.path_le
  obtain ⟨directory, hsplit, hsize, hnew⟩ := FileWriter.newRoute_sibling h.takes (m.entropy.length_peek 16)
  refine ⟨directory, hsplit, (hnew (h.unused directory file hsplit)).trans (if_pos ⟨?_, ?_⟩)⟩
  · change _ ≤ 255
    omega
  · change _ < 4096
    omega

/-- Nothing stands in the way of replacing it. -/
theorem Accepts.not_hindrance {destination path file directory : String} {place : Route}
    (h : Accepts m destination path place file) (hsplit : Path.split? path = some (directory, file)) :
    ¬ FileWriter.Hindrance m (FileWriter.sibling directory file (m.entropy.peek 16)) path := by
  obtain ⟨directory', hsplit', hnew⟩ := h.exists_newRoute
  rw [hsplit] at hsplit'
  cases hsplit'
  rintro (hfault | hnone | htakes)
  · exact hfault h.faultless
  · exact hnone _ hnew
  · exact htakes _ h.takes

/-- A destination that takes a file has its old contents replaced. -/
theorem runs_replace_accepts {σ : Type} (t : Transport σ) {destination path file : String} {place : Route}
    (h : Accepts m destination path place file) (b : Bytes) (mode : Nat) (v : σ) :
    ∃ m₁, Runs t (FileWriter.replace path b mode) m v [] (.ok ()) m₁ v ∧
      m₁.tree = m.tree.put (file :: place) (.file (m.masked mode) b) := by
  obtain ⟨directory, hsplit, hnew⟩ := h.exists_newRoute
  exact FileWriter.runs_replace_of_opens t h.faultless h.unused h.takes ⟨directory, file, _, hsplit, hnew⟩ b mode v

/-- An enrolled client downloads what the remote holds. -/
theorem exists_downloaded (hclient : Equipped s m key name k) (henrolled : u.Enrolled name k)
    (hreject : u.rejectNext ≤ 1) (hcorrupt : u.corruptDownloads = false) {id : String} {envelope : Bytes}
    (hid : ObjectId.Safe id) (hobject : u.object? id = some envelope) (hdecrypt : Envelope.decrypt key envelope = .ok plaintext)
    {destination path : String} (hpath : Home.expand m.home destination = .ok path) :
    ∃ l u₁, Downloaded transport s (.ofTransmitted ⟨id⟩ envelope) destination m u l u₁ path plaintext := by
  obtain ⟨keyPath, who, hkeyPath, hwho, rfl, hkeys⟩ := hclient.exists_credentials
  have hget : ∀ u₀, Keeps u u₀ → u₀.serve (.get (ObjectId.path ⟨id⟩)) = (⟨200, envelope⟩, u₀) := fun u₀ hkeeps =>
    serve_get ((hkeeps.object?_eq id).trans hobject) hid.1 (hkeeps.corruptDownloads.trans hcorrupt)
  obtain ⟨l, u₀, hkeeps, hsend⟩ := runs_send_served henrolled (hkeys m.entropy).1 (r := .get (ObjectId.path ⟨id⟩))
    (fun hr => by cases hr.1) hreject fun u₀ hkeeps => by rw [hget u₀ hkeeps]; rfl
  rw [hget u₀ hkeeps] at hsend
  exact ⟨l, u₀, .intro hkeyPath hwho hpath hsend (Checksum.isOf_ofBytes envelope)
    (Secret.outcome_load_eq_ok_iff.mp (hkeys m.entropy).2) hdecrypt⟩

/-- A pull by an enrolled client puts the plaintext in place if the remote holds the envelope. -/
theorem runs_pull (hclient : Equipped s m key name k) (henrolled : u.Enrolled name k)
    (hreject : u.rejectNext ≤ 1) (hcorrupt : u.corruptDownloads = false) {id : String} {envelope : Bytes}
    (hid : ObjectId.Safe id) (hobject : u.object? id = some envelope) (hdecrypt : Envelope.decrypt key envelope = .ok plaintext)
    {destination path file : String} {place : Route} (h : Accepts m destination path place file) :
    ∃ l m₁ u₁, Runs transport (pullReference s (.ofTransmitted ⟨id⟩ envelope) destination) m u l (.ok ()) m₁ u₁ ∧
      m₁.tree = m.tree.put (file :: place) (.file (m.masked pulledMode) plaintext) := by
  obtain ⟨l, u₁, hdownloaded⟩ := exists_downloaded hclient henrolled hreject hcorrupt hid hobject hdecrypt h.expanded
  obtain ⟨m₁, hreplace, htree⟩ := runs_replace_accepts transport h plaintext pulledMode u₁
  exact ⟨l, m₁, u₁, hdownloaded.runs_pullReference hreplace, htree⟩

/-! ### Both together -/

/-- **Drop, then pull**: what an enrolled client drops comes back byte for byte to every enrolled client with the same shared
key, on any machine, through the text of the reference with any white space around it, whatever happened to the remote in
between that spared the name of the second client. -/
theorem drop_then_pull {path : String} (hkey : key ≠ []) (hclient : Equipped s m key name k) (henrolled : u.Enrolled name k)
    (henrolled' : u.Enrolled name' k') (hreject : u.rejectNext ≤ 1) (hfixed : ∀ id, u.fixedId = some id → ObjectId.Safe id)
    (hfile : m.Provides path plaintext) :
    ∃ r m₁ u₁, run transport (drop s path) m u = (.ok r, m₁, u₁) ∧
      ∀ (events : List Event) (before after : String) (s' : Settings) (m' : Machine) (destination path' file : String)
        (place : Route), Spared name'.text u₁ events → (u₁.after events).rejectNext ≤ 1 →
        (u₁.after events).corruptDownloads = false → (∀ c ∈ before.toList, Text.isBlank c = true) →
        (∀ c ∈ after.toList, Text.isBlank c = true) → Equipped s' m' key name' k' →
        Accepts m' destination path' place file →
        ∃ m₂ u₂, run transport (pull s' (before ++ r.text ++ after) destination) m' (u₁.after events) = (.ok (), m₂, u₂) ∧
          ∀ q, m₂.tree.node? q = if q = file :: place then some (.file (m'.masked 0o644) plaintext) else m'.tree.node? q := by
  obtain ⟨l, id, envelope, m₁, u₁, hdrop, hsafe, hholds, hkeys, hdecrypt⟩ :=
    runs_drop hclient henrolled hkey hreject hfixed hfile
  refine ⟨_, m₁, u₁, hdrop.run_eq, ?_⟩
  intro events before after s' m' destination path' file place hspared hreject' hcorrupt hbefore hafter hclient' haccepts
  obtain ⟨hname, hholds'⟩ := after_spared hholds hspared
  have henrolled₁ : (u₁.after events).Enrolled name' k' :=
    henrolled'.of_key? (hname.trans (by rw [key?, key?, hkeys]))
  obtain ⟨l', m₂, u₂, hpull, htree⟩ :=
    runs_pull hclient' henrolled₁ hreject' hcorrupt hsafe hholds'.object hdecrypt haccepts
  have hparse := (Reference.wellFormed_ofTransmitted hsafe envelope).parse_surround hbefore hafter
  refine ⟨m₂, u₂, ((Runs.check_of_eq hparse).silent_bind hpull).run_eq, fun q => ?_⟩
  rw [htree, FileTree.node?_put m'.tree _ haccepts.names.ne_nil]
  rfl

/-! ### A client on a laptop -/

/-- A private key whose factors are two Mersenne primes. -/
def mersenneKey : Rsa.PrivateKey where
  toPublic := ⟨mersenne 61 * mersenne 1279, 17⟩
  exponent := (14 * ((mersenne 61 - 1) * (mersenne 1279 - 1)) + 1) / 17
  p := mersenne 61
  q := mersenne 1279

theorem isUsable_mersenneKey : mersenneKey.IsUsable := by
  decide +kernel

theorem isGenuine_mersenneKey : mersenneKey.IsGenuine where
  usable := isUsable_mersenneKey
  prime_p := lucas_lehmer_sufficiency 61 (by norm_num) (by norm_num)
  prime_q := lucas_lehmer_sufficiency 1279 (by norm_num) (by norm_num)
  ne := by decide +kernel

/-- The numbers in the file of that key, without those that readers ignore. -/
def mersenneIntegers : List Nat :=
  [0, mersenneKey.toPublic.modulus, mersenneKey.toPublic.exponent, mersenneKey.exponent, mersenneKey.p, mersenneKey.q,
    0, 0, 0]

theorem length_mersenneIntegers_lt : (mersenneIntegers.flatMap Der.integer).length < Der.lengthLimit := by
  have hwidth : ∀ n ∈ mersenneIntegers, Bytes.widthOf n ≤ 512 := by decide +kernel
  exact (Der.length_flatMap_integer_le hwidth).trans_lt (by decide)

theorem readPrivate_mersenneKey :
    KeyFile.readPrivate (Pem.encode KeyFile.privateLabel (Der.sequence mersenneIntegers)) = .ok mersenneKey :=
  KeyFile.readPrivate_encode isUsable_mersenneKey length_mersenneIntegers_lt

/-- A machine with a shared key, a private key, a file to drop and an empty directory. -/
def laptop : Machine where
  tree := ⟨[(["shared"], .file 0o600 [1]),
    (["private"], .file 0o600 (Pem.encode KeyFile.privateLabel (Der.sequence mersenneIntegers))),
    (["in"], .file 0o644 [104, 105]),
    (["d"], .directory)]⟩
  entropy := ⟨fun _ => 7, 0⟩

/-- The settings of the client on it. -/
def laptopSettings : Settings where
  privateKey := some "private"
  keyName := some "laptop"
  encryptionKey := some "shared"

/-- The name of that client. -/
def laptopName : KeyName := ⟨"laptop", by decide⟩

/-- A remote at which that client is registered. -/
def office : Remote where
  entropy := ⟨fun n => UInt8.ofNat n, 0⟩
  keys := [("laptop", mersenneKey.toPublic)]

/-- What happens at the remote between the drop and the pull. -/
def afternoon : List Event :=
  [.corruptDownloads true, .rejectNext 1, .corruptDownloads false]

/-- A name in the root directory is a path to the file of that name. -/
theorem provides_of_name {m : Machine} {s : String} {mode : Nat} {b : Bytes} (hhome : Home.expand m.home s = .ok s)
    (hcheck : FileTree.checkPath s = .ok ()) (hsteps : FileTree.steps s = [.name s])
    (hsize : s.utf8ByteSize ≤ FileTree.nameLimit) (hstart : FileTree.start m.workDir s = [])
    (hn : m.tree.node? [s] = some (.file mode b)) : m.Provides s b := by
  have hwalk : m.tree.walk FileTree.linkLimit [] [.name s] = .ok [s] := by
    have hroot : m.tree.node? [] = some .directory := rfl
    rw [FileTree.walk, hroot]
    simp only [Nat.not_lt.mpr hsize, if_false, hn, FileTree.walk]
  refine ⟨s, .file mode b, hhome, ?_, rfl⟩
  simp only [FileTree.find, FileTree.locate, hcheck, hsteps, hstart, hwalk, hn, bind, Except.bind]
  rfl

theorem equipped_laptop : Equipped laptopSettings laptop [1] laptopName mersenneKey where
  reliable b := ⟨ReadEvent.isSmooth_ofBytes b, ReadEvent.contents_ofBytes b⟩
  keyName := by decide
  sharedKey := ⟨"shared", rfl, provides_of_name rfl rfl (by decide) (by decide) rfl rfl⟩
  privateKey := ⟨"private", _, rfl, provides_of_name rfl rfl (by decide) (by decide) rfl rfl,
    readPrivate_mersenneKey⟩

theorem provides_laptop : laptop.Provides "in" [104, 105] :=
  provides_of_name rfl rfl (by decide) (by decide) rfl rfl

theorem enrolled_office : office.Enrolled laptopName mersenneKey where
  registered := rfl
  genuine := isGenuine_mersenneKey
  size := by decide +kernel

theorem fixedId_office : ∀ id, office.fixedId = some id → ObjectId.Safe id := by
  intro id hid
  cases hid

theorem spared_afternoon (u : Remote) (name : String) : Spared name u afternoon := by
  have hreject : ∀ (u : Remote) n, u.Spares name (.rejectNext n) := fun _ _ => ⟨id, fun _ => id, UInt64.le_refl _⟩
  have hcorrupt : ∀ (u : Remote) b, u.Spares name (.corruptDownloads b) := fun _ _ => ⟨id, fun _ => id, UInt64.le_refl _⟩
  exact ⟨hcorrupt _ _, hreject _ _, hcorrupt _ _, trivial⟩

theorem unused_laptop (path : String) : FileWriter.Unused laptop path :=
  FileWriter.unused_of_forall_short (by decide) path

theorem faultless_laptop : FileWriter.Faultless laptop := by
  intro f hf
  cases hf

theorem accepts_laptop : Accepts laptop "out" "out" [] "out" where
  expanded := rfl
  names := FileTree.names_of_innerSteps rfl rfl (by decide) (by decide)
  free := by decide
  name_le := by decide
  unused := unused_laptop "out"
  faultless := faultless_laptop
  plain := by decide
  path_le := by decide

/-- The file comes back to the client that dropped it, although the remote refuses a request on the way. -/
theorem drop_then_pull_laptop :
    ([1] : Bytes) ≠ [] ∧ Equipped laptopSettings laptop [1] laptopName mersenneKey ∧
      office.Enrolled laptopName mersenneKey ∧ office.rejectNext ≤ 1 ∧
      (∀ id, office.fixedId = some id → ObjectId.Safe id) ∧ laptop.Provides "in" [104, 105] ∧
      ∃ r m₁ u₁, run transport (drop laptopSettings "in") laptop office = (.ok r, m₁, u₁) ∧
        Spared laptopName.text u₁ afternoon ∧ (u₁.after afternoon).rejectNext ≤ 1 ∧
        (u₁.after afternoon).corruptDownloads = false ∧ Accepts laptop "out" "out" [] "out" ∧
        ∃ m₂ u₂, run transport (pull laptopSettings (" " ++ r.text ++ "\n") "out") laptop (u₁.after afternoon) =
            (.ok (), m₂, u₂) ∧
          ∀ q, m₂.tree.node? q = if q = ["out"] then some (.file 0o644 [104, 105]) else laptop.tree.node? q := by
  have hreject : office.rejectNext ≤ 1 := by decide
  obtain ⟨r, m₁, u₁, hdrop, hpull⟩ := drop_then_pull (List.cons_ne_nil 1 []) equipped_laptop enrolled_office
    enrolled_office hreject fixedId_office provides_laptop
  have hspared := spared_afternoon u₁ laptopName.text
  have hbefore : ∀ c ∈ " ".toList, Text.isBlank c = true := List.all_eq_true.mp (by decide)
  have hafter : ∀ c ∈ "\n".toList, Text.isBlank c = true := List.all_eq_true.mp (by decide)
  refine ⟨List.cons_ne_nil 1 [], equipped_laptop, enrolled_office, hreject, fixedId_office, provides_laptop,
    r, m₁, u₁, hdrop, hspared, UInt32.le_refl _, rfl, accepts_laptop, ?_⟩
  exact hpull afternoon " " "\n" laptopSettings laptop "out" "out" "out" [] hspared (UInt32.le_refl _) rfl hbefore
    hafter equipped_laptop accepts_laptop

/-! ### Destinations that can be written and take no file -/

/-- A slash behind the name of a file makes no other step. -/
theorem writable_slash : Writable laptop "out/" "out/" [] "out" where
  expanded := rfl
  names := FileTree.names_of_innerSteps rfl rfl (by decide) (by decide)
  free := by decide
  name_le := by decide
  unused := unused_laptop "out/"
  faultless := faultless_laptop

/-- A path to a file in a directory, with this many slashes in front of the directory. -/
def slashes (n : Nat) : String :=
  String.ofList ('.' :: (List.replicate n '/' ++ "d/out".toList))

/-- Characters of one byte make a text of as many bytes. -/
theorem utf8Len_replicate {c : Char} (h : c.utf8Size = 1) (n : Nat) : String.utf8Len (List.replicate n c) = n := by
  induction n with
  | zero => rfl
  | succ n ih => rw [List.replicate_succ, String.utf8Len_cons, ih, h]

theorem utf8ByteSize_slashes (n : Nat) : (slashes n).utf8ByteSize = n + 6 := by
  rw [← String.utf8Len_toList, slashes, String.toList_ofList, String.utf8Len_cons, String.utf8Len_append, utf8Len_replicate rfl]
  rfl

theorem innerSteps_slashes (n : Nat) : FileTree.innerSteps (slashes (n + 1)) = [.here, .name "d", .name "out"] := by
  have hlist : (slashes (n + 1)).toList = ['.'] ++ '/' :: (List.replicate n '/' ++ "d/out".toList) := String.toList_ofList
  rw [FileTree.innerSteps_eq, hlist, FileTree.stepsOf_append_cons, FileTree.stepsOf_replicate_slash]
  decide

theorem checkPath_slashes {n : Nat} (hn : n < 4090) : FileTree.checkPath (slashes n) = .ok () := by
  have hnul : '\x00' ∉ (slashes n).toList := by
    rw [slashes, String.toList_ofList, List.mem_cons, List.mem_append, List.mem_replicate]
    rintro (h | ⟨-, h⟩ | h)
    · cases h
    · cases h
    · revert h
      decide
  have hsize := utf8ByteSize_slashes n
  have hne : slashes n ≠ "" := by
    intro hempty
    rw [hempty] at hsize
    cases hsize
  exact FileTree.checkPath_eq_ok hnul hne (by change _ < 4096; omega)

theorem writable_slashes {n : Nat} (hn : n < 4089) :
    Writable laptop (slashes (n + 1)) (slashes (n + 1)) ["d"] "out" where
  expanded := by
    have hlist : (slashes (n + 1)).toList = '.' :: (List.replicate (n + 1) '/' ++ "d/out".toList) := String.toList_ofList
    rw [Home.expand, hlist]
    rfl
  names := by
    have hroot : laptop.tree.node? [] = some .directory := rfl
    have hd : laptop.tree.node? ["d"] = some .directory := rfl
    have hsize : ¬ FileTree.nameLimit < "d".utf8ByteSize := by decide
    have hwalk : laptop.tree.walk FileTree.linkLimit [] [.here, .name "d"] = .ok ["d"] := by
      rw [FileTree.walk, hroot]
      simp only
      rw [FileTree.walk, hroot]
      simp only [if_neg hsize, hd]
      rw [FileTree.walk]
    have hstart : FileTree.start laptop.workDir (slashes (n + 1)) = [] := ite_self _
    refine ⟨["d"], "out", FileTree.parent_eq_ok_iff.mpr ⟨checkPath_slashes (by omega), ?_, hd, ?_⟩, by decide, rfl⟩
    · rw [innerSteps_slashes, hstart]
      exact hwalk
    · rw [innerSteps_slashes]
      rfl
  free := by decide
  name_le := by decide
  unused := unused_laptop _
  faultless := faultless_laptop

theorem split?_slashes (n : Nat) :
    Path.split? (slashes n) = some (String.ofList ('.' :: (List.replicate n '/' ++ ['d'])), "out") := by
  have hend : "d/out".toList.reverse = ['t', 'u', 'o', '/', 'd'] := by decide
  have hreverse : (slashes n).toList.reverse = 't' :: 'u' :: 'o' :: '/' :: 'd' :: (List.replicate n '/' ++ ['.']) := by
    rw [slashes, String.toList_ofList, List.reverse_cons, List.reverse_append, hend, List.reverse_replicate,
      List.append_assoc]
    rfl
  have hback : '.' :: (List.replicate n '/' ++ ['d']) = ('d' :: (List.replicate n '/' ++ ['.'])).reverse := by
    rw [List.reverse_cons, List.reverse_append, List.reverse_replicate]
    rfl
  unfold Path.split?
  rw [hreverse, hback]
  rfl

/-- No slash in front of the directory is left out of the path of a sibling. -/
theorem utf8ByteSize_sibling_slashes (n : Nat) {random : Bytes} (h : random.length = 16) :
    (FileWriter.sibling (String.ofList ('.' :: (List.replicate n '/' ++ ['d']))) "out" random).utf8ByteSize =
      n + 48 := by
  have hdirectory : (String.ofList ('.' :: (List.replicate n '/' ++ ['d']))).toList =
      ('.' :: List.replicate n '/') ++ ['d'] := String.toList_ofList
  have hhidden : String.utf8Len (FileWriter.hidden "out" random).toList = 45 := by
    rw [String.utf8Len_toList, FileWriter.utf8ByteSize_hidden h]
    rfl
  rw [FileWriter.sibling_eq, ← String.utf8Len_toList]
  rcases FileTree.toList_join (String.ofList ('.' :: (List.replicate n '/' ++ ['d'])))
      (FileWriter.isAbsolute_hidden "out" random) with ⟨hempty, -⟩ | ⟨l, hslash, -⟩ | ⟨-, -, hjoin⟩
  · rw [hempty] at hdirectory
    cases hdirectory
  · rw [hdirectory] at hslash
    have hlast := congrArg List.getLast? hslash
    rw [List.getLast?_concat, List.getLast?_concat] at hlast
    exact absurd hlast (by decide)
  · have hdot : ('.').utf8Size = 1 := rfl
    have hslash : ('/').utf8Size = 1 := rfl
    have hd : ('d').utf8Size = 1 := rfl
    rw [hjoin, hdirectory]
    simp only [String.utf8Len_append, String.utf8Len_cons, String.utf8Len_nil, utf8Len_replicate (show '/'.utf8Size = 1 from rfl), hhidden]
    omega

theorem not_opens_slashes {n : Nat} (hn : 4048 ≤ n) : ¬ FileWriter.Opens m (slashes n) := by
  rintro ⟨directory, name, q, hsplit, hroute⟩
  rw [split?_slashes] at hsplit
  cases hsplit
  obtain ⟨⟨place, s, hparent, -, -⟩, -, -⟩ := FileTree.newRoute_eq_ok_iff.mp hroute
  obtain ⟨hcheck, -⟩ := FileTree.parent_eq_ok_iff.mp hparent
  have hsize := FileTree.size_lt_of_checkPath hcheck
  rw [utf8ByteSize_sibling_slashes n (m.entropy.length_peek 16)] at hsize
  change _ < 4096 at hsize
  omega

/-- A pull to a destination that does not take a file fails, even if it can be written. -/
theorem run_pull_ne_ok {σ : Type} (t : Transport σ) {v : σ} {reference destination path file : String} {place : Route}
    (h : Writable m destination path place file)
    (hno : FileTree.endsInSlash path = true ∨ ¬ FileWriter.Opens m path) :
    (run t (pull s reference destination) m v).1 ≠ .ok () := by
  intro hok
  have hunused : ∀ path, Home.expand m.home destination = .ok path → FileWriter.Unused m path := by
    intro path' hpath'
    rw [h.expanded] at hpath'
    cases hpath'
    exact h.unused
  obtain ⟨path', route, hpath', htakes, hopens⟩ := exists_takes_of_pull hunused hok
  rw [h.expanded] at hpath'
  cases hpath'
  rcases hno with hslash | hno
  · rw [htakes.plain] at hslash
    cases hslash
  · exact hno hopens

/-- It is not enough that a destination can be written: the file does not come back to a name with a slash behind it, nor to
a path that has no room for the name of a temporary file. -/
theorem pull_fails_although_writable :
    Equipped laptopSettings laptop [1] laptopName mersenneKey ∧ office.Enrolled laptopName mersenneKey ∧
      office.rejectNext ≤ 1 ∧ office.fixedId = none ∧ laptop.Provides "in" [104, 105] ∧
      ∃ r m₁ u₁, run transport (drop laptopSettings "in") laptop office = (.ok r, m₁, u₁) ∧
        Spared laptopName.text u₁ afternoon ∧ (u₁.after afternoon).rejectNext ≤ 1 ∧
        (u₁.after afternoon).corruptDownloads = false ∧
        (Writable laptop "out/" "out/" [] "out" ∧
          (run transport (pull laptopSettings r.text "out/") laptop (u₁.after afternoon)).1 ≠ .ok ()) ∧
        (Writable laptop (slashes 4051) (slashes 4051) ["d"] "out" ∧
          (run transport (pull laptopSettings r.text (slashes 4051)) laptop (u₁.after afternoon)).1 ≠ .ok ()) := by
  have hreject : office.rejectNext ≤ 1 := by decide
  obtain ⟨l, id, envelope, m₁, u₁, hdrop, -⟩ := runs_drop equipped_laptop enrolled_office (List.cons_ne_nil 1 []) hreject
    fixedId_office provides_laptop
  have hslashes : Writable laptop (slashes 4051) (slashes 4051) ["d"] "out" := writable_slashes (by decide)
  exact ⟨equipped_laptop, enrolled_office, hreject, rfl, provides_laptop, _, m₁, u₁, hdrop.run_eq,
    spared_afternoon u₁ laptopName.text, UInt32.le_refl _, rfl,
    ⟨writable_slash, run_pull_ne_ok transport writable_slash (.inl (by decide))⟩,
    ⟨hslashes, run_pull_ne_ok transport hslashes (.inr (not_opens_slashes (by decide)))⟩⟩

end SealedDrop.Exchange
