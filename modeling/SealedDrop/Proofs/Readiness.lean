import SealedDrop.Proofs.RoundTrip

/-!
# Nobody is called before all is checked

Each of the three operations of a client checks what it can check by itself before it calls the remote. It calls just if every check
is passed, and otherwise the first that is not decides how it fails.

## The model

* A `Check` is a condition together with the failures that report its absence. `FirstFailure` says that a failure reports the first
  condition in a list that does not hold.
* The checks are stated without the code that makes them: which settings are usable, which paths expand, which files can be read
  (`Machine.Reads`) and loaded (`Machine.Loads`).
* `ChecksFirst` is the rule for an operation that makes some checks on what it is given, and then others on the machine.

## What is proved

* `ChecksFirst.check_bind` and `Gate.observes_bind` — an operation that begins with a check, or with a look at the machine, makes this
  check before those of the rest.
* `checks_first` — dropping, pulling and registering a key obey the rule, each with its own list of checks.
-/

namespace SealedDrop

/-- No key name is empty. -/
theorem KeyName.text_ne (name : KeyName) : name.text ≠ "" := by
  intro hempty
  have hallowed := name.allowed
  rw [hempty] at hallowed
  exact hallowed

namespace Exchange

open Op

variable {α β σ : Type} {m : Machine} {s : Settings}

/-! ### Checks -/

/-- A condition that is checked, and the failures that report that it does not hold. -/
structure Check where
  /-- The condition. -/
  Holds : Prop
  /-- What its absence is reported with. -/
  Reports : Error → Prop

/-- The failure reports the first condition that does not hold. -/
inductive FirstFailure : List Check → Error → Prop where
  /-- This is the first in the list. -/
  | here {c : Check} {rest : List Check} {e : Error} (hc : ¬ c.Holds) (he : c.Reports e) : FirstFailure (c :: rest) e
  /-- It is one of the rest. -/
  | later {c : Check} {rest : List Check} {e : Error} (hc : c.Holds) (h : FirstFailure rest e) : FirstFailure (c :: rest) e

/-- All conditions hold. -/
def AllHold (checks : List Check) : Prop :=
  ∀ c ∈ checks, c.Holds

theorem allHold_nil : AllHold [] := fun _ hc => absurd hc List.not_mem_nil

theorem allHold_cons {c : Check} {rest : List Check} : AllHold (c :: rest) ↔ c.Holds ∧ AllHold rest :=
  List.forall_mem_cons

/-- An outcome that tells whether the condition holds. -/
structure Check.Describes (c : Check) (x : Except Error α) : Prop where
  /-- The check is passed. -/
  ok : ∀ a, x = .ok a → c.Holds
  /-- The check is not passed. -/
  error : ∀ e, x = .error e → ¬ c.Holds ∧ c.Reports e

namespace Check.Describes

variable {c : Check} {x : Except Error α}

theorem of_ok {a : α} (h : c.Holds) : c.Describes (.ok a : Except Error α) :=
  ⟨fun _ _ => h, fun e he => (by cases he)⟩

theorem of_error {e : Error} (hnot : ¬ c.Holds) (hreports : c.Reports e) : c.Describes (.error e : Except Error α) := by
  refine ⟨fun a ha => (by cases ha), fun e' he => ?_⟩
  cases he
  exact ⟨hnot, hreports⟩

/-- It does if it succeeds just where the condition holds. -/
theorem of_iff (hok : (∃ a, x = .ok a) ↔ c.Holds) (hreports : ∀ e, x = .error e → c.Reports e) : c.Describes x := by
  cases x with
  | ok a => exact of_ok (hok.mp ⟨a, rfl⟩)
  | error e =>
    refine of_error (fun hholds => ?_) (hreports e rfl)
    obtain ⟨a, ha⟩ := hok.mpr hholds
    cases ha

end Check.Describes

/-- The rule for an operation that makes these checks in order before it calls the remote: some on what it is given, and then some on
the machine. -/
structure ChecksFirst (op : Op α) (given : List Check) (found : Machine → List Check) : Prop where
  /-- The remote is called just if all checks are passed. -/
  called : ∀ (σ : Type) (t : Transport σ) (m : Machine) (u : σ), Op.calls t op m u ≠ [] ↔ AllHold (given ++ found m)
  /-- Otherwise the first that is not passed decides how the operation fails, and nothing changes. -/
  stopped : ∀ m, ¬ AllHold (given ++ found m) → ∃ e, FirstFailure (given ++ found m) e ∧
    ∀ (σ : Type) (t : Transport σ) (u : σ), Op.calls t op m u = [] ∧ Op.run t op m u = (.error e, m, u)
  /-- If it is one on what is given, the operation fails in the same way on every machine. -/
  regardless : ¬ AllHold given → ∃ e, FirstFailure given e ∧
    ∀ (σ : Type) (t : Transport σ) (m : Machine) (u : σ), Op.calls t op m u = [] ∧ Op.run t op m u = (.error e, m, u)

/-! ### Operations that begin with a check -/

/-- On this machine the operation makes these checks before it calls the remote. -/
structure Gate (op : Op α) (m : Machine) (checks : List Check) : Prop where
  /-- If all are passed, the remote is called. -/
  passed : AllHold checks → ∀ (σ : Type) (t : Transport σ) (u : σ), Op.calls t op m u ≠ []
  /-- Otherwise the first that is not decides. -/
  stopped : ¬ AllHold checks → ∃ e, FirstFailure checks e ∧
    ∀ (σ : Type) (t : Transport σ) (u : σ), Runs t op m u [] (.error e) m u

/-- An operation that looks at the machine first makes the check which is described by what it sees. -/
theorem Gate.observes_bind {op : Op α} {f : α → Op β} {c : Check} {checks : List Check} (hop : Observes op)
    (hc : c.Describes (op.outcome m)) (hrest : ∀ a, op.outcome m = .ok a → Gate (f a) m checks) :
    Gate (op >>= f) m (c :: checks) := by
  cases hx : op.outcome m with
  | ok a =>
    have hholds := hc.ok a hx
    have hgate := hrest a hx
    -- What only looks at the machine leaves it as it is, so that the rest begins where the whole did.
    have hop' : ∀ (σ : Type) (t : Transport σ) (u : σ), Runs t op m u [] (.ok a) m u := fun σ t u => hx ▸ hop.runs t m u
    constructor
    · intro hall σ t u
      obtain ⟨l, x, m', u', hf⟩ := exists_runs t (f a) m u
      have hne := hgate.passed (allHold_cons.mp hall).2 σ t u
      rw [hf.calls_eq] at hne
      rwa [((hop' σ t u).silent_bind hf).calls_eq]
    · intro hnot
      obtain ⟨e, he, hf⟩ := hgate.stopped fun hall => hnot (allHold_cons.mpr ⟨hholds, hall⟩)
      exact ⟨e, .later hholds he, fun σ t u => (hop' σ t u).silent_bind (hf σ t u)⟩
  | error e =>
    obtain ⟨hnot, hreports⟩ := hc.error e hx
    constructor
    · intro hall
      exact absurd (allHold_cons.mp hall).1 hnot
    · intro _
      exact ⟨e, .here hnot hreports, fun σ t u => (hx ▸ hop.runs t m u : Runs t op m u [] (.error e) m u).bind_error f⟩

namespace ChecksFirst

variable {given : List Check} {found : Machine → List Check} {c : Check}

/-- Where there is nothing to check in what is given, the checks on each machine are all. -/
theorem of_gate {op : Op α} (h : ∀ m, Gate op m (found m)) : ChecksFirst op [] found where
  called := by
    intro σ t m u
    constructor
    · intro hne
      by_contra hnot
      obtain ⟨e, -, hruns⟩ := (h m).stopped hnot
      exact hne (hruns σ t u).calls_eq
    · intro hall
      exact (h m).passed hall σ t u
  stopped := by
    intro m hnot
    obtain ⟨e, he, hruns⟩ := (h m).stopped hnot
    exact ⟨e, he, fun σ t u => ⟨(hruns σ t u).calls_eq, (hruns σ t u).run_eq⟩⟩
  regardless := fun hnot => absurd allHold_nil hnot

/-- An operation that begins with a check makes it before those of the rest. -/
theorem check_bind {x : Except Error α} {f : α → Op β} (hc : c.Describes x)
    (hrest : ∀ a, x = .ok a → ChecksFirst (f a) given found) : ChecksFirst (Op.check x >>= f) (c :: given) found := by
  cases x with
  | ok a =>
    have hholds := hc.ok a rfl
    obtain ⟨hcalled, hstopped, hregardless⟩ := hrest a rfl
    have hiff : ∀ checks, AllHold (c :: checks) ↔ AllHold checks := fun checks => allHold_cons.trans (and_iff_right hholds)
    constructor
    · intro σ t m u
      exact (hcalled σ t m u).trans (hiff _).symm
    · intro m hnot
      obtain ⟨e, he, hruns⟩ := hstopped m (mt (hiff _).mpr hnot)
      exact ⟨e, .later hholds he, hruns⟩
    · intro hnot
      obtain ⟨e, he, hruns⟩ := hregardless (mt (hiff _).mpr hnot)
      exact ⟨e, .later hholds he, hruns⟩
  | error e =>
    obtain ⟨hnot, hreports⟩ := hc.error e rfl
    have hall : ∀ checks, ¬ AllHold (c :: checks) := fun checks hall => hnot (allHold_cons.mp hall).1
    constructor
    · intro σ t m u
      exact iff_of_false (fun hne => hne rfl) (hall _)
    · intro m _
      exact ⟨e, .here hnot hreports, fun σ t u => ⟨rfl, rfl⟩⟩
    · intro _
      exact ⟨e, .here hnot hreports, fun σ t m u => ⟨rfl, rfl⟩⟩

end ChecksFirst

/-- An authenticated request begins with a call. -/
theorem calls_send_bind_ne (t : Transport σ) (who : Credentials) (r : Request) (f : Response → Op β) (m : Machine) (u : σ) :
    Op.calls t (who.send r >>= f) m u ≠ [] :=
  List.cons_ne_nil _ _

theorem gate_send (who : Credentials) (r : Request) (f : Response → Op β) (m : Machine) : Gate (who.send r >>= f) m [] where
  passed := fun _ _ t u => calls_send_bind_ne t who r f m u
  stopped := fun hnot => absurd allHold_nil hnot

/-! ### What is checked of the settings and the arguments -/

/-- The path in a setting is usable: there is one, and it is not empty. -/
def pathSetting (name : String) (value : Option String) : Check where
  Holds := ∃ path, value = some path ∧ path ≠ ""
  Reports e := e = .config ("Setting '" ++ name ++ "' not specified or empty")

theorem describes_requiredPath (name : String) (value : Option String) :
    (pathSetting name value).Describes (Settings.requiredPath name value) := by
  unfold Settings.requiredPath
  cases value with
  | none => exact .of_error (by simp [pathSetting]) rfl
  | some path =>
    by_cases hempty : path = ""
    · simp only [if_pos hempty]
      exact .of_error (by simp [pathSetting, hempty]) rfl
    · simp only [if_neg hempty]
      exact .of_ok ⟨path, rfl, hempty⟩

/-- A path that a setting gives is the one that it holds. -/
theorem eq_some_of_requiredPath {name path : String} {value : Option String} (h : Settings.requiredPath name value = .ok path) :
    value = some path := by
  unfold Settings.requiredPath at h
  cases value with
  | none => cases h
  | some path' =>
    simp only at h
    split at h
    · cases h
    · cases h
      rfl

/-- A text is that of a key name. -/
def newName (text : String) : Check where
  Holds := ∃ name : KeyName, name.text = text
  Reports e := e = .invalidInput ("Invalid key name '" ++ Text.escape text ++ "'")

theorem describes_ofString (text : String) : (newName text).Describes (KeyName.ofString text) := by
  unfold KeyName.ofString
  by_cases hallowed : KeyName.Allowed text.toList
  · rw [dif_pos hallowed]
    exact .of_ok ⟨⟨text, hallowed⟩, rfl⟩
  · rw [dif_neg hallowed]
    refine .of_error ?_ rfl
    rintro ⟨name, rfl⟩
    exact hallowed name.allowed

/-- The setting with the name of the client is usable: white space around it aside, it is the text of a key name. -/
def nameSetting (value : Option String) : Check where
  Holds := ∃ text, value = some text ∧ (newName (Text.trim text)).Holds
  Reports e :=
    (∀ text, value = some text → Text.trim text = "") ∧ e = .config "Setting 'key-name' not specified or empty" ∨
    ∃ text, value = some text ∧ Text.trim text ≠ "" ∧
      e = .config ("Setting 'key-name': Invalid input: Invalid key name '" ++ Text.escape (Text.trim text) ++ "'")

/-- The setting with the name of the client, without the early exits. -/
theorem registeredName_eq (s : Settings) :
    s.registeredName =
      match s.keyName with
      | none => .error (Settings.missing "key-name")
      | some text =>
        if Text.trim text = "" then .error (Settings.missing "key-name")
        else (KeyName.ofString (Text.trim text)).mapError fun e => .config ("Setting 'key-name': " ++ e.message) := by
  unfold Settings.registeredName Settings.requiredText
  cases s.keyName with
  | none => rfl
  | some text =>
    simp only [Option.map_some]
    by_cases hempty : Text.trim text = ""
    · rw [if_pos hempty, if_pos hempty]
      rfl
    · rw [if_neg hempty, if_neg hempty]
      simp only [bind, Except.bind]
      cases KeyName.ofString (Text.trim text) <;> rfl

theorem missing_keyName : Settings.missing "key-name" = .config "Setting 'key-name' not specified or empty" :=
  congrArg Error.config (by decide)

/-- A name in the setting is refused with the reason for which the text is no key name. -/
theorem message_newName (quoted : String) :
    "Setting 'key-name': " ++ (Error.invalidInput ("Invalid key name '" ++ quoted ++ "'")).message =
      "Setting 'key-name': Invalid input: Invalid key name '" ++ quoted ++ "'" := by
  have hmessage : ∀ what, (Error.invalidInput what).message = "Invalid input: " ++ what := fun _ => rfl
  have hstart : "Setting 'key-name': Invalid input: Invalid key name '" =
      "Setting 'key-name': " ++ ("Invalid input: " ++ "Invalid key name '") := by decide
  simp only [hmessage, hstart, String.append_assoc]

theorem describes_registeredName (s : Settings) : (nameSetting s.keyName).Describes s.registeredName := by
  rw [registeredName_eq]
  cases s.keyName with
  | none => exact .of_error (by simp [nameSetting]) (.inl ⟨by simp, missing_keyName⟩)
  | some text =>
    simp only
    by_cases hempty : Text.trim text = ""
    · rw [if_pos hempty]
      refine .of_error ?_ (.inl ⟨by simp [hempty], missing_keyName⟩)
      rintro ⟨text', heq, name, hname⟩
      cases heq
      exact name.text_ne (hname.trans hempty)
    · rw [if_neg hempty]
      obtain ⟨hok, herror⟩ := describes_ofString (Text.trim text)
      cases hof : KeyName.ofString (Text.trim text) with
      | ok name => exact .of_ok ⟨text, rfl, hok name hof⟩
      | error e =>
        obtain ⟨hnot, rfl⟩ := herror e hof
        refine .of_error ?_ (.inr ⟨text, rfl, hempty, congrArg Error.config (message_newName (Text.escape (Text.trim text)))⟩)
        rintro ⟨text', heq, hname⟩
        cases heq
        exact hnot hname

/-- A text is that of a well-formed reference, white space around it aside. -/
def referenceText (text : String) : Check where
  Holds := ∃ r : Reference, r.WellFormed ∧ Text.trim text = r.text
  Reports e := ∃ what, e = .format what

theorem describes_parse (text : String) : (referenceText text).Describes (Reference.parse text) :=
  .of_iff (exists_congr fun _ => Reference.parse_eq_ok_iff) fun _ => Reference.parse_eq_error

/-- The settings that tell who authenticates requests: the name and the path of the private key. -/
def clientSettings (s : Settings) : List Check :=
  [nameSetting s.keyName, pathSetting "private-key" s.privateKey]

/-- The settings of a client that exchanges objects. -/
def exchangeSettings (s : Settings) : List Check :=
  pathSetting "encryption-key" s.encryptionKey :: clientSettings s

/-- Telling who authenticates requests is to check two settings. -/
theorem check_credentials_bind (s : Settings) (f : Credentials → Op β) :
    Op.check (credentials s) >>= f =
      Op.check s.registeredName >>= fun name => Op.check s.privateKeyPath >>= fun path => f ⟨name, path⟩ := by
  unfold credentials
  cases s.registeredName with
  | error e => rfl
  | ok name => cases s.privateKeyPath <;> rfl

theorem ChecksFirst.credentials_bind {f : Credentials → Op β} {found : Machine → List Check}
    (hrest : ∀ who, ChecksFirst (f who) [] found) : ChecksFirst (Op.check (credentials s) >>= f) (clientSettings s) found := by
  rw [check_credentials_bind]
  exact .check_bind (describes_registeredName s) fun name _ =>
    .check_bind (describes_requiredPath "private-key" s.privateKey) fun path _ => hrest ⟨name, path⟩

/-! ### What is checked on the machine -/

/-- A tilde at the start of a path stands alone or before a slash, and the home directory is known then. -/
def pathExpands (path : String) (m : Machine) : Check where
  Holds := ∀ rest, path.toList = '~' :: rest → (rest = [] ∨ rest.head? = some '/') ∧ m.home ≠ none
  Reports e := ∃ rest, path.toList = '~' :: rest ∧
    (¬ (rest = [] ∨ rest.head? = some '/') ∧
        e = .invalidInput ("Cannot expand user-specific home directory in '" ++ path ++ "'") ∨
      (rest = [] ∨ rest.head? = some '/') ∧ m.home = none ∧ e = .invalidInput "Cannot determine home directory")

theorem describes_expand (path : String) (m : Machine) : (pathExpands path m).Describes (Home.expand m.home path) := by
  unfold Home.expand
  split
  · next rest hpath =>
    by_cases hplain : rest = [] ∨ rest.head? = some '/'
    · rw [if_pos hplain]
      cases hhome : m.home with
      | none => exact .of_error (fun hall => (hall rest hpath).2 hhome) ⟨rest, hpath, .inr ⟨hplain, hhome, rfl⟩⟩
      | some home =>
        have hholds : (pathExpands path m).Holds := by
          intro rest' hpath'
          rw [hpath] at hpath'
          cases hpath'
          exact ⟨hplain, by simp [hhome]⟩
        simp only
        split <;> exact .of_ok hholds
    · rw [if_neg hplain]
      exact .of_error (fun hall => hplain (hall rest hpath).1) ⟨rest, hpath, .inl ⟨hplain, rfl⟩⟩
  · next hno => exact .of_ok fun rest hpath => absurd hpath (hno rest)

/-- The file at a path can be read. -/
def fileReadable (path : String) (m : Machine) : Check where
  Holds := ∃ path' b, Home.expand m.home path = .ok path' ∧ m.Reads path' b
  Reports e := ∃ path' f, Home.expand m.home path = .ok path' ∧ e = .ioWith ("Error reading '" ++ path' ++ "'") f

theorem describes_readFile {path path' : String} (hpath : Home.expand m.home path = .ok path') :
    (fileReadable path m).Describes ((readFile path').outcome m) := by
  refine .of_iff ?_ fun e he => ?_
  · simp [fileReadable, hpath, outcome_readFile_eq_ok_iff]
  · obtain ⟨f, hf⟩ := outcome_readFile_eq_error he
    exact ⟨path', f, hpath, hf⟩

/-- The key file at the path, if there is a path, can be loaded. -/
def keyLoads (path : Option String) (m : Machine) : Check where
  Holds := ∃ raw b, path = some raw ∧ m.Loads raw b
  Reports e := ∃ what, e = .keyAccess what

theorem describes_load {path : Option String} {raw : String} (hpath : path = some raw) :
    (keyLoads path m).Describes ((Secret.load raw).outcome m) := by
  refine .of_iff ⟨?_, ?_⟩ fun e he => (Secret.failsOnlyWith_load raw).outcome he
  · rintro ⟨secret, hsecret⟩
    exact ⟨raw, secret.bytes, hpath, Secret.outcome_load_eq_ok_iff.mp hsecret⟩
  · rintro ⟨raw', b, hpath', hloads⟩
    rw [hpath] at hpath'
    cases hpath'
    exact ⟨⟨b⟩, Secret.outcome_load_eq_ok_iff.mpr hloads⟩

/-- The shared key in the file at the path is not empty. -/
def keyNotEmpty (path : Option String) (m : Machine) : Check where
  Holds := ∃ raw b, path = some raw ∧ m.Loads raw b ∧ b ≠ []
  Reports e := e = .crypto "Encryption key is empty"

/-- The file at the path holds a public key. -/
def keyParses (path : String) (m : Machine) : Check where
  Holds := ∃ b k, m.Loads path b ∧ KeyFile.readPublic b = .ok k
  Reports e := ∃ what, e = .crypto what

theorem describes_derive {path : Option String} {raw : String} {secret : Secret} (hpath : path = some raw)
    (hsecret : (Secret.load raw).outcome m = .ok secret) :
    (keyNotEmpty path m).Describes (Envelope.SubKeys.derive secret.bytes) := by
  have hloads := Secret.outcome_load_eq_ok_iff.mp hsecret
  unfold Envelope.SubKeys.derive
  by_cases hempty : secret.bytes = []
  · rw [hempty]
    refine .of_error ?_ rfl
    rintro ⟨raw', b, hpath', hloads', hne⟩
    rw [hpath] at hpath'
    cases hpath'
    exact hne (hloads'.unique (hempty ▸ hloads))
  · rw [if_neg (by simpa using hempty)]
    exact .of_ok ⟨raw, secret.bytes, hpath, hloads, hempty⟩

theorem describes_readPublic {path : String} {secret : Secret} (hsecret : (Secret.load path).outcome m = .ok secret) :
    (keyParses path m).Describes (KeyFile.readPublic secret.bytes) := by
  have hloads := Secret.outcome_load_eq_ok_iff.mp hsecret
  refine .of_iff ⟨?_, ?_⟩ fun e => KeyFile.crypto_of_readPublic
  · rintro ⟨k, hk⟩
    exact ⟨secret.bytes, k, hloads, hk⟩
  · rintro ⟨b, k, hloads', hk⟩
    rw [hloads'.unique hloads] at hk
    exact ⟨k, hk⟩

/-! ### The operations -/

/-- Sealing an envelope is to load the shared key, to derive keys from it, and to draw. -/
theorem encryptFile_bind (raw : String) (plaintext : Bytes) (f : Bytes → Op β) :
    encryptFile raw plaintext >>= f =
      Secret.load raw >>= fun key => Op.check (Envelope.SubKeys.derive key.bytes) >>= fun keys =>
        Op.ask (.draw Envelope.ivSize) >>= fun iv => f (keys.encrypt iv.val plaintext) := by
  simp only [encryptFile, bind_assoc, pure_bind]

/-- Sealing an envelope loads the shared key, which must not be empty, and then goes on. -/
theorem gate_encryptFile {path : Option String} {raw : String} (hpath : path = some raw) (plaintext : Bytes) {f : Bytes → Op β}
    (hf : ∀ (σ : Type) (t : Transport σ) envelope (m' : Machine) (u : σ), Op.calls t (f envelope) m' u ≠ []) :
    Gate (encryptFile raw plaintext >>= f) m [keyLoads path m, keyNotEmpty path m] := by
  rw [encryptFile_bind]
  refine .observes_bind (Secret.observes_load raw) (describes_load hpath) fun secret hsecret => ?_
  refine .observes_bind (.check _) (describes_derive hpath hsecret) fun keys _ => ?_
  exact ⟨fun _ _ t u => hf _ t _ _ u, fun hnot => absurd allHold_nil hnot⟩

/-- **Checks come first**: each operation calls the remote just if its checks are passed. They are, in this order,

* for a drop the settings for the shared key, the name and the private key, and then that the path expands, that the file can be read,
  and that the file of the shared key can be loaded and is not empty,
* for a pull that the reference is well formed, the same settings, and that the destination expands,
* for a registration that the new name is acceptable, the settings for the name and the private key, and then that the file of the
  public key can be loaded and holds one. -/
theorem checks_first :
    (∀ (s : Settings) (path : String), ChecksFirst (drop s path) (exchangeSettings s)
      fun m => [pathExpands path m, fileReadable path m, keyLoads s.encryptionKey m, keyNotEmpty s.encryptionKey m]) ∧
    (∀ (s : Settings) (reference destination : String), ChecksFirst (pull s reference destination)
      (referenceText reference :: exchangeSettings s) fun m => [pathExpands destination m]) ∧
    ∀ (s : Settings) (publicKey name : String), ChecksFirst (addKey s publicKey name) (newName name :: clientSettings s)
      fun m => [keyLoads (some publicKey) m, keyParses publicKey m] := by
  refine ⟨fun s path => ?_, fun s reference destination => ?_, fun s publicKey name => ?_⟩
  · refine .check_bind (describes_requiredPath _ _) fun raw hraw => .credentials_bind fun who => .of_gate fun m => ?_
    refine .observes_bind (observes_expandHome path) (describes_expand path m) fun path' hpath => ?_
    refine .observes_bind (observes_readFile path') (describes_readFile hpath) fun plaintext _ => ?_
    exact gate_encryptFile (eq_some_of_requiredPath hraw) plaintext fun _ t _ m' u => calls_send_bind_ne t who _ _ m' u
  · refine .check_bind (describes_parse reference) fun r _ => .check_bind (describes_requiredPath _ _) fun raw _ =>
      .credentials_bind fun who => .of_gate fun m => ?_
    exact .observes_bind (observes_expandHome destination) (describes_expand destination m) fun _ _ => gate_send who _ _ m
  · refine .check_bind (describes_ofString name) fun name' _ => .credentials_bind fun who => .of_gate fun m => ?_
    refine .observes_bind (Secret.observes_load publicKey) (describes_load rfl) fun secret hsecret => ?_
    exact .observes_bind (.check _) (describes_readPublic hsecret) fun _ _ => gate_send who _ _ m

end Exchange

end SealedDrop
