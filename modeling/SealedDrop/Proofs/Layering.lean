import SealedDrop.Proofs.Blindness
import SealedDrop.Proofs.Report
import SealedDrop.Proofs.SettingsFile

/-!
# Settings in layers, checks in order

Settings come from the flags and from a file, in every mixture. What a run does depends on what they come to, and not on which of the
two each of them comes from; and whatever keeps a run from calling the remote is reported in one fixed order.

## The model

* `Invocation.Effective` says what the settings of a run are on a machine. `Invocation.FirstFault` is the failure that the run reports
  if it does not call the remote: that of the settings file, or of the name of the remote, or of the first check of the operation
  (`Task.checks`) that is not passed.
* `Machine.LooksLike` says of two machines that some files look the same on both. `CommonGate` is the rule for an operation that makes
  its checks on both in the same way.

## What is proved

* `CommonGate.observes_bind` — an operation that begins with a check makes it before those of the rest, on both machines.
* `Task.commonGate` — the operation of a task makes the checks of the task.
* `Invocation.FirstFault.unique` — there is at most one failure to report, and `stopped_or_called` — where there is none the remote is
  called.
* `runs_layered` — the rule for all runs, and what their reports show.
-/

namespace SealedDrop

open Op Exchange

variable {α β σ : Type} {m m' : Machine}

/-! ### Checks on two machines -/

/-- On both machines these files are opened with the same outcome, and paths are expanded in the same way. -/
structure Machine.LooksLike (m m' : Machine) (paths : List String) : Prop where
  /-- The home directory is the same. -/
  home : m'.home = m.home
  /-- Opening one of the files for reading gives the same. -/
  opened : ∀ raw ∈ paths, ∀ path, Home.expand m.home raw = .ok path → (m'.answer (.openRead path)).1 = (m.answer (.openRead path)).1

theorem Machine.LooksLike.refl (m : Machine) (paths : List String) : m.LooksLike m paths :=
  ⟨rfl, fun _ _ _ _ => rfl⟩

theorem Machine.LooksLike.outcome_expandHome {paths : List String} (h : m.LooksLike m' paths) (raw : String) :
    (expandHome raw).outcome m' = (expandHome raw).outcome m := by
  rw [SealedDrop.outcome_expandHome, SealedDrop.outcome_expandHome, h.home]

theorem Machine.LooksLike.outcome_load {paths : List String} {raw : String} (h : m.LooksLike m' paths) (hraw : raw ∈ paths) :
    (Secret.load raw).outcome m' = (Secret.load raw).outcome m := by
  rw [Secret.outcome_load, Secret.outcome_load, h.home]
  cases hpath : Home.expand m.home raw with
  | error e => rfl
  | ok path =>
    simp only [Except.mapError, Except.bind]
    rw [h.opened raw hraw path hpath]

theorem Machine.LooksLike.outcome_readFile {paths : List String} {raw path : String} (h : m.LooksLike m' paths) (hraw : raw ∈ paths)
    (hpath : Home.expand m.home raw = .ok path) : (Exchange.readFile path).outcome m' = (Exchange.readFile path).outcome m := by
  rw [Exchange.outcome_readFile, Exchange.outcome_readFile, h.opened raw hraw path hpath]

/-- The operation makes these checks before it calls the remote, on both machines with the same result. -/
structure CommonGate (op : Op α) (m m' : Machine) (checks : List Check) : Prop where
  /-- If all are passed, the remote is called. -/
  passed : AllHold checks → ∀ (σ : Type) (t : Transport σ) (u : σ), Op.calls t op m u ≠ [] ∧ Op.calls t op m' u ≠ []
  /-- Otherwise the first that is not decides how the operation fails, and nothing changes. -/
  stopped : ¬ AllHold checks → ∃ e, FirstFailure checks e ∧
    ∀ (σ : Type) (t : Transport σ) (u : σ), Runs t op m u [] (.error e) m u ∧ Runs t op m' u [] (.error e) m' u

namespace CommonGate

variable {op : Op α} {checks : List Check} {c : Check} {s : Settings}

/-- A check is made before those of the rest. -/
theorem observes_bind {f : α → Op β} (hop : Observes op) (hsame : op.outcome m' = op.outcome m) (hc : c.Describes (op.outcome m))
    (hrest : ∀ a, op.outcome m = .ok a → CommonGate (f a) m m' checks) : CommonGate (op >>= f) m m' (c :: checks) := by
  have hruns : ∀ (σ : Type) (t : Transport σ) (u : σ), Runs t op m u [] (op.outcome m) m u ∧ Runs t op m' u [] (op.outcome m) m' u :=
    fun σ t u => ⟨hop.runs t m u, hsame ▸ hop.runs t m' u⟩
  cases hx : op.outcome m with
  | ok a =>
    rw [hx] at hruns
    have hholds := hc.ok a hx
    have hgate := hrest a hx
    have hcalls : ∀ (σ : Type) (t : Transport σ) (m₁ : Machine) (u : σ), Runs t op m₁ u [] (.ok a) m₁ u →
        Op.calls t (op >>= f) m₁ u = Op.calls t (f a) m₁ u := by
      intro σ t m₁ u hop₁
      obtain ⟨l, x, m₂, u₂, hf⟩ := exists_runs t (f a) m₁ u
      exact (hop₁.silent_bind hf).calls_eq.trans hf.calls_eq.symm
    constructor
    · intro hall σ t u
      rw [hcalls σ t m u (hruns σ t u).1, hcalls σ t m' u (hruns σ t u).2]
      exact hgate.passed (allHold_cons.mp hall).2 σ t u
    · intro hnot
      obtain ⟨e, he, hf⟩ := hgate.stopped fun hall => hnot (allHold_cons.mpr ⟨hholds, hall⟩)
      exact ⟨e, .later hholds he, fun σ t u =>
        ⟨(hruns σ t u).1.silent_bind (hf σ t u).1, (hruns σ t u).2.silent_bind (hf σ t u).2⟩⟩
  | error e =>
    rw [hx] at hruns
    obtain ⟨hnot, hreports⟩ := hc.error e hx
    constructor
    · intro hall
      exact absurd (allHold_cons.mp hall).1 hnot
    · intro _
      exact ⟨e, .here hnot hreports, fun σ t u => ⟨(hruns σ t u).1.bind_error f, (hruns σ t u).2.bind_error f⟩⟩

theorem check_bind {x : Except Error α} {f : α → Op β} (hc : c.Describes x)
    (hrest : ∀ a, x = .ok a → CommonGate (f a) m m' checks) : CommonGate (Op.check x >>= f) m m' (c :: checks) :=
  observes_bind (.check x) rfl hc hrest

theorem credentials_bind {f : Credentials → Op β} (hrest : ∀ who, CommonGate (f who) m m' checks) :
    CommonGate (Op.check (credentials s) >>= f) m m' (clientSettings s ++ checks) := by
  rw [check_credentials_bind]
  exact check_bind (describes_registeredName s) fun name _ =>
    check_bind (describes_requiredPath "private-key" s.privateKey) fun path _ => hrest ⟨name, path⟩

/-- Where nothing is left to check, the remote is called. -/
theorem of_calls (h : ∀ (σ : Type) (t : Transport σ) (m : Machine) (u : σ), Op.calls t op m u ≠ []) : CommonGate op m m' [] where
  passed := fun _ σ t u => ⟨h σ t m u, h σ t m' u⟩
  stopped := fun hnot => absurd allHold_nil hnot

theorem send_bind (who : Credentials) (r : Request) (f : Response → Op β) : CommonGate (who.send r >>= f) m m' [] :=
  of_calls fun _ t m u => calls_send_bind_ne t who r f m u

/-- What follows the operation comes after its checks. -/
theorem followed (h : CommonGate op m m' checks) (f : α → Op β) : CommonGate (op >>= f) m m' checks := by
  have hcalls : ∀ (σ : Type) (t : Transport σ) (m : Machine) (u : σ), Op.calls t op m u ≠ [] → Op.calls t (op >>= f) m u ≠ [] := by
    intro σ t m u hne hnil
    obtain ⟨l, x, m₂, u₂, hrun⟩ := exists_runs t (op >>= f) m u
    obtain rfl := hrun.calls_eq.symm.trans hnil
    obtain ⟨e, -, hself⟩ | ⟨l₁, a, m₁, u₁, l₂, hl, hself, -⟩ := hrun.bind_cases
    · exact hne hself.calls_eq
    · exact hne (hself.calls_eq.trans (List.append_eq_nil_iff.mp hl.symm).1)
  constructor
  · intro hall σ t u
    obtain ⟨hne, hne'⟩ := h.passed hall σ t u
    exact ⟨hcalls σ t m u hne, hcalls σ t m' u hne'⟩
  · intro hnot
    obtain ⟨e, he, hruns⟩ := h.stopped hnot
    exact ⟨e, he, fun σ t u => ⟨(hruns σ t u).1.bind_error f, (hruns σ t u).2.bind_error f⟩⟩

end CommonGate

/-! ### Tasks of a client -/

namespace CommandLine

namespace Task

variable {s : Settings} {i : Task}

/-- The task is one of a client: to drop a file, to pull an object, or to register a key. -/
def IsClient : Task → Prop
  | .genKey _ _ _ => False
  | _ => True

/-- What a failure of the operation is told as. -/
def attempted : Task → String
  | .drop file => "Failed to drop '" ++ file ++ "'"
  | .pull reference _ => "Failed to pull '" ++ reference ++ "'"
  | .addKey _ name => "Failed to add key '" ++ name ++ "'"
  | .genKey _ _ _ => "Failed to generate key pair"

/-- The operation of a task, with what is to be said when it is done. -/
def operation (s : Settings) : Task → Op String
  | .drop file => Exchange.drop s file >>= fun reference => pure ("Dropped " ++ file ++ " -> " ++ reference.text ++ "\n")
  | .pull reference destination =>
    Exchange.pull s reference destination >>= fun _ => pure ("Pulled " ++ destination ++ " <- " ++ reference ++ "\n")
  | .addKey publicKey name => Exchange.addKey s publicKey name >>= fun _ => pure ("Key '" ++ name ++ "' registered\n")
  | .genKey privateKey publicKey bits => KeyGeneration.run privateKey publicKey bits >>= fun _ =>
    pure ("Private key: " ++ privateKey ++ "\nPublic key:  " ++ publicKey ++ "\n")

/-- What is checked before the remote is called, in order. -/
def checks (s : Settings) (m : Machine) : Task → List Check
  | .drop file =>
    exchangeSettings s ++ [pathExpands file m, fileReadable file m, keyLoads s.encryptionKey m, keyNotEmpty s.encryptionKey m]
  | .pull reference destination => referenceText reference :: exchangeSettings s ++ [pathExpands destination m]
  | .addKey publicKey name => newName name :: clientSettings s ++ [keyLoads (some publicKey) m, keyParses publicKey m]
  | .genKey _ _ _ => []

/-- The files that are read before the remote is called. -/
def reads (s : Settings) : Task → List String
  | .drop file => file :: s.encryptionKey.toList
  | .addKey publicKey _ => [publicKey]
  | _ => []

/-- **The operation of a task makes the checks of the task**, and alike on machines on which the files that it reads look alike. -/
theorem commonGate {task : Task} (htask : task.IsClient) (h : m.LooksLike m' (task.reads s)) :
    CommonGate (task.operation s) m m' (task.checks s m) := by
  cases task with
  | drop file =>
    refine .followed (.check_bind (describes_requiredPath _ _) fun raw hraw => .credentials_bind fun who => ?_) _
    refine .observes_bind (observes_expandHome file) (h.outcome_expandHome file) (describes_expand file m) fun path hpath => ?_
    refine .observes_bind (observes_readFile path) (h.outcome_readFile List.mem_cons_self hpath) (describes_readFile hpath)
      fun plaintext _ => ?_
    have hkey := eq_some_of_requiredPath hraw
    rw [encryptFile_bind]
    refine .observes_bind (Secret.observes_load raw) (h.outcome_load ?_) (describes_load hkey) fun secret hsecret => ?_
    · simp [reads, hkey]
    · exact .check_bind (describes_derive hkey hsecret) fun keys _ => .of_calls fun _ t m u => calls_send_bind_ne t who _ _ _ u
  | pull reference destination =>
    refine .followed (.check_bind (describes_parse reference) fun r _ => .check_bind (describes_requiredPath _ _) fun raw _ =>
      .credentials_bind fun who => ?_) _
    exact .observes_bind (observes_expandHome destination) (h.outcome_expandHome destination) (describes_expand destination m)
      fun _ _ => .send_bind who _ _
  | addKey publicKey name =>
    refine .followed (.check_bind (describes_ofString name) fun name' _ => .credentials_bind fun who => ?_) _
    refine .observes_bind (Secret.observes_load publicKey) (h.outcome_load List.mem_cons_self) (describes_load rfl)
      fun secret hsecret => ?_
    exact .check_bind (describes_readPublic hsecret) fun _ _ => .send_bind who _ _
  | genKey privateKey publicKey bits => exact htask.elim

end Task

/-! ### Runs -/

/-- What follows an attempt can be attempted with it, if it cannot fail. -/
theorem attempt_bind_pure (what : String) (op : Op α) (f : α → β) :
    attempt what (op >>= fun a => pure (f a)) = attempt what op >>= fun a => pure (f a) := by
  refine (bind_assoc (m := Session) (ExceptT.run op) (ExceptT.bindCont fun a => pure (f a)) _).trans
    (Eq.trans ?_ (bind_assoc (m := Session) (ExceptT.run op) _ (ExceptT.bindCont fun a => pure (f a))).symm)
  refine bind_congr fun x => ?_
  cases x <;> rfl

namespace Invocation

variable {i : Invocation}

/-- The task of a client is its operation on the settings of the invocation. -/
theorem perform_eq (h : i.task.IsClient) :
    i.perform = i.settings >>= fun s => attempt i.task.attempted (i.task.operation s) := by
  obtain ⟨path, overrides, task⟩ := i
  cases task with
  | drop file => exact bind_congr fun s => (attempt_bind_pure _ _ _).symm
  | pull reference destination => exact bind_congr fun s => (attempt_bind_pure _ _ _).symm
  | addKey publicKey name => exact bind_congr fun s => (attempt_bind_pure _ _ _).symm
  | genKey privateKey publicKey bits => exact h.elim

/-- To generate keys takes no settings. -/
theorem perform_eq_of_keys {privateKey publicKey : String} {bits : Nat} (h : i.task = .genKey privateKey publicKey bits) :
    i.perform = attempt "Failed to generate key pair" (KeyGeneration.run privateKey publicKey bits >>= fun _ =>
      pure ("Private key: " ++ privateKey ++ "\nPublic key:  " ++ publicKey ++ "\n")) := by
  obtain ⟨path, overrides, task⟩ := i
  cases h
  exact (attempt_bind_pure _ _ _).symm

/-- The settings of the file that the invocation uses on the machine, or none if it uses no file. -/
def UsesSettings (i : Invocation) (m : Machine) (file : Settings) : Prop :=
  match Settings.file? i.settingsPath m with
  | some path => Settings.InFile m path file
  | none => file = {}

/-- The settings of a run on the machine: those of the flags, and under them those of the file. -/
def Effective (i : Invocation) (m : Machine) (s : Settings) : Prop :=
  ∃ file, i.UsesSettings m file ∧ Settings.Layered i.overrides file s

/-- What a run reports if it does not call the remote. -/
inductive FirstFault (i : Invocation) (m : Machine) : Failure → Prop where
  /-- There is a file to use, and no settings can be loaded from it. -/
  | loading {path what : String} (hfile : Settings.file? i.settingsPath m = some path)
      (hnone : ∀ s, ¬ Settings.InFile m path s) (he : (Settings.readFile path).outcome m = .error (.config what)) :
      FirstFault i m ⟨"Failed to load configuration", .config what⟩
  /-- The settings do not name a remote. -/
  | remote {s : Settings} {e : Error} (hs : i.Effective m s) (he : s.remoteUrl = .error e) :
      FirstFault i m ⟨"Failed to set up remote connection", e⟩
  /-- They do, but the operation does not pass all its checks. The failure is that of the operation on these settings. -/
  | operation {s : Settings} {url : String} {e : Error} (hs : i.Effective m s) (hurl : s.remoteUrl = .ok url)
      (he : FirstFailure (i.task.checks s m) e)
      (hruns : ∀ (σ : Type) (t : Transport σ) (u : σ), Op.Runs t (i.task.operation s) m u [] (.error e) m u) :
      FirstFault i m ⟨i.task.attempted, e⟩

theorem outcome_load_eq_ok_iff {file : Settings} : (Settings.load i.settingsPath).outcome m = .ok file ↔ i.UsesSettings m file := by
  rw [Settings.outcome_load, UsesSettings]
  cases Settings.file? i.settingsPath m with
  | some path => exact Settings.outcome_readFile_eq_ok_iff
  | none => exact ⟨fun h => (Except.ok.inj h).symm, fun h => congrArg Except.ok h.symm⟩

theorem Effective.unique {s s' : Settings} (h : i.Effective m s) (h' : i.Effective m s') : s = s' := by
  obtain ⟨file, hfile, hs⟩ := h
  obtain ⟨file', hfile', hs'⟩ := h'
  rw [← outcome_load_eq_ok_iff] at hfile hfile'
  rw [hfile] at hfile'
  cases hfile'
  rw [Settings.layered_iff.mp hs, Settings.layered_iff.mp hs']

/-- A file that gives no settings is in the way of all. -/
theorem not_effective {path : String} (hfile : Settings.file? i.settingsPath m = some path) (hnone : ∀ s, ¬ Settings.InFile m path s)
    (s : Settings) : ¬ i.Effective m s := by
  rintro ⟨file, hused, -⟩
  rw [UsesSettings, hfile] at hused
  exact hnone file hused

/-- There is one failure to report. -/
theorem FirstFault.unique {f f' : Failure} (h : i.FirstFault m f) (h' : i.FirstFault m f') : f = f' := by
  cases h with
  | loading hfile hnone he =>
    cases h' with
    | loading hfile' hnone' he' =>
      cases hfile.symm.trans hfile'
      cases he.symm.trans he'
      rfl
    | remote hs' he' => exact absurd hs' (not_effective hfile hnone _)
    | operation hs' hurl' he' hruns' => exact absurd hs' (not_effective hfile hnone _)
  | remote hs he =>
    cases h' with
    | loading hfile' hnone' he' => exact absurd hs (not_effective hfile' hnone' _)
    | remote hs' he' =>
      cases hs.unique hs'
      cases he.symm.trans he'
      rfl
    | operation hs' hurl' he' hruns' =>
      cases hs.unique hs'
      cases he.symm.trans hurl'
  | operation hs hurl he hruns =>
    cases h' with
    | loading hfile' hnone' he' => exact absurd hs (not_effective hfile' hnone' _)
    | remote hs' he' =>
      cases hs.unique hs'
      cases hurl.symm.trans he'
    | operation hs' hurl' he' hruns' =>
      cases hs.unique hs'
      cases ((hruns Unit Op.silent ()).unique (hruns' Unit Op.silent ())).2.1
      rfl

/-- The settings of a run on the machine, which name a remote, or why there are none. -/
def settingsOn (i : Invocation) (m : Machine) : Except Failure Settings :=
  (((Settings.load i.settingsPath).outcome m).mapError (Failure.mk "Failed to load configuration")).bind fun file =>
    ((file.overlay i.overrides).remoteUrl.mapError (Failure.mk "Failed to set up remote connection")).map fun _ =>
      file.overlay i.overrides

theorem settingsOn_of_effective {s : Settings} (h : i.Effective m s) :
    i.settingsOn m = (s.remoteUrl.mapError (Failure.mk "Failed to set up remote connection")).map fun _ => s := by
  obtain ⟨file, hfile, hs⟩ := h
  obtain rfl := Settings.layered_iff.mp hs
  rw [settingsOn, outcome_load_eq_ok_iff.mpr hfile]
  rfl

/-- The settings are the effective ones, or the file does not give any. -/
theorem effective_or_error (i : Invocation) (m : Machine) :
    (∃ s, i.Effective m s) ∨ ∃ path what, Settings.file? i.settingsPath m = some path ∧ (∀ s, ¬ Settings.InFile m path s) ∧
      (Settings.readFile path).outcome m = .error (.config what) ∧
      i.settingsOn m = .error ⟨"Failed to load configuration", .config what⟩ := by
  cases hload : (Settings.load i.settingsPath).outcome m with
  | ok file => exact .inl ⟨_, file, outcome_load_eq_ok_iff.mp hload, Settings.layered_iff.mpr rfl⟩
  | error e =>
    have hon : i.settingsOn m = .error ⟨"Failed to load configuration", e⟩ := by
      rw [settingsOn, hload]
      rfl
    rw [Settings.outcome_load] at hload
    cases hfile : Settings.file? i.settingsPath m with
    | none =>
      rw [hfile] at hload
      cases hload
    | some path =>
      simp only [hfile] at hload
      obtain ⟨what, rfl⟩ := (Settings.failsOnlyWith_readFile path).outcome hload
      refine .inr ⟨path, what, rfl, fun s hs => ?_, hload, hon⟩
      rw [← Settings.outcome_readFile_eq_ok_iff, hload] at hs
      cases hs

/-! The steps of a run. -/

variable {t : Transport σ} {u u₁ : σ} {l : List Call} {m₁ : Machine}

theorem runs_attempt (what : String) {op : Op α} {x : Except Error α} (h : Op.Runs t op m u l x m₁ u₁) :
    Session.Runs t (ExceptT.run (attempt what op)) m u l (x.mapError (Failure.mk what)) m₁ u₁ := by
  have hrun : Session.Runs t (ExceptT.run (attempt what op)) m u (l ++ []) (x.mapError (Failure.mk what)) m₁ u₁ := by
    refine Session.Runs.bind h ?_
    cases x <;> exact .pure _
  rwa [List.append_nil] at hrun

/-- What looks at the machine only is followed by the rest, or fails. -/
theorem runs_bind {x : ExceptT Failure Session α} {f : α → ExceptT Failure Session β} {y : Except Failure α} {z : Except Failure β}
    (hx : Session.Runs t (ExceptT.run x) m u [] y m u) (hok : ∀ a, y = .ok a → Session.Runs t (ExceptT.run (f a)) m u l z m₁ u₁)
    (herror : ∀ e, y = .error e → z = .error e ∧ l = [] ∧ m₁ = m ∧ u₁ = u) :
    Session.Runs t (ExceptT.run (x >>= f)) m u l z m₁ u₁ := by
  cases y with
  | ok a => exact Session.Runs.bind (f := ExceptT.bindCont f) hx (hok a rfl)
  | error e =>
    obtain ⟨rfl, rfl, rfl, rfl⟩ := herror e rfl
    exact Session.Runs.bind (f := ExceptT.bindCont f) hx (.pure _)

theorem runs_settings (i : Invocation) (t : Transport σ) (m : Machine) (u : σ) :
    Session.Runs t (ExceptT.run i.settings) m u [] (i.settingsOn m) m u := by
  unfold settings settingsOn
  refine runs_bind (runs_attempt _ ((Settings.observes_load i.settingsPath).runs t m u)) (fun file hfile => ?_) fun e he => ?_
  · rw [hfile, Except.bind]
    refine runs_bind (runs_attempt _ (Op.Runs.check _)) (fun url hurl => ?_) fun e he => ?_
    · rw [hurl]
      exact .pure _
    · rw [he]
      exact ⟨rfl, rfl, rfl, rfl⟩
  · rw [he]
    exact ⟨rfl, rfl, rfl, rfl⟩

/-- A run of a task without settings does nothing. -/
theorem runs_perform_of_error (hclient : i.task.IsClient) {f : Failure} (h : i.settingsOn m = .error f) (t : Transport σ) (u : σ) :
    Session.Runs t (ExceptT.run i.perform) m u [] (.error f) m u := by
  rw [perform_eq hclient]
  refine runs_bind (runs_settings i t m u) (fun s hs => ?_) fun e he => ?_
  · rw [h] at hs
    cases hs
  · rw [h] at he
    cases he
    exact ⟨rfl, rfl, rfl, rfl⟩

/-- A run of a task with settings is one of its operation. -/
theorem runs_perform (hclient : i.task.IsClient) {s : Settings} (h : i.settingsOn m = .ok s) {x : Except Error String}
    (hop : Op.Runs t (i.task.operation s) m u l x m₁ u₁) :
    Session.Runs t (ExceptT.run i.perform) m u l (x.mapError (Failure.mk i.task.attempted)) m₁ u₁ := by
  rw [perform_eq hclient]
  refine runs_bind (runs_settings i t m u) (fun s' hs => ?_) fun e he => ?_
  · rw [h] at hs
    cases hs
    exact runs_attempt _ hop
  · rw [h] at he
    cases he

theorem runs_run {words : List String} (hwords : ofWords words = .ok i) {x : Except Failure String}
    (h : Session.Runs t (ExceptT.run i.perform) m u l x m₁ u₁) : Session.Runs t (run words) m u l (.ofResult x) m₁ u₁ := by
  unfold run
  rw [hwords]
  exact h.map

end Invocation

/-! ### The rule -/

namespace Invocation

/-- The settings that win over those of the file are those of the flags. -/
theorem exists_flags_of_ofVerb {v : Verb} {outer : Scan} {words : List String} {i : Invocation} (h : ofVerb v outer words = .ok i) :
    ∃ inner outer : Scan, i.overrides = settingsOfFlags inner outer := by
  obtain ⟨⟨read, _⟩, -, h⟩ := exists_of_bind_eq_ok h
  obtain ⟨inner, -, h⟩ := exists_of_bind_eq_ok h
  obtain ⟨outer, -, h⟩ := exists_of_bind_eq_ok h
  cases htask : v.task? inner.operands ((inner.value? "bits").bind count?) with
  | none =>
    rw [htask] at h
    cases h
  | some task =>
    rw [htask] at h
    cases h
    exact ⟨inner, outer, rfl⟩

/-- No flag sets a time limit. -/
theorem requestTimeout_of_ofWords {words : List String} {i : Invocation} (h : ofWords words = .ok i) :
    i.overrides.requestTimeout = none := by
  obtain ⟨⟨outer, command⟩, -, h⟩ := exists_of_bind_eq_ok h
  cases command with
  | none => cases h
  | some found =>
    obtain ⟨word, rest⟩ := found
    simp only [bind, Except.bind] at h
    split at h
    · cases h
    · split at h
      · cases h
      · next v _ =>
        obtain ⟨inner, outer, hflags⟩ := exists_flags_of_ofVerb h
        rw [hflags]
        rfl

end Invocation

/-- A failure reports a first condition only where one does not hold. -/
theorem not_allHold_of_firstFailure {checks : List Check} {e : Error} (h : FirstFailure checks e) : ¬ AllHold checks := by
  induction h with
  | here hc _ => exact fun hall => hc (allHold_cons.mp hall).1
  | later _ _ ih => exact fun hall => ih (allHold_cons.mp hall).2

section Runs

variable {words words' : List String} {i i' : Invocation} {s : Settings}

/-- Where the settings name a remote and all checks are passed, there is nothing to report. -/
theorem not_firstFault {url : String} (hs : i.Effective m s) (hurl : s.remoteUrl = .ok url) (hall : AllHold (i.task.checks s m))
    (f : Failure) : ¬ i.FirstFault m f := by
  intro hf
  cases hf with
  | loading hfile hnone he => exact Invocation.not_effective hfile hnone s hs
  | remote hs' he =>
    rw [← hs.unique hs', hurl] at he
    cases he
  | operation hs' _ he _ =>
    rw [← hs.unique hs'] at he
    exact not_allHold_of_firstFailure he hall

/-- What becomes of the run of a client's task, on two machines with the same effective settings. -/
theorem runs_cases (hwords : Invocation.ofWords words = .ok i) (hclient : i.task.IsClient) (hs : i.Effective m s)
    (hwords' : Invocation.ofWords words' = .ok i') (htask : i'.task = i.task) (hs' : i'.Effective m' s)
    (hlooks : m.LooksLike m' (i.task.reads s)) :
    (∃ f, i.FirstFault m f ∧ ∀ (σ : Type) (t : Transport σ) (u : σ),
      Session.Runs t (run words) m u [] (.ofResult (.error f)) m u ∧
        Session.Runs t (run words') m' u [] (.ofResult (.error f)) m' u) ∨
    (∀ f, ¬ i.FirstFault m f) ∧ ∀ (σ : Type) (t : Transport σ) (u : σ),
      Session.calls t (run words) m u ≠ [] ∧ Session.calls t (run words') m' u ≠ [] := by
  have hon := Invocation.settingsOn_of_effective hs
  have hon' := Invocation.settingsOn_of_effective hs'
  have hclient' : i'.task.IsClient := htask ▸ hclient
  cases hurl : s.remoteUrl with
  | error e =>
    rw [hurl] at hon hon'
    exact .inl ⟨_, .remote hs hurl, fun σ t u => ⟨Invocation.runs_run hwords (Invocation.runs_perform_of_error hclient hon t u),
      Invocation.runs_run hwords' (Invocation.runs_perform_of_error hclient' hon' t u)⟩⟩
  | ok url =>
    rw [hurl] at hon hon'
    have hgate := Task.commonGate hclient hlooks
    by_cases hall : AllHold (i.task.checks s m)
    · refine .inr ⟨fun f hf => ?_, fun σ t u => ?_⟩
      · exact not_firstFault hs hurl hall f hf
      · obtain ⟨hne, hne'⟩ := hgate.passed hall σ t u
        obtain ⟨l, x, m₁, u₁, hop⟩ := exists_runs t (i.task.operation s) m u
        obtain ⟨l', x', m₁', u₁', hop'⟩ := exists_runs t (i.task.operation s) m' u
        rw [hop.calls_eq] at hne
        rw [hop'.calls_eq] at hne'
        rw [← htask] at hop'
        rw [(Invocation.runs_run hwords (Invocation.runs_perform hclient hon hop)).calls_eq,
          (Invocation.runs_run hwords' (Invocation.runs_perform hclient' hon' hop')).calls_eq]
        exact ⟨hne, hne'⟩
    · obtain ⟨e, he, hruns⟩ := hgate.stopped hall
      refine .inl ⟨_, .operation hs hurl he fun σ t u => (hruns σ t u).1, fun σ t u => ⟨?_, ?_⟩⟩
      · exact Invocation.runs_run hwords (Invocation.runs_perform hclient hon (hruns σ t u).1)
      · rw [← htask] at hruns ⊢
        exact Invocation.runs_run hwords' (Invocation.runs_perform hclient' hon' (hruns σ t u).2)

/-- If no settings can be loaded, that is what the run reports. -/
theorem runs_of_not_effective (hwords : Invocation.ofWords words = .ok i) (hclient : i.task.IsClient)
    (hnone : ∀ s, ¬ i.Effective m s) :
    ∃ f, i.FirstFault m f ∧ ∀ (σ : Type) (t : Transport σ) (u : σ), Session.Runs t (run words) m u [] (.ofResult (.error f)) m u := by
  obtain ⟨s, hs⟩ | ⟨path, what, hfile, hno, he, hon⟩ := i.effective_or_error m
  · exact absurd hs (hnone s)
  · exact ⟨_, .loading hfile hno he, fun σ t u => Invocation.runs_run hwords (Invocation.runs_perform_of_error hclient hon t u)⟩

/-- The run of a client's task depends on the effective settings, and not on where they come from. -/
theorem exists_common_runs (hwords : Invocation.ofWords words = .ok i) (hclient : i.task.IsClient) (hs : i.Effective m s)
    (hwords' : Invocation.ofWords words' = .ok i') (htask : i'.task = i.task) (hs' : i'.Effective m s) (t : Transport σ) (u : σ) :
    ∃ l x m₁ u₁, Session.Runs t (run words) m u l x m₁ u₁ ∧ Session.Runs t (run words') m u l x m₁ u₁ := by
  have hon := Invocation.settingsOn_of_effective hs
  have hon' := Invocation.settingsOn_of_effective hs'
  have hclient' : i'.task.IsClient := htask ▸ hclient
  cases hurl : s.remoteUrl with
  | error e =>
    rw [hurl] at hon hon'
    exact ⟨_, _, _, _, Invocation.runs_run hwords (Invocation.runs_perform_of_error hclient hon t u),
      Invocation.runs_run hwords' (Invocation.runs_perform_of_error hclient' hon' t u)⟩
  | ok url =>
    rw [hurl] at hon hon'
    obtain ⟨l, x, m₁, u₁, hop⟩ := exists_runs t (i.task.operation s) m u
    have hrun' := Invocation.runs_perform hclient' hon' (htask ▸ hop)
    rw [htask] at hrun'
    exact ⟨_, _, _, _, Invocation.runs_run hwords (Invocation.runs_perform hclient hon hop), Invocation.runs_run hwords' hrun'⟩

/-- The run of a client's task reports the first fault and does nothing, or there is none and it calls the remote. -/
theorem stopped_or_called (hwords : Invocation.ofWords words = .ok i) (hclient : i.task.IsClient) (m : Machine) :
    (∃ f, i.FirstFault m f ∧ ∀ (σ : Type) (t : Transport σ) (u : σ), Session.Runs t (run words) m u [] (.ofResult (.error f)) m u) ∨
    (∀ f, ¬ i.FirstFault m f) ∧ ∀ (σ : Type) (t : Transport σ) (u : σ), Session.calls t (run words) m u ≠ [] := by
  by_cases hloaded : ∃ s, i.Effective m s
  · obtain ⟨s, hs⟩ := hloaded
    obtain ⟨f, hf, hruns⟩ | ⟨hnone, hne⟩ := runs_cases hwords hclient hs hwords rfl hs (.refl m _)
    · exact .inl ⟨f, hf, fun σ t u => (hruns σ t u).1⟩
    · exact .inr ⟨hnone, fun σ t u => (hne σ t u).1⟩
  · exact .inl (runs_of_not_effective hwords hclient fun s hs => hloaded ⟨s, hs⟩)

/-- Generating keys depends on the files along the paths of the keys, and not on settings. -/
theorem exists_runs_keys {privateKey publicKey : String} {bits : Nat} {tree : FileTree} (hwords : Invocation.ofWords words = .ok i)
    (hkeys : i.task = .genKey privateKey publicKey bits) (hwords' : Invocation.ofWords words' = .ok i') (htask : i'.task = i.task)
    (h : m.tree.Resembles tree (m.ways privateKey ++ m.ways publicKey)) (t : Transport σ) (u : σ) :
    ∃ l x m₁ m₁' u₁, Session.Runs t (run words) m u l x m₁ u₁ ∧ Session.Runs t (run words') { m with tree := tree } u l x m₁' u₁ := by
  obtain ⟨l, x, m₁, m₁', u₁, hrun, hrun'⟩ := (KeyGeneration.runsAlike_run h bits t u).followed fun _ =>
    "Private key: " ++ privateKey ++ "\nPublic key:  " ++ publicKey ++ "\n"
  have hperform := Invocation.runs_attempt "Failed to generate key pair" hrun
  have hperform' := Invocation.runs_attempt "Failed to generate key pair" hrun'
  rw [← Invocation.perform_eq_of_keys hkeys] at hperform
  rw [← Invocation.perform_eq_of_keys (htask.trans hkeys)] at hperform'
  exact ⟨l, _, m₁, m₁', u₁, Invocation.runs_run hwords hperform, Invocation.runs_run hwords' hperform'⟩

end Runs

/-- **Settings in layers, checks in order**: no flag sets a time limit. For a task of a client,

* a run makes no call just if there is a fault. It then exits with code 1, writes nothing to the standard output, reports this fault,
  and leaves the machine and the transport as they were. The report shows what was attempted and every line of the cause, and no fault
  but this one and such as are alike,
* other words for the task, with the same effective settings, make the same run,
* so they do on another machine, on which the files that the task reads look the same, as far as a run without calls: this one makes
  none there either, and ends in the same way.

To generate keys takes no settings: words for the same keys make the same calls, and the runs end in the same way, on every machine
that looks the same along the paths of the keys, whatever settings are given. -/
theorem runs_layered {words : List String} {i : Invocation} (hwords : Invocation.ofWords words = .ok i) :
    i.overrides.requestTimeout = none ∧
    (i.task.IsClient → ∀ (σ : Type) (t : Transport σ) (m : Machine) (u : σ),
      (Session.calls t (run words) m u = [] ↔ ∃ f, i.FirstFault m f) ∧
      ∀ f, i.FirstFault m f → Session.run t (run words) m u = ({ code := 1, output := "", complaint := f.report }, m, u) ∧
        f.Shows f.report ∧ ∀ f' : Failure, f'.Shows f.report → f.Alike f') ∧
    ∀ (words' : List String) (i' : Invocation), Invocation.ofWords words' = .ok i' → i'.task = i.task →
      (i.task.IsClient → ∀ m s, i.Effective m s → i'.Effective m s → ∀ (σ : Type) (t : Transport σ) (u : σ),
        Session.calls t (run words') m u = Session.calls t (run words) m u ∧
        Session.run t (run words') m u = Session.run t (run words) m u) ∧
      (i.task.IsClient → ∀ m m' s, i.Effective m s → i'.Effective m' s → m.LooksLike m' (i.task.reads s) →
        ∀ (σ : Type) (t : Transport σ) (u : σ), Session.calls t (run words) m u = [] →
          Session.calls t (run words') m' u = [] ∧ (Session.run t (run words') m' u).1 = (Session.run t (run words) m u).1) ∧
      ∀ privateKey publicKey bits, i.task = .genKey privateKey publicKey bits →
        ∀ (m : Machine) (tree : FileTree), m.tree.Resembles tree (m.ways privateKey ++ m.ways publicKey) →
          ∀ (σ : Type) (t : Transport σ) (u : σ),
            Session.calls t (run words') { m with tree := tree } u = Session.calls t (run words) m u ∧
            (Session.run t (run words') { m with tree := tree } u).1 = (Session.run t (run words) m u).1 := by
  refine ⟨Invocation.requestTimeout_of_ofWords hwords, fun hclient σ t m u => ?_, fun words' i' hwords' htask => ⟨?_, ?_, ?_⟩⟩
  · obtain ⟨f, hf, hruns⟩ | ⟨hnone, hne⟩ := stopped_or_called hwords hclient m
    · refine ⟨iff_of_true (hruns σ t u).calls_eq ⟨f, hf⟩, fun f' hf' => ?_⟩
      rw [hf'.unique hf]
      exact ⟨(hruns σ t u).run_eq, f.shows_report, fun f'' hshows => f.shows_report.alike hshows⟩
    · exact ⟨iff_of_false (hne σ t u) fun ⟨f, hf⟩ => hnone f hf, fun f hf => absurd hf (hnone f)⟩
  · intro hclient m s hs hs' σ t u
    obtain ⟨l, x, m₁, u₁, hrun, hrun'⟩ := exists_common_runs hwords hclient hs hwords' htask hs' t u
    exact ⟨hrun'.calls_eq.trans hrun.calls_eq.symm, hrun'.run_eq.trans hrun.run_eq.symm⟩
  · intro hclient m m' s hs hs' hlooks σ t u hcalls
    obtain ⟨f, -, hruns⟩ | ⟨-, hne⟩ := runs_cases hwords hclient hs hwords' htask hs' hlooks
    · obtain ⟨hrun, hrun'⟩ := hruns σ t u
      rw [hrun.run_eq, hrun'.run_eq]
      exact ⟨hrun'.calls_eq, rfl⟩
    · exact absurd hcalls (hne σ t u).1
  · intro privateKey publicKey bits hkeys m tree htree σ t u
    obtain ⟨l, x, m₁, m₁', u₁, hrun, hrun'⟩ := exists_runs_keys hwords hkeys hwords' htask htree t u
    rw [hrun.run_eq, hrun'.run_eq]
    exact ⟨hrun'.calls_eq.trans hrun.calls_eq.symm, rfl⟩

/-- A machine with a settings file. -/
def desk : Machine where
  tree := ⟨[(["c.toml"], .file 0o644 (utf8 "remote = \"http://[::1]\"\n"))]⟩
  entropy := ⟨fun _ => 7, 0⟩

theorem inFile_desk : Settings.InFile desk "c.toml" { remote := some "http://[::1]" } := by
  obtain ⟨path, n, hpath, hn, hdata⟩ : desk.Provides "c.toml" (utf8 "remote = \"http://[::1]\"\n") :=
    provides_of_name rfl rfl (by decide) (by decide) rfl rfl
  cases hpath
  have hreliable : desk.IsReliable := fun b => ⟨ReadEvent.isSmooth_ofBytes b, ReadEvent.contents_ofBytes b⟩
  obtain ⟨hsmooth, hcontents, -⟩ := hreliable.source hdata
  exact ⟨_, _, ⟨n, hn, hsmooth.isFaultless, rfl⟩, hcontents ▸ text?_utf8 _, by decide +kernel⟩

theorem effective_desk : Invocation.Effective ⟨some "c.toml", {}, .pull "ref" "out"⟩ desk { remote := some "http://[::1]" } :=
  ⟨_, inFile_desk, Settings.layered_iff.mpr rfl⟩

/-- The file names a remote, but the reference is none. -/
theorem exists_firstFault_desk : ∃ f, Invocation.FirstFault ⟨some "c.toml", {}, .pull "ref" "out"⟩ desk f := by
  have hurl : Settings.remoteUrl { remote := some "http://[::1]" } = .ok "http://[::1]" := by decide +kernel
  have hparse : Reference.parse "ref" = .error (.format "Object reference must look like <object>:<checksum>") := by decide +kernel
  have hgate : CommonGate (Task.operation { remote := some "http://[::1]" } (.pull "ref" "out")) desk desk _ :=
    Task.commonGate trivial (.refl desk _)
  obtain ⟨e, he, hruns⟩ := hgate.stopped fun hall => ((describes_parse "ref").error _ hparse).1 (allHold_cons.mp hall).1
  exact ⟨_, .operation effective_desk hurl he fun σ t u => (hruns σ t u).1⟩

/-- A new name in the root directory is looked for there. -/
theorem mem_lookups_desk {s : String} {r : Route} (hsteps : FileTree.steps s = [.name s]) (hstart : FileTree.start [] s = [])
    (hsize : s.utf8ByteSize ≤ FileTree.nameLimit) (hnone : desk.tree.node? [s] = none) (hr : r ∈ desk.tree.lookups [] s) :
    r = [] ∨ r = [s] := by
  have hroot : desk.tree.node? [] = some .directory := rfl
  rw [FileTree.lookups, hsteps, hstart, FileTree.visits, hroot] at hr
  simpa only [if_neg (Nat.not_lt.mpr hsize), hnone, List.mem_cons, List.not_mem_nil, or_false] using hr

/-- A flag hides what the file says even if it is blank. Where only one of the two speaks, it makes no difference which; and to generate
keys it makes none what either says, or whether there is a file at all. -/
theorem runs_layered_desk :
    (Session.run Op.silent (run ["pull", "--config", "c.toml", "--remote", " ", "ref", "out"]) desk ()).1 =
        { code := 1, output := ""
          complaint := "Error: Failed to set up remote connection\n\nCaused by:\n    Configuration error: " ++
            "Setting 'remote' not specified or empty\n" } ∧
      (Session.run Op.silent (run ["pull", "--remote", "http://[::1]", "ref", "out"]) { desk with tree := {} } ()).1 =
        (Session.run Op.silent (run ["pull", "--config", "c.toml", "ref", "out"]) desk ()).1 ∧
      (Session.run Op.silent (run ["--remote", " ", "gen-key", "--config", "c.toml", "a", "b"]) { desk with tree := {} } ()).1 =
        (Session.run Op.silent (run ["gen-key", "a", "b"]) desk ()).1 := by
  refine ⟨?_, ?_, ?_⟩
  · have hwords : Invocation.ofWords ["pull", "--config", "c.toml", "--remote", " ", "ref", "out"] =
        .ok ⟨some "c.toml", { remote := some " " }, .pull "ref" "out"⟩ := by decide
    have hblank : Settings.remoteUrl { remote := some " " } = .error (Settings.missing "remote") := by decide +kernel
    have hfault := Invocation.FirstFault.remote (i := ⟨some "c.toml", { remote := some " " }, .pull "ref" "out"⟩)
      ⟨_, inFile_desk, Settings.layered_iff.mpr rfl⟩ hblank
    obtain ⟨hrun, -⟩ := ((runs_layered hwords).2.1 trivial Unit Op.silent desk ()).2 _ hfault
    rw [hrun]
    decide +kernel
  · have hwords : Invocation.ofWords ["pull", "--config", "c.toml", "ref", "out"] =
        .ok ⟨some "c.toml", {}, .pull "ref" "out"⟩ := by decide
    have hwords' : Invocation.ofWords ["pull", "--remote", "http://[::1]", "ref", "out"] =
        .ok ⟨none, { remote := some "http://[::1]" }, .pull "ref" "out"⟩ := by decide
    have heffective' : Invocation.Effective ⟨none, { remote := some "http://[::1]" }, .pull "ref" "out"⟩ { desk with tree := {} }
        { remote := some "http://[::1]" } := ⟨{}, rfl, Settings.layered_iff.mpr rfl⟩
    have hcalls := ((runs_layered hwords).2.1 trivial Unit Op.silent desk ()).1.mpr exists_firstFault_desk
    exact (((runs_layered hwords).2.2 _ _ hwords' rfl).2.1 trivial desk { desk with tree := {} } _ effective_desk heffective'
      ⟨rfl, fun _ h => absurd h List.not_mem_nil⟩ Unit Op.silent () hcalls).2
  · have hwords : Invocation.ofWords ["gen-key", "a", "b"] = .ok ⟨none, {}, .genKey "a" "b" 4096⟩ := by decide
    have hwords' : Invocation.ofWords ["--remote", " ", "gen-key", "--config", "c.toml", "a", "b"] =
        .ok ⟨some "c.toml", { remote := some " " }, .genKey "a" "b" 4096⟩ := by decide
    have hways : desk.tree.Resembles {} (desk.ways "a" ++ desk.ways "b") := by
      intro r hr
      obtain hr | hr := List.mem_append.mp hr
      · obtain rfl | rfl := mem_lookups_desk (by decide) (by decide) (by decide) rfl hr <;> rfl
      · obtain rfl | rfl := mem_lookups_desk (by decide) (by decide) (by decide) rfl hr <;> rfl
    exact (((runs_layered hwords).2.2 _ _ hwords' rfl).2.2 "a" "b" 4096 rfl desk {} hways Unit Op.silent ()).2

end CommandLine

end SealedDrop
