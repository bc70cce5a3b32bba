import SealedDrop.Settings.Load
import SealedDrop.Proofs.Readiness

/-!
# Where settings come from

The settings of a run come from the flags and from a file. Each has one value, whichever of the two gives it.

## The model

* `Settings.Layered` says what the settings of a run are, given those of the flags and of the file: the value of a flag if there is
  one, even if it is blank, then that of the file, and then the default. Certificates go unverified if either of the two asks for it.
* `Settings.file?` is the file that the settings are loaded from: the one that is named, or else the default one if that is a file.
  What is in it is told by `Settings.InFile` without the code that reads it.

## What is proved

* `Settings.layered_iff` — the settings of a run are those of the flags laid over those of the file.
* `Settings.outcome_load` — loading the settings reads this file, if there is one.
* `Settings.outcome_readFile_eq_ok_iff` — reading it gives the settings that are in it, and
  `Settings.failsOnlyWith_readFile` — where there are none, that is told as a matter of configuration.
-/

namespace SealedDrop

open Op

variable {α : Type} {m : Machine}

namespace Settings

variable {flags file s : Settings} {path : String}

/-! ### Layers -/

/-- The value of a setting is that of its flag if there is one, and otherwise that of the file. -/
def Prefers (flag file value : Option α) : Prop :=
  (∀ a, flag = some a → value = some a) ∧ (flag = none → value = file)

theorem prefers_iff {flag file value : Option α} : Prefers flag file value ↔ value = flag.or file := by
  cases flag <;> simp [Prefers]

/-- The settings of a run, by the settings in flags and those in a file. -/
structure Layered (flags file s : Settings) : Prop where
  /-- The remote. -/
  remote : Prefers flags.remote file.remote s.remote
  /-- The private key. -/
  privateKey : Prefers flags.privateKey file.privateKey s.privateKey
  /-- The name of the public key. -/
  keyName : Prefers flags.keyName file.keyName s.keyName
  /-- The shared key. -/
  encryptionKey : Prefers flags.encryptionKey file.encryptionKey s.encryptionKey
  /-- Certificates go unverified if either asks for it. -/
  insecureSkipVerify : s.insecureSkipVerify = true ↔ flags.insecureSkipVerify = true ∨ file.insecureSkipVerify = true
  /-- The time limit. -/
  requestTimeout : Prefers flags.requestTimeout file.requestTimeout s.requestTimeout
  /-- If there is none, it is thirty seconds. -/
  timeout : s.timeout = s.requestTimeout.getD 30

/-- There is one way to lay settings over each other. -/
theorem layered_iff : Layered flags file s ↔ s = file.overlay flags := by
  constructor
  · rintro ⟨h₁, h₂, h₃, h₄, h₅, h₆, -⟩
    rw [prefers_iff] at h₁ h₂ h₃ h₄ h₆
    rw [← Bool.or_eq_true, Bool.coe_iff_coe] at h₅
    cases s
    simp only [overlay, mk.injEq]
    exact ⟨h₁, h₂, h₃, h₄, h₅, h₆⟩
  · rintro rfl
    refine ⟨prefers_iff.mpr rfl, prefers_iff.mpr rfl, prefers_iff.mpr rfl, prefers_iff.mpr rfl, ?_, prefers_iff.mpr rfl, rfl⟩
    exact iff_of_eq (Bool.or_eq_true _ _)

/-! ### Files -/

/-- The path names a regular file. -/
def isFile (m : Machine) (path : String) : Bool :=
  (m.answer (.isFile path)).1

/-- The file that settings are loaded from: the one that is named, or else the default one under the home directory, if that is a
file. -/
def file? (path : Option String) (m : Machine) : Option String :=
  match path with
  | some path => some path
  | none => (m.home.map defaultPath).filter (isFile m)

/-- These are the settings in the file of this path. -/
def InFile (m : Machine) (path : String) (s : Settings) : Prop :=
  ∃ b text, m.Reads path b ∧ text? b = some text ∧ parse text = .ok s

/-- The failure to read a settings file. -/
def unreadable (path : String) (e : IoError) : Error :=
  .config ("Error reading config file '" ++ path ++ "': " ++ e.description)

/-- The settings in the contents of a file. -/
def ofContents (path : String) (contents : Bytes) : Except Error Settings :=
  match text? contents with
  | some text => (parse text).mapError fun e => .config ("In '" ++ path ++ "': " ++ e.message)
  | none => .error (unreadable path ⟨.invalidData, "stream did not contain valid UTF-8"⟩)

/-- Reading the settings file in three steps. -/
theorem readFile_eq (path : String) :
    readFile path = Op.ask (.openRead path) >>= fun opened => Op.access (unreadable path) opened >>= fun source =>
      Op.access (unreadable path) (readToEnd source.events) >>= fun contents => Op.check (ofContents path contents) := by
  unfold readFile ofContents
  refine bind_congr fun opened => bind_congr fun source => bind_congr fun contents => ?_
  cases text? contents <;> rfl

theorem observes_readFile (path : String) : Observes (readFile path) := by
  rw [readFile_eq]
  exact (Observes.ask fun _ => rfl).bind fun _ => (Observes.access _ _).bind fun _ => (Observes.access _ _).bind fun _ => .check _

theorem outcome_readFile (path : String) (m : Machine) :
    (readFile path).outcome m =
      ((m.answer (.openRead path)).1.mapError (unreadable path)).bind fun source =>
        ((readToEnd source.events).mapError (unreadable path)).bind (ofContents path) := by
  rw [readFile_eq]
  refine (outcome_ask_bind rfl _).trans ((outcome_access_bind _ _ _ m).trans ?_)
  congr 1
  funext source
  exact outcome_access_bind _ _ _ m

theorem ofContents_eq_ok_iff {contents : Bytes} :
    ofContents path contents = .ok s ↔ ∃ text, text? contents = some text ∧ parse text = .ok s := by
  unfold ofContents
  cases text? contents with
  | none => simp
  | some text => cases h : parse text <;> simp [Except.mapError, h]

/-- The settings that are read are those in the file. -/
theorem outcome_readFile_eq_ok_iff : (readFile path).outcome m = .ok s ↔ InFile m path s := by
  rw [outcome_readFile]
  simp only [Machine.answer]
  cases hn : m.tree.find m.workDir path with
  | error e =>
    refine ⟨fun h => (by cases h), ?_⟩
    rintro ⟨b, text, ⟨n, hn', -⟩, -⟩
    rw [hn] at hn'
    cases hn'
  | ok n =>
    change ((readToEnd (m.source n).events).mapError _).bind _ = .ok s ↔ _
    constructor
    · intro h
      cases hb : readToEnd (m.source n).events with
      | error e =>
        rw [hb] at h
        cases h
      | ok b =>
        rw [hb] at h
        obtain ⟨text, htext, hparse⟩ := ofContents_eq_ok_iff.mp h
        exact ⟨b, text, ⟨n, hn, readToEnd_eq_ok_iff.mp hb⟩, htext, hparse⟩
    · rintro ⟨b, text, ⟨n', hn', hread⟩, htext, hparse⟩
      rw [hn] at hn'
      cases hn'
      rw [readToEnd_eq_ok_iff.mpr hread]
      exact ofContents_eq_ok_iff.mpr ⟨text, htext, hparse⟩

/-- A file that gives no settings is refused as a matter of configuration. -/
theorem failsOnlyWith_readFile (path : String) : (readFile path).FailsOnlyWith fun e => ∃ what, e = .config what := by
  rw [readFile_eq]
  refine .bind (.ask _) fun opened => .bind (.access fun _ => ⟨_, rfl⟩) fun source => ?_
  refine .bind (.access fun _ => ⟨_, rfl⟩) fun contents => .check fun e he => ?_
  unfold ofContents at he
  cases htext : text? contents with
  | none =>
    rw [htext] at he
    cases he
    exact ⟨_, rfl⟩
  | some text =>
    simp only [htext] at he
    cases hparse : parse text with
    | ok s =>
      rw [hparse] at he
      cases he
    | error f =>
      rw [hparse] at he
      cases he
      exact ⟨_, rfl⟩

/-- Loading settings when none are named: those in the default file, given by its path, if it is a file. -/
def loadDefault (path : Option String) : Op Settings :=
  match path with
  | none => Op.check (.ok {})
  | some path => Op.ask (.isFile path) >>= fun found => if (show Bool from found) then readFile path else Op.check (.ok {})

theorem load_none : load none = Op.ask .home >>= fun home => loadDefault (Option.map defaultPath home) := by
  refine bind_congr fun home => ?_
  cases h : Option.map defaultPath home with
  | none => rfl
  | some path => rfl

theorem observes_load (path : Option String) : Observes (load path) := by
  cases path with
  | some path => exact observes_readFile path
  | none =>
    rw [load_none]
    refine (Observes.ask fun _ => rfl).bind fun home => ?_
    cases Option.map defaultPath home with
    | none => exact .check _
    | some path =>
      refine (Observes.ask fun _ => rfl).bind fun found => ?_
      cases found with
      | true => exact observes_readFile path
      | false => exact .check _

/-- Loading the settings reads the file that they are loaded from, if there is one. -/
theorem outcome_load (path : Option String) (m : Machine) :
    (load path).outcome m = match file? path m with
      | some file => (readFile file).outcome m
      | none => .ok {} := by
  cases path with
  | some path => rfl
  | none =>
    rw [load_none]
    refine (outcome_ask_bind (e := .home) rfl _).trans ?_
    change (loadDefault (m.home.map defaultPath)).outcome m = _
    unfold file?
    cases m.home.map defaultPath with
    | none => rfl
    | some path =>
      refine (outcome_ask_bind (e := .isFile path) rfl _).trans ?_
      change (if isFile m path then readFile path else Op.check (.ok {})).outcome m = _
      rw [Option.filter_some]
      cases isFile m path <;> rfl

end Settings

end SealedDrop
