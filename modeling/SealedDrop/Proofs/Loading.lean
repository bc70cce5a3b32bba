import SealedDrop.Proofs.Secret

/-!
# Key files are loaded whole

What is loaded of a key file is the file, byte for byte, however its bytes come in, and whichever of the two ways of reading is
taken.

## The model

* A regular file that tells its size is read into a buffer of that size, and one more call sees that it has ended. Any other file,
  a pipe or an empty one, is read into a buffer of 4096 bytes that doubles whenever it is full.
* A file that nobody changes and that can be read delivers its bytes in pieces of any size, with interruptions between them
  (`ReadEvent.IsIntact`). No call that fills a buffer minds an interruption. The one that looks for the end of a file of known
  size does, and reports it.
* `Loading` is the rule for the outcome. It also tells how a path is refused that cannot be located, opened or read.

## What is proved

* `Secret.read_of_isSized`, `Secret.read_of_not_isSized` — both ways give the bytes of a file that is delivered intact.
* `Secret.load_whole` — loading obeys the rule on every machine, and changes nothing there.
-/

namespace SealedDrop

open ReadEvent

variable {σ : Type} {m : Machine} {raw path : String} {source : Source} {b : Bytes}

/-! ### Files that are delivered intact -/

/-- The source delivers these bytes, in pieces of any size and with any interruptions, and never fails. -/
structure ReadEvent.IsIntact (source : List ReadEvent) (b : Bytes) : Prop where
  /-- No call fails. -/
  faultless : IsFaultless source
  /-- No byte is lost or added. -/
  contents : ReadEvent.contents source = b

/-- What is left of a source without bytes and failures begins with an interruption, if anything is left. -/
theorem ReadEvent.IsIntact.eq_interrupted_cons {e : ReadEvent} {rest : List ReadEvent} (h : IsIntact (e :: rest) []) :
    e = interrupted := by
  cases e with
  | chunk c more => cases h.contents
  | interrupted => rfl
  | failure f => exact absurd rfl (h.faultless _ List.mem_cons_self f)

/-- The file is read by its size. -/
def Source.IsSized (source : Source) : Prop :=
  source.isRegular = true ∧ source.size ≠ 0

/-- The failure to read a file of this path because a signal came in. -/
def Secret.signalled (path : String) : Error :=
  .keyAccess ("Cannot read '" ++ path ++ "': " ++ "Interrupted system call (os error 4)")

/-- A file of known size is read whole, if no signal comes in when its end is looked for. -/
theorem Secret.read_of_isSized (hsized : source.IsSized) (hintact : IsIntact source.events b) (hsize : source.size = b.length)
    (hlast : source.events.getLast? ≠ some .interrupted) : Secret.read path source = .ok ⟨b⟩ := by
  refine Secret.read_eq_ok_iff.mpr ⟨?_, hintact.contents.symm⟩
  rw [Source.IsLoadable, if_pos (show source.isRegular = true ∧ source.size ≠ 0 from hsized), hsize]
  exact ⟨hintact.faultless, congrArg List.length hintact.contents, hlast⟩

/-- If one does, all its bytes are in the buffer, and what is left is the signal. -/
theorem Secret.read_of_signalled (hsized : source.IsSized) (hintact : IsIntact source.events b) (hsize : source.size = b.length)
    (hlast : source.events.getLast? = some .interrupted) : Secret.read path source = .error (Secret.signalled path) := by
  obtain ⟨hfaultless, rfl⟩ := hintact
  obtain ⟨b, after, hread, hafter⟩ := exists_readExact hfaultless (Nat.le_refl _)
  obtain ⟨hcontents, hlength⟩ := contents_of_readExact hread
  have hempty : ReadEvent.contents after = [] := by
    have hsum := congrArg List.length hcontents
    rw [List.length_append, hlength] at hsum
    exact List.length_eq_zero_iff.mp (by omega)
  cases after with
  | nil => exact absurd hlast (readExact_eq_nil_iff.mp ⟨b, hread⟩).last
  | cons e rest =>
    obtain rfl := IsIntact.eq_interrupted_cons ⟨hafter, hempty⟩
    rw [Secret.read, if_pos (show source.isRegular = true ∧ source.size ≠ 0 from hsized), hsize, hread]
    rfl

/-- A file that tells no size is read whole. -/
theorem Secret.read_of_not_isSized (hsized : ¬ source.IsSized) (hintact : IsIntact source.events b) :
    Secret.read path source = .ok ⟨b⟩ := by
  refine Secret.read_eq_ok_iff.mpr ⟨?_, hintact.contents.symm⟩
  rw [Source.IsLoadable, if_neg (show ¬ (source.isRegular = true ∧ source.size ≠ 0) from hsized)]
  exact hintact.faultless

example : Secret.read "pipe" ⟨false, 0, [interrupted, chunk 1 [], interrupted, chunk 2 [3], interrupted]⟩ = .ok ⟨[1, 2, 3]⟩ :=
  Secret.read_of_not_isSized (fun h => h.2 rfl) ⟨by simp [IsFaultless], rfl⟩

/-! ### What loading comes to -/

theorem Secret.outcome_load_of_expand_error {e : Error} (h : Home.expand m.home raw = .error e) :
    (Secret.load raw).outcome m = .error (.keyAccess ("Cannot locate '" ++ raw ++ "': " ++ e.message)) := by
  rw [Secret.outcome_load, h]
  rfl

theorem Secret.outcome_load_of_find_error (hpath : Home.expand m.home raw = .ok path) {e : SystemError}
    (h : m.tree.find m.workDir path = .error e) :
    (Secret.load raw).outcome m = .error (.keyAccess ("Cannot open '" ++ path ++ "': " ++ e.description)) := by
  rw [Secret.outcome_load, hpath]
  simp only [Except.mapError, Except.bind, Machine.answer, h]
  rfl

theorem Secret.outcome_load_of_find (hpath : Home.expand m.home raw = .ok path) {n : Node}
    (h : m.tree.find m.workDir path = .ok n) : (Secret.load raw).outcome m = Secret.read path (m.source n) := by
  rw [Secret.outcome_load, hpath]
  simp only [Except.mapError, Except.bind, Machine.answer, h]

/-- What cannot be loaded is not read either way: an error. -/
theorem Secret.exists_error_of_not_isFaultless (h : ¬ IsFaultless source.events) : ∃ e, Secret.read path source = .error e := by
  cases hread : Secret.read path source with
  | error e => exact ⟨e, rfl⟩
  | ok secret =>
    obtain ⟨hloadable, -⟩ := Secret.read_eq_ok_iff.mp hread
    unfold Source.IsLoadable at hloadable
    split at hloadable
    · exact absurd hloadable.faultless h
    · exact absurd hloadable h

/-! ### The rule -/

/-- The rule for loading a key file, given by its path: the outcome is `x`. -/
structure Loading (m : Machine) (raw : String) (x : Except Error Secret) : Prop where
  /-- A regular file with bytes in it is loaded whole, however these come in, if no signal comes in behind the last of them. -/
  sized : ∀ path mode b, Home.expand m.home raw = .ok path → m.tree.find m.workDir path = .ok (.file mode b) → b ≠ [] →
    IsIntact (m.delivery b) b → (m.delivery b).getLast? ≠ some .interrupted →
    ∃ secret, x = .ok secret ∧ secret.bytes = b ∧ secret.size = b.length
  /-- If one does, the end of the file could not be read. -/
  signalled : ∀ path mode b, Home.expand m.home raw = .ok path → m.tree.find m.workDir path = .ok (.file mode b) → b ≠ [] →
    IsIntact (m.delivery b) b → (m.delivery b).getLast? = some .interrupted →
    x = .error (Secret.signalled path)
  /-- A file that tells no size is loaded whole, however its bytes come in: a pipe, or an empty regular file. -/
  streamed : ∀ path n b, Home.expand m.home raw = .ok path → m.tree.find m.workDir path = .ok n →
    (∃ isRegular, n = .stream isRegular b) ∨ (∃ mode, n = .file mode b) ∧ b = [] → IsIntact (m.delivery b) b →
    ∃ secret, x = .ok secret ∧ secret.bytes = b ∧ secret.size = b.length
  /-- Whatever the file does meanwhile, what is loaded is all that it has delivered. -/
  whole : ∀ secret, x = .ok secret → m.Delivers raw secret.bytes
  /-- A path that cannot be expanded is not located. -/
  unlocated : ∀ e, Home.expand m.home raw = .error e →
    x = .error (.keyAccess ("Cannot locate '" ++ raw ++ "': " ++ e.message))
  /-- A path that leads to no file is not opened. -/
  unopened : ∀ path e, Home.expand m.home raw = .ok path → m.tree.find m.workDir path = .error e →
    x = .error (.keyAccess ("Cannot open '" ++ path ++ "': " ++ e.description))
  /-- A file that fails while it is read is not loaded. -/
  unread : ∀ path n, Home.expand m.home raw = .ok path → m.tree.find m.workDir path = .ok n →
    ¬ IsFaultless (m.source n).events → ∃ e, x = .error e
  /-- Every failure is one of access to a key. -/
  failure : ∀ e, x = .error e → ∃ what, e = .keyAccess what

/-- **Key files are loaded whole**: loading a key file obeys the rule on every machine, whatever the file is and however it is
delivered. It calls nobody and leaves the machine as it was. -/
theorem Secret.load_whole (t : Transport σ) (raw : String) (m : Machine) (u : σ) :
    ∃ x, Op.Runs t (Secret.load raw) m u [] x m u ∧ Loading m raw x := by
  refine ⟨(Secret.load raw).outcome m, (Secret.observes_load raw).runs t m u, ?_⟩
  have hsized : ∀ {mode b}, b ≠ [] → (m.source (.file mode b)).IsSized := fun h => ⟨rfl, mt List.length_eq_zero_iff.mp h⟩
  refine {
    sized := fun path mode b hpath hn hne hintact hlast => ?_
    signalled := fun path mode b hpath hn hne hintact hlast => ?_
    streamed := fun path n b hpath hn hstream hintact => ?_
    whole := fun secret h => Secret.delivers_of_load h
    unlocated := fun e h => Secret.outcome_load_of_expand_error h
    unopened := fun path e hpath h => Secret.outcome_load_of_find_error hpath h
    unread := fun path n hpath hn h => ?_
    failure := fun e h => (Secret.failsOnlyWith_load raw).outcome h }
  · refine ⟨⟨b⟩, ?_, rfl, rfl⟩
    rw [Secret.outcome_load_of_find hpath hn]
    exact Secret.read_of_isSized (hsized hne) hintact rfl hlast
  · rw [Secret.outcome_load_of_find hpath hn]
    exact Secret.read_of_signalled (hsized hne) hintact rfl hlast
  · refine ⟨⟨b⟩, ?_, rfl, rfl⟩
    rw [Secret.outcome_load_of_find hpath hn]
    obtain ⟨isRegular, rfl⟩ | ⟨⟨mode, rfl⟩, rfl⟩ := hstream
    · exact Secret.read_of_not_isSized (fun h => h.2 rfl) hintact
    · exact Secret.read_of_not_isSized (fun h => h.2 rfl) hintact
  · rw [Secret.outcome_load_of_find hpath hn]
    exact Secret.exists_error_of_not_isFaultless h

end SealedDrop
