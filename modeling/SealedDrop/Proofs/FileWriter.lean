import SealedDrop.FileWriter
import SealedDrop.Proofs.FileTree
import SealedDrop.Proofs.Session

/-!
# Replacing files

Putting a file in place of another is all or nothing: the new contents are in place and nothing else has changed, or
nothing has changed at all, whatever access fails on the way. Writing a new file may end half way (`Written`).

## The model

* `Stage` lists what the tree may be after the temporary file has been written and moved: as it was, with the temporary
  file still there, or with the destination replaced.
* `Hindrance` is what stands in the way of a replacement. Without one it succeeds.
* `Machine.Grants` says which of the permission bits that are asked for a new file gets.
* `Unused` says of the name drawn for the temporary file that no entry has it. That is what the random bytes in it are
  for; were there such an entry, the removal after a failure would hit it.
-/

namespace SealedDrop

/-! ### Permission bits -/

namespace Machine

/-- A new file for which these permission bits are asked gets these: each of the twelve that is asked for and not in the mask of the
machine. -/
def Grants (m : Machine) (mode bits : Nat) : Prop :=
  ∀ i, bits.testBit i = (decide (i < 12) && mode.testBit i && !m.umask.testBit i)

/-- They are the masked ones. -/
theorem grants_iff {m : Machine} {mode bits : Nat} : m.Grants mode bits ↔ bits = m.masked mode := by
  have hmasked : m.Grants mode (m.masked mode) := by
    intro i
    have hall : Nat.testBit 0o7777 i = decide (i < 12) := Nat.testBit_two_pow_sub_one 12 i
    rw [masked, Nat.testBit_and, Nat.testBit_xor, Nat.testBit_and, hall]
    cases decide (i < 12) <;> cases mode.testBit i <;> cases m.umask.testBit i <;> rfl
  constructor
  · intro h
    exact Nat.eq_of_testBit_eq fun i => (h i).trans (hmasked i).symm
  · rintro rfl
    exact hmasked

/-- The mask is among what no run changes. -/
theorem Frame.masked {m m' : Machine} (h : m.Frame m') (mode : Nat) : m'.masked mode = m.masked mode := by
  rw [Machine.masked, h.umask, Machine.masked]

end Machine

namespace FileWriter

open FileTree

variable {σ : Type} {t : Transport σ} {m m' : Machine} {s : σ} {b : Bytes} {mode : Nat}

/-! ### Faults -/

/-- No failure of an access is planned. -/
def Faultless (m : Machine) : Prop :=
  ∀ f ∈ m.faults, f = none

/-- Consulting the plan of faults changes nothing but the plan. -/
theorem nextFault_eq (m : Machine) : m.nextFault = (m.faults.head?.join, { m with faults := m.faults.tail }) := by
  unfold Machine.nextFault
  obtain ⟨tree, workDir, home, umask, entropy, faults, delivery⟩ := m
  cases faults <;> rfl

/-- The machine that is left when a fault has been consulted and the tree has become this one. -/
def after (m : Machine) (tree : FileTree) : Machine :=
  { m with faults := m.faults.tail, tree := tree }

theorem Faultless.after (h : Faultless m) (tree : FileTree) : Faultless (after m tree) :=
  fun f hf => h f (List.mem_of_mem_tail hf)

theorem not_faultless_of_head {f : Fault} (h : m.faults.head?.join = some f) : ¬ Faultless m := by
  intro hless
  cases hf : m.faults with
  | nil =>
    rw [hf] at h
    cases h
  | cons g rest =>
    rw [hf] at h
    change g = some f at h
    rw [hless g (by rw [hf]; exact List.mem_cons_self)] at h
    cases h

theorem Faultless.head_eq (h : Faultless m) : m.faults.head?.join = none :=
  Option.eq_none_iff_forall_ne_some.mpr fun _ hf => not_faultless_of_head hf h

/-! ### Single accesses -/

/-- Unless a failure is planned, a file is created at every route for a new entry. -/
theorem answer_createNew_of_unplanned (hf : m.faults.head?.join = none) {path : String} {r : Route}
    (hr : m.tree.newRoute m.workDir path = .ok r) (mode : Nat) :
    m.answer (.createNew path mode) = (.ok ⟨r⟩, after m (m.tree.put r (.file (m.masked mode) []))) := by
  simp only [Machine.answer, nextFault_eq, hf, Machine.change, FileTree.create, hr]
  rfl

/-- Unless a failure is planned, only the tree refuses a new file. -/
theorem answer_createNew_of_refused (hf : m.faults.head?.join = none) {path : String} {e : SystemError}
    (hr : m.tree.newRoute m.workDir path = .error e) (mode : Nat) :
    m.answer (.createNew path mode) = (.error e.toIoError, after m m.tree) := by
  simp only [Machine.answer, nextFault_eq, hf, Machine.change, FileTree.create, hr]
  rfl

theorem answer_createNew_of_planned {f : Fault} (hf : m.faults.head?.join = some f) (path : String) (mode : Nat) :
    m.answer (.createNew path mode) = (.error f.error, after m m.tree) := by
  simp only [Machine.answer, nextFault_eq, hf]
  rfl

theorem answer_write_of_unplanned (hf : m.faults.head?.join = none) (h : Handle) (b : Bytes) :
    m.answer (.write h b) = (.ok (), after m (m.tree.append h.route b)) := by
  simp only [Machine.answer, nextFault_eq, hf]
  rfl

/-- A write that fails by plan stores what the plan says. -/
theorem answer_write_of_planned {f : Fault} (hf : m.faults.head?.join = some f) (h : Handle) (b : Bytes) :
    m.answer (.write h b) = (.error f.error, after m (m.tree.append h.route (b.take f.stored))) := by
  simp only [Machine.answer, nextFault_eq, hf]
  rfl

theorem answer_sync_of_unplanned (hf : m.faults.head?.join = none) (h : Handle) : m.answer (.sync h) = (.ok (), after m m.tree) := by
  simp only [Machine.answer, nextFault_eq, hf]
  rfl

theorem answer_sync_of_planned {f : Fault} (hf : m.faults.head?.join = some f) (h : Handle) :
    m.answer (.sync h) = (.error f.error, after m m.tree) := by
  simp only [Machine.answer, nextFault_eq, hf]
  rfl

theorem answer_rename_of_planned {f : Fault} (hf : m.faults.head?.join = some f) (old new : String) :
    m.answer (.rename old new) = (.error f.error, after m m.tree) := by
  simp only [Machine.answer, nextFault_eq, hf]
  rfl

/-- Creating a file succeeds at a route for a new entry, or changes nothing. -/
theorem answer_createNew (m : Machine) (path : String) (mode : Nat) :
    (∃ e, m.answer (.createNew path mode) = (.error e, after m m.tree) ∧
      (Faultless m → ∀ r, m.tree.newRoute m.workDir path ≠ .ok r)) ∨
    ∃ r, m.tree.newRoute m.workDir path = .ok r ∧
      m.answer (.createNew path mode) = (.ok ⟨r⟩, after m (m.tree.put r (.file (m.masked mode) []))) := by
  cases hf : m.faults.head?.join with
  | some f => exact .inl ⟨f.error, answer_createNew_of_planned hf path mode, fun hless => absurd hless (not_faultless_of_head hf)⟩
  | none =>
    cases hr : m.tree.newRoute m.workDir path with
    | error e => exact .inl ⟨e.toIoError, answer_createNew_of_refused hf hr mode, fun _ r h => by cases h⟩
    | ok r => exact .inr ⟨r, rfl, answer_createNew_of_unplanned hf hr mode⟩

/-- Writing to a file succeeds, or writes a part. -/
theorem answer_write (m : Machine) (h : Handle) (b : Bytes) :
    (∃ e b', m.answer (.write h b) = (.error e, after m (m.tree.append h.route b')) ∧ b' <+: b ∧ ¬ Faultless m) ∨
    m.answer (.write h b) = (.ok (), after m (m.tree.append h.route b)) := by
  cases hf : m.faults.head?.join with
  | some f =>
    exact .inl ⟨f.error, _, answer_write_of_planned hf h b, List.take_prefix f.stored b, not_faultless_of_head hf⟩
  | none => exact .inr (answer_write_of_unplanned hf h b)

theorem answer_sync (m : Machine) (h : Handle) :
    (∃ e, m.answer (.sync h) = (.error e, after m m.tree) ∧ ¬ Faultless m) ∨
    m.answer (.sync h) = (.ok (), after m m.tree) := by
  cases hf : m.faults.head?.join with
  | some f => exact .inl ⟨f.error, answer_sync_of_planned hf h, not_faultless_of_head hf⟩
  | none => exact .inr (answer_sync_of_unplanned hf h)

/-- Moving an entry succeeds as the tree allows it, or changes nothing. -/
theorem answer_rename (m : Machine) (old new : String) :
    (∃ e, m.answer (.rename old new) = (.error e, after m m.tree) ∧
      (Faultless m → ∀ tree, m.tree.rename m.workDir old new ≠ .ok tree)) ∨
    ∃ tree, m.tree.rename m.workDir old new = .ok tree ∧ m.answer (.rename old new) = (.ok (), after m tree) := by
  cases hf : m.faults.head?.join with
  | some f => exact .inl ⟨f.error, answer_rename_of_planned hf old new, fun hless => absurd hless (not_faultless_of_head hf)⟩
  | none =>
    simp only [Machine.answer, nextFault_eq, hf, Machine.change]
    cases hr : m.tree.rename m.workDir old new with
    | error e => exact .inl ⟨e.toIoError, rfl, fun _ tree h => by cases h⟩
    | ok tree => exact .inr ⟨tree, rfl, rfl⟩

/-! Without faults each access succeeds where the tree allows it. -/

theorem answer_createNew_of_faultless (hless : Faultless m) {path : String} {r : Route}
    (hr : m.tree.newRoute m.workDir path = .ok r) (mode : Nat) :
    m.answer (.createNew path mode) = (.ok ⟨r⟩, after m (m.tree.put r (.file (m.masked mode) []))) :=
  answer_createNew_of_unplanned hless.head_eq hr mode

theorem answer_write_of_faultless (hless : Faultless m) (h : Handle) (b : Bytes) :
    m.answer (.write h b) = (.ok (), after m (m.tree.append h.route b)) :=
  answer_write_of_unplanned hless.head_eq h b

theorem answer_sync_of_faultless (hless : Faultless m) (h : Handle) : m.answer (.sync h) = (.ok (), after m m.tree) :=
  answer_sync_of_unplanned hless.head_eq h

theorem answer_rename_of_faultless (hless : Faultless m) {old new : String} {tree : FileTree}
    (htree : m.tree.rename m.workDir old new = .ok tree) : m.answer (.rename old new) = (.ok (), after m tree) := by
  rcases answer_rename m old new with ⟨e, -, hno⟩ | ⟨tree', htree', ha⟩
  · exact absurd htree (hno hless tree)
  · rw [htree] at htree'
    cases htree'
    exact ha

/-- No access uses up more than the plan of faults. -/
theorem Faultless.answer (h : Faultless m) (e : Effect) : Faultless (m.answer e).2 := by
  cases e with
  | home => exact h
  | draw n => exact h
  | hasEntry path => exact h
  | isFile path => exact h
  | openRead path => exact h
  | createNew path mode =>
    rcases answer_createNew m path mode with ⟨e, ha, -⟩ | ⟨r, -, ha⟩ <;> rw [ha] <;> exact h.after _
  | write hd b =>
    rw [answer_write_of_faultless h]
    exact h.after _
  | sync hd =>
    rw [answer_sync_of_faultless h]
    exact h.after _
  | rename old new =>
    rcases answer_rename m old new with ⟨e, ha, -⟩ | ⟨tree, -, ha⟩ <;> rw [ha] <;> exact h.after _
  | remove path =>
    simp only [Machine.answer]
    split <;> exact h

/-- All is written and on the disk, or a part is written. -/
theorem runs_writeAll (t : Transport σ) (h : Handle) (b : Bytes) (m : Machine) (s : σ) :
    ∃ x m', Session.Runs t (writeAll h b) m s [] x m' s ∧ m'.workDir = m.workDir ∧
      ((x = .ok () ∧ m'.tree = m.tree.append h.route b ∧ (Faultless m → Faultless m')) ∨
        ∃ e b', x = .error e ∧ m'.tree = m.tree.append h.route b' ∧ b' <+: b ∧ ¬ Faultless m) := by
  have hwrite := Session.Runs.ask (t := t) (m := m) (s := s) (.write h b)
  unfold writeAll
  rcases answer_write m h b with ⟨e, b', ha, hpart, hless⟩ | ha
  · rw [ha] at hwrite
    exact ⟨_, _, hwrite.bind (Session.Runs.pure _), rfl, .inr ⟨e, b', rfl, rfl, hpart, hless⟩⟩
  rw [ha] at hwrite
  have hsync := Session.Runs.ask (t := t) (m := after m (m.tree.append h.route b)) (s := s) (.sync h)
  rcases answer_sync (after m (m.tree.append h.route b)) h with ⟨e, ha', hless⟩ | ha'
  · rw [ha'] at hsync
    exact ⟨_, _, hwrite.bind hsync, rfl, .inr ⟨e, b, rfl, rfl, List.prefix_rfl, mt (fun h => h.after _) hless⟩⟩
  · rw [ha'] at hsync
    exact ⟨_, _, hwrite.bind hsync, rfl, .inl ⟨rfl, rfl, fun hless => (hless.after _).after _⟩⟩

/-- The same for a file that was just created: what is written is all that it holds. -/
theorem runs_writeAll_created (t : Transport σ) {path : String} {r : Route} (hr : m.tree.newRoute m.workDir path = .ok r)
    (b : Bytes) (mode : Nat) (s : σ) :
    ∃ x m', Session.Runs t (writeAll ⟨r⟩ b) (after m (m.tree.put r (.file (m.masked mode) []))) s [] x m' s ∧
      m'.workDir = m.workDir ∧
      ((x = .ok () ∧ m'.tree = m.tree.put r (.file (m.masked mode) b) ∧ (Faultless m → Faultless m')) ∨
        ∃ e b', x = .error e ∧ m'.tree = m.tree.put r (.file (m.masked mode) b') ∧ b' <+: b ∧ ¬ Faultless m) := by
  have happend := append_put m.tree (newRoute_eq_ok_iff.mp hr).1.ne_nil (m.masked mode) []
  obtain ⟨x, m', hrun, hdir, hx⟩ := runs_writeAll t ⟨r⟩ b (after m (m.tree.put r (.file (m.masked mode) []))) s
  refine ⟨x, m', hrun, hdir, ?_⟩
  rcases hx with ⟨hx, htree, hless⟩ | ⟨e, b', hx, htree, hpart, hless⟩
  · exact .inl ⟨hx, htree.trans (happend b), fun h => hless (h.after _)⟩
  · exact .inr ⟨e, b', hx, htree.trans (happend b'), hpart, mt (fun h => h.after _) hless⟩

/-! ### Writing new files -/

/-- The failure to create a file. -/
def notCreated (path : String) (e : IoError) : Error :=
  .ioWith ("Failed to create '" ++ path ++ "'") e

/-- The failure to write to a file that has been created. -/
def notWritten (path : String) (e : IoError) : Error :=
  .ioWith ("Failed to write '" ++ path ++ "'") e

/-- The outcome of writing a new file, and the tree after it. -/
inductive Written (m : Machine) (path : String) (b : Bytes) (mode : Nat) : Except Error Unit → FileTree → Prop where
  /-- The file could not be created. -/
  | refused (e : IoError) (h : Faultless m → ∀ r, m.tree.newRoute m.workDir path ≠ .ok r) :
    Written m path b mode (.error (notCreated path e)) m.tree
  /-- The file was created, and not all of it could be written. What was written stays. -/
  | stuck (e : IoError) (h : ¬ Faultless m) {r : Route} (hr : m.tree.newRoute m.workDir path = .ok r) {b' : Bytes}
    (hpart : b' <+: b) :
    Written m path b mode (.error (notWritten path e)) (m.tree.put r (.file (m.masked mode) b'))
  /-- All of the file is written. -/
  | written {r : Route} (hr : m.tree.newRoute m.workDir path = .ok r) :
    Written m path b mode (.ok ()) (m.tree.put r (.file (m.masked mode) b))

/-- Writing a new file ends in one of these ways, and asks nothing of the remote. -/
theorem runs_writeNew (t : Transport σ) (path : String) (b : Bytes) (mode : Nat) (m : Machine) (s : σ) :
    ∃ x m', Op.Runs t (writeNew path b mode) m s [] x m' s ∧ (x = .ok () → Faultless m → Faultless m') ∧
      Written m path b mode x m'.tree := by
  have hcreate := Op.Runs.ask (t := t) (m := m) (s := s) (.createNew path mode)
  unfold writeNew
  rcases answer_createNew m path mode with ⟨e, ha, hno⟩ | ⟨r, hr, ha⟩
  · rw [ha] at hcreate
    exact ⟨_, _, hcreate.silent_bind ((Op.Runs.access _ (.error e)).bind_error _), nofun, .refused _ hno⟩
  rw [ha] at hcreate
  obtain ⟨x, m₂, hwrite, -, hx⟩ := runs_writeAll_created t hr b mode s
  refine ⟨_, m₂, hcreate.silent_bind ((Op.Runs.access _ (.ok _)).silent_bind
    ((Op.Runs.lift hwrite).silent_bind (Op.Runs.access _ x))), ?_⟩
  rcases hx with ⟨rfl, htree, hless⟩ | ⟨e, b', rfl, htree, hpart, hless⟩
  · rw [htree]
    exact ⟨fun _ => hless, .written hr⟩
  · rw [htree]
    exact ⟨nofun, .stuck _ hless hr hpart⟩

/-- Without faults a file is written at every route for a new entry. -/
theorem runs_writeNew_of_faultless (t : Transport σ) {path : String} {r : Route} (hless : Faultless m)
    (hr : m.tree.newRoute m.workDir path = .ok r) (b : Bytes) (mode : Nat) (s : σ) :
    ∃ m', Op.Runs t (writeNew path b mode) m s [] (.ok ()) m' s ∧ Faultless m' ∧
      m'.tree = m.tree.put r (.file (m.masked mode) b) := by
  obtain ⟨x, m', hrun, hkept, hwritten⟩ := runs_writeNew t path b mode m s
  generalize htree : m'.tree = tree at hwritten
  cases hwritten with
  | refused e hno => exact absurd hr (hno hless r)
  | stuck e hno => exact absurd hless hno
  | written hr' =>
    rw [hr] at hr'
    cases hr'
    exact ⟨m', hrun, hkept rfl hless, htree⟩

/-! ### What a new file leaves as it was -/

/-- Creating a file changes no way that a path may take. -/
theorem way?_put_of_newRoute {tree : FileTree} {workDir r : Route} {path : String}
    (hr : tree.newRoute workDir path = .ok r) (mode : Nat) (b : Bytes) (r' : Route) :
    (tree.put r (.file mode b)).way? r' = tree.way? r' := by
  obtain ⟨hnames, -, hnone⟩ := newRoute_eq_ok_iff.mp hr
  refine way?_put_file hnames.ne_nil ?_ mode b r'
  rw [way?, hnone]

/-- There is room for a second new file where there was before, but for the route of the first one. -/
theorem newRoute_put_iff {tree : FileTree} {workDir r r' : Route} {path path' : String}
    (hr : tree.newRoute workDir path = .ok r) (mode : Nat) (b : Bytes) :
    (tree.put r (.file mode b)).newRoute workDir path' = .ok r' ↔ tree.newRoute workDir path' = .ok r' ∧ r ≠ r' := by
  have hways := way?_put_of_newRoute hr mode b
  have hne := (newRoute_eq_ok_iff.mp hr).1.ne_nil
  rw [newRoute_eq_ok_iff, newRoute_eq_ok_iff, node?_put tree _ hne]
  constructor
  · rintro ⟨hnames, hslash, hnone⟩
    split at hnone
    · cases hnone
    · next hapart => exact ⟨⟨hnames.of_ways fun q => (hways q).symm, hslash, hnone⟩, Ne.symm hapart⟩
  · rintro ⟨⟨hnames, hslash, hnone⟩, hapart⟩
    exact ⟨hnames.of_ways hways, hslash, by rw [if_neg hapart.symm, hnone]⟩

section Written

variable {s' : σ} {l : List Call} {path : String} {x : Except Error Unit} {tree : FileTree}

/-- Writing a new file opens no way and closes none. -/
theorem Written.way? (h : Written m path b mode x tree) (q : Route) : tree.way? q = m.tree.way? q := by
  cases h with
  | refused => rfl
  | stuck e hless hr hpart => exact way?_put_of_newRoute hr _ _ q
  | written hr => exact way?_put_of_newRoute hr _ b q

/-- It changes no entry either. -/
theorem Written.keptIn (h : Written m path b mode x tree) : m.tree.KeptIn tree := by
  cases h with
  | refused => exact .refl _
  | stuck e hless hr hpart => exact .put (newRoute_eq_ok_iff.mp hr).2.2 _
  | written hr => exact .put (newRoute_eq_ok_iff.mp hr).2.2 _

theorem written_of_runs (h : Op.Runs t (writeNew path b mode) m s l x m' s') : Written m path b mode x m'.tree := by
  obtain ⟨y, m₁, hrun, -, hwritten⟩ := runs_writeNew t path b mode m s
  obtain ⟨-, rfl, rfl, -⟩ := hrun.unique h
  exact hwritten

end Written

/-! ### Writing and moving -/

/-- What stands in the way of a replacement: a fault, a name that no file can be created under, or a destination that
takes no file. -/
def Hindrance (m : Machine) (temporary destination : String) : Prop :=
  ¬ Faultless m ∨ (∀ r, m.tree.newRoute m.workDir temporary ≠ .ok r) ∨ ∀ r, ¬ m.tree.Takes m.workDir destination r

/-- The outcome of writing a file under a temporary name and moving it, and the tree after it. -/
inductive Stage (m : Machine) (temporary destination : String) (b : Bytes) (mode : Nat) :
    Except IoError Unit → FileTree → Prop where
  /-- The temporary file could not be created. -/
  | refused (e : IoError) (h : Hindrance m temporary destination) :
    Stage m temporary destination b mode (.error e) m.tree
  /-- The temporary file was created, and something failed after that. -/
  | stuck (e : IoError) (h : Hindrance m temporary destination) {r : Route}
    (hr : m.tree.newRoute m.workDir temporary = .ok r) (b' : Bytes) :
    Stage m temporary destination b mode (.error e) (m.tree.put r (.file (m.masked mode) b'))
  /-- The file is where it should be. -/
  | moved {r q : Route} (hr : m.tree.Takes m.workDir destination r) (hq : m.tree.newRoute m.workDir temporary = .ok q) :
    Stage m temporary destination b mode (.ok ()) (m.tree.put r (.file (m.masked mode) b))

/-- The temporary file can be moved just where a file could be put before it was there. -/
theorem rename_put_iff {tree tree' : FileTree} {workDir r : Route} {temporary destination : String}
    (hr : tree.newRoute workDir temporary = .ok r) (mode : Nat) (b : Bytes) :
    (tree.put r (.file mode b)).rename workDir temporary destination = .ok tree' ↔
      ∃ r', tree.Takes workDir destination r' ∧ tree' = tree.put r' (.file mode b) := by
  have hways := way?_put_of_newRoute hr mode b
  obtain ⟨hnames, hslash, hnone⟩ := newRoute_eq_ok_iff.mp hr
  rw [rename_eq_ok_iff]
  constructor
  · rintro ⟨q, n, r', hq, hn, -, hr', rfl⟩
    cases (hnames.of_ways hways).unique hq
    rw [node?_put_self _ _ hnames.ne_nil] at hn
    cases hn
    exact ⟨r', hr'.of_ways fun q => (hways q).symm, by rw [erase_put_eq_self hnone]⟩
  · rintro ⟨r', hr', rfl⟩
    refine ⟨r, _, r', hnames.of_ways hways, node?_put_self _ _ hnames.ne_nil, hslash, hr'.of_ways hways, ?_⟩
    rw [erase_put_eq_self hnone]

/-- Writing and moving ends in one of the stages, and asks nothing of the remote. -/
theorem runs_writeAndMove (t : Transport σ) (temporary destination : String) (b : Bytes) (mode : Nat) (m : Machine)
    (s : σ) :
    ∃ x m', Session.Runs t (writeAndMove temporary destination b mode) m s [] x m' s ∧ m'.workDir = m.workDir ∧
      Stage m temporary destination b mode x m'.tree := by
  have hcreate := Session.Runs.ask (t := t) (m := m) (s := s) (.createNew temporary mode)
  unfold writeAndMove
  rcases answer_createNew m temporary mode with ⟨e, ha, hless⟩ | ⟨r, hr, ha⟩
  · rw [ha] at hcreate
    refine ⟨_, _, hcreate.bind (Session.Runs.pure _), rfl, .refused e ?_⟩
    exact (Classical.em (Faultless m)).elim (fun h => .inr (.inl (hless h))) .inl
  rw [ha] at hcreate
  obtain ⟨x, m₂, hwrite, hdir, ⟨rfl, htree, hless⟩ | ⟨e, b', rfl, htree, -, hless⟩⟩ := runs_writeAll_created t hr b mode s
  · have hrename := Session.Runs.ask (t := t) (m := m₂) (s := s) (.rename temporary destination)
    rcases answer_rename m₂ temporary destination with ⟨e, ha', hstuck⟩ | ⟨tree, htree', ha'⟩
    · rw [ha'] at hrename
      refine ⟨_, _, hcreate.bind (hwrite.bind hrename), hdir, ?_⟩
      change Stage m temporary destination b mode (.error e) m₂.tree
      rw [htree]
      refine .stuck e ?_ hr b
      by_cases h : Faultless m
      · refine .inr (.inr fun r' hr' => hstuck (hless h) (m.tree.put r' (.file (m.masked mode) b)) ?_)
        rw [htree, hdir]
        exact (rename_put_iff hr _ b).mpr ⟨r', hr', rfl⟩
      · exact .inl h
    · rw [ha'] at hrename
      rw [htree, hdir] at htree'
      obtain ⟨r', hr', rfl⟩ := (rename_put_iff hr _ b).mp htree'
      exact ⟨_, _, hcreate.bind (hwrite.bind hrename), hdir, .moved hr' hr⟩
  · refine ⟨_, _, hcreate.bind (hwrite.bind (Session.Runs.pure _)), hdir, ?_⟩
    rw [htree]
    exact .stuck e (.inl hless) hr b'

/-! ### Replacing -/

/-- No entry has the name that will be drawn for the temporary file beside a destination. -/
def Unused (m : Machine) (destination : String) : Prop :=
  ∀ directory name, Path.split? destination = some (directory, name) →
    ∀ x, m.tree.entry m.workDir (sibling directory name (m.entropy.peek 16)) ≠ .ok x

/-- The temporary file beside a destination can be created. -/
def Opens (m : Machine) (destination : String) : Prop :=
  ∃ directory name q, Path.split? destination = some (directory, name) ∧
    m.tree.newRoute m.workDir (sibling directory name (m.entropy.peek 16)) = .ok q

/-- What makes a replacement fail. -/
def Fails (m : Machine) (destination : String) : Prop :=
  ∀ directory name, Path.split? destination = some (directory, name) →
    Hindrance m (sibling directory name (m.entropy.peek 16)) destination

/-- The removal after a failure restores the tree. -/
theorem tree_of_remove {temporary destination : String} {e : IoError}
    (hunused : ∀ x, m.tree.entry m.workDir temporary ≠ .ok x)
    (hstage : Stage m temporary destination b mode (.error e) m'.tree) (hdir : m'.workDir = m.workDir) :
    (m'.answer (.remove temporary)).2.tree = m.tree := by
  generalize htree : m'.tree = tree at hstage
  cases hstage with
  | refused _ h =>
    obtain ⟨e', he'⟩ := remove_of_no_entry hunused
    simp only [Machine.answer, htree, hdir, he']
  | stuck _ h hr b' =>
    obtain ⟨hnames, hslash, hnone⟩ := newRoute_eq_ok_iff.mp hr
    have hremove := remove_of_names (hnames.of_ways (way?_put_of_newRoute hr (m.masked mode) b'))
      (node?_put_self m.tree _ hnames.ne_nil) (by simp) hslash
    simp only [Machine.answer, htree, hdir, hremove]
    exact erase_put_eq_self hnone _

/-- How putting a file in place of another may end: its outcome and the tree after it. -/
inductive Replaced (m : Machine) (destination : String) (b : Bytes) (mode : Nat) : Except Error Unit → FileTree → Prop where
  /-- The path of the destination has no name in it. -/
  | unnamed (h : Path.split? destination = none) :
    Replaced m destination b mode (.error (.invalidInput ("'" ++ destination ++ "' is not a file path"))) m.tree
  /-- An access failed, and what had been written was removed. -/
  | failed (e : IoError) (h : Fails m destination) :
    Replaced m destination b mode (.error (Error.ioWith ("Error writing object to '" ++ destination ++ "'") e)) m.tree
  /-- The new file is in place. -/
  | placed {r : Route} (hopens : Opens m destination) (hr : m.tree.Takes m.workDir destination r) :
    Replaced m destination b mode (.ok ()) (m.tree.put r (.file (m.masked mode) b))

/-- A replacement that fails has changed no file. -/
theorem Replaced.tree_eq {destination : String} {e : Error} {tree : FileTree} (h : Replaced m destination b mode (.error e) tree) :
    tree = m.tree := by
  generalize hx : Except.error e = x at h
  cases h with
  | unnamed => rfl
  | failed => rfl
  | placed => cases hx

/-- Replacing asks nothing of the remote, and ends in one of these ways if the name of the temporary file is unused. -/
theorem runs_replace_cases (t : Transport σ) (destination : String) (b : Bytes) (mode : Nat) (m : Machine) (s : σ) :
    ∃ x m', Op.Runs t (replace destination b mode) m s [] x m' s ∧
      (Unused m destination → Replaced m destination b mode x m'.tree) := by
  unfold replace
  cases hsplit : Path.split? destination with
  | none => exact ⟨_, _, Op.Runs.throw _, fun _ => .unnamed hsplit⟩
  | some x =>
    obtain ⟨directory, name⟩ := x
    have hdraw := Op.Runs.ask (t := t) (m := m) (s := s) (.draw 16)
    set m₁ := (m.answer (.draw 16)).2 with hm₁
    set temporary := sibling directory name (m.entropy.peek 16) with htemporary
    obtain ⟨x, m₂, hrun, hdir, hstage⟩ := runs_writeAndMove t temporary destination b mode m₁ s
    have hlift := Op.Runs.lift hrun
    cases x with
    | ok u =>
      refine ⟨_, _, hdraw.silent_bind (hlift.silent_bind (Op.Runs.pure _)), fun _ => ?_⟩
      generalize m₂.tree = tree at hstage
      cases hstage with
      | moved hr hq => exact .placed ⟨_, _, _, hsplit, hq⟩ hr
    | error e =>
      have hremove := Op.Runs.ask (t := t) (m := m₂) (s := s) (.remove temporary)
      refine ⟨_, _, hdraw.silent_bind (hlift.silent_bind (hremove.silent_bind (Op.Runs.throw _))), fun hunused => ?_⟩
      have htree : (m₂.answer (.remove temporary)).2.tree = m.tree :=
        tree_of_remove (m := m₁) (hunused directory name hsplit) hstage hdir
      rw [htree]
      refine .failed e ?_
      intro directory' name' hsplit'
      rw [hsplit] at hsplit'
      cases hsplit'
      generalize m₂.tree = tree at hstage
      cases hstage with
      | refused _ h => exact h
      | stuck _ h => exact h

/-- **Replacing is all or nothing**: the new file is in place and nothing else has changed, or nothing has changed. -/
theorem runs_replace (t : Transport σ) (destination : String) (b : Bytes) (mode : Nat) (m : Machine) (s : σ)
    (hunused : Unused m destination) :
    ∃ x m', Op.Runs t (replace destination b mode) m s [] x m' s ∧
      ((x = .ok () ∧ Opens m destination ∧ ∃ r, m.tree.Takes m.workDir destination r ∧
          m'.tree = m.tree.put r (.file (m.masked mode) b)) ∨
        ∃ e, x = .error e ∧ m'.tree = m.tree ∧ Fails m destination) := by
  obtain ⟨x, m', hrun, hreplaced⟩ := runs_replace_cases t destination b mode m s
  refine ⟨x, m', hrun, ?_⟩
  replace hreplaced := hreplaced hunused
  generalize m'.tree = tree at hreplaced
  cases hreplaced with
  | unnamed h => exact .inr ⟨_, rfl, rfl, fun directory name hsplit => by rw [h] at hsplit; cases hsplit⟩
  | failed e h => exact .inr ⟨_, rfl, rfl, h⟩
  | placed hopens hr => exact .inl ⟨rfl, hopens, _, hr, rfl⟩

/-- Without faults a destination that takes a file has its old contents replaced, if the temporary file can be created. -/
theorem runs_replace_of_opens (t : Transport σ) {destination : String} {r : Route} (hless : Faultless m)
    (hunused : Unused m destination) (htakes : m.tree.Takes m.workDir destination r) (hopens : Opens m destination) (b : Bytes)
    (mode : Nat) (s : σ) :
    ∃ m', Op.Runs t (replace destination b mode) m s [] (.ok ()) m' s ∧
      m'.tree = m.tree.put r (.file (m.masked mode) b) := by
  obtain ⟨x, m', hrun, ⟨rfl, -, r', hr', htree⟩ | ⟨e, rfl, -, hfails⟩⟩ := runs_replace t destination b mode m s hunused
  · rw [hr'.names.unique htakes.names] at htree
    exact ⟨m', hrun, htree⟩
  · obtain ⟨directory, name, q, hsplit, hq⟩ := hopens
    rcases hfails directory name hsplit with hfault | hnone | hfree
    · exact absurd hless hfault
    · exact absurd hq (hnone q)
    · exact absurd htakes (hfree r)

/-- If it cannot, the replacement fails for the same reason, and changes no file. -/
theorem runs_replace_of_error (t : Transport σ) {destination directory name : String} {e : SystemError} (hless : Faultless m)
    (hunused : Unused m destination) (hsplit : Path.split? destination = some (directory, name))
    (hr : m.tree.newRoute m.workDir (sibling directory name (m.entropy.peek 16)) = .error e) (b : Bytes) (mode : Nat) (s : σ) :
    ∃ m', Op.Runs t (replace destination b mode) m s []
        (.error (Error.ioWith ("Error writing object to '" ++ destination ++ "'") e.toIoError)) m' s ∧ m'.tree = m.tree := by
  set temporary := sibling directory name (m.entropy.peek 16) with htemporary
  set m₁ := (m.answer (.draw 16)).2 with hm₁
  have hdraw := Op.Runs.ask (t := t) (m := m) (s := s) (.draw 16)
  have hcreate := Session.Runs.ask (t := t) (m := m₁) (s := s) (.createNew temporary mode)
  rw [answer_createNew_of_refused (m := m₁) hless.head_eq hr] at hcreate
  have hmove : Session.Runs t (writeAndMove temporary destination b mode) m₁ s [] (.error e.toIoError) (after m₁ m₁.tree) s :=
    hcreate.bind (Session.Runs.pure _)
  have hremove := Op.Runs.ask (t := t) (m := after m₁ m₁.tree) (s := s) (.remove temporary)
  have hstage : Stage m₁ temporary destination b mode (.error e.toIoError) (after m₁ m₁.tree).tree :=
    .refused _ (.inr (.inl fun q hq => nomatch hr.symm.trans hq))
  refine ⟨_, ?_, tree_of_remove (m := m₁) (hunused directory name hsplit) hstage rfl⟩
  unfold replace
  rw [hsplit]
  exact hdraw.silent_bind ((Op.Runs.lift hmove).silent_bind (hremove.silent_bind (Op.Runs.throw _)))

end FileWriter

end SealedDrop
