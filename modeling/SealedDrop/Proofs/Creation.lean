import SealedDrop.Proofs.Rollback

/-!
# Files that are left half written

What a step that fails leaves of a new file, and of a generation of key files that needs it.

## The model

* The path may be anything, and so may the contents and the permission bits. Each step of the creation, that of the entry, the
  write and the way to the disk, fails if the plan of faults says so. A write that fails may have stored any first part of its
  bytes.
* `CompleteOrNothing` is what a caller would hope for: the file is whole, or the tree is as before. A replacement keeps it, as
  it removes what it has written when a step fails. The creation of a file removes nothing.
* `Created` is the rule that holds without exception. It tells that `CompleteOrNothing` is kept just if no access to the open
  file fails, and what there is otherwise.

## What is proved

* `writeNew_exact` — every creation of a file obeys the rule.
* `not_completeOrNothing_fullDisk` — on a full disk the first byte of a file stays.
* `KeyGeneration.refused_of_leftover` — what a generation of key files leaves by a failure is in the way of every later one.
* `KeyGeneration.leftover_fullFactory` — so is the one byte of a private key for which there was space on a full disk.
-/

namespace SealedDrop

variable {σ σ' : Type} {t : Transport σ} {m m' : Machine} {u u' : σ} {l : List Call}

namespace FileWriter

open FileTree

variable {path : String} {b : Bytes} {mode : Nat} {x : Except Error Unit} {tree : FileTree}

/-! ### The rule -/

/-- A file with these contents and permission bits has come to a tree under a path. -/
structure NewFile (m : Machine) (path : String) (b : Bytes) (mode : Nat) (r : Route) (tree : FileTree) : Prop where
  /-- The path leads to a name in an existing directory, and no entry had it. -/
  absent : m.tree.newRoute m.workDir path = .ok r
  /-- The file is there, with these bits less those of the mask, and every other entry is as before. -/
  node? : ∃ bits, m.Grants mode bits ∧ ∀ q, tree.node? q = if q = r then some (.file bits b) else m.tree.node? q

theorem newFile_put {r : Route} (hr : m.tree.newRoute m.workDir path = .ok r) (b : Bytes) (mode : Nat) :
    NewFile m path b mode r (m.tree.put r (.file (m.masked mode) b)) :=
  ⟨hr, _, Machine.grants_iff.mpr rfl, node?_put m.tree _ (newRoute_eq_ok_iff.mp hr).1.ne_nil⟩

/-- The whole file has come to the tree after a success, and after a failure the tree is as before. -/
def CompleteOrNothing (m : Machine) (path : String) (b : Bytes) (mode : Nat) (x : Except Error Unit) (tree : FileTree) : Prop :=
  match x with
  | .ok () => ∃ r, NewFile m path b mode r tree
  | .error _ => tree = m.tree

/-- The rule for the creation of a file: the outcome is `x`, and machine `m'` is left. -/
structure Created (t : Transport σ) (path : String) (b : Bytes) (mode : Nat) (m : Machine) (u : σ) (x : Except Error Unit)
    (m' : Machine) : Prop where
  /-- After a success there is a whole new file. -/
  complete : x = .ok () → ∃ r, NewFile m path b mode r m'.tree
  /-- The words of a failure tell whether the file has come: if it could not be created nothing has changed, and if it could not be
  written it holds some first part of the contents. -/
  failure : ∀ e, x = .error e → (∃ e', e = notCreated path e') ∧ m'.tree = m.tree ∨
    (∃ e', e = notWritten path e') ∧ ∃ r b', b' <+: b ∧ NewFile m path b' mode r m'.tree
  /-- The file is complete or nothing has changed, just if no access to the open file fails. -/
  exact : CompleteOrNothing m path b mode x m'.tree ↔ (writeNew path b mode).Stores t m u
  /-- What has come is in the way of every other file, whatever it holds: the path names an entry now, and another attempt to create
  it fails and changes nothing. -/
  blocks : m'.tree ≠ m.tree → (m'.tree.find m'.workDir path).isOk = true ∧ ∀ (b' : Bytes) (mode' : Nat),
    ∃ e, (Op.run t (writeNew path b' mode') m' u).1 = .error (notCreated path e) ∧
      (Op.run t (writeNew path b' mode') m' u).2.1.tree = m'.tree
  /-- Where no access fails by plan, there is no failure but for a path that allows no new file. -/
  success : Faultless m → (x = .ok () ↔ ∃ r, m.tree.newRoute m.workDir path = .ok r)

/-- A second file is not created where one is. -/
theorem writeNew_refused (hno : ∀ r, m.tree.newRoute m.workDir path ≠ .ok r) (t : Transport σ) (b : Bytes) (mode : Nat) (u : σ) :
    ∃ e, (Op.run t (writeNew path b mode) m u).1 = .error (notCreated path e) ∧
      (Op.run t (writeNew path b mode) m u).2.1.tree = m.tree := by
  obtain ⟨x, m', hrun, -, hwritten⟩ := runs_writeNew t path b mode m u
  rw [hrun.run_eq]
  generalize m'.tree = tree at hwritten ⊢
  cases hwritten with
  | refused e _ => exact ⟨e, rfl, rfl⟩
  | stuck e _ hr _ => exact absurd hr (hno _)
  | written hr => exact absurd hr (hno _)

/-! ### How a creation ends -/

theorem Written.complete (h : Written m path b mode (.ok ()) tree) : ∃ r, NewFile m path b mode r tree := by
  cases h with
  | written hr => exact ⟨_, newFile_put hr b mode⟩

theorem Written.failure {e : Error} (h : Written m path b mode (.error e) tree) :
    (∃ e', e = notCreated path e') ∧ tree = m.tree ∨
      (∃ e', e = notWritten path e') ∧ ∃ r b', b' <+: b ∧ NewFile m path b' mode r tree := by
  cases h with
  | refused e _ => exact .inl ⟨⟨e, rfl⟩, rfl⟩
  | stuck e _ hr hpart => exact .inr ⟨⟨e, rfl⟩, _, _, hpart, newFile_put hr _ mode⟩

/-- The only change there can be is a file under the path. -/
theorem Written.exists_put (h : Written m path b mode x tree) (hchanged : tree ≠ m.tree) :
    ∃ r b', m.tree.newRoute m.workDir path = .ok r ∧ tree = m.tree.put r (.file (m.masked mode) b') := by
  cases h with
  | refused => exact absurd rfl hchanged
  | stuck _ _ hr _ => exact ⟨_, _, hr, rfl⟩
  | written hr => exact ⟨_, _, hr, rfl⟩

/-- **What a creation leaves**: the creation of a file obeys the rule, whatever the path is and whichever step fails. -/
theorem writeNew_exact (t : Transport σ) (path : String) (b : Bytes) (mode : Nat) (m : Machine) (u : σ) :
    Created t path b mode m u (Op.run t (writeNew path b mode) m u).1 (Op.run t (writeNew path b mode) m u).2.1 := by
  obtain ⟨x, m', hrun, -, hwritten⟩ := runs_writeNew t path b mode m u
  have hstores := stores_writeNew_iff hrun
  have hdir : m'.workDir = m.workDir := hrun.frame.workDir
  rw [hrun.run_eq]
  refine ⟨?complete, ?failure, ?exact, ?blocks, ?success⟩
  case complete =>
    rintro rfl
    exact hwritten.complete
  case failure =>
    rintro e rfl
    exact hwritten.failure
  case exact =>
    rw [hstores]
    cases x with
    | ok _ => exact ⟨fun _ => .inl rfl, fun _ => hwritten.complete⟩
    | error e => exact ⟨.inr, fun h => h.resolve_left nofun⟩
  case blocks =>
    intro hchanged
    obtain ⟨r, b', hr, htree⟩ := hwritten.exists_put hchanged
    refine ⟨?_, fun b₂ mode₂ => writeNew_refused (fun r₂ hr₂ => ?_) t b₂ mode₂ u⟩
    · rw [htree, hdir, find_put_of_newRoute hr]
      rfl
    · rw [htree, hdir, newRoute_put_iff hr] at hr₂
      obtain ⟨hsame, hne⟩ := hr₂
      rw [hr] at hsame
      cases hsame
      exact hne rfl
  case success =>
    intro hless
    constructor
    · rintro rfl
      obtain ⟨r, hnew⟩ := hwritten.complete
      exact ⟨r, hnew.absent⟩
    · rintro ⟨r, hr⟩
      obtain ⟨m₁, hrun₁, -⟩ := runs_writeNew_of_faultless t hless hr b mode u
      exact (hrun.unique hrun₁).2.1

/-- If the write fails, what it has stored stays. -/
theorem runs_writeNew_of_fault (t : Transport σ) {r : Route} {f : Fault} {rest : List (Option Fault)}
    (hfaults : m.faults = none :: some f :: rest) (hr : m.tree.newRoute m.workDir path = .ok r) (b : Bytes) (mode : Nat) (u : σ) :
    ∃ m', Op.Runs t (writeNew path b mode) m u [] (.error (notWritten path f.error)) m' u ∧
      m'.tree = m.tree.put r (.file (m.masked mode) (b.take f.stored)) := by
  set created := after m (m.tree.put r (.file (m.masked mode) [])) with hcreated
  have hfirst : m.faults.head?.join = none := by rw [hfaults]; rfl
  have hsecond : created.faults.head?.join = some f := by rw [hcreated, after, hfaults]; rfl
  have hcreate := Op.Runs.ask (t := t) (m := m) (s := u) (.createNew path mode)
  have hwrite := Session.Runs.ask (t := t) (m := created) (s := u) (.write ⟨r⟩ b)
  rw [answer_createNew_of_unplanned hfirst hr] at hcreate
  rw [answer_write_of_planned hsecond] at hwrite
  have hall : Session.Runs t (writeAll ⟨r⟩ b) created u [] (.error f.error) _ u := hwrite.bind (Session.Runs.pure _)
  refine ⟨_, hcreate.silent_bind ((Op.Runs.access _ (.ok _)).silent_bind ((Op.Runs.lift hall).silent_bind
    (Op.Runs.access _ (.error _)))), ?_⟩
  exact append_put m.tree (newRoute_eq_ok_iff.mp hr).1.ne_nil _ [] _

/-- A machine with one file, whose disk is full after one more byte. -/
def fullDisk : Machine where
  tree := ⟨[(["out"], .file 0o600 [1, 2, 3])]⟩
  entropy := ⟨fun _ => 7, 0⟩
  faults := [none, some ⟨⟨.storageFull, "No space left on device (os error 28)"⟩, 1⟩]

/-- On a full disk the creation of a file fails, and a file with the first of its three bytes stays. -/
theorem not_completeOrNothing_fullDisk :
    ¬ CompleteOrNothing fullDisk "key" [4, 5, 6] 0o600
        (Op.run Op.silent (writeNew "key" [4, 5, 6] 0o600) fullDisk ()).1
        (Op.run Op.silent (writeNew "key" [4, 5, 6] 0o600) fullDisk ()).2.1.tree ∧
      (Op.run Op.silent (writeNew "key" [4, 5, 6] 0o600) fullDisk ()).1 =
        .error (.io ⟨.storageFull, "Failed to write 'key': No space left on device (os error 28)"⟩) ∧
      (Op.run Op.silent (writeNew "key" [4, 5, 6] 0o600) fullDisk ()).2.1.tree =
        ⟨[(["key"], .file 0o600 [4]), (["out"], .file 0o600 [1, 2, 3])]⟩ := by
  have hr : fullDisk.tree.newRoute fullDisk.workDir "key" = .ok ["key"] :=
    newRoute_eq_ok_iff.mpr ⟨names_of_innerSteps rfl rfl (by decide) (by decide), by decide, rfl⟩
  obtain ⟨m', hrun, htree⟩ := runs_writeNew_of_fault Op.silent rfl hr [4, 5, 6] 0o600 ()
  rw [hrun.run_eq]
  refine ⟨fun hsame => ?_, rfl, htree⟩
  have hnone : m'.tree.node? ["key"] = none := by
    rw [show m'.tree = fullDisk.tree from hsame]
    rfl
  rw [htree, node?_put_self _ _ (by decide)] at hnone
  cases hnone

end FileWriter

/-! ### Key files -/

namespace KeyGeneration

open FileTree FileWriter Rsa

variable {privatePath publicPath path path' : String} {bits : Nat} {k : PrivateKey} {file publicFile : Bytes} {r r' : Route}
  {e : Error}

/-- The refusal of a path that names an entry. -/
def overwrites (path : String) : Error :=
  .io ⟨.alreadyExists, "Refusing to overwrite '" ++ path ++ "'"⟩

theorem runs_refuseExisting_of_find (h : (m.tree.find m.workDir path).isOk = true) :
    Op.Runs t (refuseExisting path) m u [] (.error (overwrites path)) m u := by
  have hask := Op.Runs.ask (t := t) (m := m) (s := u) (.hasEntry path)
  have hanswer : m.answer (.hasEntry path) = (true, m) := congrArg (·, m) h
  rw [hanswer] at hask
  exact hask.silent_bind (Op.Runs.throw _)

/-- A generation is refused, before it does anything else, if one of its paths names an entry. -/
theorem exists_refused (t : Transport σ) (u : σ) (bits : Nat) (hpath : Home.expand m.home privatePath = .ok path)
    (hpath' : Home.expand m.home publicPath = .ok path')
    (hfound : (m.tree.find m.workDir path).isOk = true ∨ (m.tree.find m.workDir path').isOk = true) :
    ∃ found ∈ [path, path'], Op.Runs t (run privatePath publicPath bits) m u [] (.error (overwrites found)) m u := by
  have hexpand := runs_expandHome (t := t) (u := u) hpath
  have hexpand' := runs_expandHome (t := t) (u := u) hpath'
  unfold run
  cases hfree : (m.tree.find m.workDir path).isOk with
  | true =>
    exact ⟨path, by simp, hexpand.silent_bind (hexpand'.silent_bind ((runs_refuseExisting_of_find hfree).bind_error _))⟩
  | false =>
    have hfree' : (m.tree.find m.workDir path').isOk = true := hfound.resolve_left (by rw [hfree]; decide)
    exact ⟨path', by simp, hexpand.silent_bind (hexpand'.silent_bind ((runs_refuseExisting hfree).silent_bind
      ((runs_refuseExisting_of_find hfree').bind_error _)))⟩

/-- If the last steps of a generation fail and leave the tree changed, one of the two paths names an entry. -/
theorem find_of_leftover (h : Op.Runs t (writeFiles path path' file publicFile) m u l (.error e) m' u') (hleft : m'.tree ≠ m.tree) :
    (m'.tree.find m'.workDir path).isOk = true ∨ (m'.tree.find m'.workDir path').isOk = true := by
  rw [h.frame.workDir]
  unfold writeFiles at h
  obtain ⟨e', he, hprivate⟩ | ⟨_, _, m₁, u₁, _, -, hprivate, hpublic⟩ := h.bind_cases
  · obtain ⟨r, b', hr, htree⟩ := (written_of_runs hprivate).exists_put hleft
    rw [htree, find_put_of_newRoute hr]
    exact .inl rfl
  obtain ⟨r, hr, htree⟩ := newRoute_of_writeNew hprivate
  have hnone := (newRoute_eq_ok_iff.mp hr).2.2
  obtain ⟨tree, hwritten, hremoved, -⟩ := exists_of_handled_error hr hprivate.frame.workDir htree hpublic
  -- The private file is gone, so it is the public one that was left.
  have hchanged : tree ≠ m₁.tree := by
    rintro rfl
    rw [hremoved, htree, erase_put_eq_self hnone] at hleft
    exact hleft rfl
  obtain ⟨r', b', hr', htree'⟩ := hwritten.exists_put hchanged
  rw [htree, hprivate.frame.workDir, newRoute_put_iff hr] at hr'
  rw [hremoved, htree', htree, erase_put_of_ne _ _ hr'.2.symm, erase_put_eq_self hnone, find_put_of_newRoute hr'.1]
  exact .inr rfl

/-- **A leftover stands in the way**: if a generation fails and leaves the tree changed, every later one with the same paths is
refused, whatever has become of the disk. -/
theorem refused_of_leftover (h : Op.Runs t (run privatePath publicPath bits) m u l (.error e) m' u') (hleft : m'.tree ≠ m.tree)
    {m₁ : Machine} (hframe : m'.Frame m₁) (htree : m₁.tree = m'.tree) (t' : Transport σ') (u₁ : σ') (bits' : Nat) :
    ∃ found, (Home.expand m.home privatePath = .ok found ∨ Home.expand m.home publicPath = .ok found) ∧
      Op.Runs t' (run privatePath publicPath bits') m₁ u₁ [] (.error (overwrites found)) m₁ u₁ := by
  have hhome : m₁.home = m.home := hframe.home.trans h.frame.home
  obtain ⟨_, -, hsame⟩ | ⟨path, path', _, _, entropy, _, _, hfound, hwrite, -⟩ := run_cases h
  · exact absurd hsame hleft
  have hthere := find_of_leftover hwrite hleft
  rw [← htree, ← hframe.workDir] at hthere
  obtain ⟨found, hmem, hrefused⟩ := exists_refused t' u₁ bits' (hhome ▸ hfound.privatePath) (hhome ▸ hfound.publicPath) hthere
  refine ⟨found, ?_, hrefused⟩
  obtain rfl | rfl := by simpa using hmem
  · exact .inl hfound.privatePath
  · exact .inr hfound.publicPath

/-- If the write to the private file fails, the generation leaves what was stored of it. -/
theorem exists_leftover {f : Fault} {rest : List (Option Fault)} (hfaults : m.faults = none :: some f :: rest)
    (hfits : Fits m privatePath publicPath r r') (hkey : Op.Runs t (Generation.generate bits) m u l (.ok k) m' u')
    (hfile : KeyFile.privateText k = .ok file) :
    ∃ path m₁, Home.expand m.home privatePath = .ok path ∧
      Op.Runs t (run privatePath publicPath bits) m u l (.error (notWritten path f.error)) m₁ u' ∧
      m₁.tree = m.tree.put r (.file (m.masked privateMode) (file.take f.stored)) := by
  obtain ⟨⟨path, hpath, hr⟩, ⟨path', hpath', hr'⟩, -⟩ := hfits
  have hfree := congrArg Except.isOk (find_of_newRoute hr)
  have hfree' := congrArg Except.isOk (find_of_newRoute hr')
  obtain ⟨entropy, rfl⟩ := Generation.eq_of_generate hkey
  obtain ⟨m₁, hprivate, htree⟩ :=
    runs_writeNew_of_fault (m := { m with entropy := entropy }) t hfaults hr file privateMode u'
  exact ⟨path, m₁, hpath, runs_run hpath hpath' hfree hfree' hkey hfile (hprivate.bind_error _), htree⟩

/-- The factory, whose disk is full after one more byte. -/
def fullFactory : Machine :=
  { Exchange.factory with faults := fullDisk.faults }

theorem fits_fullFactory : Fits fullFactory "private" "public" ["private"] ["public"] where
  privateRoute := ⟨"private", rfl, newRoute_eq_ok_iff.mpr ⟨names_of_innerSteps rfl rfl (by decide) (by decide), by decide, rfl⟩⟩
  publicRoute := ⟨"public", rfl, newRoute_eq_ok_iff.mpr ⟨names_of_innerSteps rfl rfl (by decide) (by decide), by decide, rfl⟩⟩
  apart := by decide

/-- There a generation fails and leaves the first byte of the private key, and then every generation is refused, also when there is
space again. -/
theorem leftover_fullFactory :
    ∃ l m' u' k file, Op.Runs Op.silent (run "private" "public" 18) fullFactory () l
        (.error (.io ⟨.storageFull, "Failed to write 'private': No space left on device (os error 28)"⟩)) m' u' ∧
      KeyFile.privateText k = .ok file ∧ m'.tree = ⟨[(["private"], .file 0o600 (file.take 1))]⟩ ∧
      ∀ bits, ∃ found, Op.Runs Op.silent (run "private" "public" bits) { m' with faults := [] } () []
        (.error (.io ⟨.alreadyExists, "Refusing to overwrite '" ++ found ++ "'"⟩)) { m' with faults := [] } () := by
  obtain ⟨_, k, _, _, hkey, ⟨file, hfile⟩, -, -⟩ := Exchange.exists_generate_factory
  obtain ⟨l, y, m₁, u₁, hkey'⟩ := Op.exists_runs Op.silent (Generation.generate 18) fullFactory ()
  have hentropy : fullFactory.entropy = Exchange.factory.entropy := rfl
  have hdrawn := (Generation.draws_generate 18).outcome_eq Op.silent () hentropy
  have hy : y = .ok k := (congrArg Prod.fst hkey'.run_eq).symm.trans (hdrawn.trans (congrArg Prod.fst hkey.run_eq))
  subst hy
  obtain ⟨path, m', hpath, hrun, htree⟩ := exists_leftover rfl fits_fullFactory hkey' hfile
  cases hpath
  have hleft : m'.tree ≠ fullFactory.tree := by
    rw [htree]
    exact nofun
  refine ⟨l, m', u₁, k, file, hrun, hfile, htree, fun bits => ?_⟩
  have hframe : m'.Frame { m' with faults := [] } := ⟨rfl, rfl, rfl, rfl⟩
  obtain ⟨found, -, hrefused⟩ := refused_of_leftover hrun hleft hframe rfl Op.silent () bits
  exact ⟨found, hrefused⟩

end KeyGeneration

end SealedDrop
