import SealedDrop.KeyGeneration
import SealedDrop.Proofs.Path
import SealedDrop.Proofs.Secret

/-!
# What key generation leaves

A generated key is usable, and its modulus as long as was asked for. After a generation that succeeds each of the two files holds
its half of one key.

## The model

* `Matching` is the rule for the two files after a generation.

## What is proved

* `usable_of_generate` — which keys are generated, whatever random bytes are drawn.
* `eq_of_generate` — nothing but randomness is used up for that.
* `matching_of_run` — a generation that succeeds, on any machine, obeys the rule.
-/

namespace SealedDrop

open Rsa

variable {σ : Type} {t : Transport σ} {m m' : Machine} {u u' : σ} {l : List Call} {bits : Nat} {k : PrivateKey}

/-! ### Keys -/

namespace Rsa.Generation

/-- Whatever is drawn, a key has the length that was asked for. -/
theorem endsIn_key? (bits tries : Nat) :
    (key? bits tries).EndsIn fun result => ∀ k, result = some k → bitLength k.toPublic.modulus = bits := by
  induction tries with
  | zero =>
    intro k hk
    cases hk
  | succ tries ih =>
    rw [key?]
    refine Session.EndsIn.bind (Session.EndsIn.of_forall fun _ => trivial) fun p _ => ?_
    refine Session.EndsIn.bind (Session.EndsIn.of_forall fun _ => trivial) fun q _ => ?_
    split
    · split
      · next hlength =>
        intro k hk
        cases hk
        exact hlength
      · exact ih
    · exact ih

/-- A generated key is usable and has the length that was asked for. -/
theorem usable_of_generate (h : Op.Runs t (generate bits) m u l (.ok k) m' u') :
    k.IsUsable ∧ bitLength k.toPublic.modulus = bits := by
  unfold generate at h
  by_cases hfew : bits < leastLength
  · rw [if_pos hfew] at h
    obtain ⟨_, _, _, _, _, hthrow, _⟩ := h.exists_of_bind_ok
    cases ((Op.Runs.throw _).unique hthrow).2.1
  rw [if_neg hfew] at h
  obtain ⟨_, result, m₁, u₁, _, hkey, h⟩ := h.exists_of_bind_ok
  have hlength := (endsIn_key? bits 100).run t m u
  obtain ⟨rfl, hresult⟩ := (Op.Runs.lift ⟨rfl, rfl⟩).unique hkey
  cases result with
  | none => cases ((Op.Runs.throw _).unique h).2.1
  | some k' =>
    by_cases husable : k'.IsUsable
    · simp only [if_pos husable] at h
      obtain ⟨-, hk, -⟩ := (Op.Runs.pure k').unique h
      cases hk
      exact ⟨husable, hlength k (Except.ok.inj hresult.1)⟩
    · simp only [if_neg husable] at h
      cases ((Op.Runs.throw _).unique h).2.1

theorem draws_prime? (bits draws : Nat) : (prime? bits draws).Draws := by
  induction draws with
  | zero => trivial
  | succ draws ih =>
    refine ⟨⟨_, rfl⟩, fun random => ?_⟩
    dsimp only
    split
    · trivial
    · exact ih

theorem draws_key? (bits tries : Nat) : (key? bits tries).Draws := by
  induction tries with
  | zero => trivial
  | succ tries ih =>
    rw [key?]
    refine (draws_prime? _ _).bind fun p => (draws_prime? _ _).bind fun q => ?_
    split
    · split
      · trivial
      · exact ih
    · exact ih

theorem draws_generate (bits : Nat) : Session.Draws (ExceptT.run (generate bits)) := by
  unfold generate
  by_cases hfew : bits < leastLength
  · rw [if_pos hfew]
    trivial
  rw [if_neg hfew]
  refine Session.Draws.bind (Session.Draws.bind (draws_key? bits 100) fun _ => trivial) fun found => ?_
  rcases found with e | _ | k
  · trivial
  · trivial
  · by_cases husable : k.IsUsable
    · simp only [ExceptT.bindCont, if_pos husable]
      trivial
    · simp only [ExceptT.bindCont, if_neg husable]
      trivial

/-- The search for a key uses up randomness, and changes nothing else. -/
theorem eq_of_generate {bits : Nat} {x : Except Error PrivateKey} (h : Op.Runs t (generate bits) m u l x m' u') :
    ∃ entropy, m' = { m with entropy := entropy } := by
  obtain ⟨entropy, hentropy⟩ := (draws_generate bits).run t m u
  rw [Session.Runs.run_eq h] at hentropy
  exact ⟨entropy, congrArg Prod.fst hentropy⟩

end Rsa.Generation

/-! ### Files -/

namespace FileTree

variable {tree : FileTree} {workDir r r' : Route} {path path' : String} {mode : Nat} {b : Bytes} {n : Node}

/-- A new file is found under its path. -/
theorem find_put_of_newRoute (h : tree.newRoute workDir path = .ok r) (mode : Nat) (b : Bytes) :
    (tree.put r (.file mode b)).find workDir path = .ok (.file mode b) := by
  obtain ⟨hnames, hslash, -⟩ := newRoute_eq_ok_iff.mp h
  exact find_of_names (hnames.of_ways (FileWriter.way?_put_of_newRoute h mode b)) hslash
    (node?_put_self tree _ hnames.ne_nil) fun target hlink => by cases hlink

/-- What was found under a path still is when a new file has come. -/
theorem find_put_of_names (hnames : tree.Names workDir path r) (hslash : endsInSlash path = false) (hn : tree.node? r = some n)
    (hlink : ∀ target, n ≠ .link target) (h : tree.newRoute workDir path' = .ok r') (mode : Nat) (b : Bytes) :
    (tree.put r' (.file mode b)).find workDir path = .ok n := by
  obtain ⟨-, -, hnone⟩ := newRoute_eq_ok_iff.mp h
  have hne : r ≠ r' := by
    rintro rfl
    rw [hn] at hnone
    cases hnone
  refine find_of_names (hnames.of_ways (FileWriter.way?_put_of_newRoute h mode b)) hslash ?_ hlink
  rw [node?_put_of_ne tree _ hne, hn]

end FileTree

namespace KeyGeneration

/-- The rule for the two files after a generation, which are found on machine `m`. -/
structure Matching (m : Machine) (privatePath publicPath : String) (bits : Nat) (k : PrivateKey) : Prop where
  /-- The key is usable. -/
  usable : k.IsUsable
  /-- Its modulus has the length that was asked for. -/
  length : bitLength k.toPublic.modulus = bits
  /-- One file holds the private half. -/
  privateFile : ∃ file, KeyFile.privateText k = .ok file ∧ m.Provides privatePath file
  /-- The other file holds the public half. -/
  publicFile : m.Provides publicPath (KeyFile.publicText k.toPublic)

theorem expandHome_of_runs {raw path : String} (h : Op.Runs t (expandHome raw) m u l (.ok path) m' u') :
    Home.expand m.home raw = .ok path :=
  (observes_expandHome raw).outcome_eq h

/-- What was written if all went well. -/
theorem newRoute_of_writeNew {path : String} {b : Bytes} {mode : Nat}
    (h : Op.Runs t (FileWriter.writeNew path b mode) m u l (.ok ()) m' u') :
    ∃ r, m.tree.newRoute m.workDir path = .ok r ∧ m'.tree = m.tree.put r (.file (m.masked mode) b) := by
  have hwritten := FileWriter.written_of_runs h
  generalize m'.tree = tree at hwritten
  cases hwritten with
  | written hr => exact ⟨_, hr, rfl⟩

/-- The public half was written, as a failure to write it is passed on. -/
theorem newRoute_of_handled {path path' : String} {b : Bytes} {mode : Nat}
    (h : Op.Runs t (tryCatch (FileWriter.writeNew path' b mode) fun e => do
      Op.ask (.remove path)
      throw e) m u l (.ok ()) m' u') :
    ∃ r, m.tree.newRoute m.workDir path' = .ok r ∧ m'.tree = m.tree.put r (.file (m.masked mode) b) := by
  obtain ⟨x, m₁, hwrite, -⟩ := FileWriter.runs_writeNew t path' b mode m u
  cases x with
  | ok _ =>
    obtain ⟨-, -, rfl, rfl⟩ := (hwrite.caught _).unique h
    exact newRoute_of_writeNew hwrite
  | error e =>
    have hremove := Op.Runs.ask (t := t) (m := m₁) (s := u) (.remove path)
    obtain ⟨-, hx, -⟩ := (hwrite.caught_error (hremove.silent_bind (Op.Runs.throw e))).unique h
    cases hx

/-- **A matching pair**: after a generation that succeeds, each file holds its half of one key. -/
theorem matching_of_run {privatePath publicPath : String} (h : Op.Runs t (run privatePath publicPath bits) m u l (.ok ()) m' u') :
    ∃ k, Matching m' privatePath publicPath bits k := by
  obtain ⟨_, path, m₁, u₁, _, hpath, hrest⟩ := h.exists_of_bind_ok
  obtain ⟨_, path', m₂, u₂, _, hpath', hrest⟩ := hrest.exists_of_bind_ok
  obtain ⟨_, _, m₃, u₃, _, hfree, hrest⟩ := hrest.exists_of_bind_ok
  obtain ⟨_, _, m₄, u₄, _, hfree', hrest⟩ := hrest.exists_of_bind_ok
  obtain ⟨_, k, m₅, u₅, _, hkey, hrest⟩ := hrest.exists_of_bind_ok
  obtain ⟨_, file, m₆, u₆, _, hcheck, hrest⟩ := hrest.exists_of_bind_ok
  obtain ⟨_, _, m₇, u₇, _, hprivate, hpublic⟩ := hrest.exists_of_bind_ok
  obtain ⟨husable, hlength⟩ := Generation.usable_of_generate hkey
  obtain ⟨-, hfile, -⟩ := (Op.Runs.check (KeyFile.privateText k)).unique hcheck
  obtain ⟨r, hr, htree⟩ := newRoute_of_writeNew hprivate
  obtain ⟨r', hr', htree'⟩ := newRoute_of_handled hpublic
  -- No step moves the home directory or the working directory.
  have hframe₁ : m.Frame m₁ := hpath.frame
  have hframe₆ : m₁.Frame m₆ :=
    (((hpath'.frame.trans hfree.frame).trans hfree'.frame).trans hkey.frame).trans hcheck.frame
  have hframe₇ : m₆.Frame m₇ := hprivate.frame
  have hframe : m₇.Frame m' := hpublic.frame
  have hhome : Home.expand m'.home privatePath = .ok path := by
    rw [hframe.home, hframe₇.home, hframe₆.home, hframe₁.home]
    exact expandHome_of_runs hpath
  have hhome' : Home.expand m'.home publicPath = .ok path' := by
    rw [hframe.home, hframe₇.home, hframe₆.home]
    exact expandHome_of_runs hpath'
  rw [hframe₇.workDir] at hr'
  rw [htree] at hr' htree'
  obtain ⟨hnames, hslash, -⟩ := FileTree.newRoute_eq_ok_iff.mp hr
  have hways := FileWriter.way?_put_of_newRoute hr (m₆.masked privateMode) file
  refine ⟨k, husable, hlength, ⟨file, hfile, path, .file (m₆.masked privateMode) file, hhome, ?_, rfl⟩,
    ⟨path', .file (m₇.masked publicMode) (KeyFile.publicText k.toPublic), hhome', ?_, rfl⟩⟩
  · rw [hframe.workDir, hframe₇.workDir, htree']
    exact FileTree.find_put_of_names (hnames.of_ways hways) hslash (FileTree.node?_put_self _ _ hnames.ne_nil)
      (fun target hlink => by cases hlink) hr' _ _
  · rw [hframe.workDir, hframe₇.workDir, htree']
    exact FileTree.find_put_of_newRoute hr' _ _

/-- A path that names nothing is not refused. -/
theorem runs_refuseExisting {path : String} (h : (m.tree.find m.workDir path).isOk = false) :
    Op.Runs t (refuseExisting path) m u [] (.ok ()) m u := by
  have hask := Op.Runs.ask (t := t) (m := m) (s := u) (.hasEntry path)
  have hanswer : m.answer (.hasEntry path) = (false, m) := congrArg (·, m) h
  rw [hanswer] at hask
  exact hask.silent_bind (Op.Runs.pure ())

/-- The last steps of a generation, which write the two files. -/
def writeFiles (path path' : String) (file publicFile : Bytes) : Op Unit := do
  FileWriter.writeNew path file privateMode
  tryCatch (FileWriter.writeNew path' publicFile publicMode) fun e => do
    Op.ask (.remove path)
    throw e

/-- A generation ends as its last steps end, if both paths name nothing and a key is found that can be written. -/
theorem runs_run {privatePath publicPath path path' : String} {file : Bytes} {x : Except Error Unit} {m₁ : Machine}
    (hpath : Home.expand m.home privatePath = .ok path) (hpath' : Home.expand m.home publicPath = .ok path')
    (hfree : (m.tree.find m.workDir path).isOk = false) (hfree' : (m.tree.find m.workDir path').isOk = false)
    (hkey : Op.Runs t (Generation.generate bits) m u l (.ok k) m' u') (hfile : KeyFile.privateText k = .ok file)
    (hwrite : Op.Runs t (writeFiles path path' file (KeyFile.publicText k.toPublic)) m' u' [] x m₁ u') :
    Op.Runs t (run privatePath publicPath bits) m u l x m₁ u' := by
  unfold run
  exact (runs_expandHome hpath).silent_bind ((runs_expandHome hpath').silent_bind ((runs_refuseExisting hfree).silent_bind
    ((runs_refuseExisting hfree').silent_bind (hkey.bind_silent ((Op.Runs.check_of_eq hfile).silent_bind hwrite)))))

/-- A generation succeeds if both paths name nothing, a key is found that can be written, no access fails, and then there is room
for either file. -/
theorem exists_runs_run {privatePath publicPath path path' : String} {file : Bytes} {r r' : Route}
    (hpath : Home.expand m.home privatePath = .ok path) (hpath' : Home.expand m.home publicPath = .ok path')
    (hfree : (m.tree.find m.workDir path).isOk = false) (hfree' : (m.tree.find m.workDir path').isOk = false)
    (hkey : Op.Runs t (Generation.generate bits) m u l (.ok k) m' u') (hfile : KeyFile.privateText k = .ok file)
    (hless : FileWriter.Faultless m') (hr : m'.tree.newRoute m'.workDir path = .ok r)
    (hr' : (m'.tree.put r (.file (m'.masked privateMode) file)).newRoute m'.workDir path' = .ok r') :
    ∃ m'', Op.Runs t (run privatePath publicPath bits) m u l (.ok ()) m'' u' := by
  obtain ⟨m₁, hprivate, hless₁, htree⟩ := FileWriter.runs_writeNew_of_faultless t hless hr file privateMode u'
  rw [← htree, ← hprivate.frame.workDir] at hr'
  obtain ⟨m₂, hpublic, -⟩ :=
    FileWriter.runs_writeNew_of_faultless t hless₁ hr' (KeyFile.publicText k.toPublic) publicMode u'
  exact ⟨m₂, runs_run hpath hpath' hfree hfree' hkey hfile (hprivate.silent_bind (hpublic.caught _))⟩

end KeyGeneration

end SealedDrop
