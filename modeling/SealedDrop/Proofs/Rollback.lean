import SealedDrop.Proofs.PublicFile

/-!
# Key generation is all or nothing

A generation of key files, whatever its two paths are, adds both files or changes nothing, and never touches an entry that was there
before.

## The model

* The paths may be anything: the same, of the same entry through links, below one another, with a tilde, or through directories that
  do not exist. Either file may be refused by the plan of faults of the machine as well.
* A session `Stores` on a machine if no write to a file that it has opened fails there, and no file fails to be brought to the disk.
* `AllOrNothing` is the rule for the outcome of a generation and the tree after it. What it says of a failure is for a session that
  stores; that no entry is lost it says of every session.

## What is proved

* `FileWriter.stores_writeNew_iff` — a new file is written or was not created, just if the session stores.
* `KeyGeneration.run_cases` — what a generation does before it writes: it looks at the paths and uses up randomness.
* `KeyGeneration.run_all_or_nothing` — every generation obeys the rule.
-/

namespace SealedDrop

variable {α β σ : Type} {t : Transport σ} {m m' m₁ : Machine} {u u' u₁ : σ} {l : List Call}

/-! ### Sessions that store -/

/-- The access, if it writes to an open file or brings it to the disk, does not fail. -/
def Machine.Stores (m : Machine) : Effect → Prop
  | .write h b => (m.answer (.write h b)).1 = .ok ()
  | .sync h => (m.answer (.sync h)).1 = .ok ()
  | _ => True

/-- No such access of the session, run from this machine, fails. -/
def Session.Stores (t : Transport σ) : Session α → Machine → σ → Prop
  | done _, _, _ => True
  | perform e next, m, s => m.Stores e ∧ Stores t (next (m.answer e).1) (m.answer e).2 s
  | call r token next, m, s => Stores t (next (t r token s).1) m (t r token s).2

/-- A sequence stores just if both parts do. -/
theorem Session.stores_bind_iff {x : Session α} {f : α → Session β} :
    (x.bind f).Stores t m u ↔ x.Stores t m u ∧ (f (x.run t m u).1).Stores t (x.run t m u).2.1 (x.run t m u).2.2 := by
  induction x generalizing m u with
  | done a => exact ⟨fun h => ⟨trivial, h⟩, And.right⟩
  | perform e next ih => exact (and_congr_right fun _ => ih _).trans and_assoc.symm
  | call r token next ih => exact ih _

namespace Op

/-- No such access of the operation, run from this machine, fails. -/
def Stores (t : Transport σ) (op : Op α) (m : Machine) (s : σ) : Prop :=
  Session.Stores t (ExceptT.run op) m s

variable {op : Op α} {f : α → Op β} {x : Except Error β} {a : α}

theorem Stores.left (h : Stores t (op >>= f) m u) : op.Stores t m u :=
  (Session.stores_bind_iff.mp h).1

theorem Stores.right (h : Stores t (op >>= f) m u) (hop : Runs t op m u l (.ok a) m₁ u₁) : (f a).Stores t m₁ u₁ := by
  have hrun : Session.run t op m u = (.ok a, m₁, u₁) := hop.run_eq
  have hrest := (Session.stores_bind_iff.mp h).2
  rwa [hrun] at hrest

theorem Stores.followed (h : op.Stores t m u) (hop : Runs t op m u l (.ok a) m₁ u₁) (hf : (f a).Stores t m₁ u₁) :
    Stores t (op >>= f) m u := by
  have hrun : Session.run t op m u = (.ok a, m₁, u₁) := hop.run_eq
  refine Session.stores_bind_iff.mpr ⟨h, ?_⟩
  rwa [hrun]

theorem Stores.caught {handle : Error → Op α} (h : Stores t (tryCatch op handle) m u) : op.Stores t m u :=
  (Session.stores_bind_iff.mp h).1

theorem stores_lift_iff {x : Session α} : Op.Stores t (ExceptT.lift x) m u ↔ x.Stores t m u :=
  Session.stores_bind_iff.trans (and_iff_left trivial)

/-- A sequence that begins with a look at the machine fails there, or goes on from the same machine. -/
theorem Observes.cases (hop : Observes op) (h : Runs t (op >>= f) m u l x m' u') :
    (∃ e, x = .error e ∧ m' = m) ∨
      ∃ a, op.outcome m = .ok a ∧ Runs t (f a) m u l x m' u' ∧ (Stores t (op >>= f) m u → (f a).Stores t m u) := by
  have hrun := hop.runs t m u
  cases hx : op.outcome m with
  | error e =>
    rw [hx] at hrun
    obtain ⟨-, rfl, rfl, -⟩ := (hrun.bind_error f).unique h
    exact .inl ⟨e, rfl, rfl⟩
  | ok a =>
    rw [hx] at hrun
    obtain ⟨l', y, m₁, u₁, hrest⟩ := exists_runs t (f a) m u
    obtain ⟨rfl, rfl, rfl, rfl⟩ := (hrun.silent_bind hrest).unique h
    exact .inr ⟨a, rfl, hrest, fun hstores => hstores.right hrun⟩

end Op

namespace FileWriter

open FileTree

variable {path : String} {b : Bytes} {mode : Nat} {e : Error}

/-- Without faults every session stores. -/
theorem Faultless.stores (h : Faultless m) (x : Session α) (u : σ) : x.Stores t m u := by
  induction x generalizing m u with
  | done a => trivial
  | perform e next ih =>
    refine ⟨?_, ih _ (h.answer e) u⟩
    cases e with
    | write hd b => exact congrArg Prod.fst (answer_write_of_faultless h hd b)
    | sync hd => exact congrArg Prod.fst (answer_sync_of_faultless h hd)
    | _ => trivial
  | call r token next ih => exact ih _ h _

/-- A file that is open takes everything just if the session stores. -/
theorem stores_writeAll_iff {hd : Handle} {y : Except IoError Unit} (h : Session.Runs t (writeAll hd b) m u l y m' u') :
    (writeAll hd b).Stores t m u ↔ y = .ok () := by
  have hwrite := Session.Runs.ask (t := t) (m := m) (s := u) (.write hd b)
  rcases answer_write m hd b with ⟨e, b', ha, -⟩ | ha
  · rw [ha] at hwrite
    have hrun : Session.Runs t (writeAll hd b) m u ([] ++ []) _ _ u := hwrite.bind (Session.Runs.pure (Except.error e))
    have hy : y = .error e := congrArg Prod.fst (h.run_eq.symm.trans hrun.run_eq)
    refine ⟨fun hstores => ?_, fun hok => nomatch hy.symm.trans hok⟩
    obtain ⟨hok, -⟩ : (m.answer (.write hd b)).1 = .ok () ∧ _ := hstores
    rw [ha] at hok
    cases hok
  rw [ha] at hwrite
  have hsync := Session.Runs.ask (t := t) (m := after m (m.tree.append hd.route b)) (s := u) (.sync hd)
  have hrun : Session.Runs t (writeAll hd b) m u ([] ++ []) _ _ u := hwrite.bind hsync
  have hy : y = ((after m (m.tree.append hd.route b)).answer (.sync hd)).1 := congrArg Prod.fst (h.run_eq.symm.trans hrun.run_eq)
  constructor
  · intro hstores
    obtain ⟨-, hrest⟩ : (m.answer (.write hd b)).1 = .ok () ∧ _ := hstores
    rw [ha] at hrest
    exact hy.trans hrest.1
  · intro hok
    refine ⟨congrArg Prod.fst ha, ?_⟩
    rw [ha]
    exact ⟨hy.symm.trans hok, trivial⟩

/-- What a new file leaves is all or nothing just if the session stores. -/
theorem stores_writeNew_iff {x : Except Error Unit} (h : Op.Runs t (writeNew path b mode) m u l x m' u') :
    (writeNew path b mode).Stores t m u ↔ x = .ok () ∨ m'.tree = m.tree := by
  have hcreate := Op.Runs.ask (t := t) (m := m) (s := u) (.createNew path mode)
  unfold writeNew at h ⊢
  rcases answer_createNew m path mode with ⟨e, ha, -⟩ | ⟨r, hr, ha⟩
  · rw [ha] at hcreate
    obtain ⟨-, rfl, rfl, -⟩ := (hcreate.silent_bind ((Op.Runs.access _ (.error e)).bind_error _)).unique h
    exact ⟨fun _ => .inr rfl, fun _ => Op.Stores.followed ⟨trivial, trivial⟩ hcreate trivial⟩
  rw [ha] at hcreate
  have haccess := Op.Runs.access (t := t) (m := after m (m.tree.put r (.file (m.masked mode) []))) (s := u)
    (Error.ioWith ("Failed to create '" ++ path ++ "'")) (.ok (⟨r⟩ : Handle))
  obtain ⟨y, m₁, hwrite, -, hy⟩ := runs_writeAll_created t hr b mode u
  have hlift := Op.Runs.lift hwrite
  obtain ⟨-, rfl, rfl, -⟩ := (hcreate.silent_bind (haccess.silent_bind (hlift.silent_bind (Op.Runs.access _ y)))).unique h
  rcases hy with ⟨rfl, -⟩ | ⟨e, b', rfl, htree, -⟩
  · -- Both accesses to the open file have succeeded.
    have hopen := Op.stores_lift_iff.mpr ((stores_writeAll_iff hwrite).mpr rfl)
    exact ⟨fun _ => .inl rfl,
      fun _ => .followed ⟨trivial, trivial⟩ hcreate (.followed trivial haccess (.followed hopen hlift trivial))⟩
  · constructor
    · intro hstores
      have hopen := (hstores.right hcreate).right haccess |>.left
      cases (stores_writeAll_iff hwrite).mp (Op.stores_lift_iff.mp hopen)
    · rintro (hok | hsame)
      · cases hok
      · obtain ⟨hnames, -, hnone⟩ := newRoute_eq_ok_iff.mp hr
        rw [← hsame, htree, node?_put_self _ _ hnames.ne_nil] at hnone
        cases hnone

/-- If the session stores, a file that could not be written was not created. -/
theorem tree_of_writeNew_error (hstores : (writeNew path b mode).Stores t m u)
    (h : Op.Runs t (writeNew path b mode) m u l (.error e) m' u') : m'.tree = m.tree :=
  ((stores_writeNew_iff h).mp hstores).resolve_left nofun

end FileWriter

/-! ### Key files -/

namespace KeyGeneration

open FileTree FileWriter Rsa

variable {privatePath publicPath path path' : String} {bits : Nat} {k : PrivateKey} {file publicFile : Bytes} {r r' : Route}
  {x : Except Error Unit} {e : Error}

theorem observes_refuseExisting (path : String) : (refuseExisting path).Observes := by
  refine Op.Observes.bind (Op.Observes.ask fun _ => rfl) fun found => ?_
  cases found
  · exact Op.Observes.check (.ok ())
  · exact Op.Observes.check (.error _)

/-- What a generation has found when it comes to writing: the paths without a tilde, a key, and the text of the private file. -/
structure Found (t : Transport σ) (privatePath publicPath : String) (bits : Nat) (m : Machine) (u : σ) (path path' : String)
    (k : PrivateKey) (file : Bytes) : Prop where
  /-- The path of the private file. -/
  privatePath : Home.expand m.home privatePath = .ok path
  /-- The path of the public file. -/
  publicPath : Home.expand m.home publicPath = .ok path'
  /-- The key was found. -/
  generated : (Op.run t (Generation.generate bits) m u).1 = .ok k
  /-- It is usable. -/
  usable : k.IsUsable
  /-- It has the length that was asked for. -/
  length : bitLength k.toPublic.modulus = bits
  /-- It can be written. -/
  encoded : KeyFile.privateText k = .ok file

/-- A generation fails before it has changed a file, or it comes to writing on a machine that has lost no more than randomness. -/
theorem run_cases (h : Op.Runs t (run privatePath publicPath bits) m u l x m' u') :
    (∃ e, x = .error e ∧ m'.tree = m.tree) ∨
      ∃ path path' k file entropy u₁ l₁, Found t privatePath publicPath bits m u path path' k file ∧
        Op.Runs t (writeFiles path path' file (KeyFile.publicText k.toPublic)) { m with entropy := entropy } u₁ l₁ x m' u' ∧
        ((run privatePath publicPath bits).Stores t m u →
          (writeFiles path path' file (KeyFile.publicText k.toPublic)).Stores t { m with entropy := entropy } u₁) := by
  have hlooked : ∀ {y : Except Error Unit}, (∃ e, y = .error e ∧ m' = m) → ∃ e, y = .error e ∧ m'.tree = m.tree := by
    rintro _ ⟨e, rfl, rfl⟩
    exact ⟨e, rfl, rfl⟩
  -- The first four steps look at the machine, and leave it as it is.
  obtain hfails | ⟨path, hpath, h, hstores₁⟩ := (observes_expandHome privatePath).cases h
  · exact .inl (hlooked hfails)
  obtain hfails | ⟨path', hpath', h, hstores₂⟩ := (observes_expandHome publicPath).cases h
  · exact .inl (hlooked hfails)
  obtain hfails | ⟨-, -, h, hstores₃⟩ := (observes_refuseExisting path).cases h
  · exact .inl (hlooked hfails)
  obtain hfails | ⟨-, -, h, hstores₄⟩ := (observes_refuseExisting path').cases h
  · exact .inl (hlooked hfails)
  rw [outcome_expandHome] at hpath hpath'
  obtain ⟨e, rfl, hkey⟩ | ⟨l₁, k, m₁, u₁, l₂, -, hkey, h⟩ := h.bind_cases
  · obtain ⟨entropy, rfl⟩ := Generation.eq_of_generate hkey
    exact .inl ⟨e, rfl, rfl⟩
  obtain ⟨entropy, rfl⟩ := Generation.eq_of_generate hkey
  obtain ⟨husable, hlength⟩ := Generation.usable_of_generate hkey
  obtain ⟨e, rfl, rfl⟩ | ⟨file, hfile, h, hstores₅⟩ := (Op.Observes.check (KeyFile.privateText k)).cases h
  · exact .inl ⟨e, rfl, rfl⟩
  refine .inr ⟨path, path', k, file, entropy, u₁, l₂, ⟨hpath, hpath', by rw [hkey.run_eq], husable, hlength, hfile⟩, h,
    fun hstores => hstores₅ ?_⟩
  exact (hstores₄ (hstores₃ (hstores₂ (hstores₁ hstores)))).right hkey

/-- If the public file cannot be written, the private one is taken away again. -/
theorem exists_of_handled_error (hr : m.tree.newRoute m.workDir path = .ok r) (hdir : m₁.workDir = m.workDir)
    {mode mode' : Nat} (htree : m₁.tree = m.tree.put r (.file mode file))
    (h : Op.Runs t (tryCatch (writeNew path' publicFile mode') fun e => do
      Op.ask (.remove path)
      throw e) m₁ u l (.error e) m' u') :
    ∃ tree, Written m₁ path' publicFile mode' (.error e) tree ∧ m'.tree = tree.erase r ∧
      ((writeNew path' publicFile mode').Stores t m₁ u → tree = m₁.tree) := by
  obtain ⟨x, m₂, hwrite, -, hwritten⟩ := runs_writeNew t path' publicFile mode' m₁ u
  cases x with
  | ok _ => cases ((hwrite.caught _).unique h).2.1
  | error e' =>
    have hremove := Op.Runs.ask (t := t) (m := m₂) (s := u) (.remove path)
    obtain ⟨-, he, rfl, -⟩ := (hwrite.caught_error (hremove.silent_bind (Op.Runs.throw e'))).unique h
    cases he
    refine ⟨m₂.tree, hwritten, ?_, fun hstores => tree_of_writeNew_error hstores hwrite⟩
    obtain ⟨hnames, hslash, -⟩ := newRoute_eq_ok_iff.mp hr
    -- Neither file has opened or closed a way, so the path still leads to the private one, and to nothing else.
    have hways : ∀ q, m₂.tree.way? q = m.tree.way? q := by
      intro q
      rw [hwritten.way? q, htree]
      exact way?_put_of_newRoute hr mode file q
    have hnode : m₂.tree.node? r = some (.file mode file) := by
      refine hwritten.keptIn r _ ?_
      rw [htree, node?_put_self _ _ hnames.ne_nil]
    have hdir₂ : m₂.workDir = m.workDir := hwrite.frame.workDir.trans hdir
    simp only [Machine.answer, hdir₂, remove_of_names (hnames.of_ways hways) hnode (by simp) hslash]

/-- If both files were written, they are at two routes at which there was nothing. -/
theorem exists_of_writeFiles_ok (h : Op.Runs t (writeFiles path path' file publicFile) m u l (.ok ()) m' u') :
    ∃ r r', m.tree.newRoute m.workDir path = .ok r ∧ m.tree.newRoute m.workDir path' = .ok r' ∧ r ≠ r' ∧
      m'.tree = (m.tree.put r (.file (m.masked privateMode) file)).put r'
        (.file (m.masked publicMode) publicFile) := by
  obtain ⟨_, _, m₁, u₁, _, hprivate, hpublic⟩ := h.exists_of_bind_ok
  obtain ⟨r, hr, htree⟩ := newRoute_of_writeNew hprivate
  obtain ⟨r', hr', htree'⟩ := newRoute_of_handled hpublic
  rw [hprivate.frame.workDir, htree, newRoute_put_iff hr] at hr'
  exact ⟨r, r', hr, hr'.1, hr'.2, by rw [htree', htree, hprivate.frame.masked]⟩

/-- Otherwise no entry is lost, and none is added if the session stores. -/
theorem tree_of_writeFiles_error (h : Op.Runs t (writeFiles path path' file publicFile) m u l (.error e) m' u') :
    m.tree.KeptIn m'.tree ∧ ((writeFiles path path' file publicFile).Stores t m u → m'.tree = m.tree) := by
  unfold writeFiles at h ⊢
  obtain ⟨e', he, hprivate⟩ | ⟨_, _, m₁, u₁, _, -, hprivate, hpublic⟩ := h.bind_cases
  · cases he
    exact ⟨(written_of_runs hprivate).keptIn, fun hstores => tree_of_writeNew_error hstores.left hprivate⟩
  obtain ⟨r, hr, htree⟩ := newRoute_of_writeNew hprivate
  have hnone := (newRoute_eq_ok_iff.mp hr).2.2
  obtain ⟨tree, hwritten, hremoved, hstored⟩ := exists_of_handled_error hr hprivate.frame.workDir htree hpublic
  rw [hremoved]
  -- Nothing was at the route of the private file, so its removal takes away no more than its creation had added.
  refine ⟨((written_of_runs hprivate).keptIn.trans hwritten.keptIn).erase hnone, fun hstores => ?_⟩
  rw [hstored (hstores.right hprivate).caught, htree, erase_put_eq_self hnone]

/-! ### The rule -/

/-- The two paths lead to two routes at which files can be created. -/
structure Fits (m : Machine) (privatePath publicPath : String) (r r' : Route) : Prop where
  /-- The route of the private file. -/
  privateRoute : ∃ path, Home.expand m.home privatePath = .ok path ∧ m.tree.newRoute m.workDir path = .ok r
  /-- The route of the public file. -/
  publicRoute : ∃ path, Home.expand m.home publicPath = .ok path ∧ m.tree.newRoute m.workDir path = .ok r'
  /-- They are not the same. -/
  apart : r ≠ r'

/-- The files of a key pair with a modulus of this many bits have been added on a machine at two routes, and `after` is the tree with
them. Nothing else has changed. -/
structure Added (m : Machine) (bits : Nat) (r r' : Route) (k : PrivateKey) (file : Bytes) (after : FileTree) : Prop where
  /-- There was nothing at either route. -/
  absent : m.tree.node? r = none ∧ m.tree.node? r' = none
  /-- The private file is read as the key. -/
  privateFile : KeyFile.readPrivate file = .ok k
  /-- The public file shows its public half. -/
  publicFile : KeyFile.Shows (KeyFile.publicText k.toPublic) k.toPublic
  /-- The key has the length that was asked for. -/
  length : bitLength k.toPublic.modulus = bits
  /-- At the first route there is the private file, at the second one the file of the public half, and elsewhere what was there. The
  owner alone may read the one and all may read the other, less what the mask forbids. -/
  node? : ∃ mode mode', m.Grants 0o600 mode ∧ m.Grants 0o644 mode' ∧ ∀ q, after.node? q = if q = r then some (.file mode file) else
    if q = r' then some (.file mode' (KeyFile.publicText k.toPublic)) else m.tree.node? q

/-- No entry is lost by that. -/
theorem Added.keptIn {after : FileTree} (h : Added m bits r r' k file after) : m.tree.KeptIn after := by
  obtain ⟨mode, mode', -, -, hnode⟩ := h.node?
  intro q n hn
  rw [hnode q, if_neg (ne_of_node? hn h.absent.1), if_neg (ne_of_node? hn h.absent.2), hn]

/-- The rule for a generation of key files: the outcome is `x`, and `tree` is left. -/
structure AllOrNothing (t : Transport σ) (privatePath publicPath : String) (bits : Nat) (m : Machine) (u : σ)
    (x : Except Error Unit) (tree : FileTree) : Prop where
  /-- After a success both files have been added, and nothing else. -/
  added : x = .ok () → ∃ r r' k file, Fits m privatePath publicPath r r' ∧ Added m bits r r' k file tree
  /-- After a failure the tree is as before, if what was opened could be written. -/
  undone : (run privatePath publicPath bits).Stores t m u → ∀ e, x = .error e → tree = m.tree
  /-- No entry that was there is changed or removed, even if a write has failed. -/
  kept : m.tree.KeptIn tree
  /-- Where no access fails by plan, it succeeds just if there is room for both files, and a key is found that can be written. -/
  success : Faultless m → (x = .ok () ↔ (∃ r r', Fits m privatePath publicPath r r') ∧
    ∃ k file, (Op.run t (Generation.generate bits) m u).1 = .ok k ∧ KeyFile.privateText k = .ok file)

/-- The two files are all that was added. -/
theorem added_of_put (hr : m.tree.newRoute m.workDir path = .ok r) (hr' : m.tree.newRoute m.workDir path' = .ok r') (hne : r ≠ r')
    (husable : k.IsUsable) (hfile : KeyFile.privateText k = .ok file) :
    Added m (bitLength k.toPublic.modulus) r r' k file ((m.tree.put r (.file (m.masked privateMode) file)).put r'
      (.file (m.masked publicMode) (KeyFile.publicText k.toPublic))) := by
  obtain ⟨hnames, -, hnone⟩ := newRoute_eq_ok_iff.mp hr
  obtain ⟨hnames', -, hnone'⟩ := newRoute_eq_ok_iff.mp hr'
  refine ⟨⟨hnone, hnone'⟩, KeyFile.readPrivate_privateText husable hfile, KeyFile.shows_publicText husable hfile, rfl,
    m.masked privateMode, m.masked publicMode, Machine.grants_iff.mpr rfl, Machine.grants_iff.mpr rfl, fun q => ?_⟩
  rw [node?_put _ _ hnames'.ne_nil, node?_put _ _ hnames.ne_nil]
  by_cases hq : q = r
  · rw [if_pos hq, if_pos hq, if_neg (hq ▸ hne)]
  · rw [if_neg hq, if_neg hq]

/-- A generation that succeeds has added both files. -/
theorem exists_added (h : Op.Runs t (run privatePath publicPath bits) m u l (.ok ()) m' u') :
    ∃ r r' k file, Fits m privatePath publicPath r r' ∧ (Op.run t (Generation.generate bits) m u).1 = .ok k ∧
      KeyFile.privateText k = .ok file ∧ Added m bits r r' k file m'.tree := by
  obtain ⟨e, he, -⟩ | ⟨path, path', k, file, entropy, u₁, l₁, hfound, hwrite, -⟩ := run_cases h
  · cases he
  obtain ⟨hpath, hpath', hkey, husable, rfl, hfile⟩ := hfound
  obtain ⟨r, r', hr, hr', hne, htree⟩ := exists_of_writeFiles_ok hwrite
  refine ⟨r, r', k, file, ⟨⟨path, hpath, hr⟩, ⟨path', hpath', hr'⟩, hne⟩, hkey, hfile, ?_⟩
  rw [htree]
  exact added_of_put hr hr' hne husable hfile

/-- One that fails has lost no entry, and has added none if it stores. -/
theorem tree_of_run_error (h : Op.Runs t (run privatePath publicPath bits) m u l (.error e) m' u') :
    m.tree.KeptIn m'.tree ∧ ((run privatePath publicPath bits).Stores t m u → m'.tree = m.tree) := by
  obtain ⟨e, -, htree⟩ | ⟨_, _, _, _, entropy, _, _, -, hwrite, hstores⟩ := run_cases h
  · rw [htree]
    exact ⟨.refl _, fun _ => rfl⟩
  · obtain ⟨hkept, hundone⟩ := tree_of_writeFiles_error hwrite
    exact ⟨hkept, fun h => hundone (hstores h)⟩

/-- Room for both files, and a key that can be written, are enough where no access fails. -/
theorem exists_runs_of_fits (hless : Faultless m) (hfits : Fits m privatePath publicPath r r')
    (hkey : (Op.run t (Generation.generate bits) m u).1 = .ok k) (hfile : KeyFile.privateText k = .ok file) :
    ∃ l m' u', Op.Runs t (run privatePath publicPath bits) m u l (.ok ()) m' u' := by
  obtain ⟨⟨path, hpath, hr⟩, ⟨path', hpath', hr'⟩, hne⟩ := hfits
  obtain ⟨l, y, m₁, u₁, hrun⟩ := Op.exists_runs t (Generation.generate bits) m u
  rw [hrun.run_eq] at hkey
  cases hkey
  obtain ⟨entropy, rfl⟩ := Generation.eq_of_generate hrun
  obtain ⟨m', hrun'⟩ := exists_runs_run hpath hpath' (congrArg Except.isOk (find_of_newRoute hr))
    (congrArg Except.isOk (find_of_newRoute hr')) hrun hfile hless hr ((newRoute_put_iff hr _ _).mpr ⟨hr', hne⟩)
  exact ⟨l, m', u₁, hrun'⟩

/-- **All or nothing**: on every machine and whatever the two paths are, a generation of key files obeys the rule. -/
theorem run_all_or_nothing (t : Transport σ) (privatePath publicPath : String) (bits : Nat) (m : Machine) (u : σ) :
    AllOrNothing t privatePath publicPath bits m u (Op.run t (run privatePath publicPath bits) m u).1
      (Op.run t (run privatePath publicPath bits) m u).2.1.tree := by
  obtain ⟨l, x, m', u', hrun⟩ := Op.exists_runs t (run privatePath publicPath bits) m u
  rw [hrun.run_eq]
  have hadded : x = .ok () → ∃ r r' k file, Fits m privatePath publicPath r r' ∧
      (Op.run t (Generation.generate bits) m u).1 = .ok k ∧ KeyFile.privateText k = .ok file ∧
      Added m bits r r' k file m'.tree := by
    rintro rfl
    exact exists_added hrun
  refine ⟨fun hx => ?_, fun hstores e he => ?_, ?_, fun hless => ⟨fun hx => ?_, ?_⟩⟩
  · obtain ⟨r, r', k, file, hfits, -, -, hfiles⟩ := hadded hx
    exact ⟨r, r', k, file, hfits, hfiles⟩
  · subst he
    exact (tree_of_run_error hrun).2 hstores
  · cases x with
    | error e => exact (tree_of_run_error hrun).1
    | ok _ =>
      obtain ⟨r, r', k, file, -, -, -, hfiles⟩ := hadded rfl
      exact hfiles.keptIn
  · obtain ⟨r, r', k, file, hfits, hkey, hfile, -⟩ := hadded hx
    exact ⟨⟨r, r', hfits⟩, k, file, hkey, hfile⟩
  · rintro ⟨⟨r, r', hfits⟩, k, file, hkey, hfile⟩
    obtain ⟨_, _, _, hrun'⟩ := exists_runs_of_fits hless hfits hkey hfile
    exact (hrun.unique hrun').2.1

/-- A machine like the factory, with a link for the public file that leads to where the private one will be. -/
def aliased : Machine :=
  { Exchange.factory with tree := ⟨[(["public"], .link "private")]⟩ }

/-- In the factory two files are added. Where the public path is a link to the private one, which leads to nothing before, the
generation fails when the private file has been written, and the tree is as before. -/
theorem run_all_or_nothing_aliased :
    ((Op.run Op.silent (run "private" "public" 18) Exchange.factory ()).1 = .ok () ∧ ∃ r r' k file,
      Added Exchange.factory 18 r r' k file (Op.run Op.silent (run "private" "public" 18) Exchange.factory ()).2.1.tree) ∧
    (run "private" "public" 18).Stores Op.silent aliased () ∧
    ∃ e, (Op.run Op.silent (run "private" "public" 18) aliased ()).1 = .error e ∧
      (Op.run Op.silent (run "private" "public" 18) aliased ()).2.1.tree = ⟨[(["public"], .link "private")]⟩ := by
  refine ⟨?_, ?_⟩
  · obtain ⟨l, m', u', hrun⟩ := Exchange.exists_run_factory
    have hok : (Op.run Op.silent (run "private" "public" 18) Exchange.factory ()).1 = .ok () := by rw [hrun.run_eq]
    obtain ⟨r, r', k, file, -, hadded⟩ := (run_all_or_nothing Op.silent "private" "public" 18 Exchange.factory ()).added hok
    exact ⟨hok, r, r', k, file, hadded⟩
  have hrule := run_all_or_nothing Op.silent "private" "public" 18 aliased ()
  have hless : Faultless aliased := fun f hf => absurd hf List.not_mem_nil
  have hstores : (run "private" "public" 18).Stores Op.silent aliased () := hless.stores _ ()
  refine ⟨hstores, ?_⟩
  cases hx : (Op.run Op.silent (run "private" "public" 18) aliased ()).1 with
  | error e => exact ⟨e, rfl, hrule.undone hstores e hx⟩
  | ok _ =>
    obtain ⟨r, r', -, -, ⟨-, ⟨path, hpath, hr⟩, -⟩, -⟩ := hrule.added hx
    cases hpath
    obtain ⟨hnames, -, hnone⟩ := newRoute_eq_ok_iff.mp hr
    cases hnames.unique (names_of_innerSteps (s := "public") rfl rfl (by decide) (by decide))
    cases hnone

end KeyGeneration

end SealedDrop
