import SealedDrop.Proofs.Path

/-!
# Replacing files is atomic

A file that is put in place of another, whatever stands at the destination and whatever access fails on the way, is there as a
whole or not at all, and nothing else in the tree tells that it was attempted.

## The model

* The destination is any path: it may name a file, a link, a directory or nothing, end in a slash, lead through files or
  through directories that do not exist, or be too long. The plan of faults of the machine may let any access fail, a write after
  any part of its bytes.
* `Atomic` is the rule for an outcome and the tree after it. All that it supposes is that the name drawn for the temporary file
  is unused (`Unused`), and that its removal is not among the accesses that may be planned to fail.

## What is proved

* `Replaced.atomic` — each way in which a replacement may end obeys the rule.
* `replace_atomic` — every replacement obeys the rule.
-/

namespace SealedDrop.FileWriter

open FileTree

variable {σ : Type} {m : Machine} {destination : String} {b : Bytes} {mode : Nat} {x : Except Error Unit} {tree : FileTree}

/-- The rule for putting a file with these contents and permission bits in place of a destination: the outcome is `x`, and `tree`
is left. -/
structure Atomic (m : Machine) (destination : String) (b : Bytes) (mode : Nat) (x : Except Error Unit) (tree : FileTree) :
    Prop where
  /-- After a success the entry that the path names, a link itself and not what it leads to, is a regular file with exactly these
  contents, and with these bits less those of the mask. It was no directory. Every other entry is as before. -/
  placed : x = .ok () → ∃ r bits, m.tree.Names m.workDir destination r ∧ m.tree.node? r ≠ some .directory ∧
    m.Grants mode bits ∧ ∀ q, tree.node? q = if q = r then some (.file bits b) else m.tree.node? q
  /-- After a failure the tree is as before. -/
  kept : ∀ e, x = .error e → tree = m.tree
  /-- A failure is that of an access, or that the path has no name in it. -/
  failure : ∀ e, x = .error e → (∃ e', e = .io e') ∨ (∃ what, e = .invalidInput what) ∧ Path.split? destination = none
  /-- There is no failure if nothing stands in the way. -/
  success : Path.split? destination ≠ none → ¬ Fails m destination → x = .ok ()

/-- However a replacement ends, it obeys the rule. -/
theorem Replaced.atomic (h : Replaced m destination b mode x tree) : Atomic m destination b mode x tree := by
  cases h with
  | unnamed hsplit =>
    exact {
      placed := fun hok => by cases hok
      kept := fun _ _ => rfl
      failure := fun e he => by
        cases he
        exact .inr ⟨⟨_, rfl⟩, hsplit⟩
      success := fun hname => absurd hsplit hname }
  | failed e hfails =>
    exact {
      placed := fun hok => by cases hok
      kept := fun _ _ => rfl
      failure := fun e' he' => by
        cases he'
        exact .inl ⟨_, rfl⟩
      success := fun _ hno => absurd hfails hno }
  | placed hopens hr =>
    exact {
      placed := fun _ => ⟨_, _, hr.names, hr.free, Machine.grants_iff.mpr rfl, node?_put m.tree _ hr.names.ne_nil⟩
      kept := fun e he => by cases he
      failure := fun e he => by cases he
      success := fun _ _ => rfl }

/-- **Replacing is atomic**: whatever the destination is and whatever access fails, a replacement obeys the rule, as long as the
name drawn for its temporary file is unused. -/
theorem replace_atomic (t : Transport σ) (destination : String) (b : Bytes) (mode : Nat) (m : Machine) (s : σ)
    (hunused : Unused m destination) :
    Atomic m destination b mode (Op.run t (replace destination b mode) m s).1
      (Op.run t (replace destination b mode) m s).2.1.tree := by
  obtain ⟨x, m', hrun, hreplaced⟩ := runs_replace_cases t destination b mode m s
  rw [hrun.run_eq]
  exact (hreplaced hunused).atomic

/-- A machine with a link to a file that only its owner may read. New files are for no others than its owner and their group. -/
def linked : Machine where
  tree := ⟨[(["out"], .link "kept"), (["kept"], .file 0o600 [1])]⟩
  umask := 0o027
  entropy := ⟨fun _ => 7, 0⟩

/-- Nothing stands in the way of replacing that link. -/
theorem not_fails_linked : ¬ Fails linked "out" := by
  have hnames : linked.tree.Names linked.workDir "out" ["out"] := names_of_innerSteps rfl rfl (by decide) (by decide)
  have htakes : linked.tree.Takes linked.workDir "out" ["out"] := ⟨hnames, by decide, by decide⟩
  obtain ⟨directory, hsplit, hsize, hnew⟩ := newRoute_sibling htakes (linked.entropy.length_peek 16)
  intro hfails
  rcases hfails directory "out" hsplit with hfault | hnone | hfree
  · exact hfault fun f hf => by cases hf
  · have hfits : "out".utf8ByteSize + 42 ≤ nameLimit ∧
        (sibling directory "out" (linked.entropy.peek 16)).utf8ByteSize < pathLimit := ⟨by decide, hsize.trans_lt (by decide)⟩
    exact hnone _ ((hnew (unused_of_forall_short (by decide) "out" directory "out" hsplit)).trans (if_pos hfits))
  · exact hfree _ htakes

/-- A link is replaced, and not the file that it leads to. -/
theorem replace_atomic_linked :
    Unused linked "out" ∧ (Op.run Op.silent (replace "out" [2, 3] 0o666) linked ()).1 = .ok () ∧
      (Op.run Op.silent (replace "out" [2, 3] 0o666) linked ()).2.1.tree.node? ["out"] = some (.file 0o640 [2, 3]) ∧
      (Op.run Op.silent (replace "out" [2, 3] 0o666) linked ()).2.1.tree.node? ["kept"] = some (.file 0o600 [1]) := by
  have hunused : Unused linked "out" := unused_of_forall_short (by decide) "out"
  have hatomic := replace_atomic Op.silent "out" [2, 3] 0o666 linked () hunused
  have hok := hatomic.success (by decide) not_fails_linked
  obtain ⟨r, bits, hnames, -, hbits, htree⟩ := hatomic.placed hok
  obtain rfl := hnames.unique (names_of_innerSteps (s := "out") rfl rfl (by decide) (by decide))
  refine ⟨hunused, hok, ?_, ?_⟩
  · rw [htree, Machine.grants_iff.mp hbits]
    rfl
  · rw [htree]
    rfl

end SealedDrop.FileWriter
