import SealedDrop.FileTree.Operations
import Mathlib.Data.List.Basic
import Mathlib.Data.Option.Basic

/-!
# Changes to a file tree

What the elementary changes to a tree do at each route, and why a walk does not notice the creation of a file.

## The model

A walk asks of a route only whether a directory or a link is there (`FileTree.way?`). Trees with the same ways lead every
path to the same directory, whatever else is in them (`walk_of_ways`, `parent_of_ways`), so that a file may come and go
between two looks at the same path. A tree is `KeptIn` another one if every entry of it is there as it was.
-/

namespace SealedDrop.FileTree

variable {t t' : FileTree} {r r' : Route} {n n' : Node}

/-! ### Elementary changes -/

theorem lookup_filter_of_ne {α β : Type} [BEq α] [LawfulBEq α] [DecidableEq α] {a b : α} (h : b ≠ a)
    (l : List (α × β)) : (l.filter fun e => e.1 ≠ a).lookup b = l.lookup b := by
  induction l with
  | nil => rfl
  | cons e l ih =>
    obtain ⟨c, x⟩ := e
    by_cases hc : c = a
    · subst hc
      rw [List.filter_cons_of_neg (by simp), ih, List.lookup_cons, beq_eq_false_iff_ne.mpr h]
    · rw [List.filter_cons_of_pos (by simpa using hc), List.lookup_cons, List.lookup_cons, ih]

theorem node?_erase_of_ne (t : FileTree) (h : r' ≠ r) : (t.erase r).node? r' = t.node? r' := by
  unfold node? erase
  rw [lookup_filter_of_ne h]

theorem lookup_erase_self (t : FileTree) (r : Route) : (t.erase r).entries.lookup r = none := by
  rw [List.lookup_eq_none_iff]
  intro e he
  rw [erase, List.mem_filter] at he
  simpa [ne_comm] using he.2

theorem node?_put_of_ne (t : FileTree) (n : Node) (h : r' ≠ r) : (t.put r n).node? r' = t.node? r' := by
  rw [← node?_erase_of_ne t h, node?, node?, put, List.lookup_cons, beq_eq_false_iff_ne.mpr h]

/-- What is at a route after a change of another one, or of itself. -/
theorem node?_put (t : FileTree) (n : Node) (h : r ≠ []) (r' : Route) :
    (t.put r n).node? r' = if r' = r then some n else t.node? r' := by
  by_cases hr : r' = r
  · rw [if_pos hr, hr, node?_put_self t n h]
  · rw [if_neg hr, node?_put_of_ne t n hr]

/-- Nothing is taken out of where nothing is. -/
theorem erase_eq_self (h : t.node? r = none) : t.erase r = t := by
  have hr : r ≠ [] := by
    rintro rfl
    cases h
  rw [node?, if_neg hr, List.lookup_eq_none_iff] at h
  unfold erase
  rw [List.filter_eq_self.mpr]
  intro e he
  simpa [bne_iff_ne, ne_comm] using h e he

theorem erase_put (t : FileTree) (r : Route) (n : Node) : (t.put r n).erase r = t.erase r := by
  simp [put, erase, List.filter_filter]

theorem put_put (t : FileTree) (r : Route) (n n' : Node) : (t.put r n).put r n' = t.put r n' := by
  change (⟨(r, n') :: ((t.put r n).erase r).entries⟩ : FileTree) = _
  rw [erase_put]
  rfl

theorem erase_put_of_ne (t : FileTree) (n : Node) (h : r' ≠ r) : (t.put r' n).erase r = (t.erase r).put r' n := by
  simp only [put, erase, List.filter_cons, decide_eq_true h, if_true, List.filter_filter, Bool.and_comm]

/-- A file that has come and gone leaves nothing behind. -/
theorem erase_put_eq_self (h : t.node? r = none) (n : Node) : (t.put r n).erase r = t := by
  rw [erase_put, erase_eq_self h]

theorem append_put (t : FileTree) (h : r ≠ []) (mode : Nat) (b b' : Bytes) :
    (t.put r (.file mode b)).append r b' = t.put r (.file mode (b ++ b')) := by
  unfold append
  rw [node?_put_self t _ h]
  exact put_put t r _ _

/-! ### Entries that stay -/

variable {tree tree' tree'' : FileTree}

/-- Every entry of the first tree is in the second one, as it was. -/
def KeptIn (tree tree' : FileTree) : Prop :=
  ∀ q n, tree.node? q = some n → tree'.node? q = some n

theorem KeptIn.refl (tree : FileTree) : tree.KeptIn tree := fun _ _ h => h

theorem KeptIn.trans (h : tree.KeptIn tree') (h' : tree'.KeptIn tree'') : tree.KeptIn tree'' :=
  fun q n hn => h' q n (h q n hn)

theorem ne_of_node? {q : Route} {n : Node} (hn : tree.node? q = some n) (h : tree.node? r = none) : q ≠ r := by
  rintro rfl
  rw [hn] at h
  cases h

/-- A new entry is no change of another one. -/
theorem KeptIn.put (h : tree.node? r = none) (n : Node) : tree.KeptIn (tree.put r n) := by
  intro q n' hn
  rw [node?_put_of_ne tree n (ne_of_node? hn h), hn]

/-- Nor is the removal of one that was not there. -/
theorem KeptIn.erase (h : tree.KeptIn tree') (hr : tree.node? r = none) : tree.KeptIn (tree'.erase r) := by
  intro q n hn
  rw [node?_erase_of_ne tree' (ne_of_node? hn hr), h q n hn]

/-! ### What a walk sees -/

/-- An entry that a walk can go through. -/
def way? (t : FileTree) (r : Route) : Option Node :=
  match t.node? r with
  | some .directory => some .directory
  | some (.link target) => some (.link target)
  | _ => none

theorem way?_eq_directory_iff : t.way? r = some .directory ↔ t.node? r = some .directory := by
  unfold way?
  split <;> simp_all

theorem way?_eq_link_iff {target : String} : t.way? r = some (.link target) ↔ t.node? r = some (.link target) := by
  unfold way?
  split <;> simp_all

/-- Creating a file, or writing to one, opens no way and closes none. -/
theorem way?_put_file (hr : r ≠ []) (h : t.way? r = none) (mode : Nat) (b : Bytes) (r' : Route) :
    (t.put r (.file mode b)).way? r' = t.way? r' := by
  by_cases hrr : r' = r
  · rw [hrr, h, way?, node?_put_self t _ hr]
  · unfold way?
    rw [node?_put_of_ne t _ hrr]

/-- Nothing lies beyond an entry that is no directory. -/
theorem walk_of_not_directory (h : t.node? r = some n) (hn : n ≠ .directory) (links : Nat) (step : Step) (rest : List Step) :
    walk t links r (step :: rest) = .error .notDirectory := by
  rw [walk.eq_def]
  simp only [h]

/-- Trees with the same ways lead the same steps to the same directory. -/
theorem walk_of_ways (h : ∀ r, t'.way? r = t.way? r) {links : Nat} {place q : Route} {l : List Step}
    (hw : walk t links place l = .ok q) (hq : t.node? q = some .directory) : walk t' links place l = .ok q := by
  have hdir : ∀ {r}, t.node? r = some .directory → t'.node? r = some .directory := by
    intro r hr
    rwa [← way?_eq_directory_iff, h, way?_eq_directory_iff]
  fun_induction walk t links place l with
  | case1 links place =>
    rw [walk]
    exact hw
  | case2 => cases hw
  | case3 links place rest hplace ih =>
    rw [walk, hdir hplace]
    exact ih hw
  | case4 links place rest hplace ih =>
    rw [walk, hdir hplace]
    exact ih hw
  | case5 => cases hw
  | case6 => cases hw
  | case7 => cases hw
  | case8 place rest hplace s hs target hlink links ih =>
    have hlink' : t'.node? (s :: place) = some (.link target) := by
      rwa [← way?_eq_link_iff, h, way?_eq_link_iff]
    rw [walk, hdir hplace]
    simp only [if_neg hs, hlink']
    exact ih hw
  | case9 links place rest hplace s hs n hn hnode ih =>
    -- an entry that is neither a link nor a directory ends the walk, and not in a directory
    by_cases hd : n = .directory
    · subst hd
      rw [walk, hdir hplace]
      simp only [if_neg hs, hdir hnode]
      exact ih hw
    · exfalso
      cases rest with
      | nil =>
        rw [walk, Except.ok.injEq] at hw
        rw [← hw, hnode] at hq
        exact hd (Option.some.inj hq)
      | cons step rest =>
        rw [walk_of_not_directory hnode hd] at hw
        cases hw
  | case10 => cases hw

theorem parent_eq_ok_iff {workDir : Route} {path : String} {place : Route} {last : Option Step} :
    t.parent workDir path = .ok (place, last) ↔
      checkPath path = .ok () ∧ walk t linkLimit (start workDir path) (innerSteps path).dropLast = .ok place ∧
        t.node? place = some .directory ∧ (innerSteps path).getLast? = last := by
  simp only [parent, bind, Except.bind]
  rcases checkPath path with e | ⟨⟩
  · simp
  · rcases walk t linkLimit (start workDir path) (innerSteps path).dropLast with e | p
    · simp
    · simp only [Except.ok.injEq, true_and]
      constructor
      · intro h
        split at h
        · next hp =>
          cases h
          exact ⟨rfl, hp, rfl⟩
        · cases h
      · rintro ⟨rfl, hp, rfl⟩
        rw [hp]
        rfl

theorem parent_of_ways (h : ∀ r, t'.way? r = t.way? r) {workDir place : Route} {path : String} {last : Option Step}
    (hp : t.parent workDir path = .ok (place, last)) : t'.parent workDir path = .ok (place, last) := by
  obtain ⟨hc, hw, hd, hl⟩ := parent_eq_ok_iff.mp hp
  refine parent_eq_ok_iff.mpr ⟨hc, walk_of_ways h hw hd, ?_, hl⟩
  rwa [← way?_eq_directory_iff, h, way?_eq_directory_iff]

/-! ### Operations by path -/

section Operations

variable {workDir place : Route} {path : String} {s : String}

/-- A path names a route for an entry: through its directories, and with a name that is not too long. -/
def Names (t : FileTree) (workDir : Route) (path : String) (r : Route) : Prop :=
  ∃ place s, t.parent workDir path = .ok (place, some (.name s)) ∧ s.utf8ByteSize ≤ nameLimit ∧ r = s :: place

theorem Names.ne_nil (h : t.Names workDir path r) : r ≠ [] := by
  obtain ⟨place, s, -, -, rfl⟩ := h
  exact List.cons_ne_nil s place

theorem Names.unique (h : t.Names workDir path r) (h' : t.Names workDir path r') : r = r' := by
  obtain ⟨place, s, hp, -, rfl⟩ := h
  obtain ⟨place', s', hp', -, rfl⟩ := h'
  rw [hp] at hp'
  cases hp'
  rfl

theorem Names.of_ways (hw : ∀ r, t'.way? r = t.way? r) (h : t.Names workDir path r) : t'.Names workDir path r := by
  obtain ⟨place, s, hp, hs, rfl⟩ := h
  exact ⟨place, s, parent_of_ways hw hp, hs, rfl⟩

/-- A path of one step that starts at the root names an entry there. -/
theorem names_of_innerSteps (hcheck : checkPath path = .ok ()) (hstart : start workDir path = [])
    (hsteps : innerSteps path = [.name s]) (hsize : s.utf8ByteSize ≤ nameLimit) : t.Names workDir path [s] := by
  refine ⟨[], s, parent_eq_ok_iff.mpr ⟨hcheck, ?_, rfl, ?_⟩, hsize, rfl⟩
  · rw [hstart, hsteps, List.dropLast_singleton, walk]
  · rw [hsteps]
    rfl

/-- A route for a new entry is one that a path names and nothing is at. -/
theorem newRoute_eq_ok_iff :
    t.newRoute workDir path = .ok r ↔ t.Names workDir path r ∧ endsInSlash path = false ∧ t.node? r = none := by
  unfold newRoute
  constructor
  · intro h
    rcases hp : t.parent workDir path with e | ⟨place, _ | ⟨s⟩ | _ | _⟩ <;> rw [hp] at h
    · cases h
    · cases h
    · by_cases hslash : endsInSlash path = true
      · simp [bind, Except.bind, hslash] at h
      by_cases hlong : nameLimit < s.utf8ByteSize
      · simp [bind, Except.bind, hslash, hlong] at h
      cases hn : t.node? (s :: place) with
      | some n => simp [bind, Except.bind, hslash, hlong, hn] at h
      | none =>
        simp only [bind, Except.bind, hslash, hlong, hn, Option.isSome_none, Bool.false_eq_true, if_false] at h
        cases h
        exact ⟨⟨place, s, hp, Nat.not_lt.mp hlong, rfl⟩, by simpa using hslash, hn⟩
    · cases h
    · cases h
  · rintro ⟨⟨place, s, hp, hs, rfl⟩, hslash, hn⟩
    rw [hp]
    simp only [bind, Except.bind, hslash, hn, Nat.not_lt.mpr hs, Option.isSome_none, Bool.false_eq_true, if_false]
    rfl

theorem entry_eq_ok_iff : t.entry workDir path = .ok (r, n) ↔ t.Names workDir path r ∧ t.node? r = some n := by
  unfold entry
  constructor
  · intro h
    rcases hp : t.parent workDir path with e | ⟨place, _ | ⟨s⟩ | _ | _⟩ <;> rw [hp] at h
    · cases h
    · cases h
    · by_cases hlong : nameLimit < s.utf8ByteSize
      · simp [bind, Except.bind, hlong] at h
      cases hn : t.node? (s :: place) with
      | none => simp [bind, Except.bind, hlong, hn] at h
      | some n' =>
        simp only [bind, Except.bind, hlong, hn, if_false] at h
        cases h
        exact ⟨⟨place, s, hp, Nat.not_lt.mp hlong, rfl⟩, hn⟩
    · cases h
    · cases h
  · rintro ⟨⟨place, s, hp, hs, rfl⟩, hn⟩
    rw [hp]
    simp only [bind, Except.bind, hn, Nat.not_lt.mpr hs, if_false]
    rfl

/-- A path at which a file can be put in place of whatever is there. -/
structure Takes (t : FileTree) (workDir : Route) (path : String) (r : Route) : Prop where
  /-- The route at which it will be. -/
  names : t.Names workDir path r
  /-- No slash behind the name asks for a directory. -/
  plain : endsInSlash path = false
  /-- A directory is not replaced. -/
  free : t.node? r ≠ some .directory

theorem Takes.of_ways (hw : ∀ r, t'.way? r = t.way? r) (h : t.Takes workDir path r) : t'.Takes workDir path r := by
  refine ⟨h.names.of_ways hw, h.plain, ?_⟩
  rw [ne_eq, ← way?_eq_directory_iff, hw, way?_eq_directory_iff]
  exact h.free

theorem rename_eq_ok_iff {old new : String} :
    t.rename workDir old new = .ok t' ↔
      ∃ r n r', t.Names workDir old r ∧ t.node? r = some n ∧ endsInSlash old = false ∧ t.Takes workDir new r' ∧
        t' = (t.erase r).put r' n := by
  unfold rename
  constructor
  · intro h
    rcases he : t.entry workDir old with e | ⟨r, n⟩ <;> rw [he] at h
    · cases h
    obtain ⟨hnames, hnode⟩ := entry_eq_ok_iff.mp he
    rcases hp : t.parent workDir new with e | ⟨place, _ | ⟨s⟩ | _ | _⟩ <;>
      simp only [bind, Except.bind, hp] at h
    · cases h
    · cases h
    · by_cases hlong : nameLimit < s.utf8ByteSize
      · simp [hlong] at h
      by_cases hslash : endsInSlash old = true ∨ endsInSlash new = true
      · simp [hlong, hslash] at h
      by_cases hdir : t.node? (s :: place) = some .directory
      · simp [hlong, hslash, hdir] at h
      simp only [hlong, hslash, hdir, if_false] at h
      cases h
      rw [not_or, Bool.not_eq_true, Bool.not_eq_true] at hslash
      exact ⟨r, n, _, hnames, hnode, hslash.1, ⟨⟨place, s, hp, Nat.not_lt.mp hlong, rfl⟩, hslash.2, hdir⟩, rfl⟩
    · cases h
    · cases h
  · rintro ⟨r, n, r', hnames, hnode, hold, ⟨⟨place, s, hp, hs, rfl⟩, hnew, hdir⟩, rfl⟩
    rw [entry_eq_ok_iff.mpr ⟨hnames, hnode⟩]
    simp only [bind, Except.bind, hp, Nat.not_lt.mpr hs, hold, hnew, hdir, Bool.false_eq_true, or_self, if_false]
    rfl

theorem remove_of_names (hr : t.Names workDir path r) (hn : t.node? r = some n) (hd : n ≠ .directory)
    (hslash : endsInSlash path = false) : t.remove workDir path = .ok (t.erase r) := by
  unfold remove
  rw [entry_eq_ok_iff.mpr ⟨hr, hn⟩]
  simp only [bind, Except.bind, hd, hslash, Bool.false_eq_true, if_false]
  rfl

/-- Nothing is removed by a path that leads to nothing. -/
theorem remove_of_no_entry (h : ∀ x, t.entry workDir path ≠ .ok x) : ∃ e, t.remove workDir path = .error e := by
  unfold remove
  cases he : t.entry workDir path with
  | error e => exact ⟨e, rfl⟩
  | ok x => exact absurd he (h x)

end Operations

end SealedDrop.FileTree
