import SealedDrop.Home
import SealedDrop.Proofs.Path

/-!
# Expanding the home directory

A path below the tilde becomes a path below the home directory, unless a second slash follows the tilde: what stands behind the
first one is then a path from the root, and takes the place of the home directory.

## The model

* The components of a path are its steps, lone dots among them (`FileTree.innerSteps`), and whether it starts at the root.
* `Expands` is the rule for a path and what it is expanded to.

## What is proved

* `expand_exact` — every path obeys the rule, under every home directory.
* `expand_loses_home` — a path below the tilde that is not expanded to one below the home directory.
-/

namespace SealedDrop.Home

open FileTree SealedDrop.Path

variable {home path rest : String}

/-! ### The cases -/

theorem expand_tilde_slash (home : String) (h : path = "~/" ++ rest) : expand (some home) path = .ok (join home rest) := by
  have hlist : path.toList = '~' :: '/' :: rest.toList := by
    rw [h, String.toList_append]
    rfl
  unfold expand
  rw [hlist]
  simp

theorem expand_tilde_other (home : Option String) (h : path = "~" ++ rest) (hne : rest ≠ "") (hslash : isAbsolute rest = false) :
    expand home path = .error (.invalidInput ("Cannot expand user-specific home directory in '" ++ path ++ "'")) := by
  have hlist : path.toList = '~' :: rest.toList := by
    rw [h, String.toList_append]
    rfl
  have hhead : rest.toList.head? ≠ some '/' := by simpa [isAbsolute] using hslash
  unfold expand
  rw [hlist]
  simp only [hhead, or_false, if_neg (mt String.toList_eq_nil_iff.mp hne)]

theorem expand_of_head? (home : Option String) (h : path.toList.head? ≠ some '~') : expand home path = .ok path := by
  unfold expand
  split
  · next rest hlist =>
    rw [hlist] at h
    exact absurd rfl h
  · rfl

/-- A path that does not start at the root is put behind the base, and the base is kept. -/
theorem isPrefix_join (base : String) (h : isAbsolute rest = false) : base.toList <+: (join base rest).toList := by
  rcases toList_join base h with ⟨rfl, hl⟩ | ⟨l, hbase, hl⟩ | ⟨-, -, hl⟩
  · exact List.nil_prefix
  · rw [hl, hbase]
    exact ⟨rest.toList, by simp⟩
  · rw [hl]
    exact List.prefix_append _ _

/-! ### The rule -/

/-- The rule for a path under a home directory, and for what it is expanded to. -/
structure Expands (home path : String) (x : Except Error String) : Prop where
  /-- The tilde stands for the home directory. -/
  tilde : path = "~" → x = .ok home
  /-- A path below the tilde is one below the home directory: it begins with the text of the home directory, and has first its
  components and then those behind the slash. -/
  below : ∀ rest, path = "~/" ++ rest → isAbsolute rest = false → ∃ expanded, x = .ok expanded ∧ home.toList <+: expanded.toList ∧
    isAbsolute expanded = isAbsolute home ∧ innerSteps expanded = innerSteps home ++ innerSteps rest
  /-- Behind a second slash there is a path from the root, and nothing of the home directory. -/
  fromRoot : ∀ rest, path = "~/" ++ rest → isAbsolute rest = true → x = .ok rest
  /-- Directories of other users are refused. -/
  otherUser : ∀ rest, path = "~" ++ rest → rest ≠ "" → isAbsolute rest = false → ∃ what, x = .error (.invalidInput what)
  /-- A path without a leading tilde stands for itself. -/
  plain : path.toList.head? ≠ some '~' → x = .ok path

/-- **Home directories**: every path obeys the rule. -/
theorem expand_exact (home path : String) : Expands home path (expand (some home) path) where
  tilde := by
    rintro rfl
    rfl
  below := by
    intro rest hpath hrest
    exact ⟨_, expand_tilde_slash home hpath, isPrefix_join home hrest, isAbsolute_join home hrest, innerSteps_join home hrest⟩
  fromRoot := by
    intro rest hpath hrest
    rw [expand_tilde_slash home hpath, join, if_pos (.inl hrest)]
  otherUser := by
    intro rest hpath hne hrest
    exact ⟨_, expand_tilde_other (some home) hpath hne hrest⟩
  plain := fun hpath => expand_of_head? (some home) hpath

/-- With two slashes behind the tilde a path from the root takes the place of the home directory. -/
theorem expand_loses_home :
    expand (some "/home/alice") "~//etc/key" = .ok "/etc/key" ∧ ¬ "/home/alice".toList <+: "/etc/key".toList ∧
      innerSteps "/etc/key" ≠ innerSteps "/home/alice" ++ innerSteps "/etc/key" := by
  refine ⟨rfl, by decide, by decide⟩

end SealedDrop.Home
