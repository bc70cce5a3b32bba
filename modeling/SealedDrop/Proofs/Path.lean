import SealedDrop.Proofs.FileWriter
import SealedDrop.Proofs.Text
import Mathlib.Data.String.Basic

/-!
# Siblings of a path

The hidden sibling of a file lies in the directory of that file: a path of one leads through the same directories as the
path of the other.

## The model

The steps of a path are those of the parts between its slashes (`stepsOf`). Taking a path apart and putting a sibling
together drops slashes and lone dots at the end of the directory, and no other step; a walk does not notice, because a lone
dot leads from a directory to itself (`walk_of_walk_replicate`).
-/

namespace SealedDrop.FileTree

open SealedDrop.Path

/-! ### Steps -/

/-- The steps between the slashes of a list of characters. -/
def stepsOf (l : List Char) : List Step :=
  (l.splitOn '/').filterMap fun part => Step.ofComponent? (String.ofList part)

theorem innerSteps_eq (path : String) : innerSteps path = stepsOf path.toList := rfl

theorem stepsOf_nil : stepsOf [] = [] := rfl

/-- A slash separates the steps before it from those after it. -/
theorem stepsOf_append_cons (l l' : List Char) : stepsOf (l ++ '/' :: l') = stepsOf l ++ stepsOf l' := by
  unfold stepsOf
  rw [List.splitOn_append_cons_self, List.filterMap_append]

theorem stepsOf_append_slash (l : List Char) : stepsOf (l ++ ['/']) = stepsOf l := by
  rw [stepsOf_append_cons, stepsOf_nil, List.append_nil]

theorem stepsOf_of_no_slash {l : List Char} (h : '/' ∉ l) : stepsOf l = (Step.ofComponent? (String.ofList l)).toList := by
  unfold stepsOf
  rw [List.splitOn_eq_singleton h]
  cases hstep : Step.ofComponent? (String.ofList l) <;> simp [hstep]

theorem ofComponent?_eq_name_iff {s s' : String} :
    Step.ofComponent? s = some (.name s') ↔ s = s' ∧ s ≠ "" ∧ s ≠ "." ∧ s ≠ ".." := by
  unfold Step.ofComponent?
  constructor
  · intro h
    split at h
    · cases h
    · split at h
      · cases h
      · split at h
        · cases h
        · cases h
          exact ⟨rfl, ‹_›, ‹_›, ‹_›⟩
  · rintro ⟨rfl, hempty, hdot, hdots⟩
    rw [if_neg hempty, if_neg hdot, if_neg hdots]

/-- A text without slashes is one step, if it is too long for a dot or two. -/
theorem innerSteps_of_no_slash {s : String} (h : '/' ∉ s.toList) (hlength : 3 ≤ s.toList.length) : innerSteps s = [.name s] := by
  have hne : ∀ s' : String, s'.toList.length < 3 → s ≠ s' := by
    rintro s' hs' rfl
    omega
  have hstep : Step.ofComponent? s = some (.name s) :=
    ofComponent?_eq_name_iff.mpr ⟨rfl, hne _ (by decide), hne _ (by decide), hne _ (by decide)⟩
  rw [innerSteps_eq, stepsOf_of_no_slash h, String.ofList_toList, hstep]
  rfl

/-- Slashes at the front make no step. -/
theorem stepsOf_replicate_slash (n : Nat) (l : List Char) : stepsOf (List.replicate n '/' ++ l) = stepsOf l := by
  induction n with
  | zero => rfl
  | succ n ih =>
    have hslash := stepsOf_append_cons [] (List.replicate n '/' ++ l)
    rw [ih] at hslash
    exact hslash

theorem checkPath_eq_ok {path : String} (hnul : '\x00' ∉ path.toList) (hne : path ≠ "") (hsize : path.utf8ByteSize < pathLimit) :
    checkPath path = .ok () := by
  rw [checkPath, if_neg (by simpa using hnul), if_neg hne, if_neg (Nat.not_le.mpr hsize)]

/-- A path that is looked up is not too long. -/
theorem size_lt_of_checkPath {path : String} (h : checkPath path = .ok ()) : path.utf8ByteSize < pathLimit := by
  unfold checkPath at h
  split at h
  · cases h
  · split at h
    · cases h
    · split at h
      · cases h
      · omega

/-! ### Walking -/

/-- A walk that succeeds can be broken off at any step: it goes through some place, with some links still allowed. -/
theorem exists_walk_append {t : FileTree} {links : Nat} {place q : Route} {l l' : List Step}
    (h : t.walk links place (l ++ l') = .ok q) :
    ∃ links' p, t.walk links place l = .ok p ∧ t.walk links' p l' = .ok q := by
  fun_induction walk t links place l with
  | case1 links place => exact ⟨links, place, rfl, h⟩
  | case2 links place step rest hplace =>
    rw [List.cons_append, walk.eq_def] at h
    simp only [hplace] at h
    cases h
  | case3 links place rest hplace ih =>
    rw [List.cons_append, walk, hplace] at h
    exact ih h
  | case4 links place rest hplace ih =>
    rw [List.cons_append, walk, hplace] at h
    exact ih h
  | case5 links place rest hplace s hs =>
    rw [List.cons_append, walk, hplace] at h
    simp only [if_pos hs] at h
    cases h
  | case6 links place rest hplace s hs hnone =>
    rw [List.cons_append, walk, hplace] at h
    simp only [if_neg hs, hnone] at h
    cases h
  | case7 place rest hplace s hs target hlink =>
    rw [List.cons_append, walk, hplace] at h
    simp only [if_neg hs, hlink] at h
    cases h
  | case8 place rest hplace s hs target hlink links ih =>
    rw [List.cons_append, walk, hplace] at h
    simp only [if_neg hs, hlink] at h
    rw [← List.append_assoc] at h
    exact ih h
  | case9 links place rest hplace s hs n hn hnode ih =>
    rw [List.cons_append, walk, hplace] at h
    simp only [if_neg hs, hnode] at h
    exact ih h
  | case10 links place step rest n hn hplace =>
    rw [List.cons_append, walk.eq_def] at h
    simp only [hplace] at h
    cases h

/-- A walk that succeeds can be continued. -/
theorem exists_walk_append_eq {t : FileTree} {links : Nat} {place p : Route} {l : List Step} (h : t.walk links place l = .ok p) :
    ∃ links', ∀ l', t.walk links place (l ++ l') = t.walk links' p l' := by
  fun_induction walk t links place l with
  | case1 links place =>
    cases h
    exact ⟨links, fun _ => rfl⟩
  | case2 => cases h
  | case3 links place rest hplace ih =>
    obtain ⟨links', hwalk⟩ := ih h
    refine ⟨links', fun l' => ?_⟩
    rw [List.cons_append, walk, hplace]
    exact hwalk l'
  | case4 links place rest hplace ih =>
    obtain ⟨links', hwalk⟩ := ih h
    refine ⟨links', fun l' => ?_⟩
    rw [List.cons_append, walk, hplace]
    exact hwalk l'
  | case5 => cases h
  | case6 => cases h
  | case7 => cases h
  | case8 place rest hplace s hs target hlink links ih =>
    obtain ⟨links', hwalk⟩ := ih h
    refine ⟨links', fun l' => ?_⟩
    rw [List.cons_append, walk, hplace]
    simp only [if_neg hs, hlink]
    rw [← List.append_assoc]
    exact hwalk l'
  | case9 links place rest hplace s hs n hn hnode ih =>
    obtain ⟨links', hwalk⟩ := ih h
    refine ⟨links', fun l' => ?_⟩
    rw [List.cons_append, walk, hplace]
    simp only [if_neg hs, hnode]
    exact hwalk l'
  | case10 => cases h

/-- A path without a slash at its end is followed through its directories first. -/
theorem exists_locate_eq {t : FileTree} {workDir place : Route} {path s : String}
    (hp : t.parent workDir path = .ok (place, some (.name s))) (hslash : endsInSlash path = false) :
    ∃ links, t.locate workDir path = t.walk links place [.name s] := by
  obtain ⟨hcheck, hwalk, -, hlast⟩ := parent_eq_ok_iff.mp hp
  obtain ⟨links, hcontinue⟩ := exists_walk_append_eq hwalk
  have hsteps : steps path = (innerSteps path).dropLast ++ [.name s] := by
    rw [steps, hslash, if_neg (by decide), List.append_nil, List.dropLast_append_getLast? _ hlast]
  refine ⟨links, ?_⟩
  rw [locate, hcheck, hsteps]
  exact hcontinue _

/-- What is at the route that a path names is found there, if it is no link. -/
theorem find_of_names {t : FileTree} {workDir r : Route} {path : String} {n : Node} (h : t.Names workDir path r)
    (hslash : endsInSlash path = false) (hn : t.node? r = some n) (hlink : ∀ target, n ≠ .link target) :
    t.find workDir path = .ok n := by
  obtain ⟨place, s, hp, hs, rfl⟩ := h
  obtain ⟨-, -, hplace, -⟩ := parent_eq_ok_iff.mp hp
  obtain ⟨links, hlocate⟩ := exists_locate_eq hp hslash
  have hend : t.walk links place [.name s] = .ok (s :: place) := by
    rw [walk, hplace]
    simp only [if_neg (Nat.not_lt.mpr hs), hn]
    cases n with
    | link target => exact absurd rfl (hlink target)
    | directory => rw [walk]
    | file mode b => rw [walk]
    | stream isRegular b => rw [walk]
  simp only [find, hlocate, hend, bind, Except.bind, hn]
  rfl

/-- Where an entry can be created none is found. -/
theorem find_of_newRoute {t : FileTree} {workDir r : Route} {path : String} (h : t.newRoute workDir path = .ok r) :
    t.find workDir path = .error .noEntry := by
  obtain ⟨⟨place, s, hp, hs, rfl⟩, hslash, hnone⟩ := newRoute_eq_ok_iff.mp h
  obtain ⟨-, -, hplace, -⟩ := parent_eq_ok_iff.mp hp
  obtain ⟨links, hlocate⟩ := exists_locate_eq hp hslash
  have hend : t.walk links place [.name s] = .error .noEntry := by
    rw [walk, hplace]
    simp only [if_neg (Nat.not_lt.mpr hs), hnone]
  simp only [find, hlocate, hend, bind, Except.bind]

/-- Lone dots lead from a place to itself. -/
theorem eq_of_walk_replicate_here {t : FileTree} {links : Nat} {place q : Route} (k : Nat)
    (h : t.walk links place (List.replicate k .here) = .ok q) : q = place := by
  induction k with
  | zero =>
    rw [List.replicate_zero, walk] at h
    cases h
    rfl
  | succ k ih =>
    rw [List.replicate_succ, walk] at h
    split at h
    · cases h
    · exact ih h
    · cases h

/-- Lone dots at the end of a walk that succeeds make no difference. -/
theorem walk_of_walk_replicate {t : FileTree} {links : Nat} {place q : Route} {l : List Step} (k : Nat)
    (h : t.walk links place (l ++ List.replicate k .here) = .ok q) : t.walk links place l = .ok q := by
  obtain ⟨links', p, hp, hq⟩ := exists_walk_append h
  rwa [eq_of_walk_replicate_here k hq]

/-! ### Taking a path apart -/

/-- Slashes and lone dots at the end are all that is removed. -/
theorem dropTail_suffix (l : List Char) : dropTail l <:+ l := by
  fun_induction dropTail l with
  | case1 c rest ih => exact ih.trans (List.suffix_cons _ _)
  | case2 rest ih => exact ih.trans (List.suffix_cons _ _)
  | case3 l => exact List.suffix_rfl

theorem getLast?_dropTail (l : List Char) : (dropTail l).getLast? = l.getLast? := by
  fun_induction dropTail l with
  | case1 c rest ih => rw [ih, List.getLast?_cons_cons]
  | case2 rest ih => rw [ih, List.getLast?_cons_cons]
  | case3 l => rfl

/-- What is removed makes no step but to the same directory. -/
theorem exists_stepsOf_dropTail (l : List Char) :
    ∃ k, stepsOf l.reverse = stepsOf (dropTail l).reverse ++ List.replicate k .here := by
  fun_induction dropTail l with
  | case1 c rest ih =>
    obtain ⟨k, hk⟩ := ih
    exact ⟨k, by rw [List.reverse_cons, stepsOf_append_slash, hk]⟩
  | case2 rest ih =>
    obtain ⟨k, hk⟩ := ih
    have hdot : stepsOf ['.'] = [.here] := by decide
    refine ⟨k + 1, ?_⟩
    rw [List.replicate_succ', ← List.append_assoc, ← hk, List.reverse_cons, List.reverse_cons, List.append_assoc,
      List.singleton_append, stepsOf_append_cons, hdot, stepsOf_append_slash]
  | case3 l => exact ⟨0, by rw [List.replicate_zero, List.append_nil]⟩

/-- A list that ends in a name, in reverse, has nothing to remove. -/
theorem dropTail_of_name {name rest : List Char} (hslash : '/' ∉ name) (hempty : name ≠ []) (hdot : name ≠ ['.']) :
    dropTail (name.reverse ++ rest) = name.reverse ++ rest := by
  have hne : name.reverse ≠ [] := List.reverse_ne_nil_iff.mpr hempty
  obtain ⟨c, l, hl⟩ := List.exists_cons_of_ne_nil hne
  have hmem : ∀ d ∈ c :: l, d ≠ '/' := by
    rintro d hd rfl
    rw [← hl, List.mem_reverse] at hd
    exact hslash hd
  rw [hl, List.cons_append]
  refine dropTail.eq_3 _ ?_ ?_
  · intro d r heq
    exact hmem c List.mem_cons_self (List.cons.inj heq).1
  · intro r heq
    obtain ⟨rfl, htail⟩ := List.cons.inj heq
    cases l with
    | nil =>
      rw [List.reverse_eq_iff] at hl
      exact hdot hl
    | cons d l => exact hmem d (List.mem_cons_of_mem _ List.mem_cons_self) (List.cons.inj htail).1

/-- The characters behind the last slash, and those before them in reverse. -/
theorem exists_cut (l : List Char) :
    ∃ rest name : List Char, l.reverse = name.reverse ++ rest ∧ l.reverse.takeWhile (· ≠ '/') = name.reverse ∧ '/' ∉ name ∧
      (rest = [] ∨ ∃ r, rest = '/' :: r) := by
  refine ⟨l.reverse.dropWhile (· ≠ '/'), (l.reverse.takeWhile (· ≠ '/')).reverse, ?_, ?_, ?_, ?_⟩
  · rw [List.reverse_reverse, List.takeWhile_append_dropWhile]
  · rw [List.reverse_reverse]
  · intro hmem
    rw [List.mem_reverse] at hmem
    simpa using List.mem_takeWhile_imp hmem
  · have hhead := List.head?_dropWhile_not (· ≠ '/') l.reverse
    cases hcons : l.reverse.dropWhile (· ≠ '/') with
    | nil => exact .inl rfl
    | cons c r =>
      simp only [hcons, List.head?_cons, decide_eq_false_iff_not, not_not] at hhead
      exact .inr ⟨r, by rw [hhead]⟩

/-- A path that ends in a name: what stands before the name, in reverse, ends in a slash unless it is empty, and holds all
steps but the last. -/
theorem exists_split {path s : String} (hlast : (innerSteps path).getLast? = some (.name s))
    (hslash : endsInSlash path = false) :
    ∃ rest, path.toList = rest.reverse ++ s.toList ∧ (rest = [] ∨ ∃ r, rest = '/' :: r) ∧ '/' ∉ s.toList ∧
      (innerSteps path).dropLast = stepsOf rest.reverse ∧
      split? path = some (String.ofList (dropTail rest).reverse, s) := by
  obtain ⟨rest, name, hcut, htake, hno, hrest⟩ := exists_cut path.toList
  have hpath : path.toList = rest.reverse ++ name := by
    rw [← List.reverse_reverse path.toList, hcut, List.reverse_append, List.reverse_reverse]
  have hempty : name ≠ [] := by
    rintro rfl
    rcases hrest with rfl | ⟨r, rfl⟩
    · rw [innerSteps_eq, hpath] at hlast
      cases hlast
    · rw [endsInSlash, hpath, List.append_nil, List.reverse_cons, List.getLast?_concat] at hslash
      cases hslash
  -- the steps are those before the last slash and the one of the name
  have hsteps : innerSteps path = stepsOf rest.reverse ++ (Step.ofComponent? (String.ofList name)).toList := by
    rw [innerSteps_eq, hpath, ← stepsOf_of_no_slash hno]
    rcases hrest with rfl | ⟨r, rfl⟩
    · rfl
    · rw [List.reverse_cons, stepsOf_append_slash, List.append_assoc, List.singleton_append, stepsOf_append_cons]
  cases hstep : Step.ofComponent? (String.ofList name) with
  | none =>
    unfold Step.ofComponent? at hstep
    split at hstep
    · next h => exact absurd (String.ofList_eq_empty_iff.mp h) hempty
    · split at hstep
      · cases hstep
      · split at hstep <;> cases hstep
  | some step =>
    rw [hstep, Option.toList_some] at hsteps
    rw [hsteps, List.getLast?_concat, Option.some.injEq] at hlast
    subst hlast
    obtain ⟨rfl, -, hdot, hdots⟩ := ofComponent?_eq_name_iff.mp hstep
    rw [String.toList_ofList]
    refine ⟨rest, hpath, hrest, hno, ?_, ?_⟩
    · rw [hsteps, List.dropLast_concat]
    · have hdot' : name ≠ ['.'] := fun h => hdot (by rw [h])
      have hdots' : name ≠ ['.', '.'] := fun h => hdots (by rw [h])
      have hself : dropTail path.toList.reverse = name.reverse ++ rest := by
        rw [hcut, dropTail_of_name hno hempty hdot']
      have htake' : (name.reverse ++ rest).takeWhile (· ≠ '/') = name.reverse := by rw [← hcut, htake]
      have hdrop : (name.reverse ++ rest).drop name.length = rest := by
        rw [← List.length_reverse, List.drop_left]
      unfold split?
      simp only [hself, htake', List.reverse_reverse, hdrop]
      rw [if_neg (by simp [hempty, hdot', hdots'])]

/-! ### Putting a path together -/

section Join

variable {base rest : String}

/-- The characters of a joined path: a slash stands between the parts unless the first is empty or ends in one. -/
theorem toList_join (base : String) (h : isAbsolute rest = false) :
    (base = "" ∧ (join base rest).toList = rest.toList) ∨
    (∃ l, base.toList = l ++ ['/'] ∧ (join base rest).toList = l ++ '/' :: rest.toList) ∨
    (base ≠ "" ∧ base.toList.getLast? ≠ some '/' ∧ (join base rest).toList = base.toList ++ '/' :: rest.toList) := by
  unfold join
  by_cases hbase : base = ""
  · subst hbase
    rw [if_pos (.inr rfl)]
    exact .inl ⟨rfl, rfl⟩
  rw [if_neg (by simpa [h] using hbase)]
  by_cases hlast : base.toList.getLast? = some '/'
  · rw [if_pos hlast]
    obtain ⟨l, hl⟩ := List.getLast?_eq_some_iff.mp hlast
    refine .inr (.inl ⟨l, hl, ?_⟩)
    rw [String.toList_append, hl, List.append_assoc, List.singleton_append]
  · rw [if_neg hlast]
    refine .inr (.inr ⟨hbase, hlast, ?_⟩)
    rw [String.toList_append, String.toList_append, List.append_assoc]
    rfl

theorem innerSteps_join (base : String) (h : isAbsolute rest = false) :
    innerSteps (join base rest) = innerSteps base ++ innerSteps rest := by
  simp only [innerSteps_eq]
  rcases toList_join base h with ⟨rfl, hl⟩ | ⟨l, hbase, hl⟩ | ⟨-, -, hl⟩
  · rw [hl]
    rfl
  · rw [hl, hbase, stepsOf_append_cons, stepsOf_append_slash]
  · rw [hl, stepsOf_append_cons]

theorem isAbsolute_join (base : String) (h : isAbsolute rest = false) : isAbsolute (join base rest) = isAbsolute base := by
  rcases toList_join base h with ⟨rfl, hl⟩ | ⟨l, hbase, hl⟩ | ⟨hne, -, hl⟩
  · rw [isAbsolute, hl]
    exact h
  · unfold isAbsolute
    rw [hl, hbase]
    cases l <;> rfl
  · unfold isAbsolute
    rw [hl]
    cases hb : base.toList with
    | nil => exact absurd (String.toList_eq_nil_iff.mp hb) hne
    | cons c l => rfl

end Join

end SealedDrop.FileTree

/-! ### Hidden siblings -/

namespace SealedDrop.FileWriter

open FileTree SealedDrop.Path

/-- The hidden name of a temporary file. -/
def hidden (name : String) (random : Bytes) : String :=
  "." ++ name ++ "." ++ Uuid.simple random ++ ".partial"

variable {name directory : String} {random : Bytes}

theorem sibling_eq (directory name : String) (random : Bytes) :
    sibling directory name random = join directory (hidden name random) := rfl

theorem toList_hidden (name : String) (random : Bytes) :
    (hidden name random).toList = '.' :: (name.toList ++ '.' :: ((Uuid.simple random).toList ++ ".partial".toList)) := by
  simp only [hidden, String.toList_append, List.append_assoc]
  rfl

/-- A character of a hidden name other than those of the name is plain. -/
theorem mem_hidden {c : Char} (h : c ∈ (hidden name random).toList) : c ∈ name.toList ∨ KeyName.isLater c = true := by
  have hend : ∀ c ∈ ".partial".toList, KeyName.isLater c = true := List.all_eq_true.mp (by decide)
  rw [toList_hidden, List.mem_cons, List.mem_append, List.mem_cons, List.mem_append] at h
  rcases h with rfl | h | rfl | h | h
  · exact .inr (by decide)
  · exact .inl h
  · exact .inr (by decide)
  · exact .inr (Uuid.isLater_of_mem_simple random c h)
  · exact .inr (hend c h)

theorem not_mem_hidden {c : Char} (h : c ∉ name.toList) (hc : KeyName.isLater c = false) :
    c ∉ (hidden name random).toList := by
  intro hmem
  rcases mem_hidden hmem with hname | hlater
  · exact h hname
  · rw [hc] at hlater
    cases hlater

theorem isAbsolute_hidden (name : String) (random : Bytes) : isAbsolute (hidden name random) = false := by
  rw [isAbsolute, toList_hidden]
  rfl

/-- A hidden name is 42 bytes longer than the name. -/
theorem utf8ByteSize_hidden (h : random.length = 16) : (hidden name random).utf8ByteSize = name.utf8ByteSize + 42 := by
  have hdot : ".".utf8ByteSize = 1 := rfl
  have hend : ".partial".utf8ByteSize = 8 := rfl
  unfold hidden
  simp only [String.utf8ByteSize_append, Uuid.utf8ByteSize_simple h, hdot, hend]
  omega

/-- Hidden names of different names differ. -/
theorem hidden_inj {name' : String} {random' : Bytes} (hlength : random.length = 16) (hlength' : random'.length = 16)
    (h : hidden name random = hidden name' random') : name = name' := by
  have hlist := congrArg String.toList h
  have hdigits : ∀ b : Bytes, b.length = 16 → (Uuid.simple b).toList.length = 32 := fun b hb => by
    rw [Uuid.simple, Bytes.length_toHex, Uuid.length_stamp, hb]
  rw [toList_hidden, toList_hidden, List.cons.injEq] at hlist
  obtain ⟨hname, -⟩ := List.append_inj' hlist.2 (by simp [hdigits random hlength, hdigits random' hlength'])
  exact String.toList_injective hname

/-- A hidden name is one step. -/
theorem innerSteps_hidden (h : '/' ∉ name.toList) (random : Bytes) :
    innerSteps (hidden name random) = [.name (hidden name random)] := by
  refine innerSteps_of_no_slash (not_mem_hidden h (by decide)) ?_
  rw [toList_hidden, List.length_cons, List.length_append, List.length_cons, List.length_append]
  have hend : ".partial".toList.length = 8 := rfl
  omega

/-- The name in a path has a character, and none of its characters is a slash. -/
theorem name_of_split? {path : String} (h : split? path = some (directory, name)) :
    '/' ∉ name.toList ∧ 0 < name.utf8ByteSize := by
  unfold split? at h
  simp only at h
  split at h
  · cases h
  · next hname =>
    rw [not_or] at hname
    rw [Option.some.injEq, Prod.mk.injEq] at h
    obtain ⟨-, rfl⟩ := h
    constructor
    · rw [String.toList_ofList, List.mem_reverse]
      intro hmem
      simpa using List.mem_takeWhile_imp hmem
    · rw [Nat.pos_iff_ne_zero, ne_eq, String.utf8ByteSize_eq_zero_iff, String.ofList_eq_empty_iff]
      exact hname.1

/-- Where all names are short, no entry has a long one. -/
theorem node?_eq_none_of_forall_short {t : FileTree} {n : Nat} (h : ∀ e ∈ t.entries, ∀ s ∈ e.1.head?, s.utf8ByteSize ≤ n)
    (place : Route) (hname : n < name.utf8ByteSize) : t.node? (name :: place) = none := by
  rw [node?, if_neg (List.cons_ne_nil _ _), List.lookup_eq_none_iff]
  rintro ⟨r, node⟩ hmem
  rw [bne_iff_ne]
  rintro rfl
  exact absurd (h _ hmem name rfl) (Nat.not_le.mpr hname)

/-- So none is that of a temporary file. -/
theorem unused_of_forall_short {m : Machine} (h : ∀ e ∈ m.tree.entries, ∀ s ∈ e.1.head?, s.utf8ByteSize ≤ 42)
    (destination : String) : Unused m destination := by
  intro directory name hsplit ⟨r, n⟩ hx
  obtain ⟨hslash, hpos⟩ := name_of_split? hsplit
  obtain ⟨⟨place, s, hparent, -, rfl⟩, hn⟩ := entry_eq_ok_iff.mp hx
  obtain ⟨-, -, -, hlast⟩ := parent_eq_ok_iff.mp hparent
  rw [sibling_eq, innerSteps_join _ (isAbsolute_hidden _ _), innerSteps_hidden hslash, List.getLast?_concat] at hlast
  cases hlast
  have hsize : (hidden name (m.entropy.peek 16)).utf8ByteSize = name.utf8ByteSize + 42 :=
    utf8ByteSize_hidden (m.entropy.length_peek 16)
  rw [node?_eq_none_of_forall_short h place (by omega)] at hn
  cases hn

theorem endsInSlash_sibling (directory name : String) (random : Bytes) :
    endsInSlash (sibling directory name random) = false := by
  have hlast : ∀ l, (l ++ (hidden name random).toList).getLast? = some 'l' := by
    intro l
    have hend : ".partial".toList = ".partia".toList ++ ['l'] := rfl
    rw [toList_hidden, hend]
    simp only [← List.append_assoc, ← List.cons_append, List.getLast?_concat]
  unfold endsInSlash
  rcases toList_join directory (isAbsolute_hidden name random) with ⟨-, hl⟩ | ⟨l, -, hl⟩ | ⟨-, -, hl⟩
  · rw [sibling_eq, hl, ← List.nil_append (hidden name random).toList, hlast]
    rfl
  · rw [sibling_eq, hl, List.append_cons, hlast]
    rfl
  · rw [sibling_eq, hl, List.append_cons, hlast]
    rfl

section Parent

variable {path s : String} {rest : List Char}

/-- A sibling is at most 42 bytes longer than the path. -/
theorem utf8ByteSize_sibling_le (hpath : path.toList = rest.reverse ++ name.toList)
    (hrest : rest = [] ∨ ∃ r, rest = '/' :: r) (h : random.length = 16) :
    (sibling (String.ofList (dropTail rest).reverse) name random).utf8ByteSize ≤ path.utf8ByteSize + 42 := by
  obtain ⟨t, ht⟩ := dropTail_suffix rest
  have hsize : path.utf8ByteSize = String.utf8Len t + String.utf8Len (dropTail rest) + name.utf8ByteSize := by
    rw [← String.utf8Len_toList, hpath, String.utf8Len_append, String.utf8Len_reverse, String.utf8Len_toList]
    conv_lhs => rw [← ht]
    rw [String.utf8Len_append]
  have hhidden : String.utf8Len (hidden name random).toList = name.utf8ByteSize + 42 := by
    rw [String.utf8Len_toList, utf8ByteSize_hidden h]
  have hslash : ('/').utf8Size = 1 := rfl
  rw [sibling_eq, ← String.utf8Len_toList]
  rcases toList_join (String.ofList (dropTail rest).reverse) (isAbsolute_hidden name random) with
    ⟨-, hl⟩ | ⟨l, hbase, hl⟩ | ⟨hne, hlast, hl⟩
  · rw [hl, hhidden, hsize]
    omega
  · have hl' : String.utf8Len (dropTail rest) = String.utf8Len l + 1 := by
      rw [← String.utf8Len_reverse, ← String.toList_ofList (l := (dropTail rest).reverse), hbase, String.utf8Len_append,
        String.utf8Len_cons, String.utf8Len_nil, hslash]
    rw [hl, String.utf8Len_append, String.utf8Len_cons, hhidden, hsize, hslash, hl']
    omega
  · -- the slash that is put in stands for one that was removed
    rw [String.toList_ofList, List.getLast?_reverse] at hlast
    have ht : t ≠ [] := by
      rintro rfl
      rw [List.nil_append] at ht
      rcases hrest with rfl | ⟨r, rfl⟩
      · exact hne rfl
      · rw [ht] at hlast
        exact hlast rfl
    have hpos : String.utf8Len t ≠ 0 := by rwa [ne_eq, String.utf8Len_eq_zero]
    rw [hl, String.toList_ofList, String.utf8Len_append, String.utf8Len_cons, String.utf8Len_reverse, hhidden, hsize, hslash]
    omega

/-- A sibling starts where the path starts. -/
theorem start_sibling (workDir : Route) (hpath : path.toList = rest.reverse ++ name.toList)
    (hrest : rest = [] ∨ ∃ r, rest = '/' :: r) (hname : '/' ∉ name.toList) (random : Bytes) :
    start workDir (sibling (String.ofList (dropTail rest).reverse) name random) = start workDir path := by
  have habsolute : isAbsolute (String.ofList (dropTail rest).reverse) = isAbsolute path := by
    unfold isAbsolute
    rw [String.toList_ofList, List.head?_reverse, getLast?_dropTail, hpath]
    rcases hrest with rfl | ⟨r, rfl⟩
    · cases hlist : name.toList with
      | nil => rfl
      | cons c l =>
        have hne : c ≠ '/' := by
          rintro rfl
          rw [hlist] at hname
          exact hname List.mem_cons_self
        simp [hne]
    · rw [List.head?_append, List.head?_reverse]
      cases hlast : ('/' :: r).getLast? with
      | none => simp at hlast
      | some c => rfl
  unfold start
  rw [sibling_eq, isAbsolute_join _ (isAbsolute_hidden name random), habsolute]

/-- The characters of a sibling are those of the path, slashes and plain ones. -/
theorem not_mem_sibling {c : Char} (hpath : path.toList = rest.reverse ++ name.toList) (h : c ∉ path.toList)
    (hc : KeyName.isLater c = false) (hslash : c ≠ '/') :
    c ∉ (sibling (String.ofList (dropTail rest).reverse) name random).toList := by
  have hname : c ∉ name.toList := fun hmem => h (by rw [hpath]; exact List.mem_append_right _ hmem)
  have hdirectory : c ∉ (String.ofList (dropTail rest).reverse).toList := by
    intro hmem
    rw [String.toList_ofList, List.mem_reverse] at hmem
    refine h ?_
    rw [hpath, List.mem_append, List.mem_reverse]
    exact .inl ((dropTail_suffix rest).subset hmem)
  have hhidden : c ∉ (hidden name random).toList := not_mem_hidden hname hc
  intro hmem
  rw [sibling_eq] at hmem
  rcases toList_join (String.ofList (dropTail rest).reverse) (isAbsolute_hidden name random) with
    ⟨-, hl⟩ | ⟨l, hbase, hl⟩ | ⟨-, -, hl⟩
  · rw [hl] at hmem
    exact hhidden hmem
  · rw [hl, List.append_cons, ← hbase, List.mem_append] at hmem
    exact hmem.elim hdirectory hhidden
  · rw [hl, List.mem_append, List.mem_cons] at hmem
    rcases hmem with hmem | rfl | hmem
    · exact hdirectory hmem
    · exact hslash rfl
    · exact hhidden hmem

/-- **A sibling lies beside its file**: where a path leads to a name in a directory, the path of the hidden sibling leads to
the hidden name in that directory, unless it is too long. -/
theorem parent_sibling {t : FileTree} {workDir place : Route} (hp : t.parent workDir path = .ok (place, some (.name s)))
    (hslash : endsInSlash path = false) (hrandom : random.length = 16) :
    ∃ directory, split? path = some (directory, s) ∧
      (sibling directory s random).utf8ByteSize ≤ path.utf8ByteSize + 42 ∧
      t.parent workDir (sibling directory s random) =
        if pathLimit ≤ (sibling directory s random).utf8ByteSize then .error .nameTooLong
        else .ok (place, some (.name (hidden s random))) := by
  obtain ⟨hcheck, hwalk, hplace, hlast⟩ := parent_eq_ok_iff.mp hp
  obtain ⟨rest, hpath, hrest, hname, hsteps, hsplit⟩ := exists_split hlast hslash
  refine ⟨_, hsplit, utf8ByteSize_sibling_le hpath hrest hrandom, ?_⟩
  have hinner : innerSteps (sibling (String.ofList (dropTail rest).reverse) s random) =
      stepsOf (dropTail rest).reverse ++ [.name (hidden s random)] := by
    rw [sibling_eq, innerSteps_join _ (isAbsolute_hidden s random), innerSteps_hidden hname, innerSteps_eq,
      String.toList_ofList]
  have hchecked : checkPath (sibling (String.ofList (dropTail rest).reverse) s random) =
      if pathLimit ≤ (sibling (String.ofList (dropTail rest).reverse) s random).utf8ByteSize then .error .nameTooLong
      else .ok () := by
    have hnul : '\x00' ∉ path.toList := by
      intro hmem
      rw [checkPath, if_pos (by simpa using hmem)] at hcheck
      cases hcheck
    have hnul' : '\x00' ∉ (sibling (String.ofList (dropTail rest).reverse) s random).toList :=
      not_mem_sibling hpath hnul (by decide) (by decide)
    have hne : sibling (String.ofList (dropTail rest).reverse) s random ≠ "" := by
      intro hempty
      rw [hempty, innerSteps_eq] at hinner
      exact List.append_ne_nil_of_right_ne_nil _ (List.cons_ne_nil _ _) hinner.symm
    rw [checkPath, if_neg (by simpa using hnul'), if_neg hne]
  by_cases hlong : pathLimit ≤ (sibling (String.ofList (dropTail rest).reverse) s random).utf8ByteSize
  · rw [if_pos hlong] at hchecked ⊢
    rw [parent, hchecked]
    rfl
  · rw [if_neg hlong] at hchecked ⊢
    refine parent_eq_ok_iff.mpr ⟨hchecked, ?_, hplace, ?_⟩
    · obtain ⟨k, hk⟩ := exists_stepsOf_dropTail rest
      rw [hsteps, hk] at hwalk
      rw [start_sibling workDir hpath hrest hname, hinner, List.dropLast_concat]
      exact walk_of_walk_replicate k hwalk
    · rw [hinner, List.getLast?_concat]

/-- Where a path takes a file, the path of the hidden sibling names the route of the hidden name, unless one of them is too
long. -/
theorem names_sibling {t : FileTree} {workDir place : Route} (htakes : t.Takes workDir path (s :: place))
    (hname : s.utf8ByteSize + 42 ≤ nameLimit) (hsize : path.utf8ByteSize + 42 < pathLimit) (hrandom : random.length = 16) :
    ∃ directory, split? path = some (directory, s) ∧
      t.Names workDir (sibling directory s random) (hidden s random :: place) := by
  obtain ⟨⟨place', s', hp, -, heq⟩, hplain, -⟩ := htakes
  obtain ⟨rfl, rfl⟩ := List.cons.inj heq
  obtain ⟨directory, hsplit, hle, hparent⟩ := parent_sibling hp hplain hrandom
  rw [if_neg (by omega)] at hparent
  exact ⟨directory, hsplit, place, _, hparent, by rwa [utf8ByteSize_hidden hrandom], rfl⟩

/-- The temporary file can be created where the destination takes a file, if nothing has its name. The file system refuses it just
if its name or its path is too long. -/
theorem newRoute_sibling {t : FileTree} {workDir place : Route} (htakes : t.Takes workDir path (s :: place))
    (hrandom : random.length = 16) :
    ∃ directory, split? path = some (directory, s) ∧
      (sibling directory s random).utf8ByteSize ≤ path.utf8ByteSize + 42 ∧
      ((∀ x, t.entry workDir (sibling directory s random) ≠ .ok x) →
        t.newRoute workDir (sibling directory s random) =
          if s.utf8ByteSize + 42 ≤ nameLimit ∧ (sibling directory s random).utf8ByteSize < pathLimit
          then .ok (hidden s random :: place) else .error .nameTooLong) := by
  obtain ⟨⟨place', s', hp, -, heq⟩, hplain, -⟩ := htakes
  obtain ⟨rfl, rfl⟩ := List.cons.inj heq
  obtain ⟨directory, hsplit, hle, hparent⟩ := parent_sibling hp hplain hrandom
  refine ⟨directory, hsplit, hle, fun hunused => ?_⟩
  have hhidden : (hidden s random).utf8ByteSize = s.utf8ByteSize + 42 := utf8ByteSize_hidden hrandom
  split
  · next hfits =>
    rw [if_neg (Nat.not_le.mpr hfits.2)] at hparent
    have hnames : t.Names workDir (sibling directory s random) (hidden s random :: place) :=
      ⟨place, _, hparent, by rw [hhidden]; exact hfits.1, rfl⟩
    refine newRoute_eq_ok_iff.mpr ⟨hnames, endsInSlash_sibling _ _ _, ?_⟩
    cases hn : t.node? (hidden s random :: place) with
    | none => rfl
    | some n => exact absurd (entry_eq_ok_iff.mpr ⟨hnames, hn⟩) (hunused _)
  · next hlong =>
    rw [newRoute, hparent]
    split
    · rfl
    · have hname : nameLimit < (hidden s random).utf8ByteSize := by omega
      simp only [bind, Except.bind, endsInSlash_sibling, hname, Bool.false_eq_true, if_true, if_false]
      rfl

end Parent

end SealedDrop.FileWriter
