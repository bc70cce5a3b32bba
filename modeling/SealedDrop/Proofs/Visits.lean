import SealedDrop.Proofs.FileTree

/-!
# What a path leads through

Looking up a path depends on a few entries only, and so a change to any other entry does not matter to it.

## The model

`visits` lists the routes that a walk looks at, in order: the places it comes through, the entries it looks for there, and the
place where it ends. What is in a file there does not matter: trees that resemble each other on these routes lead the walk to the
same place (`walk_of_resembles`). A walk that ends at an entry has looked at no route without one (`node?_ne_none_of_mem_visits`),
so that an entry which is new in its place is not among those that an earlier walk has looked at.
-/

namespace SealedDrop

/-! ### Shapes -/

/-- The node without the bytes in it. -/
def Node.shape : Node → Node
  | .file mode _ => .file mode []
  | .stream isRegular _ => .stream isRegular []
  | n => n

section Shape

variable {o o' : Option Node} {n : Node} {target : String}

theorem Node.shape_eq_directory_iff : n.shape = .directory ↔ n = .directory := by
  cases n <;> simp [shape]

theorem Node.shape_eq_link_iff : n.shape = .link target ↔ n = .link target := by
  cases n <;> simp [shape]

theorem eq_none_of_shape (h : o'.map Node.shape = o.map Node.shape) (ho : o = none) : o' = none := by
  rwa [ho, Option.map_none, Option.map_eq_none_iff] at h

theorem exists_of_shape (h : o'.map Node.shape = o.map Node.shape) (ho : o = some n) : ∃ n', o' = some n' ∧ n'.shape = n.shape := by
  rw [ho, Option.map_some] at h
  exact Option.map_eq_some_iff.mp h

theorem eq_directory_of_shape (h : o'.map Node.shape = o.map Node.shape) (ho : o = some .directory) : o' = some .directory := by
  obtain ⟨n, rfl, hn⟩ := exists_of_shape h ho
  rw [Node.shape_eq_directory_iff.mp hn]

theorem eq_link_of_shape (h : o'.map Node.shape = o.map Node.shape) (ho : o = some (.link target)) : o' = some (.link target) := by
  obtain ⟨n, rfl, hn⟩ := exists_of_shape h ho
  rw [Node.shape_eq_link_iff.mp hn]

end Shape

namespace FileTree

variable {t t' : FileTree} {r q place workDir : Route} {path : String} {links : Nat} {l : List Step} {n : Node}

/-! ### Walks -/

/-- The routes that a walk looks at. -/
def visits (t : FileTree) (links : Nat) (place : Route) (l : List Step) : List Route :=
  place ::
    match l with
    | [] => []
    | step :: rest =>
      match t.node? place with
      | some .directory =>
        match step with
        | .here => visits t links place rest
        | .up => visits t links (place.drop 1) rest
        | .name s =>
          if nameLimit < s.utf8ByteSize then []
          else
            (s :: place) ::
              match t.node? (s :: place) with
              | none => []
              | some (.link target) =>
                match links with
                | 0 => []
                | links + 1 => visits t links (start place target) (steps target ++ rest)
              | some _ => visits t links (s :: place) rest
      | _ => []
termination_by (links, l.length)

/-- Trees agree on routes if they have the same entries there. -/
def Agree (t t' : FileTree) (routes : List Route) : Prop :=
  ∀ r ∈ routes, t'.node? r = t.node? r

/-- Trees resemble each other on routes if what they have there has the same shape. -/
def Resembles (t t' : FileTree) (routes : List Route) : Prop :=
  ∀ r ∈ routes, (t'.node? r).map Node.shape = (t.node? r).map Node.shape

theorem Agree.resembles {routes : List Route} (h : Agree t t' routes) : Resembles t t' routes :=
  fun r hr => congrArg (Option.map Node.shape) (h r hr)

theorem Resembles.of_subset {routes routes' : List Route} (h : Resembles t t' routes) (hsub : ∀ r ∈ routes', r ∈ routes) :
    Resembles t t' routes' :=
  fun r hr => h r (hsub r hr)

/-- There is nothing to look at beyond what is no directory. -/
theorem visits_of_not_directory (h : t.node? place ≠ some .directory) (links : Nat) (l : List Step) :
    t.visits links place l = [place] := by
  rw [visits.eq_def]
  cases l with
  | nil => rfl
  | cons step rest =>
    dsimp only
    split
    · next hplace => exact absurd hplace h
    · rfl

/-- An entry that is no link is looked at and gone into. -/
theorem visits_of_entry {s : String} {rest : List Step} (hplace : t.node? place = some .directory)
    (hs : ¬ nameLimit < s.utf8ByteSize) (hnode : t.node? (s :: place) = some n) (hn : ∀ target, n ≠ .link target) :
    t.visits links place (.name s :: rest) = place :: (s :: place) :: t.visits links (s :: place) rest := by
  rw [visits, hplace]
  cases n with
  | link target => exact absurd rfl (hn target)
  | directory => simp only [if_neg hs, hnode]
  | file mode data => simp only [if_neg hs, hnode]
  | stream isRegular data => simp only [if_neg hs, hnode]

theorem walk_of_entry {s : String} {rest : List Step} (hplace : t.node? place = some .directory)
    (hs : ¬ nameLimit < s.utf8ByteSize) (hnode : t.node? (s :: place) = some n) (hn : ∀ target, n ≠ .link target) :
    t.walk links place (.name s :: rest) = t.walk links (s :: place) rest := by
  rw [walk, hplace]
  cases n with
  | link target => exact absurd rfl (hn target)
  | directory => simp only [if_neg hs, hnode]
  | file mode data => simp only [if_neg hs, hnode]
  | stream isRegular data => simp only [if_neg hs, hnode]

/-- A walk looks at its first place. -/
theorem mem_visits_self (t : FileTree) (links : Nat) (place : Route) (l : List Step) : place ∈ t.visits links place l := by
  rw [visits.eq_def]
  exact List.mem_cons_self

/-- A walk goes the same way where the tree looks the same. -/
theorem walk_of_resembles (h : Resembles t t' (t.visits links place l)) : t'.walk links place l = t.walk links place l := by
  have hplace' := h place (mem_visits_self t links place l)
  fun_induction walk t links place l with
  | case1 links place => rw [walk]
  | case2 links place step rest hplace =>
    rw [walk.eq_def]
    simp only [eq_none_of_shape hplace' hplace]
  | case3 links place rest hplace ih =>
    rw [visits, hplace] at h
    rw [walk, eq_directory_of_shape hplace' hplace]
    exact ih (h.of_subset fun _ => List.mem_cons_of_mem _) hplace'
  | case4 links place rest hplace ih =>
    rw [visits, hplace] at h
    have hrest : Resembles t t' (t.visits links (place.drop 1) rest) := h.of_subset fun _ => List.mem_cons_of_mem _
    rw [walk, eq_directory_of_shape hplace' hplace]
    exact ih hrest (hrest _ (mem_visits_self ..))
  | case5 links place rest hplace s hs =>
    rw [walk, eq_directory_of_shape hplace' hplace]
    simp only [if_pos hs]
  | case6 links place rest hplace s hs hnone =>
    rw [visits, hplace] at h
    simp only [if_neg hs, hnone] at h
    have hentry := eq_none_of_shape (h _ (List.mem_cons_of_mem _ List.mem_cons_self)) hnone
    rw [walk, eq_directory_of_shape hplace' hplace]
    simp only [if_neg hs, hentry]
  | case7 place rest hplace s hs target hlink =>
    rw [visits, hplace] at h
    simp only [if_neg hs, hlink] at h
    have hentry := eq_link_of_shape (h _ (List.mem_cons_of_mem _ List.mem_cons_self)) hlink
    rw [walk, eq_directory_of_shape hplace' hplace]
    simp only [if_neg hs, hentry]
  | case8 place rest hplace s hs target hlink links ih =>
    rw [visits, hplace] at h
    simp only [if_neg hs, hlink] at h
    have hentry := eq_link_of_shape (h _ (List.mem_cons_of_mem _ List.mem_cons_self)) hlink
    have hrest : Resembles t t' (t.visits links (start place target) (steps target ++ rest)) :=
      h.of_subset fun _ hr => List.mem_cons_of_mem _ (List.mem_cons_of_mem _ hr)
    rw [walk, eq_directory_of_shape hplace' hplace]
    simp only [if_neg hs, hentry]
    exact ih hrest (hrest _ (mem_visits_self ..))
  | case9 links place rest hplace s hs n hn hnode ih =>
    rw [visits_of_entry hplace hs hnode hn] at h
    have hentry := h _ (List.mem_cons_of_mem _ List.mem_cons_self)
    obtain ⟨n', hn', hshape⟩ := exists_of_shape hentry hnode
    have hlink : ∀ target, n' ≠ .link target := by
      rintro target rfl
      exact hn target (Node.shape_eq_link_iff.mp hshape.symm)
    rw [walk_of_entry (eq_directory_of_shape hplace' hplace) hs hn' hlink]
    exact ih (h.of_subset fun _ hr => List.mem_cons_of_mem _ (List.mem_cons_of_mem _ hr)) hentry
  | case10 links place step rest n hn hnode =>
    obtain ⟨n', hn', hshape⟩ := exists_of_shape hplace' hnode
    refine walk_of_not_directory hn' (fun hd => hn ?_) links step rest
    rwa [← Node.shape_eq_directory_iff, ← hshape, Node.shape_eq_directory_iff]

/-- So it does where the tree is the same. -/
theorem walk_of_agree (h : Agree t t' (t.visits links place l)) : t'.walk links place l = t.walk links place l :=
  walk_of_resembles h.resembles

/-- A walk that ends at an entry has looked at entries only. -/
theorem node?_ne_none_of_mem_visits (h : t.walk links place l = .ok q) (hq : t.node? q ≠ none) :
    ∀ r ∈ t.visits links place l, t.node? r ≠ none := by
  fun_induction walk t links place l with
  | case1 links place =>
    cases h
    rw [visits]
    simpa using hq
  | case2 => cases h
  | case3 links place rest hplace ih =>
    rw [visits, hplace]
    exact List.forall_mem_cons.mpr ⟨by rw [hplace]; exact Option.some_ne_none _, ih h⟩
  | case4 links place rest hplace ih =>
    rw [visits, hplace]
    exact List.forall_mem_cons.mpr ⟨by rw [hplace]; exact Option.some_ne_none _, ih h⟩
  | case5 => cases h
  | case6 => cases h
  | case7 => cases h
  | case8 place rest hplace s hs target hlink links ih =>
    rw [visits, hplace]
    simp only [if_neg hs, hlink]
    exact List.forall_mem_cons.mpr ⟨by rw [hplace]; exact Option.some_ne_none _,
      List.forall_mem_cons.mpr ⟨by rw [hlink]; exact Option.some_ne_none _, ih h⟩⟩
  | case9 links place rest hplace s hs n hn hnode ih =>
    rw [visits_of_entry hplace hs hnode hn]
    exact List.forall_mem_cons.mpr ⟨by rw [hplace]; exact Option.some_ne_none _,
      List.forall_mem_cons.mpr ⟨by rw [hnode]; exact Option.some_ne_none _, ih h⟩⟩
  | case10 => cases h

/-- A walk ends at a route that it has looked at. -/
theorem mem_visits_of_walk (h : t.walk links place l = .ok q) : q ∈ t.visits links place l := by
  fun_induction walk t links place l with
  | case1 links place =>
    cases h
    exact mem_visits_self ..
  | case2 => cases h
  | case3 links place rest hplace ih =>
    rw [visits, hplace]
    exact List.mem_cons_of_mem _ (ih h)
  | case4 links place rest hplace ih =>
    rw [visits, hplace]
    exact List.mem_cons_of_mem _ (ih h)
  | case5 => cases h
  | case6 => cases h
  | case7 => cases h
  | case8 place rest hplace s hs target hlink links ih =>
    rw [visits, hplace]
    simp only [if_neg hs, hlink]
    exact List.mem_cons_of_mem _ (List.mem_cons_of_mem _ (ih h))
  | case9 links place rest hplace s hs n hn hnode ih =>
    rw [visits_of_entry hplace hs hnode hn]
    exact List.mem_cons_of_mem _ (List.mem_cons_of_mem _ (ih h))
  | case10 => cases h

/-- A longer walk looks at more. -/
theorem mem_visits_append (h : r ∈ t.visits links place l) (l' : List Step) : r ∈ t.visits links place (l ++ l') := by
  fun_induction walk t links place l with
  | case1 links place =>
    rw [visits, List.mem_singleton] at h
    exact h ▸ mem_visits_self ..
  | case2 links place step rest hplace =>
    have hdir : t.node? place ≠ some .directory := by simp [hplace]
    rw [visits_of_not_directory hdir] at h ⊢
    exact h
  | case3 links place rest hplace ih
  | case4 links place rest hplace ih =>
    rw [visits, hplace] at h
    rw [List.cons_append, visits, hplace]
    exact (List.mem_cons.mp h).elim (fun h => h ▸ List.mem_cons_self) fun h => List.mem_cons_of_mem _ (ih h)
  | case5 links place rest hplace s hs =>
    rw [visits, hplace] at h
    rw [List.cons_append, visits, hplace]
    simpa only [if_pos hs] using h
  | case6 links place rest hplace s hs hnone =>
    rw [visits, hplace] at h
    rw [List.cons_append, visits, hplace]
    simpa only [if_neg hs, hnone] using h
  | case7 place rest hplace s hs target hlink =>
    rw [visits, hplace] at h
    rw [List.cons_append, visits, hplace]
    simpa only [if_neg hs, hlink] using h
  | case8 place rest hplace s hs target hlink links ih =>
    rw [visits, hplace] at h
    rw [List.cons_append, visits, hplace]
    simp only [if_neg hs, hlink, List.mem_cons, List.append_assoc] at h ih ⊢
    exact h.imp_right (Or.imp_right ih)
  | case9 links place rest hplace s hs n hn hnode ih =>
    rw [visits_of_entry hplace hs hnode hn, List.mem_cons, List.mem_cons] at h
    rw [List.cons_append, visits_of_entry hplace hs hnode hn, List.mem_cons, List.mem_cons]
    exact h.imp_right (Or.imp_right ih)
  | case10 links place step rest n hn hnode =>
    have hdir : t.node? place ≠ some .directory := by simpa [hnode] using hn
    rw [visits_of_not_directory hdir] at h ⊢
    exact h

/-- A walk through a directory looks for the next entry there. -/
theorem mem_visits_of_walk_append {s : String} {rest : List Step} (h : t.walk links place l = .ok q)
    (hq : t.node? q = some .directory) (hs : s.utf8ByteSize ≤ nameLimit) : s :: q ∈ t.visits links place (l ++ .name s :: rest) := by
  fun_induction walk t links place l with
  | case1 links place =>
    cases h
    rw [List.nil_append, visits, hq]
    simp only [if_neg (Nat.not_lt.mpr hs)]
    exact List.mem_cons_of_mem _ List.mem_cons_self
  | case3 links place rest' hplace ih
  | case4 links place rest' hplace ih =>
    rw [List.cons_append, visits, hplace]
    exact List.mem_cons_of_mem _ (ih h)
  | case8 place rest' hplace s' hs' target hlink links ih =>
    rw [List.cons_append, visits, hplace]
    simp only [if_neg hs', hlink]
    rw [← List.append_assoc]
    exact List.mem_cons_of_mem _ (List.mem_cons_of_mem _ (ih h))
  | case9 links place rest' hplace s' hs' n hn hnode ih =>
    rw [List.cons_append, visits_of_entry hplace hs' hnode hn]
    exact List.mem_cons_of_mem _ (List.mem_cons_of_mem _ (ih h))
  | case2 | case5 | case6 | case7 | case10 => cases h

/-- Where a tree has no more ways than another, a walk looks at no more. -/
theorem mem_visits_of_ways (hways : ∀ r n, t'.way? r = some n → t.way? r = some n) (h : r ∈ t'.visits links place l) :
    r ∈ t.visits links place l := by
  have hdir : ∀ {r}, t'.node? r = some .directory → t.node? r = some .directory := fun {r} hr =>
    way?_eq_directory_iff.mp (hways r _ (way?_eq_directory_iff.mpr hr))
  fun_induction walk t' links place l with
  | case1 links place =>
    rw [visits, List.mem_singleton] at h
    exact h ▸ mem_visits_self ..
  | case2 links place step rest hplace =>
    rw [visits_of_not_directory (by simp [hplace]), List.mem_singleton] at h
    exact h ▸ mem_visits_self ..
  | case3 links place rest hplace ih
  | case4 links place rest hplace ih =>
    rw [visits, hplace] at h
    rw [visits, hdir hplace]
    exact (List.mem_cons.mp h).elim (fun h => h ▸ List.mem_cons_self) fun h => List.mem_cons_of_mem _ (ih h)
  | case5 links place rest hplace s hs =>
    rw [visits, hplace] at h
    rw [visits, hdir hplace]
    simpa only [if_pos hs] using h
  | case6 links place rest hplace s hs hnone =>
    rw [visits, hplace] at h
    simp only [if_neg hs, hnone, List.mem_cons, List.not_mem_nil, or_false] at h
    rw [visits, hdir hplace]
    simp only [if_neg hs, List.mem_cons]
    exact h.imp_right .inl
  | case7 place rest hplace s hs target hlink =>
    rw [visits, hplace] at h
    simp only [if_neg hs, hlink, List.mem_cons, List.not_mem_nil, or_false] at h
    rw [visits, hdir hplace]
    simp only [if_neg hs, List.mem_cons]
    exact h.imp_right .inl
  | case8 place rest hplace s hs target hlink links ih =>
    have hlink' : t.node? (s :: place) = some (.link target) := way?_eq_link_iff.mp (hways _ _ (way?_eq_link_iff.mpr hlink))
    rw [visits, hplace] at h
    rw [visits, hdir hplace]
    simp only [if_neg hs, hlink, hlink', List.mem_cons] at h ⊢
    exact h.imp_right (Or.imp_right ih)
  | case9 links place rest hplace s hs n hn hnode ih =>
    rw [visits_of_entry hplace hs hnode hn, List.mem_cons, List.mem_cons] at h
    by_cases hn' : n = .directory
    · subst hn'
      rw [visits_of_entry (hdir hplace) hs (hdir hnode) hn, List.mem_cons, List.mem_cons]
      exact h.imp_right (Or.imp_right ih)
    · -- beyond an entry that is no directory there is nothing to look at
      rw [visits_of_not_directory (by simpa [hnode] using hn'), List.mem_singleton, or_self] at h
      rw [visits, hdir hplace]
      simp only [if_neg hs, List.mem_cons]
      exact h.imp_right .inl
  | case10 links place step rest n hn hnode =>
    rw [visits_of_not_directory (by simpa [hnode] using hn), List.mem_singleton] at h
    exact h ▸ mem_visits_self ..

/-! ### Paths -/

/-- The routes that are looked at to find the entry that a path names. -/
def lookups (t : FileTree) (workDir : Route) (path : String) : List Route :=
  t.visits linkLimit (start workDir path) (steps path)

/-- The routes that are looked at to find the directory that a path leads through last. -/
def approaches (t : FileTree) (workDir : Route) (path : String) : List Route :=
  t.visits linkLimit (start workDir path) (innerSteps path).dropLast

theorem find_of_agree (h : Agree t t' (t.lookups workDir path)) : t'.find workDir path = t.find workDir path := by
  simp only [find, locate, bind, Except.bind]
  cases checkPath path with
  | error e => rfl
  | ok _ =>
    simp only [walk_of_agree h]
    cases hw : t.walk linkLimit (start workDir path) (steps path) with
    | error e => rfl
    | ok r => simp only [h r (mem_visits_of_walk hw)]

/-- What is found by a path has the same shape in a tree that looks the same on the way. -/
theorem find_map_shape (h : Resembles t t' (t.lookups workDir path)) :
    (t'.find workDir path).map Node.shape = (t.find workDir path).map Node.shape := by
  simp only [find, locate, bind, Except.bind]
  cases checkPath path with
  | error e => rfl
  | ok _ =>
    simp only [walk_of_resembles h]
    cases hw : t.walk linkLimit (start workDir path) (steps path) with
    | error e => rfl
    | ok r =>
      have hr := h r (mem_visits_of_walk hw)
      cases hn : t.node? r with
      | none => simp only [hn, eq_none_of_shape hr hn]
      | some n =>
        obtain ⟨n', hn', hshape⟩ := exists_of_shape hr hn
        simp only [hn, hn']
        exact congrArg Except.ok hshape

theorem parent_of_resembles (h : Resembles t t' (t.approaches workDir path)) : t'.parent workDir path = t.parent workDir path := by
  simp only [parent, bind, Except.bind]
  cases checkPath path with
  | error e => rfl
  | ok _ =>
    simp only [walk_of_resembles h]
    cases hw : t.walk linkLimit (start workDir path) (innerSteps path).dropLast with
    | error e => rfl
    | ok r =>
      have hr := h r (mem_visits_of_walk hw)
      by_cases hdir : t.node? r = some .directory
      · simp only [hdir, eq_directory_of_shape hr hdir]
      · have hdir' : t'.node? r ≠ some .directory := fun h' => hdir (eq_directory_of_shape hr.symm h')
        dsimp only
        split
        · contradiction
        · rfl

theorem parent_of_agree (h : Agree t t' (t.approaches workDir path)) : t'.parent workDir path = t.parent workDir path :=
  parent_of_resembles h.resembles

/-- The way to the directory of an entry is a part of the way to the entry. -/
theorem mem_lookups_of_mem_approaches (h : r ∈ t.approaches workDir path) : r ∈ t.lookups workDir path := by
  obtain ⟨l, hl⟩ := List.dropLast_prefix (innerSteps path)
  rw [lookups, steps, ← hl, List.append_assoc]
  exact mem_visits_append h _

/-- So is the entry itself. -/
theorem Names.mem_lookups (h : t.Names workDir path r) : r ∈ t.lookups workDir path := by
  obtain ⟨place, s, hp, hs, rfl⟩ := h
  obtain ⟨-, hwalk, hplace, hlast⟩ := parent_eq_ok_iff.mp hp
  have hl : innerSteps path = (innerSteps path).dropLast ++ [.name s] := (List.dropLast_append_getLast? _ hlast).symm
  rw [lookups, steps, hl, List.append_assoc]
  exact mem_visits_of_walk_append hwalk hplace hs

/-- An entry that is found is reached through entries. -/
theorem node?_ne_none_of_mem_lookups (h : t.find workDir path = .ok n) :
    ∀ r ∈ t.lookups workDir path, t.node? r ≠ none := by
  simp only [find, locate, bind, Except.bind] at h
  cases hc : checkPath path with
  | error e => simp [hc] at h
  | ok _ =>
    cases hw : t.walk linkLimit (start workDir path) (steps path) with
    | error e => simp [hc, hw] at h
    | ok q =>
      simp only [hc, hw] at h
      refine node?_ne_none_of_mem_visits hw fun hnone => ?_
      rw [hnone] at h
      cases h

/-- So is the directory of a path. -/
theorem node?_ne_none_of_mem_approaches {x : Route × Option Step} (h : t.parent workDir path = .ok x) :
    ∀ r ∈ t.approaches workDir path, t.node? r ≠ none := by
  obtain ⟨place, last⟩ := x
  obtain ⟨-, hwalk, hplace, -⟩ := parent_eq_ok_iff.mp h
  exact node?_ne_none_of_mem_visits hwalk (by rw [hplace]; exact Option.some_ne_none _)

theorem Names.of_agree (h : Agree t t' (t.approaches workDir path)) (hr : t.Names workDir path r) :
    t'.Names workDir path r := by
  obtain ⟨place, s, hp, hs, rfl⟩ := hr
  exact ⟨place, s, (parent_of_agree h).trans hp, hs, rfl⟩

theorem Takes.of_agree (h : Agree t t' (t.approaches workDir path)) (hnode : t'.node? r = t.node? r)
    (hr : t.Takes workDir path r) : t'.Takes workDir path r :=
  ⟨hr.names.of_agree h, hr.plain, by rw [hnode]; exact hr.free⟩

end FileTree

end SealedDrop
