import SealedDrop.Proofs.Concurrency.Confinement
import SealedDrop.Proofs.KeyGeneration

/-!
# What is not read makes no difference

A session that opens no file for reading cannot tell what is in the files of its machine, nor what else is there beside its paths. It
runs in the same way on every machine that looks the same along these paths.

## The model

* `FileTree.Alike` says of two trees that they resemble each other on all routes that are looked at for some paths: what is there has
  the same shape, whatever is in it. `Machine.Alike` says so of two machines which are the same in all other ways.
* An effect is `BlindAt` paths if it reads nothing and moves nothing, and looks for nothing else than the entries at these paths. A
  session is if all its effects are, whatever it is answered.

## What is proved

* `Machine.Alike.answer` — one effect: on machines that are alike it has the same answer, and leaves machines that are alike.
* `Session.BlindAt.run_eq` — by induction on the session, its whole run is the same.
* `KeyGeneration.runsAlike_run` — generating keys looks along its two paths only.
-/

namespace SealedDrop

variable {α β σ : Type}

/-! ### Trees -/

namespace FileTree

variable {t t' : FileTree} {workDir r : Route} {routes : List Route} {path : String} {n : Node}

namespace Resembles

theorem put (h : Resembles t t' routes) (r : Route) (n : Node) : Resembles (t.put r n) (t'.put r n) routes := by
  intro q hq
  by_cases hroot : q = []
  · subst hroot
    rfl
  by_cases hqr : q = r
  · subst hqr
    rw [node?_put_self t n hroot, node?_put_self t' n hroot]
  · rw [node?_put_of_ne t n hqr, node?_put_of_ne t' n hqr, h q hq]

theorem erase (h : Resembles t t' routes) (r : Route) : Resembles (t.erase r) (t'.erase r) routes := by
  intro q hq
  by_cases hqr : q = r
  · subst hqr
    rw [node?, node?, lookup_erase_self, lookup_erase_self]
  · rw [node?_erase_of_ne t hqr, node?_erase_of_ne t' hqr, h q hq]

end Resembles

/-- Adding to a file does not change the shape of anything. -/
theorem shape_append (t : FileTree) (r q : Route) (b : Bytes) :
    ((t.append r b).node? q).map Node.shape = (t.node? q).map Node.shape := by
  by_cases hroot : q = []
  · subst hroot
    rfl
  by_cases hqr : q = r
  · subst hqr
    unfold append
    split
    · next hn =>
      rw [node?_put_self t _ hroot, hn]
      rfl
    · rfl
  · rw [node?_append_of_ne t hqr]

theorem Resembles.append (h : Resembles t t' routes) (r : Route) (b b' : Bytes) :
    Resembles (t.append r b) (t'.append r b') routes := by
  intro q hq
  rw [shape_append, shape_append, h q hq]

theorem way?_append (t : FileTree) (r q : Route) (b : Bytes) : (t.append r b).way? q = t.way? q := by
  have hshape := shape_append t r q b
  unfold way?
  cases hn : t.node? q with
  | none => rw [eq_none_of_shape hshape hn]
  | some n =>
    obtain ⟨n', hn', hsame⟩ := exists_of_shape hshape hn
    rw [hn']
    cases n <;> cases n' <;> simp_all [Node.shape]

/-- Removing an entry opens no way. -/
theorem way?_of_erase {q : Route} (h : (t.erase r).way? q = some n) : t.way? q = some n := by
  unfold way? at h ⊢
  by_cases hqr : q = r
  · subst hqr
    by_cases hroot : q = []
    · subst hroot
      exact h
    · rw [node?, if_neg hroot, lookup_erase_self] at h
      cases h
  · rwa [node?_erase_of_ne t hqr] at h

/-! Operations by path. -/

theorem names_of_resembles (h : Resembles t t' (t.lookups workDir path)) : t'.Names workDir path r ↔ t.Names workDir path r := by
  unfold Names
  rw [parent_of_resembles (h.of_subset fun _ => mem_lookups_of_mem_approaches)]

/-- Room for a new entry is in the one tree where it is in the other, or there is none for the same reason. -/
theorem newRoute_of_resembles (h : Resembles t t' (t.lookups workDir path)) : t'.newRoute workDir path = t.newRoute workDir path := by
  have hparent := parent_of_resembles (h.of_subset fun _ => mem_lookups_of_mem_approaches)
  unfold newRoute
  rw [hparent]
  rcases hp : t.parent workDir path with e | ⟨place, _ | ⟨s⟩ | _ | _⟩
  · rfl
  · rfl
  · by_cases hlong : nameLimit < s.utf8ByteSize
    · simp only [bind, Except.bind, if_pos hlong]
      split <;> rfl
    have hentry := h _ (Names.mem_lookups ⟨place, s, hp, Nat.not_lt.mp hlong, rfl⟩)
    have hsome : (t'.node? (s :: place)).isSome = (t.node? (s :: place)).isSome := by
      rw [← Option.isSome_map (f := Node.shape), hentry, Option.isSome_map]
    simp only [bind, Except.bind, hsome]
  · rfl
  · rfl

theorem remove_eq_ok_iff :
    t.remove workDir path = .ok t' ↔
      ∃ r n, t.Names workDir path r ∧ t.node? r = some n ∧ n ≠ .directory ∧ endsInSlash path = false ∧ t' = t.erase r := by
  constructor
  · intro h
    unfold remove at h
    cases he : t.entry workDir path with
    | error e =>
      rw [he] at h
      cases h
    | ok x =>
      obtain ⟨r, n⟩ := x
      obtain ⟨hnames, hn⟩ := entry_eq_ok_iff.mp he
      simp only [he, bind, Except.bind] at h
      split at h
      · cases h
      · next hdir =>
        split at h
        · cases h
        · next hslash =>
          cases h
          exact ⟨r, n, hnames, hn, hdir, by simpa using hslash, rfl⟩
  · rintro ⟨r, n, hnames, hn, hdir, hslash, rfl⟩
    exact remove_of_names hnames hn hdir hslash

/-- The same entry is removed from both trees, or none. -/
theorem remove_of_resembles (h : Resembles t t' (t.lookups workDir path)) :
    (∃ r, t.remove workDir path = .ok (t.erase r) ∧ t'.remove workDir path = .ok (t'.erase r)) ∨
      ∃ e e', t.remove workDir path = .error e ∧ t'.remove workDir path = .error e' := by
  cases hremove : t.remove workDir path with
  | ok t₁ =>
    obtain ⟨r, n, hnames, hn, hdir, hslash, rfl⟩ := remove_eq_ok_iff.mp hremove
    obtain ⟨n', hn', hshape⟩ := exists_of_shape (h r hnames.mem_lookups) hn
    have hdir' : n' ≠ .directory := by
      rwa [ne_eq, ← Node.shape_eq_directory_iff, hshape, Node.shape_eq_directory_iff]
    exact .inl ⟨r, rfl, remove_eq_ok_iff.mpr ⟨r, n', (names_of_resembles h).mpr hnames, hn', hdir', hslash, rfl⟩⟩
  | error e =>
    cases hremove' : t'.remove workDir path with
    | error e' => exact .inr ⟨e, e', rfl, rfl⟩
    | ok t₁' =>
      obtain ⟨r, n', hnames', hn', hdir', hslash, -⟩ := remove_eq_ok_iff.mp hremove'
      have hnames := (names_of_resembles h).mp hnames'
      obtain ⟨n, hn, hshape⟩ := exists_of_shape (h r hnames.mem_lookups).symm hn'
      have hdir : n ≠ .directory := by
        rwa [ne_eq, ← Node.shape_eq_directory_iff, hshape, Node.shape_eq_directory_iff]
      rw [remove_eq_ok_iff.mpr ⟨r, n, hnames, hn, hdir, hslash, rfl⟩] at hremove
      cases hremove

/-- The trees resemble each other on all routes that are looked at for one of the paths. -/
def Alike (t t' : FileTree) (workDir : Route) (paths : List String) : Prop :=
  ∀ path ∈ paths, Resembles t t' (t.lookups workDir path)

/-- Trees stay alike if both are changed in the same way and no way is opened. -/
theorem Alike.change {paths : List String} {t₁ t₁' : FileTree} (h : Alike t t' workDir paths)
    (hresembles : ∀ routes, Resembles t t' routes → Resembles t₁ t₁' routes)
    (hways : ∀ r n, t₁.way? r = some n → t.way? r = some n) : Alike t₁ t₁' workDir paths :=
  fun path hpath => (hresembles _ (h path hpath)).of_subset fun _ hr => mem_visits_of_ways hways hr

end FileTree

/-! ### Effects -/

/-- The effect reads nothing and moves nothing, and names no other paths than these. -/
def Effect.BlindAt (paths : List String) : Effect → Prop
  | .home | .draw _ | .write _ _ | .sync _ => True
  | .hasEntry path | .createNew path _ | .remove path => path ∈ paths
  | .isFile _ | .openRead _ | .rename _ _ => False

namespace Machine

variable {m m' : Machine} {paths : List String}

/-- The machines are the same, but for trees that are alike along the paths. -/
def Alike (m m' : Machine) (paths : List String) : Prop :=
  ∃ t', m.tree.Alike t' m.workDir paths ∧ m' = { m with tree := t' }

/-- **One effect**: on machines that are alike it has the same answer, and leaves machines that are alike. -/
theorem Alike.answer (h : m.Alike m' paths) {e : Effect} (he : e.BlindAt paths) :
    (m'.answer e).1 = (m.answer e).1 ∧ (m.answer e).2.Alike (m'.answer e).2 paths := by
  obtain ⟨t', ht, rfl⟩ := h
  cases e with
  | home => exact ⟨rfl, t', ht, rfl⟩
  | draw n => exact ⟨rfl, t', ht, rfl⟩
  | hasEntry path =>
    refine ⟨?_, t', ht, rfl⟩
    have hfind := FileTree.find_map_shape (ht path he)
    simp only [Machine.answer]
    cases h : m.tree.find m.workDir path <;> cases h' : t'.find m.workDir path <;> rw [h, h'] at hfind
    · rfl
    · cases hfind
    · cases hfind
    · rfl
  | createNew path mode =>
    have hroute := FileTree.newRoute_of_resembles (ht path he)
    simp only [Machine.answer, FileWriter.nextFault_eq]
    cases m.faults.head?.join with
    | some f => exact ⟨rfl, t', ht, rfl⟩
    | none =>
      simp only [FileTree.create, hroute]
      cases hr : m.tree.newRoute m.workDir path with
      | error e => exact ⟨rfl, t', ht, rfl⟩
      | ok r =>
        have hput : (m.tree.put r (.file (m.masked mode) [])).Alike (t'.put r (.file (m.masked mode) [])) m.workDir paths := by
          refine ht.change (fun _ h => h.put r _) fun q n hq => ?_
          rwa [FileWriter.way?_put_of_newRoute hr] at hq
        exact ⟨rfl, _, hput, rfl⟩
  | write handle b =>
    have happend : ∀ b : Bytes, (m.tree.append handle.route b).Alike (t'.append handle.route b) m.workDir paths := by
      intro b
      refine ht.change (fun _ h => h.append handle.route b b) fun q n hq => ?_
      rwa [FileTree.way?_append] at hq
    simp only [Machine.answer, FileWriter.nextFault_eq]
    cases m.faults.head?.join with
    | some f => exact ⟨rfl, _, happend _, rfl⟩
    | none => exact ⟨rfl, _, happend b, rfl⟩
  | sync handle =>
    simp only [Machine.answer, FileWriter.nextFault_eq]
    cases m.faults.head?.join with
    | some f => exact ⟨rfl, t', ht, rfl⟩
    | none => exact ⟨rfl, t', ht, rfl⟩
  | remove path =>
    simp only [Machine.answer]
    obtain ⟨r, hr, hr'⟩ | ⟨e, e', he, he'⟩ := FileTree.remove_of_resembles (ht path he)
    · rw [hr, hr']
      exact ⟨rfl, _, ht.change (fun _ h => h.erase r) fun _ _ => FileTree.way?_of_erase, rfl⟩
    · rw [he, he']
      exact ⟨rfl, t', ht, rfl⟩
  | isFile path => exact he.elim
  | openRead path => exact he.elim
  | rename old new => exact he.elim

end Machine

/-! ### Sessions -/

namespace Session

variable {x : Session α} {paths : List String}

/-- All effects of the session are blind at the paths, whatever it is answered. -/
def BlindAt (paths : List String) : Session α → Prop
  | done _ => True
  | perform e next => e.BlindAt paths ∧ ∀ answer, (next answer).BlindAt paths
  | call _ _ next => ∀ answer, (next answer).BlindAt paths

theorem BlindAt.bind {f : α → Session β} (hx : x.BlindAt paths) (hf : ∀ a, (f a).BlindAt paths) : (x.bind f).BlindAt paths := by
  induction x with
  | done a => exact hf a
  | perform e next ih => exact ⟨hx.1, fun answer => ih answer (hx.2 answer)⟩
  | call r token next ih => exact fun answer => ih answer (hx answer)

theorem Draws.blindAt (hx : x.Draws) : x.BlindAt paths := by
  induction x with
  | done a => trivial
  | perform e next ih =>
    obtain ⟨⟨n, rfl⟩, hnext⟩ := hx
    exact ⟨trivial, fun answer => ih answer (hnext answer)⟩
  | call r token next ih => exact hx.elim

/-- **What is not read makes no difference**: from machines that are alike, the session makes the same calls, ends with the same
value, and leaves the same state of the transport and machines that are alike. -/
theorem BlindAt.run_eq (hx : x.BlindAt paths) {m m' : Machine} (h : m.Alike m' paths) (t : Transport σ) (u : σ) :
    x.calls t m' u = x.calls t m u ∧ (x.run t m' u).1 = (x.run t m u).1 ∧ (x.run t m' u).2.2 = (x.run t m u).2.2 ∧
      (x.run t m u).2.1.Alike (x.run t m' u).2.1 paths := by
  induction x generalizing m m' u with
  | done a => exact ⟨rfl, rfl, rfl, h⟩
  | perform e next ih =>
    obtain ⟨hanswer, halike⟩ := h.answer hx.1
    simp only [calls, run, hanswer]
    exact ih _ (hx.2 _) halike u
  | call r token next ih =>
    obtain ⟨hcalls, hrest⟩ := ih _ (hx (t r token u).1) h (t r token u).2
    exact ⟨congrArg (List.cons _) hcalls, hrest⟩

end Session

namespace Op

/-- All effects of the operation are blind at the paths. -/
def BlindAt (paths : List String) (op : Op α) : Prop :=
  Session.BlindAt paths (ExceptT.run op)

namespace BlindAt

variable {op : Op α} {paths : List String}

theorem check (x : Except Error α) : BlindAt paths (check x) := trivial

theorem access (words : IoError → Error) (x : Except IoError α) : BlindAt paths (access words x) := by
  cases x <;> exact trivial

theorem ask {e : Effect} (he : e.BlindAt paths) : BlindAt paths (ask e) := ⟨he, fun _ => trivial⟩

theorem lift {x : Session α} (hx : x.BlindAt paths) : BlindAt paths (ExceptT.lift x : Op α) :=
  hx.bind fun _ => trivial

theorem bind {f : α → Op β} (hop : op.BlindAt paths) (hf : ∀ a, (f a).BlindAt paths) : BlindAt paths (op >>= f) :=
  Session.BlindAt.bind hop fun x => by
    cases x with
    | ok a => exact hf a
    | error e => trivial

theorem handled {handle : Error → Op α} (hop : op.BlindAt paths) (hhandle : ∀ e, (handle e).BlindAt paths) :
    BlindAt paths (tryCatch op handle) :=
  Session.BlindAt.bind hop fun x => by
    cases x with
    | ok a => trivial
    | error e => exact hhandle e

end BlindAt

/-- On both machines the operation makes the same calls and ends in the same way. -/
def RunsAlike (op : Op α) (t : Transport σ) (m m' : Machine) (u : σ) : Prop :=
  ∃ l x m₁ m₁' u₁, Runs t op m u l x m₁ u₁ ∧ Runs t op m' u l x m₁' u₁

section RunsAlike

variable {op : Op α} {t : Transport σ} {m m' : Machine} {u : σ}

theorem BlindAt.runsAlike {paths : List String} (hop : op.BlindAt paths) (h : m.Alike m' paths) (t : Transport σ) (u : σ) :
    op.RunsAlike t m m' u := by
  obtain ⟨l, x, m₁, u₁, hrun⟩ := exists_runs t op m u
  obtain ⟨l', x', m₁', u₁', hrun'⟩ := exists_runs t op m' u
  obtain ⟨hcalls, hvalue, hstate, -⟩ := Session.BlindAt.run_eq hop h t u
  rw [Session.Runs.calls_eq hrun, Session.Runs.calls_eq hrun'] at hcalls
  rw [Session.Runs.run_eq hrun, Session.Runs.run_eq hrun'] at hvalue hstate
  subst hcalls hvalue hstate
  exact ⟨_, _, m₁, m₁', _, hrun, hrun'⟩

theorem RunsAlike.observes_bind {f : α → Op β} (hop : Observes op) (hsame : op.outcome m' = op.outcome m)
    (hrest : ∀ a, op.outcome m = .ok a → (f a).RunsAlike t m m' u) : (op >>= f).RunsAlike t m m' u := by
  have hself := hop.runs t m u
  have hself' := hop.runs t m' u
  rw [hsame] at hself'
  cases hx : op.outcome m with
  | ok a =>
    rw [hx] at hself hself'
    obtain ⟨l, x, m₁, m₁', u₁, hrun, hrun'⟩ := hrest a hx
    exact ⟨l, x, m₁, m₁', u₁, hself.silent_bind hrun, hself'.silent_bind hrun'⟩
  | error e =>
    rw [hx] at hself hself'
    exact ⟨[], .error e, m, m', u, hself.bind_error f, hself'.bind_error f⟩

/-- What is made of its value makes no difference. -/
theorem RunsAlike.followed (h : op.RunsAlike t m m' u) (f : α → β) : (op >>= fun a => pure (f a)).RunsAlike t m m' u := by
  obtain ⟨l, x, m₁, m₁', u₁, hrun, hrun'⟩ := h
  cases x with
  | ok a => exact ⟨l, .ok (f a), m₁, m₁', u₁, hrun.bind_silent (.pure _), hrun'.bind_silent (.pure _)⟩
  | error e => exact ⟨l, .error e, m₁, m₁', u₁, hrun.bind_error _, hrun'.bind_error _⟩

end RunsAlike

end Op

/-! ### Generating keys -/

theorem FileWriter.blindAt_writeAll (paths : List String) (h : Handle) (b : Bytes) : (writeAll h b).BlindAt paths := by
  refine ⟨trivial, fun answer => ?_⟩
  cases answer with
  | error e => trivial
  | ok _ => exact ⟨trivial, fun _ => trivial⟩

theorem FileWriter.blindAt_writeNew {paths : List String} {path : String} (hpath : path ∈ paths) (b : Bytes) (mode : Nat) :
    (writeNew path b mode).BlindAt paths :=
  .bind (.ask hpath) fun created => .bind (.access _ created) fun handle =>
    .bind (.lift (blindAt_writeAll paths handle b)) fun written => .access _ written

namespace KeyGeneration

variable {m : Machine} {privatePath publicPath : String}

/-- What a generation does when its paths are known. -/
def create (path path' : String) (bits : Nat) : Op Unit := do
  refuseExisting path
  refuseExisting path'
  let key ← Rsa.Generation.generate bits
  let file ← Op.check (KeyFile.privateText key)
  writeFiles path path' file (KeyFile.publicText key.toPublic)

theorem blindAt_refuseExisting {paths : List String} {path : String} (hpath : path ∈ paths) :
    (refuseExisting path).BlindAt paths := by
  refine .bind (.ask hpath) fun found => ?_
  cases found <;> exact trivial

/-- It is blind at these paths. -/
theorem blindAt_create (path path' : String) (bits : Nat) : (create path path' bits).BlindAt [path, path'] := by
  have hpath : path ∈ [path, path'] := List.mem_cons_self
  have hpath' : path' ∈ [path, path'] := List.mem_cons_of_mem _ List.mem_cons_self
  refine .bind (blindAt_refuseExisting hpath) fun _ => .bind (blindAt_refuseExisting hpath') fun _ => ?_
  refine .bind (Rsa.Generation.draws_generate bits).blindAt fun key => .bind (.check _) fun file => ?_
  refine .bind (FileWriter.blindAt_writeNew hpath file privateMode) fun _ => ?_
  refine .handled (FileWriter.blindAt_writeNew hpath' _ publicMode) fun e => ?_
  exact .bind (.ask hpath) fun _ => .check (.error e)

/-- **Generating keys is blind**: it makes the same calls and ends in the same way on machines with different trees, if these resemble
each other on the ways of the two paths. -/
theorem runsAlike_run {tree : FileTree} (h : m.tree.Resembles tree (m.ways privatePath ++ m.ways publicPath)) (bits : Nat)
    (t : Transport σ) (u : σ) : (run privatePath publicPath bits).RunsAlike t m { m with tree := tree } u := by
  have hexpand : ∀ raw, (expandHome raw).outcome { m with tree := tree } = (expandHome raw).outcome m := by
    intro raw
    rw [outcome_expandHome, outcome_expandHome]
  refine .observes_bind (observes_expandHome privatePath) (hexpand privatePath) fun path hpath => ?_
  refine .observes_bind (observes_expandHome publicPath) (hexpand publicPath) fun path' hpath' => ?_
  rw [outcome_expandHome] at hpath hpath'
  rw [Machine.ways_of_expand hpath, Machine.ways_of_expand hpath'] at h
  refine (blindAt_create path path' bits).runsAlike ⟨tree, fun p hp => h.of_subset fun r hr => ?_, rfl⟩ t u
  rw [List.mem_append]
  obtain rfl | hp := List.mem_cons.mp hp
  · exact .inl hr
  · exact .inr (List.mem_singleton.mp hp ▸ hr)

end KeyGeneration

end SealedDrop
