import SealedDrop.Proofs.RoundTrip
import SealedDrop.Proofs.Visits

/-!
# What an operation touches

An operation that looks at certain routes only, and changes others only, runs beside changes elsewhere as it does without them.

## The model

* `Machine.Confines` says of an effect that on every tree which agrees on the routes that are `seen` it has the same answer,
  leaves trees that agree there again, and changes nothing but the routes that are `written`.
* A session is `Confined` if all its effects are, on the machines that it comes through by itself, and if it makes no call.

## What is proved

* `confined_load`, `confined_readFile`, `confined_encryptFile` — reading a file is confined to the routes on the way to it.
* `confined_replace` — replacing a file is confined to the way to its directory, to its own route and to that of the temporary
  file. Until that one is moved the tree is the old one but for a file without a name that anyone else would look up.
-/

namespace SealedDrop

open FileTree

variable {α β : Type} {seen written : List Route} {m m₁ : Machine}

/-! ### Trees that agree -/

namespace FileTree

variable {t t' : FileTree} {r q : Route} {l : List Route}

theorem Agree.refl (t : FileTree) (l : List Route) : Agree t t l := fun _ _ => rfl

theorem Agree.of_subset {l' : List Route} (h : Agree t t' l) (hl : ∀ r ∈ l', r ∈ l) : Agree t t' l' :=
  fun r hr => h r (hl r hr)

/-- What is put in both trees is in both. -/
theorem Agree.put (h : Agree t t' l) (n : Node) (hr : r ≠ []) : Agree (t.put r n) (t'.put r n) l := by
  intro q hq
  rw [node?_put t n hr, node?_put t' n hr, h q hq]

theorem Agree.append (h : Agree t t' l) (hr : r ∈ l) (b : Bytes) : Agree (t.append r b) (t'.append r b) l := by
  by_cases hroot : r = []
  · subst hroot
    exact h
  unfold FileTree.append
  rw [h r hr]
  split
  · exact h.put _ hroot
  · exact h

theorem Agree.erase (h : Agree t t' l) : Agree (t.erase r) (t'.erase r) l := by
  intro q hq
  by_cases hqr : q = r
  · subst hqr
    rw [node?, node?, lookup_erase_self, lookup_erase_self]
  · rw [node?_erase_of_ne _ hqr, node?_erase_of_ne _ hqr]
    exact h q hq

theorem node?_append_of_ne (t : FileTree) (h : q ≠ r) (b : Bytes) : (t.append r b).node? q = t.node? q := by
  unfold FileTree.append
  split
  · exact node?_put_of_ne t _ h
  · rfl

end FileTree

/-! ### Effects -/

namespace Machine

/-- On trees that agree on the routes that are seen, the effect has the same answer and leaves trees that agree there; and it
changes only routes that are written. -/
def Confines (seen written : List Route) (m : Machine) (e : Effect) : Prop :=
  ∀ t, Agree m.tree t seen → ∃ t', answer { m with tree := t } e = ((m.answer e).1, { (m.answer e).2 with tree := t' }) ∧
    Agree (m.answer e).2.tree t' seen ∧ ∀ r ∉ written, t'.node? r = t.node? r

theorem confines_home (m : Machine) : m.Confines seen written .home :=
  fun t h => ⟨t, rfl, h, fun _ _ => rfl⟩

theorem confines_draw (m : Machine) (n : Nat) : m.Confines seen written (.draw n) :=
  fun t h => ⟨t, rfl, h, fun _ _ => rfl⟩

theorem confines_openRead {path : String} (hpath : ∀ r ∈ m.tree.lookups m.workDir path, r ∈ seen) :
    m.Confines seen written (.openRead path) := by
  intro t h
  refine ⟨t, ?_, h, fun _ _ => rfl⟩
  simp only [answer, find_of_agree (h.of_subset hpath)]
  rfl

/-- A change that does the same to every tree that agrees on the routes that are seen. -/
theorem confines_of_change {e : Effect} {a : e.Answer} (change : FileTree → FileTree)
    (h : ∀ t, Agree m.tree t seen →
      answer { m with tree := t } e = (a, FileWriter.after { m with tree := t } (change t)) ∧
        Agree (change m.tree) (change t) seen ∧ ∀ r ∉ written, (change t).node? r = t.node? r) :
    m.Confines seen written e := by
  intro t ht
  have hself : m.answer e = (a, FileWriter.after m (change m.tree)) := (h m.tree (.refl _ _)).1
  obtain ⟨hanswer, hagree, hwritten⟩ := h t ht
  rw [hself]
  exact ⟨change t, hanswer, hagree, hwritten⟩

end Machine

/-! ### Sessions -/

/-- The session makes no call, and its effects are confined. -/
def Session.Confined (seen written : List Route) : Session α → Machine → Prop
  | .done _, _ => True
  | .perform e next, m => m.Confines seen written e ∧ (next (m.answer e).1).Confined seen written (m.answer e).2
  | .call _ _ _, _ => False

/-- What follows has to be confined on the machine that the first session leaves. -/
theorem Session.Confined.bind {x : Session α} {f : α → Session β} (hx : x.Confined seen written m)
    (hf : (f (x.run Op.silent m ()).1).Confined seen written (x.run Op.silent m ()).2.1) :
    (x >>= f).Confined seen written m := by
  change (x.bind f).Confined seen written m
  induction x generalizing m with
  | done a => exact hf
  | perform e next ih => exact ⟨hx.1, ih _ hx.2 hf⟩
  | call r token next => exact hx.elim

theorem Session.Confined.ask_bind {e : Effect} {f : e.Answer → Session β} (he : m.Confines seen written e)
    (hf : (f (m.answer e).1).Confined seen written (m.answer e).2) :
    (Session.ask e >>= f).Confined seen written m := ⟨he, hf⟩

theorem Session.confined_ask {e : Effect} (he : m.Confines seen written e) : (Session.ask e).Confined seen written m :=
  ⟨he, trivial⟩

namespace Op

/-- The operation makes no call, and its effects are confined. -/
def Confined (seen written : List Route) (op : Op α) (m : Machine) : Prop :=
  Session.Confined seen written (ExceptT.run op) m

namespace Confined

variable {op : Op α} {f : α → Op β}

theorem pure (a : α) : Confined seen written (Pure.pure a : Op α) m := trivial

theorem check (x : Except Error α) : Confined seen written (check x) m := trivial

theorem access (words : IoError → Error) (x : Except IoError α) : Confined seen written (access words x) m := by
  cases x <;> exact trivial

theorem ask_bind {e : Effect} {f : e.Answer → Op β} (he : m.Confines seen written e)
    (hf : (f (m.answer e).1).Confined seen written (m.answer e).2) : (ask e >>= f).Confined seen written m := ⟨he, hf⟩

theorem check_bind {x : Except Error α} (hf : ∀ a, x = .ok a → (f a).Confined seen written m) :
    (Op.check x >>= f).Confined seen written m := by
  cases x with
  | ok a => exact hf a rfl
  | error e => exact trivial

theorem access_bind {words : IoError → Error} {x : Except IoError α} (hf : ∀ a, x = .ok a → (f a).Confined seen written m) :
    (Op.access words x >>= f).Confined seen written m := by
  cases x with
  | ok a => exact hf a rfl
  | error e => exact trivial

theorem lift_bind {x : Session α} (hx : x.Confined seen written m)
    (hf : (f (x.run silent m ()).1).Confined seen written (x.run silent m ()).2.1) :
    ((ExceptT.lift x : Op α) >>= f).Confined seen written m := by
  change ((x.bind fun a => .done (.ok a)).bind (ExceptT.bindCont f)).Confined seen written m
  induction x generalizing m with
  | done a => exact hf
  | perform e next ih => exact ⟨hx.1, ih _ hx.2 hf⟩
  | call r token next => exact hx.elim

/-- What follows an operation that only looks has to be confined if there is something to go on with. -/
theorem bind (hlooks : Observes op) (hop : op.Confined seen written m)
    (hf : ∀ a, op.outcome m = .ok a → (f a).Confined seen written m) : (op >>= f).Confined seen written m := by
  refine Session.Confined.bind hop ?_
  have hrun : Session.run silent op m () = (op.outcome m, m, ()) := (hlooks.runs silent m ()).run_eq
  rw [hrun]
  cases hx : op.outcome m with
  | ok a => exact hf a hx
  | error e => exact trivial

end Confined

end Op

/-! ### Reading -/

section Reading

open Op Exchange

/-- The routes on the way to the file of a path, a leading tilde expanded. -/
def Machine.ways (m : Machine) (raw : String) : List Route :=
  match Home.expand m.home raw with
  | .ok path => m.tree.lookups m.workDir path
  | .error _ => []

theorem Machine.ways_of_expand {raw path : String} (h : Home.expand m.home raw = .ok path) :
    m.ways raw = m.tree.lookups m.workDir path := by
  rw [ways, h]

theorem confined_expandHome (path : String) : (expandHome path).Confined seen written m :=
  .ask_bind m.confines_home (.check _)

/-- Loading a secret looks at the routes on the way to its file. -/
theorem Secret.confined_load {raw : String} (hseen : ∀ r ∈ m.ways raw, r ∈ seen) :
    (Secret.load raw).Confined seen written m := by
  unfold Secret.load
  refine .ask_bind m.confines_home (.check_bind fun path hpath => ?_)
  have hexpand : Home.expand m.home raw = .ok path := by
    change (Home.expand m.home raw).mapError _ = _ at hpath
    cases he : Home.expand m.home raw with
    | error e =>
      rw [he] at hpath
      cases hpath
    | ok path' =>
      rw [he] at hpath
      cases hpath
      rfl
  rw [Machine.ways_of_expand hexpand] at hseen
  exact .ask_bind (Machine.confines_openRead hseen) (.access_bind fun source _ => .check _)

theorem KeyFile.confined_loadPrivate {raw : String} (hseen : ∀ r ∈ m.ways raw, r ∈ seen) :
    (KeyFile.loadPrivate raw).Confined seen written m :=
  .bind (Secret.observes_load raw) (Secret.confined_load hseen) fun _ _ => .check _

theorem Exchange.confined_readFile {path : String} (hseen : ∀ r ∈ m.tree.lookups m.workDir path, r ∈ seen) :
    (readFile path).Confined seen written m :=
  .ask_bind (Machine.confines_openRead hseen) (.access_bind fun _ _ => .access _ _)

theorem Exchange.confined_encryptFile {keyPath : String} (hseen : ∀ r ∈ m.ways keyPath, r ∈ seen) (plaintext : Bytes) :
    (encryptFile keyPath plaintext).Confined seen written m :=
  .bind (Secret.observes_load keyPath) (Secret.confined_load hseen) fun _ _ =>
    .check_bind fun _ _ => .ask_bind (m.confines_draw _) (.pure _)

end Reading

/-! ### Replacing -/

namespace FileWriter

variable {q target : Route} {temporary destination : String} {b : Bytes} {mode : Nat}

/-- The file is written beside its place and moved there on every tree that agrees, as long as nothing else makes a difference
to the two paths. -/
theorem confined_writeAndMove (hless : Faultless m) (hplain : endsInSlash temporary = false) (hqseen : q ∈ seen)
    (hqwritten : q ∈ written) (htwritten : target ∈ written) (hnone : m.tree.node? q = none)
    (hsite : ∀ t : FileTree, (∀ r ∈ seen, r ≠ q → t.node? r = m.tree.node? r) →
      t.Takes m.workDir destination target ∧ t.Names m.workDir temporary q) :
    (writeAndMove temporary destination b mode).Confined seen written m := by
  have hq : q ≠ [] := by
    rintro rfl
    cases hnone
  have hoff : ∀ {t n}, Agree (m.tree.put q n) t seen → ∀ r ∈ seen, r ≠ q → t.node? r = m.tree.node? r := by
    intro t n h r hr hne
    rw [h r hr, node?_put_of_ne _ _ hne]
  have hkeep : ∀ {r}, r ∉ written → r ≠ q := by
    rintro r hr rfl
    exact hr hqwritten
  have htarget : target ≠ [] := (hsite m.tree fun _ _ _ => rfl).1.names.ne_nil
  set file : Node := .file (m.masked mode) b with hfile
  -- the machine after each access
  set m₁ := after m (m.tree.put q (.file (m.masked mode) [])) with hm₁
  set m₂ := after m₁ (m.tree.put q file) with hm₂
  set m₃ := after m₂ m₂.tree with hm₃
  have hcreate : ∀ t, Agree m.tree t seen → Machine.answer { m with tree := t } (.createNew temporary mode) =
      (.ok ⟨q⟩, after { m with tree := t } (t.put q (.file (m.masked mode) []))) := by
    intro t ht
    refine answer_createNew_of_faultless (m := { m with tree := t }) hless (newRoute_eq_ok_iff.mpr ⟨?_, hplain, ?_⟩) mode
    · exact (hsite t fun r hr _ => ht r hr).2
    · exact (ht q hqseen).trans hnone
  have hwrite : m₁.answer (.write ⟨q⟩ b) = (.ok (), m₂) := by
    rw [answer_write_of_faultless (hless.after _), hm₂, hfile]
    exact congrArg (fun t => (_, after m₁ t)) (append_put m.tree hq _ [] b)
  have hsync : m₂.answer (.sync ⟨q⟩) = (.ok (), m₃) := answer_sync_of_faultless ((hless.after _).after _) _
  have hrename : ∀ t, Agree m₃.tree t seen → Machine.answer { m₃ with tree := t } (.rename temporary destination) =
      (.ok (), after { m₃ with tree := t } ((t.erase q).put target file)) := by
    intro t ht
    obtain ⟨htakes, hnames⟩ := hsite t (hoff ht)
    refine answer_rename_of_faultless (m := { m₃ with tree := t }) (((hless.after _).after _).after _) (rename_eq_ok_iff.mpr ?_)
    exact ⟨q, file, target, hnames, (ht q hqseen).trans (node?_put_self _ _ hq), hplain, htakes, rfl⟩
  unfold writeAndMove
  refine .ask_bind (Machine.confines_of_change _ fun t ht => ⟨hcreate t ht, ht.put _ hq, fun r hr => ?_⟩) ?_
  · exact node?_put_of_ne _ _ (hkeep hr)
  rw [hcreate m.tree (.refl _ _)]
  refine Session.Confined.bind (.ask_bind (Machine.confines_of_change _ fun t ht =>
    ⟨answer_write_of_faultless (m := { m₁ with tree := t }) (hless.after _) _ _, ht.append hqseen b, fun r hr => ?_⟩) ?_) ?_
  · exact node?_append_of_ne _ (hkeep hr) _
  · rw [hwrite]
    exact Session.confined_ask (Machine.confines_of_change id fun t ht =>
      ⟨answer_sync_of_faultless (m := { m₂ with tree := t }) ((hless.after _).after _) _, ht, fun _ _ => rfl⟩)
  have hwritten : Session.Runs Op.silent (writeAll ⟨q⟩ b) m₁ () [] (.ok ()) m₃ () := by
    have hfirst := Session.Runs.ask (t := Op.silent) (m := m₁) (s := ()) (.write ⟨q⟩ b)
    have hsecond := Session.Runs.ask (t := Op.silent) (m := m₂) (s := ()) (.sync ⟨q⟩)
    rw [hwrite] at hfirst
    rw [hsync] at hsecond
    exact hfirst.bind hsecond
  rw [hwritten.run_eq]
  refine Session.confined_ask (Machine.confines_of_change _ fun t ht =>
    ⟨hrename t ht, ht.erase.put _ htarget, fun r hr => ?_⟩)
  have hne : r ≠ target := by
    rintro rfl
    exact hr htwritten
  rw [node?_put_of_ne _ _ hne, node?_erase_of_ne _ (hkeep hr)]

end FileWriter

/-- The route of the temporary file beside a destination. -/
def Machine.temporaryRoute (m : Machine) (place : Route) (file : String) : Route :=
  FileWriter.hidden file (m.entropy.peek 16) :: place

/-- Replacing a file looks at the way to its directory, at the file and at the temporary one, and changes these two. -/
theorem Exchange.confined_replace {destination path file : String} {place : Route}
    (h : Accepts m destination path place file) (hway : ∀ r ∈ m.tree.approaches m.workDir path, r ∈ seen)
    (hroute : file :: place ∈ seen) (hroute' : file :: place ∈ written) (htemporary : m.temporaryRoute place file ∈ seen)
    (htemporary' : m.temporaryRoute place file ∈ written) (b : Bytes) (mode : Nat) :
    (FileWriter.replace path b mode).Confined seen written m := by
  obtain ⟨directory, hsplit, hnew⟩ := h.exists_newRoute
  obtain ⟨-, hplain, hnone⟩ := newRoute_eq_ok_iff.mp hnew
  have hname := h.name_le
  have hpath := h.path_le
  have hlength : (m.entropy.peek 16).length = 16 := m.entropy.length_peek 16
  -- the new name is not on the way, where all routes have entries, and it is not the name of the destination
  have hoff : ∀ r ∈ m.tree.approaches m.workDir path, r ≠ m.temporaryRoute place file := by
    rintro r hr rfl
    obtain ⟨place', s, hparent, -⟩ := h.names
    exact node?_ne_none_of_mem_approaches hparent _ hr hnone
  have hne : file :: place ≠ m.temporaryRoute place file := by
    intro heq
    have hsize : (FileWriter.hidden file (m.entropy.peek 16)).utf8ByteSize = file.utf8ByteSize + 42 :=
      FileWriter.utf8ByteSize_hidden hlength
    rw [← (List.cons.inj heq).1] at hsize
    omega
  have hsite : ∀ t : FileTree, (∀ r ∈ seen, r ≠ m.temporaryRoute place file → t.node? r = m.tree.node? r) →
      t.Takes m.workDir path (file :: place) ∧
        t.Names m.workDir (FileWriter.sibling directory file (m.entropy.peek 16)) (m.temporaryRoute place file) := by
    intro t ht
    have htakes : t.Takes m.workDir path (file :: place) :=
      h.takes.of_agree (fun r hr => ht r (hway r hr) (hoff r hr)) (ht _ hroute hne)
    obtain ⟨directory', hsplit', hnames⟩ := FileWriter.names_sibling htakes (by change _ ≤ 255; omega)
      (by change _ < 4096; omega) hlength
    rw [hsplit] at hsplit'
    cases hsplit'
    exact ⟨htakes, hnames⟩
  unfold FileWriter.replace
  rw [hsplit]
  refine .ask_bind (m.confines_draw 16) (.lift_bind ?_ ?_)
  · exact FileWriter.confined_writeAndMove h.faultless hplain htemporary htemporary' hroute' hnone hsite
  · -- nothing stands in the way, so that nothing has to be removed
    obtain ⟨x, m₁, hrun, -, hstage⟩ := FileWriter.runs_writeAndMove Op.silent
      (FileWriter.sibling directory file (m.entropy.peek 16)) path b mode { m with entropy := m.entropy.skip 16 } ()
    have hok : x = .ok () := by
      generalize m₁.tree = tree at hstage
      cases hstage with
      | refused e hstuck => exact absurd hstuck (h.not_hindrance hsplit)
      | stuck e hstuck => exact absurd hstuck (h.not_hindrance hsplit)
      | moved => rfl
    subst hok
    have heq : Session.run Op.silent (FileWriter.writeAndMove
        (FileWriter.sibling directory file (m.answer (.draw 16)).1.val) path b mode) (m.answer (.draw 16)).2 () =
        (.ok (), m₁, ()) := hrun.run_eq
    rw [heq]
    exact trivial

end SealedDrop
