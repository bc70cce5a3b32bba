import SealedDrop.Proofs.Concurrency.Luck
import SealedDrop.Proofs.Concurrency.Operations

/-!
# Operations do not disturb each other

Any number of drops and pulls run side by side at one remote. Each ends as it does alone, except for those that the refusals
which were to come at the start make give up, and these are at most half as many as the refusals.

## The model

* `Prepared` says what is there before the first step: a remote in order, registered clients with their keys, files that can be
  dropped and destinations that take a file. No operation is to put its file where another one looks.
* `Undisturbed` lists what is true of a world that such operations have come to.

## What is proved

* `Prepared.harmony` — prepared operations start in harmony. The temporary file of a pull is in nobody's way: where there is no
  entry, no one has looked, and a temporary name that two pulls share would mean that they share their destination.
* `Prepared.pull_ends` — a pull that starts after a drop has ended may rely on the object that was stored by it.
* `Prepared.undisturbed` — the rules put together.
-/

namespace SealedDrop

open Remote Exchange

variable {ι δ : Type}

/-! ### Clients that are prepared -/

namespace Client

/-- The machine of a client with the files on its disk. -/
def on (x : Client δ) (disks : δ → FileTree) : Machine :=
  { x.machine with tree := disks x.disk }

/-- What the operation of a client relies on at the start, and these objects. -/
def scope (x : Client δ) (disks : δ → FileTree) (u : Remote) (objects : List (String × Bytes)) : Scope where
  seen := x.task.seen x.settings (x.on disks)
  written := x.task.written (x.on disks)
  keys := u.keys
  objects := objects

end Client

/-- The clients, with these shared keys and with these names and private keys, have what they need, and no operation is to put
its file where another one looks. -/
structure Prepared (u : Remote) (disks : δ → FileTree) (clients : ι → Client δ) (keys : ι → Bytes) (names : ι → KeyName)
    (secrets : ι → Rsa.PrivateKey) : Prop where
  /-- No identifier is fixed. -/
  fixedId : u.fixedId = none
  /-- No object is damaged. -/
  corruptDownloads : u.corruptDownloads = false
  /-- The keys are in their files. -/
  equipped : ∀ i, Equipped (clients i).settings ((clients i).on disks) (keys i) (names i) (secrets i)
  /-- No shared key is empty. -/
  keyed : ∀ i, keys i ≠ []
  /-- The public keys are registered. -/
  enrolled : ∀ i, u.Enrolled (names i) (secrets i)
  /-- There is a file to drop, or a destination that takes a file. -/
  ready : ∀ i, (clients i).task.Ready ((clients i).on disks)
  /-- No destination is where another operation looks. -/
  apart : ∀ i j, i ≠ j → (clients i).disk = (clients j).disk → ∀ r,
    (clients j).task.destination? ((clients j).on disks) = some r →
      r ∉ (clients i).task.seen (clients i).settings ((clients i).on disks)

variable {u : Remote} {disks : δ → FileTree} {clients : ι → Client δ} {keys : ι → Bytes} {names : ι → KeyName}
  {secrets : ι → Rsa.PrivateKey} {i j : ι}

namespace Prepared

/-- An operation is assured of its end, whatever objects are held. -/
theorem assured (h : Prepared u disks clients keys names secrets) (i : ι) (objects : List (String × Bytes)) :
    ((clients i).task.operation (clients i).settings).Assured ((clients i).scope disks u objects)
      ((clients i).task.Ends ((clients i).scope disks u objects) (keys i) ((clients i).on disks))
      { machine := (clients i).on disks } := by
  refine Task.assured (c := (clients i).scope disks u objects) (o := { machine := (clients i).on disks }) (h.equipped i)
    (h.keyed i) (h.ready i) (fun r hr => hr) (fun r hr => hr) fun v hv => ?_
  refine (h.enrolled i).of_key? ?_
  rw [key?, key?, hv.keys_eq]
  rfl

/-- No operation writes where another one looks. -/
theorem not_seen_of_written (h : Prepared u disks clients keys names secrets) (hij : i ≠ j)
    (hdisk : (clients i).disk = (clients j).disk) {r : Route} (hr : r ∈ (clients j).task.written ((clients j).on disks)) :
    r ∉ (clients i).task.seen (clients i).settings ((clients i).on disks) := by
  obtain ⟨place, file, hroute, hcases⟩ := (h.ready j).written_cases hr
  rcases hcases with rfl | ⟨rfl, hnone⟩
  · exact h.apart i j hij hdisk _ hroute
  intro hseen
  rcases (h.ready i).seen_cases (h.equipped i) hseen with hnode | hwritten
  · have htree : ((clients i).on disks).tree = ((clients j).on disks).tree := congrArg disks hdisk
    rw [htree] at hnode
    exact hnode hnone
  obtain ⟨place', file', hroute', hcases'⟩ := (h.ready i).written_cases hwritten
  rcases hcases' with heq | ⟨heq, -⟩
  · -- the temporary file is none that the other pull puts in place
    rw [← heq] at hroute'
    exact h.apart j i hij.symm hdisk.symm _ hroute' (Task.mem_seen_of_mem_written _ hr)
  · -- files with the same temporary name have the same name
    obtain ⟨hname, rfl⟩ := List.cons.inj heq
    rw [FileWriter.hidden_inj (Entropy.length_peek _ 16) (Entropy.length_peek _ 16) hname] at hroute
    exact h.apart i j hij hdisk _ hroute (Task.mem_seen_of_mem_written _ (Task.mem_written_of_destination? hroute'))

variable [DecidableEq ι]

/-- Prepared operations start in harmony. -/
theorem harmony (h : Prepared u disks clients keys names secrets) :
    (World.start u disks clients).Harmony (fun i => (clients i).scope disks u [])
      (fun i => (clients i).task.Ends ((clients i).scope disks u []) (keys i) ((clients i).on disks))
      (fun i => { machine := (clients i).on disks }) u.rejectNext.toNat := by
  have hupholds : u.Upholds u.keys [] := ⟨rfl, h.fixedId, h.corruptDownloads, List.forall_mem_nil _⟩
  refine ⟨⟨hupholds, List.nodup_nil, Nat.zero_add _, List.forall_mem_nil _⟩, fun i => ?_, fun i j t ht => ?_,
    fun i j hij hdisk r hr => h.not_seen_of_written hij hdisk hr⟩
  · refine ⟨rfl, .refl _ _, rfl, fun t ht => ?_, hupholds, Op.session_assured (h.assured i [])⟩
    cases ht
  · cases ht

end Prepared

section Rules

variable [DecidableEq ι] [DecidableEq δ]

/-! ### Where they come to -/

/-- The world that the operations of the clients come to with these steps. -/
def World.reached (u : Remote) (disks : δ → FileTree) (clients : ι → Client δ) (l : List ι) : World ι δ :=
  (World.start u disks clients).after l

namespace Prepared

variable {l l₁ l₂ : List ι} {x : Outcome} {path : String} {plaintext : Bytes} {r : Reference}

/-- The outlooks at the end of a run. -/
theorem exists_harmony (h : Prepared u disks clients keys names secrets) (hlucky : (World.reached u disks clients l).Lucky) :
    ∃ o, (World.reached u disks clients l).Harmony (fun i => (clients i).scope disks u [])
      (fun i => (clients i).task.Ends ((clients i).scope disks u []) (keys i) ((clients i).on disks)) o u.rejectNext.toNat ∧
        ∀ j ∉ l, o j = { machine := (clients j).on disks } :=
  h.harmony.after l hlucky

/-- An operation that has given up was refused twice. -/
theorem two_le_of_isExhausted (h : Prepared u disks clients keys names secrets)
    (hlucky : (World.reached u disks clients l).Lucky) (hx : (World.reached u disks clients l).result? i = some x)
    (hexhausted : IsExhausted x) : 2 ≤ ((World.reached u disks clients l).turnsOf i).countP Turn.isRefused := by
  obtain ⟨o, ho, -⟩ := h.exists_harmony hlucky
  have hends := ((ho.attuned i).ends hx).1 hexhausted
  rwa [(ho.attuned i).turns] at hends

/-- A drop that has ended has given up, or stored its file and told where. -/
theorem drop_ends (h : Prepared u disks clients keys names secrets) (hlucky : (World.reached u disks clients l).Lucky)
    (hdrop : (clients i).task = .drop path) (hfile : ((clients i).on disks).Provides path plaintext)
    (hx : (World.reached u disks clients l).result? i = some x) :
    IsExhausted x ∨ ∃ id envelope, x = .ok (some (.ofTransmitted ⟨id⟩ envelope)) ∧ ObjectId.Safe id ∧
      Envelope.decrypt (keys i) envelope = .ok plaintext ∧
        ∃ y ∈ (World.reached u disks clients l).turnsOf i, y.stores? = some (id, envelope) := by
  obtain ⟨o, ho, -⟩ := h.exists_harmony hlucky
  have hends := (ho.attuned i).ends hx
  rw [hdrop] at hends
  rw [← (ho.attuned i).turns]
  exact hends.2 plaintext hfile

/-- **A late pull**: if a drop has ended before the pull starts, the pull gives up, or puts in place what was dropped. -/
theorem pull_ends (h : Prepared u disks clients keys names secrets)
    (hlucky : (World.reached u disks clients (l₁ ++ l₂)).Lucky) (hj : j ∉ l₁) (hdrop : (clients i).task = .drop path)
    (hfile : ((clients i).on disks).Provides path plaintext)
    (hr : (World.reached u disks clients l₁).result? i = some (.ok (some r))) {reference destination : String}
    (hpull : (clients j).task = .pull reference destination) (hparse : Reference.parse reference = .ok r)
    (hkeys : keys i = keys j) (hx : (World.reached u disks clients (l₁ ++ l₂)).result? j = some x) :
    IsExhausted x ∨ x = .ok none ∧ ∃ route, (clients j).task.destination? ((clients j).on disks) = some route ∧
      ((World.reached u disks clients (l₁ ++ l₂)).disks (clients j).disk).node? route =
        some (.file ((clients j).machine.masked 0o644) plaintext) := by
  have hsplit : World.reached u disks clients (l₁ ++ l₂) = (World.reached u disks clients l₁).after l₂ := World.after_append ..
  rw [hsplit] at hlucky hx ⊢
  have hlucky₁ := hlucky.of_prefix ((World.reached u disks clients l₁).log_prefix_after l₂)
  obtain ⟨hsession, -⟩ := (World.start u disks clients).after_of_not_mem hj
  obtain ⟨o, ho, hnew⟩ := h.exists_harmony hlucky₁
  obtain ⟨n, hn⟩ | ⟨id, envelope, hok, hid, hdecrypt, y, hy, hstores⟩ := h.drop_ends hlucky₁ hdrop hfile hr
  · cases hn
  cases hok
  rw [hkeys] at hdecrypt
  -- the pull has not started, and may rely on the object as well
  have hheld : (World.reached u disks clients l₁).remote.Upholds u.keys [(id, envelope)] := by
    refine ⟨(ho.attuned j).upholds.keys_eq, (ho.attuned j).upholds.fixedId, (ho.attuned j).upholds.corruptDownloads, ?_⟩
    rw [List.forall_mem_singleton]
    exact ho.consistent.upholds.holds _ (World.mem_stored hy hstores)
  have hlate : (World.reached u disks clients l₁).Attuned j ((clients j).scope disks u [(id, envelope)])
      ((clients j).task.Ends ((clients j).scope disks u [(id, envelope)]) (keys j) ((clients j).on disks)) (o j) := by
    have hold := ho.attuned j
    refine ⟨hold.machine, hold.agree, hold.turns, hold.token, hheld, ?_⟩
    rw [World.reached, hsession, hnew j hj]
    exact Op.session_assured (h.assured j [(id, envelope)])
  obtain ⟨o', ho', -⟩ := (ho.rely hlate rfl rfl).after l₂ hlucky
  have hattuned := ho'.attuned j
  rw [Function.update_self, Function.update_self] at hattuned
  have hends := (hattuned.ends hx).2
  rw [hpull] at hends
  refine (hends id envelope plaintext List.mem_cons_self hid hparse hdecrypt).imp_right fun ⟨hok, route, hroute, hnode⟩ =>
    ⟨hok, route, by rw [hpull]; exact hroute, ?_⟩
  have hdisk : ((World.reached u disks clients l₁).after l₂).disk j = (clients j).disk := by
    rw [World.disk_after, World.reached, World.disk_after]
    rfl
  rw [← hdisk, hattuned.agree route, hnode]
  · rfl
  exact Task.mem_seen_of_mem_written _ (Task.mem_written_of_destination? (by rw [hpull]; exact hroute))

end Prepared

/-! ### The rules -/

/-- What is true of the world that the operations come to. -/
structure Undisturbed (u : Remote) (disks : δ → FileTree) (clients : ι → Client δ) (keys : ι → Bytes) (l : List ι) : Prop where
  /-- The calls that were refused, and the refusals to come, are those that were to come at the start. -/
  refused : (World.reached u disks clients l).log.countP (·.2.isRefused) +
    (World.reached u disks clients l).remote.rejectNext.toNat = u.rejectNext.toNat
  /-- Each refusal was due when it was done. -/
  due : ∀ x ∈ (World.reached u disks clients l).log, x.2.isRefused = true → 0 < x.2.before.rejectNext
  /-- An operation has ended after seventeen steps of its own. -/
  ended : ∀ i, Task.length ≤ l.count i → ∃ x, (World.reached u disks clients l).result? i = some x
  /-- The operations that have given up are at most half as many as the refusals. -/
  exhausted : ∀ S : Finset ι, (∀ i ∈ S, ∃ x, (World.reached u disks clients l).result? i = some x ∧ IsExhausted x) →
    S.card ≤ u.rejectNext.toNat / 2
  /-- Every other drop succeeds. -/
  dropped : ∀ i path x, (clients i).task = .drop path → (World.reached u disks clients l).result? i = some x →
    IsExhausted x ∨ ∃ r, x = .ok (some r)
  /-- Drops tell different identifiers. -/
  distinct : ∀ i j path path' r r', i ≠ j → (clients i).task = .drop path → (clients j).task = .drop path' →
    (World.reached u disks clients l).result? i = some (.ok (some r)) →
      (World.reached u disks clients l).result? j = some (.ok (some r')) → r.objectId ≠ r'.objectId
  /-- The reference that a drop tells is read back from its text. -/
  text : ∀ i path r before after, (clients i).task = .drop path →
    (World.reached u disks clients l).result? i = some (.ok (some r)) → (∀ c ∈ before.toList, Text.isBlank c = true) →
      (∀ c ∈ after.toList, Text.isBlank c = true) → Reference.parse (before ++ r.text ++ after) = .ok r
  /-- Every other pull that starts after a drop has ended with that reference succeeds, and leaves the file in its place. -/
  pulled : ∀ l₁ l₂ i j path plaintext r reference destination x, l = l₁ ++ l₂ → j ∉ l₁ → keys i = keys j →
    (clients i).task = .drop path → ((clients i).on disks).Provides path plaintext →
      (World.reached u disks clients l₁).result? i = some (.ok (some r)) →
        (clients j).task = .pull reference destination → Reference.parse reference = .ok r →
          (World.reached u disks clients l).result? j = some x →
            IsExhausted x ∨ x = .ok none ∧ ∃ route, (clients j).task.destination? ((clients j).on disks) = some route ∧
              ((World.reached u disks clients l).disks (clients j).disk).node? route =
                some (.file ((clients j).machine.masked 0o644) plaintext)

/-- **Operations do not disturb each other**, as long as no token is issued twice and the number of objects does not wrap. -/
theorem Prepared.undisturbed (h : Prepared u disks clients keys names secrets) (l : List ι)
    (hlucky : (World.reached u disks clients l).Lucky) : Undisturbed u disks clients keys l := by
  obtain ⟨o, ho, -⟩ := h.exists_harmony hlucky
  have hdrops : ∀ {i path x}, (clients i).task = .drop path → (World.reached u disks clients l).result? i = some x →
      IsExhausted x ∨ ∃ id envelope, x = .ok (some (.ofTransmitted ⟨id⟩ envelope)) ∧ ObjectId.Safe id ∧
        ∃ y ∈ (World.reached u disks clients l).turnsOf i, y.stores? = some (id, envelope) := by
    intro i path x hdrop hx
    have hready := h.ready i
    rw [hdrop] at hready
    obtain ⟨plaintext, hfile⟩ := hready
    exact (h.drop_ends hlucky hdrop hfile hx).imp_right fun ⟨id, envelope, hok, hid, _, hstores⟩ =>
      ⟨id, envelope, hok, hid, hstores⟩
  refine ⟨ho.consistent.refused, ho.consistent.due, fun i => World.exists_result? u disks clients, fun S hS => ?_,
    fun i path x hdrop hx => ?_, fun i j path path' r r' hij hi hj hr hr' => ?_,
    fun i path r before after hdrop hr hbefore hafter => ?_, ?_⟩
  · -- each of these was refused twice, in calls of its own
    have htwice : S.card * 2 ≤ ∑ i ∈ S, ((World.reached u disks clients l).turnsOf i).countP Turn.isRefused := by
      refine Finset.card_nsmul_le_sum S _ 2 fun i hi => ?_
      obtain ⟨x, hx, hexhausted⟩ := hS i hi
      exact h.two_le_of_isExhausted hlucky hx hexhausted
    have hall := (World.reached u disks clients l).sum_countP_turnsOf_le S Turn.isRefused
    have hrefused := ho.consistent.refused
    omega
  · exact (hdrops hdrop hx).imp_right fun ⟨id, envelope, hok, _⟩ => ⟨_, hok⟩
  · obtain ⟨n, hn⟩ | ⟨id, envelope, hok, -, y, hy, hstores⟩ := hdrops hi hr
    · cases hn
    obtain ⟨n, hn⟩ | ⟨id', envelope', hok', -, y', hy', hstores'⟩ := hdrops hj hr'
    · cases hn
    cases hok
    cases hok'
    exact fun heq => ho.consistent.ne_of_stores hij hy hy' hstores hstores' (congrArg ObjectId.text heq)
  · obtain ⟨n, hn⟩ | ⟨id, envelope, hok, hid, -⟩ := hdrops hdrop hr
    · cases hn
    cases hok
    exact (Reference.wellFormed_ofTransmitted hid envelope).parse_surround hbefore hafter
  · rintro l₁ l₂ i j path plaintext r reference destination x rfl hj hkeys hdrop hfile hr hpull hparse hx
    exact h.pull_ends hlucky hj hdrop hfile hr hpull hparse hkeys hx

/-- One refusal makes nobody give up. -/
theorem Undisturbed.not_isExhausted {l : List ι} (h : Undisturbed u disks clients keys l) (hu : u.rejectNext.toNat ≤ 1)
    {x : Outcome} (hx : (World.reached u disks clients l).result? i = some x) : ¬ IsExhausted x := by
  intro hexhausted
  have hcard := h.exhausted {i} fun j hj => by
    rw [Finset.mem_singleton.mp hj]
    exact ⟨x, hx, hexhausted⟩
  rw [Finset.card_singleton] at hcard
  omega

end Rules

/-! ### Three operations at one office -/

/-- An office that counts the tokens it issues, and is to refuse so many requests. -/
def busyOffice (refusals : UInt32) : Remote :=
  { office with entropy := ⟨fun n => UInt8.ofNat (n / tokenDraw), 0⟩, rejectNext := refusals }

/-- Two drops of one file, and a pull, on laptops with these disks. -/
def team (disk : Fin 3 → δ) (reference destination : String) (i : Fin 3) : Client δ where
  task := if i = 1 then .pull reference destination else .drop "in"
  settings := laptopSettings
  disk := disk i
  machine := laptop

/-- The disk of a laptop. -/
def laptopDisks : δ → FileTree :=
  fun _ => laptop.tree

theorem enrolled_busyOffice (refusals : UInt32) : (busyOffice refusals).Enrolled laptopName mersenneKey :=
  enrolled_office.of_key? rfl

/-- The tokens of a busy office differ for a long time. -/
theorem nodup_tokenAt_busyOffice (refusals : UInt32) : ((List.range 60).map (busyOffice refusals).tokenAt).Nodup := by
  change ((List.range 60).map (busyOffice 0).tokenAt).Nodup
  decide +kernel

theorem lucky_team [DecidableEq δ] (refusals : UInt32) (disk : Fin 3 → δ) (reference destination : String) {l : List (Fin 3)}
    (hl : l.length ≤ 60) :
    (World.reached (busyOffice refusals) laptopDisks (team disk reference destination) l).Lucky := by
  refine World.lucky_after _ _ _ ?_ ?_
  · exact ((List.range_sublist.mpr hl).map _).nodup (nodup_tokenAt_busyOffice refusals)
  · change 0 + l.length < UInt64.size
    have hsize : 60 < UInt64.size := by decide
    omega

/-- The first drop ends with a reference, whatever the pull is to do. -/
theorem exists_reference_team [DecidableEq δ] (refusals : UInt32) (hrefusals : refusals ≤ 1) (disk : Fin 3 → δ) :
    ∃ (r : Reference) (m : Machine) (u : Remote), Reference.parse r.text = .ok r ∧ ∀ reference destination,
      let w := World.reached (busyOffice refusals) laptopDisks (team disk reference destination) (List.replicate Task.length 0)
      w.result? 0 = some (.ok (some r)) ∧ w.remote = u ∧
        w.disks = Function.update laptopDisks (disk 0) m.tree := by
  obtain ⟨l, id, envelope, m, u, hdrop, hid, -⟩ := runs_drop equipped_laptop (enrolled_busyOffice refusals)
    (List.cons_ne_nil 1 []) hrefusals fixedId_office provides_laptop
  refine ⟨.ofTransmitted ⟨id⟩ envelope, m, u, (Reference.wellFormed_ofTransmitted hid envelope).parse_text,
    fun reference destination => ?_⟩
  have hwithin : ((Task.drop "in").operation laptopSettings).Within Task.length := Task.within_operation _ _
  exact World.after_replicate (w := World.start (busyOffice refusals) laptopDisks (team disk reference destination)) (i := 0)
    hwithin (hdrop.bind_silent (f := fun r => pure (some r)) (Op.Runs.pure _)).run_eq

theorem destination?_laptop (reference : String) : Task.destination? laptop (.pull reference "out") = some ["out"] := by
  rw [Task.destination?, Machine.site?_of_accepts accepts_laptop]
  rfl

/-- The operations can run side by side on one laptop. -/
theorem prepared_team (refusals : UInt32) (reference : String) :
    Prepared (busyOffice refusals) laptopDisks (team (fun _ => ()) reference "out") (fun _ => [1]) (fun _ => laptopName)
      (fun _ => mersenneKey) where
  fixedId := rfl
  corruptDownloads := rfl
  equipped _ := equipped_laptop
  keyed _ := List.cons_ne_nil 1 []
  enrolled _ := enrolled_busyOffice refusals
  ready i := by
    by_cases hi : i = 1
    · subst hi
      exact ⟨"out", [], "out", accepts_laptop⟩
    · have htask : (team (fun _ => ()) reference "out" i).task = .drop "in" := if_neg hi
      rw [htask]
      exact ⟨_, provides_laptop⟩
  apart i j hij _ r hr hseen := by
    by_cases hj : j = 1
    swap
    · have htask : (team (fun _ => ()) reference "out" j).task = .drop "in" := if_neg hj
      rw [htask] at hr
      cases hr
    subst hj
    -- the drops look at nothing that is not there
    have htask : (team (fun _ => ()) reference "out" i).task = .drop "in" := if_neg hij
    have hfile : Task.Ready laptop (.drop "in") := ⟨_, provides_laptop⟩
    cases (destination?_laptop reference).symm.trans hr
    rw [htask] at hseen
    rcases hfile.seen_cases equipped_laptop hseen with hnode | hwritten
    · exact hnode (by decide)
    · cases hwritten

/-- Two operations that take turns. -/
def takingTurns (n : Nat) : List (Fin 3) :=
  (List.replicate n [1, 2]).flatten

/-- One drop is followed by a pull and another drop that take turns, while the office refuses one request: both drops succeed,
with different identifiers, and the pull leaves the file of the first one in its place. -/
theorem undisturbed_team :
    ∃ r r' : Reference,
      let clients := team (fun _ => ()) r.text "out"
      let l := List.replicate 17 0 ++ takingTurns 17
      Prepared (busyOffice 1) laptopDisks clients (fun _ => [1]) (fun _ => laptopName) (fun _ => mersenneKey) ∧
        (World.reached (busyOffice 1) laptopDisks clients l).Lucky ∧
        Undisturbed (busyOffice 1) laptopDisks clients (fun _ => [1]) l ∧
        (World.reached (busyOffice 1) laptopDisks clients l).result? 0 = some (.ok (some r)) ∧
        (World.reached (busyOffice 1) laptopDisks clients l).result? 2 = some (.ok (some r')) ∧ r.objectId ≠ r'.objectId ∧
        (World.reached (busyOffice 1) laptopDisks clients l).result? 1 = some (.ok none) ∧
        ((World.reached (busyOffice 1) laptopDisks clients l).disks ()).node? ["out"] = some (.file 0o644 [104, 105]) := by
  obtain ⟨r, m, u, hparse, hfirst⟩ := exists_reference_team 1 (by decide) fun _ => ()
  obtain ⟨hr, -⟩ := hfirst r.text "out"
  set clients := team (fun _ => ()) r.text "out" with hclients
  set l := List.replicate 17 0 ++ takingTurns 17 with hl
  have hprepared : Prepared (busyOffice 1) laptopDisks clients (fun _ => [1]) (fun _ => laptopName) (fun _ => mersenneKey) :=
    prepared_team 1 r.text
  have hlucky : (World.reached (busyOffice 1) laptopDisks clients l).Lucky := lucky_team 1 _ _ _ (by decide)
  have hall := hprepared.undisturbed l hlucky
  have hkept : ∀ {i x}, (World.reached (busyOffice 1) laptopDisks clients l).result? i = some x → ¬ IsExhausted x :=
    hall.not_isExhausted (Nat.le_refl 1)
  have hdropped : (World.reached (busyOffice 1) laptopDisks clients l).result? 0 = some (.ok (some r)) := by
    rw [World.reached, hl, World.after_append]
    exact World.result?_after hr _
  obtain ⟨x₂, hx₂⟩ := hall.ended 2 (by decide)
  obtain ⟨r', rfl⟩ := (hall.dropped 2 "in" x₂ rfl hx₂).resolve_left (hkept hx₂)
  obtain ⟨x₁, hx₁⟩ := hall.ended 1 (by decide)
  obtain ⟨rfl, route, hroute, hnode⟩ := (hall.pulled _ _ 0 1 "in" [104, 105] r r.text "out" x₁ rfl (by decide) rfl rfl
    provides_laptop hr rfl hparse hx₁).resolve_left (hkept hx₁)
  refine ⟨r, r', hprepared, hlucky, hall, hdropped, hx₂,
    hall.distinct 0 2 "in" "in" r r' (by decide) rfl rfl hdropped hx₂, hx₁, ?_⟩
  cases (destination?_laptop r.text).symm.trans hroute
  have hbits : (clients 1).machine.masked 0o644 = 0o644 := show laptop.masked 0o644 = 0o644 from rfl
  rwa [hbits] at hnode

/-- A pull to a name with a slash behind it fails, whatever the remote answers. -/
theorem result?_team_slash [DecidableEq δ] {u : Remote} {disk : Fin 3 → δ} {reference : String} {w : World (Fin 3) δ}
    (hsession : w.sessions 1 = (World.start u laptopDisks (team disk reference "out/")).sessions 1)
    (hmachine : w.machine 1 = laptop) :
    ∃ e, (w.after (List.replicate Task.length 1)).result? 1 = some (.error e) := by
  obtain ⟨l, x, m, u', hpull⟩ := Op.exists_runs transport (pull laptopSettings reference "out/") laptop w.remote
  have hne : (Op.run transport (pull laptopSettings reference "out/") laptop w.remote).1 ≠ .ok () :=
    run_pull_ne_ok transport writable_slash (.inl (by decide))
  rw [hpull.run_eq] at hne
  cases x with
  | ok a => exact absurd rfl hne
  | error e =>
    have hwithin : (w.sessions 1).Within Task.length := by
      rw [hsession]
      exact Task.within_operation (.pull reference "out/") laptopSettings
    have hrun : Session.run transport (w.sessions 1) (w.machine 1) w.remote = (.error e, m, u') := by
      rw [hsession, hmachine]
      exact (hpull.bind_error fun _ => pure none).run_eq
    exact ⟨e, (World.after_replicate hwithin hrun).1⟩

/-- It is not enough that destinations can be written: with nobody else around, a pull of what was dropped before to a name with
a slash behind it fails, although the office refuses nothing. -/
theorem disturbed_although_writable :
    ∃ r : Reference,
      let clients := team id r.text "out/"
      let l := List.replicate 17 0 ++ List.replicate 17 1
      (∀ i, Equipped (clients i).settings ((clients i).on laptopDisks) [1] laptopName mersenneKey) ∧
        (busyOffice 0).Enrolled laptopName mersenneKey ∧ (busyOffice 0).fixedId = none ∧
        (busyOffice 0).corruptDownloads = false ∧ (∀ i j, (clients i).disk = (clients j).disk → i = j) ∧
        ((clients 0).on laptopDisks).Provides "in" [104, 105] ∧
        Writable ((clients 1).on laptopDisks) "out/" "out/" [] "out" ∧
        (World.reached (busyOffice 0) laptopDisks clients l).Lucky ∧
        (World.reached (busyOffice 0) laptopDisks clients (List.replicate 17 0)).result? 0 = some (.ok (some r)) ∧
        ¬ Undisturbed (busyOffice 0) laptopDisks clients (fun _ => [1]) l := by
  obtain ⟨r, m, u, hparse, hfirst⟩ := exists_reference_team 0 (by decide) id
  obtain ⟨hr, hremote, hdisks⟩ := hfirst r.text "out/"
  refine ⟨r, fun _ => equipped_laptop, enrolled_busyOffice 0, rfl, rfl, fun _ _ h => h, provides_laptop, writable_slash,
    lucky_team 0 _ _ _ (by decide), hr, fun hall => ?_⟩
  obtain ⟨hsession, hmachine⟩ := (World.start (busyOffice 0) laptopDisks (team id r.text "out/")).after_of_not_mem
    (j := 1) (l := List.replicate Task.length 0) (by decide)
  set w := World.reached (busyOffice 0) laptopDisks (team id r.text "out/") (List.replicate Task.length 0) with hw
  have hdisk : w.disks (w.disk 1) = laptop.tree := by
    have hne : (1 : Fin 3) ≠ 0 := by decide
    rw [hdisks, hw, World.reached, World.disk_after]
    exact Function.update_of_ne hne _ _
  have hlaptop : w.machine 1 = laptop := by
    rw [World.machine, hdisk]
    exact congrArg (fun m => { m with tree := laptop.tree }) hmachine
  obtain ⟨e, he⟩ := result?_team_slash hsession hlaptop
  rw [← World.after_append] at he
  obtain ⟨hok, -⟩ := (hall.pulled _ _ 0 1 "in" [104, 105] r r.text "out/" _ rfl (by decide) rfl rfl provides_laptop hr rfl
    hparse he).resolve_left (hall.not_isExhausted (Nat.zero_le 1) he)
  cases hok

end SealedDrop
