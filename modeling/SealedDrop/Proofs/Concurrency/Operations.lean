import SealedDrop.Proofs.Concurrency.Assurance
import SealedDrop.Proofs.Drop

/-!
# Drops and pulls beside others

What a drop or a pull comes to if others run between its steps, and which files matter for that.

## The model

* `Task.seen` lists the routes that an operation looks at, on the tree before it starts: those on the way to its keys, to the file
  that it drops, or to the directory of its destination. `Task.written` lists the two that a pull writes to.
* `Task.Ready` says that the machine and the settings provide what the operation needs.
* `Task.Ends` is the rule for its end. It says nothing of a pull whose object the remote does not hold, except that such a pull is
  not told to be exhausted unless it was refused twice.

## What is proved

`Task.assured` — an operation that is ready is assured of its end.
-/

namespace SealedDrop

open Remote Op Exchange

variable {c : Scope} {o : Outlook} {s : Settings} {key plaintext : Bytes} {name : KeyName} {k : Rsa.PrivateKey}

/-! ### What matters to an operation -/

/-- The routes on the way to the keys of a client. -/
def Settings.keyWays (s : Settings) (m : Machine) : List Route :=
  match s.encryptionKeyPath, s.privateKeyPath with
  | .ok shared, .ok own => m.ways shared ++ m.ways own
  | _, _ => []

namespace Machine

/-- The directory that a path leads to, a leading tilde expanded, and the name in it. -/
def site? (m : Machine) (raw : String) : Option (Route × String) :=
  match Home.expand m.home raw with
  | .ok path =>
    match m.tree.parent m.workDir path with
    | .ok (place, some (.name file)) => some (place, file)
    | _ => none
  | .error _ => none

/-- The routes on the way to that directory. -/
def approach (m : Machine) (raw : String) : List Route :=
  match Home.expand m.home raw with
  | .ok path => m.tree.approaches m.workDir path
  | .error _ => []

theorem site?_of_accepts {m : Machine} {destination path file : String} {place : Route}
    (h : Accepts m destination path place file) : m.site? destination = some (place, file) := by
  obtain ⟨place', file', hparent, -, heq⟩ := h.names
  obtain ⟨rfl, rfl⟩ := List.cons.inj heq
  rw [site?, h.expanded]
  simp only [hparent]

theorem approach_of_accepts {m : Machine} {destination path file : String} {place : Route}
    (h : Accepts m destination path place file) : m.approach destination = m.tree.approaches m.workDir path := by
  rw [approach, h.expanded]

end Machine

namespace Task

/-- The route of the file that a pull puts in place. -/
def destination? (m : Machine) : Task → Option Route
  | .drop _ => none
  | .pull _ destination => (m.site? destination).map fun (place, file) => file :: place

/-- The routes that an operation writes to: its destination and its temporary file. -/
def written (m : Machine) : Task → List Route
  | .drop _ => []
  | .pull _ destination =>
    match m.site? destination with
    | some (place, file) => [file :: place, m.temporaryRoute place file]
    | none => []

/-- The routes that matter to an operation. -/
def seen (s : Settings) (m : Machine) : Task → List Route
  | .drop path => s.keyWays m ++ m.ways path
  | .pull reference destination => s.keyWays m ++ m.approach destination ++ written m (.pull reference destination)

/-- The machine provides what an operation needs: the file that is dropped, or a destination that takes a file. -/
def Ready (m : Machine) : Task → Prop
  | .drop path => ∃ plaintext, m.Provides path plaintext
  | .pull _ destination => ∃ path place file, Accepts m destination path place file

end Task

/-! The routes that matter have entries at the start, but for those of a pull's own files. -/

theorem Machine.Provides.node?_ne_none {m : Machine} {raw : String} {b : Bytes} (h : m.Provides raw b) :
    ∀ r ∈ m.ways raw, m.tree.node? r ≠ none := by
  obtain ⟨path, n, hpath, hn, -⟩ := h
  rw [m.ways_of_expand hpath]
  exact FileTree.node?_ne_none_of_mem_lookups hn

theorem Exchange.Equipped.node?_ne_none {m : Machine} (h : Equipped s m key name k) :
    ∀ r ∈ s.keyWays m, m.tree.node? r ≠ none := by
  obtain ⟨shared, hshared, hkey⟩ := h.sharedKey
  obtain ⟨own, text, hown, htext, -⟩ := h.privateKey
  rw [Settings.keyWays, hshared, hown]
  intro r hr
  rcases List.mem_append.mp hr with hr | hr
  · exact hkey.node?_ne_none r hr
  · exact htext.node?_ne_none r hr

namespace Task

variable {m : Machine} {task : Task} {r : Route}

/-- An operation writes to its destination, and to a temporary route that has no entry yet. -/
theorem Ready.written_cases (h : task.Ready m) (hr : r ∈ task.written m) :
    ∃ place file, task.destination? m = some (file :: place) ∧
      (r = file :: place ∨ r = m.temporaryRoute place file ∧ m.tree.node? r = none) := by
  cases task with
  | drop path => cases hr
  | pull reference destination =>
    obtain ⟨path, place, file, haccepts⟩ := h
    have hsite := Machine.site?_of_accepts haccepts
    obtain ⟨directory, -, hnew⟩ := haccepts.exists_newRoute
    obtain ⟨-, -, hnone⟩ := FileTree.newRoute_eq_ok_iff.mp hnew
    rw [written, hsite] at hr
    refine ⟨place, file, ?_, ?_⟩
    · rw [destination?, hsite]
      rfl
    · rcases List.mem_cons.mp hr with hr | hr
      · exact .inl hr
      · rw [List.mem_singleton.mp hr]
        exact .inr ⟨rfl, hnone⟩

theorem Ready.seen_cases (h : task.Ready m) (hclient : Equipped s m key name k) (hr : r ∈ task.seen s m) :
    m.tree.node? r ≠ none ∨ r ∈ task.written m := by
  cases task with
  | drop path =>
    obtain ⟨plaintext, hfile⟩ := h
    rcases List.mem_append.mp hr with hr | hr
    · exact .inl (hclient.node?_ne_none r hr)
    · exact .inl (hfile.node?_ne_none r hr)
  | pull reference destination =>
    obtain ⟨path, place, file, haccepts⟩ := h
    rw [seen, Machine.approach_of_accepts haccepts] at hr
    rcases List.mem_append.mp hr with hr | hr
    · rcases List.mem_append.mp hr with hr | hr
      · exact .inl (hclient.node?_ne_none r hr)
      · obtain ⟨place', s', hparent, -⟩ := haccepts.names
        exact .inl (FileTree.node?_ne_none_of_mem_approaches hparent r hr)
    · exact .inr hr

/-- The destination is among these. -/
theorem mem_written_of_destination? (h : task.destination? m = some r) : r ∈ task.written m := by
  cases task with
  | drop path => cases h
  | pull reference destination =>
    obtain ⟨⟨place, file⟩, hsite, rfl⟩ := Option.map_eq_some_iff.mp h
    rw [written, hsite]
    exact List.mem_cons_self

/-- An operation looks at all routes that it writes to. -/
theorem mem_seen_of_mem_written (s : Settings) (hr : r ∈ task.written m) : r ∈ task.seen s m := by
  cases task with
  | drop path => cases hr
  | pull reference destination => exact List.mem_append_right _ hr

end Task

/-- The operation has given up because its tokens were refused. -/
def IsExhausted (x : Outcome) : Prop :=
  ∃ n, x = .error (.authExhausted n)

/-- How an operation ends, with these calls and on this tree: given up after two refusals, or as it should. A drop stores an
envelope of its file and tells its reference; a pull of an object that is held puts the plaintext in place. -/
def Task.Ends (c : Scope) (key : Bytes) (m : Machine) (task : Task) (x : Outcome) (o : Outlook) : Prop :=
  (IsExhausted x → 2 ≤ o.turns.countP Turn.isRefused) ∧
    match task with
    | .drop path => ∀ plaintext, m.Provides path plaintext → IsExhausted x ∨
      ∃ id envelope, x = .ok (some (.ofTransmitted ⟨id⟩ envelope)) ∧ ObjectId.Safe id ∧
        Envelope.decrypt key envelope = .ok plaintext ∧ ∃ y ∈ o.turns, y.stores? = some (id, envelope)
    | .pull reference destination => ∀ id envelope plaintext, (id, envelope) ∈ c.objects → ObjectId.Safe id →
      Reference.parse reference = .ok (.ofTransmitted ⟨id⟩ envelope) → Envelope.decrypt key envelope = .ok plaintext →
      IsExhausted x ∨ x = .ok none ∧
        ∃ route, (Task.pull reference destination).destination? m = some route ∧
          o.machine.tree.node? route = some (.file (m.masked 0o644) plaintext)

/-! ### The client -/

theorem Exchange.privateKeyPath_of_credentials {who : Credentials} (h : credentials s = .ok who) :
    s.privateKeyPath = .ok who.privateKey := by
  unfold credentials at h
  cases hname : s.registeredName with
  | error e =>
    rw [hname] at h
    cases h
  | ok name =>
    rw [hname] at h
    cases hpath : s.privateKeyPath with
    | error e =>
      rw [hpath] at h
      cases h
    | ok path =>
      rw [hpath] at h
      cases h
      rfl

/-- A client with all that it needs is ready to send requests, and to load its shared key, whatever it has drawn before. -/
theorem Exchange.Equipped.exists_ready {m : Machine} (h : Equipped s m key name k) (hseen : ∀ r ∈ s.keyWays m, r ∈ c.seen)
    (henrolled : ∀ u : Remote, u.Upholds c.keys c.objects → u.Enrolled name k) :
    ∃ keyPath who, s.encryptionKeyPath = .ok keyPath ∧ credentials s = .ok who ∧
      ∀ e : Entropy, Credentials.Ready c who k { m with entropy := e } ∧
        (Secret.load keyPath).outcome { m with entropy := e } = .ok ⟨key⟩ ∧ ∀ r ∈ m.ways keyPath, r ∈ c.seen := by
  obtain ⟨keyPath, who, hkeyPath, hwho, rfl, hkeys⟩ := h.exists_credentials
  rw [Settings.keyWays, hkeyPath, privateKeyPath_of_credentials hwho] at hseen
  have hshared : ∀ r ∈ m.ways keyPath, r ∈ c.seen := fun r hr => hseen r (List.mem_append_left _ hr)
  have hown : ∀ r ∈ m.ways who.privateKey, r ∈ c.seen := fun r hr => hseen r (List.mem_append_right _ hr)
  exact ⟨keyPath, who, hkeyPath, hwho, fun e =>
    ⟨⟨(hkeys e).1, KeyFile.confined_loadPrivate hown, henrolled⟩, (hkeys e).2, hshared⟩⟩

/-! ### Dropping -/

/-- The upload that is served is the one that stores the envelope. -/
theorem exists_stores_of_served {envelope : Bytes} {v : Remote} {l : List Turn} (h : Credentials.Served c (upload envelope) v l) :
    ∃ id, ObjectId.Safe id ∧ (v.serve (upload envelope)).1 = reply 200 id ∧ ∃ y ∈ l, y.stores? = some (id, envelope) := by
  obtain ⟨u, token, hturn, hserve⟩ := h.turn
  obtain ⟨id, hsafe, hreply, -⟩ := serve_upload v (fun id hid => by rw [h.upholds.fixedId] at hid; cases hid) envelope
  refine ⟨id, hsafe, hreply, _, hturn, ?_⟩
  change (v.serve (upload envelope)).1 = _ at hreply
  have hanswer : (u.execute (upload envelope) token).1 = reply 200 id := by rw [hserve, hreply]
  have htext : text? (utf8 id) = some id := text?_utf8 id
  simp only [Turn.stores?, hanswer]
  rw [if_pos ⟨rfl, rfl, rfl⟩, reply, htext]
  rfl

/-- A drop gives up after two refusals, or stores an envelope of its file and tells its reference. -/
theorem Exchange.assured_drop {path : String} {Q : Except Error Reference → Outlook → Prop}
    (hclient : Equipped s o.machine key name k) (hkey : key ≠ []) (hfile : o.machine.Provides path plaintext)
    (hseen : ∀ r ∈ (Task.drop path).seen s o.machine, r ∈ c.seen)
    (henrolled : ∀ u : Remote, u.Upholds c.keys c.objects → u.Enrolled name k)
    (hexhausted : ∀ o', 2 ≤ o'.turns.countP Turn.isRefused → Q (.error (.authExhausted 2)) o')
    (hdropped : ∀ id envelope o', ObjectId.Safe id → Envelope.decrypt key envelope = .ok plaintext →
      (∃ y ∈ o'.turns, y.stores? = some (id, envelope)) → Q (.ok (.ofTransmitted ⟨id⟩ envelope)) o') :
    (Exchange.drop s path).Assured c Q o := by
  obtain ⟨keyPath, who, hkeyPath, hwho, hready⟩ :=
    hclient.exists_ready (fun r hr => hseen r (List.mem_append_left _ hr)) henrolled
  obtain ⟨path', n, hpath, hn, hdata⟩ := hfile
  have hways : ∀ r ∈ o.machine.tree.lookups o.machine.workDir path', r ∈ c.seen := by
    intro r hr
    rw [← Machine.ways_of_expand hpath] at hr
    exact hseen r (List.mem_append_right _ hr)
  obtain ⟨-, hload, hshared⟩ := hready o.machine.entropy
  obtain ⟨envelope, hdecrypt, hencrypt⟩ := runs_encryptFile (m := o.machine) silent hkey hload plaintext ()
  have hread := (runs_readFile silent hclient.reliable hn hdata ())
  have hpost : ¬ objectsPath = tokenPath ∧ ¬ objectsPath = addKeyPath := by decide
  unfold Exchange.drop
  refine .check_bind hkeyPath (.check_bind hwho ?_)
  refine .looks_bind (observes_expandHome path) (confined_expandHome path) hpath ?_
  refine .looks_bind (observes_readFile path') (confined_readFile hways) ((observes_readFile path').outcome_eq hread) ?_
  refine .confined_bind (confined_encryptFile hshared plaintext) hencrypt ?_
  refine .bind (Credentials.assured_send (hready (o.machine.entropy.skip Envelope.ivSize)).1 (fun h => hpost.1 h.2)
    (fun h => hpost.2 h.2) (fun o' _ hcount => ⟨fun response hok => ?_, fun e he => ?_⟩)
    fun v o' _ hserved => ?_)
  · cases hok
  · cases he
    exact hexhausted o' hcount
  · obtain ⟨id, hsafe, hreply, hstores⟩ := exists_stores_of_served hserved
    have hended : Credentials.conclude (Credentials.judge (upload envelope) (.ok (v.serve (upload envelope)).1)) =
        .ok (reply 200 id) := by
      rw [hreply, Credentials.judge_eq_some_iff.mpr ⟨rfl, rfl⟩]
      rfl
    refine ⟨fun response hok => ?_, fun e he => ?_⟩
    · cases hended.symm.trans hok
      exact .check_bind hsafe.storedId (.pure (hdropped id envelope o' hsafe hdecrypt hstores))
    · cases hended.symm.trans he

/-- A drop is assured of its end. -/
theorem Task.assured_drop {path : String} (hclient : Equipped s o.machine key name k) (hkey : key ≠ [])
    (hfile : o.machine.Provides path plaintext) (hseen : ∀ r ∈ (Task.drop path).seen s o.machine, r ∈ c.seen)
    (henrolled : ∀ u : Remote, u.Upholds c.keys c.objects → u.Enrolled name k) :
    ((Task.drop path).operation s).Assured c ((Task.drop path).Ends c key o.machine) o := by
  refine .bind (Exchange.assured_drop hclient hkey hfile hseen henrolled (fun o' hcount => ⟨fun r hr => ?_, fun e he => ?_⟩)
    fun id envelope o' hid hdecrypt hstores => ⟨fun r hr => ?_, fun e he => ?_⟩)
  · cases hr
  · cases he
    exact ⟨fun _ => hcount, fun _ _ => .inl ⟨2, rfl⟩⟩
  · cases hr
    refine .pure ⟨?_, fun plaintext' hfile' => ?_⟩
    · rintro ⟨n, hn⟩
      cases hn
    · rw [hfile'.unique hfile]
      exact .inr ⟨id, envelope, rfl, hid, hdecrypt, hstores⟩
  · cases he

/-! ### Pulling -/

/-- How the pull of a reference to a machine ends, with these calls and on this tree. -/
structure Exchange.PullEnds (c : Scope) (key : Bytes) (m : Machine) (r : Reference) (route : Route) (x : Except Error Unit)
    (o : Outlook) : Prop where
  /-- It gives up after two refusals only. -/
  refused : ∀ n, x = .error (.authExhausted n) → 2 ≤ o.turns.countP Turn.isRefused
  /-- If the remote holds the object, it gives up or puts the plaintext in place. -/
  held : ∀ id envelope plaintext, (id, envelope) ∈ c.objects → ObjectId.Safe id → r = .ofTransmitted ⟨id⟩ envelope →
    Envelope.decrypt key envelope = .ok plaintext → x = .error (.authExhausted 2) ∨
      x = .ok () ∧ o.machine.tree.node? route = some (.file (m.masked 0o644) plaintext)

/-- What is delivered is refused, or its plaintext is put in place. If the remote holds the object, that is what is delivered. -/
theorem Exchange.assured_accept {r : Reference} {keyPath destination path file : String} {place : Route} {body : Bytes}
    (haccepts : Accepts o.machine destination path place file) (hkey : key ≠ [])
    (hload : (Secret.load keyPath).outcome o.machine = .ok ⟨key⟩) (hshared : ∀ r ∈ o.machine.ways keyPath, r ∈ c.seen)
    (hway : ∀ r ∈ o.machine.tree.approaches o.machine.workDir path, r ∈ c.seen)
    (hwritten : ∀ r ∈ [file :: place, o.machine.temporaryRoute place file], r ∈ c.seen ∧ r ∈ c.written)
    (hbody : ∀ id envelope, (id, envelope) ∈ c.objects → ObjectId.Safe id → r = .ofTransmitted ⟨id⟩ envelope → body = envelope) :
    (accept r keyPath path body).Assured c (PullEnds c key o.machine r (file :: place)) o := by
  unfold accept
  by_cases hv : r.verify body = true
  · rw [if_neg (not_not_intro hv)]
    refine .looks_bind (Secret.observes_load keyPath) (Secret.confined_load hshared) hload ?_
    cases hplain : Envelope.decrypt key body with
    | error e =>
      obtain ⟨what, hwhat⟩ := Envelope.decrypt_eq_integrity hkey fun plaintext hok => by rw [hplain] at hok; cases hok
      rw [hplain] at hwhat
      cases hwhat
      refine .check_error_bind ⟨fun n hn => ?_, fun id envelope plaintext hobject hid hr hok => ?_⟩ _
      · cases hn
      · rw [hbody id envelope hobject hid hr, hok] at hplain
        cases hplain
    | ok plaintext =>
      refine .check_bind rfl ?_
      obtain ⟨m, hrun, htree⟩ := runs_replace_accepts silent haccepts plaintext pulledMode ()
      obtain ⟨hroute, htemporary⟩ := List.forall_mem_cons.mp hwritten
      rw [List.forall_mem_singleton] at htemporary
      refine .of_confined (confined_replace haccepts hway hroute.1 hroute.2 htemporary.1 htemporary.2 plaintext pulledMode)
        hrun ⟨fun n hn => ?_, fun id envelope plaintext' hobject hid hr hok => .inr ⟨rfl, ?_⟩⟩
      · cases hn
      · rw [hbody id envelope hobject hid hr, hok] at hplain
        cases hplain
        rw [htree, FileTree.node?_put_self _ _ haccepts.names.ne_nil]
        rfl
  · rw [if_pos hv]
    refine .throw_bind ⟨fun n hn => ?_, ?_⟩ _
    · cases hn
    · rintro id envelope plaintext hobject hid rfl -
      rw [hbody id envelope hobject hid rfl] at hv
      exact absurd (Checksum.isOf_ofBytes envelope) hv

/-- The object that is held is what the request for it is answered with. -/
theorem serve_get_of_upholds {id : String} {envelope : Bytes} {v : Remote} (h : v.Upholds c.keys c.objects)
    (hobject : (id, envelope) ∈ c.objects) (hid : ObjectId.Safe id) :
    (v.serve (.get (ObjectId.path ⟨id⟩))).1 = ⟨200, envelope⟩ := by
  rw [serve_get (h.holds _ hobject).object hid.1 h.corruptDownloads]

/-- The pull of a reference is assured of its end. -/
theorem Exchange.assured_pullReference {r : Reference} {destination path file : String} {place : Route}
    (hclient : Equipped s o.machine key name k) (hkey : key ≠ []) (haccepts : Accepts o.machine destination path place file)
    (hkeyWays : ∀ r ∈ s.keyWays o.machine, r ∈ c.seen)
    (hway : ∀ r ∈ o.machine.tree.approaches o.machine.workDir path, r ∈ c.seen)
    (hwritten : ∀ r ∈ [file :: place, o.machine.temporaryRoute place file], r ∈ c.seen ∧ r ∈ c.written)
    (henrolled : ∀ u : Remote, u.Upholds c.keys c.objects → u.Enrolled name k) :
    (pullReference s r destination).Assured c (PullEnds c key o.machine r (file :: place)) o := by
  obtain ⟨keyPath, who, hkeyPath, hwho, hready⟩ := hclient.exists_ready hkeyWays henrolled
  obtain ⟨hsends, hload, hshared⟩ := hready o.machine.entropy
  change Assured c _ (do
      let keyPath ← Op.check s.encryptionKeyPath
      let who ← Op.check (credentials s)
      let path ← expandHome destination
      let response ← who.send (.get r.objectId.path)
      accept r keyPath path response.body) o
  refine .check_bind hkeyPath (.check_bind hwho ?_)
  refine .looks_bind (observes_expandHome destination) (confined_expandHome destination) haccepts.expanded ?_
  refine .bind (Credentials.assured_send hsends (fun h => by cases h.1) (fun h => by cases h.1)
    (fun o' _ hcount => ⟨fun response hok => ?_, fun e he => ?_⟩) fun v o' hm hserved => ?_)
  · cases hok
  · cases he
    exact ⟨fun n _ => hcount, fun _ _ _ _ _ _ _ => .inl rfl⟩
  obtain ⟨m, turns, token⟩ := o'
  obtain rfl : m = o.machine := hm
  -- what is delivered of an object that is held
  have hheld : ∀ id envelope, (id, envelope) ∈ c.objects → ObjectId.Safe id → r = .ofTransmitted ⟨id⟩ envelope →
      (v.serve (.get r.objectId.path)).1 = ⟨200, envelope⟩ := by
    rintro id envelope hobject hid rfl
    exact serve_get_of_upholds hserved.upholds hobject hid
  have hstatus := status_serve_ne v (.get r.objectId.path)
  generalize (v.serve (.get r.objectId.path)).1 = response at hheld hstatus ⊢
  rw [Credentials.judge_ok]
  split
  · refine ⟨fun a ha => ?_, fun e he => ?_⟩
    · cases ha
      exact assured_accept (o := ⟨o.machine, turns, token⟩) haccepts hkey hload hshared hway hwritten fun id envelope hobject hid hr =>
        congrArg Response.body (hheld id envelope hobject hid hr)
    · cases he
  · next hs =>
    rw [if_neg (mt (Credentials.isUnauthorized_iff response).mp hstatus)]
    refine ⟨fun a ha => ?_, fun e he => ⟨fun n hn => ?_, fun id envelope plaintext hobject hid hr _ => ?_⟩⟩
    · cases ha
    · cases hn
      cases he
    · -- an answer that is no success is not the object
      rw [hheld id envelope hobject hid hr] at hs
      exact absurd rfl hs

/-- A pull is assured of its end. -/
theorem Task.assured_pull {reference destination path file : String} {place : Route}
    (hclient : Equipped s o.machine key name k) (hkey : key ≠ []) (haccepts : Accepts o.machine destination path place file)
    (hseen : ∀ r ∈ (Task.pull reference destination).seen s o.machine, r ∈ c.seen)
    (hwritten : ∀ r ∈ (Task.pull reference destination).written o.machine, r ∈ c.written)
    (henrolled : ∀ u : Remote, u.Upholds c.keys c.objects → u.Enrolled name k) :
    ((Task.pull reference destination).operation s).Assured c ((Task.pull reference destination).Ends c key o.machine) o := by
  have hsite := Machine.site?_of_accepts haccepts
  have hroutes : Task.written o.machine (.pull reference destination) =
      [file :: place, o.machine.temporaryRoute place file] := by
    rw [Task.written, hsite]
  rw [hroutes] at hwritten
  rw [Task.seen, hroutes, Machine.approach_of_accepts haccepts] at hseen
  have hkeyWays : ∀ r ∈ s.keyWays o.machine, r ∈ c.seen :=
    fun r hr => hseen r (List.mem_append_left _ (List.mem_append_left _ hr))
  have hway : ∀ r ∈ o.machine.tree.approaches o.machine.workDir path, r ∈ c.seen :=
    fun r hr => hseen r (List.mem_append_left _ (List.mem_append_right _ hr))
  have hboth : ∀ r ∈ [file :: place, o.machine.temporaryRoute place file], r ∈ c.seen ∧ r ∈ c.written :=
    fun r hr => ⟨hseen r (List.mem_append_right _ hr), hwritten r hr⟩
  have hroute : Task.destination? o.machine (.pull reference destination) = some (file :: place) := by
    rw [Task.destination?, hsite]
    rfl
  change Op.Assured c _ ((Op.check (Reference.parse reference) >>= fun r => pullReference s r destination) >>= fun _ =>
    pure none) o
  refine .bind ?_
  cases hparse : Reference.parse reference with
  | error e =>
    obtain ⟨what, rfl⟩ := Reference.parse_eq_error hparse
    refine .check_error_bind ⟨fun _ h => (by cases h), fun e he => ?_⟩ _
    cases he
    refine ⟨fun ⟨n, hn⟩ => (by cases hn), fun id envelope plaintext _ _ hr _ => ?_⟩
    rw [hparse] at hr
    cases hr
  | ok r =>
    refine .check_bind rfl ((Exchange.assured_pullReference hclient hkey haccepts hkeyWays hway hboth henrolled).mono ?_)
    intro x o' hends
    have hheld : ∀ id envelope plaintext, (id, envelope) ∈ c.objects → ObjectId.Safe id →
        Reference.parse reference = .ok (.ofTransmitted ⟨id⟩ envelope) → Envelope.decrypt key envelope = .ok plaintext →
          x = .error (.authExhausted 2) ∨
            x = .ok () ∧ o'.machine.tree.node? (file :: place) = some (.file (o.machine.masked 0o644) plaintext) := by
      intro id envelope plaintext hobject hid hr
      rw [hparse, Except.ok.injEq] at hr
      exact hends.held id envelope plaintext hobject hid hr
    refine ⟨fun a ha => .pure ⟨?_, ?_⟩, fun e he => ⟨?_, ?_⟩⟩
    · rintro ⟨n, hn⟩
      cases hn
    · intro id envelope plaintext hobject hid hr hdecrypt
      rcases hheld id envelope plaintext hobject hid hr hdecrypt with hx | ⟨-, hnode⟩
      · rw [ha] at hx
        cases hx
      · exact .inr ⟨rfl, _, hroute, hnode⟩
    · rintro ⟨n, hn⟩
      cases hn
      exact hends.refused n he
    · intro id envelope plaintext hobject hid hr hdecrypt
      rcases hheld id envelope plaintext hobject hid hr hdecrypt with hx | ⟨hx, -⟩
      · rw [he] at hx
        cases hx
        exact .inl ⟨2, rfl⟩
      · rw [he] at hx
        cases hx

/-! ### Both -/

/-- **Every operation is assured of its end**, if it is ready and its scope covers what matters to it. -/
theorem Task.assured {task : Task} (hclient : Equipped s o.machine key name k) (hkey : key ≠ [])
    (hready : task.Ready o.machine) (hseen : ∀ r ∈ task.seen s o.machine, r ∈ c.seen)
    (hwritten : ∀ r ∈ task.written o.machine, r ∈ c.written)
    (henrolled : ∀ u : Remote, u.Upholds c.keys c.objects → u.Enrolled name k) :
    (task.operation s).Assured c (task.Ends c key o.machine) o := by
  cases task with
  | drop path =>
    obtain ⟨plaintext, hfile⟩ := hready
    exact Task.assured_drop hclient hkey hfile hseen henrolled
  | pull reference destination =>
    obtain ⟨path, place, file, haccepts⟩ := hready
    exact Task.assured_pull hclient hkey haccepts hseen hwritten henrolled

end SealedDrop
