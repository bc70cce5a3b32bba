import SealedDrop.Proofs.Concurrency.Assurance

/-!
# Operations in harmony

What every step of every operation keeps of the world, so that each operation comes to the end that it is assured of.

## The model

* A world is `Consistent` with a number of refusals if its log tells the truth about its remote: what was stored is held, under
  identifiers that differ, and the calls that were refused are those that the remote was told to refuse.
* An operation is `Attuned` to the world if its outlook is right: its machine differs from the one it would have alone only in
  routes that do not matter to it, its calls are those in the log, and its token is live.
* Worlds are in `Harmony` if all this holds, no token belongs to two operations, and no operation writes where another one looks.
* `Lucky` is what is left to chance and to size: no token was issued twice, and the number of objects has not wrapped.

## What is proved

* `Harmony.step`, `Harmony.after` — harmony lasts as long as luck does.
* `Attuned.ends` — an operation that has ended has come to what it is assured of.
-/

namespace SealedDrop

open Remote

/-- A request for a token is never answered 401. -/
theorem Remote.status_issueToken_ne (u : Remote) (body : Bytes) : (u.issueToken body).1.status ≠ 401 := by
  unfold issueToken
  simp only
  split
  · split
    · exact Nat.ne_of_beq_eq_false rfl
    · split <;> exact Nat.ne_of_beq_eq_false rfl
  · exact Nat.ne_of_beq_eq_false rfl

namespace World

variable {ι δ : Type} {w : World ι δ} {i j : ι} {pending : Nat} {r : Request} {token : Option BearerToken}

/-! ### The log and the remote -/

/-- The objects that were stored. -/
def stored (w : World ι δ) : List (String × Bytes) :=
  w.log.filterMap (·.2.stores?)

/-- The tokens that were issued. -/
def issued (w : World ι δ) : List String :=
  w.log.filterMap (·.2.issued?)

/-- No token was issued twice, and the number of objects has not wrapped. -/
structure Lucky (w : World ι δ) : Prop where
  /-- Each token is new. -/
  tokens : w.issued.Nodup
  /-- Each object gets a number of its own. -/
  count : ∀ x ∈ w.log, x.2.before.stored ≤ (x.2.before.apply x.2.event).stored

/-- What was lucky in the end was so before. -/
theorem Lucky.of_prefix {w' : World ι δ} (h : w'.Lucky) (hlog : w.log <+: w'.log) : w.Lucky where
  tokens := (hlog.filterMap _).sublist.nodup h.tokens
  count x hx := h.count x (hlog.subset hx)

/-- The log tells the truth about the remote, which was told to refuse this many requests. -/
structure Consistent (w : World ι δ) (pending : Nat) : Prop where
  /-- What was stored is held. -/
  upholds : w.remote.Upholds w.remote.keys w.stored
  /-- Each object has an identifier of its own. -/
  distinct : (w.stored.map Prod.fst).Nodup
  /-- The refusals are those that were done and those to come. -/
  refused : w.log.countP (·.2.isRefused) + w.remote.rejectNext.toNat = pending
  /-- Each refusal was due. -/
  due : ∀ x ∈ w.log, x.2.isRefused = true → 0 < x.2.before.rejectNext

/-- A call of an operation, with a token that is live unless the call asks for one, is refused just if a refusal is due. -/
theorem isRefused_iff {u : Remote} (htoken : AsksToken r ∨ ∃ t, token = some t ∧ u.isLive t.text = true) :
    Turn.isRefused ⟨u, .request r token⟩ = true ↔ ¬ AsksToken r ∧ 0 < u.rejectNext := by
  simp only [Turn.isRefused, decide_eq_true_eq]
  by_cases hr : AsksToken r
  · rw [execute_of_asksToken hr]
    exact ⟨fun hstatus => absurd hstatus (status_issueToken_ne u r.body), fun h => absurd hr h.1⟩
  · obtain ⟨t, rfl, hlive⟩ := htoken.resolve_left hr
    rw [status_execute_iff hr]
    refine ⟨fun h => ⟨hr, h.resolve_right fun hno => ?_⟩, fun h => .inl h.2⟩
    rw [hno t rfl] at hlive
    cases hlive

/-- Such a call is refused just if one refusal less is to come after it. -/
theorem refused_add_rejectNext {u : Remote} (htoken : AsksToken r ∨ ∃ t, token = some t ∧ u.isLive t.text = true) :
    (if Turn.isRefused ⟨u, .request r token⟩ then 1 else 0) + (u.execute r token).2.rejectNext.toNat = u.rejectNext.toNat := by
  have hone := rejectNext_apply (s := u) (e := .request r token) fun ⟨n, hn⟩ => by cases hn
  have hrefused := isRefused_iff htoken
  have hpos : 0 < u.rejectNext ↔ 0 < u.rejectNext.toNat := UInt32.lt_iff_toNat_lt
  rw [hpos] at hrefused
  simp only [apply, Event.needsToken, decide_eq_true_eq] at hone
  rw [hone]
  by_cases hasks : AsksToken r
  · rw [if_neg fun hyes => (hrefused.mp hyes).1 hasks, if_neg (not_not_intro hasks)]
    omega
  · rw [if_pos hasks]
    by_cases hdue : 0 < u.rejectNext.toNat
    · rw [if_pos (hrefused.mpr ⟨hasks, hdue⟩)]
      omega
    · rw [if_neg fun hyes => hdue (hrefused.mp hyes).2]
      omega

/-- An object that is stored gets an identifier that no object had which was stored before. -/
theorem Consistent.not_mem_stored (h : w.Consistent pending) {x : String × Bytes}
    (hx : Turn.stores? ⟨w.remote, .request r token⟩ = some x)
    (hcount : w.remote.stored ≤ (w.remote.execute r token).2.stored) : x.1 ∉ w.stored.map Prod.fst := by
  intro hmem
  obtain ⟨y, hy, heq⟩ := List.mem_map.mp hmem
  obtain ⟨hnumber, hnext, -⟩ := holds_of_stores h.upholds.fixedId hx
  obtain ⟨n, hn, hold⟩ := (h.upholds.holds y hy).settled h.upholds.fixedId
  rw [hnext] at hcount
  -- the new number is greater than those of the objects that are held
  have hsame := numberedId_inj ((hold.symm.trans heq).trans hnumber)
  rw [toNat_succ_of_le hcount] at hsame
  omega

/-- Such a call keeps the log true. -/
theorem Consistent.call (h : w.Consistent pending) {w' : World ι δ}
    (hremote : w'.remote = (w.remote.execute r token).2) (hlog : w'.log = w.log ++ [(i, ⟨w.remote, .request r token⟩)])
    (hr : ¬ AddsKey r) (htoken : AsksToken r ∨ ∃ t, token = some t ∧ w.remote.isLive t.text = true)
    (hcount : w.remote.stored ≤ (w.remote.execute r token).2.stored) : w'.Consistent pending := by
  have hkept := h.upholds.execute hr hcount
  have hstored : w'.stored = w.stored ++ (Turn.stores? ⟨w.remote, .request r token⟩).toList := by
    rw [stored, hlog, List.filterMap_append]
    rfl
  refine ⟨?_, ?_, ?_, ?_⟩
  · rw [hremote, hkept.keys_eq, hstored]
    refine ⟨hkept.keys_eq, hkept.fixedId, hkept.corruptDownloads, fun x hx => ?_⟩
    rcases List.mem_append.mp hx with hx | hx
    · exact hkept.holds x hx
    · exact (holds_of_stores h.upholds.fixedId (Option.mem_toList.mp hx)).2.2
  · rw [hstored, List.map_append, List.nodup_append']
    refine ⟨h.distinct, ?_, fun id hid hnew => ?_⟩
    · cases Turn.stores? ⟨w.remote, .request r token⟩ <;> simp
    · obtain ⟨y, hy, rfl⟩ := List.mem_map.mp hnew
      exact h.not_mem_stored (Option.mem_toList.mp hy) hcount hid
  · have hone := refused_add_rejectNext htoken
    have hsum := h.refused
    have hnext : w'.log.countP (·.2.isRefused) = w.log.countP (·.2.isRefused) +
        if Turn.isRefused ⟨w.remote, .request r token⟩ then 1 else 0 := by
      rw [hlog, List.countP_append, List.countP_singleton]
    rw [hremote]
    omega
  · intro x hx hxr
    rw [hlog] at hx
    rcases List.mem_append.mp hx with hx | hx
    · exact h.due x hx hxr
    · rw [List.mem_singleton.mp hx] at hxr ⊢
      exact ((isRefused_iff htoken).mp hxr).2

variable [DecidableEq ι]

/-- What an operation has stored is among what was stored. -/
theorem mem_stored {y : Turn} {x : String × Bytes} (hy : y ∈ w.turnsOf i) (hx : y.stores? = some x) : x ∈ w.stored :=
  List.mem_filterMap.mpr ⟨(i, y), mem_turnsOf.mp hy, hx⟩

/-- Different operations store their objects under different identifiers. -/
theorem Consistent.ne_of_stores (h : w.Consistent pending) (hij : i ≠ j) {y z : Turn} (hy : y ∈ w.turnsOf i)
    (hz : z ∈ w.turnsOf j) {id id' : String} {b b' : Bytes} (hid : y.stores? = some (id, b))
    (hid' : z.stores? = some (id', b')) : id ≠ id' := by
  have hpairs := h.distinct
  rw [stored, List.Nodup, List.pairwise_map, List.pairwise_filterMap] at hpairs
  have hsymm : Std.Symm fun x x' : ι × Turn =>
      ∀ b, x.2.stores? = some b → ∀ b', x'.2.stores? = some b' → b.1 ≠ b'.1 :=
    ⟨fun _ _ hxy b hb b' hb' => (hxy b' hb' b hb).symm⟩
  exact hpairs.forall (mem_turnsOf.mp hy) (mem_turnsOf.mp hz) (fun heq => hij (congrArg Prod.fst heq)) _ hid _ hid'

/-! ### Outlooks -/

variable {c : ι → Scope} {Q : ι → Outcome → Outlook → Prop} {o : ι → Outlook}

/-- The outlook of an operation is right, and the operation is assured of `Q`. -/
structure Attuned (w : World ι δ) (i : ι) (c : Scope) (Q : Outcome → Outlook → Prop) (o : Outlook) : Prop where
  /-- The machine is the one that it would be, but for the files. -/
  machine : w.machine i = { o.machine with tree := w.disks (w.disk i) }
  /-- The files that matter are the same. -/
  agree : FileTree.Agree o.machine.tree (w.disks (w.disk i)) c.seen
  /-- The calls are those in the log. -/
  turns : o.turns = w.turnsOf i
  /-- The token was issued and is live. -/
  token : ∀ t, o.token = some t → t ∈ w.issued ∧ w.remote.isLive t = true
  /-- What the operation relies on is there. -/
  upholds : w.remote.Upholds c.keys c.objects
  /-- What is left of the operation comes to `Q`. -/
  assured : (w.sessions i).Assured c Q o

/-- All operations are attuned, and do not get in each other's way. -/
structure Harmony (w : World ι δ) (c : ι → Scope) (Q : ι → Outcome → Outlook → Prop) (o : ι → Outlook) (pending : Nat) :
    Prop where
  /-- The log tells the truth. -/
  consistent : w.Consistent pending
  /-- Each operation is attuned. -/
  attuned : ∀ i, w.Attuned i (c i) (Q i) (o i)
  /-- No token belongs to two operations. -/
  tokens : ∀ i j t, (o i).token = some t → (o j).token = some t → i = j
  /-- No operation writes where another one looks. -/
  apart : ∀ i j, i ≠ j → w.disk i = w.disk j → ∀ r ∈ (c j).written, r ∉ (c i).seen

/-- An operation that has ended has come to what it is assured of. -/
theorem Attuned.ends {c : Scope} {Q : Outcome → Outlook → Prop} {o : Outlook} (h : w.Attuned i c Q o) {x : Outcome}
    (hx : w.result? i = some x) : Q x o := by
  have hassured := h.assured
  rw [sessions_of_result? hx] at hassured
  exact hassured

/-- An operation may rely on something else, if that is there and what it looks at and writes to is the same. -/
theorem Harmony.rely (h : w.Harmony c Q o pending) {s : Scope} {P : Outcome → Outlook → Prop} (hj : w.Attuned j s P (o j))
    (hseen : s.seen = (c j).seen) (hwritten : s.written = (c j).written) :
    w.Harmony (Function.update c j s) (Function.update Q j P) o pending := by
  have hseen' : ∀ i, (Function.update c j s i).seen = (c i).seen :=
    (Function.forall_update_iff c (p := fun i c' => c'.seen = (c i).seen)).mpr ⟨hseen, fun _ _ => rfl⟩
  have hwritten' : ∀ i, (Function.update c j s i).written = (c i).written :=
    (Function.forall_update_iff c (p := fun i c' => c'.written = (c i).written)).mpr ⟨hwritten, fun _ _ => rfl⟩
  refine ⟨h.consistent, fun i => ?_, h.tokens, fun i₁ i₂ hne hdisk r hr => ?_⟩
  · by_cases hi : i = j
    · subst hi
      rwa [Function.update_self, Function.update_self]
    · rw [Function.update_of_ne hi, Function.update_of_ne hi]
      exact h.attuned i
  · rw [hwritten'] at hr
    rw [hseen']
    exact h.apart i₁ i₂ hne hdisk r hr

/-! ### Effects -/

section Effects

variable [DecidableEq δ] {e : Effect} {next : e.Answer → Session Outcome}

/-- An effect on a tree that is right where it matters is the one that the operation would have alone, and it leaves such a tree;
it changes only routes that are written. -/
theorem Attuned.step_perform {c : Scope} {Q : Outcome → Outlook → Prop} {o : Outlook} (h : w.Attuned i c Q o)
    (hi : w.sessions i = .perform e next) :
    (w.step i).Attuned i c Q { o with machine := (o.machine.answer e).2 } ∧
      ∀ r ∉ c.written, ((w.step i).disks (w.disk i)).node? r = (w.disks (w.disk i)).node? r := by
  have hassured := h.assured
  rw [hi] at hassured
  obtain ⟨hconfines, hnext⟩ := hassured
  obtain ⟨t, hanswer, hagree, hkept⟩ := hconfines _ h.agree
  rw [← h.machine] at hanswer
  rw [World.step_perform hi, hanswer]
  refine ⟨⟨?_, ?_, h.turns, h.token, h.upholds, ?_⟩, ?_⟩
  · simp only [World.machine, Function.update_self]
  · simp only [Function.update_self]
    exact hagree
  · simp only [Function.update_self]
    exact hnext
  · simp only [Function.update_self]
    exact hkept

/-- An effect of another operation does not matter if it changes nothing that is seen. -/
theorem Attuned.step_perform_of_ne {c : Scope} {Q : Outcome → Outlook → Prop} {o : Outlook} (h : w.Attuned j c Q o)
    (hj : j ≠ i) (hi : w.sessions i = .perform e next)
    (hkept : w.disk j = w.disk i → ∀ r ∈ c.seen, ((w.step i).disks (w.disk i)).node? r = (w.disks (w.disk i)).node? r) :
    (w.step i).Attuned j c Q o := by
  obtain ⟨hsession, hmachine⟩ := w.step_of_ne hj
  have hrest := World.step_perform hi
  refine ⟨?_, fun r hr => ?_, ?_, ?_, ?_, hsession ▸ h.assured⟩
  · have hold := congrArg (fun m => { m with tree := (w.step i).disks (w.disk j) }) h.machine
    rw [World.machine, hmachine, disk_step]
    exact hold
  · rw [disk_step]
    by_cases hdisk : w.disk j = w.disk i
    · rw [hdisk, hkept hdisk r hr, ← hdisk]
      exact h.agree r hr
    · rw [hrest]
      simp only [Function.update_of_ne hdisk]
      exact h.agree r hr
  · rw [hrest]
    exact h.turns
  · rw [hrest]
    exact h.token
  · rw [hrest]
    exact h.upholds

/-- An effect of one operation does not matter to the others. -/
theorem Harmony.step_perform (h : w.Harmony c Q o pending) (hi : w.sessions i = .perform e next) :
    (w.step i).Harmony c Q (Function.update o i { o i with machine := ((o i).machine.answer e).2 }) pending := by
  obtain ⟨hself, hkept⟩ := (h.attuned i).step_perform hi
  have hothers : ∀ j, j ≠ i → (w.step i).Attuned j (c j) (Q j) (o j) := fun j hj =>
    (h.attuned j).step_perform_of_ne hj hi fun hdisk r hr => hkept r fun hwritten => h.apart j i hj hdisk r hwritten hr
  have hattuned := (Function.forall_update_iff o (p := fun j o' => (w.step i).Attuned j (c j) (Q j) o')).mpr ⟨hself, hothers⟩
  have htoken : ∀ j, (Function.update o i { o i with machine := ((o i).machine.answer e).2 } j).token = (o j).token :=
    (Function.forall_update_iff o (p := fun j o' => o'.token = (o j).token)).mpr ⟨rfl, fun _ _ => rfl⟩
  refine ⟨?_, hattuned, fun j₁ j₂ t h₁ h₂ => ?_, fun j₁ j₂ hne hdisk => ?_⟩
  · rw [World.step_perform hi]
    exact ⟨h.consistent.upholds, h.consistent.distinct, h.consistent.refused, h.consistent.due⟩
  · rw [htoken] at h₁ h₂
    exact h.tokens j₁ j₂ t h₁ h₂
  · rw [disk_step] at hdisk
    exact h.apart j₁ j₂ hne hdisk

end Effects

/-! ### Calls -/

section Calls

variable [DecidableEq δ] {next : Except Error Response → Session Outcome}

theorem issued_step_call (hi : w.sessions i = .call r token next) :
    (w.step i).issued = w.issued ++ (Turn.issued? ⟨w.remote, .request r token⟩).toList := by
  rw [World.step_call hi, issued, List.filterMap_append]
  rfl

theorem turnsOf_step_call (hi : w.sessions i = .call r token next) (j : ι) :
    (w.step i).turnsOf j = w.turnsOf j ++ if i = j then [⟨w.remote, .request r token⟩] else [] := by
  rw [World.step_call hi, turnsOf, turnsOf, List.filterMap_append]
  by_cases hij : i = j <;> simp [hij]

/-- A token is live after a call just if the call has issued it, or has not presented it and it was live before. -/
theorem isLive_step_call (hi : w.sessions i = .call r token next) (t : String) :
    (w.step i).remote.isLive t = true ↔ Turn.issued? ⟨w.remote, .request r token⟩ = some t ∨
      w.remote.isLive t = true ∧ ¬ Event.Presents (.request r token) t := by
  rw [World.step_call hi, Turn.issued?_eq_some_iff]
  exact isLive_apply w.remote (.request r token) t

theorem upholds_step_call (hi : w.sessions i = .call r token next) {c : Scope} (h : w.remote.Upholds c.keys c.objects)
    (hr : ¬ AddsKey r) (hcount : w.remote.stored ≤ (w.remote.execute r token).2.stored) :
    (w.step i).remote.Upholds c.keys c.objects := by
  rw [World.step_call hi]
  exact h.execute hr hcount

/-- A call tells the operation what it may rely on next. -/
theorem Attuned.step_call {c : Scope} {Q : Outcome → Outlook → Prop} {o : Outlook} (h : w.Attuned i c Q o)
    (hi : w.sessions i = .call r token next) (hr : ¬ AddsKey r)
    (hcount : w.remote.stored ≤ (w.remote.execute r token).2.stored) :
    (w.step i).Attuned i c Q (o.called w.remote r token) := by
  have hassured := h.assured
  rw [hi] at hassured
  have hstep := World.step_call hi
  refine ⟨?_, ?_, ?_, fun t ht => ⟨?_, (isLive_step_call hi t).mpr (.inl ht)⟩, upholds_step_call hi h.upholds hr hcount, ?_⟩
  · rw [hstep]
    exact h.machine
  · rw [hstep]
    exact h.agree
  · rw [turnsOf_step_call hi, if_pos rfl, ← h.turns]
    rfl
  · rw [issued_step_call hi]
    exact List.mem_append_right _ (Option.mem_toList.mpr ht)
  · rw [hstep]
    simp only [Function.update_self]
    exact hassured.2 w.remote h.upholds fun t ht => (h.token t ht).2

/-- A call of another operation does not matter if it presents another token. -/
theorem Attuned.step_call_of_ne {c : Scope} {Q : Outcome → Outlook → Prop} {o : Outlook} (h : w.Attuned j c Q o) (hj : j ≠ i)
    (hi : w.sessions i = .call r token next) (hr : ¬ AddsKey r)
    (hcount : w.remote.stored ≤ (w.remote.execute r token).2.stored)
    (hother : ∀ t, o.token = some t → ¬ Event.Presents (.request r token) t) : (w.step i).Attuned j c Q o := by
  obtain ⟨hsession, -⟩ := w.step_of_ne hj
  have hstep := World.step_call hi
  refine ⟨?_, ?_, ?_, fun t ht => ⟨?_, ?_⟩, upholds_step_call hi h.upholds hr hcount, hsession ▸ h.assured⟩
  · rw [hstep]
    exact h.machine
  · rw [hstep]
    exact h.agree
  · rw [turnsOf_step_call hi, if_neg (Ne.symm hj), List.append_nil]
    exact h.turns
  · rw [issued_step_call hi]
    exact List.mem_append_left _ (h.token t ht).1
  · exact (isLive_step_call hi t).mpr (.inr ⟨(h.token t ht).2, hother t ht⟩)

/-- A call of one operation does not matter to the others. -/
theorem Harmony.step_call (h : w.Harmony c Q o pending) (hi : w.sessions i = .call r token next)
    (hlucky : (w.step i).Lucky) :
    (w.step i).Harmony c Q (Function.update o i ((o i).called w.remote r token)) pending := by
  have hassured := (h.attuned i).assured
  rw [hi] at hassured
  obtain ⟨⟨hr, hpresented⟩, -⟩ := hassured
  have hstep := World.step_call hi
  have hcount : w.remote.stored ≤ (w.remote.execute r token).2.stored :=
    hlucky.count (i, ⟨w.remote, .request r token⟩) (by rw [hstep]; exact List.mem_append_right _ List.mem_cons_self)
  have hlive : AsksToken r ∨ ∃ t, token = some t ∧ w.remote.isLive t.text = true :=
    hpresented.imp_right fun ⟨t, ht, ho⟩ => ⟨t, ht, ((h.attuned i).token _ ho).2⟩
  -- the tokens of other operations are not presented, and the new one is none of them
  have hkept : ∀ j, j ≠ i → ∀ t, (o j).token = some t → ¬ Event.Presents (.request r token) t := by
    rintro j hj t ht hpresents
    obtain hasks | ⟨b, rfl, hb⟩ := hpresented
    · cases token with
      | none => exact hpresents
      | some b => exact hpresents.1 hasks
    · obtain ⟨-, rfl⟩ := hpresents
      exact hj (h.tokens j i _ ht hb)
  have hnew : ∀ j t, (o j).token = some t → ((o i).called w.remote r token).token ≠ some t := by
    intro j t ht hsome
    have hnodup := hlucky.tokens
    rw [issued_step_call hi, List.nodup_append'] at hnodup
    exact hnodup.2.2 ((h.attuned j).token t ht).1 (Option.mem_toList.mpr hsome)
  have hattuned := (Function.forall_update_iff o (p := fun j o' => (w.step i).Attuned j (c j) (Q j) o')).mpr
    ⟨(h.attuned i).step_call hi hr hcount, fun j hj => (h.attuned j).step_call_of_ne hj hi hr hcount (hkept j hj)⟩
  refine ⟨?_, hattuned, fun j₁ j₂ t h₁ h₂ => ?_, fun j₁ j₂ hne hdisk => ?_⟩
  · exact h.consistent.call (i := i) (by rw [hstep]) (by rw [hstep]) hr hlive hcount
  · by_cases hj₁ : j₁ = i <;> by_cases hj₂ : j₂ = i
    · exact hj₁.trans hj₂.symm
    · subst hj₁
      rw [Function.update_self] at h₁
      rw [Function.update_of_ne hj₂] at h₂
      exact absurd h₁ (hnew j₂ t h₂)
    · subst hj₂
      rw [Function.update_self] at h₂
      rw [Function.update_of_ne hj₁] at h₁
      exact absurd h₂ (hnew j₁ t h₁)
    · rw [Function.update_of_ne hj₁] at h₁
      rw [Function.update_of_ne hj₂] at h₂
      exact h.tokens j₁ j₂ t h₁ h₂
  · rw [disk_step] at hdisk
    exact h.apart j₁ j₂ hne hdisk

end Calls

/-! ### Runs -/

variable [DecidableEq δ]

/-- **A step keeps harmony**, and the outlooks of other operations. -/
theorem Harmony.step (h : w.Harmony c Q o pending) (i : ι) (hlucky : (w.step i).Lucky) :
    ∃ o', (w.step i).Harmony c Q o' pending ∧ ∀ j, j ≠ i → o' j = o j := by
  cases hi : w.sessions i with
  | done x =>
    rw [step_done hi]
    exact ⟨o, h, fun _ _ => rfl⟩
  | perform e next => exact ⟨_, h.step_perform hi, fun j hj => Function.update_of_ne hj _ _⟩
  | call r token next => exact ⟨_, h.step_call hi hlucky, fun j hj => Function.update_of_ne hj _ _⟩

/-- **A run keeps harmony**, and the outlooks of operations whose turn it has not been. -/
theorem Harmony.after (h : w.Harmony c Q o pending) (l : List ι) (hlucky : (w.after l).Lucky) :
    ∃ o', (w.after l).Harmony c Q o' pending ∧ ∀ j ∉ l, o' j = o j := by
  induction l generalizing w o with
  | nil => exact ⟨o, h, fun _ _ => rfl⟩
  | cons i l ih =>
    rw [after_cons] at hlucky ⊢
    obtain ⟨o₁, h₁, ho₁⟩ := h.step i (hlucky.of_prefix ((w.step i).log_prefix_after l))
    obtain ⟨o', h', ho'⟩ := ih h₁ hlucky
    refine ⟨o', h', fun j hj => ?_⟩
    rw [List.mem_cons, not_or] at hj
    exact (ho' j hj.2).trans (ho₁ j hj.1)

end World

end SealedDrop
