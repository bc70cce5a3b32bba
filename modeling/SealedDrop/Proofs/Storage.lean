import SealedDrop.Proofs.Download
import SealedDrop.Proofs.Rotation

/-!
# Objects over whole runs

A remote in memory, from its creation on, keeps every object that is uploaded under a number of its own, and hands it out as it is
or, where it is told to damage what it hands out, with one bit flipped.

## The model

* `uploads` lists what a run has stored: of every request that uploads an object and is answered with success, the object and
  the answer.
* `Numbers` is the invariant: the objects of a remote are those of such a list, each under the identifier of its place.
* `StoresAll` is the rule for a run.

## What is proved

* `upload?_cases` — an event stores the object of an upload, or leaves the objects as they are.
* `numbers_apply` and `numbers_after` — what the invariant becomes with one event, and with the events of a run.
* `storage_exact` — every run from the start obeys the rule, as long as the count of uploads does not wrap.
-/

namespace SealedDrop

/-! ### Damage -/

namespace Remote

theorem length_damage (b : Bytes) : (damage b).length = b.length :=
  List.length_modify _ _ _

/-- The damage is one bit in the middle. -/
theorem oneBitApart_damage {b : Bytes} (h : b ≠ []) : b.OneBitApart (damage b) := by
  have hmiddle : b.length / 2 < b.length := Nat.div_lt_self (List.length_pos_iff.mpr h) (by decide)
  have hbit : ∀ place weight, (damage b).bit? place weight ≠ b.bit? place weight ↔ place = b.length / 2 ∧ weight = 0 := by
    intro place weight
    rw [Bytes.bit?, Bytes.bit?, damage, List.getElem?_modify]
    by_cases hplace : b.length / 2 = place
    · subst hplace
      rw [List.getElem?_eq_getElem hmiddle]
      simpa using Bytes.testBit_xor_one_ne_iff b[b.length / 2] weight
    · simp [hplace, Ne.symm hplace]
  refine ⟨length_damage b, (b.length / 2, 0), (hbit _ _).mpr ⟨rfl, rfl⟩, ?_⟩
  rintro ⟨place, weight⟩ hne
  obtain ⟨rfl, rfl⟩ := (hbit place weight).mp hne
  rfl

/-! ### What a run has stored -/

variable {s s' : Remote} {e : Event}

/-- The object that a turn uploads, and the answer to this upload: the turn is a request to store the object that is answered
with success. -/
def Turn.upload? (x : Turn) : Option (Bytes × Response) :=
  match x.event with
  | .request r token =>
    if r.method = .post ∧ r.path = objectsPath ∧ (x.before.execute r token).1.isSuccess = true then
      some (r.body, (x.before.execute r token).1)
    else none
  | _ => none

/-- The uploads of a run, in order. -/
def uploads (s : Remote) (l : List Event) : List (Bytes × Response) :=
  (history s l).filterMap Turn.upload?

theorem uploads_append (s : Remote) (l₁ l₂ : List Event) : uploads s (l₁ ++ l₂) = uploads s l₁ ++ uploads (s.after l₁) l₂ := by
  rw [uploads, history_append, List.filterMap_append]
  rfl

theorem uploads_concat (s : Remote) (l : List Event) (e : Event) :
    uploads s (l ++ [e]) = uploads s l ++ (Turn.upload? ⟨s.after l, e⟩).toList := by
  rw [uploads, history_concat, List.filterMap_append]
  cases hupload : Turn.upload? ⟨s.after l, e⟩ <;> simp [uploads, hupload]

/-- A run has no more uploads than events. -/
theorem length_uploads_le (s : Remote) (l : List Event) : (uploads s l).length ≤ l.length := by
  have hhistory : (history s l).length = l.length := by
    induction l generalizing s with
    | nil => rfl
    | cons e l ih => rw [history, List.length_cons, List.length_cons, ih]
  exact hhistory ▸ List.length_filterMap_le _ _

/-- Two states of a remote with the same objects, which give the same identifier to the next. -/
structure SameObjects (s s' : Remote) : Prop where
  /-- The same objects are stored. -/
  objects : s'.objects = s.objects
  /-- The same identifier is fixed. -/
  fixedId : s'.fixedId = s.fixedId
  /-- As many objects have been given identifiers. -/
  stored : s'.stored = s.stored

theorem Keeps.sameObjects (h : Keeps s s') : SameObjects s s' := ⟨h.objects, h.fixedId, h.stored⟩

theorem isSuccess_store (s : Remote) (body : Bytes) : (s.store body).1.isSuccess = true := by
  unfold store
  cases s.fixedId <;> rfl

/-- An event stores the object of an upload, or leaves the objects as they are and uploads none. -/
theorem upload?_cases (s : Remote) (e : Event) :
    Turn.upload? ⟨s, e⟩ = none ∧ SameObjects s (s.apply e) ∨
      ∃ s₁ body, SameObjects s s₁ ∧ Turn.upload? ⟨s, e⟩ = some (body, (s₁.store body).1) ∧ s.apply e = (s₁.store body).2 := by
  cases e with
  | request r token =>
    by_cases hobjects : r.method = .post ∧ r.path = objectsPath
    · have hr : ¬ AsksToken r := by
        rintro ⟨-, hpath⟩
        rw [hobjects.2] at hpath
        exact absurd hpath (by decide)
      rcases refused_or_served hr (s := s) token with ⟨hstatus, hkeeps⟩ | ⟨s₁, hkeeps, hserved⟩
      · refine .inl ⟨if_neg ?_, hkeeps.sameObjects⟩
        rintro ⟨-, -, hsuccess⟩
        rw [Response.isSuccess, hstatus] at hsuccess
        cases hsuccess
      · have hstore : s.execute r token = s₁.store r.body := by
          rw [hserved, serve, hobjects.1]
          exact if_pos hobjects.2
        refine .inr ⟨s₁, r.body, hkeeps.sameObjects, ?_, congrArg Prod.snd hstore⟩
        simp only [Turn.upload?]
        rw [if_pos ⟨hobjects.1, hobjects.2, by rw [hstore]; exact isSuccess_store s₁ r.body⟩, hstore]
    · refine .inl ⟨if_neg fun h => hobjects ⟨h.1, h.2.1⟩, ?_⟩
      rcases execute_cases s r token with hkeeps | ⟨s₁, hkeeps, hserved⟩
      · exact hkeeps.sameObjects
      · rw [apply, hserved]
        rcases serve_cases s₁ r with h | ⟨hmethod, hpath, -⟩ | ⟨-, -, key, name, k, -, h⟩
        · rw [h]
          exact hkeeps.sameObjects
        · exact absurd ⟨hmethod, hpath⟩ hobjects
        · rw [h]
          exact ⟨hkeeps.objects, hkeeps.fixedId, hkeeps.stored⟩
  | registerKey name k => exact .inl ⟨rfl, rfl, rfl, rfl⟩
  | rejectNext n => exact .inl ⟨rfl, rfl, rfl, rfl⟩
  | corruptDownloads enabled => exact .inl ⟨rfl, rfl, rfl, rfl⟩

/-! ### The invariant -/

variable {us : List (Bytes × Response)}

/-- The objects of the remote are those of the uploads: each was given the identifier of its place, is stored under it, and
nothing else is stored. -/
structure Numbers (s : Remote) (us : List (Bytes × Response)) : Prop where
  /-- No identifier is fixed. -/
  fixedId : s.fixedId = none
  /-- As many objects have been given identifiers. -/
  stored : s.stored.toNat = us.length
  /-- Each upload was answered with the identifier of its place. -/
  answers : ∀ i u, us[i]? = some u → u.2 = reply 200 (numberedId (i + 1))
  /-- An object is stored under an identifier just if it is the one uploaded at that place. -/
  objects : ∀ id body, s.object? id = some body ↔ ∃ i u, us[i]? = some u ∧ body = u.1 ∧ id = numberedId (i + 1)

theorem Numbers.of_sameObjects (h : s.Numbers us) (hs : SameObjects s s') : s'.Numbers us where
  fixedId := hs.fixedId.trans h.fixedId
  stored := by rw [hs.stored, h.stored]
  answers := h.answers
  objects id body := by
    rw [object?, hs.objects]
    exact h.objects id body

/-- What stands in a list with one more element. -/
theorem getElem?_concat_eq_some_iff {α : Type} {l : List α} {a x : α} {i : Nat} :
    (l ++ [a])[i]? = some x ↔ l[i]? = some x ∨ i = l.length ∧ x = a := by
  rw [List.getElem?_append]
  split
  · next hlt => exact ⟨.inl, fun h => h.resolve_right fun hlast => absurd hlast.1 (Nat.ne_of_lt hlt)⟩
  · next hge =>
    rw [List.getElem?_eq_none (Nat.not_lt.mp hge)]
    rcases Nat.eq_or_lt_of_le (Nat.not_lt.mp hge) with rfl | hgt
    · simp [eq_comm]
    · have hout : ([a] : List α)[i - l.length]? = none := List.getElem?_eq_none (by simp; omega)
      simp [hout, Nat.ne_of_gt hgt]

/-- An object that is stored gets the next identifier, which no earlier one has, unless their count wraps. -/
theorem Numbers.store (h : s.Numbers us) (body : Bytes) (hcount : us.length + 1 < 2 ^ 64) :
    (s.store body).2.Numbers (us ++ [(body, (s.store body).1)]) := by
  have hnext : (s.stored + 1).toNat = us.length + 1 := by
    rw [UInt64.toNat_add, h.stored]
    exact Nat.mod_eq_of_lt hcount
  have hanswer : (s.store body).1 = reply 200 (numberedId (us.length + 1)) := by rw [store_of_fixedId h.fixedId, hnext]
  refine ⟨?_, ?_, ?_, ?_⟩
  · rw [store_of_fixedId h.fixedId]
    exact h.fixedId
  · rw [store_of_fixedId h.fixedId, List.length_append]
    exact hnext
  · intro i u hu
    rcases getElem?_concat_eq_some_iff.mp hu with hold | ⟨rfl, rfl⟩
    · exact h.answers i u hold
    · exact hanswer
  · intro id other
    rw [object?_store h.fixedId, hnext]
    split
    · next hid =>
      constructor
      · intro heq
        cases heq
        exact ⟨us.length, _, getElem?_concat_eq_some_iff.mpr (.inr ⟨rfl, rfl⟩), rfl, hid⟩
      · rintro ⟨i, u, hu, rfl, hnumber⟩
        rcases getElem?_concat_eq_some_iff.mp hu with hold | ⟨-, rfl⟩
        -- An earlier place has another number, and so another identifier.
        · have hsame := numberedId_inj (hid.symm.trans hnumber)
          rw [List.getElem?_eq_none (by omega)] at hold
          cases hold
        · rfl
    · next hid =>
      rw [h.objects]
      constructor
      · rintro ⟨i, u, hu, hbody, hnumber⟩
        exact ⟨i, u, getElem?_concat_eq_some_iff.mpr (.inl hu), hbody, hnumber⟩
      · rintro ⟨i, u, hu, hbody, hnumber⟩
        rcases getElem?_concat_eq_some_iff.mp hu with hold | ⟨rfl, -⟩
        · exact ⟨i, u, hold, hbody, hnumber⟩
        · exact absurd hnumber hid

/-- One event adds its upload, if it is one. -/
theorem numbers_apply (h : s.Numbers us) (hcount : (us ++ (Turn.upload? ⟨s, e⟩).toList).length < 2 ^ 64) :
    (s.apply e).Numbers (us ++ (Turn.upload? ⟨s, e⟩).toList) := by
  rcases upload?_cases s e with ⟨hupload, hs⟩ | ⟨s₁, body, hs, hupload, happly⟩
  · rw [hupload, Option.toList_none, List.append_nil]
    exact h.of_sameObjects hs
  · rw [hupload, Option.toList_some] at hcount ⊢
    rw [happly]
    rw [List.length_append] at hcount
    exact (h.of_sameObjects hs).store body hcount

/-- A run from a remote without objects stores its uploads, in order. -/
theorem numbers_after (hstart : s.Numbers []) (l : List Event) (hcount : (uploads s l).length < 2 ^ 64) :
    (s.after l).Numbers (uploads s l) := by
  induction l using List.reverseRecOn with
  | nil => exact hstart
  | append_singleton l e ih =>
    rw [uploads_concat] at hcount ⊢
    have hle := hcount
    rw [List.length_append] at hle
    rw [after_concat]
    exact numbers_apply (ih (by omega)) hcount

/-! ### Handing out -/

/-- The path of the object with this number. -/
theorem path_numberedId (n : Nat) : ObjectId.path ⟨numberedId n⟩ = "/d/" ++ numberedId n := by
  have hplain : ∀ c ∈ (numberedId n).toList, Text.Percent.IsPlain c := by
    intro c hc
    rw [toList_numberedId, List.mem_append] at hc
    rcases hc with hstart | hdigit
    · have hall : ∀ d ∈ "obj-".toList, d.isAlphanum = true ∨ d ∈ ['-', '_', '.', '~'] := by simp
      exact hall c hstart
    · refine .inl ?_
      rw [Char.isAlphanum, Nat.isDigit_of_mem_toDigits (b := 10) (by decide) (by decide) hdigit, Bool.or_true]
  rw [ObjectId.path_eq, Text.Percent.encodeText_of_isPlain hplain]

/-- The value that an event gives to the switch for damage. -/
def Event.damages? : Event → Option Bool
  | .corruptDownloads enabled => some enabled
  | _ => none

/-- The run has turned the switch for damage on, and not off again. -/
def damages (l : List Event) : Bool :=
  (l.filterMap Event.damages?).getLast?.getD false

/-- No request turns the switch. -/
theorem corruptDownloads_apply (s : Remote) (e : Event) : (s.apply e).corruptDownloads = e.damages?.getD s.corruptDownloads := by
  cases e with
  | request r token =>
    change (s.execute r token).2.corruptDownloads = s.corruptDownloads
    rcases execute_cases s r token with hkeeps | ⟨s₁, hkeeps, hserved⟩
    · exact hkeeps.corruptDownloads
    · obtain ⟨keys, objects, stored, -, hwrites⟩ := serve_writes s₁ r
      rw [hserved, hwrites]
      exact hkeeps.corruptDownloads
  | registerKey name k => rfl
  | rejectNext n => rfl
  | corruptDownloads enabled => rfl

theorem corruptDownloads_after (h : s.corruptDownloads = false) (l : List Event) : (s.after l).corruptDownloads = damages l := by
  induction l using List.reverseRecOn with
  | nil => exact h
  | append_singleton l e ih =>
    rw [after_concat, corruptDownloads_apply, ih, damages, damages, List.filterMap_append]
    cases hswitch : e.damages? with
    | none => simp [hswitch]
    | some enabled => simp [hswitch]

/-- What is handed out of an object: its bytes, or as many of which one bit is flipped if there is any. -/
structure HandsOut (damaged : Bool) (body data : Bytes) : Prop where
  /-- Without damage, the object as it is stored. -/
  intact : damaged = false → data = body
  /-- With or without, as many bytes. -/
  length : data.length = body.length
  /-- With damage, one bit is another. -/
  oneBit : damaged = true → body ≠ [] → body.OneBitApart data

theorem handsOut (damaged : Bool) (body : Bytes) : HandsOut damaged body (if damaged then damage body else body) := by
  cases damaged with
  | false => exact ⟨fun _ => rfl, rfl, fun h => absurd h (by decide)⟩
  | true => exact ⟨fun h => absurd h (by decide), length_damage body, fun _ => oneBitApart_damage⟩

/-! ### The rule -/

/-- The rule for a run from `s`, at its end: what is stored, and what is handed out. -/
structure StoresAll (s : Remote) (l : List Event) : Prop where
  /-- The uploads were answered with `obj-1`, `obj-2` and so on, in order. -/
  answers : ∀ i u, (uploads s l)[i]? = some u → u.2 = reply 200 (numberedId (i + 1))
  /-- Under these identifiers the objects of the uploads are stored, and no others under any other. -/
  objects : ∀ id body, (s.after l).object? id = some body ↔ ∃ i u, (uploads s l)[i]? = some u ∧ body = u.1 ∧ id = numberedId (i + 1)
  /-- What was uploaded at any point of the run is still there. -/
  kept : ∀ l₁ l₂, l = l₁ ++ l₂ → ∀ i u, (uploads s l₁)[i]? = some u → (s.after l).object? (numberedId (i + 1)) = some u.1
  /-- A request for an object that is authorised is answered with the object, damaged if the run has turned that on; what is
  stored stays as it is. -/
  handedOut : ∀ r token i u, r.method = .get → r.path = "/d/" ++ numberedId (i + 1) → (s.after l).Admits token →
    (uploads s l)[i]? = some u →
    (∃ data, ((s.after l).execute r token).1 = ⟨200, data⟩ ∧ HandsOut (damages l) u.1 data) ∧
      ((s.after l).execute r token).2.objects = (s.after l).objects

/-- **Nothing is lost**: every run of a remote from its creation obeys the rule, with any requests and tokens, any registrations
and any use of the switches, as long as the count of uploads does not wrap. -/
theorem storage_exact (entropy : Entropy) (l : List Event) (hcount : (uploads { entropy := entropy } l).length < 2 ^ 64) :
    StoresAll { entropy := entropy } l := by
  have hstart : Numbers { entropy := entropy } [] := by
    refine ⟨rfl, rfl, fun i u hu => ?_, fun id body => ⟨fun h => ?_, ?_⟩⟩
    · cases hu
    · cases h
    · rintro ⟨i, u, hu, -⟩
      cases hu
  have hnumbers := numbers_after hstart l hcount
  have hobject : ∀ i u, (uploads { entropy := entropy } l)[i]? = some u →
      (Remote.after { entropy := entropy } l).object? (numberedId (i + 1)) = some u.1 :=
    fun i u hu => (hnumbers.objects _ _).mpr ⟨i, u, hu, rfl, rfl⟩
  refine ⟨hnumbers.answers, hnumbers.objects, ?_, ?_⟩
  · rintro l₁ l₂ rfl i u hu
    refine hobject i u ?_
    rw [uploads_append]
    exact List.getElem?_append_left (List.getElem?_eq_some_iff.mp hu).1 ▸ hu
  · intro r token i u hmethod hpath hadmits hu
    rw [← path_numberedId] at hpath
    rw [execute_get_path hadmits hmethod hpath (safe_numberedId _).1, handOut_of_some (hobject i u hu),
      corruptDownloads_after rfl l]
    exact ⟨⟨_, rfl, handsOut _ _⟩, rfl⟩

open Credentials (tokenRequest)

/-- A run in which the laptop is registered and uploads a byte, and is issued another token after the switch for damage has been
turned on. -/
def workday : List Event :=
  [.registerKey "laptop" Exchange.mersenneKey.toPublic, .request (tokenRequest Exchange.laptopName) none,
    .request memo (some Exchange.office.nextToken), .corruptDownloads true, .request (tokenRequest Exchange.laptopName) none]

/-- The office after the upload, when the switch has been turned on. -/
def filledOffice : Remote :=
  { (Exchange.office.tokenSpent.store [1]).2 with corruptDownloads := true }

theorem enrolled_filledOffice : filledOffice.Enrolled Exchange.laptopName Exchange.mersenneKey :=
  Exchange.enrolled_office.of_key? rfl

theorem execute_memo :
    Exchange.office.tokenIssued.execute memo (some Exchange.office.nextToken) = Exchange.office.tokenSpent.store [1] := by
  rw [execute_nextToken (by decide), reaction_of_zero rfl]
  rfl

/-- The turns of this run, and the remote at its end. -/
theorem turns_workday :
    history { entropy := Exchange.office.entropy } workday =
        [⟨{ entropy := Exchange.office.entropy }, .registerKey "laptop" Exchange.mersenneKey.toPublic⟩,
          ⟨Exchange.office, .request (tokenRequest Exchange.laptopName) none⟩,
          ⟨Exchange.office.tokenIssued, .request memo (some Exchange.office.nextToken)⟩,
          ⟨(Exchange.office.tokenSpent.store [1]).2, .corruptDownloads true⟩,
          ⟨filledOffice, .request (tokenRequest Exchange.laptopName) none⟩] ∧
      Remote.after { entropy := Exchange.office.entropy } workday = filledOffice.tokenIssued := by
  obtain ⟨ciphertext, hissue, -⟩ := execute_tokenRequest Exchange.enrolled_office
  obtain ⟨ciphertext', hissue', -⟩ := execute_tokenRequest enrolled_filledOffice
  have hregister : apply { entropy := Exchange.office.entropy } (.registerKey "laptop" Exchange.mersenneKey.toPublic) =
      Exchange.office := rfl
  have hissued : Exchange.office.apply (.request (tokenRequest Exchange.laptopName) none) = Exchange.office.tokenIssued :=
    congrArg Prod.snd hissue
  have hstored : Exchange.office.tokenIssued.apply (.request memo (some Exchange.office.nextToken)) =
      (Exchange.office.tokenSpent.store [1]).2 := congrArg Prod.snd execute_memo
  have hswitched : (Exchange.office.tokenSpent.store [1]).2.apply (.corruptDownloads true) = filledOffice := rfl
  have hissued' : filledOffice.apply (.request (tokenRequest Exchange.laptopName) none) = filledOffice.tokenIssued :=
    congrArg Prod.snd hissue'
  constructor
  · simp only [workday, history, hregister, hissued, hstored, hswitched]
  · simp only [workday, after, List.foldl_cons, List.foldl_nil, hregister, hissued, hstored, hswitched, hissued']

theorem uploads_workday : uploads { entropy := Exchange.office.entropy } workday = [([1], reply 200 "obj-1")] := by
  have hasks : ∀ s : Remote, Turn.upload? ⟨s, .request (tokenRequest Exchange.laptopName) none⟩ = none := by
    intro s
    simp only [Turn.upload?]
    refine if_neg ?_
    rintro ⟨-, hpath, -⟩
    exact absurd hpath (by decide)
  have hstores : Turn.upload? ⟨Exchange.office.tokenIssued, .request memo (some Exchange.office.nextToken)⟩ =
      some ([1], reply 200 "obj-1") := by
    rw [Turn.upload?]
    simp only [execute_memo]
    rfl
  have hregisters : ∀ s name k, Turn.upload? ⟨s, .registerKey name k⟩ = none := fun _ _ _ => rfl
  have hswitches : ∀ s enabled, Turn.upload? ⟨s, .corruptDownloads enabled⟩ = none := fun _ _ => rfl
  rw [uploads, turns_workday.1]
  simp [hasks, hstores, hregisters, hswitches]

/-- The byte is stored under the first identifier, and is handed out with another bit. -/
theorem storage_exact_workday :
    (uploads { entropy := Exchange.office.entropy } workday).length < 2 ^ 64 ∧
      uploads { entropy := Exchange.office.entropy } workday = [([1], reply 200 "obj-1")] ∧
      (Remote.after { entropy := Exchange.office.entropy } workday).object? "obj-1" = some [1] ∧
      ∃ data, ((Remote.after { entropy := Exchange.office.entropy } workday).execute (.get "/d/obj-1")
        (some filledOffice.nextToken)).1 = ⟨200, data⟩ ∧ HandsOut true [1] data := by
  have hcount : (uploads { entropy := Exchange.office.entropy } workday).length < 2 ^ 64 :=
    (length_uploads_le _ workday).trans_lt (by decide)
  have hupload : (uploads { entropy := Exchange.office.entropy } workday)[0]? = some ([1], reply 200 "obj-1") := by
    rw [uploads_workday]
    rfl
  have hadmits : (Remote.after { entropy := Exchange.office.entropy } workday).Admits (some filledOffice.nextToken) := by
    rw [turns_workday.2]
    exact ⟨rfl, _, rfl, isLive_nextToken filledOffice⟩
  have hstores := storage_exact Exchange.office.entropy workday hcount
  exact ⟨hcount, uploads_workday, (hstores.objects _ _).mpr ⟨0, _, hupload, rfl, rfl⟩,
    (hstores.handedOut (.get "/d/obj-1") _ 0 _ rfl rfl hadmits hupload).1⟩

end Remote

end SealedDrop
