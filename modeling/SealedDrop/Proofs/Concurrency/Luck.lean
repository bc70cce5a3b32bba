import SealedDrop.Proofs.Concurrency.Harmony

/-!
# What harmony leaves to chance

Harmony lasts as long as no token is issued twice and the number of objects has not wrapped (`World.Lucky`). Both depend on
little: the tokens that a remote is going to issue follow from its supply of randomness, whatever it is asked for in between, and
an object more takes a call more.

## What is proved

* `Remote.execute_draws` — a request draws for one token or nothing, and stores one object or none.
* `World.lucky_after` — a run is lucky if the tokens that may come differ, and there is room for an object in each step.
-/

namespace SealedDrop

open Remote

/-! ### What a call draws and stores -/

namespace Remote

/-- The bytes that are drawn for a token and its encryption. -/
def tokenDraw : Nat :=
  16 + BearerToken.seedSize

/-- The token that comes after this many draws. -/
def tokenAt (u : Remote) (n : Nat) : String :=
  Uuid.hyphenated ((u.entropy.skip (n * tokenDraw)).peek 16)

/-- Serving a request draws nothing, and stores one object at most. -/
theorem serve_draws (s : Remote) (r : Request) :
    (s.serve r).2.entropy = s.entropy ∧ ((s.serve r).2.stored = s.stored ∨ (s.serve r).2.stored = s.stored + 1) := by
  obtain ⟨keys, objects, stored, hstored, h⟩ := serve_writes s r
  rw [h]
  exact ⟨rfl, hstored⟩

/-- A request for a token draws for it or draws nothing, and then issues none. -/
theorem issueToken_draws (s : Remote) (body : Bytes) :
    (s.issueToken body).2.stored = s.stored ∧
      ((s.issueToken body).2.entropy = s.entropy.skip tokenDraw ∨
        (s.issueToken body).2.entropy = s.entropy ∧ (s.issueToken body).1.status ≠ 200) := by
  unfold issueToken
  simp only
  split
  · split
    · exact ⟨rfl, .inr ⟨rfl, Nat.ne_of_beq_eq_false rfl⟩⟩
    · split
      · exact ⟨rfl, .inl rfl⟩
      · exact ⟨rfl, .inl rfl⟩
  · exact ⟨rfl, .inr ⟨rfl, Nat.ne_of_beq_eq_false rfl⟩⟩

/-- What a request draws and stores. -/
theorem execute_draws (s : Remote) (r : Request) (token : Option BearerToken) :
    ((s.execute r token).2.stored = s.stored ∨ (s.execute r token).2.stored = s.stored + 1) ∧
      ((s.execute r token).2.entropy = s.entropy.skip tokenDraw ∨
        (s.execute r token).2.entropy = s.entropy ∧ Turn.issued? ⟨s, .request r token⟩ = none) := by
  by_cases hr : AsksToken r
  · obtain ⟨hstored, hentropy⟩ := s.issueToken_draws r.body
    simp only [Turn.issued?, execute_of_asksToken hr]
    rcases hentropy with hdraw | ⟨hsame, hstatus⟩
    · exact ⟨.inl hstored, .inl hdraw⟩
    · exact ⟨.inl hstored, .inr ⟨hsame, if_neg fun h => hstatus h.2⟩⟩
  · rw [issued?_of_not_asksToken hr, execute_of_not_asksToken hr]
    split
    · exact ⟨.inl rfl, .inr ⟨rfl, rfl⟩⟩
    · split
      · obtain ⟨hentropy, hstored⟩ := (s.present token).serve_draws r
        exact ⟨hstored, .inr ⟨hentropy, rfl⟩⟩
      · exact ⟨.inl rfl, .inr ⟨rfl, rfl⟩⟩

/-- With room for one object more, the number of objects grows by one at most. -/
theorem stored_execute_le {s : Remote} (hroom : s.stored.toNat + 1 < UInt64.size) (r : Request) (token : Option BearerToken) :
    s.stored ≤ (s.execute r token).2.stored ∧ (s.execute r token).2.stored.toNat ≤ s.stored.toNat + 1 := by
  have hnext : (s.stored + 1).toNat = s.stored.toNat + 1 := by
    rw [UInt64.toNat_add]
    exact Nat.mod_eq_of_lt hroom
  rw [UInt64.le_iff_toNat_le]
  rcases (s.execute_draws r token).1 with hsame | hone
  · rw [hsame]
    omega
  · rw [hone]
    omega

/-- A request issues the token that comes first, or none. -/
theorem issued_sublist (s : Remote) (r : Request) (token : Option BearerToken) :
    (Turn.issued? ⟨s, .request r token⟩).toList.Sublist [s.tokenAt 0] := by
  have htoken : Turn.issued? ⟨s, .request r token⟩ = some (s.tokenAt 0) ∨ Turn.issued? ⟨s, .request r token⟩ = none := by
    rw [tokenAt, Nat.zero_mul]
    exact ite_eq_or_eq _ _ _
  rcases htoken with hsome | hnone
  · rw [hsome]
    exact List.Sublist.refl _
  · rw [hnone]
    exact List.nil_sublist _

end Remote

/-! ### What a run draws and stores -/

namespace World

variable {ι δ : Type} {u : Remote} {w : World ι δ} {n : Nat}

/-- The remote was this one, and has had at most this many calls since, which drew one after the other. -/
structure Drawn (u : Remote) (w : World ι δ) (n : Nat) : Prop where
  /-- The tokens are those that were drawn. -/
  tokens : ∃ m ≤ n, w.remote.entropy = u.entropy.skip (m * tokenDraw) ∧ w.issued.Sublist ((List.range m).map u.tokenAt)
  /-- Each call has stored one object at most. -/
  stored : w.remote.stored.toNat ≤ u.stored.toNat + n
  /-- The number of objects has not wrapped. -/
  count : ∀ x ∈ w.log, x.2.before.stored ≤ (x.2.before.apply x.2.event).stored

theorem Drawn.mono {n' : Nat} (h : w.Drawn u n) (hn : n ≤ n') : w.Drawn u n' := by
  obtain ⟨⟨m, hm, htokens⟩, hstored, hcount⟩ := h
  exact ⟨⟨m, by omega, htokens⟩, by omega, hcount⟩

variable [DecidableEq ι] [DecidableEq δ]

/-- A call draws the next token at most, and stores one object at most. -/
theorem Drawn.step (h : w.Drawn u n) (hn : u.stored.toNat + n + 1 < UInt64.size) (i : ι) : (w.step i).Drawn u (n + 1) := by
  cases hi : w.sessions i with
  | done x =>
    rw [step_done hi]
    exact h.mono (Nat.le_succ n)
  | perform e next =>
    rw [step_perform hi]
    obtain ⟨htokens, hstored, hcount⟩ := h.mono (Nat.le_succ n)
    exact ⟨htokens, hstored, hcount⟩
  | call r token next =>
    obtain ⟨⟨m, hm, hentropy, hissued⟩, hstored, hcount⟩ := h
    obtain ⟨hgrows, hnext⟩ := stored_execute_le (s := w.remote) (by omega) r token
    have hstep := step_call hi
    refine ⟨?_, ?_, ?_⟩
    · rw [issued_step_call hi, hstep]
      rcases (w.remote.execute_draws r token).2 with hdraw | ⟨hsame, hnone⟩
      · have htoken : w.remote.tokenAt 0 = u.tokenAt m := by
          rw [tokenAt, tokenAt, hentropy, Nat.zero_mul]
          rfl
        refine ⟨m + 1, by omega, ?_, ?_⟩
        · rw [hdraw, hentropy, Entropy.skip, Entropy.skip, Entropy.skip, Nat.succ_mul, Nat.add_assoc]
        · rw [List.range_succ, List.map_append, List.map_singleton, ← htoken]
          exact hissued.append (w.remote.issued_sublist r token)
      · refine ⟨m, by omega, hsame.trans hentropy, ?_⟩
        rw [hnone, Option.toList_none, List.append_nil]
        exact hissued
    · rw [hstep]
      change (w.remote.execute r token).2.stored.toNat ≤ _
      omega
    · rw [hstep]
      intro x hx
      rcases List.mem_append.mp hx with hx | hx
      · exact hcount x hx
      · rw [List.mem_singleton.mp hx]
        exact hgrows

theorem Drawn.after (h : w.Drawn u n) {l : List ι} (hn : u.stored.toNat + n + l.length < UInt64.size) :
    (w.after l).Drawn u (n + l.length) := by
  induction l generalizing w n with
  | nil => exact h
  | cons i l ih =>
    rw [List.length_cons] at hn ⊢
    rw [after_cons, Nat.add_comm l.length, ← Nat.add_assoc]
    exact ih (h.step (by omega) i) (by omega)

/-- **Luck is a matter of what is drawn**: it lasts as long as the tokens that come differ. -/
theorem lucky_after (u : Remote) (disks : δ → FileTree) (clients : ι → Client δ) {l : List ι}
    (hdistinct : ((List.range l.length).map u.tokenAt).Nodup) (hcount : u.stored.toNat + l.length < UInt64.size) :
    ((start u disks clients).after l).Lucky := by
  have hstart : (start u disks clients).Drawn u 0 :=
    ⟨⟨0, Nat.le_refl 0, (congrArg u.entropy.skip (Nat.zero_mul _)).symm, List.nil_sublist _⟩, Nat.le_refl _,
      List.forall_mem_nil _⟩
  obtain ⟨⟨m, hm, -, hissued⟩, -, hall⟩ := hstart.after (by rw [Nat.add_zero]; exact hcount)
  refine ⟨(hissued.trans ?_).nodup hdistinct, hall⟩
  exact (List.range_sublist.mpr (by omega)).map _

end World

end SealedDrop
