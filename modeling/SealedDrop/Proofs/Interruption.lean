import SealedDrop.Proofs.Destination

/-!
# Pulls that are interrupted

When a pull has its object, four accesses are left: the temporary file is created, written, brought to the disk, and moved. Whichever of
them fails, the pull tells so, and leaves no trace.

## The model

* `FailsAfter` says of a machine that by plan this many accesses succeed, and what the next one fails with.
* Of the destination it is asked that the temporary file can be created beside it, under a name that is unused.

## What is proved

* `runs_replace_of_failsAfter` — a replacement fails as the plan says, if that is within its four accesses.
* `pull_interrupted` — so does every pull that succeeds up to its last step.
* `pull_sound_laptop` — on the laptop a pull brings its object, fails four times for want of space, and refuses an object with another
  checksum.
-/

namespace SealedDrop

open Op

variable {σ : Type} {t : Transport σ} {m m' : Machine} {u : σ} {n : Nat} {f : Fault}

/-! ### Plans -/

/-- By plan, this many accesses succeed and the next one fails. -/
def Machine.FailsAfter (m : Machine) (n : Nat) (f : Fault) : Prop :=
  ∃ rest, m.faults = List.replicate n none ++ some f :: rest

namespace FileWriter

theorem head_of_failsAfter_zero (h : m.FailsAfter 0 f) : m.faults.head?.join = some f := by
  obtain ⟨rest, hfaults⟩ := h
  rw [hfaults]
  rfl

theorem head_of_failsAfter_succ (h : m.FailsAfter (n + 1) f) : m.faults.head?.join = none := by
  obtain ⟨rest, hfaults⟩ := h
  rw [hfaults]
  rfl

/-- An access that succeeds brings the failure nearer. -/
theorem failsAfter_after (h : m.FailsAfter (n + 1) f) (tree : FileTree) : (after m tree).FailsAfter n f := by
  obtain ⟨rest, hfaults⟩ := h
  exact ⟨rest, congrArg List.tail hfaults⟩

/-! ### Replacements -/

/-- To write all of a file takes two accesses. -/
theorem runs_writeAll_of_failsAfter (h : m.FailsAfter n f) (t : Transport σ) (handle : Handle) (b : Bytes) (u : σ) :
    (n < 2 → ∃ m', Session.Runs t (writeAll handle b) m u [] (.error f.error) m' u) ∧
      ∀ k, n = k + 2 → ∃ m', Session.Runs t (writeAll handle b) m u [] (.ok ()) m' u ∧ m'.FailsAfter k f := by
  have hwrite := Session.Runs.ask (t := t) (m := m) (s := u) (.write handle b)
  cases n with
  | zero =>
    rw [answer_write_of_planned (head_of_failsAfter_zero h)] at hwrite
    exact ⟨fun _ => ⟨_, hwrite.bind (Session.Runs.pure _)⟩, nofun⟩
  | succ n =>
    rw [answer_write_of_unplanned (head_of_failsAfter_succ h)] at hwrite
    replace h := failsAfter_after h (m.tree.append handle.route b)
    have hsync := Session.Runs.ask (t := t) (m := after m (m.tree.append handle.route b)) (s := u) (.sync handle)
    cases n with
    | zero =>
      rw [answer_sync_of_planned (head_of_failsAfter_zero h)] at hsync
      exact ⟨fun _ => ⟨_, hwrite.bind hsync⟩, nofun⟩
    | succ n =>
      rw [answer_sync_of_unplanned (head_of_failsAfter_succ h)] at hsync
      refine ⟨fun hlt => absurd hlt (by omega), fun k hk => ?_⟩
      obtain rfl : n = k := by omega
      exact ⟨_, hwrite.bind hsync, failsAfter_after h _⟩

/-- To write a file under a temporary name and move it takes four. -/
theorem runs_writeAndMove_of_failsAfter (h : m.FailsAfter n f) (hn : n < 4) {temporary : String} {r : Route}
    (hr : m.tree.newRoute m.workDir temporary = .ok r) (t : Transport σ) (destination : String) (b : Bytes) (mode : Nat) (u : σ) :
    ∃ m', Session.Runs t (writeAndMove temporary destination b mode) m u [] (.error f.error) m' u := by
  have hcreate := Session.Runs.ask (t := t) (m := m) (s := u) (.createNew temporary mode)
  unfold writeAndMove
  cases n with
  | zero =>
    rw [answer_createNew_of_planned (head_of_failsAfter_zero h)] at hcreate
    exact ⟨_, hcreate.bind (Session.Runs.pure _)⟩
  | succ n =>
    rw [answer_createNew_of_unplanned (head_of_failsAfter_succ h) hr] at hcreate
    obtain ⟨hfails, hwritten⟩ := runs_writeAll_of_failsAfter (failsAfter_after h _) t ⟨r⟩ b u
    by_cases hlt : n < 2
    · obtain ⟨m₁, hwrite⟩ := hfails hlt
      exact ⟨m₁, hcreate.bind (hwrite.bind (Session.Runs.pure _))⟩
    · obtain ⟨m₁, hwrite, hlast⟩ := hwritten 0 (by omega)
      have hrename := Session.Runs.ask (t := t) (m := m₁) (s := u) (.rename temporary destination)
      rw [answer_rename_of_planned (head_of_failsAfter_zero hlast)] at hrename
      exact ⟨_, hcreate.bind (hwrite.bind hrename)⟩

/-- The failure to replace a destination. -/
def notReplaced (destination : String) (e : IoError) : Error :=
  .ioWith ("Error writing object to '" ++ destination ++ "'") e

/-- A replacement that is interrupted fails as the plan says, and changes no file. -/
theorem runs_replace_of_failsAfter (h : m.FailsAfter n f) (hn : n < 4) {destination : String} (hunused : Unused m destination)
    (hopens : Opens m destination) (t : Transport σ) (b : Bytes) (mode : Nat) (u : σ) :
    ∃ m', Op.Runs t (replace destination b mode) m u [] (.error (notReplaced destination f.error)) m' u ∧ m'.tree = m.tree := by
  obtain ⟨directory, name, r, hsplit, hr⟩ := hopens
  have hdraw := Op.Runs.ask (t := t) (m := m) (s := u) (.draw 16)
  set drawn := (m.answer (.draw 16)).2 with hdrawn
  obtain ⟨m₁, hmove⟩ := runs_writeAndMove_of_failsAfter (m := drawn) h hn hr t destination b mode u
  set temporary := sibling directory name (m.entropy.peek 16) with htemporary
  have hremove := Op.Runs.ask (t := t) (m := m₁) (s := u) (.remove temporary)
  have hrun : Op.Runs t (replace destination b mode) m u [] (.error (notReplaced destination f.error))
      (m₁.answer (.remove temporary)).2 u := by
    unfold replace
    rw [hsplit]
    exact hdraw.silent_bind ((Op.Runs.lift hmove).silent_bind (hremove.silent_bind (Op.Runs.throw _)))
  -- Whatever has failed, the tree is as before.
  obtain ⟨x, m', hrun', hreplaced⟩ := runs_replace_cases t destination b mode m u
  obtain ⟨-, rfl, rfl, -⟩ := hrun.unique hrun'
  exact ⟨_, hrun, (hreplaced hunused).tree_eq⟩

end FileWriter

namespace Exchange

open FileWriter Remote

/-! ### Pulls -/

/-- **Pulls that are interrupted**: a pull that succeeds up to its last step fails as the plan says if one of the four accesses of this
step does, and changes no file. -/
theorem pull_interrupted {s : Settings} {r : Reference} {destination path : String} {l : List Call} {u' : σ} {plaintext : Bytes}
    (h : Downloaded t s r destination m u l u' path plaintext) (hunused : Unused m path) (hopens : Opens m path)
    (hfails : m.FailsAfter n f) (hn : n < 4) :
    ∃ m', Runs t (pullReference s r destination) m u l (.error (notReplaced path f.error)) m' u' ∧ m'.tree = m.tree := by
  obtain ⟨m', hreplace, htree⟩ := runs_replace_of_failsAfter hfails hn hunused hopens t plaintext pulledMode u'
  exact ⟨m', h.runs_pullReference hreplace, htree⟩

/-! ### The laptop -/

/-- The laptop, whose disk is full after this many accesses and one more byte. -/
def crowded (n : Nat) : Machine :=
  { laptop with faults := List.replicate n none ++ [some ⟨⟨.storageFull, "No space left on device (os error 28)"⟩, 1⟩] }

theorem equipped_crowded (n : Nat) : Equipped laptopSettings (crowded n) [1] laptopName mersenneKey :=
  ⟨equipped_laptop.reliable, equipped_laptop.keyName, equipped_laptop.sharedKey, equipped_laptop.privateKey⟩

theorem opens_laptop : Opens laptop "out" := by
  obtain ⟨directory, hsplit, hnew⟩ := accepts_laptop.exists_newRoute
  exact ⟨directory, _, _, hsplit, hnew⟩

/-- The settings of its client, but that no file is where the shared key should be. -/
def keylessSettings : Settings :=
  { laptopSettings with encryptionKey := some "absent" }

/-- The text of the reference to these bytes at the remote. -/
def heldText (envelope : Bytes) : String :=
  (Reference.ofTransmitted ⟨"x"⟩ envelope).text

theorem parse_heldText (envelope : Bytes) : Reference.parse (heldText envelope) = .ok (.ofTransmitted ⟨"x"⟩ envelope) :=
  (Reference.wellFormed_ofTransmitted (by decide) envelope).parse_text

/-- A pull by that text ends as the pull of the reference. -/
theorem runs_pull_heldText {s : Settings} {envelope : Bytes} {destination : String} {l : List Call} {x : Except Error Unit} {u' : σ}
    (h : Runs t (pullReference s (.ofTransmitted ⟨"x"⟩ envelope) destination) m u l x m' u') :
    Runs t (pull s (heldText envelope) destination) m u l x m' u' :=
  (Runs.check_of_eq (parse_heldText envelope)).silent_bind h

theorem exists_ofBytes_ne (c : Checksum) : ∃ other, Checksum.ofBytes other ≠ c := by
  have hapart : Checksum.ofBytes [] ≠ Checksum.ofBytes [1] := by decide +kernel
  by_cases h : Checksum.ofBytes [] = c
  · exact ⟨[1], fun h' => hapart (h.trans h'.symm)⟩
  · exact ⟨[], h⟩

/-- On the laptop a pull brings its object. Where the disk becomes full at one of the last four accesses it fails and leaves no trace,
and other bytes than those of the reference are a violation, even if there is no shared key. -/
theorem pull_sound_laptop : ∃ envelope,
    ((∀ path, Home.expand laptop.home "out" = .ok path → Unused laptop path) ∧
      (Op.run transport (pull laptopSettings (heldText envelope) "out") laptop (holder envelope)).1 = .ok () ∧
      (∃ c response, c ∈ Op.calls transport (pull laptopSettings (heldText envelope) "out") laptop (holder envelope) ∧
        c.request = .get "/d/x" ∧ c.token ≠ none ∧ c.answer = .ok response ∧ Hash.sha256 response.body = Hash.sha256 envelope) ∧
      ∀ q, (Op.run transport (pull laptopSettings (heldText envelope) "out") laptop (holder envelope)).2.1.tree.node? q =
        if q = ["out"] then some (.file 0o644 [104, 105]) else laptop.tree.node? q) ∧
    (∀ n < 4, (∀ path, Home.expand (crowded n).home "out" = .ok path → Unused (crowded n) path) ∧
      (Op.run transport (pull laptopSettings (heldText envelope) "out") (crowded n) (holder envelope)).1 =
        .error (.io ⟨.storageFull, "Error writing object to 'out': No space left on device (os error 28)"⟩) ∧
      (Op.run transport (pull laptopSettings (heldText envelope) "out") (crowded n) (holder envelope)).2.1.tree = laptop.tree) ∧
    ∃ other, (Op.run transport (pull keylessSettings (heldText other) "out") laptop (holder envelope)).1 =
      .error (.integrityViolation "Checksum mismatch for object 'x'") := by
  obtain ⟨envelope, hheld⟩ := exists_downloaded_holder
  have hunused : ∀ path, Home.expand laptop.home "out" = .ok path → Unused laptop path := fun path _ => unused_laptop path
  obtain ⟨l, u', hdownloaded⟩ := hheld laptop "out" "out" equipped_laptop rfl
  obtain ⟨m₁, hreplace, htree⟩ := runs_replace_accepts transport accepts_laptop [104, 105] pulledMode u'
  have hpull := runs_pull_heldText (hdownloaded.runs_pullReference hreplace)
  have hok : (Op.run transport (pull laptopSettings (heldText envelope) "out") laptop (holder envelope)).1 = .ok () := by
    rw [hpull.run_eq]
  have hsound := pull_sound transport laptopSettings (heldText envelope) "out" laptop (holder envelope) hunused
  obtain ⟨r, c, response, -, -, -, -, -, hr, ⟨hc, hrequest, htoken, hanswer⟩, hstatus, hdigest, -⟩ := hsound.success hok
  obtain rfl := Except.ok.inj ((parse_heldText envelope).symm.trans hr)
  have hsame : Hash.sha256 response.body = Hash.sha256 envelope :=
    Except.ok.inj (hdigest.symm.trans (decode_of_isOf (Checksum.isOf_ofBytes envelope)))
  refine ⟨envelope, ⟨hunused, hok, ⟨c, response, hc, hrequest, htoken, hanswer, hsame⟩, fun q => ?_⟩, fun n hn => ?_, ?_⟩
  · rw [hpull.run_eq, htree, FileTree.node?_put _ _ (List.cons_ne_nil _ _)]
    rfl
  · have hunused' : ∀ path, Home.expand (crowded n).home "out" = .ok path → Unused (crowded n) path := hunused
    obtain ⟨l', u'', hdownloaded'⟩ := hheld (crowded n) "out" "out" (equipped_crowded n) rfl
    obtain ⟨m₂, hfailed, -⟩ := pull_interrupted hdownloaded' (unused_laptop "out") opens_laptop ⟨[], rfl⟩ hn
    have herror := congrArg Prod.fst (runs_pull_heldText hfailed).run_eq
    exact ⟨hunused', herror,
      (pull_sound transport laptopSettings (heldText envelope) "out" (crowded n) (holder envelope) hunused').failure _ herror⟩
  · obtain ⟨other, hother⟩ := exists_ofBytes_ne (.ofBytes envelope)
    have hviolation : Runs transport (pullReference keylessSettings (.ofTransmitted ⟨"x"⟩ other) "out") laptop (holder envelope) l
        (.error (violation (.ofTransmitted ⟨"x"⟩ other))) laptop u' := hdownloaded.runs_violation rfl hother rfl rfl
    have hsound' := pull_sound transport keylessSettings (heldText other) "out" laptop (holder envelope) hunused
    -- The remote is asked for the same, and so it answers the same.
    rw [(runs_pull_heldText hviolation).calls_eq, ← hpull.calls_eq] at hsound'
    refine ⟨other, hsound'.tampered _ c response (parse_heldText other) hc hrequest htoken hanswer hstatus fun hdigest' => hother ?_⟩
    have hsame' : Hash.sha256 other = Hash.sha256 response.body :=
      Except.ok.inj ((decode_of_isOf (Checksum.isOf_ofBytes other)).symm.trans hdigest')
    rw [Checksum.ofBytes, hsame', hsame, Checksum.ofBytes]

end Exchange

end SealedDrop
