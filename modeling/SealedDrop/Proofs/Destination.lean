import SealedDrop.Proofs.RoundTrip

/-!
# Destinations and their temporary names

A file is written under a hidden name beside its destination first, and then moved. This module tells which destinations, of all
that could hold a file, leave room for the hidden name, and what becomes of the others.

## The model

* A destination could hold a file if its path leads to a name of at most 255 bytes in an existing directory, no slash follows
  the name, and no directory has it (`FileTree.Takes`).
* The hidden name is 42 bytes longer: two dots, 32 digits and `.partial`. A destination `HasRoom` if neither this name nor the
  path to it is longer than the file system allows.
* `Fitting` is the rule for an outcome and the tree after it. It supposes that no access fails, and that no entry has the name
  that is drawn.

## What is proved

* `runs_replace_fitting` — a replacement succeeds just if there is room.
* `destination_exact` — so does every pull that succeeds up to its last step.
* `not_fitting_longName` — a new file can be created under a name of 214 bytes, and a file cannot be replaced under it.
-/

namespace SealedDrop.Exchange

open FileTree FileWriter Op

variable {σ : Type} {m : Machine} {destination name : String} {place : Route} {b : Bytes} {mode : Nat}

/-! ### Room for a temporary name -/

/-- The hidden name beside a destination is at most 255 bytes long, and its path less than 4096 bytes. -/
def HasRoom (m : Machine) (destination : String) : Prop :=
  ∀ directory name, Path.split? destination = some (directory, name) →
    name.utf8ByteSize + 42 ≤ 255 ∧ (sibling directory name (m.entropy.peek 16)).utf8ByteSize < 4096

/-- The failure to replace a destination that has no room. -/
def tooLong (destination : String) : Error :=
  .ioWith ("Error writing object to '" ++ destination ++ "'") ⟨.invalidFilename, "File name too long (os error 36)"⟩

/-- Whether there is room decides whether the temporary file can be created. -/
theorem exists_newRoute (hunused : Unused m destination) (htakes : m.tree.Takes m.workDir destination (name :: place)) :
    ∃ directory, Path.split? destination = some (directory, name) ∧
      ((HasRoom m destination ∧ m.tree.newRoute m.workDir (sibling directory name (m.entropy.peek 16)) =
          .ok (hidden name (m.entropy.peek 16) :: place)) ∨
        ¬ HasRoom m destination ∧
          m.tree.newRoute m.workDir (sibling directory name (m.entropy.peek 16)) = .error .nameTooLong) := by
  obtain ⟨directory, hsplit, -, hnew⟩ := newRoute_sibling htakes (m.entropy.length_peek 16)
  replace hnew := hnew (hunused directory name hsplit)
  refine ⟨directory, hsplit, ?_⟩
  split at hnew
  · next hfits =>
    refine .inl ⟨fun directory' name' hsplit' => ?_, hnew⟩
    rw [hsplit] at hsplit'
    cases hsplit'
    exact hfits
  · next hlong => exact .inr ⟨fun hroom => hlong (hroom directory name hsplit), hnew⟩

/-- A short name in a short path leaves room. -/
theorem hasRoom_of_short (htakes : m.tree.Takes m.workDir destination (name :: place)) (hname : name.utf8ByteSize ≤ 213)
    (hpath : destination.utf8ByteSize ≤ 4053) : HasRoom m destination := by
  obtain ⟨directory, hsplit, hsize, -⟩ := newRoute_sibling htakes (m.entropy.length_peek 16)
  intro directory' name' hsplit'
  rw [hsplit] at hsplit'
  cases hsplit'
  omega

/-- A longer name leaves none, whatever the path is. -/
theorem not_hasRoom_of_long (htakes : m.tree.Takes m.workDir destination (name :: place)) (hname : 213 < name.utf8ByteSize) :
    ¬ HasRoom m destination := by
  obtain ⟨directory, hsplit, -⟩ := newRoute_sibling htakes (m.entropy.length_peek 16)
  intro hroom
  obtain ⟨hlimit, -⟩ := hroom directory name hsplit
  omega

/-! ### The rule -/

/-- The rule for putting these contents in place of a destination of this name in this directory: the outcome is `x`, and `tree` is
left. -/
structure Fitting (m : Machine) (destination name : String) (place : Route) (b : Bytes) (mode : Nat) (x : Except Error Unit)
    (tree : FileTree) : Prop where
  /-- If there is room, the destination holds the contents, and all else is as before. -/
  placed : HasRoom m destination →
    x = .ok () ∧ ∀ q, tree.node? q = if q = name :: place then some (.file (m.masked mode) b) else m.tree.node? q
  /-- Otherwise the name is too long, and all is as before. -/
  refused : ¬ HasRoom m destination → x = .error (tooLong destination) ∧ tree = m.tree

/-- Replacing obeys the rule. -/
theorem runs_replace_fitting (t : Transport σ) (hless : Faultless m) (hunused : Unused m destination)
    (htakes : m.tree.Takes m.workDir destination (name :: place)) (b : Bytes) (mode : Nat) (u : σ) :
    ∃ x m', Runs t (replace destination b mode) m u [] x m' u ∧ Fitting m destination name place b mode x m'.tree := by
  obtain ⟨directory, hsplit, ⟨hroom, hnew⟩ | ⟨hroom, hnew⟩⟩ := exists_newRoute hunused htakes
  · obtain ⟨m', hrun, htree⟩ :=
      runs_replace_of_opens t hless hunused htakes ⟨directory, name, _, hsplit, hnew⟩ b mode u
    refine ⟨_, m', hrun, fun _ => ⟨rfl, fun q => ?_⟩, fun hno => absurd hroom hno⟩
    rw [htree, node?_put m.tree _ htakes.names.ne_nil]
  · obtain ⟨m', hrun, htree⟩ := runs_replace_of_error t hless hunused hsplit hnew b mode u
    exact ⟨_, m', hrun, fun hyes => absurd hyes hroom, fun _ => ⟨rfl, htree⟩⟩

/-- **Destinations that could hold a file**: without faults, and with a name drawn that is unused, a file is put in place of every
destination that could hold one if there is room for the temporary name, as there is beside each name of at most 213 bytes in a path
of at most 4053, and beside no longer name. Otherwise the replacement fails. A pull that succeeds up to its last step ends in the same
way. -/
theorem destination_exact (t : Transport σ) (hless : Faultless m) (hunused : Unused m destination)
    (htakes : m.tree.Takes m.workDir destination (name :: place)) :
    (name.utf8ByteSize ≤ 213 → destination.utf8ByteSize ≤ 4053 → HasRoom m destination) ∧
      (213 < name.utf8ByteSize → ¬ HasRoom m destination) ∧
      (∀ b mode u, Fitting m destination name place b mode (Op.run t (replace destination b mode) m u).1
        (Op.run t (replace destination b mode) m u).2.1.tree) ∧
      ∀ s r raw u l u' plaintext, Downloaded t s r raw m u l u' destination plaintext →
        Fitting m destination name place plaintext 0o644 (Op.run t (pullReference s r raw) m u).1
          (Op.run t (pullReference s r raw) m u).2.1.tree := by
  refine ⟨hasRoom_of_short htakes, not_hasRoom_of_long htakes, fun b mode u => ?_, fun s r raw u l u' plaintext h => ?_⟩
  · obtain ⟨x, m', hrun, hfitting⟩ := runs_replace_fitting t hless hunused htakes b mode u
    rw [hrun.run_eq]
    exact hfitting
  · obtain ⟨x, m', hrun, hfitting⟩ := runs_replace_fitting t hless hunused htakes plaintext pulledMode u'
    rw [(h.runs_pullReference hrun).run_eq]
    exact hfitting

/-! ### The laptop -/

open Remote

/-- A remote at which the client of the laptop is registered, with an object. -/
def holder (envelope : Bytes) : Remote :=
  { office with objects := [("x", envelope)] }

/-- There is an object for the client, which opens it on every machine where it finds its keys. -/
theorem exists_downloaded_holder :
    ∃ envelope, ∀ m destination path, Equipped laptopSettings m [1] laptopName mersenneKey → Home.expand m.home destination = .ok path →
      ∃ l u', Downloaded transport laptopSettings (.ofTransmitted ⟨"x"⟩ envelope) destination m (holder envelope) l u' path
        [104, 105] := by
  obtain ⟨envelope, -, -, -, hdecrypt⟩ :=
    Envelope.exists_encrypt_decrypt (List.cons_ne_nil 1 []) (laptop.entropy.length_peek Envelope.ivSize) [104, 105]
  have henrolled : (holder envelope).Enrolled laptopName mersenneKey := enrolled_office.of_key? rfl
  have hreject : office.rejectNext ≤ 1 := by decide
  have hid : ObjectId.Safe "x" := by decide
  exact ⟨envelope, fun m destination path hclient hpath =>
    exists_downloaded hclient henrolled hreject rfl hid rfl hdecrypt hpath⟩

/-- A short name takes an object that the remote holds. -/
theorem destination_exact_laptop :
    Faultless laptop ∧ Unused laptop "out" ∧ laptop.tree.Takes laptop.workDir "out" ["out"] ∧
      (Op.run silent (replace "out" [1, 2] 0o600) laptop ()).1 = .ok () ∧
      ∃ envelope l u', Downloaded transport laptopSettings (.ofTransmitted ⟨"x"⟩ envelope) "out" laptop (holder envelope) l u'
          "out" [104, 105] ∧
        (Op.run transport (pullReference laptopSettings (.ofTransmitted ⟨"x"⟩ envelope) "out") laptop (holder envelope)).1 =
          .ok () := by
  have htakes := accepts_laptop.takes
  obtain ⟨hshort, -, hreplaced, -⟩ := destination_exact silent faultless_laptop (unused_laptop "out") htakes
  obtain ⟨-, -, -, hpulled⟩ := destination_exact transport faultless_laptop (unused_laptop "out") htakes
  have hroom := hshort (by decide) (by decide)
  obtain ⟨envelope, hheld⟩ := exists_downloaded_holder
  obtain ⟨l, u', hdownloaded⟩ := hheld laptop "out" "out" equipped_laptop accepts_laptop.expanded
  exact ⟨faultless_laptop, unused_laptop "out", htakes, (hreplaced [1, 2] 0o600 ()).placed hroom |>.1, envelope, l, u', hdownloaded,
    (hpulled _ _ _ _ _ _ _ hdownloaded).placed hroom |>.1⟩

/-- A name of 214 bytes. -/
def longName : String :=
  String.ofList (List.replicate 214 'x')

theorem toList_longName : longName.toList = List.replicate 214 'x' := String.toList_ofList

theorem utf8ByteSize_longName : longName.utf8ByteSize = 214 := by
  rw [← String.utf8Len_toList, toList_longName]
  exact utf8Len_replicate rfl 214

theorem not_mem_longName {c : Char} (h : c ≠ 'x') : c ∉ longName.toList := by
  rw [toList_longName]
  exact fun hc => h (List.eq_of_mem_replicate hc)

theorem node?_longName : laptop.tree.node? [longName] = none :=
  node?_eq_none_of_forall_short (n := 42) (by decide) [] (by rw [utf8ByteSize_longName]; decide)

theorem takes_longName : laptop.tree.Takes laptop.workDir longName [longName] where
  names := by
    have hsize := utf8ByteSize_longName
    have hne : longName ≠ "" := fun h => by
      rw [h] at hsize
      cases hsize
    have hsteps : innerSteps longName = [.name longName] :=
      innerSteps_of_no_slash (not_mem_longName (by decide)) (by rw [toList_longName, List.length_replicate]; decide)
    refine names_of_innerSteps (checkPath_eq_ok (not_mem_longName (by decide)) hne ?_) (ite_self _) hsteps ?_
    · rw [hsize]
      decide
    · rw [hsize]
      decide
  plain := by
    rw [endsInSlash, toList_longName]
    rfl
  free := by
    rw [node?_longName]
    exact (Option.some_ne_none _).symm

/-- A file can be created under that name, and not be replaced. -/
theorem not_fitting_longName :
    Faultless laptop ∧ Unused laptop longName ∧ laptop.tree.Takes laptop.workDir longName [longName] ∧
      longName.utf8ByteSize ≤ 255 ∧ (Op.run silent (writeNew longName [1, 2] 0o600) laptop ()).1 = .ok () ∧
      (Op.run silent (replace longName [1, 2] 0o600) laptop ()).1 ≠ .ok () := by
  have hsize := utf8ByteSize_longName
  have hnew : laptop.tree.newRoute laptop.workDir longName = .ok [longName] :=
    newRoute_eq_ok_iff.mpr ⟨takes_longName.names, takes_longName.plain, node?_longName⟩
  obtain ⟨m₁, hwrite, -⟩ := runs_writeNew_of_faultless silent faultless_laptop hnew [1, 2] 0o600 ()
  obtain ⟨x, m₂, hreplace, hfitting⟩ :=
    runs_replace_fitting silent faultless_laptop (unused_laptop longName) takes_longName [1, 2] 0o600 ()
  obtain ⟨hrefused, -⟩ := hfitting.refused (not_hasRoom_of_long takes_longName (by omega))
  refine ⟨faultless_laptop, unused_laptop longName, takes_longName, by omega, ?_, ?_⟩
  · rw [hwrite.run_eq]
  · rw [hreplace.run_eq, hrefused]
    nofun

end SealedDrop.Exchange
