import SealedDrop.CommandLine.Run

/-!
# Reports of failures

What a user reads when a task has failed. A report holds what was attempted and why that failed, and nobody who reads it can take one
failure for another.

## The model

* `Failure.Shows` spells the lines of a report: those of the attempt, an empty one, a heading, and those of the causes, each of which
  begins with blanks.
* Failures are `Alike` if they differ at most in the kind of a failed access, for which its description speaks.

## What is proved

* `Error.message_inj` — messages tell errors apart, but for that kind.
* `Failure.shows_report` — the report of a failure shows it.
* `Failure.Shows.alike` — a text shows no failures but such as are alike.
-/

namespace SealedDrop

/-! ### Messages -/

/-- A list has one part before the first separator, and one after it. -/
theorem eq_of_append_cons_eq {α : Type} {a : α} {l l' r r' : List α} (hl : a ∉ l) (hl' : a ∉ l')
    (h : l ++ a :: r = l' ++ a :: r') : l = l' ∧ r = r' := by
  obtain ⟨c, rfl, hc⟩ | ⟨c, rfl, hc⟩ := List.append_eq_append_iff.mp h
  · cases c with
    | nil => exact ⟨(List.append_nil l).symm, (List.cons.inj hc).2⟩
    | cons d c =>
      obtain ⟨rfl, -⟩ := List.cons.inj hc
      exact absurd (List.mem_append_right l List.mem_cons_self) hl'
  · cases c with
    | nil => exact ⟨List.append_nil l', (List.cons.inj hc).2.symm⟩
    | cons d c =>
      obtain ⟨rfl, -⟩ := List.cons.inj hc
      exact absurd (List.mem_append_right l' List.mem_cons_self) hl

/-- A number is read from its digits. -/
theorem toString_inj {n n' : Nat} (h : toString n = toString n') : n = n' := by
  rw [Nat.toString_eq_repr, Nat.toString_eq_repr] at h
  have hread := congrArg (fun s => Nat.ofDigitChars 10 s.toList 0) h
  simpa only [Nat.toList_repr, Nat.ofDigitChars_ten_toDigits] using hread

/-- The digits of a number hold no colon. -/
theorem colon_not_mem_toString (n : Nat) : ':' ∉ (toString n).toList := by
  rw [Nat.toString_eq_repr, Nat.toList_repr]
  intro hc
  exact absurd (Nat.isDigit_of_mem_toDigits (by decide) (by decide) hc) (by decide)

namespace Error

/-- The first letters of a message. They tell which part of the work has failed. -/
def initials : Error → List Char
  | config _ => ['C', 'o', 'n']
  | keyAccess _ => ['K', 'e', 'y']
  | crypto _ => ['C', 'r', 'y']
  | integrity _ => ['I', 'n', 't']
  | integrityViolation _ => ['O', 'b', 'j']
  | format _ => ['F', 'o', 'r']
  | invalidInput _ => ['I', 'n', 'v']
  | authRequest _ => ['T', 'o', 'k']
  | tokenDecrypt _ => ['F', 'a', 'i']
  | authExhausted _ => ['A', 'u', 't']
  | requestFailed _ _ => ['R', 'e', 'q']
  | io _ => ['I', '/', 'O']
  | serialization _ => ['S', 'e', 'r']

/-- The beginning of a text is that of every longer one. -/
theorem take_append_of_take {n : Nat} {p : String} {l : List Char} (s : String) (h : p.toList.take n = l) (hl : l.length = n) :
    (p ++ s).toList.take n = l := by
  rw [String.toList_append, List.take_append_of_le_length, h]
  rw [← h, List.length_take] at hl
  omega

theorem take_message (e : Error) : e.message.toList.take 3 = e.initials := by
  cases e with
  | authExhausted n => exact take_append_of_take _ (take_append_of_take _ rfl rfl) rfl
  | requestFailed status what =>
    cases status with
    | none => exact take_append_of_take _ rfl rfl
    | some n => exact take_append_of_take _ (take_append_of_take _ (take_append_of_take _ rfl rfl) rfl) rfl
  | _ => exact take_append_of_take _ rfl rfl

theorem message_requestFailed (n : Nat) (what : String) : (requestFailed (some n) what).message =
    "Request failed with status " ++ (toString n ++ (": " ++ what)) :=
  (String.append_assoc ..).trans (String.append_assoc ..)

/-- A status is told apart from another one, and from none. -/
theorem requestFailed_inj {status status' : Option Nat} {what what' : String}
    (h : (requestFailed status what).message = (requestFailed status' what').message) : status = status' ∧ what = what' := by
  -- What follows the first two words of both messages is a colon if there is no status, and a blank if there is one.
  have hnone : ∀ w, (requestFailed none w).message.toList.take 15 = "Request failed:".toList :=
    fun w => take_append_of_take w rfl rfl
  have hsome : ∀ n w, (requestFailed (some n) w).message.toList.take 15 = "Request failed ".toList := fun n w => by
    rw [message_requestFailed]
    exact take_append_of_take _ rfl rfl
  cases status with
  | none =>
    cases status' with
    | none => exact ⟨rfl, (String.append_right_inj _).mp h⟩
    | some n' =>
      have hsame := hsome n' what'
      rw [← h, hnone] at hsame
      exact absurd hsame (by decide)
  | some n =>
    cases status' with
    | none =>
      have hsame := hsome n what
      rw [h, hnone] at hsame
      exact absurd hsame (by decide)
    | some n' =>
      rw [message_requestFailed, message_requestFailed, String.append_right_inj] at h
      have hlist := congrArg String.toList h
      simp only [String.toList_append] at hlist
      obtain ⟨hdigits, hrest⟩ := eq_of_append_cons_eq (colon_not_mem_toString n) (colon_not_mem_toString n') hlist
      exact ⟨congrArg some (toString_inj (String.toList_inj.mp hdigits)), String.toList_inj.mp (List.cons.inj hrest).2⟩

/-- **Messages tell errors apart**, but for the kind of a failed access. -/
theorem message_inj {e e' : Error} (h : e.message = e'.message) :
    e = e' ∨ ∃ a a', e = io a ∧ e' = io a' ∧ a.description = a'.description := by
  have hinitials : e.initials = e'.initials := by rw [← take_message, h, take_message]
  cases e <;> cases e' <;> cases hinitials
  case io.io => exact .inr ⟨_, _, rfl, rfl, (String.append_right_inj _).mp h⟩
  case authExhausted.authExhausted =>
    exact .inl (congrArg authExhausted (toString_inj ((String.append_right_inj _).mp ((String.append_left_inj _).mp h))))
  case requestFailed.requestFailed =>
    obtain ⟨rfl, rfl⟩ := requestFailed_inj h
    exact .inl rfl
  all_goals exact .inl (congrArg _ ((String.append_right_inj _).mp h))

end Error

namespace CommandLine

/-! ### Lines -/

/-- The lines of a text. -/
def lines (s : String) : List (List Char) :=
  s.toList.splitOn '\n'

/-- Lines with a mark in front of the first of them, and blanks in front of the others. -/
def indented (mark blanks : String) : List (List Char) → List (List Char)
  | [] => []
  | line :: rest => (mark.toList ++ line) :: rest.map (blanks.toList ++ ·)

/-- A text is put together from its lines. -/
theorem lines_inj {s s' : String} (h : lines s = lines s') : s = s' := by
  have hjoined := congrArg (['\n'].intercalate ·) h
  simp only [lines, List.intercalate_splitOn] at hjoined
  exact String.toList_inj.mp hjoined

/-- Behind a word there are as many lines as without it. -/
theorem length_lines_append {p : String} (hp : '\n' ∉ p.toList) (s : String) : (lines (p ++ s)).length = (lines s).length := by
  rw [lines, String.toList_append]
  generalize p.toList = l at hp
  induction l with
  | nil => rfl
  | cons c l ih =>
    obtain ⟨hc, hl⟩ := not_or.mp (mt List.mem_cons.mpr hp)
    rw [List.cons_append, List.splitOn_cons_eq_if_modifyHead, if_neg (by simpa using Ne.symm hc), List.length_modifyHead, ih hl]

theorem length_indented (mark blanks : String) (l : List (List Char)) : (indented mark blanks l).length = l.length := by
  cases l with
  | nil => rfl
  | cons line rest => rw [indented, List.length_cons, List.length_map, List.length_cons]

theorem indented_self (blanks : String) (l : List (List Char)) : indented blanks blanks l = l.map (blanks.toList ++ ·) := by
  cases l <;> rfl

/-- The lines are found again behind what is in front of them. -/
theorem indented_inj {mark blanks : String} {l l' : List (List Char)} (h : indented mark blanks l = indented mark blanks l') :
    l = l' := by
  have hlength : l.length = l'.length := by rw [← length_indented mark blanks l, h, length_indented]
  cases l with
  | nil => exact (List.length_eq_zero_iff.mp hlength.symm).symm
  | cons line rest =>
    cases l' with
    | nil => cases hlength
    | cons line' rest' =>
      obtain ⟨hline, hrest⟩ := List.cons.inj h
      rw [List.append_cancel_left hline, (List.map_inj_right fun _ _ => List.append_cancel_left).mp hrest]

/-- A text that hangs behind a mark has its lines behind the mark and behind blanks. -/
theorem lines_append_hang {mark blanks : String} (hmark : '\n' ∉ mark.toList) (hblanks : '\n' ∉ blanks.toList) (s : String) :
    lines (mark ++ Failure.hang blanks s) = indented mark blanks (lines s) := by
  rw [lines, lines, Failure.hang, String.toList_append, String.toList_ofList]
  generalize s.toList = l
  -- The characters of the first line join the mark one by one, and then the blanks take its place.
  induction l generalizing mark with
  | nil =>
    rw [List.flatMap_nil, List.append_nil, List.splitOn_eq_singleton hmark, List.splitOn_nil, indented, List.append_nil]
    rfl
  | cons c l ih =>
    rw [List.flatMap_cons, List.splitOn_cons_eq_if_modifyHead]
    by_cases hc : c = '\n'
    · subst hc
      rw [if_pos rfl, if_pos (by decide), List.cons_append, List.splitOn_append_cons_self, List.splitOn_eq_singleton hmark,
        ih hblanks, indented_self, indented, List.append_nil]
      rfl
    · have hnext : '\n' ∉ (mark ++ String.singleton c).toList := by
        simpa [hmark] using Ne.symm hc
      have hrest := ih hnext
      rw [if_neg hc, if_neg (by simpa using hc)]
      obtain ⟨line, rest, hlines⟩ := List.exists_cons_of_ne_nil (List.splitOn_ne_nil '\n' l)
      rw [hlines] at hrest ⊢
      simpa [indented] using hrest

/-! ### What a report shows -/

namespace Failure

variable {f f' : Failure} {e e' : Error} {text : String}

/-- The lines that tell why a task has failed. If an access to a file did, its failure comes first and then what the system says of
it, with a number for each. -/
def causeLines : Error → List (List Char)
  | .io e => indented "    0: " "       " (lines ("I/O error: " ++ e.description)) ++
      indented "    1: " "       " (lines e.description)
  | e => indented "    " "    " (lines e.message)

/-- The text is a report of the failure. -/
def Shows (f : Failure) (text : String) : Prop :=
  lines text = lines ("Error: " ++ f.attempt) ++ [[], "Caused by:".toList] ++ causeLines f.cause ++ [[]]

/-- The failures are the same, but for the kind of a failed access. -/
def Alike (f f' : Failure) : Prop :=
  f.attempt = f'.attempt ∧ (f.cause = f'.cause ∨ ∃ e e', f.cause = .io e ∧ f'.cause = .io e' ∧ e.description = e'.description)

theorem causeLines_of_ne_io (h : ∀ a, e ≠ .io a) : causeLines e = indented "    " "    " (lines e.message) := by
  cases e with
  | io a => exact absurd rfl (h a)
  | _ => rfl

theorem causes_of_ne_io (h : ∀ a, f.cause ≠ .io a) : f.causes = [f.cause.message] := by
  unfold causes
  split
  · next a ha => exact absurd ha (h a)
  · rfl

/-- The lines of two texts with a line end between them. -/
theorem lines_append_lineEnd (s s' : String) : lines (s ++ "\n" ++ s') = lines s ++ lines s' := by
  have htext : (s ++ "\n" ++ s').toList = s.toList ++ '\n' :: s'.toList := by
    rw [String.toList_append, String.toList_append, List.append_assoc]
    rfl
  rw [lines, htext, List.splitOn_append_cons_self]
  rfl

/-- The lines around those of the causes. -/
theorem lines_frame (first body : String) :
    lines (first ++ "\n\nCaused by:\n" ++ body ++ "\n") = lines first ++ [[], "Caused by:".toList] ++ lines body ++ [[]] := by
  have htext : first ++ "\n\nCaused by:\n" ++ body ++ "\n" =
      first ++ "\n" ++ ("" ++ "\n" ++ ("Caused by:" ++ "\n" ++ (body ++ "\n" ++ ""))) := by
    apply String.toList_inj.mp
    simp only [String.toList_append, List.append_assoc]
    rfl
  rw [htext, lines_append_lineEnd, lines_append_lineEnd, lines_append_lineEnd, lines_append_lineEnd, List.append_assoc,
    List.append_assoc]
  rfl

theorem report_of_one {cause : String} (h : f.causes = [cause]) :
    f.report = "Error: " ++ f.attempt ++ "\n\nCaused by:\n" ++ ("    " ++ hang "    " cause) ++ "\n" := by
  simp only [report, h, String.intercalate_singleton]

theorem report_of_two {cause cause' : String} (h : f.causes = [cause, cause']) :
    f.report = "Error: " ++ f.attempt ++ "\n\nCaused by:\n" ++
      ("    0: " ++ hang "       " cause ++ "\n" ++ ("    1: " ++ hang "       " cause')) ++ "\n" := by
  have hzero : "    " ++ toString 0 ++ ": " = "    0: " := by decide
  have hone : "    " ++ toString 1 ++ ": " = "    1: " := by decide
  simp only [report, h, List.mapIdx_cons, List.mapIdx_nil, String.intercalate_cons_cons, String.intercalate_singleton, Nat.zero_add,
    hzero, hone]

/-- **Reports show failures.** -/
theorem shows_report (f : Failure) : f.Shows f.report := by
  obtain ⟨attempt, cause⟩ := f
  by_cases hio : ∃ a, cause = .io a
  · obtain ⟨a, rfl⟩ := hio
    have hcauses : causes ⟨attempt, .io a⟩ = ["I/O error: " ++ a.description, a.description] := rfl
    rw [Shows, report_of_two hcauses, lines_frame, lines_append_lineEnd, lines_append_hang (by decide) (by decide),
      lines_append_hang (by decide) (by decide), causeLines]
  · have hne : ∀ a, cause ≠ .io a := fun a ha => hio ⟨a, ha⟩
    have hcauses : causes ⟨attempt, cause⟩ = [cause.message] := causes_of_ne_io hne
    rw [Shows, report_of_one hcauses, lines_frame, lines_append_hang (by decide) (by decide), causeLines_of_ne_io hne]

/-! ### What is told apart -/

theorem head?_of_mem_indented {mark blanks : String} {l : List (List Char)} (hmark : mark.toList.head? = some ' ')
    (hblanks : blanks.toList.head? = some ' ') {line : List Char} (h : line ∈ indented mark blanks l) : line.head? = some ' ' := by
  cases l with
  | nil => cases h
  | cons line' rest =>
    obtain rfl | h := List.mem_cons.mp h
    · rw [List.head?_append, hmark, Option.some_or]
    · obtain ⟨line'', -, rfl⟩ := List.mem_map.mp h
      rw [List.head?_append, hblanks, Option.some_or]

/-- The lines of a cause begin with a blank. -/
theorem head?_of_mem_causeLines {line : List Char} (h : line ∈ causeLines e) : line.head? = some ' ' := by
  by_cases hio : ∃ a, e = .io a
  · obtain ⟨a, rfl⟩ := hio
    rw [causeLines] at h
    exact (List.mem_append.mp h).elim (head?_of_mem_indented rfl rfl) (head?_of_mem_indented rfl rfl)
  · rw [causeLines_of_ne_io fun a ha => hio ⟨a, ha⟩] at h
    exact head?_of_mem_indented rfl rfl h

/-- No message begins with the number of a cause. -/
theorem exists_lines_message (e : Error) : ∃ c line rest, lines e.message = (c :: line) :: rest ∧ c ≠ '0' := by
  obtain ⟨c, l, hinitials, hzero, hend⟩ : ∃ c l, e.initials = c :: l ∧ c ≠ '0' ∧ c ≠ '\n' := by
    cases e <;> exact ⟨_, _, rfl, by decide, by decide⟩
  have htake := e.take_message.trans hinitials
  cases hmessage : e.message.toList with
  | nil =>
    rw [hmessage] at htake
    cases htake
  | cons c' l' =>
    rw [hmessage, List.take_succ_cons] at htake
    obtain ⟨rfl, -⟩ := List.cons.inj htake
    obtain ⟨line, rest, hlines⟩ := List.exists_cons_of_ne_nil (List.splitOn_ne_nil '\n' l')
    refine ⟨c', line, rest, ?_, hzero⟩
    rw [lines, hmessage, List.splitOn_cons_eq_if_modifyHead, if_neg (by simpa using hend), hlines, List.modifyHead_cons]

theorem causeLines_io_ne {a : IoError} (h : ∀ a', e ≠ .io a') : causeLines (.io a) ≠ causeLines e := by
  obtain ⟨c, line, rest, hlines, hzero⟩ := exists_lines_message e
  obtain ⟨line', rest', hlines'⟩ := List.exists_cons_of_ne_nil (List.splitOn_ne_nil '\n' ("I/O error: " ++ a.description).toList)
  rw [causeLines_of_ne_io h, causeLines, hlines, lines, hlines']
  intro heq
  obtain ⟨hfirst, -⟩ := List.cons.inj heq
  have hmark : "    0: ".toList = "    ".toList ++ '0' :: [':', ' '] := by decide
  rw [hmark, List.append_assoc] at hfirst
  exact hzero (List.cons.inj (List.append_cancel_left hfirst)).1.symm

/-- The lines of causes tell errors apart, but for the kind of a failed access. -/
theorem causeLines_inj (h : causeLines e = causeLines e') :
    e = e' ∨ ∃ a a', e = .io a ∧ e' = .io a' ∧ a.description = a'.description := by
  by_cases hio : ∃ a, e = .io a
  · obtain ⟨a, rfl⟩ := hio
    by_cases hio' : ∃ a, e' = .io a
    · obtain ⟨a', rfl⟩ := hio'
      have hcount : ∀ d : String, (lines ("I/O error: " ++ d)).length = (lines d).length := length_lines_append (by decide)
      have hlength := congrArg List.length h
      rw [causeLines, causeLines] at h hlength
      simp only [List.length_append, length_indented, hcount] at hlength
      have hfirst : (indented "    0: " "       " (lines ("I/O error: " ++ a.description))).length =
          (indented "    0: " "       " (lines ("I/O error: " ++ a'.description))).length := by
        rw [length_indented, length_indented, hcount, hcount]
        omega
      exact .inr ⟨a, a', rfl, rfl, lines_inj (indented_inj (List.append_inj h hfirst).2)⟩
    · exact absurd h (causeLines_io_ne fun a' ha' => hio' ⟨a', ha'⟩)
  · by_cases hio' : ∃ a, e' = .io a
    · obtain ⟨a', rfl⟩ := hio'
      exact absurd h.symm (causeLines_io_ne fun a ha => hio ⟨a, ha⟩)
    · rw [causeLines_of_ne_io fun a ha => hio ⟨a, ha⟩, causeLines_of_ne_io fun a ha => hio' ⟨a, ha⟩] at h
      exact Error.message_inj (lines_inj (indented_inj h))

/-- **Failures are told apart**: a text shows no failures but such as are alike. -/
theorem Shows.alike (h : f.Shows text) (h' : f'.Shows text) : f.Alike f' := by
  have hlines := List.append_cancel_right (h.symm.trans h')
  -- The heading is the last line that does not begin with a blank.
  have hheading : ∀ e : Error, "Caused by:".toList ∉ (causeLines e).reverse := fun e hmem => by
    have hblank := head?_of_mem_causeLines (List.mem_reverse.mp hmem)
    exact absurd hblank (by decide)
  have hreverse := congrArg List.reverse hlines
  simp only [List.reverse_append, List.reverse_cons, List.nil_append, List.append_assoc, List.cons_append] at hreverse
  obtain ⟨hcause, hattempt⟩ := eq_of_append_cons_eq (hheading _) (hheading _) hreverse
  refine ⟨?_, causeLines_inj (List.reverse_inj.mp hcause)⟩
  exact (String.append_right_inj _).mp (lines_inj (List.reverse_inj.mp (List.cons.inj hattempt).2))

end Failure

end CommandLine

end SealedDrop
