import SealedDrop.Proofs.Download
import SealedDrop.Proofs.Pull

/-!
# Dots in the path of an object

A URL is resolved before it is requested: a segment of one dot is taken out, and one of two dots takes the segment before it with
it. The path of an object withstands this unless its identifier is one of these two.

## The model

* `Url.resolve` takes the dot segments out of a path, from its front to its end, as URLs are resolved.
* `Url.IsDotSegment` says of a segment that it is one or two dots, each written as itself or as an escape.
* `Resolves` is the rule for the path of an identifier: alone, and behind the path of any base URL.

## What is proved

* `exists_resolveOnto_append` — what stands behind a slash has no influence on how the path in front of it is resolved.
* `callsOnly_pullReference` — a pull requests no other path with a token.
* `path_resolves` — the path of every identifier that is accepted obeys the rule.
* `path_escapes` — the two identifiers for which it leads elsewhere.
-/

namespace SealedDrop

namespace Url

variable {output segment rest : List Char}

/-! ### Resolving dot segments -/

/-- The output without its last segment and the slash in front of that. -/
def dropSegment (output : List Char) : List Char :=
  ((output.reverse.dropWhile (· ≠ '/')).drop 1).reverse

/-- Takes the dot segments out of a path; `output` is what it has been resolved to so far. -/
def resolveOnto (output : List Char) : List Char → List Char
  | [] => output
  | '.' :: '.' :: '/' :: rest => resolveOnto output rest
  | '.' :: '/' :: rest => resolveOnto output rest
  | '/' :: '.' :: '/' :: rest => resolveOnto output ('/' :: rest)
  | ['/', '.'] => resolveOnto output ['/']
  | '/' :: '.' :: '.' :: '/' :: rest => resolveOnto (dropSegment output) ('/' :: rest)
  | ['/', '.', '.'] => resolveOnto (dropSegment output) ['/']
  | ['.'] => output
  | ['.', '.'] => output
  | c :: rest => resolveOnto (output ++ c :: rest.takeWhile (· ≠ '/')) (rest.dropWhile (· ≠ '/'))
termination_by path => path.length
decreasing_by
  all_goals simp only [List.length_cons, List.length_nil]
  all_goals try omega
  exact Nat.lt_succ_of_le (List.dropWhile_sublist _).length_le

/-- The path without its dot segments. -/
def resolve (path : String) : String :=
  String.ofList (resolveOnto [] path.toList)

/-! Each kind of segment, with whatever stands behind it. -/

/-- What may stand behind a segment: nothing, or a slash and more. -/
def IsRooted (path : List Char) : Prop :=
  path = [] ∨ path.head? = some '/'

theorem resolveOnto_here (h : rest.head? = some '/') : resolveOnto output ('/' :: '.' :: rest) = resolveOnto output rest := by
  cases rest with
  | nil => cases h
  | cons c rest =>
    cases h
    rw [resolveOnto]

theorem resolveOnto_up (h : rest.head? = some '/') :
    resolveOnto output ('/' :: '.' :: '.' :: rest) = resolveOnto (dropSegment output) rest := by
  cases rest with
  | nil => cases h
  | cons c rest =>
    cases h
    rw [resolveOnto]

theorem resolveOnto_here_nil : resolveOnto output ['/', '.'] = resolveOnto output ['/'] := by
  rw [resolveOnto]

theorem resolveOnto_up_nil : resolveOnto output ['/', '.', '.'] = resolveOnto (dropSegment output) ['/'] := by
  rw [resolveOnto]

/-- A segment that is not one of dots is kept. -/
theorem resolveOnto_segment (hsegment : '/' ∉ segment) (hdot : segment ≠ ['.']) (hdots : segment ≠ ['.', '.'])
    (hrest : IsRooted rest) :
    resolveOnto output ('/' :: (segment ++ rest)) = resolveOnto (output ++ '/' :: segment) rest := by
  have hkept : ∀ c ∈ segment, decide (c ≠ '/') = true := by
    intro c hc
    rw [decide_eq_true_iff]
    rintro rfl
    exact hsegment hc
  have hend : rest.takeWhile (· ≠ '/') = [] ∧ rest.dropWhile (· ≠ '/') = rest := by
    rcases hrest with rfl | hrest
    · exact ⟨rfl, rfl⟩
    · obtain ⟨rest, rfl⟩ := List.head?_eq_some_iff.mp hrest
      exact ⟨rfl, rfl⟩
  have htake : (segment ++ rest).takeWhile (· ≠ '/') = segment := by
    rw [List.takeWhile_append_of_pos hkept, hend.1, List.append_nil]
  have hdrop : (segment ++ rest).dropWhile (· ≠ '/') = rest := by
    rw [List.dropWhile_append_of_pos hkept, hend.2]
  have hfirst : ∀ path, segment ++ rest = path → segment = path.takeWhile (· ≠ '/') := by
    rintro path rfl
    exact htake.symm
  -- The other rules are about paths whose first segment is one of dots, or which do not begin with a slash.
  rw [resolveOnto.eq_10 output '/' (segment ++ rest) (fun _ h _ => by cases h) (fun _ h _ => by cases h)
    (fun _ _ h => hdot (hfirst _ h)) (fun _ h => hdot (hfirst _ h)) (fun _ _ h => hdots (hfirst _ h))
    (fun _ h => hdots (hfirst _ h)) (fun h _ => by cases h) (fun h _ => by cases h), htake, hdrop]

/-- The same for the last segment. -/
theorem resolveOnto_last (hsegment : '/' ∉ segment) (hdot : segment ≠ ['.']) (hdots : segment ≠ ['.', '.']) :
    resolveOnto output ('/' :: segment) = output ++ '/' :: segment := by
  have hkept : resolveOnto output ('/' :: (segment ++ [])) = resolveOnto (output ++ '/' :: segment) [] :=
    resolveOnto_segment hsegment hdot hdots (.inl rfl)
  rwa [List.append_nil, resolveOnto] at hkept

/-! What stands behind a slash is resolved by itself. -/

/-- A path with a slash behind it is one that begins with a slash. -/
theorem IsRooted.append_slash {path : List Char} (h : IsRooted path) (rest : List Char) :
    (path ++ '/' :: rest).head? = some '/' := by
  rcases h with rfl | h
  · rfl
  · rw [List.head?_append, h, Option.some_or]

/-- What is left behind the first segment. -/
theorem isRooted_dropWhile (path : List Char) : IsRooted (path.dropWhile (· ≠ '/')) := by
  cases hrest : path.dropWhile (· ≠ '/') with
  | nil => exact .inl rfl
  | cons c rest =>
    have hc := List.head?_dropWhile_not (· ≠ '/') path
    rw [hrest] at hc
    exact .inr (congrArg some (by simpa using hc))

/-- What stands behind a slash has no influence on how the path in front of it is resolved. -/
theorem exists_resolveOnto_append {base : List Char} (hbase : IsRooted base) (output : List Char) :
    ∃ output', ∀ rest, resolveOnto output (base ++ '/' :: rest) = resolveOnto output' ('/' :: rest) := by
  induction hn : base.length using Nat.strong_induction_on generalizing base output with
  | _ n ih =>
    subst hn
    rcases hbase with rfl | hbase
    · exact ⟨output, fun _ => rfl⟩
    obtain ⟨base, rfl⟩ := List.head?_eq_some_iff.mp hbase
    -- The first segment of the base, and what stands behind it.
    obtain ⟨segment, tail, hsegment, htail, rfl⟩ :
        ∃ segment tail, '/' ∉ segment ∧ IsRooted tail ∧ base = segment ++ tail :=
      ⟨base.takeWhile (· ≠ '/'), base.dropWhile (· ≠ '/'), fun hslash => by simpa using List.mem_takeWhile_imp hslash,
        isRooted_dropWhile base, List.takeWhile_append_dropWhile.symm⟩
    have hshorter : tail.length < ('/' :: (segment ++ tail)).length := by
      rw [List.length_cons, List.length_append]
      omega
    obtain ⟨output', houtput⟩ : ∃ output', ∀ rest, IsRooted rest → rest ≠ [] →
        resolveOnto output ('/' :: (segment ++ rest)) = resolveOnto output' rest := by
      by_cases hdot : segment = ['.']
      · subst hdot
        exact ⟨output, fun rest hrest hne => resolveOnto_here (hrest.resolve_left hne)⟩
      by_cases hdots : segment = ['.', '.']
      · subst hdots
        exact ⟨dropSegment output, fun rest hrest hne => resolveOnto_up (hrest.resolve_left hne)⟩
      · exact ⟨output ++ '/' :: segment, fun rest hrest _ => resolveOnto_segment hsegment hdot hdots hrest⟩
    obtain ⟨final, hfinal⟩ := ih tail.length hshorter htail output' rfl
    refine ⟨final, fun rest => ?_⟩
    have hrest := htail.append_slash rest
    rw [List.cons_append, List.append_assoc, houtput _ (.inr hrest) (by simp), hfinal]

/-! ### The path of a remote -/

/-- The segment is one or two dots, each written as itself or as an escape. -/
def IsDotSegment (segment : String) : Prop :=
  Text.Percent.decode (utf8 segment) = utf8 "." ∨ Text.Percent.decode (utf8 segment) = utf8 ".."

/-- The path of a base URL: it is empty or begins with a slash. -/
def IsBase (path : String) : Prop :=
  IsRooted path.toList

/-- How what stands behind a base and the segment of the objects is resolved. -/
theorem exists_resolve_append {base : String} (hbase : IsBase base) : ∃ output : List Char,
    (∀ segment : String, resolve (base ++ ("/d/" ++ segment)) =
      String.ofList (resolveOnto (output ++ ['/', 'd']) ('/' :: segment.toList))) ∧
    resolve (base ++ "/") = String.ofList (output ++ ['/']) := by
  obtain ⟨output, houtput⟩ := exists_resolveOnto_append hbase []
  refine ⟨output, fun segment => ?_, ?_⟩
  · have hpath : (base ++ ("/d/" ++ segment)).toList = base.toList ++ '/' :: (['d'] ++ '/' :: segment.toList) := by
      simp only [String.toList_append]
      rfl
    rw [resolve, hpath, houtput, resolveOnto_segment (by decide) (by decide) (by decide) (.inr rfl)]
  · have hpath : (base ++ "/").toList = base.toList ++ ['/'] := String.toList_append
    rw [resolve, hpath, houtput, resolveOnto_last (by decide) (by decide) (by decide)]

variable {base last : String}

/-- Behind a base, a segment that is not one of dots is found below the objects. -/
theorem resolve_append_ordinary (hbase : IsBase base) (hslash : '/' ∉ last.toList) (hdot : last ≠ ".") (hdots : last ≠ "..") :
    resolve (base ++ ("/d/" ++ last)) = resolve (base ++ "/d/") ++ last := by
  obtain ⟨output, hobjects, -⟩ := exists_resolve_append hbase
  have hempty := hobjects ""
  rw [String.append_empty, resolveOnto_last (by decide) (by decide) (by decide)] at hempty
  have hdot' : last.toList ≠ ['.'] := fun h => hdot (String.toList_inj.mp h)
  have hdots' : last.toList ≠ ['.', '.'] := fun h => hdots (String.toList_inj.mp h)
  rw [hobjects, resolveOnto_last hslash hdot' hdots', hempty, ← String.toList_inj]
  simp

/-- One dot leads to the objects themselves. -/
theorem resolve_append_dot (hbase : IsBase base) : resolve (base ++ ("/d/" ++ ".")) = resolve (base ++ "/d/") := by
  obtain ⟨output, hobjects, -⟩ := exists_resolve_append hbase
  rw [hobjects, ← String.append_empty (s := "/d/"), hobjects]
  exact congrArg String.ofList resolveOnto_here_nil

/-- Two dots lead to the base. -/
theorem resolve_append_dots (hbase : IsBase base) : resolve (base ++ ("/d/" ++ "..")) = resolve (base ++ "/") := by
  obtain ⟨output, hobjects, hbase⟩ := exists_resolve_append hbase
  have hdropped : dropSegment (output ++ ['/', 'd']) = output := by
    simp [dropSegment]
  have hup : resolveOnto (output ++ ['/', 'd']) ['/', '.', '.'] = output ++ ['/'] := by
    rw [resolveOnto_up_nil, hdropped, resolveOnto_last (by decide) (by decide) (by decide)]
  rw [hobjects, hbase]
  exact congrArg String.ofList hup

end Url

/-! ### The encoding of an identifier -/

namespace Text.Percent

/-- No slash stands in a segment. -/
theorem IsSegment.slash_not_mem {path : List Char} (h : IsSegment path) : '/' ∉ path := by
  have hplain : ¬ IsPlain '/' := by
    unfold IsPlain
    decide
  have hdigit : ¬ IsHexDigit '/' := by
    unfold IsHexDigit
    decide
  induction h with
  | nil => exact List.not_mem_nil
  | plain hc h ih =>
    rw [List.mem_cons, not_or]
    exact ⟨fun hslash => hplain (hslash ▸ hc), ih⟩
  | escape hhigh hlow h ih =>
    simp only [List.mem_cons, not_or]
    exact ⟨by decide, fun hslash => hdigit (hslash ▸ hhigh), fun hslash => hdigit (hslash ▸ hlow), ih⟩

theorem slash_not_mem_encodeText (s : String) : '/' ∉ (encodeText s).toList :=
  (isSegment_encodeText s).slash_not_mem

/-- A text of dots is the encoding of itself and of no other text. -/
theorem encodeText_eq_iff_of_isPlain {s dots : String} (h : ∀ c ∈ dots.toList, IsPlain c) : encodeText s = dots ↔ s = dots := by
  constructor
  · intro hs
    rw [← encodeText_of_isPlain h] at hs
    exact encodeText_inj hs
  · rintro rfl
    exact encodeText_of_isPlain h

end Text.Percent

/-! ### The requests of a pull -/

namespace Exchange

open Op

/-- With a token, the request itself is sent and no other. -/
theorem callsOnly_send (who : Credentials) (request : Request) :
    (who.send request).CallsOnly fun c => c.token ≠ none → c.request = request := by
  intro τ t m s l x m' s' hrun
  obtain ⟨l₁, y, s₁, hsend, hexchanged⟩ := who.runs_send t request m s
  obtain ⟨rfl, -⟩ := hsend.unique hrun
  exact fun c hc htoken => hexchanged.request_eq hc htoken

/-- With a token, a pull asks for the object of its reference and for nothing else. -/
theorem callsOnly_pullReference (s : Settings) (r : Reference) (destination : String) :
    (pullReference s r destination).CallsOnly fun c => c.token ≠ none → c.request = .get r.objectId.path := by
  refine .bind (.of_observes (.check _)) fun keyPath => ?_
  refine .bind (.of_observes (.check _)) fun who => ?_
  refine .bind (.of_observes (observes_expandHome _)) fun path => ?_
  refine .bind (callsOnly_send who _) fun response => ?_
  change CallsOnly (accept r keyPath path response.body) _
  unfold accept
  split
  · exact .of_silent fun _ t m u => ⟨_, _, Runs.throw _⟩
  refine .bind (.of_observes (Secret.observes_load _)) fun key => ?_
  refine .bind (.of_observes (.check _)) fun plaintext => ?_
  exact .of_silent fun _ t m u => by
    obtain ⟨x, m', hreplace, -⟩ := FileWriter.runs_replace_cases t path plaintext pulledMode m u
    exact ⟨x, m', hreplace⟩

end Exchange

/-! ### The rule -/

namespace ObjectId

/-- The rule for the path of an identifier. -/
structure Resolves (id : ObjectId) : Prop where
  /-- Alone it is resolved to itself, unless the identifier is one or two dots. -/
  kept : Url.resolve id.path = id.path ↔ id.text ≠ "." ∧ id.text ≠ ".."
  /-- It ends in a segment which is one of dots, also with escapes read, for these identifiers only. -/
  segment : ∃ last : String, id.path = "/d/" ++ last ∧ '/' ∉ last.toList ∧ last ≠ "" ∧
    (Url.IsDotSegment last ↔ id.text = "." ∨ id.text = "..")
  /-- Behind the path of any base, that of another identifier leads to something below the objects of this base. -/
  below : id.text ≠ "." → id.text ≠ ".." → ∃ last : String, last ≠ "" ∧ '/' ∉ last.toList ∧
    ∀ base, Url.IsBase base → Url.resolve (base ++ id.path) = Url.resolve (base ++ "/d/") ++ last
  /-- One dot leads to the objects themselves. -/
  here : id.text = "." → ∀ base, Url.IsBase base → Url.resolve (base ++ id.path) = Url.resolve (base ++ "/d/")
  /-- Two dots lead to the base. -/
  up : id.text = ".." → ∀ base, Url.IsBase base → Url.resolve (base ++ id.path) = Url.resolve (base ++ "/")
  /-- Whatever it is answered, a pull of the object asks with a token for this path, as it stands, and for nothing else. -/
  requested : ∀ (s : Settings) (r : Reference) (destination : String), r.objectId = id →
    (Exchange.pullReference s r destination).CallsOnly fun c => c.token ≠ none → c.request = .get id.path

theorem encodeText_eq_dot_iff (id : ObjectId) : Text.Percent.encodeText id.text = "." ↔ id.text = "." :=
  Text.Percent.encodeText_eq_iff_of_isPlain (by simp [Text.Percent.IsPlain])

theorem encodeText_eq_dots_iff (id : ObjectId) : Text.Percent.encodeText id.text = ".." ↔ id.text = ".." :=
  Text.Percent.encodeText_eq_iff_of_isPlain (by simp [Text.Percent.IsPlain])

variable {id : ObjectId} {base : String}

theorem resolve_path_ordinary (hdot : id.text ≠ ".") (hdots : id.text ≠ "..") (hbase : Url.IsBase base) :
    Url.resolve (base ++ id.path) = Url.resolve (base ++ "/d/") ++ Text.Percent.encodeText id.text :=
  Url.resolve_append_ordinary hbase (Text.Percent.slash_not_mem_encodeText _) (mt (encodeText_eq_dot_iff id).mp hdot)
    (mt (encodeText_eq_dots_iff id).mp hdots)

theorem resolve_path_dot (h : id.text = ".") (hbase : Url.IsBase base) :
    Url.resolve (base ++ id.path) = Url.resolve (base ++ "/d/") := by
  rw [path_eq, (encodeText_eq_dot_iff id).mpr h]
  exact Url.resolve_append_dot hbase

theorem resolve_path_dots (h : id.text = "..") (hbase : Url.IsBase base) :
    Url.resolve (base ++ id.path) = Url.resolve (base ++ "/") := by
  rw [path_eq, (encodeText_eq_dots_iff id).mpr h]
  exact Url.resolve_append_dots hbase

/-- Alone, the path is kept unless the identifier is one or two dots. -/
theorem resolve_path_eq_iff : Url.resolve id.path = id.path ↔ id.text ≠ "." ∧ id.text ≠ ".." := by
  have hbase : Url.IsBase "" := .inl rfl
  have hobjects : Url.resolve ("" ++ "/d/") = "/d/" := by simp [Url.resolve, Url.resolveOnto]
  have hroot : Url.resolve ("" ++ "/") = "/" := by simp [Url.resolve, Url.resolveOnto]
  by_cases hdot : id.text = "."
  · have hhere := resolve_path_dot hdot hbase
    rw [String.empty_append, hobjects] at hhere
    rw [hhere, path_eq, (encodeText_eq_dot_iff id).mpr hdot]
    simp [hdot]
  by_cases hdots : id.text = ".."
  · have hup := resolve_path_dots hdots hbase
    rw [String.empty_append, hroot] at hup
    rw [hup, path_eq, (encodeText_eq_dots_iff id).mpr hdots]
    simp [hdots]
  · have hbelow := resolve_path_ordinary hdot hdots hbase
    rw [String.empty_append, hobjects, ← path_eq] at hbelow
    exact iff_of_true hbelow ⟨hdot, hdots⟩

/-- **Where the path of an object leads**: that of every identifier which is accepted obeys the rule. -/
theorem path_resolves {text : String} (h : ofString text = .ok id) : id.Resolves where
  kept := resolve_path_eq_iff
  segment := by
    refine ⟨Text.Percent.encodeText id.text, id.path_eq, Text.Percent.slash_not_mem_encodeText _, ?_, ?_⟩
    · obtain ⟨hsafe, rfl⟩ := ofString_eq_ok_iff.mp h
      exact Text.Percent.encodeText_ne hsafe.1
    · rw [Url.IsDotSegment, Text.Percent.utf8_encodeText, Text.Percent.decode_encode, utf8_inj, utf8_inj]
  below := by
    intro hdot hdots
    refine ⟨Text.Percent.encodeText id.text, ?_, Text.Percent.slash_not_mem_encodeText _,
      fun base hbase => resolve_path_ordinary hdot hdots hbase⟩
    obtain ⟨hsafe, rfl⟩ := ofString_eq_ok_iff.mp h
    exact Text.Percent.encodeText_ne hsafe.1
  here := fun hdot base hbase => resolve_path_dot hdot hbase
  up := fun hdots base hbase => resolve_path_dots hdots hbase
  requested := by
    rintro s r destination rfl
    exact Exchange.callsOnly_pullReference s r destination

/-- An identifier that looks like two escaped dots leads below the objects, as its percent signs are escaped. -/
theorem path_resolves_escaped :
    ofString "%2e%2E" = .ok ⟨"%2e%2E"⟩ ∧ path ⟨"%2e%2E"⟩ = "/d/%252e%252E" ∧ Url.resolve "/d/%252e%252E" = "/d/%252e%252E" := by
  have hid : ofString "%2e%2E" = .ok ⟨"%2e%2E"⟩ := rfl
  have hpath : path ⟨"%2e%2E"⟩ = "/d/%252e%252E" := by decide
  have hkept := (path_resolves hid).kept.mpr (by decide)
  rw [hpath] at hkept
  exact ⟨hid, hpath, hkept⟩

/-- One and two dots are accepted as identifiers, and their paths lead to the objects themselves and out of them. -/
theorem path_escapes :
    (ofString "." = .ok ⟨"."⟩ ∧ path ⟨"."⟩ = "/d/." ∧ Url.resolve (path ⟨"."⟩) = "/d/") ∧
      ofString ".." = .ok ⟨".."⟩ ∧ path ⟨".."⟩ = "/d/.." ∧ Url.resolve (path ⟨".."⟩) = "/" ∧
        Url.resolve ("/team" ++ path ⟨".."⟩) = "/team/" := by
  have hdot : path ⟨"."⟩ = "/d/." := by decide
  have hdots : path ⟨".."⟩ = "/d/.." := by decide
  rw [hdot, hdots]
  refine ⟨⟨rfl, rfl, ?_⟩, rfl, rfl, ?_, ?_⟩
  all_goals simp [Url.resolve, Url.resolveOnto, Url.dropSegment]

end ObjectId

end SealedDrop
