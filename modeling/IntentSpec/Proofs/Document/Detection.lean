import IntentSpec.Proofs.Document.Agreement
import IntentSpec.Proofs.Document.Opening
import Mathlib.Data.Nat.Find

/-!
# Whether a document declares a system

Two passes look for the system.  One of them takes its name from the first opening and reports that the
declaration is missing if the name is the one that stands for no name.  The other one begins to read sections
behind the first opening and reports that no system was found if there is none.  So the two differ for a
system that is called by the name that stands for no name, and for one whose name is blank.

* `OpensBehind`, `FirstOpening` — the openings on a line, and the first one of a document.
* `firstSystem?_eq_some_iff` — the search for the name comes upon the first opening.
* `mem_issues_parse` — the issues of a document.
* `reports_system_iff` — which of the two issues is reported, and when both are or none is.
* `not_reports_alike_unknownText` — a system of the name that stands for no name.
-/

namespace IntentSpec.Document

open Text

/-! ## The first opening of a line -/

/-- An opening of the system stands on a line behind some characters: no word goes on there, and the keyword,
blanks, a name in double quotes, blanks and a brace follow. -/
structure OpensBehind (before name line : List Char) : Prop where
  apart : before.getLast?.any isAsciiWord = false
  form : ∃ gap gap' rest, gap ≠ [] ∧ (∀ c ∈ gap, isAsciiBlank c = true) ∧
    (∀ c ∈ gap', isAsciiBlank c = true) ∧ name ≠ [] ∧ '"' ∉ name ∧
    line = before ++ ("system".toList ++ (gap ++ '"' :: (name ++ '"' :: (gap' ++ '\x7b' :: rest))))

/-- The first opening on a line has the name. -/
def OpensFirst (name line : List Char) : Prop :=
  ∃ before, OpensBehind before name line ∧
    ∀ before' name', OpensBehind before' name' line → before.length ≤ before'.length

/-- Whether a word goes on behind a text, if it is said whether one goes on in front of it. -/
def wordBehind (inWord : Bool) (before : List Char) : Bool :=
  (before.getLast?.map isAsciiWord).getD inWord

theorem wordBehind_cons (inWord : Bool) (c : Char) (before : List Char) :
    wordBehind inWord (c :: before) = wordBehind (isAsciiWord c) before := by
  unfold wordBehind
  rw [List.getLast?_cons]
  cases before.getLast? <;> rfl

/-- The system is opened behind some characters of a text, and no word goes on there. -/
def OpensAt (inWord : Bool) (before name s : List Char) : Prop :=
  wordBehind inWord before = false ∧ ∃ after, s = before ++ after ∧ systemOpening? after = some name

theorem opensAt_nil (inWord : Bool) (name s : List Char) :
    OpensAt inWord [] name s ↔ inWord = false ∧ systemOpening? s = some name := by
  simp [OpensAt, wordBehind]

theorem opensAt_cons (inWord : Bool) (d : Char) (before name : List Char) (c : Char) (s : List Char) :
    OpensAt inWord (d :: before) name (c :: s) ↔ c = d ∧ OpensAt (isAsciiWord d) before name s := by
  unfold OpensAt
  rw [wordBehind_cons]
  constructor
  · rintro ⟨boundary, after, split, opens⟩
    obtain ⟨rfl, rfl⟩ := List.cons.inj split
    exact ⟨rfl, boundary, after, rfl, opens⟩
  · rintro ⟨rfl, boundary, after, rfl, opens⟩
    exact ⟨boundary, after, rfl, opens⟩

theorem opensBehind_iff (before name line : List Char) :
    OpensBehind before name line ↔ OpensAt false before name line := by
  have apart : before.getLast?.any isAsciiWord = wordBehind false before := by
    unfold wordBehind
    cases before.getLast? <;> rfl
  constructor
  · rintro ⟨boundary, gap, gap', rest, some, blank, blank', nonempty, plain, rfl⟩
    refine ⟨apart ▸ boundary, _, rfl, ?_⟩
    exact (systemOpening?_eq_some_iff _ _).mpr ⟨gap, gap', rest, some, blank, blank', nonempty, plain, rfl⟩
  · rintro ⟨boundary, after, rfl, opens⟩
    obtain ⟨gap, gap', rest, some, blank, blank', nonempty, plain, rfl⟩ :=
      (systemOpening?_eq_some_iff _ _).mp opens
    exact ⟨apart.trans boundary, gap, gap', rest, some, blank, blank', nonempty, plain, rfl⟩

theorem systemName?_of_opens {c : Char} {s name : List Char} (opens : systemOpening? (c :: s) = some name) :
    systemName? false (c :: s) = some name := by
  rw [systemName?, if_neg Bool.false_ne_true, opens]

theorem systemName?_of_closed {inWord : Bool} {c : Char} {s : List Char}
    (closed : inWord = false → systemOpening? (c :: s) = none) :
    systemName? inWord (c :: s) = systemName? (isAsciiWord c) s := by
  cases inWord with
  | true => rw [systemName?, if_pos rfl]
  | false => rw [systemName?, if_neg Bool.false_ne_true, closed rfl]

/-- The search of a line stops at the first place at which no word goes on and the system is opened. -/
theorem systemName?_eq_some_iff (inWord : Bool) (s name : List Char) :
    systemName? inWord s = some name ↔
      ∃ before, OpensAt inWord before name s ∧
        ∀ before' name', OpensAt inWord before' name' s → before.length ≤ before'.length := by
  induction s generalizing inWord with
  | nil =>
      refine iff_of_false (by simp [systemName?]) ?_
      rintro ⟨before, ⟨-, after, split, opens⟩, -⟩
      obtain ⟨-, rfl⟩ := List.append_eq_nil_iff.mp split.symm
      cases opens
  | cons c s ih =>
      by_cases here : ∃ found, OpensAt inWord [] found (c :: s)
      · obtain ⟨found, opens⟩ := here
        obtain ⟨rfl, found_here⟩ := (opensAt_nil ..).mp opens
        rw [systemName?_of_opens found_here]
        constructor
        · rintro ⟨rfl⟩
          exact ⟨[], opens, fun _ _ _ => Nat.zero_le _⟩
        · rintro ⟨before, opens', first⟩
          obtain rfl := List.eq_nil_of_length_eq_zero (Nat.le_zero.mp (first [] found opens))
          rw [← found_here, ((opensAt_nil ..).mp opens').2]
      · -- the search goes on behind the character, and so does every opening
        have closed : inWord = false → systemOpening? (c :: s) = none := fun boundary => by
          by_contra some
          obtain ⟨found, opens⟩ := Option.ne_none_iff_exists'.mp some
          exact here ⟨found, (opensAt_nil ..).mpr ⟨boundary, opens⟩⟩
        rw [systemName?_of_closed closed, ih]
        constructor
        · rintro ⟨before, opens, first⟩
          refine ⟨c :: before, (opensAt_cons ..).mpr ⟨rfl, opens⟩, fun before' name' opens' => ?_⟩
          cases before' with
          | nil => exact absurd ⟨name', opens'⟩ here
          | cons d before' =>
              obtain ⟨rfl, later⟩ := (opensAt_cons ..).mp opens'
              exact Nat.succ_le_succ (first before' name' later)
        · rintro ⟨before, opens, first⟩
          cases before with
          | nil => exact absurd ⟨name, opens⟩ here
          | cons d before =>
              obtain ⟨rfl, opens⟩ := (opensAt_cons ..).mp opens
              refine ⟨before, opens, fun before' name' opens' => ?_⟩
              exact Nat.le_of_succ_le_succ (first (c :: before') name' ((opensAt_cons ..).mpr ⟨rfl, opens'⟩))

/-- The search of a line comes upon its first opening. -/
theorem systemName?_eq_some_iff_opensFirst (line name : List Char) :
    systemName? false line = some name ↔ OpensFirst name line := by
  unfold OpensFirst
  simp only [systemName?_eq_some_iff, opensBehind_iff]

/-- Where there are openings on a line, one of them is the first. -/
theorem OpensBehind.exists_first {before name line : List Char} (behind : OpensBehind before name line) :
    ∃ name, OpensFirst name line := by
  classical
  have some : ∃ n, ∃ before name, OpensBehind before name line ∧ before.length = n :=
    ⟨_, before, name, behind, rfl⟩
  obtain ⟨before', name', behind', length⟩ := Nat.find_spec some
  exact ⟨name', before', behind', fun _ _ other => length ▸ Nat.find_min' some ⟨_, _, other, rfl⟩⟩

theorem systemName?_eq_none_iff (line : List Char) :
    systemName? false line = none ↔ ∀ before name, ¬ OpensBehind before name line := by
  constructor
  · intro none before name behind
    obtain ⟨name', first⟩ := behind.exists_first
    rw [(systemName?_eq_some_iff_opensFirst ..).mpr first] at none
    cases none
  · intro closed
    by_contra some
    obtain ⟨name, found⟩ := Option.ne_none_iff_exists'.mp some
    obtain ⟨before, behind, -⟩ := (systemName?_eq_some_iff_opensFirst ..).mp found
    exact closed before name behind

/-! ## The first opening of a document -/

/-- No opening stands in some lines.  Comments do not count. -/
def Unopened (ls : List (List Char)) : Prop :=
  ∀ raw ∈ ls, ∀ before name, ¬ OpensBehind before name (stripComment raw)

/-- The first opening in some lines has the name. -/
def FirstOpening (ls : List (List Char)) (name : List Char) : Prop :=
  ∃ front raw back, ls = front ++ raw :: back ∧ Unopened front ∧ OpensFirst name (stripComment raw)

/-- The search for the name comes upon the first opening of the document. -/
theorem firstSystem?_eq_some_iff (ls : List (List Char)) (name : List Char) :
    firstSystem? ls = some name ↔ FirstOpening ls name := by
  unfold firstSystem? FirstOpening Unopened
  simp only [List.findSome?_eq_some_iff, systemName?_eq_some_iff_opensFirst, systemName?_eq_none_iff]
  exact exists_congr fun front => exists_congr fun raw => exists_congr fun back =>
    and_congr_right fun _ => and_comm

theorem firstSystem?_eq_none_iff (ls : List (List Char)) : firstSystem? ls = none ↔ Unopened ls := by
  unfold firstSystem? Unopened
  simp only [List.findSome?_eq_none_iff, systemName?_eq_none_iff]

/-- No name is found for the system: there is none, or the name in its first opening is blank or the one that
stands for no name. -/
def Nameless (ls : List (List Char)) : Prop :=
  Unopened ls ∨ ∃ name, FirstOpening ls name ∧ (trim name = [] ∨ trim name = unknown.toList)

/-! ## The issues of a document -/

/-- The issue of a document without a name for the system. -/
def undeclared : Issue where
  message := "Missing system declaration. Expected: system \"ID\" \x7b ... \x7d"
  line := some 1

/-- Whether an issue with the message is among the issues that were found. -/
def Spec.Reports (spec : Spec) (message : String) : Prop :=
  ∃ issue ∈ spec.issues, issue.message = message

theorem mem_issues_readSystem (spec : Spec) (ls : List (List Char)) (issue : Issue) :
    issue ∈ (spec.readSystem ls).issues ↔ issue ∈ spec.issues ∨ issue = undeclared ∧ Nameless ls := by
  have nameless : Nameless ls ↔ firstSystem? ls = none ∨
      ∃ name, firstSystem? ls = some name ∧ (trim name = [] ∨ trim name = unknown.toList) := by
    unfold Nameless
    simp only [firstSystem?_eq_none_iff, firstSystem?_eq_some_iff]
  rw [nameless]
  unfold Spec.readSystem
  dsimp only
  rw [show (ls.findSome? fun raw => systemName? false (stripComment raw)) = firstSystem? ls from rfl]
  cases firstSystem? ls with
  | none => simp [undeclared]
  | some name =>
      rw [Option.map_some]
      cases found : trim name with
      | nil => simp [undeclared, found]
      | cons c rest =>
          have same : String.ofList (c :: rest) = unknown ↔ c :: rest = unknown.toList := by
            rw [← String.toList_inj, String.toList_ofList]
          dsimp only
          by_cases taken : String.ofList (c :: rest) = unknown
          · rw [if_pos taken]
            simp [undeclared, found, same.mp taken]
          · rw [if_neg taken]
            simp [found, mt same.mpr taken]

theorem mem_issues_readHeader {spec : Spec} {ls : List (List Char)} {issue : Issue}
    (reported : issue ∈ (spec.readHeader ls).issues) :
    issue ∈ spec.issues ∨ ∃ shown, issue.message =
      "Missing or invalid spec header. Expected 'DIL:spec v<MAJOR>' but got '" ++ shown ++ "'." := by
  unfold Spec.readHeader at reported
  split at reported
  next => exact .inl reported
  next number text _ =>
    split at reported
    next => exact .inl reported
    next =>
      rcases List.mem_append.mp reported with old | new
      · exact .inl old
      · obtain rfl := List.mem_singleton.mp new
        exact .inr ⟨String.ofList text, rfl⟩

/-- The issues behind those about the version line. -/
theorem mem_issues_parse (text : String) (issue : Issue) :
    issue ∈ (Spec.parse text).issues ↔
      issue ∈ (({ text : Spec }.readHeader (lines text.toList)).issues) ∨
        issue = undeclared ∧ Nameless (lines text.toList) ∨
        issue = undetected ∧ Unopened (lines text.toList) := by
  rw [parse_eq]
  show issue ∈ (header text).issues ++ _ ↔ _
  unfold header
  rw [List.mem_append, mem_issues_readSystem, ← firstSystem?_eq_none_iff, or_assoc]
  cases firstSystem? (lines text.toList) <;> simp

/-- An issue about the system is reported if it is found in the search for it. -/
theorem reports_iff {text message : String}
    (other : ∀ shown, message ≠
      "Missing or invalid spec header. Expected 'DIL:spec v<MAJOR>' but got '" ++ shown ++ "'.") :
    (Spec.parse text).Reports message ↔
      undeclared.message = message ∧ Nameless (lines text.toList) ∨
        undetected.message = message ∧ Unopened (lines text.toList) := by
  unfold Spec.Reports
  simp only [mem_issues_parse]
  constructor
  · rintro ⟨issue, reported | ⟨rfl, nameless⟩ | ⟨rfl, unopened⟩, same⟩
    · rcases mem_issues_readHeader reported with none | ⟨shown, about⟩
      · cases none
      · exact absurd (same.symm.trans about) (other shown)
    · exact .inl ⟨same, nameless⟩
    · exact .inr ⟨same, unopened⟩
  · rintro (⟨same, nameless⟩ | ⟨same, unopened⟩)
    · exact ⟨undeclared, .inr (.inl ⟨rfl, nameless⟩), same⟩
    · exact ⟨undetected, .inr (.inr ⟨rfl, unopened⟩), same⟩

/-- The messages about the system are not those about the version line. -/
theorem message_ne_of_start {message : String} (start : message.toList.take 9 ≠ "Missing o".toList)
    (shown : String) : message ≠
      "Missing or invalid spec header. Expected 'DIL:spec v<MAJOR>' but got '" ++ shown ++ "'." := by
  rintro rfl
  exact start (by simp [String.toList_append])

/-- **Which issues about the system are reported.**  That no system was detected is reported exactly if there
is no opening.  That its declaration is missing is reported also if the name in the first opening is blank or
the one that stands for no name.  So the two searches agree exactly if this is not so. -/
theorem reports_system_iff (text : String) :
    ((Spec.parse text).Reports undetected.message ↔ Unopened (lines text.toList)) ∧
      ((Spec.parse text).Reports undeclared.message ↔ Nameless (lines text.toList)) ∧
      (((Spec.parse text).Reports undeclared.message ↔ (Spec.parse text).Reports undetected.message) ↔
        ∀ name, FirstOpening (lines text.toList) name → trim name ≠ [] ∧ trim name ≠ unknown.toList) := by
  have detected : (Spec.parse text).Reports undetected.message ↔ Unopened (lines text.toList) := by
    rw [reports_iff (message_ne_of_start (by decide))]
    simp [undeclared, undetected]
  have declared : (Spec.parse text).Reports undeclared.message ↔ Nameless (lines text.toList) := by
    rw [reports_iff (message_ne_of_start (by decide))]
    simp [undeclared, undetected]
  refine ⟨detected, declared, ?_⟩
  rw [declared, detected]
  constructor
  · intro agree name first
    have opened : ¬ Unopened (lines text.toList) := fun none => by
      rw [← firstSystem?_eq_none_iff, (firstSystem?_eq_some_iff ..).mpr first] at none
      cases none
    exact ⟨fun blank => opened (agree.mp (.inr ⟨name, first, .inl blank⟩)),
      fun taken => opened (agree.mp (.inr ⟨name, first, .inr taken⟩))⟩
  · intro named
    refine ⟨?_, .inl⟩
    rintro (none | ⟨name, first, blank | taken⟩)
    · exact none
    · exact absurd blank (named name first).1
    · exact absurd taken (named name first).2

/-- A system that is called by the name that stands for no name. -/
def unknownText : String :=
  "DIL:spec v0\n" ++
  "system \"unknown\" \x7b\n" ++
  "\x7d\n"

/-- The system is declared, and yet its declaration is reported to be missing. -/
theorem not_reports_alike_unknownText :
    FirstOpening (lines unknownText.toList) "unknown".toList ∧ trim "unknown".toList ≠ [] ∧
      (Spec.parse unknownText).Reports undeclared.message ∧
      ¬ (Spec.parse unknownText).Reports undetected.message := by
  have issues : (Spec.parse unknownText).issues = [undeclared] := by decide +kernel
  have first : firstSystem? (lines unknownText.toList) = some "unknown".toList := by
    unfold unknownText
    simp only [String.toList_append]
    decide +kernel
  refine ⟨(firstSystem?_eq_some_iff ..).mp first, by decide, ?_, ?_⟩
  · exact ⟨undeclared, issues ▸ List.mem_singleton_self _, rfl⟩
  · rintro ⟨issue, reported, same⟩
    obtain rfl := List.mem_singleton.mp (issues ▸ reported)
    exact absurd same (by decide)

end IntentSpec.Document
