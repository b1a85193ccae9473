import WatchTrial.Proofs.Text.Line
import WatchTrial.Proofs.Verdict.Difference
import WatchTrial.Proofs.Verdict.Report

set_option autoImplicit false

/- Reports read back. A report on a mismatch is a list of sections, and indentation alone tells its
titles from the events listed under them, whatever these look like. -/

namespace WatchTrial.Verdict

open Text (cutAfter)
open Text.Ansi (escape strip)

/-- A title and the texts that are listed under it. -/
structure Section where
  title : String
  texts : List String
  deriving DecidableEq

namespace Section

/-- A section as it is written, each of its texts behind two spaces. -/
def lines (part : Section) : List String := part.title :: part.texts.map fun text => "  " ++ text

/-- What is listed before the next title, and the sections from that title on. -/
def gather : List (List Char) → List String × List Section
  | [] => ([], [])
  | (' ' :: ' ' :: text) :: rest =>
      let (texts, parts) := gather rest
      (String.ofList text :: texts, parts)
  | title :: rest =>
      let (texts, parts) := gather rest
      ([], ⟨String.ofList title, texts⟩ :: parts)

/-- The sections of a text: a line that is indented is listed under the last title above it. -/
def ofText (text : String) : List Section := (gather (cutAfter (· == '\n') text.toList)).2

/-- The title cannot be taken for a text of the section before. -/
def Titled (part : Section) : Prop := part.title.toList.head? ≠ some ' '

/-- Each line of the section is one line when it is written. -/
def Whole (part : Section) : Prop := ∀ line ∈ part.lines, '\n' ∉ line.toList

theorem gather_title {title : List Char} (rest : List (List Char)) (plain : title.head? ≠ some ' ') :
    gather (title :: rest) = ([], ⟨String.ofList title, (gather rest).1⟩ :: (gather rest).2) := by
  rw [gather]
  rintro text rfl
  exact plain rfl

theorem gather_texts (texts : List String) (rest : List (List Char)) :
    gather (texts.map (fun text => ("  " ++ text).toList) ++ rest) =
      (texts ++ (gather rest).1, (gather rest).2) := by
  induction texts with
  | nil => rfl
  | cons text texts ih =>
      have indented : ("  " ++ text).toList = ' ' :: ' ' :: text.toList := String.toList_append
      rw [List.map_cons, List.cons_append, indented, gather, ih, String.ofList_toList]
      rfl

theorem gather_section {part : Section} (rest : List (List Char)) (titled : part.Titled)
    (fresh : (gather rest).1 = []) :
    gather (part.lines.map String.toList ++ rest) = ([], part :: (gather rest).2) := by
  have listed : (part.texts.map fun text => "  " ++ text).map String.toList =
      part.texts.map fun text => ("  " ++ text).toList := List.map_map
  rw [lines, List.map_cons, List.cons_append, gather_title _ titled, listed, gather_texts, fresh,
    List.append_nil, String.ofList_toList]

theorem gather_sections {parts : List Section} (titled : ∀ part ∈ parts, part.Titled) :
    gather ((parts.flatMap lines).map String.toList) = ([], parts) := by
  induction parts with
  | nil => rfl
  | cons part parts ih =>
      obtain ⟨first, others⟩ := List.forall_mem_cons.1 titled
      have later := ih others
      rw [List.flatMap_cons, List.map_append, gather_section _ first (by rw [later]), later]

/-- Sections that have been written are read as they were. -/
theorem ofText_unlines {parts : List Section} (titled : ∀ part ∈ parts, part.Titled)
    (whole : ∀ part ∈ parts, part.Whole) : ofText (unlines (parts.flatMap lines)) = parts := by
  have inside : ∀ line ∈ (parts.flatMap lines).map String.toList, ∀ c ∈ line,
      (c == '\n') = false := by
    intro line member c there
    obtain ⟨text, written, rfl⟩ := List.mem_map.1 member
    obtain ⟨part, listed, inPart⟩ := List.mem_flatMap.1 written
    rw [beq_eq_false_iff_ne]
    rintro rfl
    exact whole part listed text inPart there
  have cut (rest : List Char) : cutAfter (· == '\n')
        (((parts.flatMap lines).map String.toList).flatMap (· ++ ['\n']) ++ rest) =
      (parts.flatMap lines).map String.toList ++ cutAfter (· == '\n') rest :=
    Text.cutAfter_flatMap_append rfl inside rest
  have all := cut []
  rw [List.append_nil, List.flatMap_map, Text.cutAfter_nil, List.append_nil] at all
  rw [ofText, toList_unlines, all, gather_sections titled]

end Section

/-- Each text is one line, without anything that could begin a colour. -/
def Plain (events : EventSet) : Prop :=
  ∀ text ∈ events.members, '\n' ∉ text.toList ∧ escape ∉ text.toList

instance (events : EventSet) : Decidable (Plain events) :=
  List.decidableBAll (fun text : String => '\n' ∉ text.toList ∧ escape ∉ text.toList) events.members

/-- A section of its own for a set that is not empty. -/
def listing (title : String) (events : EventSet) : List Section :=
  if events.members.isEmpty then [] else [⟨title, events.members⟩]

/-- What the report on a mismatch is made of. -/
def sections (v : Verdict) : List Section :=
  ⟨"FAILED", []⟩ :: ⟨"EXPECTED:", v.expected.members⟩ :: ⟨"OBTAINED:", v.obtained.members⟩ ::
    (listing "MISSING:" v.missing ++ listing "UNEXPECTED:" v.unexpected)

theorem mem_listing {title : String} {events : EventSet} {part : Section} :
    part ∈ listing title events ↔ events.members ≠ [] ∧ part = ⟨title, events.members⟩ := by
  rw [listing]
  cases events.members <;> simp

theorem map_title_listing (title : String) (events : EventSet) :
    ((listing title events).map Section.title).Sublist [title] := by
  rw [listing]
  split
  · exact List.nil_sublist [title]
  · exact List.Sublist.refl [title]

theorem plain_diff {s : EventSet} (t : EventSet) (plain : Plain s) : Plain (s.diff t) :=
  fun text member => plain text ((EventSet.mem_diff text s t).1 member).1

theorem plainSection_eq (title : String) {events : EventSet} (plain : Plain events) :
    plainSection title events = Section.lines ⟨title, events.members⟩ := by
  rw [plainSection, Section.lines]
  congr 1
  refine List.map_congr_left fun text member => ?_
  rw [strip_of_plain text (plain text member).2]

theorem optionalPlainSection_eq (title : String) {events : EventSet} (plain : Plain events) :
    optionalPlainSection title events = (listing title events).flatMap Section.lines := by
  rw [optionalPlainSection, listing, plainSection_eq title plain]
  split
  · rfl
  · exact (List.append_nil _).symm

/-- The sections with the title are one that lists just the texts that are wanted, if there are any,
and none otherwise. -/
structure Lists (parts : List Section) (title : String) (wanted : String → Prop) : Prop where
  present : (∃ texts, ⟨title, texts⟩ ∈ parts) ↔ ∃ text, wanted text
  exact : ∀ texts, ⟨title, texts⟩ ∈ parts → ∀ text, text ∈ texts ↔ wanted text

/-- The titles of a report, in their order. -/
def titles : List String := ["FAILED", "EXPECTED:", "OBTAINED:", "MISSING:", "UNEXPECTED:"]

/-- The sections tell the two sets of a verdict, and how they differ. -/
structure Faithful (v : Verdict) (parts : List Section) : Prop where
  /-- No title stands twice. -/
  ordered : (parts.map Section.title).Sublist titles
  increasing : ∀ part ∈ parts, part.texts.Pairwise (· < ·)
  expected : ∀ texts, ⟨"EXPECTED:", texts⟩ ∈ parts ↔ texts = v.expected.members
  obtained : ∀ texts, ⟨"OBTAINED:", texts⟩ ∈ parts ↔ texts = v.obtained.members
  missing : Lists parts "MISSING:" fun text =>
    text ∈ v.expected.members ∧ text ∉ v.obtained.members
  unexpected : Lists parts "UNEXPECTED:" fun text =>
    text ∈ v.obtained.members ∧ text ∉ v.expected.members
  /-- There is something to tell. -/
  some : ∃ texts, ⟨"MISSING:", texts⟩ ∈ parts ∨ ⟨"UNEXPECTED:", texts⟩ ∈ parts

/-- Sections tell at most one verdict. -/
theorem Faithful.unique {v other : Verdict} {parts : List Section} (one : Faithful v parts)
    (two : Faithful other parts) : v = other := by
  have expected : v.expected.members = other.expected.members :=
    (two.expected _).1 ((one.expected _).2 rfl)
  have obtained : v.obtained.members = other.obtained.members :=
    (two.obtained _).1 ((one.obtained _).2 rfl)
  have first := EventSet.eq_of_same_members v.expected other.expected fun text => by rw [expected]
  have second := EventSet.eq_of_same_members v.obtained other.obtained fun text => by rw [obtained]
  cases v
  cases other
  cases first
  cases second
  rfl

variable {v : Verdict}

/-- Without colours the report on a mismatch is its sections, line by line. -/
theorem report_eq_sections (failed : v.passed = false) (expected : Plain v.expected)
    (obtained : Plain v.obtained) (script results : String) :
    v.report script results false = unlines (v.sections.flatMap Section.lines) := by
  rw [report_plain, failed, failedLines, plainSection_eq _ expected, plainSection_eq _ obtained,
    missing, unexpected, optionalPlainSection_eq _ (plain_diff v.obtained expected),
    optionalPlainSection_eq _ (plain_diff v.expected obtained)]
  simp [sections, missing, unexpected, Section.lines]

theorem lists_of_mem_iff {parts : List Section} {title : String} {events : EventSet}
    {wanted : String → Prop} (members : ∀ text, text ∈ events.members ↔ wanted text)
    (listed : ∀ texts, ⟨title, texts⟩ ∈ parts ↔
      events.members ≠ [] ∧ texts = events.members) : Lists parts title wanted where
  present := by
    simp only [listed, exists_and_left, exists_eq, and_true, ← members]
    exact ⟨List.exists_mem_of_ne_nil events.members, fun ⟨_, member⟩ => List.ne_nil_of_mem member⟩
  exact texts member text := by
    rw [((listed texts).1 member).2]
    exact members text

theorem mem_sections {part : Section} :
    part ∈ v.sections ↔
      part = ⟨"FAILED", []⟩ ∨ part = ⟨"EXPECTED:", v.expected.members⟩ ∨
        part = ⟨"OBTAINED:", v.obtained.members⟩ ∨
        (v.missing.members ≠ [] ∧ part = ⟨"MISSING:", v.missing.members⟩) ∨
        (v.unexpected.members ≠ [] ∧ part = ⟨"UNEXPECTED:", v.unexpected.members⟩) := by
  simp only [sections, List.mem_cons, List.mem_append, mem_listing]

/-- The sections of a mismatch tell what it is about. -/
theorem faithful_sections (failed : v.passed = false) : Faithful v v.sections where
  ordered := by
    have optional := (map_title_listing "MISSING:" v.missing).append
      (map_title_listing "UNEXPECTED:" v.unexpected)
    rw [sections, List.map_cons, List.map_cons, List.map_cons, List.map_append]
    exact ((optional.cons_cons "OBTAINED:").cons_cons "EXPECTED:").cons_cons "FAILED"
  increasing part member := by
    rcases mem_sections.1 member with rfl | rfl | rfl | ⟨-, rfl⟩ | ⟨-, rfl⟩
    · exact List.Pairwise.nil
    · exact v.expected.increasing
    · exact v.obtained.increasing
    · exact v.missing.increasing
    · exact v.unexpected.increasing
  expected texts := by simp [mem_sections]
  obtained texts := by simp [mem_sections]
  missing := lists_of_mem_iff v.mem_missing fun texts => by simp [mem_sections]
  unexpected := lists_of_mem_iff v.mem_unexpected fun texts => by simp [mem_sections]
  some := by
    have differ : ¬(v.missing.members = [] ∧ v.unexpected.members = []) := by
      rw [← passed_iff, failed]
      exact Bool.false_ne_true
    by_cases none : v.missing.members = []
    · have other : v.unexpected.members ≠ [] := fun both => differ ⟨none, both⟩
      exact ⟨v.unexpected.members, Or.inr (mem_sections.2 (by simp [other]))⟩
    · exact ⟨v.missing.members, Or.inl (mem_sections.2 (by simp [none]))⟩

theorem title_mem_of_mem_sections (failed : v.passed = false) {part : Section}
    (member : part ∈ v.sections) : part.title ∈ titles :=
  (faithful_sections failed).ordered.subset (List.mem_map_of_mem member)

/-- All that is listed is in one of the two sets. -/
theorem listed_of_mem_sections {part : Section} (member : part ∈ v.sections) {text : String}
    (listed : text ∈ part.texts) : text ∈ v.expected.members ∨ text ∈ v.obtained.members := by
  rcases mem_sections.1 member with rfl | rfl | rfl | ⟨-, rfl⟩ | ⟨-, rfl⟩
  · cases listed
  · exact Or.inl listed
  · exact Or.inr listed
  · exact Or.inl ((v.mem_missing text).1 listed).1
  · exact Or.inr ((v.mem_unexpected text).1 listed).1

/-- The report on a mismatch of plain events is read as it was written. -/
theorem ofText_report (failed : v.passed = false) (expected : Plain v.expected)
    (obtained : Plain v.obtained) (script results : String) :
    Section.ofText (v.report script results false) = v.sections := by
  have clear : ∀ title ∈ titles, title.toList.head? ≠ some ' ' ∧ '\n' ∉ title.toList := by decide
  rw [report_eq_sections failed expected obtained]
  apply Section.ofText_unlines
  · intro part member
    exact (clear part.title (title_mem_of_mem_sections failed member)).1
  · intro part member line written
    rcases List.mem_cons.1 written with rfl | below
    · exact (clear part.title (title_mem_of_mem_sections failed member)).2
    · obtain ⟨text, listed, rfl⟩ := List.mem_map.1 below
      have whole : '\n' ∉ text.toList := by
        rcases listed_of_mem_sections member listed with inside | inside
        · exact (expected text inside).1
        · exact (obtained text inside).1
      rw [String.toList_append, List.mem_append, not_or]
      exact ⟨by decide, whole⟩

/-- Both sets can be told from the report on a mismatch of plain events, and no report on a match
looks like one on a mismatch. -/
theorem sets_of_report (failed : v.passed = false) (expected : Plain v.expected)
    (obtained : Plain v.obtained) (script results : String) :
    let text := v.report script results false
    Faithful v (Section.ofText text) ∧
      unlines ((Section.ofText text).flatMap Section.lines) = text ∧
      (∀ other : Verdict, other.passed = false → Plain other.expected → Plain other.obtained →
        ∀ script' results',
          other.report script' results' false = text →
            other.expected = v.expected ∧ other.obtained = v.obtained) ∧
      ∀ hit : Verdict, hit.passed = true → ∀ miss : Verdict, miss.passed = false →
        ∀ script results script' results',
          hit.report script results false ≠ miss.report script' results' false := by
  intro text
  have parts : Section.ofText text = v.sections :=
    ofText_report failed expected obtained script results
  rw [parts]
  refine ⟨faithful_sections failed,
    (report_eq_sections failed expected obtained script results).symm, ?_, ?_⟩
  · intro other failed' expected' obtained' script' results' same
    have again := ofText_report failed' expected' obtained' script' results'
    rw [same, parts] at again
    have told : Faithful other v.sections := again ▸ faithful_sections failed'
    cases told.unique (faithful_sections failed)
    exact ⟨rfl, rfl⟩
  · intro hit matched miss failed script results script' results'
    rw [report_plain, report_plain, matched, failed]
    exact passedLines_ne_failedLines miss script results

/-- The same of events that look like titles, are indented or are empty. -/
theorem sets_of_report_of_disguised_events :
    let v : Verdict :=
      ⟨⟨["", "  OBTAINED:", "a"], by decide⟩, ⟨["MISSING:", "a"], by decide⟩⟩
    let text := v.report "s" "e" false
    v.passed = false ∧ Plain v.expected ∧ Plain v.obtained ∧
      text = "FAILED\nEXPECTED:\n  \n    OBTAINED:\n  a\nOBTAINED:\n  MISSING:\n  a\n" ++
        "MISSING:\n  \n    OBTAINED:\nUNEXPECTED:\n  MISSING:\n" ∧
      Faithful v (Section.ofText text) := by
  intro v text
  have failed : v.passed = false := by decide
  have expected : Plain v.expected := by decide
  have obtained : Plain v.obtained := by decide
  have written : text = _ := report_eq_sections failed expected obtained "s" "e"
  exact ⟨failed, expected, obtained, written.trans (by decide +kernel),
    (sets_of_report failed expected obtained "s" "e").1⟩

end WatchTrial.Verdict
