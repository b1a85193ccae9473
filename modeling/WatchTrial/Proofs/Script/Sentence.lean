import WatchTrial.Perform
import WatchTrial.Proofs.Script.Reading
import WatchTrial.Proofs.Text.Numeral

set_option autoImplicit false

namespace WatchTrial

theorem Text.join_eq_intercalate (separator : Char) (pieces : List (List Char)) :
    join separator pieces = [separator].intercalate pieces := by
  induction pieces with
  | nil => rfl
  | cons piece rest ih =>
      cases rest with
      | nil => simp [join]
      | cons next more =>
          rw [join, ih, List.intercalate_cons_cons]
          · simp
          · simp

theorem Path.join_empty (base : Path) : base / Path.ofString "" = base := by
  obtain ⟨names, anchor⟩ := names_join_relative base (ofString "") rfl
  exact Path.ext anchor (names.trans (List.append_nil _))

namespace Script

/-- A word of a line. It may be empty. -/
structure Word where
  text : String
  whole : ' ' ∉ text.toList

/-- What a line may ask for: a command with as many words as it takes. -/
inductive Sentence where
  | create (kind path : Word)
  | delete (path : Word)
  | write (path content : Word)
  | move (source target : Word)
  | wait (numeral : Word) (seconds : Nat) (written : Text.Numeral numeral.text.toList seconds)
  | watchDir (path : Word)

namespace Sentence

def words : Sentence → List String
  | .create kind path => ["Create", kind.text, path.text]
  | .delete path => ["Delete", path.text]
  | .write path content => ["Write", path.text, "\x22" ++ content.text ++ "\x22"]
  | .move source target => ["Move", source.text, target.text]
  | .wait numeral _ _ => ["Wait", numeral.text]
  | .watchDir path => ["WatchDir", path.text]

/-- The line that a sentence is written as. -/
def line (s : Sentence) : String := " ".intercalate s.words

/-- The action that a sentence asks for, with its paths seen from a base directory. -/
def action (base : Path) : Sentence → Action
  | .create kind path => .create (base / Path.ofString path.text) (kind.text == "Dir") false
  | .delete path => .delete (base / Path.ofString path.text)
  | .write path content => .write (base / Path.ofString path.text) content.text
  | .move source target =>
      .move (base / Path.ofString source.text) (base / Path.ofString target.text)
  | .wait _ seconds _ => .wait seconds
  | .watchDir path => .watch (base / Path.ofString path.text)

/-- The words that name a path. -/
def paths : Sentence → List Word
  | .create _ path | .delete path | .write path _ | .watchDir path => [path]
  | .move source target => [source, target]
  | .wait .. => []

theorem paths_action (base : Path) (s : Sentence) :
    (s.action base).paths = s.paths.map fun path => base / Path.ofString path.text := by
  cases s <;> rfl

theorem paths_subset_words (s : Sentence) : s.paths.map Word.text ⊆ s.words.tail := by
  cases s <;> simp [paths, words]

/-- No argument is missing. -/
def Complete : Sentence → Prop
  | .create kind path => kind.text ≠ "" ∧ path.text ≠ ""
  | .delete path | .write path _ | .watchDir path => path.text ≠ ""
  | .move source target => source.text ≠ "" ∧ target.text ≠ ""
  | .wait .. => True

theorem complete_iff (s : Sentence) : s.Complete ↔ "" ∉ s.words.tail := by
  cases s with
  | create kind path => simp [Complete, words]
  | delete path => simp [Complete, words]
  | write path content =>
      have quoted : "\x22" ++ content.text ++ "\x22" ≠ "" := by simp
      simp [Complete, words, quoted.symm]
  | move source target => simp [Complete, words]
  | wait numeral seconds written =>
      have some : numeral.text ≠ "" := by
        intro none
        have filled := written.ne_nil
        rw [none] at filled
        exact filled rfl
      simp [Complete, words, some.symm]
  | watchDir path => simp [Complete, words]

theorem space_not_mem_words (s : Sentence) : ∀ word ∈ s.words, ' ' ∉ word.toList := by
  cases s with
  | create kind path => simp [words, kind.whole, path.whole]
  | delete path => simp [words, path.whole]
  | write path content => simp [words, path.whole, content.whole]
  | move source target => simp [words, source.whole, target.whole]
  | wait numeral seconds written => simp [words, numeral.whole]
  | watchDir path => simp [words, path.whole]

theorem words_ne_nil (s : Sentence) : s.words ≠ [] := by
  cases s <;> simp [words]

end Sentence

theorem tokens_intercalate {words : List String} (some : words ≠ [])
    (whole : ∀ word ∈ words, ' ' ∉ word.toList) : tokens (" ".intercalate words) = words := by
  have written : (" ".intercalate words).toList = Text.join ' ' (words.map String.toList) := by
    rw [String.toList_intercalate, Text.join_eq_intercalate]
    rfl
  rw [tokens, written, Text.split_join]
  · simp
  · simpa using some
  · intro piece member
    obtain ⟨word, there, rfl⟩ := List.mem_map.1 member
    exact whole word there

theorem intercalate_tokens (line : String) : " ".intercalate (tokens line) = line := by
  apply String.toList_injective
  rw [String.toList_intercalate, tokens, List.map_map]
  have same : String.toList ∘ String.ofList = id := funext fun text => String.toList_ofList
  rw [same, List.map_id]
  exact (Text.join_eq_intercalate ' ' _).symm.trans (Text.join_split ' ' line.toList)

theorem space_not_mem_tokens {line word : String} (member : word ∈ tokens line) :
    ' ' ∉ word.toList := by
  obtain ⟨piece, there, rfl⟩ := List.mem_map.1 member
  rw [String.toList_ofList]
  exact Text.separator_not_mem_of_mem_split ' ' line.toList piece there

theorem Sentence.tokens_line (s : Sentence) : tokens s.line = s.words :=
  tokens_intercalate s.words_ne_nil s.space_not_mem_words

theorem unquote?_eq_some_iff {token content : List Char} :
    unquote? token = some content ↔ token = '\x22' :: (content ++ ['\x22']) := by
  unfold unquote?
  constructor
  · intro unquoted
    split at unquoted
    · rename_i rest
      split at unquoted
      · rename_i last
        have inner := Option.some.inj unquoted
        have some : rest ≠ [] := by
          intro none
          rw [none] at last
          cases last
        have ends : rest.getLast some = '\x22' := by
          rw [List.getLast?_eq_some_getLast some] at last
          exact Option.some.inj last
        rw [← inner, ← ends, List.dropLast_concat_getLast]
      · cases unquoted
    · cases unquoted
  · intro quoted
    simp [quoted]

theorem readContent_eq_ok_iff {argument content : String} :
    readContent argument = .ok content ↔ argument = "\x22" ++ content ++ "\x22" := by
  have quoted : argument = "\x22" ++ content ++ "\x22" ↔
      unquote? argument.toList = some content.toList := by
    rw [unquote?_eq_some_iff, ← String.toList_inj]
    simp
  rw [quoted]
  unfold readContent
  cases unquote? argument.toList with
  | none => simp
  | some inner =>
      rw [Except.ok.injEq, Option.some.injEq, ← String.toList_inj, String.toList_ofList]

theorem readSeconds_eq_ok_iff {argument : String} {seconds : Nat} :
    readSeconds argument = .ok seconds ↔ Text.Numeral argument.toList seconds := by
  rw [← Text.readInt_eq_ok_iff]
  unfold readSeconds
  cases read : Text.readInt argument.toList with
  | error fault => simp
  | ok z =>
      cases z with
      | ofNat n => simp
      | negSucc n => simp

/-- A sentence is read as the action that it asks for. -/
theorem readLine_line (base : Path) (s : Sentence) :
    readLine base s.line = .ok (s.action base) := by
  rw [readLine, s.tokens_line]
  cases s with
  | create kind path => rfl
  | delete path => rfl
  | write path content =>
      have quoted := readContent_eq_ok_iff.2 (rfl : "\x22" ++ content.text ++ "\x22" = _)
      change (readContent _).bind _ = _
      rw [quoted]
      rfl
  | move source target => rfl
  | wait numeral seconds written =>
      change (readSeconds _).bind _ = _
      rw [readSeconds_eq_ok_iff.2 written]
      rfl
  | watchDir path => rfl

/-- Only sentences are read. -/
theorem exists_sentence {base : Path} {line : String} {a : Action}
    (read : readLine base line = .ok a) : ∃ s : Sentence, s.line = line ∧ s.action base = a := by
  obtain ⟨command, arguments, pieces, made⟩ := readLine_eq_ok read
  have whole : " ".intercalate (command.word :: arguments) = line := by
    rw [← pieces, intercalate_tokens]
  have word (text : String) (member : text ∈ arguments) : ' ' ∉ text.toList := by
    have there : text ∈ tokens line := by
      rw [pieces]
      exact List.mem_cons_of_mem _ member
    exact space_not_mem_tokens there
  rcases action_eq_ok made with ⟨kind, path, rfl, rfl, rfl⟩ | ⟨path, rfl, rfl, rfl⟩ |
    ⟨path, argument, content, rfl, rfl, quoted, rfl⟩ | ⟨source, target, rfl, rfl, rfl⟩ |
    ⟨argument, seconds, rfl, rfl, number, rfl⟩ | ⟨path, rfl, rfl, rfl⟩
  · exact ⟨.create ⟨kind, word kind (by simp)⟩ ⟨path, word path (by simp)⟩, whole, rfl⟩
  · exact ⟨.delete ⟨path, word path (by simp)⟩, whole, rfl⟩
  · have inner := readContent_eq_ok_iff.1 quoted
    have free : ' ' ∉ content.toList := by
      have outer := word argument (by simp)
      rw [inner] at outer
      simpa using outer
    refine ⟨.write ⟨path, word path (by simp)⟩ ⟨content, free⟩, ?_, rfl⟩
    rw [inner] at whole
    exact whole
  · exact ⟨.move ⟨source, word source (by simp)⟩ ⟨target, word target (by simp)⟩, whole, rfl⟩
  · have written := readSeconds_eq_ok_iff.1 number
    exact ⟨.wait ⟨argument, word argument (by simp)⟩ seconds written, whole, rfl⟩
  · exact ⟨.watchDir ⟨path, word path (by simp)⟩, whole, rfl⟩

theorem readNumbered_eq_ok_iff_exists {base : Path} {number : Int} {line : String} {a : Action} :
    readNumbered base number line = .ok a ↔ ∃ s : Sentence, s.line = line ∧ s.action base = a := by
  rw [readNumbered_eq_ok_iff]
  constructor
  · exact exists_sentence
  · intro asked
    obtain ⟨s, rfl, rfl⟩ := asked
    exact readLine_line base s

theorem readNumbered_line (base : Path) (number : Int) (s : Sentence) :
    readNumbered base number s.line = .ok (s.action base) :=
  readNumbered_eq_ok_iff.2 (readLine_line base s)

/-- A wait, with its seconds in the usual digits. -/
theorem exists_sentence_of_seconds {seconds : Nat}
    (short : (toString seconds).length ≤ Text.maxDigits) :
    ∃ s : Sentence, s.line = "Wait " ++ toString seconds ∧
      ∀ base, s.action base = .wait seconds := by
  have free : ' ' ∉ (toString seconds).toList := by
    rw [Nat.toString_eq_ofList_toDigits, String.toList_ofList]
    intro member
    have digit := Nat.isDigit_of_mem_toDigits (by decide) (by decide) member
    cases digit
  exact ⟨.wait ⟨toString seconds, free⟩ seconds (Text.numeral_toString short), rfl, fun _ => rfl⟩

/-- A line is read as an action just when it is a sentence that asks for it, and a line that is none
is refused under its number and as it stands. So every sentence is read as what it asks for, and a
wait may be written with the usual digits of its seconds. -/
theorem readNumbered_iff_sentence (base : Path) (number : Int) :
    (∀ line a, readNumbered base number line = .ok a ↔
        ∃ s : Sentence, s.line = line ∧ s.action base = a) ∧
      (∀ line, (∀ s : Sentence, s.line ≠ line) →
        ∃ fault, readNumbered base number line = .error ⟨number, line, fault⟩) ∧
      (∀ s : Sentence, readNumbered base number s.line = .ok (s.action base)) ∧
      ∀ seconds : Nat, (toString seconds).length ≤ Text.maxDigits →
        readNumbered base number ("Wait " ++ toString seconds) = .ok (.wait seconds) := by
  refine ⟨fun line a => readNumbered_eq_ok_iff_exists, ?_, ?_, ?_⟩
  · intro line none
    cases read : readLine base line with
    | error fault =>
        refine ⟨fault, ?_⟩
        rw [readNumbered, read]
        rfl
    | ok a =>
        obtain ⟨s, same, -⟩ := exists_sentence read
        exact absurd same (none s)
  · exact readNumbered_line base number
  · intro seconds short
    obtain ⟨s, written, asks⟩ := exists_sentence_of_seconds short
    exact readNumbered_eq_ok_iff_exists.2 ⟨s, written, asks base⟩

/-- Digits of two scripts with an underscore, and a wait below zero. -/
theorem readNumbered_iff_sentence_of_wait :
    let base := Path.ofString "b"
    readNumbered base 7 "Wait \t+1_\u0662" = .ok (.wait 12) ∧
      (∃ s : Sentence, s.line = "Wait \t+1_\u0662" ∧ s.action base = .wait 12) ∧
      (∃ fault, readNumbered base 7 "Wait -1" = .error ⟨7, "Wait -1", fault⟩) ∧
      readNumbered base 7 ("Wait " ++ toString 12) = .ok (.wait 12) := by
  intro base
  obtain ⟨accepted, refused, -, usual⟩ := readNumbered_iff_sentence base 7
  have read : readNumbered base 7 "Wait \t+1_\u0662" = .ok (.wait 12) := by decide +kernel
  have negative : readNumbered base 7 "Wait -1" = .error ⟨7, "Wait -1", .negativeWait "-1"⟩ := by
    decide +kernel
  refine ⟨read, (accepted _ _).1 read, refused _ fun s same => ?_, usual 12 (by decide +kernel)⟩
  have worked := (accepted "Wait -1" _).2 ⟨s, same, rfl⟩
  rw [negative] at worked
  cases worked

/-- A path that is missing stands for the base directory. -/
theorem base_mem_paths {base : Path} {s : Sentence} {path : Word} (member : path ∈ s.paths)
    (missing : path.text = "") : base ∈ (s.action base).paths := by
  rw [s.paths_action, List.mem_map]
  refine ⟨path, member, ?_⟩
  rw [missing]
  exact Path.join_empty base

/-- A line is read without one of its arguments just when it is a sentence in which a kind or a path
is missing. It is read all the same, and a path that is missing stands for the base directory. -/
theorem missing_argument_refused_iff (base : Path) (number : Int) (line : String) :
    ((∀ a, readNumbered base number line = .ok a → "" ∉ (tokens line).tail) ↔
        ∀ s : Sentence, s.line = line → s.Complete) ∧
      ∀ s : Sentence, s.line = line → ∀ path ∈ s.paths, path.text = "" →
        ∃ a, readNumbered base number line = .ok a ∧ base ∈ a.paths := by
  constructor
  · constructor
    · intro whole s same
      have read := readNumbered_line base number s
      rw [same] at read
      rw [s.complete_iff, ← s.tokens_line, same]
      exact whole (s.action base) read
    · intro complete a read
      obtain ⟨s, same, -⟩ := readNumbered_eq_ok_iff_exists.1 read
      rw [← same, s.tokens_line, ← s.complete_iff]
      exact complete s same
  · intro s same path member missing
    have read := readNumbered_line base number s
    rw [same] at read
    exact ⟨s.action base, read, base_mem_paths member missing⟩

/-- A move to a path that is there and from one that is not. -/
theorem missing_argument_refused_of_move :
    let base := Path.ofString "base"
    (∀ a, readNumbered base 1 "Move d/f g" = .ok a → "" ∉ (tokens "Move d/f g").tail) ∧
      ∃ a, readNumbered base 1 "Move  g" = .ok a ∧ base ∈ a.paths := by
  intro base
  constructor
  · refine (missing_argument_refused_iff base 1 "Move d/f g").1.2 fun s same => ?_
    rw [s.complete_iff, ← s.tokens_line, same]
    decide +kernel
  · let none : Word := ⟨"", by decide⟩
    apply (missing_argument_refused_iff base 1 "Move  g").2 (.move none ⟨"g", by decide⟩) rfl none
    · simp [Sentence.paths]
    · rfl

/-- A deletion without its path: the base directory goes, with all that is in it. -/
theorem missing_argument_accepted :
    let base := Path.ofString "base"
    let t : Tree :=
      { entries := [(["base".toList], .directory), (["base".toList, "f".toList], .file [] false)] }
    readNumbered base 1 "Delete " = .ok (.delete base) ∧ "" ∈ (tokens "Delete ").tail ∧
      ((Action.delete base).onTree t).result = .ok () ∧
      ((Action.delete base).onTree t).tree = Tree.empty := by
  decide +kernel

end Script

end WatchTrial
