import WatchTrial.Proofs.Trial.Adoption

set_option autoImplicit false

namespace WatchTrial.Trial

/-- Texts that are written as expected events are read as they were just when each of them stands as
a line. The file holds the same however the texts are ordered and repeated. A file of text can be
read, and what is read from it is read again when it has been written, and then written alike. -/
theorem expectation_comes_back (results : Path) :
    (∀ (events : List String) (t after : Tree),
        writeExpectation t results (EventSet.ofList events) = (.ok (), after) →
        ∃ loaded, readExpectation after results = .ok (.ok loaded) ∧
          (loaded = EventSet.ofList events ↔
            ∀ event ∈ events, Text.isBlankText event.toList = false ∧
              ∀ c ∈ event.toList, Text.isLineEnd c = false)) ∧
      (∀ (events others : List String) (t u after last : Tree),
        (∀ event, event ∈ events ↔ event ∈ others) →
        writeExpectation t results (EventSet.ofList events) = (.ok (), after) →
        writeExpectation u results (EventSet.ofList others) = (.ok (), last) →
        ∃ content, after.readFile results = .ok content ∧ last.readFile results = .ok content) ∧
      ∀ (t : Tree) (content : Octets) (text : List Char), results.hasNul = false →
        t.readFile results = .ok content → Text.Utf8.decode content = .ok text →
        ∃ loaded, readExpectation t results = .ok (.ok loaded) ∧
          ∀ (target : Path) (u after : Tree),
            writeExpectation u target loaded = (.ok (), after) →
            readExpectation after target = .ok (.ok loaded) ∧
              ∀ v last : Tree, writeExpectation v target loaded = (.ok (), last) →
                last.readFile target = after.readFile target := by
  refine ⟨?_, ?_, ?_⟩
  · intro events t after written
    refine ⟨_, readExpectation_writeExpectation written, ?_⟩
    rw [Expectation.ofText_toText_iff]
    constructor
    · intro lines event member
      have line := lines event ((EventSet.mem_ofList event events).2 member)
      exact ⟨line.full, line.whole⟩
    · intro plain event member
      obtain ⟨full, whole⟩ := plain event ((EventSet.mem_ofList event events).1 member)
      exact ⟨full, whole⟩
  · intro events others t u after last same first second
    have one : EventSet.ofList events = EventSet.ofList others := by
      apply EventSet.eq_of_same_members
      intro event
      rw [EventSet.mem_ofList, EventSet.mem_ofList, same event]
    rw [one] at first
    exact ⟨_, readFile_writeExpectation first, readFile_writeExpectation second⟩
  · intro t content text clean holds decoded
    refine ⟨_, readExpectation_of_text clean holds decoded, ?_⟩
    intro target u after written
    constructor
    · rw [readExpectation_writeExpectation written, Expectation.ofText_toText_ofText]
    · intro v last rewritten
      rw [readFile_writeExpectation rewritten, readFile_writeExpectation written]

/-- One text with a blank in it, written once and repeated, in place of a file that has it in a line
among blank ones, each with another line end. -/
theorem expectation_comes_back_of_spaced_text :
    let e := Path.ofString "e"
    let text := "\r\nb c,Create\r \u2028"
    let t : Tree := { entries := [([['e']], .file (Text.Utf8.encode text.toList) false)] }
    let one := EventSet.ofList ["b c,Create"]
    ∃ (after last : Tree) (octets : Octets),
      readExpectation t e = .ok (.ok one) ∧ writeExpectation t e one = (.ok (), after) ∧
        readExpectation after e = .ok (.ok one) ∧ after.readFile e = .ok octets ∧
        writeExpectation after e (EventSet.ofList ["b c,Create", "b c,Create"]) = (.ok (), last) ∧
        last.readFile e = .ok octets := by
  intro e text t one
  obtain ⟨back, alike, settled⟩ := expectation_comes_back e
  have repeated : EventSet.ofList ["b c,Create", "b c,Create"] = one := by
    apply EventSet.eq_of_same_members
    intro event
    simp [one, EventSet.mem_ofList]
  have wrote : writeExpectation t e one = (.ok (), (writeExpectation t e one).2) := by
    decide +kernel
  have rewrote : writeExpectation (writeExpectation t e one).2 e one =
      (.ok (), (writeExpectation (writeExpectation t e one).2 e one).2) := by decide +kernel
  have listed : readExpectation t e = .ok (.ok one) := by decide +kernel
  generalize (writeExpectation t e one).2 = after at wrote rewrote
  generalize (writeExpectation after e one).2 = last at rewrote
  obtain ⟨read, loads, same⟩ := back ["b c,Create"] t after wrote
  have plain : "b c,Create".toList.all (fun c => !Text.isLineEnd c) = true := by decide +kernel
  have whole : read = one := by
    apply same.2
    intro event member
    rw [List.mem_singleton.1 member]
    refine ⟨by decide +kernel, fun c inside => ?_⟩
    simpa using List.all_eq_true.1 plain c inside
  obtain ⟨loaded, found, comes⟩ := settled t _ _ (by decide +kernel) (by decide +kernel)
    (Text.Utf8.decode_encode text.toList)
  have chosen : loaded = one := by
    rw [listed] at found
    exact (Except.ok.inj (Except.ok.inj found)).symm
  rw [chosen] at comes
  have kept := (comes e t after wrote).2 after last rewrote
  rw [← repeated] at rewrote
  obtain ⟨octets, here, -⟩ :=
    alike ["b c,Create"] ["b c,Create", "b c,Create"] t after _ _ (by simp) wrote rewrote
  exact ⟨after, last, octets, listed, wrote, whole ▸ loads, here, rewrote, kept.trans here⟩

end WatchTrial.Trial
