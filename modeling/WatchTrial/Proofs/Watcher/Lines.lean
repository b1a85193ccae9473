import WatchTrial.Proofs.Text.LineEnd
import WatchTrial.Proofs.Text.Utf8
import WatchTrial.Proofs.Watcher.Speaking

set_option autoImplicit false

namespace WatchTrial

/-- A line feed reads as itself, whatever is broken before it. -/
theorem Text.Utf8.decodeLossy_feed (front back : Octets) :
    decodeLossy (front ++ 10 :: back) = decodeLossy front ++ '\n' :: decodeLossy back := by
  have feed : decodeLossy (10 :: back) = '\n' :: decodeLossy back := decodeLossy_cons 10 back
  rw [decodeLossy_boundary front back rfl, feed]

namespace Capture

open Text (Apart LineEnd Unended endedText outputLines remainder)

/-- A carriage return before the line feed belongs to the same end, so nothing of the front is left for
what is behind. -/
theorem outputLines_feed (front back : List Char) :
    outputLines (front ++ '\n' :: back) = outputLines (front ++ ['\n']) ++ outputLines back := by
  have split : front ++ '\n' :: back = (front ++ ['\n']) ++ back := by simp
  obtain ⟨line, unified⟩ := Text.unifyEnds_feed front
  rw [outputLines, outputLines, split, Text.unifyEnds_append (by simp), unified,
    Text.cutAfter_append line _ rfl]
  rfl

theorem wholeLines_feed (front back : Octets) :
    wholeLines (front ++ 10 :: back) = wholeLines (front ++ [10]) ++ wholeLines back := by
  have whole := Text.Utf8.decodeLossy_feed front back
  have first := Text.Utf8.decodeLossy_feed front []
  rw [wholeLines, whole, outputLines_feed, List.map_append, wholeLines, first]
  rfl

theorem unended_of_mem_outputLines {text line : List Char} (member : line ∈ outputLines text) :
    Unended line := by
  constructor
  · intro feed
    have other := Text.ends_of_mem_cutAfter (· == '\n') _ line member '\n' feed
    cases other
  · intro single
    exact Text.return_notMem_unifyEnds text (Text.mem_of_mem_cutAfter member single)

theorem unended_of_mem_wholeLines {octets : Octets} {line : String}
    (member : line ∈ wholeLines octets) : Unended line.toList := by
  obtain ⟨text, among, rfl⟩ := List.mem_map.1 member
  rw [String.toList_ofList]
  exact unended_of_mem_outputLines among

/-- Lines are captured as they were written, in whatever way each of them ends. -/
theorem wholeLines_endedText {lines : List (List Char × LineEnd)} {last : List Char}
    (unended : ∀ line ∈ lines, Unended line.1) (apart : Apart lines) (unendedLast : Unended last) :
    wholeLines (Text.Utf8.encode (endedText lines ++ last)) =
      (lines.map Prod.fst ++ remainder last).map String.ofList := by
  have within {line : List Char} (unended : Unended line) : ∀ c ∈ line, (c == '\n') = false := by
    intro c inside
    rw [beq_eq_false_iff_ne]
    rintro rfl
    exact unended.1 inside
  have cut := Text.cutAfter_endedText (· == '\n') rfl unended apart
    (fun line member => within (unended line member)) unendedLast (within unendedLast)
  rw [wholeLines, Text.Utf8.decodeLossy_encode, outputLines, cut]

end Capture

/-- A watcher that writes the octets and ends can leave its reader done with the lines. -/
def Interplay.HandsOn (octets : Octets) (lines : List String) : Prop :=
  ∃ turns, (start.after turns).joining = .joined ∧ (start.after turns).capture.stream = octets ∧
    (start.after turns).collected = lines

/-- In some world a watcher that was to write the octets has been started and, when it has been ended
and its output has been waited for, gives the lines. -/
def World.GivesOut (octets : Octets) (lines : List String) : Prop :=
  ∃ launcher settings, ∃ first : World, first.child = none ∧ ∃ calls,
    let w := first.after launcher settings calls
    (∃ c, w.child = some c ∧ c.output = octets) ∧ w.reading = false ∧
      Watcher.unfinished ∉ w.log ∧ w.output = lines

theorem Interplay.HandsOn.eq_wholeLines {octets : Octets} {lines : List String}
    (handsOn : HandsOn octets lines) : lines = Capture.wholeLines octets := by
  obtain ⟨turns, joined, rfl, rfl⟩ := handsOn
  exact collected_of_joined (sound_start.after turns) joined

theorem World.GivesOut.handsOn {octets : Octets} {lines : List String}
    (givesOut : GivesOut octets lines) : Interplay.HandsOn octets lines := by
  obtain ⟨launcher, settings, first, idle, calls, ⟨c, started, rfl⟩, ended, noted, rfl⟩ := givesOut
  obtain ⟨turns, plays, joined⟩ :=
    Interplay.joined_of_finished launcher settings idle calls started ended noted
  exact ⟨turns, joined, plays.stream started, plays.output.symm⟩

/-- A program that writes the octets at once and ends is one of the watchers that give out its lines. -/
theorem World.givesOut_wholeLines (octets : Octets) :
    GivesOut octets (Capture.wholeLines octets) := by
  let launcher : Launcher := fun _ _ => .ok (.speaking octets)
  let settings : Settings := { Settings.usual with startupGrace := .ofFraction false 1 1 }
  let first : World := { tree := ⟨[], []⟩, timed := true }
  have limited : settings.terminateTimeout.timeFault? = none := by decide
  have launches : Watcher.Launches launcher settings [] first.tree (.speaking octets) :=
    ⟨by decide, rfl⟩
  have possible : Watcher.graceFault? settings first = none := by decide +kernel
  obtain ⟨begun, started, awaits, spoken, noted⟩ :=
    Watcher.run_start_speaking (w := first) rfl (by decide) possible launches
  obtain ⟨ended, told⟩ := Watcher.run_terminate_spoken limited awaits spoken
  have led : first.after launcher settings [.start [], .leave] = { begun with reading := false } := by
    rw [after_cons, after_cons, after_nil, next, next, started, ended]
  refine ⟨launcher, settings, first, rfl, [.start [], .leave], ?_⟩
  rw [led]
  refine ⟨⟨_, spoken, Child.output_spoken octets first.clock⟩, rfl, ?_, told⟩
  simp only [noted]
  decide

/-- What is collected of octets is settled by the octets, whoever goes on when; and a line feed in them
parts what is collected, whatever is broken before it or behind it. -/
theorem undecodable_stays_in_its_line :
    (∀ octets lines, Interplay.HandsOn octets lines ↔ lines = Capture.wholeLines octets) ∧
      (∀ octets lines, World.GivesOut octets lines ↔ lines = Capture.wholeLines octets) ∧
      (∀ front back, Capture.wholeLines (front ++ 10 :: back) =
        Capture.wholeLines (front ++ [10]) ++ Capture.wholeLines back) ∧
      (∀ octets, ∀ line ∈ Capture.wholeLines octets, Text.Unended line.toList) ∧
      ∀ lines last, (∀ line ∈ lines, Text.Unended line.1) → Text.Apart lines → Text.Unended last →
        Capture.wholeLines (Text.Utf8.encode (Text.endedText lines ++ last)) =
          (lines.map Prod.fst ++ Text.remainder last).map String.ofList := by
  have told (octets : Octets) (lines : List String) :
      lines = Capture.wholeLines octets → World.GivesOut octets lines := by
    rintro rfl
    exact World.givesOut_wholeLines octets
  refine ⟨fun octets lines => ⟨?_, ?_⟩, fun octets lines => ⟨?_, told octets lines⟩,
    Capture.wholeLines_feed, fun octets line => Capture.unended_of_mem_wholeLines,
    fun lines last => Capture.wholeLines_endedText⟩
  · exact Interplay.HandsOn.eq_wholeLines
  · exact fun whole => (told octets lines whole).handsOn
  · exact fun given => given.handsOn.eq_wholeLines

/-- The same of a character that breaks off before a line feed and goes on behind it, and of lines of
which an empty one and one that holds a character of two octets end in a carriage return. -/
theorem undecodable_stays_in_its_line_of_half_character :
    let lines : List (List Char × Text.LineEnd) := [(['x'], .crlf), ([], .cr), (['é'], .cr)]
    World.GivesOut [97, 195, 10, 169, 98, 13, 10, 99] ["a\ufffd", "\ufffdb", "c"] ∧
      Capture.wholeLines [97, 195, 10, 169, 98, 13, 10, 99] =
        Capture.wholeLines [97, 195, 10] ++ Capture.wholeLines [169, 98, 13, 10, 99] ∧
      (∀ line ∈ lines, Text.Unended line.1) ∧ Text.Apart lines ∧ Text.Unended ['y'] ∧
      Text.Utf8.encode (Text.endedText lines ++ ['y']) = [120, 13, 10, 13, 195, 169, 13, 121] ∧
      Capture.wholeLines [120, 13, 10, 13, 195, 169, 13, 121] = ["x", "", "é", "y"] := by
  intro lines
  obtain ⟨-, gives, parts, -, whole⟩ := undecodable_stays_in_its_line
  have unended : ∀ line ∈ lines, Text.Unended line.1 := by
    unfold Text.Unended
    decide
  have apart : Text.Apart lines := by
    unfold Text.Apart
    decide
  have last : Text.Unended ['y'] := by
    unfold Text.Unended
    decide
  exact ⟨(gives _ _).2 (by decide +kernel), parts [97, 195] [169, 98, 13, 10, 99], unended, apart,
    last, by decide, whole lines ['y'] unended apart last⟩

end WatchTrial
