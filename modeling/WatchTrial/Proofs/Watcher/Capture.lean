import WatchTrial.Proofs.Text.Line
import WatchTrial.Proofs.Text.Lossy
import WatchTrial.Watcher.Capture

set_option autoImplicit false

namespace WatchTrial.Capture

open Text (Starts Ended)

/-- The text of whole lines that octets so far are sure to give. -/
def finishedText (text : List Char) : List Char :=
  upToLastEnd (Text.unifyEnds (withoutLastReturn text))

theorem ended_finishedText (text : List Char) : Ended (finishedText text) := Text.ended_trimEnd _

theorem withoutLastReturn_append {front back : List Char} (some : back ≠ []) :
    withoutLastReturn (front ++ back) = front ++ withoutLastReturn back := by
  unfold withoutLastReturn
  cases last : back.getLast? with
  | none => exact absurd (List.getLast?_eq_none_iff.1 last) some
  | some c =>
      rw [List.getLast?_append, last, Option.some_or]
      split
      · exact List.dropLast_append_of_ne_nil some
      · rfl

theorem withoutLastReturn_cons {c : Char} (rest : List Char) (plain : c ≠ '\r') :
    ∃ rest', withoutLastReturn (c :: rest) = c :: rest' := by
  unfold withoutLastReturn
  split
  · rename_i last
    cases rest with
    | nil => exact absurd (by simpa using last) plain
    | cons d rest => exact ⟨(d :: rest).dropLast, rfl⟩
  · exact ⟨rest, rfl⟩

/-- A carriage return that is held back stands at the front of what is still to come. -/
theorem starts_withoutLastReturn {text longer : List Char} (starts : text <+: longer) :
    Starts (withoutLastReturn text) longer ∧
      Starts (withoutLastReturn text) (withoutLastReturn longer) := by
  obtain ⟨more, rfl⟩ := starts
  by_cases held : text.getLast? = some '\r'
  · obtain ⟨line, rfl⟩ := List.getLast?_eq_some_iff.1 held
    have kept : withoutLastReturn (line ++ ['\r']) = line := by simp [withoutLastReturn]
    rw [kept]
    refine ⟨⟨'\r' :: more, by simp, by simp⟩, ?_⟩
    rw [List.append_assoc, withoutLastReturn_append (by simp)]
    refine ⟨_, rfl, fun _ => ?_⟩
    -- What follows is empty or starts with the carriage return.
    cases more with
    | nil => simp [withoutLastReturn]
    | cons c more =>
        unfold withoutLastReturn
        split <;> simp
  · have kept : withoutLastReturn text = text := if_neg held
    rw [kept]
    refine ⟨⟨more, rfl, fun last => absurd last held⟩, ?_⟩
    cases more with
    | nil =>
        rw [List.append_nil, kept]
        exact ⟨[], by simp, fun last => absurd last held⟩
    | cons c more =>
        rw [withoutLastReturn_append (by simp)]
        exact ⟨_, rfl, fun last => absurd last held⟩

/-- A character that ends no line adds nothing to the whole lines. -/
theorem finishedText_append_single (text : List Char) {c : Char} (feed : c ≠ '\n')
    (plain : c ≠ '\r') : finishedText (text ++ [c]) = upToLastEnd (Text.unifyEnds text) := by
  have kept : withoutLastReturn [c] = [c] := by simp [withoutLastReturn, plain]
  have single : Text.unifyEnds [c] = [c] := by
    unfold Text.unifyEnds
    split
    · simp_all
    · simp_all
    · rename_i same
      cases same
      rfl
    · simp_all
  rw [finishedText, withoutLastReturn_append (by simp), kept,
    Text.unifyEnds_append (by simp [feed]), single, upToLastEnd, Text.trimEnd_append_single,
    if_pos (by simpa using feed)]
  rfl

/-- The whole lines of octets stand at the start of all lines, and of the whole lines, when there are
more octets. -/
theorem finishedText_isPrefix (octets more : Octets) :
    let text := Text.Utf8.decodeLossy octets
    let longer := Text.Utf8.decodeLossy (octets ++ more)
    finishedText text <+: Text.unifyEnds longer ∧ finishedText text <+: finishedText longer := by
  intro text longer
  rcases Text.Utf8.decodeLossy_append octets more with
    starts | ⟨sure, d, rest, first, second, plain⟩
  · obtain ⟨all, whole⟩ := starts_withoutLastReturn starts
    have within := Text.trimEnd_isPrefix (· != '\n') (Text.unifyEnds (withoutLastReturn text))
    exact ⟨within.trans all.unifyEnds,
      Text.isPrefix_trimEnd (ended_finishedText text) (within.trans whole.unifyEnds)⟩
  · have feed : d ≠ '\n' := by
      rintro rfl
      revert plain
      decide
    have noReturn : d ≠ '\r' := by
      rintro rfl
      revert plain
      decide
    obtain ⟨rest', kept⟩ := withoutLastReturn_cons rest noReturn
    have all : Starts sure longer := ⟨d :: rest, second, fun _ => by simpa using feed⟩
    have whole : Starts sure (withoutLastReturn longer) := by
      refine ⟨d :: rest', ?_, fun _ => by simpa using feed⟩
      rw [← kept, ← withoutLastReturn_append (by simp)]
      exact congrArg withoutLastReturn second
    have short : finishedText text = upToLastEnd (Text.unifyEnds sure) := by
      rw [← finishedText_append_single sure (show '\ufffd' ≠ '\n' by decide) (by decide), ← first]
    have within := Text.trimEnd_isPrefix (· != '\n') (Text.unifyEnds sure)
    rw [short]
    exact ⟨within.trans all.unifyEnds,
      Text.isPrefix_trimEnd (Text.ended_trimEnd _) (within.trans whole.unifyEnds)⟩

theorem finishedLines_isPrefix (octets more : Octets) :
    finishedLines octets <+: finishedLines (octets ++ more) :=
  (Text.cutAfter_isPrefix (ended_finishedText _) (finishedText_isPrefix octets more).2).map _

theorem finishedLines_prefix_wholeLines (octets more : Octets) :
    finishedLines octets <+: wholeLines (octets ++ more) :=
  (Text.cutAfter_isPrefix (ended_finishedText _) (finishedText_isPrefix octets more).1).map _

/-- All that has been written. -/
def stream (c : Capture) : Octets := c.taken ++ c.pending

/-- The end has been met only if nothing more can come. -/
def Sound (c : Capture) : Prop := c.ended = true → c.pending = [] ∧ c.writable = false

theorem sound_start : start.Sound := by
  intro met
  cases met

theorem lines_of_ended {c : Capture} (sound : c.Sound) (met : c.ended = true) :
    c.lines = wholeLines c.stream := by
  rw [lines, if_pos met, stream, (sound met).1, List.append_nil]

theorem lines_prefix_wholeLines {c : Capture} (sound : c.Sound) :
    c.lines <+: wholeLines c.stream := by
  by_cases met : c.ended = true
  · exact lines_of_ended sound met ▸ List.prefix_refl _
  · rw [lines, if_neg met]
    exact finishedLines_prefix_wholeLines c.taken c.pending

/-- What one of the parties does to the channel: nothing that has been written or captured is lost,
and nothing changes once the end has been met. -/
structure Goes (c after : Capture) : Prop where
  sound : after.Sound
  stream : c.stream <+: after.stream
  lines : c.lines <+: after.lines
  settled : c.ended = true → after = c

variable {c : Capture}

theorem goes_write (octets : Octets) (sound : c.Sound) : c.Goes (c.write octets) := by
  by_cases canWrite : c.writable = true
  · have open' : c.write octets = { c with pending := c.pending ++ octets } := if_pos canWrite
    have unmet : ¬c.ended = true := by
      intro met
      rw [(sound met).2] at canWrite
      cases canWrite
    rw [open']
    exact ⟨fun met => absurd met unmet, ⟨octets, List.append_assoc _ _ _⟩, List.prefix_refl _,
      fun met => absurd met unmet⟩
  · have same : c.write octets = c := if_neg canWrite
    rw [same]
    exact ⟨sound, List.prefix_refl _, List.prefix_refl _, fun _ => rfl⟩

theorem goes_close (sound : c.Sound) : c.Goes c.close where
  sound met := ⟨(sound met).1, rfl⟩
  stream := List.prefix_refl _
  lines := List.prefix_refl _
  settled met := by rw [close, ← (sound met).2]

theorem goes_take (count : Nat) (sound : c.Sound) : c.Goes (c.take count) := by
  have same (met : c.ended = true) : c.take count = c := by
    have none := (sound met).1
    obtain ⟨pending, taken, writable, ended⟩ := c
    cases none
    simp [take]
  refine ⟨fun met => ?_, ?_, ?_, same⟩
  · rw [same met]
    exact sound met
  · have whole : (c.take count).stream = c.stream := taken_append_pending_take c count
    exact whole ▸ List.prefix_refl _
  · by_cases met : c.ended = true
    · exact (same met).symm ▸ List.prefix_refl _
    · have still : ¬(c.take count).ended = true := met
      rw [Capture.lines, Capture.lines, if_neg met, if_neg still]
      exact finishedLines_isPrefix c.taken _

theorem goes_finish (sound : c.Sound) : c.Goes c.finish := by
  by_cases met : c.ended = true
  · have same : c.finish = c := by
      obtain ⟨pending, taken, writable, ended⟩ := c
      cases met
      rfl
    rw [same]
    exact ⟨sound, List.prefix_refl _, List.prefix_refl _, fun _ => rfl⟩
  · refine ⟨fun now => ?_, List.prefix_refl _, ?_, fun before => absurd before met⟩
    · simp only [finish, met, Bool.false_or, Bool.and_eq_true, List.isEmpty_iff,
        Bool.not_eq_true'] at now
      exact now
    · rw [Capture.lines, Capture.lines, if_neg met]
      split
      · have whole := finishedLines_prefix_wholeLines c.taken []
        rwa [List.append_nil] at whole
      · exact List.prefix_refl _

end WatchTrial.Capture
