import Mathlib.Control.Monad.Basic
import WatchTrial.Proofs.Number.Binary64
import WatchTrial.Proofs.Settings.Overlay

set_option autoImplicit false

namespace WatchTrial.Settings

open Yaml (Datum)

/-- A list of texts. An empty list of pairs is one too. -/
inductive Texts : Datum → Prop where
  | list (items : List Datum) (texts : ∀ item ∈ items, ∃ text, item = .text text) :
      Texts (.list items)
  | noPairs : Texts (.pairs [])

/-- A number of seconds that is not below zero and that a floating-point number is near to. -/
inductive Seconds : Datum → Prop where
  | int (n : Int) (above : 0 ≤ n) (near : n.toNat < Binary64.overflow) : Seconds (.int n)
  | float (x : Binary64) (above : x.isNegative = false) : Seconds (.float x)

/-- What each key is documented to take, and no number that is too large. -/
def Key.Admits : Key → Datum → Prop
  | .targetDir, value => ∃ text, value = .text text
  | .buildCommand, value => Texts value
  | .watcherCommand, value => value = .null ∨ Texts value
  | .startupGrace, value | .terminateTimeout, value => Seconds value
  | .allowEmptyRoots, value => ∃ b, value = .bool b

theorem exists_text?_iff (value : Datum) :
    (∃ text, text? value = some text) ↔ ∃ text, value = .text text := by
  constructor
  · rintro ⟨text, found⟩
    cases value with
    | text s => exact ⟨s, rfl⟩
    | _ => cases found
  · rintro ⟨s, rfl⟩
    exact ⟨_, rfl⟩

theorem exists_texts?_iff (value : Datum) : (∃ words, texts? value = some words) ↔ Texts value := by
  constructor
  · rintro ⟨words, found⟩
    cases value with
    | list items =>
        refine .list items fun item member => ?_
        rw [← exists_text?_iff, ← Option.ne_none_iff_exists']
        intro missing
        have none := (mapM_text?_eq_none items).2 ⟨item, member, missing⟩
        cases found.symm.trans none
    | pairs items =>
        cases items with
        | nil => exact .noPairs
        | cons item rest => cases found
    | _ => cases found
  · intro texts
    cases texts with
    | list items texts =>
        rw [← Option.ne_none_iff_exists']
        intro missing
        obtain ⟨item, member, none⟩ := (mapM_text?_eq_none items).1 missing
        obtain ⟨text, rfl⟩ := texts item member
        cases none
    | noPairs => exact ⟨[], rfl⟩

theorem exists_readSeconds_iff (key : Key) (value : Datum) :
    (∃ x, readSeconds key value = .ok x) ↔ Seconds value := by
  constructor
  · rintro ⟨x, read⟩
    unfold readSeconds at read
    split at read
    · rename_i n
      split at read
      · cases read
      · rename_i above
        split at read
        · rename_i found
          refine .int n (by omega) (Nat.lt_of_not_le fun large => ?_)
          have none := (Binary64.ofInt?_eq_none_iff n).2 (by omega)
          cases found.symm.trans none
        · cases read
    · split at read
      · cases read
      · rename_i above
        exact .float _ (by simpa using above)
    · cases read
  · intro seconds
    cases seconds with
    | int n above near =>
        have found : Binary64.ofInt? n ≠ none := by
          rw [Ne, Binary64.ofInt?_eq_none_iff]
          omega
        obtain ⟨x, found⟩ := Option.ne_none_iff_exists'.1 found
        exact ⟨x, by rw [readSeconds, if_neg (by omega), found]⟩
    | float x above => exact ⟨x, by rw [readSeconds, above]; rfl⟩

theorem exists_orRefuse_iff {α : Type} (f : SetupFault) (found? : Option α) :
    (∃ x, orRefuse f found? = .ok x) ↔ ∃ x, found? = some x := by
  cases found? with
  | none => simp [orRefuse, refuse]
  | some x => exact ⟨fun _ => ⟨x, rfl⟩, fun _ => ⟨x, rfl⟩⟩

theorem orRefuse_ne_broken {α : Type} (f : SetupFault) (found? : Option α) (fault : Fault) :
    orRefuse f found? ≠ .error (.broken fault) := by
  cases found? <;> exact fun same => by cases same

theorem exists_command?_iff (value : Datum) :
    (∃ x, command? value = some x) ↔ value = .null ∨ Texts value := by
  rw [← exists_texts?_iff]
  cases value with
  | null => simp [command?]
  | _ => cases found : texts? _ <;> simp [command?, found]

theorem exists_read_iff (key : Key) (value : Datum) :
    (∃ x, key.read value = .ok x) ↔ key.Admits value := by
  cases key with
  | startupGrace => exact exists_readSeconds_iff .startupGrace value
  | terminateTimeout => exact exists_readSeconds_iff .terminateTimeout value
  | targetDir =>
      refine (exists_orRefuse_iff _ _).trans ?_
      rw [Key.Admits, ← exists_text?_iff]
      cases text? value with
      | none =>
          constructor
          · rintro ⟨x, found⟩
            cases found
          · rintro ⟨text, found⟩
            cases found
      | some text => exact ⟨fun _ => ⟨text, rfl⟩, fun _ => ⟨_, rfl⟩⟩
  | buildCommand => exact (exists_orRefuse_iff _ _).trans (exists_texts?_iff value)
  | watcherCommand => exact (exists_orRefuse_iff _ _).trans (exists_command?_iff value)
  | allowEmptyRoots =>
      refine (exists_orRefuse_iff _ _).trans ?_
      rw [Key.Admits]
      cases value with
      | bool b => exact ⟨fun _ => ⟨b, rfl⟩, fun _ => ⟨b, rfl⟩⟩
      | _ => simp [truth?]

/-- An entry under a key that is known, with a value that the key admits. -/
def Fits (entry : Datum × Datum) : Prop :=
  ∃ key : Key, entry.1 = .text key.name.toList ∧ key.Admits entry.2

theorem accepted_iff (entry : Datum × Datum) : Accepted entry ↔ Fits entry := by
  simp only [Accepted, Fits, Key.ofDatum?_eq_some_iff, exists_read_iff]

/-- A value whose kind is right for a number of seconds but which no number is near to. -/
def TooLarge (value : Datum) : Prop :=
  ∃ n : Int, value = .int n ∧ 0 ≤ n ∧ Binary64.overflow ≤ n.toNat

theorem readSeconds_eq_broken_iff {key : Key} {value : Datum} {f : Fault} :
    readSeconds key value = .error (.broken f) ↔ f = .numberTooLarge ∧ TooLarge value := by
  constructor
  · intro broken
    obtain ⟨n, rfl, above, none⟩ := (isBroken_readSeconds_iff key value).1 ⟨f, broken⟩
    rw [readSeconds, if_neg (by omega), none] at broken
    rw [Binary64.ofInt?_eq_none_iff] at none
    cases broken
    exact ⟨rfl, n, rfl, above, by omega⟩
  · rintro ⟨rfl, n, rfl, above, large⟩
    have none : Binary64.ofInt? n = none := (Binary64.ofInt?_eq_none_iff n).2 (by omega)
    rw [readSeconds, if_neg (by omega), none]

/-- The only fault of a value is that it is a number of seconds that is too large. -/
theorem read_eq_broken_iff {key : Key} {value : Datum} {f : Fault} :
    key.read value = .error (.broken f) ↔
      (key = .startupGrace ∨ key = .terminateTimeout) ∧ f = .numberTooLarge ∧ TooLarge value := by
  cases key with
  | startupGrace => exact readSeconds_eq_broken_iff.trans (by simp)
  | terminateTimeout => exact readSeconds_eq_broken_iff.trans (by simp)
  | targetDir | buildCommand | watcherCommand | allowEmptyRoots =>
      constructor
      · exact fun broken => absurd broken (orRefuse_ne_broken _ _ f)
      · rintro ⟨same | same, -⟩ <;> cases same

/-- A number of seconds that has been read is not below zero unless it is no number at all. -/
theorem atLeastZero_of_readSeconds {key : Key} {value : Datum} {x : Binary64}
    (read : readSeconds key value = .ok x) : x.AtLeastZero ↔ value ≠ .float .nan := by
  have seconds : Seconds value := (exists_readSeconds_iff key value).1 ⟨x, read⟩
  cases seconds with
  | int n above near =>
      rw [readSeconds, if_neg (by omega)] at read
      cases found : Binary64.ofInt? n with
      | none =>
          rw [found] at read
          cases read
      | some y =>
          rw [found] at read
          cases read
          exact iff_of_true (Binary64.atLeastZero_of_ofInt? above found) Datum.noConfusion
  | float y above =>
      rw [readSeconds, above] at read
      cases read
      rw [Binary64.atLeastZero_iff, Ne, Ne, Datum.float.injEq]
      exact and_iff_right above

variable {mapping : List (Datum × Datum)} {s : Settings}

theorem exists_ofMapping_iff_fits :
    (∃ s, ofMapping mapping = .ok s) ↔ ∀ entry ∈ Datum.lastOfEach mapping, Fits entry := by
  rw [exists_ofMapping_iff]
  exact forall₂_congr fun entry _ => accepted_iff entry

/-- A number of seconds that a mapping gives, or that is usual, is not below zero, unless the mapping
has what is no number for it. -/
theorem atLeastZero_of_given {key : Key} {x y : Binary64}
    (present : ∀ entry ∈ Datum.lastOfEach mapping, Key.ofDatum? entry.1 = some key →
      readSeconds key entry.2 = .ok x)
    (absent : (∀ entry ∈ Datum.lastOfEach mapping, Key.ofDatum? entry.1 ≠ some key) → x = y)
    (default : y.AtLeastZero) :
    x.AtLeastZero ↔ ∀ entry ∈ Datum.lastOfEach mapping, Key.ofDatum? entry.1 = some key →
      entry.2 ≠ .float .nan := by
  by_cases given : ∃ entry ∈ Datum.lastOfEach mapping, Key.ofDatum? entry.1 = some key
  · obtain ⟨entry, member, named⟩ := given
    constructor
    · intro above other there same
      exact (atLeastZero_of_readSeconds (present other there same)).1 above
    · intro numbers
      exact (atLeastZero_of_readSeconds (present entry member named)).2 (numbers entry member named)
  · have none : ∀ entry ∈ Datum.lastOfEach mapping, Key.ofDatum? entry.1 ≠ some key :=
      fun entry member named => given ⟨entry, member, named⟩
    rw [absent none]
    exact iff_of_true default fun entry member named => absurd named (none entry member)

theorem seconds_of_admits_float {key : Key} {x : Binary64} (admits : key.Admits (.float x)) :
    key = .startupGrace ∨ key = .terminateTimeout := by
  cases key with
  | startupGrace => exact Or.inl rfl
  | terminateTimeout => exact Or.inr rfl
  | targetDir =>
      obtain ⟨text, same⟩ := admits
      cases same
  | buildCommand => cases admits
  | watcherCommand =>
      rcases admits with same | texts
      · cases same
      · cases texts
  | allowEmptyRoots =>
      obtain ⟨b, same⟩ := admits
      cases same

/-- Settings that a mapping gives have no duration below zero, and every duration in them is a number
unless the mapping has what is none. -/
theorem atLeastZero_of_ofMapping (given : ofMapping mapping = .ok s) :
    s.startupGrace.AtLeastZero ∧ s.terminateTimeout.AtLeastZero ↔
      ∀ entry ∈ Datum.lastOfEach mapping, entry.2 ≠ .float .nan := by
  have grace := @atLeastZero_of_given mapping .startupGrace s.startupGrace usual.startupGrace
    (read_of_ofMapping given) (get_of_ofMapping_of_absent given)
    ((Binary64.atLeastZero_iff _).2 (by decide))
  have timeout := @atLeastZero_of_given mapping .terminateTimeout s.terminateTimeout
    usual.terminateTimeout (read_of_ofMapping given) (get_of_ofMapping_of_absent given)
    ((Binary64.atLeastZero_iff _).2 (by decide))
  have fits := exists_ofMapping_iff_fits.1 ⟨s, given⟩
  rw [grace, timeout]
  constructor
  · rintro ⟨first, second⟩ entry member nan
    obtain ⟨key, named, admits⟩ := fits entry member
    rw [← Key.ofDatum?_eq_some_iff] at named
    rw [nan] at admits
    rcases seconds_of_admits_float admits with rfl | rfl
    · exact first entry member named nan
    · exact second entry member named nan
  · exact fun numbers => ⟨fun entry member _ => numbers entry member,
      fun entry member _ => numbers entry member⟩

theorem family_of_unknown {keys : List Datum} {f : Fault} (broken : unknown keys = .broken f) :
    f.family = .kind := by
  unfold unknown at broken
  split at broken
  · cases broken
  · cases broken
    unfold unordered
    split <;> rfl
  · cases broken
    rfl
  · cases broken

/-- All keys are known, and the first value that its key does not admit is a number of seconds that is
too large. -/
def Oversized (entries : List (Datum × Datum)) : Prop :=
  (∀ entry ∈ entries, ∃ key : Key, entry.1 = .text key.name.toList) ∧
    ∃ before entry after, ∃ key : Key, entries = before ++ entry :: after ∧
      (∀ other ∈ before, Fits other) ∧ entry.1 = .text key.name.toList ∧
      (key = .startupGrace ∨ key = .terminateTimeout) ∧ TooLarge entry.2

theorem known_iff (entries : List (Datum × Datum)) :
    (∀ entry ∈ entries, (Key.ofDatum? entry.1).isSome = true) ↔
      ∀ entry ∈ entries, ∃ key : Key, entry.1 = .text key.name.toList := by
  simp only [Option.isSome_iff_exists, Key.ofDatum?_eq_some_iff]

/-- A mapping of which all keys are known has a fault just when it is oversized. -/
theorem ofMapping_eq_broken_of_known {f : Fault}
    (known : ∀ entry ∈ Datum.lastOfEach mapping, (Key.ofDatum? entry.1).isSome = true) :
    ofMapping mapping = .error (.broken f) ↔
      f = .numberTooLarge ∧ Oversized (Datum.lastOfEach mapping) := by
  rw [ofMapping_of_known known, assignAll_eq_error_iff known, Oversized, ← known_iff]
  simp only [read_eq_broken_iff, Key.ofDatum?_eq_some_iff, accepted_iff]
  constructor
  · rintro ⟨before, entry, after, key, split, fits, named, duration, rfl, large⟩
    exact ⟨rfl, known, before, entry, after, key, split, fits, named, duration, large⟩
  · rintro ⟨rfl, -, before, entry, after, key, split, fits, named, duration, large⟩
    exact ⟨before, entry, after, key, split, fits, named, duration, rfl, large⟩

/-- A key that is no text is a fault of its kind, whatever else is in the mapping. -/
theorem exists_ofMapping_eq_kind_iff :
    (∃ fault, ofMapping mapping = .error (.broken fault) ∧ fault.family = .kind) ↔
      ∃ entry ∈ Datum.lastOfEach mapping, ∀ text, entry.1 ≠ .text text := by
  have noText (key : Datum) : text? key = none ↔ ∀ text, key ≠ .text text := by
    rw [← Option.not_isSome_iff_eq_none, Option.isSome_iff_exists, exists_text?_iff, not_exists]
  constructor
  · rintro ⟨fault, broken, family⟩
    by_cases known : ∀ entry ∈ Datum.lastOfEach mapping, (Key.ofDatum? entry.1).isSome = true
    · rw [ofMapping_eq_broken_of_known known] at broken
      rw [broken.1] at family
      cases family
    · rw [ofMapping_of_not_known known] at broken
      obtain ⟨key, there, none⟩ :=
        (unknown_eq_broken_iff _).1 ⟨fault, Except.error.inj broken⟩
      obtain ⟨other, inside, rfl⟩ := List.mem_map.1 (List.mem_filter.1 there).1
      exact ⟨other, inside, (noText other.1).1 none⟩
  · rintro ⟨entry, member, other⟩
    have none := (noText entry.1).2 other
    have stranger := ofDatum?_eq_none_of_no_text none
    obtain ⟨fault, broken⟩ :=
      (unknown_eq_broken_iff _).2 ⟨entry.1, mem_strangers member stranger, none⟩
    rw [ofMapping_of_unknown member stranger]
    exact ⟨fault, congrArg Except.error broken, family_of_unknown broken⟩

theorem ofMapping_eq_tooLarge_iff :
    ofMapping mapping = .error (.broken .numberTooLarge) ↔
      Oversized (Datum.lastOfEach mapping) := by
  constructor
  · intro broken
    by_cases known : ∀ entry ∈ Datum.lastOfEach mapping, (Key.ofDatum? entry.1).isSome = true
    · exact ((ofMapping_eq_broken_of_known known).1 broken).2
    · rw [ofMapping_of_not_known known] at broken
      cases family_of_unknown (Except.error.inj broken)
  · intro oversized
    have known := (known_iff _).2 oversized.1
    exact (ofMapping_eq_broken_of_known known).2 ⟨rfl, oversized⟩

/-- Whatever stops a mapping is a failure of setup, a fault of a kind or a number that is too large. -/
theorem ofMapping_eq_error {stop : Stop} (refused : ofMapping mapping = .error stop) :
    (∃ f, stop = .failed (.setup f)) ∨
      ∃ fault, stop = .broken fault ∧ (fault.family = .kind ∨ fault = .numberTooLarge) := by
  cases stop with
  | failed f =>
      have stage := failsInSetup_ofMapping mapping f refused
      cases f with
      | setup f => exact Or.inl ⟨f, rfl⟩
      | _ => cases stage
  | broken fault =>
      refine Or.inr ⟨fault, rfl, ?_⟩
      by_cases known : ∀ entry ∈ Datum.lastOfEach mapping, (Key.ofDatum? entry.1).isSome = true
      · exact Or.inr ((ofMapping_eq_broken_of_known known).1 refused).1
      · rw [ofMapping_of_not_known known] at refused
        exact Or.inl (family_of_unknown (Except.error.inj refused))

/-- A mapping either gives settings in which no duration is below zero, and each is a number, or is a
failure of setup. -/
def Orderly (mapping : List (Datum × Datum)) : Prop :=
  (∃ s, ofMapping mapping = .ok s ∧ s.startupGrace.AtLeastZero ∧ s.terminateTimeout.AtLeastZero) ∨
    ∃ f, ofMapping mapping = .error (.failed (.setup f))

/-- A mapping is orderly just when all of its keys are texts, no duration in it is the first thing that
is wrong and too large, and no duration that is accepted is no number. -/
theorem ofMapping_outcomes (mapping : List (Datum × Datum)) :
    let entries := Datum.lastOfEach mapping
    (Orderly mapping ↔
      (∀ entry ∈ entries, ∃ text, entry.1 = .text text) ∧ ¬Oversized entries ∧
        ((∀ entry ∈ entries, Fits entry) → ∀ entry ∈ entries, entry.2 ≠ .float .nan)) ∧
      ((∃ s, ofMapping mapping = .ok s) ↔ ∀ entry ∈ entries, Fits entry) ∧
      (∀ s, ofMapping mapping = .ok s →
        (s.startupGrace.AtLeastZero ∧ s.terminateTimeout.AtLeastZero ↔
          ∀ entry ∈ entries, entry.2 ≠ .float .nan)) ∧
      (∀ stop, ofMapping mapping = .error stop →
        (∃ f, stop = .failed (.setup f)) ∨
          ∃ fault, stop = .broken fault ∧ (fault.family = .kind ∨ fault = .numberTooLarge)) ∧
      ((∃ fault, ofMapping mapping = .error (.broken fault) ∧ fault.family = .kind) ↔
        ∃ entry ∈ entries, ∀ text, entry.1 ≠ .text text) ∧
      (ofMapping mapping = .error (.broken .numberTooLarge) ↔ Oversized entries) := by
  intro entries
  refine ⟨?_, exists_ofMapping_iff_fits, fun s => atLeastZero_of_ofMapping,
    fun stop => ofMapping_eq_error, exists_ofMapping_eq_kind_iff, ofMapping_eq_tooLarge_iff⟩
  have texts : (∀ entry ∈ entries, ∃ text, entry.1 = .text text) ↔
      ¬∃ fault, ofMapping mapping = .error (.broken fault) ∧ fault.family = .kind := by
    rw [exists_ofMapping_eq_kind_iff]
    simp only [not_exists, not_and, Classical.not_forall, Classical.not_not, ne_eq]
    exact Iff.rfl
  rw [texts, ← ofMapping_eq_tooLarge_iff, ← exists_ofMapping_iff_fits]
  cases given : ofMapping mapping with
  | ok s =>
      have numbers := atLeastZero_of_ofMapping given
      simp [Orderly, given, numbers, entries]
  | error stop =>
      rcases ofMapping_eq_error given with ⟨f, rfl⟩ | ⟨fault, rfl, family | rfl⟩
      · simp [Orderly, given]
      · simp [Orderly, given, family]
      · simp [Orderly, given]

/-- The same of a mapping in which a duration is given twice, the second time as no number. -/
theorem ofMapping_outcomes_of_no_number :
    let grace : Datum := .text "startup_grace".toList
    let mapping : List (Datum × Datum) :=
      [(grace, .int 3), (.text "allow_empty_roots".toList, .bool true), (grace, .float .nan)]
    let s : Settings := { usual with startupGrace := .nan, allowEmptyRoots := true }
    Datum.lastOfEach mapping =
        [(grace, .float .nan), (.text "allow_empty_roots".toList, .bool true)] ∧
      ofMapping mapping = .ok s ∧ (∀ entry ∈ Datum.lastOfEach mapping, Fits entry) ∧
      ¬(s.startupGrace.AtLeastZero ∧ s.terminateTimeout.AtLeastZero) ∧ ¬Orderly mapping := by
  intro grace mapping s
  have last : Datum.lastOfEach mapping =
      [(grace, .float .nan), (.text "allow_empty_roots".toList, .bool true)] := rfl
  have given : ofMapping mapping = .ok s := rfl
  obtain ⟨orderly, accepted, above, -⟩ := ofMapping_outcomes mapping
  have fits := accepted.1 ⟨s, given⟩
  have nan : ¬∀ entry ∈ Datum.lastOfEach mapping, entry.2 ≠ .float .nan := by
    rw [last]
    exact fun numbers => numbers _ List.mem_cons_self rfl
  exact ⟨last, given, fits, fun both => nan ((above s given).1 both),
    fun whole => nan ((orderly.1 whole).2.2 fits)⟩

/-- A mapping with a number for a key is no failure of setup, nor is one with a duration that is too
large. -/
theorem not_orderly_of_number_key :
    ofMapping [(.int 1, .int 2)] = .error (.broken (.notText 0 "int")) ∧
      ofMapping [(.text "terminate_timeout".toList, .int (tenTo 400))] =
        .error (.broken .numberTooLarge) ∧
      ¬∀ mapping, Orderly mapping := by
  have number : ofMapping [(.int 1, .int 2)] = .error (.broken (.notText 0 "int")) := rfl
  refine ⟨number, by decide +kernel, fun all => ?_⟩
  rcases all [(.int 1, .int 2)] with ⟨s, given, -⟩ | ⟨f, refused⟩
  · cases number.symm.trans given
  · cases number.symm.trans refused

end WatchTrial.Settings
