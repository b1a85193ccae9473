import WatchTrial.Proofs.Settings
import WatchTrial.Proofs.Traversal

set_option autoImplicit false

namespace WatchTrial

namespace Yaml.Datum

variable {α : Type}

theorem mem_assign {key : Datum} {value : α} {entries : List (Datum × α)} {entry : Datum × α}
    (member : entry ∈ assign key value entries) :
    entry = (key, value) ∨ (∃ other ∈ entries, entry.1 = other.1) := by
  induction entries with
  | nil => exact Or.inl (List.mem_singleton.1 member)
  | cons first rest ih =>
      rw [assign] at member
      split at member
      · rcases List.mem_cons.1 member with rfl | later
        · exact Or.inr ⟨first, List.mem_cons_self, rfl⟩
        · exact Or.inr ⟨entry, List.mem_cons_of_mem first later, rfl⟩
      · rcases List.mem_cons.1 member with rfl | later
        · exact Or.inr ⟨_, List.mem_cons_self, rfl⟩
        · rcases ih later with same | ⟨other, there, same⟩
          · exact Or.inl same
          · exact Or.inr ⟨other, List.mem_cons_of_mem first there, same⟩

/-- No two of the entries have the same key. -/
def Distinct (entries : List (Datum × α)) : Prop :=
  entries.Pairwise fun first second => first.1.sameKey second.1 = false

theorem distinct_assign {entries : List (Datum × α)} (key : Datum) (value : α)
    (distinct : Distinct entries) : Distinct (assign key value entries) := by
  induction entries with
  | nil => exact List.pairwise_singleton _ _
  | cons first rest ih =>
      obtain ⟨here, later⟩ := List.pairwise_cons.1 distinct
      rw [assign]
      split
      · exact List.pairwise_cons.2 ⟨here, later⟩
      · rename_i other
        refine List.pairwise_cons.2 ⟨fun entry member => ?_, ih later⟩
        rcases mem_assign member with rfl | ⟨old, there, same⟩
        · simpa using other
        · rw [same]
          exact here old there

theorem distinct_lastOfEach (entries : List (Datum × α)) : Distinct (lastOfEach entries) :=
  List.foldlRecOn entries _ List.Pairwise.nil fun _ distinct entry _ =>
    distinct_assign entry.1 entry.2 distinct

end Yaml.Datum

namespace Settings

open Yaml (Datum)

/-- A command that is taken from a value; none is set by nothing. -/
def command? (value : Datum) : Option (Option (List String)) :=
  match value, texts? value with
  | .null, _ => some none
  | _, some words => some (some words)
  | _, none => none

def truth? : Datum → Option Bool
  | .bool b => some b
  | _ => none

/-- What has been taken from a value, which is refused if there is nothing. -/
def orRefuse {α : Type} (f : SetupFault) : Option α → Except Stop α
  | some a => .ok a
  | none => refuse f

namespace Key

/-- What can stand under a key. -/
def Value : Key → Type
  | .targetDir => Path
  | .buildCommand => List String
  | .watcherCommand => Option (List String)
  | .startupGrace | .terminateTimeout => Binary64
  | .allowEmptyRoots => Bool

def get : (key : Key) → Settings → key.Value
  | .targetDir, s => s.targetDir
  | .buildCommand, s => s.buildCommand
  | .watcherCommand, s => s.watcherCommand
  | .startupGrace, s => s.startupGrace
  | .terminateTimeout, s => s.terminateTimeout
  | .allowEmptyRoots, s => s.allowEmptyRoots

def set : (key : Key) → Settings → key.Value → Settings
  | .targetDir, s, x => { s with targetDir := x }
  | .buildCommand, s, x => { s with buildCommand := x }
  | .watcherCommand, s, x => { s with watcherCommand := x }
  | .startupGrace, s, x => { s with startupGrace := x }
  | .terminateTimeout, s, x => { s with terminateTimeout := x }
  | .allowEmptyRoots, s, x => { s with allowEmptyRoots := x }

/-- What a value of a mapping comes to under a key. -/
def read : (key : Key) → Datum → Except Stop key.Value
  | .targetDir, value =>
      orRefuse (.notText Key.targetDir.name) ((text? value).map Path.ofString)
  | .buildCommand, value => orRefuse (.notTexts Key.buildCommand.name) (texts? value)
  | .watcherCommand, value => orRefuse (.notTexts Key.watcherCommand.name) (command? value)
  | .startupGrace, value => readSeconds .startupGrace value
  | .terminateTimeout, value => readSeconds .terminateTimeout value
  | .allowEmptyRoots, value => orRefuse (.notBoolean Key.allowEmptyRoots.name) (truth? value)

@[simp] theorem get_set_self (key : Key) (s : Settings) (x : key.Value) :
    key.get (key.set s x) = x := by
  cases key <;> rfl

theorem get_set_other {key other : Key} (s : Settings) (x : key.Value) (different : other ≠ key) :
    other.get (key.set s x) = other.get s := by
  cases key <;> cases other <;> first | rfl | exact absurd rfl different

/-- A key is known by its name alone. -/
theorem ofDatum?_eq_some_iff {value : Datum} {key : Key} :
    ofDatum? value = some key ↔ value = .text key.name.toList := by
  constructor
  · intro known
    cases value with
    | text s =>
        have named : key.name = String.ofList s := by
          simpa using List.find?_some known
        rw [named, String.toList_ofList]
    | _ => cases known
  · rintro rfl
    rw [ofDatum?, String.ofList_toList]
    exact ofName?_name key

theorem sameKey_of_ofDatum? {first second : Datum} {key : Key} (one : ofDatum? first = some key)
    (other : ofDatum? second = some key) : first.sameKey second = true := by
  rw [ofDatum?_eq_some_iff] at one other
  rw [one, other]
  simp [Datum.sameKey]

end Key

theorem assign_eq (s : Settings) (key : Key) (value : Datum) :
    assign s key value = (key.read value).map (key.set s) := by
  cases key with
  | startupGrace => rfl
  | terminateTimeout => rfl
  | targetDir =>
      simp only [assign, Key.read]
      cases text? value <;> rfl
  | buildCommand =>
      simp only [assign, Key.read]
      cases texts? value <;> rfl
  | watcherCommand =>
      simp only [assign, Key.read, command?]
      cases value with
      | null => rfl
      | _ => cases texts? _ <;> rfl
  | allowEmptyRoots =>
      simp only [assign, Key.read]
      cases value <;> rfl

/-- An entry that has a known key and a value that can stand under it. -/
def Accepted (entry : Datum × Datum) : Prop :=
  ∃ key, Key.ofDatum? entry.1 = some key ∧ ∃ x, key.read entry.2 = .ok x

section

variable {s t : Settings} {entries : List (Datum × Datum)}

/-- The value of the first entry is read and set before the others are. -/
theorem assignAll_cons {entry : Datum × Datum} {key : Key} (s : Settings)
    (rest : List (Datum × Datum)) (named : Key.ofDatum? entry.1 = some key) :
    assignAll s (entry :: rest) = key.read entry.2 >>= fun x => assignAll (key.set s x) rest := by
  rw [assignAll_cons_of_known s entry.2 rest named, assign_eq]
  cases key.read entry.2 <;> rfl

theorem exists_assignAll_iff (known : ∀ entry ∈ entries, (Key.ofDatum? entry.1).isSome = true) :
    (∃ t, assignAll s entries = .ok t) ↔ ∀ entry ∈ entries, Accepted entry := by
  induction entries generalizing s with
  | nil =>
      refine ⟨?_, fun _ => ⟨s, rfl⟩⟩
      intro _ entry member
      cases member
  | cons entry rest ih =>
      rw [List.forall_mem_cons] at known ⊢
      obtain ⟨key, named⟩ := Option.isSome_iff_exists.1 known.1
      rw [assignAll_cons s rest named]
      constructor
      · rintro ⟨t, set⟩
        obtain ⟨x, read, others⟩ := bind_eq_ok_iff.1 set
        exact ⟨⟨key, named, x, read⟩, (ih known.2).1 ⟨t, others⟩⟩
      · rintro ⟨⟨other, named', x, read⟩, others⟩
        cases named.symm.trans named'
        rw [read]
        exact (ih known.2).2 others

/-- Entries are refused for the first of them that is not accepted. -/
theorem assignAll_eq_error_iff {stop : Stop}
    (known : ∀ entry ∈ entries, (Key.ofDatum? entry.1).isSome = true) :
    assignAll s entries = .error stop ↔
      ∃ before entry after key, entries = before ++ entry :: after ∧
        (∀ other ∈ before, Accepted other) ∧ Key.ofDatum? entry.1 = some key ∧
        key.read entry.2 = .error stop := by
  induction entries generalizing s with
  | nil =>
      constructor
      · intro stopped
        cases stopped
      · rintro ⟨before, entry, after, key, split, -⟩
        simp at split
  | cons first rest ih =>
      rw [List.forall_mem_cons] at known
      obtain ⟨key, named⟩ := Option.isSome_iff_exists.1 known.1
      rw [assignAll_cons s rest named]
      cases read : key.read first.2 with
      | error other =>
          constructor
          · intro stopped
            cases stopped
            exact ⟨[], first, rest, key, rfl, by simp, named, read⟩
          · rintro ⟨before, entry, after, key', split, accepted, named', read'⟩
            cases before with
            | nil =>
                cases split
                cases named.symm.trans named'
                exact congrArg Except.error (Except.error.inj (read.symm.trans read'))
            | cons front before =>
                cases split
                obtain ⟨same, named', x, whole⟩ := accepted first List.mem_cons_self
                cases named.symm.trans named'
                cases read.symm.trans whole
      | ok x =>
          refine (ih known.2).trans ?_
          constructor
          · rintro ⟨before, entry, after, key', rfl, accepted, named', read'⟩
            refine ⟨first :: before, entry, after, key', rfl, ?_, named', read'⟩
            exact List.forall_mem_cons.2 ⟨⟨key, named, x, read⟩, accepted⟩
          · rintro ⟨before, entry, after, key', split, accepted, named', read'⟩
            cases before with
            | nil =>
                cases split
                cases named.symm.trans named'
                cases read.symm.trans read'
            | cons front before =>
                cases split
                exact ⟨before, entry, after, key', rfl, (List.forall_mem_cons.1 accepted).2, named',
                  read'⟩

/-- What has been set under a key stays there when no other entry has the key. -/
theorem get_assignAll_of_absent {key : Key}
    (known : ∀ entry ∈ entries, (Key.ofDatum? entry.1).isSome = true)
    (absent : ∀ entry ∈ entries, Key.ofDatum? entry.1 ≠ some key)
    (set : assignAll s entries = .ok t) : key.get t = key.get s := by
  induction entries generalizing s with
  | nil =>
      cases set
      rfl
  | cons entry rest ih =>
      rw [List.forall_mem_cons] at known absent
      obtain ⟨other, named⟩ := Option.isSome_iff_exists.1 known.1
      rw [assignAll_cons s rest named] at set
      obtain ⟨x, -, others⟩ := bind_eq_ok_iff.1 set
      have different : key ≠ other := by
        rintro rfl
        exact absent.1 named
      rw [ih known.2 absent.2 others, Key.get_set_other s x different]

theorem read_of_assignAll {key : Key} (distinct : Datum.Distinct entries)
    (known : ∀ entry ∈ entries, (Key.ofDatum? entry.1).isSome = true)
    (set : assignAll s entries = .ok t) :
    ∀ entry ∈ entries, Key.ofDatum? entry.1 = some key → key.read entry.2 = .ok (key.get t) := by
  induction entries generalizing s with
  | nil =>
      intro entry member
      cases member
  | cons first rest ih =>
      rw [List.forall_mem_cons] at known
      obtain ⟨apart, later⟩ := List.pairwise_cons.1 distinct
      obtain ⟨other, named⟩ := Option.isSome_iff_exists.1 known.1
      rw [assignAll_cons s rest named] at set
      obtain ⟨x, read, others⟩ := bind_eq_ok_iff.1 set
      intro entry member here
      rcases List.mem_cons.1 member with rfl | inside
      · cases named.symm.trans here
        have absent : ∀ entry ∈ rest, Key.ofDatum? entry.1 ≠ some key := by
          intro entry there same
          have clash := Key.sameKey_of_ofDatum? here same
          rw [apart entry there] at clash
          cases clash
        rw [get_assignAll_of_absent known.2 absent others, Key.get_set_self, read]
      · exact ih later known.2 others entry inside here

end

variable {mapping : List (Datum × Datum)} {s : Settings}

theorem known_of_accepted {entries : List (Datum × Datum)}
    (accepted : ∀ entry ∈ entries, Accepted entry) :
    ∀ entry ∈ entries, (Key.ofDatum? entry.1).isSome = true := by
  intro entry member
  obtain ⟨key, named, -⟩ := accepted entry member
  rw [named]
  rfl

theorem known_of_ofMapping (given : ofMapping mapping = .ok s) :
    ∀ entry ∈ Datum.lastOfEach mapping, (Key.ofDatum? entry.1).isSome = true := by
  intro entry member
  rw [Option.isSome_iff_ne_none]
  intro stranger
  cases given.symm.trans (ofMapping_of_unknown member stranger)

/-- A mapping is read just when all of its entries are accepted. -/
theorem exists_ofMapping_iff :
    (∃ s, ofMapping mapping = .ok s) ↔
      ∀ entry ∈ Datum.lastOfEach mapping, Accepted entry := by
  constructor
  · rintro ⟨s, given⟩
    have known := known_of_ofMapping given
    rw [ofMapping_of_known known] at given
    exact (exists_assignAll_iff known).1 ⟨s, given⟩
  · intro accepted
    have known := known_of_accepted accepted
    rw [ofMapping_of_known known]
    exact (exists_assignAll_iff known).2 accepted

/-- What a mapping gives under a key that is in it is what its value there comes to. -/
theorem read_of_ofMapping (given : ofMapping mapping = .ok s) {key : Key} :
    ∀ entry ∈ Datum.lastOfEach mapping, Key.ofDatum? entry.1 = some key →
      key.read entry.2 = .ok (key.get s) := by
  have known := known_of_ofMapping given
  rw [ofMapping_of_known known] at given
  exact read_of_assignAll (Datum.distinct_lastOfEach mapping) known given

/-- What a mapping gives under a key that is not in it is the usual value. -/
theorem get_of_ofMapping_of_absent (given : ofMapping mapping = .ok s) {key : Key}
    (absent : ∀ entry ∈ Datum.lastOfEach mapping, Key.ofDatum? entry.1 ≠ some key) :
    key.get s = key.get usual := by
  have known := known_of_ofMapping given
  rw [ofMapping_of_known known] at given
  exact get_assignAll_of_absent known absent given

end Settings

end WatchTrial
