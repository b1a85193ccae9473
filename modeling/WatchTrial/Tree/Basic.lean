import WatchTrial.Text.Utf8

set_option autoImplicit false

/- File trees: directories and regular files. A tree is a list of entries under distinct
locations; a location is the list of names that leads to it from the root, which is a directory
that is always there. -/

namespace WatchTrial

/-- One name in a directory. -/
abbrev Name := List Char

/-- The names that lead from the root to a place. -/
abbrev Location := List Name

inductive Entry where
  | directory
  | file (content : Octets) (executable : Bool)
  deriving DecidableEq, Repr

structure Tree where
  entries : List (Location × Entry)
  /-- The working directory. -/
  here : Location := []
  deriving DecidableEq, Repr

namespace Tree

def empty : Tree := ⟨[], []⟩

/-- The entry under a location in a list of entries. -/
def find? (location : Location) : List (Location × Entry) → Option Entry
  | [] => none
  | (key, entry) :: rest => if key = location then some entry else find? location rest

/-- Changes the entry under a location, or adds it at the end. -/
def put (location : Location) (entry : Entry) : List (Location × Entry) → List (Location × Entry)
  | [] => [(location, entry)]
  | (key, old) :: rest =>
      if key = location then (key, entry) :: rest else (key, old) :: put location entry rest

/-- What stands at a location. -/
def get? (t : Tree) (location : Location) : Option Entry :=
  if location = [] then some .directory else find? location t.entries

def set (t : Tree) (location : Location) (entry : Entry) : Tree :=
  { t with entries := put location entry t.entries }

/-- The tree without a location and all below it. -/
def erase (t : Tree) (location : Location) : Tree :=
  { t with entries := t.entries.filter fun e => !location.isPrefixOf e.1 }

/-- The tree without what is strictly below a location. -/
def clear (t : Tree) (location : Location) : Tree :=
  { t with entries := t.entries.filter fun e => !location.isPrefixOf e.1 || e.1 == location }

/-- Whether a location has anything strictly below it. -/
def hasBelow (t : Tree) (location : Location) : Bool :=
  t.entries.any fun e => location.isPrefixOf e.1 && e.1 != location

/-- The location that `place` becomes when `source` is carried to `target`. -/
def carry (source target place : Location) : Location :=
  if source.isPrefixOf place then target ++ place.drop source.length else place

/-- The tree with the subtree at `source` carried to `target`. -/
def relocate (t : Tree) (source target : Location) : Tree :=
  { t with entries := t.entries.map fun e => (carry source target e.1, e.2) }

@[simp] theorem get?_root (t : Tree) : t.get? [] = some .directory := rfl

theorem find?_put (location other : Location) (entry : Entry) (entries : List (Location × Entry)) :
    find? other (put location entry entries) =
      if location = other then some entry else find? other entries := by
  induction entries with
  | nil => simp [put, find?]
  | cons e rest ih =>
      obtain ⟨key, old⟩ := e
      by_cases same : key = location
      · subst same
        by_cases hit : key = other <;> simp [put, find?, hit]
      · by_cases hit : key = other
        · subst hit
          simp [put, find?, same, Ne.symm same]
        · simp [put, find?, same, hit, ih]

theorem get?_set (t : Tree) (location other : Location) (entry : Entry) (inner : location ≠ []) :
    (t.set location entry).get? other = if location = other then some entry else t.get? other := by
  by_cases top : other = []
  · subst top
    simp [get?, inner]
  · simp [get?, set, top, find?_put]

theorem find?_filter (keep : Location → Bool) (location : Location)
    (entries : List (Location × Entry)) :
    find? location (entries.filter fun e => keep e.1) =
      if keep location then find? location entries else none := by
  induction entries with
  | nil => simp [find?]
  | cons e rest ih =>
      obtain ⟨key, entry⟩ := e
      by_cases kept : keep key = true
      · by_cases hit : key = location
        · subst hit
          simp [find?, kept]
        · simp [find?, kept, hit, ih]
      · by_cases hit : key = location
        · subst hit
          simp [kept, ih]
        · simp [find?, kept, hit, ih]

theorem get?_erase (t : Tree) (location other : Location) (inner : other ≠ []) :
    (t.erase location).get? other = if location.isPrefixOf other then none else t.get? other := by
  have filtered := find?_filter (fun key => !location.isPrefixOf key) other t.entries
  simp only [get?, erase, inner, if_false, filtered]
  by_cases below : location.isPrefixOf other = true <;> simp [below]

theorem get?_clear (t : Tree) (location other : Location) (inner : other ≠ []) :
    (t.clear location).get? other =
      if location.isPrefixOf other && other != location then none else t.get? other := by
  have filtered :=
    find?_filter (fun key => !location.isPrefixOf key || key == location) other t.entries
  simp only [get?, clear, inner, if_false, filtered]
  by_cases below : location.isPrefixOf other = true <;>
    by_cases same : other = location <;> simp [below, same]

end Tree

end WatchTrial
