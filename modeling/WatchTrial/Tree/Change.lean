import WatchTrial.Tree.Walk

set_option autoImplicit false

/- Operations on the file tree as the operating system offers them: each either succeeds or is
refused, and says what the tree is afterwards. Only `removeAll` can change the tree and be
refused. -/

namespace WatchTrial.Tree

/-- An outcome together with the tree it leaves. -/
structure Changed where
  result : Except Refusal Unit
  tree : Tree

/-- Refused, and nothing changed. -/
def refuse (t : Tree) (refusal : Refusal) : Changed := ⟨.error refusal, t⟩

def done (t : Tree) : Changed := ⟨.ok (), t⟩

/-- Makes a directory where nothing stands. -/
def makeDirectory (t : Tree) (p : Path) : Changed :=
  match t.locate p with
  | .error refusal => t.refuse refusal
  | .ok (.child directory name) =>
      match t.lookup directory name with
      | .error refusal => t.refuse refusal
      | .ok (some _) => t.refuse .exists
      | .ok none => done (t.set (directory ++ [name]) .directory)
  | .ok _ => t.refuse .exists

/-- Makes a file hold the given octets. A file that is there keeps its permissions. -/
def writeFile (t : Tree) (p : Path) (content : Octets) : Changed :=
  match t.locate p with
  | .error refusal => t.refuse refusal
  | .ok (.child directory name) =>
      match t.lookup directory name with
      | .error refusal => t.refuse refusal
      | .ok (some .directory) => t.refuse .isDirectory
      | .ok (some (.file _ executable)) =>
          done (t.set (directory ++ [name]) (.file content executable))
      | .ok none => done (t.set (directory ++ [name]) (.file content false))
  | .ok _ => t.refuse .isDirectory

/-- Makes an empty file where nothing stands; what is there is left as it is. -/
def touch (t : Tree) (p : Path) : Changed :=
  match t.resolve p with
  | .ok _ => done t
  | .error _ => t.writeFile p []

def readFile (t : Tree) (p : Path) : Except Refusal Octets :=
  match t.resolve p with
  | .error refusal => .error refusal
  | .ok (_, .directory) => .error .isDirectory
  | .ok (_, .file content _) => .ok content

/-- Removes a directory that has nothing below it. -/
def removeEmptied (t : Tree) (p : Path) : Changed :=
  match t.locate p with
  | .error refusal => t.refuse refusal
  | .ok (.child directory name) => done (t.erase (directory ++ [name]))
  | .ok (.above _) => t.refuse .notEmpty
  | .ok (.top absolute) => t.refuse (if absolute then .busy else .invalid)

/-- Removes a file, or a directory with all below it. A path that does not end in a name of its
own has its directory emptied before the removal of the directory is refused. How deep directories
are inside of one another does not matter here: that a removal which goes down by recursion gives up
at about a thousand of them, with part of the tree removed, is left out. -/
def removeAll (t : Tree) (p : Path) : Changed :=
  match t.resolve p with
  | .error refusal => t.refuse refusal
  | .ok (place, .file ..) => done (t.erase place)
  | .ok (place, .directory) => (t.clear place).removeEmptied p

/-- Whether an entry may be replaced by a moved one: a file by a file, an empty directory by a
directory. -/
def admitsReplacement (t : Tree) (source : Entry) (target : Location) : Except Refusal Unit :=
  match source, t.get? target with
  | _, none => .ok ()
  | .directory, some .directory => if t.hasBelow target then .error .notEmpty else .ok ()
  | .directory, some (.file ..) => .error .notDirectory
  | .file .., some .directory => .error .isDirectory
  | .file .., some (.file ..) => .ok ()

/-- Moves what stands at one path to another. -/
def move (t : Tree) (source target : Path) : Changed :=
  let plan : Except Refusal (Location × Location) := do
    let sourceSpot ← t.locate source
    let targetSpot ← t.locate target
    let (.child fromDirectory fromName, .child toDirectory toName) := (sourceSpot, targetSpot)
      | .error .busy
    let some entry ← t.lookup fromDirectory fromName | .error .noEntry
    let _ ← t.lookup toDirectory toName
    let (old, new) := (fromDirectory ++ [fromName], toDirectory ++ [toName])
    if old.isPrefixOf toDirectory then .error .invalid
    if new.isPrefixOf fromDirectory then .error .notEmpty
    if old ≠ new then t.admitsReplacement entry new
    return (old, new)
  match plan with
  | .error refusal => t.refuse refusal
  | .ok (old, new) => done (if old = new then t else (t.erase new).relocate old new)

/-- Makes a directory unless one is there. The path in a refusal is the one that was refused. -/
def admitDirectory (t : Tree) (p : Path) : Except (Refusal × Path) Unit × Tree :=
  match t.makeDirectory p with
  | ⟨.ok (), made⟩ => (.ok (), made)
  | ⟨.error refusal, _⟩ => (if t.isDirectory p then .ok () else .error (refusal, p), t)

/-- Makes a directory unless one is there, and first those above it where they are missing, at most
`count` of them. -/
def ensureDirectory (t : Tree) : Nat → Path → Except (Refusal × Path) Unit × Tree
  | 0, p => t.admitDirectory p
  | count + 1, p =>
      match (t.makeDirectory p).result with
      | .error .noEntry =>
          match t.ensureDirectory count p.parent with
          | (.error refused, left) => (.error refused, left)
          | (.ok (), made) => made.admitDirectory p
      | _ => t.admitDirectory p

end WatchTrial.Tree
