import TopologySubmission.Failure.Basic
import TopologySubmission.Files.Path

/-!
# A tree of files

A `FileTree` says what stands at each location: a directory, a file with its bytes, or nothing. A
location is the list of names from the root. A path leads to a location by walking its names from
the current directory: each step needs a directory, a double dot goes back up, and a name of more
than 255 bytes is refused, as is a path of 4096 bytes or more.

Each operation answers the tree afterwards, or the refusal; a refused operation changes nothing.
Symbolic links, permissions and a disk that is full are left aside: an entry is what stands at its own
location, and whoever reaches it may read and change it.

    lookup (put t l e) l = some e,  and other locations are as before   (lookup_put_self, lookup_put_ne)
-/

namespace TopologySubmission

/-! ## Algorithm -/

/-- The names from the root down. -/
abbrev Location := List String

/-- What stands at a location. -/
inductive FileEntry where
  | directory
  | file (content : ByteArray)

/-- Entries are the same if they are of one kind and hold the same bytes. -/
instance : DecidableEq FileEntry
  | .directory, .directory => .isTrue rfl
  | .directory, .file _ => .isFalse nofun
  | .file _, .directory => .isFalse nofun
  | .file ⟨a⟩, .file ⟨b⟩ =>
    if h : a = b then .isTrue (h ▸ rfl) else .isFalse fun e => h (by cases e; rfl)

/-- The entries below the root, which is always a directory. -/
structure FileTree where
  entries : List (Location × FileEntry) := []
  deriving DecidableEq, Inhabited

namespace FileTree

/-- What stands at a location. -/
def lookup (t : FileTree) (l : Location) : Option FileEntry :=
  if l = [] then some .directory else (t.entries.find? fun e => e.1 = l).map (·.2)

/-- Puts an entry at a location, in place of what stood there. -/
def put (t : FileTree) (l : Location) (e : FileEntry) : FileTree :=
  ⟨t.entries.filter (fun f => f.1 ≠ l) ++ [(l, e)]⟩

/-- Takes away what stands at a location. -/
def remove (t : FileTree) (l : Location) : FileTree := ⟨t.entries.filter fun f => f.1 ≠ l⟩

/-- Takes away a location and all below it. -/
def removeAll (t : FileTree) (l : Location) : FileTree :=
  ⟨t.entries.filter fun f => !l.isPrefixOf f.1⟩

/-- The longest name that a directory takes, in bytes. -/
def maxNameBytes : Nat := 255

/-- The number of bytes from which on a path is too long. -/
def pathBytesLimit : Nat := 4096

/-- Walks names from a location on. What stands at the end, if anything, is not looked at. -/
def walk (t : FileTree) : Location → List String → Except Refusal Location
  | l, [] => .ok l
  | l, n :: rest =>
    match t.lookup l with
    | none => .error .noSuchFile
    | some (.file _) => .error .notADirectory
    | some .directory =>
      if n = ".." then walk t l.dropLast rest
      else if maxNameBytes < n.utf8ByteSize then .error .nameTooLong
      else walk t (l ++ [n]) rest

/-- The location that a path leads to from the current directory. -/
def locate (t : FileTree) (cwd : Location) (p : Path) : Except Refusal Location :=
  if pathBytesLimit ≤ p.text.utf8ByteSize then .error .nameTooLong
  else t.walk (if p.isAbsolute then [] else cwd) p.names

/-- What a path leads to. -/
def status (t : FileTree) (cwd : Location) (p : Path) : Except Refusal FileEntry := do
  let l ← t.locate cwd p
  match t.lookup l with
  | some e => .ok e
  | none => .error .noSuchFile

/-- Makes one directory. -/
def makeDir (t : FileTree) (cwd : Location) (p : Path) : Except Refusal FileTree := do
  let l ← t.locate cwd p
  match t.lookup l with
  | some _ => .error .fileExists
  | none => .ok (t.put l .directory)

/-- The bytes of the file at a path. -/
def readFile (t : FileTree) (cwd : Location) (p : Path) : Except Refusal ByteArray := do
  match ← t.status cwd p with
  | .file b => .ok b
  | .directory => .error .isADirectory

/-- Writes the file at a path, in place of a file that stood there. -/
def writeFile (t : FileTree) (cwd : Location) (p : Path) (content : ByteArray) :
    Except Refusal FileTree := do
  let l ← t.locate cwd p
  match t.lookup l with
  | some .directory => .error .isADirectory
  | _ => .ok (t.put l (.file content))

/-- Removes the file at a path. -/
def removeFile (t : FileTree) (cwd : Location) (p : Path) : Except Refusal FileTree := do
  let l ← t.locate cwd p
  match t.lookup l with
  | none => .error .noSuchFile
  | some .directory => .error .isADirectory
  | some (.file _) => .ok (t.remove l)

/-- The path does not end in the name of what it leads to, so that this cannot get another name. -/
def isFixed (p : Path) : Bool := p.names.isEmpty || p.name == ".."

/-- Moves the file at one path to another, in place of a file that stood there. -/
def moveFile (t : FileTree) (cwd : Location) (p q : Path) : Except Refusal FileTree := do
  let l ← t.locate cwd p
  let m ← t.locate cwd q
  if isFixed p || isFixed q then throw .busy
  match t.lookup l, t.lookup m with
  | none, _ => .error .noSuchFile
  | some (.file _), some .directory => .error .isADirectory
  | some .directory, _ => .error .isADirectory
  | some (.file b), _ => .ok ((t.remove l).put m (.file b))

/-- Both paths lead to the same thing. -/
def sameFile (t : FileTree) (cwd : Location) (p q : Path) : Bool :=
  match t.status cwd p, t.status cwd q with
  | .ok _, .ok _ =>
    match t.locate cwd p, t.locate cwd q with
    | .ok l, .ok m => l = m
    | _, _ => false
  | _, _ => false

/-- The location that a path means if every name before a double dot is a directory. -/
def normalize (cwd : Location) (p : Path) : Location :=
  p.names.foldl (fun l n => if n = ".." then l.dropLast else l ++ [n])
    (if p.isAbsolute then [] else cwd)

/-! ## Lemmas -/

theorem lookup_put_self (t : FileTree) (l : Location) (e : FileEntry) (h : l ≠ []) :
    (t.put l e).lookup l = some e := by
  simp only [lookup, h, if_false, put, List.find?_append]
  have hnone : (t.entries.filter fun f => f.1 ≠ l).find? (fun e => e.1 = l) = none := by
    rw [List.find?_eq_none]
    intro x hx
    simpa using (List.mem_filter.1 hx).2
  rw [hnone]
  simp

theorem lookup_put_ne (t : FileTree) (l m : Location) (e : FileEntry) (h : m ≠ l) :
    (t.put l e).lookup m = t.lookup m := by
  unfold lookup
  split
  · rfl
  · congr 1
    simp only [put, List.find?_append]
    have h1 : ([(l, e)] : List (Location × FileEntry)).find? (fun e => e.1 = m) = none := by
      simp [Ne.symm h]
    rw [h1, Option.or_none, List.find?_filter]
    congr 1
    funext x
    by_cases hx : x.1 = m
    · simp [hx, h]
    · simp [hx]

theorem lookup_remove_self (t : FileTree) (l : Location) (h : l ≠ []) :
    (t.remove l).lookup l = none := by
  simp only [lookup, h, if_false, remove, Option.map_eq_none_iff, List.find?_eq_none]
  intro x hx
  simpa using (List.mem_filter.1 hx).2

theorem lookup_remove_ne (t : FileTree) (l m : Location) (h : m ≠ l) :
    (t.remove l).lookup m = t.lookup m := by
  unfold lookup
  split
  · rfl
  · congr 1
    simp only [remove, List.find?_filter]
    congr 1
    funext x
    by_cases hx : x.1 = m
    · simp [hx, h]
    · simp [hx]

end FileTree

end TopologySubmission
