import TopologySubmission.Site.Basic

/-!
# Working with the files of a site

Each act works on the tree of the site and fails with the words of the operating system when the
tree refuses. A path with the character zero is no path at all. A question about a path is answered
no when a part of the path is missing or is no directory.

    makeDirs makes what is missing on the way and keeps what is there
-/

namespace TopologySubmission.Site

/-! ## Algorithm -/

/-- The failure of an operation on a path. -/
def refusal (p : Path) (why : Refusal) : Failure := .system (.refused why p.text)

/-- The result of an operation on a path that the tree may refuse. -/
def orRefuse {α : Type} (p : Path) : Except Refusal α → Act Site α
  | .ok a => pure a
  | .error why => Act.fail (refusal p why)

/-- A path that the file system takes. -/
def checkPath (p : Path) : Act Site Unit :=
  if p.hasNul then Act.fail (.badValue .nulInPath) else pure ()

/-- Replaces the tree. -/
def setTree (t : FileTree) : Act Site Unit := Act.change fun s => { s with tree := t }

/-- What a path leads to, if anything. -/
def find? (p : Path) : Act Site (Option FileEntry) := do
  let s ← Act.world
  if p.hasNul then return none
  match s.tree.status s.cwd p with
  | .ok e => return some e
  | .error .noSuchFile => return none
  | .error .notADirectory => return none
  | .error why => Act.fail (refusal p why)

/-- Something is at the path. -/
def exists? (p : Path) : Act Site Bool := return (← find? p).isSome

/-- A directory is at the path. -/
def isDir? (p : Path) : Act Site Bool := return (← find? p) == some .directory

/-- A file is at the path. -/
def isFile? (p : Path) : Act Site Bool := do
  match ← find? p with
  | some (.file _) => return true
  | _ => return false

/-- Makes one directory and answers a refusal as a value. -/
def tryMakeDir (p : Path) : Act Site (Except Refusal Unit) := do
  checkPath p
  let s ← Act.world
  match s.tree.makeDir s.cwd p with
  | .ok t => setTree t; return .ok ()
  | .error why => return .error why

/-- A refusal to make a directory does not matter if one is there. -/
def acceptDir (p : Path) (why : Refusal) : Act Site Unit := do
  if ← isDir? p then pure () else Act.fail (refusal p why)

/-- Makes the directory at a path whose first `n` names may need to be made. -/
def makeDirsUpTo (p : Path) : Nat → Act Site Unit
  | 0 => do
    match ← tryMakeDir p with
    | .ok () => pure ()
    | .error .noSuchFile => Act.fail (refusal p .noSuchFile)
    | .error why => acceptDir p why
  | n + 1 => do
    match ← tryMakeDir p with
    | .ok () => pure ()
    | .error .noSuchFile =>
      makeDirsUpTo p.parent n
      match ← tryMakeDir p with
      | .ok () => pure ()
      | .error .noSuchFile => Act.fail (refusal p .noSuchFile)
      | .error why => acceptDir p why
    | .error why => acceptDir p why

/-- Makes the directory at a path and every one above it that is missing. -/
def makeDirs (p : Path) : Act Site Unit := makeDirsUpTo p p.names.length

/-- The bytes of the file at a path. -/
def readBytes (p : Path) : Act Site ByteArray := do
  checkPath p
  let s ← Act.world
  orRefuse p (s.tree.readFile s.cwd p)

/-- Line ends of every kind become line feeds. -/
def unifyLineEnds : List Char → List Char
  | '\r' :: '\n' :: r => '\n' :: unifyLineEnds r
  | '\r' :: r => '\n' :: unifyLineEnds r
  | c :: r => c :: unifyLineEnds r
  | [] => []

/-- The text that the bytes of a file write. -/
def decode (b : ByteArray) : Except Failure String :=
  match String.fromUTF8? b with
  | some s => .ok (String.ofList (unifyLineEnds s.toList))
  | none => .error .undecodable

/-- The text of the file at a path. -/
def readText (p : Path) : Act Site String := do Act.ofExcept (decode (← readBytes p))

/-- Writes bytes to the file at a path. -/
def writeBytes (p : Path) (content : ByteArray) : Act Site Unit := do
  checkPath p
  let s ← Act.world
  setTree (← orRefuse p (s.tree.writeFile s.cwd p content))

/-- Writes a text to the file at a path. -/
def writeText (p : Path) (text : String) : Act Site Unit := writeBytes p text.toUTF8

/-- Removes the file at a path; a missing one is as good as removed. -/
def removeIfThere (p : Path) : Act Site Unit := do
  checkPath p
  let s ← Act.world
  match s.tree.removeFile s.cwd p with
  | .ok t => setTree t
  | .error .noSuchFile => pure ()
  | .error why => Act.fail (refusal p why)

/-- Moves a file over whatever file is at the target. -/
def move (p q : Path) : Act Site Unit := do
  checkPath p
  checkPath q
  let s ← Act.world
  match s.tree.moveFile s.cwd p q with
  | .ok t => setTree t
  | .error why => Act.fail (.system (.moveRefused why p.text q.text))

/-- Copies the bytes of one file to another. -/
def copyFile (p q : Path) : Act Site Unit := do
  let s ← Act.world
  if s.tree.sameFile s.cwd p q then Act.fail (.system (.sameFile p.text q.text))
  else writeBytes q (← readBytes p)

/-- The path with a leading tilde replaced. -/
def resolveHome (p : Path) : Act Site Path := do
  let s ← Act.world
  Act.ofExcept (s.expandHome p)

/-- The absolute text of a path without double dots. -/
def absoluteText (s : Site) (p : Path) : String :=
  "/" ++ "/".intercalate (FileTree.normalize s.cwd p)

/-! ## Lemmas -/

/-- A question about a path changes nothing. -/
theorem run_find?_tree (p : Path) (s : Scene Site) : (Act.run (find? p) s).2 = s := by
  simp only [find?, Act.run_bind, Act.run_world]
  split
  · rfl
  · split <;> rfl

end TopologySubmission.Site
