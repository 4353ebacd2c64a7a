/-!
# Paths

A path is what stands before its first name (nothing, one slash or two) and its names. Reading a
path drops empty names and single dots and keeps double dots; exactly two slashes in front stay
two, more become one. The empty path is shown as a single dot.

    ofText never yields an empty name or a dot       (names_ofText)
-/

namespace TopologySubmission

/-! ## Algorithm -/

/-- A path as written. -/
structure Path where
  root : String
  names : List String
  deriving DecidableEq, Repr, Inhabited

namespace Path

/-- Cuts a text at each slash. -/
def splitSlash (s : List Char) : List (List Char) := s.splitOn '/'

/-- A name that a path keeps. -/
def isName (name : String) : Bool := name != "" && name != "."

/-- What stands before the first name. -/
def rootOf (s : List Char) : String :=
  match (s.takeWhile (· == '/')).length with
  | 0 => ""
  | 2 => "//"
  | _ => "/"

/-- Reads a path. -/
def ofText (s : String) : Path :=
  { root := rootOf s.toList
    names := ((splitSlash s.toList).map String.ofList).filter isName }

/-- The path as a text. -/
def text (p : Path) : String :=
  if p.root = "" && p.names.isEmpty then "." else p.root ++ "/".intercalate p.names

def isAbsolute (p : Path) : Bool := p.root != ""

/-- The second path as seen from the first: an absolute one stands for itself. -/
def join (p q : Path) : Path :=
  if q.isAbsolute then q else { p with names := p.names ++ q.names }

/-- The path of a name, or of a path written as a text, below a path. -/
def child (p : Path) (s : String) : Path := p.join (ofText s)

/-- The last name, or nothing for a path without names. -/
def name (p : Path) : String := p.names.getLastD ""

/-- The path without its last name. -/
def parent (p : Path) : Path := { p with names := p.names.dropLast }

/-- The path with another last name. -/
def withName (p : Path) (name : String) : Path := { p with names := p.names.dropLast ++ [name] }

/-- The last name from its last dot on, unless that dot is its first or last character. -/
def suffix (p : Path) : String :=
  let cs := p.name.toList
  let tail := (cs.reverse.takeWhile (· != '.')).reverse
  let before := cs.length - tail.length
  if 1 < before && !tail.isEmpty then String.ofList ('.' :: tail) else ""

/-- The path holds the character zero, which no file system takes. -/
def hasNul (p : Path) : Bool := p.names.any fun n => n.toList.contains (Char.ofNat 0)

/-! ## Lemmas -/

/-- The names of a path that was read are neither empty nor a dot. -/
theorem names_ofText (s : String) : ∀ n ∈ (ofText s).names, n ≠ "" ∧ n ≠ "." := by
  intro n hn
  simp only [ofText, List.mem_filter] at hn
  simpa [isName] using hn.2

@[simp] theorem parent_withName (p : Path) (n : String) : (p.withName n).parent = p.parent := by
  simp [withName, parent]

@[simp] theorem name_withName (p : Path) (n : String) : (p.withName n).name = n := by
  simp [withName, name, List.getLastD_eq_getLast?]

end Path

end TopologySubmission
