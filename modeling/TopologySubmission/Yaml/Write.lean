import TopologySubmission.Yaml.WrittenScalar

/-!
# Writing YAML

A document is written as blocks: one line for each entry of a mapping and each item of a row, two
columns further in for what lies inside. The items of a row that is the value of a key stand in the
column of the key. Empty rows and mappings are written in brackets. What appears in several places
is named where it is written first, and only its name is written after that; names are given in the
order in which the second places come.
-/

namespace TopologySubmission.Yaml

/-! ## Algorithm -/

/-- A document to be written. -/
inductive Block where
  | scalar (s : Scalar)
  | row (items : List Block)
  | fields (tag : Tag) (entries : List (Block × Block))
  /-- What has the same number in several places is one thing. -/
  | shared (number : Nat) (b : Block)
  deriving Repr, Inhabited

namespace Block

/-- A text as a document. -/
def ofText (s : String) : Block := .scalar ⟨.str, s.toList⟩

mutual

/-- The document of a value. -/
def ofValue : Value → Block
  | .list xs => .row (ofValues xs)
  | .tuple xs => .row (ofValues xs)
  | .map es => .fields .map (ofEntries es)
  | .readOnlyMap es => .fields .map (ofEntries es)
  | .set xs => .fields .set (ofMembers xs)
  | v => .scalar (Scalar.ofValue v)

/-- The documents of the values of a row. -/
def ofValues : List Value → List Block
  | [] => []
  | x :: xs => ofValue x :: ofValues xs

/-- The documents of the entries of a mapping. -/
def ofEntries : Entries → List (Block × Block)
  | [] => []
  | (k, v) :: es => (ofValue k, ofValue v) :: ofEntries es

/-- The members of a set as keys without values. -/
def ofMembers : List Value → List (Block × Block)
  | [] => []
  | x :: xs => (ofValue x, .scalar (Scalar.ofValue .null)) :: ofMembers xs

end

/-! ### Names -/

mutual

/-- The numbers of shared parts in the order in which they come. -/
def sharedNumbers : Block → List Nat
  | .scalar _ => []
  | .row items => sharedInItems items
  | .fields _ es => sharedInEntries es
  | .shared n b => n :: sharedNumbers b

def sharedInItems : List Block → List Nat
  | [] => []
  | b :: bs => sharedNumbers b ++ sharedInItems bs

def sharedInEntries : List (Block × Block) → List Nat
  | [] => []
  | (k, v) :: es => sharedNumbers k ++ sharedNumbers v ++ sharedInEntries es

end

/-- The numbers that come again, in the order in which they do, after the numbers `seen`. -/
def repeated (seen found : List Nat) : List Nat → List Nat
  | [] => found
  | n :: ns =>
    if seen.contains n then repeated seen (if found.contains n then found else found ++ [n]) ns
    else repeated (n :: seen) found ns

/-- The name of a shared part by its place among the names. -/
def nameAt (place : Nat) : String := "id" ++ String.ofList (padded (Nat.toDigits 10 (place + 1)))
where
  /-- At least three digits. -/
  padded (digits : List Char) : List Char := List.replicate (3 - digits.length) '0' ++ digits

/-! ### Lines -/

/-- A page, and the shared parts that are on it. -/
structure Sheet where
  page : Page := {}
  seen : List Nat := []

/-- Where a part is written: behind a key, or behind a mark, where a collection may begin in the same
line. -/
inductive Spot where
  | afterKey
  | afterMark
  deriving DecidableEq

/-- Writes a word behind what is in the line. -/
def Sheet.word (s : Sheet) (w : String) : Sheet :=
  if w = "" then s else { s with page := (s.page.put " ").put w }

/-- Changes the page. -/
def Sheet.onPage (s : Sheet) (f : Page → Page) : Sheet := { s with page := f s.page }

/-- Goes to the column of an item, in the same line if `inside`. -/
def Sheet.toColumn (s : Sheet) (inside : Bool) (column : Nat) : Sheet :=
  s.onPage fun p => if inside then p.padTo column else p.freshLine column

/-- The most characters of a key that is written in one line with its value. -/
def keyLimit : Nat := 128

/-- The key is written in one line with its value. -/
def isShortKey : Block → Bool
  | .scalar s =>
    !s.text.isEmpty && !Scalar.isMultiline s.text &&
      (Scalar.tagText s.tag).length + s.text.length < keyLimit
  | .row items => items.isEmpty
  | .fields _ es => es.isEmpty
  | .shared _ _ => false

/-- The tag that is written in front of a scalar. -/
def scalarTag (s : Scalar) : String := if s.showsTag then Scalar.tagText s.tag else ""

/-- The tag that is written in front of a mapping. -/
def fieldsTag (t : Tag) : String := if t = .map then "" else Scalar.tagText t

mutual

/-- Writes a part behind a key or a mark. The collection around it stands in the column `column`,
`names` are the shared parts that have a name, and `mark` gives the name of this part. -/
def put (names : List Nat) (column : Nat) (spot : Spot) (mark : String) :
    Block → Sheet → Sheet
  | .scalar s, sheet =>
    ((sheet.word mark).word (scalarTag s)).onPage fun p => s.put (column + 2) true (p.put " ")
  | .row items, sheet =>
    let sheet := sheet.word mark
    if items.isEmpty then sheet.word "[]"
    else if spot = .afterKey then putItems names column false items sheet
    else putItems names (column + 2) (mark = "") items sheet
  | .fields tag es, sheet =>
    let sheet := (sheet.word mark).word (fieldsTag tag)
    if es.isEmpty then sheet.word "\x7b\x7d"
    else
      putEntries names (column + 2) (spot = .afterMark && mark = "" && fieldsTag tag = "") es
        sheet
  | .shared n b, sheet =>
    match names.findIdx? (· == n) with
    | none => put names column spot mark b sheet
    | some i =>
      if sheet.seen.contains n then sheet.word ("*" ++ nameAt i)
      else put names column spot ("&" ++ nameAt i) b { sheet with seen := n :: sheet.seen }

/-- Writes the items of a row in a column, the first one in the same line if `inside`. -/
def putItems (names : List Nat) (column : Nat) (inside : Bool) : List Block → Sheet → Sheet
  | [], sheet => sheet
  | b :: bs, sheet =>
    let sheet := (sheet.toColumn inside column).onPage (·.put "-")
    putItems names column false bs (put names column .afterMark "" b sheet)

/-- Writes the entries of a mapping in a column, the first one in the same line if `inside`. -/
def putEntries (names : List Nat) (column : Nat) (inside : Bool) :
    List (Block × Block) → Sheet → Sheet
  | [], sheet => sheet
  | (k, v) :: es, sheet =>
    let sheet := sheet.toColumn inside column
    let sheet :=
      if isShortKey k then
        put names column .afterKey "" v ((putShortKey k sheet).onPage (·.put ":"))
      else
        let sheet := put names column .afterMark "" k (sheet.onPage (·.put "?"))
        put names column .afterMark "" v ((sheet.toColumn false column).onPage (·.put ":"))
    putEntries names column false es sheet

/-- Writes a key in one line. -/
def putShortKey : Block → Sheet → Sheet
  | .scalar s, sheet =>
    let sheet := if s.showsTag then sheet.onPage (·.put (Scalar.tagText s.tag ++ " ")) else sheet
    sheet.onPage fun p => s.put 0 false p
  | .row _, sheet => sheet.onPage (·.put "[]")
  | .fields _ _, sheet => sheet.onPage (·.put "\x7b\x7d")
  | .shared _ b, sheet => putShortKey b sheet

end

/-- The text of a mapping as a document. -/
def document (entries : List (Block × Block)) : String :=
  let names := repeated [] [] (sharedInEntries entries)
  let page := (putEntries names 0 true entries {}).page
  if page.column = 0 then page.text else page.endLine.text

/-! ## Lemmas -/

/-- A part that comes once needs no name. -/
theorem repeated_of_nodup (seen found ns : List Nat) (h : ns.Nodup)
    (hs : ∀ n ∈ ns, n ∉ seen) : repeated seen found ns = found := by
  induction ns generalizing seen with
  | nil => rfl
  | cons n ns ih =>
    have hn : seen.contains n = false := by simpa using hs n List.mem_cons_self
    simp only [repeated, hn]
    refine ih (n :: seen) (List.nodup_cons.1 h).2 fun m hm => ?_
    simp only [List.mem_cons, not_or]
    exact ⟨fun e => (List.nodup_cons.1 h).1 (e ▸ hm), hs m (List.mem_cons_of_mem _ hm)⟩

end Block

end TopologySubmission.Yaml
