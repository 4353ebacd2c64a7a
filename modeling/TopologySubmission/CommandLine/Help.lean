import TopologySubmission.CommandLine.Options

/-!
# The help text and the usage

The help text shows the usage, what the program is for, and a table of the parameters: their names in
the first column and what they mean in the second one, broken into lines between words.

    a line is no longer than it may be, or is a single word      (length_le_or_of_mem_linesFrom)
-/

namespace TopologySubmission.CommandLine

/-! ## Algorithm -/

/-- The version of the program. -/
def version : String := "0.1.0"

/-- The name of the program. -/
def programName : String := "heron-submit"

/-- The name of the program when its package is run as a module. -/
def moduleName : String := "python -m heron_submit"

/-- The usage of a program. -/
def usage (program : String) : String := "Usage: " ++ program ++ " [OPTIONS]"

/-- A word, and the blanks in front of it. -/
structure SpacedWord where
  gap : Nat
  text : String

/-- Puts words behind a line, and begins a new one where it would become too long. -/
def linesFrom (width : Nat) (line : String) : List SpacedWord → List String
  | [] => [line]
  | w :: ws =>
    if line.length + w.gap + w.text.length ≤ width then
      linesFrom width (line ++ String.ofList (List.replicate w.gap ' ') ++ w.text) ws
    else line :: linesFrom width w.text ws

/-- The words of a text, which one blank separates. -/
def spacedWords (s : String) : List SpacedWord :=
  (s.toList.splitOn ' ').map fun w => ⟨1, String.ofList w⟩

/-- The words of the meaning of a parameter. -/
def meaningWords (p : Parameter) : List SpacedWord :=
  spacedWords p.description ++ if p.isRequired then [⟨2, "[required]"⟩] else []

/-- The lines of words. -/
def linesOf (width : Nat) : List SpacedWord → List String
  | [] => []
  | w :: ws => linesFrom width w.text ws

/-- The names of a parameter in the table. -/
def tableName (p : Parameter) : String :=
  ", ".intercalate (p.shortText?.toList ++ [p.longName]) ++
    ((p.valueName?.map fun n => " " ++ n).getD "")

/-- The columns of a page. -/
def pageWidth : Nat := 80

/-- The columns in front of the text of the page. -/
def indent : Nat := 2

/-- Where the second column of the table begins, and the blanks in front of it. -/
def meaningColumn : Nat := 34
def columnGap : Nat := 2

/-- A row of blanks. -/
def blanks (n : Nat) : String := String.ofList (List.replicate n ' ')

/-- The rows of the table for a parameter. Names that are too long have a row of their own. -/
def tableRows (p : Parameter) : List String :=
  let name := blanks indent ++ tableName p
  match linesOf (pageWidth - meaningColumn) (meaningWords p) with
  | [] => [name]
  | l :: ls =>
    let others := ls.map (blanks meaningColumn ++ ·)
    if name.length + columnGap ≤ meaningColumn then
      (name ++ blanks (meaningColumn - name.length) ++ l) :: others
    else name :: (blanks meaningColumn ++ l) :: others

/-- What the program is for. -/
def purpose : List String :=
  ["Upload a topology package and launch the topology on a cluster.", "",
    "If the upload or the launch fails, both are rolled back."]

/-- The help text of a program. -/
def helpText (program : String) : String :=
  let lines := [usage program, ""] ++
    purpose.map (fun l => if l = "" then "" else blanks indent ++ l) ++
    ["", "Options:"] ++ Parameter.all.flatMap tableRows
  "\n".intercalate lines ++ "\n"

/-- What `--version` shows. -/
def versionText : String := programName ++ ", version " ++ version ++ "\n"

/-- What is shown for a command line that cannot be used. -/
def UsageError.text (program : String) (e : UsageError) : String :=
  (if e.showsUsage then
    usage program ++ "\nTry '" ++ program ++ " -h' for help.\n\n"
  else "") ++ "Error: " ++ e.message ++ "\n"

/-! ## Lemmas -/

/-- A line is no longer than it may be, or is the line or a word that was put there. -/
theorem length_le_or_of_mem_linesFrom (width : Nat) (line : String) (ws : List SpacedWord)
    (l : String) (h : l ∈ linesFrom width line ws) :
    l.length ≤ width ∨ l = line ∨ ∃ w ∈ ws, l = w.text := by
  induction ws generalizing line with
  | nil => exact .inr (.inl (by simpa [linesFrom] using h))
  | cons w ws ih =>
    rw [linesFrom] at h
    split at h
    · next hfit =>
      rcases ih _ h with hl | rfl | ⟨v, hv, rfl⟩
      · exact .inl hl
      · left
        simpa [String.length_append, String.length_ofList] using hfit
      · exact .inr (.inr ⟨v, List.mem_cons_of_mem _ hv, rfl⟩)
    · rcases List.mem_cons.1 h with rfl | h
      · exact .inr (.inl rfl)
      · rcases ih _ h with hl | rfl | ⟨v, hv, rfl⟩
        · exact .inl hl
        · exact .inr (.inr ⟨w, List.mem_cons_self, rfl⟩)
        · exact .inr (.inr ⟨v, List.mem_cons_of_mem _ hv, rfl⟩)

end TopologySubmission.CommandLine
