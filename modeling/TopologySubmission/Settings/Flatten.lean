import TopologySubmission.Failure.Basic
import TopologySubmission.Value.Entries
import TopologySubmission.Value.Quoted

/-!
# Nested settings made flat

A file may nest its settings. Each value gets the texts of the keys on its path, with dots between
them, as its key; an empty first key adds no dot. An empty mapping adds nothing. A key that is an
integer with too many digits has no text, and the settings are refused.
-/

namespace TopologySubmission.Settings

/-! ## Algorithm -/

/-- The key below an outer key; there is no dot after the empty text. -/
def pathKey (outer : String) (key : Value) : String :=
  if outer = "" then key.plain else outer ++ "." ++ key.plain

mutual

/-- The flat settings of one value under a key. -/
def flattenValue (key : String) : Value → Entries
  | .map es => flattenOnto key [] es
  | .readOnlyMap es => flattenOnto key [] es
  | v => [(.text key, v)]

/-- Adds the flat settings of entries below an outer key. -/
def flattenOnto (outer : String) (flat : Entries) : Entries → Entries
  | [] => flat
  | (k, v) :: es => flattenOnto outer (flat.merge (flattenValue (pathKey outer k) v)) es

end

/-- The flat settings of nested ones. -/
def flatten (es : Entries) : Entries := flattenOnto "" [] es

mutual

/-- The keys of the entries, and of the mappings among their values, have texts. -/
def keysWritable : Entries → Bool
  | [] => true
  | (k, v) :: es => k.isWritable && innerKeysWritable v && keysWritable es

def innerKeysWritable : Value → Bool
  | .map es => keysWritable es
  | .readOnlyMap es => keysWritable es
  | _ => true

end

/-- The flat settings of nested ones, if all keys have texts. -/
def flattenKeys (es : Entries) : Except Failure Entries :=
  if keysWritable es then .ok (flatten es) else .error (.badValue .tooLongForText)

end TopologySubmission.Settings
