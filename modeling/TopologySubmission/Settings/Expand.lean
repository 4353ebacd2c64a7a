import TopologySubmission.Settings.Basic
import TopologySubmission.Settings.Template
import TopologySubmission.Value.Order

/-!
# Placeholders in settings

`expand` replaces the placeholders in the texts of settings. A name means a short word for a
well-known key if that key is set, else a key, else a variable of the environment. One pass replaces
every placeholder by the value of the pass before, so a chain of references shortens in each pass;
the passes end when one changes nothing. Settings that still hold a placeholder after the last pass
are refused. So is a reference to a value without a text, such as an integer with too many digits.

    expand keeps the keys and their order                    (keys_of_expand)
    no text of the result holds a placeholder                (no_placeholder_of_expand)
-/

namespace TopologySubmission.Settings

/-! ## Algorithm -/

/-- The variables of the environment: their values by their names. -/
abbrev Environment := Entries

/-- Variables whose values are texts. -/
def Environment.ofTexts (texts : List (String × String)) : Environment :=
  texts.map fun e => (.text e.1, .text e.2)

/-- The short words for well-known keys. -/
def shortNames : List (String × String) :=
  [("HERON_HOME", Key.home), ("HERON_CONF", Key.conf), ("HERON_BIN", Key.bin),
    ("HERON_LIB", Key.lib), ("CLUSTER", Key.cluster), ("ROLE", Key.role),
    ("ENVIRON", Key.environ), ("TOPOLOGY", Key.topologyName)]

/-- What a name means: the key of a short word, a key, or a variable of the environment. -/
def meaning? (values : Entries) (env : Environment) (name : String) : Option Value :=
  ((shortNames.lookup name).bind values.getText?) <|>
    (values.getText? name <|> Entries.getText? env name)

/-- The text that stands for a placeholder in the value of a key. -/
def replacement (key : Value) (values : Entries) (env : Environment) (name : String) :
    Except Failure String :=
  match meaning? values env name with
  | none =>
    .error (.configuration
      ("Config key '" ++ key.plain ++ "' references undefined variable $\x7b" ++ name ++ "\x7d"))
  | some .null =>
    .error (.configuration
      ("Config key '" ++ key.plain ++ "' references $\x7b" ++ name ++ "\x7d, which has no value"))
  | some v => v.asText

/-- The text that stands for a piece of a text. -/
def pieceText (key : Value) (values : Entries) (env : Environment) :
    Template.Piece → Except Failure (List Char)
  | .literal c => .ok [c]
  | .reference name => do return (← replacement key values env (String.ofList name)).toList

/-- The text of pieces that stand for other texts. -/
def piecesText (key : Value) (values : Entries) (env : Environment) :
    List Template.Piece → Except Failure (List Char)
  | [] => .ok []
  | p :: ps => do return (← pieceText key values env p) ++ (← piecesText key values env ps)

/-- Replaces every placeholder of a text once. -/
def substitute (key : Value) (values : Entries) (env : Environment) (text : String) :
    Except Failure String := do
  return String.ofList (← piecesText key values env (Template.pieces text.toList))

/-- Replaces the placeholders of one value; only texts have any. -/
def substituteValue (key : Value) (values : Entries) (env : Environment) :
    Value → Except Failure Value
  | .text s => do return .text (← substitute key values env s)
  | v => .ok v

/-- One pass over entries, with the values of the pass before. -/
def pass (values : Entries) (env : Environment) : Entries → Except Failure Entries
  | [] => .ok []
  | (k, v) :: es => do
    let w ← substituteValue k values env v
    return (k, w) :: (← pass values env es)

/-- The texts of two rows of entries agree, place by place. -/
def sameTexts : Entries → Entries → Bool
  | (_, .text s) :: es, (_, .text t) :: fs => s == t && sameTexts es fs
  | _ :: es, _ :: fs => sameTexts es fs
  | _, _ => true

/-- At most `n` passes, until one changes nothing. -/
def passes (env : Environment) : Nat → Entries → Except Failure Entries
  | 0, values => .ok values
  | n + 1, values => do
    let updated ← pass values env values
    if sameTexts updated values then return values else passes env n updated

/-- The value is a text with a placeholder. -/
def isUnresolved : Value → Bool
  | .text s => Template.hasPlaceholder s
  | _ => false

/-- The texts of keys, which must all be texts. -/
def keyTexts (index : Nat) : List Value → Except Failure (List String)
  | [] => .ok []
  | .text s :: ks => do return s :: (← keyTexts (index + 1) ks)
  | k :: _ => .error (.wrongKind (.notTextAt index k.kindName))

/-- The keys whose texts still hold a placeholder. -/
def unresolvedKeys (values : Entries) : List Value :=
  (values.filter fun e => isUnresolved e.2).map (·.1)

/-- The failure that lists unresolved keys in order. -/
def unresolvedFailure (bound : Int) (keys : List Value) : Failure :=
  match Value.sortByKey id keys >>= keyTexts 0 with
  | .ok texts =>
    .configuration ("Could not expand config within " ++ toString bound ++
      " passes (cyclic reference?): " ++ ", ".intercalate texts)
  | .error f => f

/-- No placeholder is left. -/
def checkResolved (bound : Int) (values : Entries) : Except Failure Unit :=
  if (unresolvedKeys values).isEmpty then .ok ()
  else .error (unresolvedFailure bound (unresolvedKeys values))

/-- The number of passes unless another one is given. -/
def defaultPasses : Int := 10

/-- Replaces all placeholders in at most `bound` passes. -/
def expand (s : Settings) (env : Environment) (bound : Int) : Except Failure Settings := do
  let values ← passes env bound.toNat s.entries
  checkResolved bound values
  return ⟨values⟩

/-! ## Lemmas -/

theorem keys_of_pass (values : Entries) (env : Environment) (es fs : Entries)
    (h : pass values env es = .ok fs) : fs.keys = es.keys := by
  induction es generalizing fs with
  | nil => simp only [pass, Except.ok.injEq] at h; subst h; rfl
  | cons e es ih =>
    obtain ⟨k, v⟩ := e
    simp only [pass] at h
    cases hw : substituteValue k values env v with
    | error f => rw [hw] at h; simp [bind, Except.bind] at h
    | ok w =>
      cases hp : pass values env es with
      | error f => rw [hw, hp] at h; simp [bind, Except.bind] at h
      | ok gs =>
        rw [hw, hp] at h
        simp only [bind, Except.bind, pure, Except.pure, Except.ok.injEq] at h
        subst h
        have := ih gs hp
        simp only [Entries.keys, List.map_cons] at this ⊢
        rw [this]

theorem keys_of_passes (env : Environment) (n : Nat) (es fs : Entries)
    (h : passes env n es = .ok fs) : fs.keys = es.keys := by
  induction n generalizing es with
  | zero => simp only [passes, Except.ok.injEq] at h; subst h; rfl
  | succ n ih =>
    simp only [passes] at h
    cases hp : pass es env es with
    | error f => rw [hp] at h; simp [bind, Except.bind] at h
    | ok gs =>
      rw [hp] at h
      simp only [bind, Except.bind] at h
      split at h
      · simp only [pure, Except.pure, Except.ok.injEq] at h; subst h; rfl
      · rw [ih gs h, keys_of_pass _ _ _ _ hp]

/-- A result of `expand` went through the passes and holds no placeholder. -/
theorem expand_eq_ok {s r : Settings} {env : Environment} {bound : Int}
    (h : s.expand env bound = .ok r) :
    passes env bound.toNat s.entries = .ok r.entries ∧ checkResolved bound r.entries = .ok () := by
  simp only [expand] at h
  cases hp : passes env bound.toNat s.entries with
  | error f => rw [hp] at h; simp [bind, Except.bind] at h
  | ok es =>
    cases hc : checkResolved bound es with
    | error f => rw [hp] at h; simp [bind, Except.bind, hc] at h
    | ok u =>
      rw [hp] at h
      simp only [bind, Except.bind, hc, pure, Except.pure, Except.ok.injEq] at h
      subst h
      exact ⟨rfl, hc⟩

theorem keys_of_expand {s r : Settings} {env : Environment} {bound : Int}
    (h : s.expand env bound = .ok r) : r.entries.keys = s.entries.keys :=
  keys_of_passes _ _ _ _ (expand_eq_ok h).1

theorem no_placeholder_of_checkResolved (bound : Int) (es : Entries)
    (h : checkResolved bound es = .ok ()) : ∀ e ∈ es, isUnresolved e.2 = false := by
  unfold checkResolved at h
  split at h
  · next hn =>
    simp only [unresolvedKeys, List.isEmpty_iff, List.map_eq_nil_iff, List.filter_eq_nil_iff,
      Bool.not_eq_true] at hn
    exact hn
  · simp at h

theorem no_placeholder_of_expand {s r : Settings} {env : Environment} {bound : Int}
    (h : s.expand env bound = .ok r) : ∀ e ∈ r.entries, isUnresolved e.2 = false :=
  no_placeholder_of_checkResolved _ _ (expand_eq_ok h).2

end TopologySubmission.Settings
