import FormMigrate.Rule
import FormMigrate.Text.Quoted

/-! Focus tokens and the registry of rules they select from. -/

namespace FormMigrate

/-- The tokens, in increasing order, and the rule that each one selects. Two constructs that one
rule handles have a token each.
-/
def focusTokens : List (Bytes × Bytes) := [
  ("BUTTONS", "label_button"),
  ("CHECKBOX", "checkbox_radio"),
  ("CLOSE", "open_close"),
  ("INPUTS", "inputs"),
  ("LABELS", "label_button"),
  ("MODEL", "model_token"),
  ("OPEN", "open_close"),
  ("RADIO", "checkbox_radio"),
  ("SELECTS", "select"),
  ("TOKEN", "model_token")]

/-- A token that selects no rule. -/
structure UnknownFocus where
  token : Bytes
  deriving DecidableEq, Repr

namespace Focus

/-- The accepted tokens in increasing order. -/
def tokens : List Bytes := focusTokens.map Prod.fst

/-- The rule that a token selects, whatever its case and the white space around it. -/
def ruleName? (token : Bytes) : Option Bytes := focusTokens.lookup (Bytes.upper (Bytes.trim token))

/-- The rules that tokens select, or the first token that selects none. -/
def ruleNames (focus : List Bytes) : Except UnknownFocus (List Bytes) :=
  focus.mapM fun token =>
    match ruleName? token with
    | some name => .ok name
    | none => .error ⟨token⟩

/-- Whether every token selects a rule, or the first one that does not. -/
def validate (focus : List Bytes) : Except UnknownFocus Unit := (ruleNames focus).map fun _ => ()

/-- The tokens of a comma-separated list in upper case, blank ones left out. -/
def parse (s : Bytes) : List Bytes :=
  (Bytes.split 0x2c s).filterMap fun part =>
    let token := Bytes.trim part
    if token.isEmpty then none else some (Bytes.upper token)

end Focus

/-- The wording of an unknown token. -/
def UnknownFocus.message (e : UnknownFocus) : Bytes :=
  "unknown focus token " ++ Quoted.text e.token ++ " (valid: " ++ Bytes.join ", " Focus.tokens
    ++ ")"

/-- The rules of a run in order, no two of one name. -/
structure Registry where
  rules : List Rule
  nodup : (rules.map Rule.name).Nodup

/-- A name under which a rule is registered already. -/
structure DuplicateRule where
  name : Bytes
  deriving DecidableEq, Repr

/-- The wording of a duplicate registration. -/
def DuplicateRule.message (e : DuplicateRule) : Bytes :=
  "rule with name '" ++ e.name ++ "' already registered"

namespace Registry

/-- The registry of the built-in rules. -/
def builtIn : Registry := ⟨Rule.builtIn, by decide +kernel⟩

/-- The names of the registered rules in order. -/
def names (registry : Registry) : List Bytes := registry.rules.map Rule.name

/-- Adds a rule at the end, unless its name is taken. -/
def register (registry : Registry) (rule : Rule) : Except DuplicateRule Registry :=
  if h : rule.name ∈ registry.names then .error ⟨rule.name⟩
  else
    .ok ⟨registry.rules ++ [rule], by
      rw [List.map_append, List.nodup_append]
      refine ⟨registry.nodup, by simp, ?_⟩
      intro a ha b hb
      rw [List.map_singleton, List.mem_singleton] at hb
      rintro rfl
      exact h (hb ▸ ha)⟩

/-- The rules that tokens select, in registration order; no tokens select every rule. -/
def select (registry : Registry) (focus : List Bytes) : Except UnknownFocus (List Rule) :=
  if focus.isEmpty then .ok registry.rules
  else do
    let wanted ← Focus.ruleNames focus
    return registry.rules.filter fun rule => wanted.contains rule.name

end Registry

end FormMigrate
