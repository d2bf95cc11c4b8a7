import FormMigrate.Builder.Field
import FormMigrate.Builder.Form
import FormMigrate.Builder.Select

/-! Conversion rules: families of keywords that are converted together. -/

namespace FormMigrate

/-- A named list of keyword passes. -/
structure Rule where
  name : Bytes
  passes : List Pass

namespace Rule

/-- Opening and closing forms. -/
def openClose : Rule where
  name := "open_close"
  passes := [⟨"open", Builder.openForm⟩, ⟨"close", Builder.closeForm⟩]

/-- Keywords of inputs that take name, value and attributes. -/
def textKeywords : List Bytes :=
  ["text", "email", "textarea", "number", "tel", "date", "time", "url"]

/-- Single-field inputs. -/
def inputs : Rule where
  name := "inputs"
  passes :=
    textKeywords.map (⟨·, Builder.textInput⟩)
      ++ [⟨"password", Builder.plainInput⟩, ⟨"file", Builder.plainInput⟩,
        ⟨"hidden", Builder.hiddenInput⟩]

/-- Labels and buttons. -/
def labelButton : Rule where
  name := "label_button"
  passes :=
    [⟨"label", Builder.label⟩, ⟨"submit", Builder.button⟩, ⟨"button", Builder.button⟩]

/-- Checkboxes and radios. -/
def checkboxRadio : Rule where
  name := "checkbox_radio"
  passes := [⟨"checkbox", Builder.toggle "'1'"⟩, ⟨"radio", Builder.toggle "null"⟩]

/-- Select fields. -/
def select : Rule where
  name := "select"
  passes := [⟨"select", Builder.select⟩]

/-- Model-bound forms and the request token. -/
def modelToken : Rule where
  name := "model_token"
  passes := [⟨"model", Builder.modelForm⟩, ⟨"token", Builder.token⟩]

/-- The built-in rules in the order in which they run. -/
def builtIn : List Rule := [openClose, inputs, labelButton, checkboxRadio, select, modelToken]

/-- A text and the records made on the way to it. -/
structure Converted where
  text : Bytes
  records : List Record := []
  deriving DecidableEq, Repr

/-- One more pass over a text. -/
def Converted.step (file : Bytes) (state : Converted) (pass : Pass) : Converted :=
  let sweep := pass.sweep file state.text
  ⟨sweep.text, state.records ++ sweep.records⟩

/-- The passes of a rule one after another. -/
def convert (rule : Rule) (file src : Bytes) : Converted :=
  rule.passes.foldl (Converted.step file) ⟨src, []⟩

/-- Rules one after another, with all their records. -/
def convertAll (rules : List Rule) (file src : Bytes) : Converted :=
  rules.foldl
    (fun state rule =>
      let next := rule.convert file state.text
      ⟨next.text, state.records ++ next.records⟩)
    ⟨src, []⟩

end Rule

end FormMigrate
