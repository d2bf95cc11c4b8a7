import FormMigrate.Builder.Arguments
import FormMigrate.Literal.Printer
import FormMigrate.Literal.Reader

/-! The builder for select fields. Static options are written out one by one; any other options
are mapped when the page is rendered.
-/

namespace FormMigrate.Builder

/-- The attribute of the option that is selected. -/
def selectedLink : Bytes := link "attributes" "['selected' => 'selected']"

/-- One option. -/
def option (selected : Bool) (key : Key) (label : Value) : Bytes :=
  "html()->option(" ++ label.code ++ ", " ++ key.code ++ ")"
    ++ (if selected then selectedLink else [])

/-- An argument without the quotes at its two ends. -/
def unquote (arg : Bytes) : Bytes :=
  Bytes.trimBack QuoteState.isDelimiter (Bytes.trimFront QuoteState.isDelimiter arg)

/-- Whether an option's key is the one an argument selects. -/
def isSelected (selected : Option Bytes) (key : Key) : Bool :=
  selected.any fun arg => key.plain == unquote arg

/-- The options as an array literal, in order. -/
def options (selected : Option Bytes) (entries : Entries) : Bytes :=
  let parts := entries.map fun (key, label) => option (isSelected selected key) key label
  "[" ++ Bytes.join ", " parts ++ "]"

/-- Whether some option is itself an array and so stands for a group. -/
def hasGroups (entries : Entries) : Bool :=
  entries.any fun
    | (_, .array _) => true
    | _ => false

/-- The options as entries that can be written out, or the remark on why they cannot. -/
def staticOptions (expr : Bytes) : Except (Option Note) Entries :=
  if looksLiteral expr then
    match Literal.evaluate expr with
    | .error _ =>
        .error (some ⟨expr, "complex options array (skipped inline) - using collect() fallback"⟩)
    | .ok (.array entries) =>
        if hasGroups entries then
          .error (some ⟨expr, "nested option groups (skipped inline) - using collect() fallback"⟩)
        else .ok entries
    | .ok _ =>
        .error (some ⟨expr, "nested option groups (skipped inline) - using collect() fallback"⟩)
  else .error none

/-- Options that are mapped when the page is rendered. -/
def collected (expr : Bytes) : Bytes :=
  "collect(" ++ expr
    ++ ")->map(function($label, $value)\x7b return html()->option($label, $value); \x7d)->all()"

/-- A select field of name, options, selected key and attributes. -/
def select (site : CallSite) : Reply :=
  let head : Bytes := "html()->select(" ++ site.orElse 0 "''" ++ ")"
  let expr := site.orElse 1 "[]"
  let selected := site.optional? 2
  let attributes := linkFor "attributes" (site.attributes? 3)
  match staticOptions expr with
  | .ok entries => .accept (head ++ link "children" (options selected entries) ++ attributes)
  | .error note =>
      ⟨some
        (head ++ link "children" (collected expr) ++ linkFor "value" selected ++ attributes),
        note.toList⟩

end FormMigrate.Builder
