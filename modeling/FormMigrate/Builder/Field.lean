import FormMigrate.Builder.Arguments

/-! Builders for single fields: inputs, labels, buttons, checkboxes and radios. -/

namespace FormMigrate.Builder

/-- The head of an input chain. Addresses have no method of their own. -/
def inputHead (keyword name : Bytes) : Bytes :=
  if keyword == Bytes.ofString "url" then "html()->input('url', " ++ name ++ ")"
  else "html()->" ++ keyword ++ "(" ++ name ++ ")"

/-- An input of name, value and attributes. -/
def textInput (site : CallSite) : Reply :=
  .accept (inputHead site.keyword (site.orElse 0 "''")
    ++ linkFor "value" (site.optional? 1) ++ linkFor "attributes" (site.attributes? 2))

/-- An input of name and attributes. -/
def plainInput (site : CallSite) : Reply :=
  .accept (inputHead site.keyword (site.orElse 0 "''") ++ linkFor "attributes" (site.attributes? 1))

/-- An input of name and value. -/
def hiddenInput (site : CallSite) : Reply :=
  .accept (inputHead site.keyword (site.orElse 0 "''") ++ linkFor "value" (site.optional? 1))

/-- A label of field name, text and attributes. -/
def label (site : CallSite) : Reply :=
  .accept ("html()->label()" ++ link "for" (site.orElse 0 "''")
    ++ linkFor "text" (site.optional? 1) ++ linkFor "attributes" (site.attributes? 2))

/-- A button of text and attributes, whose type is the keyword. -/
def button (site : CallSite) : Reply :=
  .accept ("html()->button(" ++ site.orElse 0 "'Submit'" ++ ")"
    ++ link "type" ("'" ++ site.keyword ++ "'") ++ linkFor "attributes" (site.attributes? 1))

/-- A checkbox or radio. The legacy order of name, value and checked becomes name, checked and
value.
-/
def toggle (defaultValue : Bytes) (site : CallSite) : Reply :=
  .accept ("html()->" ++ site.keyword ++ "(" ++ site.orElse 0 "''" ++ ", "
    ++ site.orElse 2 "false" ++ ", " ++ site.orElse 1 defaultValue ++ ")"
    ++ linkFor "attributes" (site.attributes? 3))

end FormMigrate.Builder
