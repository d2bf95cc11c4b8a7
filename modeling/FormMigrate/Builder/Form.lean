import FormMigrate.Builder.FormOptions
import FormMigrate.Literal.Reader

/-! Builders for whole forms: opening, closing, binding a model and the request token. -/

namespace FormMigrate.Builder

/-- A form without options. -/
def bareOpen : Bytes := "html()->form()->open()"

/-- The entries of an expression that is a static array. -/
def staticArray? (expr : Bytes) : Option Entries :=
  match Literal.evaluate expr with
  | .ok (.array entries) => some entries
  | _ => none

/-- Opening a form. A lone expression is its target; an array of options must be static. -/
def openForm (site : CallSite) : Reply :=
  if (Bytes.trim site.inner).isEmpty then .accept bareOpen
  else if looksLiteral site.inner then
    match site.args with
    | [arg] =>
        match staticArray? arg with
        | some entries =>
            let form := FormOptions.ofEntries entries
            .accept (if form.isBare then bareOpen else form.openCall "html()->form(")
        | none => .decline ⟨site.inner, "complex array literal (skipped)"⟩
    | _ => .decline ⟨site.inner, "complex array literal (skipped)"⟩
  else
    match site.args with
    | [arg] => .accept ("html()->form('POST', " ++ arg ++ ")->open()")
    | _ => .decline ⟨site.inner, "unknown Form::open args (skipped)"⟩

/-- Closing a form, which takes no arguments. -/
def closeForm (site : CallSite) : Reply :=
  if site.args.isEmpty then .accept "html()->form()->close()"
  else .decline ⟨site.inner, "Form::close() with arguments (skipped)"⟩

/-- Opening a form bound to a model. Its options must be static, because a chain that binds the
model without opening the form would be worse than none.
-/
def modelForm (site : CallSite) : Reply :=
  let model := site.orElse 0 "$model"
  let bare : Bytes := "html()->modelForm(" ++ model ++ ")->open()"
  match site.attributes? 1 with
  | none => .accept bare
  | some options =>
      if looksLiteral options then
        match staticArray? options with
        | some entries =>
            let form := FormOptions.ofEntries entries
            .accept (if form.isBare then bare
              else form.openCall ("html()->modelForm(" ++ model ++ ", "))
        | none => .decline ⟨options, "complex model() options - skipped form open"⟩
      else .decline ⟨options, "dynamic model() options (skipped)"⟩

/-- The request token, which takes no arguments. -/
def token (site : CallSite) : Reply :=
  if site.args.isEmpty then .accept "csrf_field()"
  else .decline ⟨site.inner, "Form::token() with arguments (skipped)"⟩

end FormMigrate.Builder
