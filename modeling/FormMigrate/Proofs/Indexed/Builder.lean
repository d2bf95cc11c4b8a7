import FormMigrate.Proofs.Indexed.Scan
import FormMigrate.Proofs.Indexed.Value
import FormMigrate.Proofs.Rule.LiteralArrays
import FormMigrate.Rule

/-! Builders that read their arguments by index, cut texts by offsets and take the entries of a
value that has to be an array.
-/

namespace FormMigrate.Indexed

--------------------------------------------------------------------------------
-- Arguments
--------------------------------------------------------------------------------

/-- A call with its arguments cut. -/
structure Site where
  keyword : Bytes
  inner : Bytes
  args : List Bytes

/-- A builder that may read out of range or take the entries of no array. -/
abbrev Build := Site → Option Reply

/-- An argument, unless it is missing, blank or null. -/
def optionalArg (args : List Bytes) (i : Nat) : Option (Option Bytes) := do
  if args.length ≤ i then return none
  else
    let v := Bytes.trim (← args[i]?)
    return if v.isEmpty || Bytes.sameFold v "null" then none else some v

/-- An argument, or a default for one that is missing, blank or null. -/
def argOr (args : List Bytes) (i : Nat) (default : Bytes) : Option Bytes := do
  return (← optionalArg args i).getD default

/-- An argument that holds attributes, unless it is missing, blank, null or an empty array. -/
def attributesArg (args : List Bytes) (i : Nat) : Option (Option Bytes) := do
  return (← optionalArg args i).filter fun v => !CallSite.isEmptyArray v

/-- Whether an expression starts like an array literal. -/
def looksLiteral (expr : Bytes) : Option Bool := do
  let s := Bytes.trim expr
  if (Bytes.ofString "[").isPrefixOf s then return true
  else if s.length < 5 then return false
  else if Bytes.sameFold (← slice s 0 5) "array" then
    return (Bytes.ofString "(").isPrefixOf (Bytes.trim (← slice s 5 s.length))
  else return false

/-- The entries of a value, which has to be an array. -/
def entriesOf : Value → Option Entries
  | .array entries => some entries
  | _ => none

--------------------------------------------------------------------------------
-- Builders
--------------------------------------------------------------------------------

/-- An input of name, value and attributes. -/
def textInput : Build := fun site => do
  return .accept (Builder.inputHead site.keyword (← argOr site.args 0 "''")
    ++ linkFor "value" (← optionalArg site.args 1)
    ++ linkFor "attributes" (← attributesArg site.args 2))

/-- An input of name and attributes. -/
def plainInput : Build := fun site => do
  return .accept (Builder.inputHead site.keyword (← argOr site.args 0 "''")
    ++ linkFor "attributes" (← attributesArg site.args 1))

/-- An input of name and value. -/
def hiddenInput : Build := fun site => do
  return .accept (Builder.inputHead site.keyword (← argOr site.args 0 "''")
    ++ linkFor "value" (← optionalArg site.args 1))

/-- A label of field name, text and attributes. -/
def label : Build := fun site => do
  return .accept ("html()->label()" ++ link "for" (← argOr site.args 0 "''")
    ++ linkFor "text" (← optionalArg site.args 1)
    ++ linkFor "attributes" (← attributesArg site.args 2))

/-- A button of text and attributes, whose type is the keyword. -/
def button : Build := fun site => do
  return .accept ("html()->button(" ++ (← argOr site.args 0 "'Submit'") ++ ")"
    ++ link "type" ("'" ++ site.keyword ++ "'")
    ++ linkFor "attributes" (← attributesArg site.args 1))

/-- A checkbox or radio of name, value and checked. -/
def toggle (defaultValue : Bytes) : Build := fun site => do
  let name ← argOr site.args 0 "''"
  let value ← argOr site.args 1 defaultValue
  let checked ← argOr site.args 2 "false"
  return .accept ("html()->" ++ site.keyword ++ "(" ++ name ++ ", " ++ checked ++ ", " ++ value
    ++ ")" ++ linkFor "attributes" (← attributesArg site.args 3))

/-- Opening a form, whose lone argument is its target or holds its options. -/
def openForm : Build := fun site => do
  let inner := Bytes.trim site.inner
  if inner.isEmpty then return .accept Builder.bareOpen
  else if ← looksLiteral inner then
    if site.args.length != 1 then
      return .decline ⟨site.inner, "complex array literal (skipped)"⟩
    else
      match ← evaluate (← site.args[0]?) with
      | .error _ => return .decline ⟨site.inner, "complex array literal (skipped)"⟩
      | .ok v =>
          let form := FormOptions.ofEntries (← entriesOf v)
          return .accept (if form.isBare then Builder.bareOpen else form.openCall "html()->form(")
  else if site.args.length == 1 then
    return .accept ("html()->form('POST', " ++ (← site.args[0]?) ++ ")->open()")
  else return .decline ⟨site.inner, "unknown Form::open args (skipped)"⟩

/-- Closing a form, which takes no arguments. -/
def closeForm : Build := fun site => do
  if site.args.isEmpty then return .accept "html()->form()->close()"
  else return .decline ⟨site.inner, "Form::close() with arguments (skipped)"⟩

/-- Opening a form bound to a model. -/
def modelForm : Build := fun site => do
  let model ← argOr site.args 0 "$model"
  let bare : Bytes := "html()->modelForm(" ++ model ++ ")->open()"
  match ← attributesArg site.args 1 with
  | none => return .accept bare
  | some options =>
      if ← looksLiteral options then
        match ← evaluate options with
        | .error _ => return .decline ⟨options, "complex model() options - skipped form open"⟩
        | .ok v =>
            let form := FormOptions.ofEntries (← entriesOf v)
            return .accept
              (if form.isBare then bare else form.openCall ("html()->modelForm(" ++ model ++ ", "))
      else return .decline ⟨options, "dynamic model() options (skipped)"⟩

/-- The request token, which takes no arguments. -/
def token : Build := fun site => do
  if site.args.isEmpty then return .accept "csrf_field()"
  else return .decline ⟨site.inner, "Form::token() with arguments (skipped)"⟩

/-- Whether a value holds groups of options, or no options at all. -/
def hasGroups : Value → Bool
  | .array entries => Builder.hasGroups entries
  | _ => true

/-- Options that can be written out, or the remark on why they cannot. -/
def staticOptions (expr : Bytes) : Option (Except (Option Note) Entries) := do
  if ← looksLiteral expr then
    match ← evaluate expr with
    | .error _ =>
        return .error
          (some ⟨expr, "complex options array (skipped inline) - using collect() fallback"⟩)
    | .ok v =>
        if hasGroups v then
          return .error
            (some ⟨expr, "nested option groups (skipped inline) - using collect() fallback"⟩)
        else return .ok (← entriesOf v)
  else return .error none

/-- A select field of name, options, selected key and attributes. -/
def select : Build := fun site => do
  let name ← argOr site.args 0 "''"
  let expr ← argOr site.args 1 "[]"
  let selected ← optionalArg site.args 2
  let head : Bytes := "html()->select(" ++ name ++ ")"
  match ← staticOptions expr with
  | .ok entries =>
      return .accept (head ++ link "children" (Builder.options selected entries)
        ++ linkFor "attributes" (← attributesArg site.args 3))
  | .error note =>
      return ⟨some
        (head ++ link "children" (Builder.collected expr) ++ linkFor "value" selected
          ++ linkFor "attributes" (← attributesArg site.args 3)),
        note.toList⟩

--------------------------------------------------------------------------------
-- Agreement
--------------------------------------------------------------------------------

/-- A call as builders that read by index get it. -/
def Site.of (site : CallSite) : Site := ⟨site.keyword, site.inner, site.args⟩

/-- A builder never reads out of range, and answers calls like another one. -/
def Build.Agrees (checked : Build) (build : CallSite → Reply) : Prop :=
  ∀ site, checked (.of site) = some (build site)

variable (site : CallSite)

theorem optionalArg_eq (i : Nat) : optionalArg site.args i = some (site.optional? i) := by
  rw [optionalArg, CallSite.optional?]
  by_cases missing : site.args.length ≤ i
  · rw [if_pos missing, List.getElem?_eq_none missing]
    rfl
  · rw [if_neg missing, List.getElem?_eq_getElem (Nat.lt_of_not_le missing)]
    rfl

theorem argOr_eq (i : Nat) (default : Bytes)
    : argOr site.args i default = some (site.orElse i default) := by
  rw [argOr, optionalArg_eq]
  rfl

theorem attributesArg_eq (i : Nat) : attributesArg site.args i = some (site.attributes? i) := by
  rw [attributesArg, optionalArg_eq]
  rfl

/-- What starts with a text up to case is long enough for it, with the same front up to case. -/
theorem startsWithFold_eq (opening s : Bytes)
    : Bytes.startsWithFold opening s
      = (decide (opening.length ≤ s.length) && Bytes.sameFold (s.take opening.length) opening) := by
  by_cases long : opening.length ≤ s.length
  · rw [decide_eq_true long, Bool.true_and, Bool.eq_iff_iff, Bytes.startsWithFold_iff,
      Bytes.sameFold, beq_iff_eq, List.prefix_iff_eq_take, Bytes.length_lowerAscii,
      Bytes.lowerAscii, Bytes.lowerAscii, Bytes.lowerAscii, List.map_take, eq_comm]
  · rw [decide_eq_false long, Bool.false_and, Bool.eq_false_iff]
    exact fun starts => long (Bytes.startsWithFold_length_le starts)

theorem looksLiteral_eq (expr : Bytes)
    : looksLiteral expr = some (FormMigrate.looksLiteral expr) := by
  rw [looksLiteral, FormMigrate.looksLiteral]
  have five : (Bytes.ofString "array").length = 5 := rfl
  generalize Bytes.trim expr = s
  cases (Bytes.ofString "[").isPrefixOf s with
  | true => rfl
  | false =>
      rw [startsWithFold_eq, five]
      by_cases short : s.length < 5
      · rw [decide_eq_false (Nat.not_le.mpr short)]
        simp only [short, Bool.false_and, Bool.or_false]
        rfl
      · have long := Nat.le_of_not_lt short
        have rest : slice s 5 s.length = some (s.drop 5) :=
          ((At.zero s).drop long).slice_length
        have front : slice s 0 5 = some (s.take 5) := slice_zero long
        rw [decide_eq_true long]
        simp only [short, front, rest, Option.bind_eq_bind, Option.bind_some, Bool.true_and,
          Bool.false_or]
        cases Bytes.sameFold (s.take 5) (Bytes.ofString "array") <;> rfl

theorem looksLiteral_trim (expr : Bytes)
    : FormMigrate.looksLiteral (Bytes.trim expr) = FormMigrate.looksLiteral expr := by
  rw [FormMigrate.looksLiteral, Bytes.trim_trim, FormMigrate.looksLiteral]

--------------------------------------------------------------------------------
-- Fields
--------------------------------------------------------------------------------

theorem textInput_agrees : Build.Agrees textInput Builder.textInput := by
  intro site
  simp only [textInput, Site.of, argOr_eq, optionalArg_eq, attributesArg_eq, Option.bind_eq_bind,
    Option.bind_some]
  rfl

theorem plainInput_agrees : Build.Agrees plainInput Builder.plainInput := by
  intro site
  simp only [plainInput, Site.of, argOr_eq, attributesArg_eq, Option.bind_eq_bind, Option.bind_some]
  rfl

theorem hiddenInput_agrees : Build.Agrees hiddenInput Builder.hiddenInput := by
  intro site
  simp only [hiddenInput, Site.of, argOr_eq, optionalArg_eq, Option.bind_eq_bind, Option.bind_some]
  rfl

theorem label_agrees : Build.Agrees label Builder.label := by
  intro site
  simp only [label, Site.of, argOr_eq, optionalArg_eq, attributesArg_eq, Option.bind_eq_bind,
    Option.bind_some]
  rfl

theorem button_agrees : Build.Agrees button Builder.button := by
  intro site
  simp only [button, Site.of, argOr_eq, attributesArg_eq, Option.bind_eq_bind, Option.bind_some]
  rfl

theorem toggle_agrees (defaultValue : Bytes)
    : Build.Agrees (toggle defaultValue) (Builder.toggle defaultValue) := by
  intro site
  simp only [toggle, Site.of, argOr_eq, attributesArg_eq, Option.bind_eq_bind, Option.bind_some]
  rfl

--------------------------------------------------------------------------------
-- Forms and select fields
--------------------------------------------------------------------------------

theorem closeForm_agrees : Build.Agrees closeForm Builder.closeForm := by
  intro site
  rw [closeForm, Builder.closeForm, Site.of]
  dsimp only
  split <;> rfl

theorem token_agrees : Build.Agrees token Builder.token := by
  intro site
  rw [token, Builder.token, Site.of]
  dsimp only
  split <;> rfl

/-- The lone argument of a call that looks like an array literal has an array for its value, if it
has one.
-/
theorem array_of_arg {arg : Bytes} {v : Value} (args : site.args = [arg])
    (looks : FormMigrate.looksLiteral site.inner = true) (evaluated : Literal.evaluate arg = .ok v)
    : ∃ entries, v = .array entries := by
  obtain ⟨front, back, white, parts⟩ := Argument.front_of_split args
  exact Literal.array_of_looksLiteral looks white parts evaluated

/-- An expression that looks like an array literal has an array for its value, if any. -/
theorem array_of_expr {expr : Bytes} {v : Value} (looks : FormMigrate.looksLiteral expr = true)
    (evaluated : Literal.evaluate expr = .ok v)
    : ∃ entries, v = .array entries := by
  have none : Bytes.White [] := List.forall_mem_nil _
  have parts : expr = [] ++ (expr ++ []) := by rw [List.nil_append, List.append_nil]
  exact Literal.array_of_looksLiteral looks none parts evaluated

theorem openForm_agrees : Build.Agrees openForm Builder.openForm := by
  intro site
  rw [openForm, Builder.openForm, Site.of]
  simp only [looksLiteral_eq, looksLiteral_trim, Option.bind_eq_bind, Option.bind_some]
  split
  · rfl
  · cases looks : FormMigrate.looksLiteral site.inner with
    | false =>
        rcases args : site.args with - | ⟨arg, - | ⟨second, rest⟩⟩ <;> rfl
    | true =>
        rcases args : site.args with - | ⟨arg, - | ⟨second, rest⟩⟩
        · rfl
        · have read := evaluate_eq arg
          cases found : Literal.evaluate arg with
          | error e =>
              rw [found] at read
              simp [read, found, Builder.staticArray?]
          | ok v =>
              obtain ⟨entries, rfl⟩ := array_of_arg site args looks found
              rw [found] at read
              simp [read, found, Builder.staticArray?, entriesOf]
        · rfl

theorem modelForm_agrees : Build.Agrees modelForm Builder.modelForm := by
  intro site
  simp only [modelForm, Builder.modelForm, Site.of, argOr_eq, attributesArg_eq, looksLiteral_eq,
    Option.bind_eq_bind, Option.bind_some]
  cases site.attributes? 1 with
  | none => rfl
  | some options =>
      dsimp only
      cases looks : FormMigrate.looksLiteral options with
      | false => rfl
      | true =>
          have read := evaluate_eq options
          cases found : Literal.evaluate options with
          | error e =>
              rw [found] at read
              simp [read, found, Builder.staticArray?]
          | ok v =>
              obtain ⟨entries, rfl⟩ := array_of_expr looks found
              rw [found] at read
              simp [read, found, Builder.staticArray?, entriesOf]

theorem staticOptions_eq (expr : Bytes)
    : staticOptions expr = some (Builder.staticOptions expr) := by
  rw [staticOptions, Builder.staticOptions, looksLiteral_eq]
  cases looks : FormMigrate.looksLiteral expr with
  | false => rfl
  | true =>
      have read := evaluate_eq expr
      cases found : Literal.evaluate expr with
      | error e =>
          rw [found] at read
          simp [read]
      | ok v =>
          obtain ⟨entries, rfl⟩ := array_of_expr looks found
          rw [found] at read
          simp only [read, Option.bind_eq_bind, Option.bind_some, if_true]
          cases groups : Builder.hasGroups entries with
          | false =>
              rw [show hasGroups (.array entries) = false from groups]
              rfl
          | true =>
              rw [show hasGroups (.array entries) = true from groups]
              rfl

theorem select_agrees : Build.Agrees select Builder.select := by
  intro site
  simp only [select, Builder.select, Site.of, argOr_eq, optionalArg_eq, attributesArg_eq,
    staticOptions_eq, Option.bind_eq_bind, Option.bind_some]
  cases Builder.staticOptions (site.orElse 1 "[]") <;> rfl

end FormMigrate.Indexed
