import FormMigrate.Builder.Arguments
import FormMigrate.Literal.Printer

/-! The options array of a form: its method, its target and its attributes. -/

namespace FormMigrate

/-- What an options array says about a form. -/
structure FormOptions where
  method : Bytes
  action : Option Bytes
  attributes : List (Bytes × Value)

namespace FormOptions

/-- The first of several options that is set. -/
def firstOf? (entries : Entries) (names : List String) : Option Value :=
  names.findSome? fun name => entries.lookup? (Bytes.ofString name)

/-- The method in upper case; a form posts unless told otherwise. -/
def methodOf (entries : Entries) : Bytes :=
  match firstOf? entries ["method", "type"] with
  | some v => Bytes.upper v.plain
  | none => "POST"

/-- A route given as an array: the text at index zero names it, every other entry is a parameter. -/
def routeWithParameters? (route : Entries) : Option Bytes :=
  match route.lookup? "0" with
  | some (.text name) =>
      let rest := route.filter fun (key, _) => key != .int 0
      if rest.isEmpty then some ("route(" ++ quote name ++ ")")
      else some ("route(" ++ quote name ++ ", " ++ (Value.array (Entries.reindex rest)).code ++ ")")
  | _ => none

/-- The target under an option that holds a plain address. -/
def address? (entries : Entries) (name : String) : Option Bytes :=
  match entries.lookup? name with
  | some (.text s) => some (quote s)
  | _ => none

/-- The target of a form. A route that is set decides alone, whether it is usable or not. -/
def actionOf (entries : Entries) : Option Bytes :=
  match entries.lookup? "route" with
  | some (.text name) => some ("route(" ++ quote name ++ ")")
  | some (.array route) => routeWithParameters? route
  | some _ => none
  | none => (address? entries "action").or (address? entries "url")

/-- The value of the attribute that turns validation off. -/
def noValidation? (entries : Entries) : Option Value :=
  match entries.lookup? "novalidate" with
  | some (.bool true) => some (.text "novalidate")
  | some (.int n) => if n = 1 then some (.text "novalidate") else none
  | some (.text s) => some (.text s)
  | _ => none

/-- Whether the form uploads files. -/
def uploads (entries : Entries) : Bool :=
  match entries.lookup? "files" with
  | some (.bool true) => true
  | some (.text s) => s == Bytes.ofString "true"
  | _ => false

/-- Attributes that are copied when they are set. -/
def copiedAttributes : List String := ["class", "id", "style", "role", "accept"]

/-- A named attribute for a value that is present. -/
def named (name : String) (value : Option Value) : List (Bytes × Value) :=
  (value.map fun v => (Bytes.ofString name, v)).toList

/-- The attributes of a form in the order in which they are written. -/
def attributesOf (entries : Entries) : List (Bytes × Value) :=
  named "accept-charset" (firstOf? entries ["accept-charset", "accept_charset"])
    ++ named "novalidate" (noValidation? entries)
    ++ named "enctype" (if uploads entries then some (.text "multipart/form-data") else none)
    ++ copiedAttributes.flatMap fun name => named name (entries.lookup? (Bytes.ofString name))

/-- The form that an options array describes. -/
def ofEntries (entries : Entries) : FormOptions :=
  ⟨methodOf entries, actionOf entries, attributesOf entries⟩

/-- Whether the options say no more than a form without options. -/
def isBare (form : FormOptions) : Bool :=
  form.action.isNone && form.attributes.isEmpty && form.method == Bytes.ofString "POST"

/-- The attributes as an array literal. -/
def attributesCode (form : FormOptions) : Bytes :=
  let parts := form.attributes.map fun (name, v) => quote name ++ " => " ++ v.code
  "[" ++ Bytes.join ", " parts ++ "]"

/-- The chain that opens a form, after the given start of its head call. -/
def openCall (form : FormOptions) (start : Bytes) : Bytes :=
  start ++ quote form.method ++ ", " ++ form.action.getD "null" ++ ")"
    ++ (if form.attributes.isEmpty then [] else link "attributes" form.attributesCode)
    ++ "->open()"

end FormOptions

end FormMigrate
