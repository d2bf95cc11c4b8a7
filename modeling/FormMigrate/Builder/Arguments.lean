import FormMigrate.Call.Pass
import FormMigrate.Text.Case

/-! Arguments as the builders see them, and the links of the builder chains they emit. -/

namespace FormMigrate

namespace CallSite

/-- An argument, unless it is missing, blank or null. -/
def optional? (site : CallSite) (i : Nat) : Option Bytes :=
  match site.args[i]? with
  | none => none
  | some arg =>
      let v := Bytes.trim arg
      if v.isEmpty || Bytes.sameFold v "null" then none else some v

/-- An argument, or a default for one that is missing, blank or null. -/
def orElse (site : CallSite) (i : Nat) (default : Bytes) : Bytes :=
  (site.optional? i).getD default

/-- Whether an expression is an empty array, written either way. -/
def isEmptyArray (v : Bytes) : Bool :=
  let compact := Bytes.lower (Bytes.compact v)
  compact == Bytes.ofString "[]" || compact == Bytes.ofString "array()"

/-- An argument that holds attributes, unless it is missing, blank, null or an empty array. -/
def attributes? (site : CallSite) (i : Nat) : Option Bytes :=
  (site.optional? i).filter fun v => !isEmptyArray v

end CallSite

/-- Whether an expression starts like an array literal. -/
def looksLiteral (expr : Bytes) : Bool :=
  let s := Bytes.trim expr
  (Bytes.ofString "[").isPrefixOf s
    || (Bytes.startsWithFold "array" s && (Bytes.ofString "(").isPrefixOf (Bytes.trim (s.drop 5)))

/-- A link that calls a method of a chain. -/
def link (method : String) (arg : Bytes) : Bytes := "->" ++ method ++ "(" ++ arg ++ ")"

/-- A link for an argument that is present. -/
def linkFor (method : String) : Option Bytes → Bytes
  | none => []
  | some arg => link method arg

end FormMigrate
