import FormMigrate.Number.WideText

/-! Attribute files: named expressions, one a line, and blocks of them. -/

namespace FormMigrate.Hcl

/-- The operators between two expressions. -/
inductive Operator where
  | or
  | and
  | equal
  | notEqual
  | greaterEqual
  | greater
  | lessEqual
  | less
  | add
  | subtract
  | multiply
  | divide
  | modulo
  deriving DecidableEq, Repr

/-- An expression. -/
inductive Expr where
  | null
  | bool (b : Bool)
  | number (n : WideFloat)
  | text (s : Bytes)
  /-- Texts and values one after another. -/
  | template (parts : List Expr)
  /-- The texts of a tuple one after another. -/
  | join (e : Expr)
  /-- An expression in parentheses, or alone in quotes. -/
  | group (e : Expr)
  | name (n : Bytes)
  /-- The element that a splat is at. -/
  | element
  | call (function : Bytes) (arguments : List Expr)
  | member (e : Expr) (name : Bytes)
  | index (e key : Expr)
  /-- What an expression becomes for each element of another one. -/
  | splat (e each : Expr)
  | tuple (elements : List Expr)
  | object (items : List (Expr × Expr))
  /-- A tuple of results for the elements that meet a condition. -/
  | forTuple (key : Option Bytes) (value : Bytes) (collection result condition : Expr)
  /-- An object of results; results of one key may be grouped. -/
  | forObject (key : Option Bytes) (value : Bytes) (collection name result condition : Expr)
      (grouped : Bool)
  | negate (e : Expr)
  | not (e : Expr)
  | binary (operator : Operator) (left right : Expr)
  | choice (condition yes no : Expr)

/-- Whether an expression is a value written out, as far as keys in brackets are concerned. -/
def Expr.isPlain : Expr → Bool
  | .null | .bool _ | .number _ | .text _ => true
  | _ => false

/-- Whether an expression is a name with steps to a part of its value. -/
def Expr.isPath : Expr → Bool
  | .name _ => true
  | .member e _ => e.isPath
  | .index e key => key.isPlain && e.isPath
  | _ => false

/-- A line of a file: an attribute, or a block with its labels and content. -/
inductive Item where
  | attribute (name : Bytes) (e : Expr)
  | block (kind : Bytes) (labels : List Bytes) (body : List Item)

end FormMigrate.Hcl
