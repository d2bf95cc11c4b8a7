import FormMigrate.Literal.Value

/-! Printing values: as code that evaluates to them, and as the plain text of a scalar. -/

namespace FormMigrate

/-- A byte inside single quotes, where only the quote and the backslash are escaped. -/
def quoteByte (c : Byte) : Bytes := if c == 0x27 || c == 0x5c then [0x5c, c] else [c]

/-- A text in single quotes. -/
def quote (s : Bytes) : Bytes := 0x27 :: s.flatMap quoteByte ++ [0x27]

/-- A number as code. It always shows a point or an exponent, so that it reads as no word. -/
def Binary64.code : Binary64 → Bytes
  | .infinity true => "-INF"
  | .infinity false => "INF"
  | .finite x =>
      let digits := Binary64.shortestText (.finite x)
      if digits.any fun c => c == 0x2e || c == 0x65 then digits else digits ++ ".0"

/-- A key as code. -/
def Key.code : Key → Bytes
  | .int n => Bytes.ofInt n.toInt
  | .text s => quote s

mutual

/-- A value as code. A list is written without its keys. -/
def Value.code : Value → Bytes
  | .null => "null"
  | .bool true => "true"
  | .bool false => "false"
  | .int n => Bytes.ofInt n.toInt
  | .float x => x.code
  | .text s => quote s
  | .array entries =>
      0x5b :: Bytes.join ", " (entriesCode (Entries.isList entries) entries) ++ [0x5d]

/-- The entries as code, with keys unless they form a list. -/
def entriesCode (bare : Bool) : List (Key × Value) → List Bytes
  | [] => []
  | (key, value) :: rest =>
      (if bare then value.code else key.code ++ " => " ++ value.code) :: entriesCode bare rest

end

/-- The plain text of a number: whole numbers below `10 ^ 15` without a point, others to fourteen
digits.
-/
def Binary64.plain : Binary64 → Bytes
  | .finite x =>
      if x.isWhole && x.wholePart < 1000000000000000 then Bytes.ofInt x.truncate
      else Binary64.preciseText (.finite x)
  | x => Binary64.preciseText x

/-- The plain text of a key. -/
def Key.plain : Key → Bytes
  | .int n => Bytes.ofInt n.toInt
  | .text s => s

/-- The plain text of a value. -/
def Value.plain : Value → Bytes
  | .null => []
  | .bool b => if b then "1" else []
  | .int n => Bytes.ofInt n.toInt
  | .float x => x.plain
  | .text s => s
  | .array _ => "Array"

end FormMigrate
