import FormMigrate.Number.Integer
import FormMigrate.Text.Base64
import FormMigrate.Yaml.Node
import FormMigrate.Yaml.Timestamp

/-! What scalars mean: nothing, truth values, numbers, points in time and texts. -/

namespace FormMigrate.Yaml

/-- What the text of a plain scalar means. -/
inductive Meaning where
  | null
  | bool
  /-- A word. -/
  | integer (n : Int)
  /-- An integer above all words. -/
  | large
  /-- A fraction with its whole number, which is a word if there is one. -/
  | fraction (whole : Option Int)
  | timestamp
  | text
  deriving DecidableEq, Repr

namespace Meaning

/-- The whole number of a fraction. Nothing above the largest word has one, and everything below
the least word has the least one.
-/
def wholeOf? (negative : Bool) (x : Finite64) : Option Int :=
  let n : Int := if negative then -x.wholePart else x.wholePart
  if n < Word.least then some Word.least
  else if n < Word.bound then some n
  else if n == Word.bound && x.isWhole then some Word.least
  else none

/-- The meaning of an unsigned fraction with a sign. One beyond all fractions is none. -/
def ofFraction? (negative : Bool) (body : Bytes) : Option Meaning :=
  match Numeral.fraction? body with
  | some (.finite x) => some (.fraction (wholeOf? negative x))
  | _ => none

/-- The whole number of the fraction nearest to an integer. -/
def wholeNear? (n : Int) : Option Int :=
  match Binary64.ofDecimal false n.natAbs 0 with
  | .finite x => wholeOf? (n < 0) x
  | .infinity _ => none

/-- The word that digits in a base spell after an optional sign. -/
def signed? (base : Nat) (s : Bytes) : Option Int :=
  let (negative, body) := Integer.sign s
  match Numeral.word base body with
  | .ok n =>
      let value : Int := if negative then -n else n
      if Word.holds value then some value else none
  | .error _ => none

/-- The digits in a base after its mark, with the sign in front of the mark or behind it. -/
def marked? (base : Nat) (mark s : Bytes) : Option Meaning :=
  if mark.isPrefixOf s then (signed? base (s.drop mark.length)).map integer
  else if (0x2d :: mark).isPrefixOf s then
    (signed? base (0x2d :: s.drop (mark.length + 1))).map integer
  else none

/-- The meaning of a text that starts with a digit or a sign. Underscores in it do not count. -/
def ofNumeral (s : Bytes) : Meaning :=
  let digits := s.filter (· != 0x5f)
  let (negative, body) := Integer.sign digits
  match Integer.read digits, Integer.magnitude digits with
  | .ok n, _ => .integer n
  | .error _, .ok _ => .large
  | .error _, .error _ =>
      (ofFraction? negative body <|> marked? 2 "0b" digits <|> marked? 8 "0o" digits).getD .text

/-- The words with a meaning of their own. -/
def words : List (Bytes × Meaning) :=
  ([[], "~", "null", "Null", "NULL"] : List Bytes).map (·, .null)
    ++ (["true", "True", "TRUE", "false", "False", "FALSE"] : List Bytes).map (·, .bool)
    ++ ([".nan", ".NaN", ".NAN", ".inf", ".Inf", ".INF", "+.inf", "+.Inf", "+.INF"]
      : List Bytes).map (·, .fraction none)
    ++ (["-.inf", "-.Inf", "-.INF"] : List Bytes).map (·, .fraction (some Word.least))

/-- What the text of a plain scalar means. Its first character tells whether it may be a number. -/
def ofText (s : Bytes) : Meaning :=
  match words.lookup s, s with
  | some meaning, _ => meaning
  | none, [] => .text
  | none, c :: _ =>
      if c == 0x2e then (ofFraction? false s).getD .text
      else if c.isDigit || c == 0x2d || c == 0x2b then
        if Timestamp.isTimestamp s then .timestamp else ofNumeral s
      else .text

end Meaning

/-- The value of a scalar: nothing, or a text that may stand for a whole number. -/
inductive ScalarValue where
  | null
  | text (s : Bytes) (whole : Option Int)
  deriving DecidableEq, Repr

/-- The value of a text with a meaning. -/
def Meaning.value (s : Bytes) : Meaning → ScalarValue
  | .null => .null
  | .integer n => .text s (some n)
  | .fraction whole => .text s whole
  | _ => .text s none

/-- The value of a text that a tag asks to be a fraction. -/
def fractionValue? (s : Bytes) : Option ScalarValue :=
  match Meaning.ofText s with
  | .integer n => some (.text s (Meaning.wholeNear? n))
  | .fraction whole => some (.text s whole)
  | _ => none

/-- The value of a text that a tag asks to have a meaning. -/
def requiredValue? (fits : Meaning → Bool) (s : Bytes) : Option ScalarValue :=
  let meaning := Meaning.ofText s
  if fits meaning then some (meaning.value s) else none

/-- The value of a scalar. It fails when the text is not what the tag asks for; a tag of another
kind asks for nothing.
-/
def Scalar.value? (scalar : Scalar) : Option ScalarValue :=
  let s := scalar.text
  match scalar.tag with
  | none => some (if scalar.isPlain then (Meaning.ofText s).value s else .text s none)
  | some tag =>
      if tag == Bytes.ofString "!!binary" then (Base64.decode? s).map (.text · none)
      else if tag == Bytes.ofString "!!null" then requiredValue? (· == .null) s
      else if tag == Bytes.ofString "!!bool" then requiredValue? (· == .bool) s
      else if tag == Bytes.ofString "!!int" then
        requiredValue? (fun
          | .integer _ | .large => true
          | _ => false) s
      else if tag == Bytes.ofString "!!float" then fractionValue? s
      else if tag == Bytes.ofString "!!timestamp" then requiredValue? (· == .timestamp) s
      else some (.text s none)

end FormMigrate.Yaml
