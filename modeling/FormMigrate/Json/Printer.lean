import FormMigrate.Text.Utf8

/-! JSON documents and their indented text. -/

namespace FormMigrate

/-- A JSON document. A number is kept as its text, and the members of an object in order. -/
inductive Json where
  | null
  | bool (b : Bool)
  | number (numeral : Bytes)
  | text (s : Bytes)
  | array (elements : List Json)
  | object (members : List (Bytes × Json))
  deriving Repr

namespace Json

/-- The number of an integer. -/
def ofInt (n : Int) : Json := .number (Bytes.ofInt n)

/-- The member of an object that a text value fills. -/
def textMember (name : String) (s : Bytes) : Bytes × Json := (name, .text s)

/-- How a text escapes what the format leaves open: documents use the short escapes for the
backspace and the form feed, markup also escapes what opens tags and entities, and a journal writes
the backspace and the form feed by code point.
-/
inductive Escaping where
  | plain
  | markup
  | journal
  deriving DecidableEq, Repr

/-- An escape by code point. -/
def codeEscape (n : Nat) : Bytes := "\\u" ++ Bytes.hex 4 n

/-- Whether a character is escaped by its code point: control characters, the two separators that
end lines in scripts, and for markup the characters that open tags and entities.
-/
def isCodeEscaped (escaping : Escaping) (c : Char) : Bool :=
  c.toNat < 0x20 || c.toNat == 0x2028 || c.toNat == 0x2029
    || (escaping == .markup && (c == '<' || c == '>' || c == '&'))

/-- A character inside a text. -/
def escapeChar (escaping : Escaping) (c : Char) : Bytes :=
  if c == '"' || c == '\\' then [0x5c, c.toUInt8]
  else if c == '\n' then "\\n"
  else if c == '\r' then "\\r"
  else if c == '\t' then "\\t"
  else if c.toNat == 0x08 && escaping != .journal then "\\b"
  else if c.toNat == 0x0c && escaping != .journal then "\\f"
  else if isCodeEscaped escaping c then codeEscape c.toNat
  else String.utf8EncodeChar c

/-- A unit inside a text; a stray byte becomes the replacement character. -/
def escapeUnit (escaping : Escaping) : Unit8 → Bytes
  | .char c => escapeChar escaping c
  | .stray _ => String.utf8EncodeChar Utf8.replacement

/-- A text in quotes. -/
def quoted (escaping : Escaping) (s : Bytes) : Bytes :=
  0x22 :: (Utf8.units s).flatMap (escapeUnit escaping) ++ [0x22]

/-- A line break and the indentation of a depth, four blanks a level. -/
def lineBreak (depth : Nat) : Bytes := 0x0a :: List.replicate (4 * depth) 0x20

/-- Rendered parts between brackets, each part on lines of its own. -/
def block (opener closer : Byte) (depth : Nat) (parts : List Bytes) : Bytes :=
  if parts.isEmpty then [opener, closer]
  else
    opener :: lineBreak (depth + 1)
      ++ Bytes.join (0x2c :: lineBreak (depth + 1)) parts ++ lineBreak depth ++ [closer]

mutual

/-- A document whose first line is already indented to a depth. -/
def render (escaping : Escaping) (depth : Nat) : Json → Bytes
  | .null => "null"
  | .bool b => if b then "true" else "false"
  | .number numeral => numeral
  | .text s => quoted escaping s
  | .array elements => block 0x5b 0x5d depth (renderElements escaping (depth + 1) elements)
  | .object members => block 0x7b 0x7d depth (renderMembers escaping (depth + 1) members)

/-- The elements of an array. -/
def renderElements (escaping : Escaping) (depth : Nat) : List Json → List Bytes
  | [] => []
  | element :: rest => element.render escaping depth :: renderElements escaping depth rest

/-- The members of an object. -/
def renderMembers (escaping : Escaping) (depth : Nat) : List (Bytes × Json) → List Bytes
  | [] => []
  | (name, value) :: rest =>
      (quoted escaping name ++ ": " ++ value.render escaping depth)
        :: renderMembers escaping depth rest

end

/-- The text of a document. -/
def print (escaping : Escaping) (document : Json) : Bytes := document.render escaping 0

end Json

end FormMigrate
