import FormMigrate.Yaml.Cursor

/-! Tags, anchors and directives. -/

namespace FormMigrate.Yaml

/-- Characters of addresses besides escapes. -/
def isAddressChar (c : Char) : Bool := isWordChar c || ";/?:@&=+$,.!~*'()[]".toList.contains c

/-- The number of bytes that a character takes whose first byte is given. -/
def width? (b : Byte) : Option Nat :=
  if b < 0x80 then some 1
  else if b < 0xc0 then none
  else if b < 0xe0 then some 2
  else if b < 0xf0 then some 3
  else if b < 0xf8 then some 4
  else none

/-- An escaped byte: a percent sign and two hexadecimal digits. -/
def escapedByte? : List Char → Option Byte
  | '%' :: a :: b :: _ =>
      if isHexChar a && isHexChar b then some (hexValue [a, b]).toUInt8 else none
  | _ => none

/-- Some escaped bytes that continue a character. -/
def continuation? : (count : Nat) → List Char → Option Bytes
  | 0, _ => some []
  | count + 1, s =>
      match escapedByte? s with
      | none => none
      | some b =>
          if Utf8.isContinuation b then (continuation? count (s.drop 3)).map (b :: ·) else none

/-- The bytes of an escaped character. -/
def escapedChar? (s : List Char) : Option Bytes :=
  match escapedByte? s with
  | none => none
  | some b =>
      match width? b with
      | none => none
      | some width => (continuation? (width - 1) (s.drop 3)).map (b :: ·)

/-- The address at a place and the place after it. The fuel bounds its length. -/
def addressFrom? : (fuel : Nat) → Cursor → Option (Bytes × Cursor)
  | 0, _ => none
  | fuel + 1, c =>
      match c.rest with
      | [] => some ([], c)
      | x :: _ =>
          if x == '%' then
            match escapedChar? c.rest with
            | none => none
            | some bytes =>
                (addressFrom? fuel (c.skip (3 * bytes.length))).map fun (s, after) =>
                  (bytes ++ s, after)
          else if isAddressChar x then
            (addressFrom? fuel (c.skip 1)).map fun (s, after) =>
              (String.utf8EncodeChar x ++ s, after)
          else some ([], c)

/-- The address at a place, which may be empty, and the place after it. -/
def optionalAddress? (c : Cursor) : Option (Bytes × Cursor) := addressFrom? (c.rest.length + 1) c

/-- The address at a place and the place after it. -/
def address? (c : Cursor) : Option (Bytes × Cursor) :=
  (optionalAddress? c).bind fun (s, after) =>
    if after.index == c.index then none else some (s, after)

/-- A tag as it is written: a handle, which a directive may explain, and what follows it. Without a
handle the rest is the whole tag.
-/
structure Tag where
  handle : Bytes
  rest : Bytes
  deriving DecidableEq, Repr

/-- The handle at a place and the place after it: an exclamation mark, letters, and perhaps another
mark.
-/
def handle? (c : Cursor) : Option (List Char × Cursor) :=
  match c.rest with
  | '!' :: rest =>
      let name := rest.takeWhile isWordChar
      let closing := if (rest.drop name.length).head? == some '!' then ['!'] else []
      let found := '!' :: name ++ closing
      some (found, c.skip found.length)
  | _ => none

/-- The tag at a place and the place after it, where a gap has to follow. -/
def tag? (c : Cursor) : Option (Tag × Cursor) :=
  let found : Option (Tag × Cursor) :=
    if c.rest.tail.head? == some '<' then
      match address? (c.skip 2) with
      | some (address, after) =>
          if after.rest.head? == some '>' then some (⟨[], address⟩, after.skip 1) else none
      | none => none
    else
      match handle? c with
      | none => none
      | some (handle, after) =>
          if 1 < handle.length && handle.getLast? == some '!' then
            (address? after).map fun (address, after) => (⟨Utf8.encode handle, address⟩, after)
          else
            (optionalAddress? after).map fun (address, after) =>
              let rest := Utf8.encode handle.tail ++ address
              (if rest.isEmpty then ⟨[], "!"⟩ else ⟨"!", rest⟩, after)
  found.bind fun (tag, after) => if atGap after.rest then some (tag, after) else none

/-- The name of an anchor or alias after its indicator, and the place after it. -/
def anchorName? (c : Cursor) : Option (Bytes × Cursor) :=
  let c := c.skip 1
  let name := c.rest.takeWhile isWordChar
  let after := c.skip name.length
  if !name.isEmpty && (atGap after.rest || after.rest.head?.any "?:,]\x7d%@`".toList.contains) then
    some (Utf8.encode name, after)
  else none

/-- A directive: the version of the format, or what the handle of a tag stands for. -/
inductive Directive where
  | version (major minor : Nat)
  | tag (handle meaning : Bytes)
  deriving DecidableEq, Repr

/-- A number of one or two digits, and the place after it. -/
def versionNumber? (c : Cursor) : Option (Nat × Cursor) :=
  let digits := c.rest.takeWhile Char.isDigit
  if digits.isEmpty || 2 < digits.length then none
  else some (digits.foldl (fun n d => n * 10 + (d.toNat - 0x30)) 0, c.skip digits.length)

/-- The version at a place and the place after it. -/
def version? (c : Cursor) : Option (Directive × Cursor) :=
  match versionNumber? c with
  | none => none
  | some (major, after) =>
      if after.rest.head? != some '.' then none
      else
        (versionNumber? (after.skip 1)).map fun (minor, after) => (.version major minor, after)

/-- The handle and its meaning at a place, and the place after them. -/
def tagDirective? (c : Cursor) : Option (Directive × Cursor) :=
  match handle? c with
  | none => none
  | some (handle, after) =>
      if handle != ['!'] && (handle.length == 1 || handle.getLast? != some '!') then none
      else if !after.rest.head?.any isBlank then none
      else
        match address? (after.skipWhile isBlank) with
        | none => none
        | some (meaning, after) =>
            if atGap after.rest then some (.tag (Utf8.encode handle) meaning, after) else none

/-- The directive on a line and the place after the line, where only a comment may follow it. -/
def directive? (c : Cursor) : Option (Directive × Cursor) :=
  let c := c.skip 1
  let name := c.rest.takeWhile isWordChar
  let after := c.skip name.length
  if !atGap after.rest then none
  else
    let value := after.skipWhile isBlank
    let found :=
      if name == "YAML".toList then version? value
      else if name == "TAG".toList then tagDirective? value
      else none
    found.bind fun (directive, after) =>
      let after := after.skipWhile isBlank
      let after := if after.rest.head? == some '#' then after.skipLine else after
      if atBreak after.rest then some (directive, after.skipBreak) else none

end FormMigrate.Yaml
