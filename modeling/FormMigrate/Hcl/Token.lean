import FormMigrate.Text.Blank
import FormMigrate.Text.Identifier

/-! Tokens of attribute files. Text in quotes and in here-documents is made of tokens too, and a
value or directive in it is code again.
-/

namespace FormMigrate.Hcl

/-- Punctuation. -/
inductive Mark where
  | openParen
  | closeParen
  | openBracket
  | closeBracket
  | openBrace
  | closeBrace
  | dot
  | comma
  | star
  | slash
  | percent
  | plus
  | minus
  | equal
  | doubleEqual
  | notEqual
  | less
  | lessEqual
  | greater
  | greaterEqual
  | and
  | or
  | not
  | question
  | colon
  | doubleColon
  | ellipsis
  | arrow
  deriving DecidableEq, Repr

/-- A token. Values and directives in a text may ask for trimming on either side. -/
inductive Token where
  | newline
  | name (s : Bytes)
  | numeral (s : Bytes)
  | mark (m : Mark)
  | openQuote
  | closeQuote
  | openHeredoc (flush : Bool)
  | closeHeredoc
  | literal (s : Bytes)
  | openValue (trim : Bool)
  | openDirective (trim : Bool)
  | closeSequence (trim : Bool)
  deriving DecidableEq, Repr

/-- What surrounds a token: code with its open braces, quotes, or a here-document, which ends at a
line that holds its marker alone.
-/
inductive Frame where
  | code (braces : Nat)
  | quoted
  | heredoc (marker : Bytes) (startOfLine : Bool)
  deriving DecidableEq, Repr

/-- The tokens found at the front of a text, the frames after them, innermost first, and the text
that follows.
-/
structure Lexed where
  tokens : List Token
  frames : List Frame
  rest : Bytes

--------------------------------------------------------------------------------
-- Names and numerals
--------------------------------------------------------------------------------

/-- The bytes at the front of a text that continue a name, where so many bytes belong to a
character already read.
-/
def nameRest : (skip : Nat) → Bytes → Bytes
  | _, [] => []
  | skip + 1, c :: rest => c :: nameRest skip rest
  | 0, c :: rest =>
      if c == 0x2d then c :: nameRest 0 rest
      else
        match Utf8.front? (c :: rest) with
        | some (char, size) =>
            if isIdentifierPart char then c :: nameRest (size - 1) rest else []
        | none => []

/-- The name at the front of a text: a letter or an underscore, then also digits, marks and
dashes.
-/
def name? (s : Bytes) : Option (Bytes × Bytes) :=
  match Utf8.front? s with
  | some (char, size) =>
      if char == '_' || isIdentifierStart char then
        let found := s.take size ++ nameRest 0 (s.drop size)
        some (found, s.drop found.length)
      else none
  | none => none

/-- The bytes at the front of a text that continue a numeral: digits, points, and exponent marks
before a digit. So many bytes belong to an exponent already read.
-/
def numeralRest : (skip : Nat) → Bytes → Bytes
  | _, [] => []
  | skip + 1, c :: rest => c :: numeralRest skip rest
  | 0, c :: rest =>
      if c.isDigit || c == 0x2e then c :: numeralRest 0 rest
      else if c.lower == 0x65 then
        match rest with
        | d :: _ =>
            if d.isDigit then c :: numeralRest 1 rest
            else if d == 0x2b || d == 0x2d then
              match rest.drop 1 with
              | e :: _ => if e.isDigit then c :: numeralRest 2 rest else []
              | [] => []
            else []
        | [] => []
      else []

/-- The numeral at the front of a text. It starts with a digit and does not end with a point. -/
def numeral (s : Bytes) : Bytes × Bytes :=
  let found := Bytes.trimBack (· == 0x2e) (numeralRest 0 s)
  (found, s.drop found.length)

--------------------------------------------------------------------------------
-- Characters and escapes
--------------------------------------------------------------------------------

/-- The number of bytes of the character at the front of a text, judged by its first byte alone and
the number of continuations.
-/
def charSize? : Bytes → Option Nat
  | [] => none
  | c :: rest =>
      let more : Option Nat :=
        if c < 0x80 then some 0
        else if c < 0xc0 then none
        else if c < 0xe0 then some 1
        else if c < 0xf0 then some 2
        else if c < 0xf8 then some 3
        else none
      more.bind fun n =>
        if (rest.take n).length == n && (rest.take n).all Utf8.isContinuation then some (n + 1)
        else none

/-- The character of a number of hexadecimal digits at the front, and what follows them. -/
def codePoint? (count : Nat) (s : Bytes) : Option (Bytes × Bytes) :=
  let digits := s.take count
  if digits.length == count && digits.all Byte.isHex then
    let n := digits.foldl (fun n c => n * 16 + (Byte.digitValue? c).getD 0) 0
    if n < 0xd800 || (0xe000 ≤ n && n < 0x110000) then
      some (String.utf8EncodeChar (Char.ofNat n), s.drop count)
    else none
  else none

/-- What a backslash and the text after it stand for, and what follows. -/
def escape? : Bytes → Option (Bytes × Bytes)
  | 0x6e :: rest => some ([0x0a], rest)
  | 0x72 :: rest => some ([0x0d], rest)
  | 0x74 :: rest => some ([0x09], rest)
  | 0x22 :: rest => some ([0x22], rest)
  | 0x5c :: rest => some ([0x5c], rest)
  | 0x75 :: rest => codePoint? 4 rest
  | 0x55 :: rest => codePoint? 8 rest
  | _ => none

/-- What a doubled mark before a brace stands for, and what follows. -/
def doubled? : Bytes → Option (Bytes × Bytes)
  | 0x24 :: 0x24 :: 0x7b :: rest => some ([0x24, 0x7b], rest)
  | 0x25 :: 0x25 :: 0x7b :: rest => some ([0x25, 0x7b], rest)
  | _ => none

/-- The token that opens a value or a directive at the front of a text. -/
def opener? : Bytes → Option (Token × Bytes)
  | 0x24 :: 0x7b :: 0x7e :: rest => some (.openValue true, rest)
  | 0x24 :: 0x7b :: rest => some (.openValue false, rest)
  | 0x25 :: 0x7b :: 0x7e :: rest => some (.openDirective true, rest)
  | 0x25 :: 0x7b :: rest => some (.openDirective false, rest)
  | _ => none

/-- Plain text in quotes and what follows it. The fuel bounds the length. -/
def quotedText? : (fuel : Nat) → Bytes → Option (Bytes × Bytes)
  | 0, s => some ([], s)
  | fuel + 1, s =>
      if (opener? s).isSome then some ([], s)
      else
        match s, doubled? s with
        | _, some (meant, rest) => (quotedText? fuel rest).map fun (t, rest) => (meant ++ t, rest)
        | [], _ => some ([], [])
        | 0x5c :: rest, _ =>
            (escape? rest).bind fun (meant, rest) =>
              (quotedText? fuel rest).map fun (t, rest) => (meant ++ t, rest)
        | c :: _, _ =>
            if c == 0x22 || c == 0x0a || c == 0x0d then some ([], s)
            else
              (charSize? s).bind fun size =>
                (quotedText? fuel (s.drop size)).map fun (t, rest) => (s.take size ++ t, rest)

/-- Plain text of a line in a here-document with the line break that ends it, whether one does, the
same text before doubled marks are read, and what follows. The fuel bounds the length.
-/
def lineText? : (fuel : Nat) → Bytes → Option (Bytes × Bool × Bytes × Bytes)
  | 0, s => some ([], false, [], s)
  | fuel + 1, s =>
      if (opener? s).isSome then some ([], false, [], s)
      else
        match s, doubled? s with
        | _, some (meant, rest) =>
            (lineText? fuel rest).map fun (t, ended, raw, rest) =>
              (meant ++ t, ended, s.take 3 ++ raw, rest)
        | [], _ => some ([], false, [], [])
        | 0x0a :: rest, _ => some ([0x0a], true, [0x0a], rest)
        | 0x0d :: 0x0a :: rest, _ => some ([0x0d, 0x0a], true, [0x0d, 0x0a], rest)
        | 0x0d :: _, _ => none
        | _ :: _, _ =>
            (charSize? s).bind fun size =>
              (lineText? fuel (s.drop size)).map fun (t, ended, raw, rest) =>
                (s.take size ++ t, ended, s.take size ++ raw, rest)

--------------------------------------------------------------------------------
-- Code
--------------------------------------------------------------------------------

/-- Punctuation with its spelling, longer spellings before those they start with. -/
def marks : List (String × Mark) := [
  ("...", .ellipsis), ("==", .doubleEqual), ("!=", .notEqual), (">=", .greaterEqual),
  ("<=", .lessEqual), ("&&", .and), ("||", .or), ("=>", .arrow), ("::", .doubleColon),
  ("[", .openBracket), ("]", .closeBracket), ("(", .openParen), (")", .closeParen), (".", .dot),
  (",", .comma), ("*", .star), ("/", .slash), ("%", .percent), ("+", .plus), ("-", .minus),
  ("=", .equal), ("<", .less), (">", .greater), ("!", .not), ("?", .question), (":", .colon)]

/-- The punctuation at the front of a text. -/
def mark? (s : Bytes) : Option (Mark × Bytes) :=
  marks.findSome? fun (spelling, mark) =>
    let bytes := Bytes.ofString spelling
    if bytes.isPrefixOf s then some (mark, s.drop bytes.length) else none

/-- What follows a line break. -/
def afterBreak? : Bytes → Option Bytes
  | 0x0a :: rest => some rest
  | 0x0d :: 0x0a :: rest => some rest
  | _ => none

/-- The text after a comment that ends with its line; the line break belongs to the comment. -/
def afterLine (s : Bytes) : List Token × Bytes :=
  match s.dropWhile (· != 0x0a) with
  | [] => ([], [])
  | _ :: rest => ([.newline], rest)

/-- The text after a comment that ends with a mark of its own. -/
def afterComment? : Bytes → Option Bytes
  | 0x2a :: 0x2f :: rest => some rest
  | _ :: rest => afterComment? rest
  | [] => none

/-- The here-document that two less-than signs open, if a name and a line break follow. -/
def heredoc? (s : Bytes) : Option (Token × Frame × Bytes) :=
  let (flush, s) := match s with
    | 0x2d :: rest => (true, rest)
    | _ => (false, s)
  (name? s).bind fun (marker, rest) =>
    (afterBreak? rest).map fun rest => (.openHeredoc flush, .heredoc marker true, rest)

/-- The next tokens of code, given the number of open braces and the frames around it. -/
def codeTokens? (braces : Nat) (outer : List Frame) (s : Bytes) : Option Lexed :=
  let stay (tokens : List Token) (rest : Bytes) : Option Lexed :=
    some ⟨tokens, .code braces :: outer, rest⟩
  let plain : Option Lexed :=
    match name? s with
    | some (name, rest) => stay [.name name] rest
    | none => (mark? s).bind fun (mark, rest) => stay [.mark mark] rest
  match s with
  | [] => stay [] []
  | 0x2f :: 0x2f :: rest => stay (afterLine rest).1 (afterLine rest).2
  | 0x2f :: 0x2a :: rest => (afterComment? rest).bind (stay [])
  | 0x3c :: 0x3c :: rest =>
      match heredoc? rest with
      | some (token, frame, rest) => some ⟨[token], frame :: .code braces :: outer, rest⟩
      | none => plain
  | 0x7e :: 0x7d :: rest =>
      if braces == 0 && !outer.isEmpty then some ⟨[.closeSequence true], outer, rest⟩ else none
  | c :: rest =>
      if c == 0x20 || c == 0x09 then stay [] rest
      else if c == 0x23 then stay (afterLine rest).1 (afterLine rest).2
      else if c == 0x22 then some ⟨[.openQuote], .quoted :: .code braces :: outer, rest⟩
      else if c == 0x7b then some ⟨[.mark .openBrace], .code (braces + 1) :: outer, rest⟩
      else if c == 0x7d then
        if braces == 0 && !outer.isEmpty then some ⟨[.closeSequence false], outer, rest⟩
        else some ⟨[.mark .closeBrace], .code (braces - 1) :: outer, rest⟩
      else if c.isDigit then stay [.numeral (numeral s).1] (numeral s).2
      else
        match afterBreak? s with
        | some rest => stay [.newline] rest
        | none => plain

--------------------------------------------------------------------------------
-- Files
--------------------------------------------------------------------------------

/-- The next tokens of a text in quotes. -/
def quotedTokens? (outer : List Frame) (s : Bytes) : Option Lexed :=
  match opener? s, s with
  | some (token, rest), _ => some ⟨[token], .code 0 :: .quoted :: outer, rest⟩
  | none, 0x22 :: rest => some ⟨[.closeQuote], outer, rest⟩
  | none, _ =>
      (quotedText? (s.length + 1) s).bind fun (text, rest) =>
        if rest.length < s.length then some ⟨[.literal text], .quoted :: outer, rest⟩ else none

/-- The next tokens of a here-document. -/
def heredocTokens? (marker : Bytes) (startOfLine : Bool) (outer : List Frame) (s : Bytes)
    : Option Lexed :=
  match opener? s with
  | some (token, rest) => some ⟨[token], .code 0 :: .heredoc marker false :: outer, rest⟩
  | none =>
      (lineText? (s.length + 1) s).bind fun (text, ended, raw, rest) =>
        if startOfLine && ended && Bytes.trim raw == marker then
          some ⟨[.closeHeredoc, .newline], outer, rest⟩
        else if rest.length < s.length then
          some ⟨[.literal text], .heredoc marker ended :: outer, rest⟩
        else none

/-- The next tokens of a text in the innermost frame. -/
def nextTokens? : List Frame → Bytes → Option Lexed
  | .code braces :: outer, s => codeTokens? braces outer s
  | .quoted :: outer, s => quotedTokens? outer s
  | .heredoc marker startOfLine :: outer, s => heredocTokens? marker startOfLine outer s
  | [], _ => none

/-- The tokens of a text, which has to end in code outside of all texts. The fuel bounds the
length.
-/
def tokensFrom : (fuel : Nat) → List Frame → Bytes → Option (List Token)
  | 0, _, _ => none
  | fuel + 1, frames, s =>
      if s.isEmpty then if frames.length == 1 then some [] else none
      else
        (nextTokens? frames s).bind fun found =>
          (tokensFrom fuel found.frames found.rest).map (found.tokens ++ ·)

/-- The text without a byte order mark at its front. -/
def withoutMark : Bytes → Bytes
  | 0xef :: 0xbb :: 0xbf :: rest => rest
  | s => s

/-- The tokens of a file. -/
def tokens? (s : Bytes) : Option (List Token) :=
  let content := withoutMark s
  tokensFrom (content.length + 1) [.code 0] content

end FormMigrate.Hcl
