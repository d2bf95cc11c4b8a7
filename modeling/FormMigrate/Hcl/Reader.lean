import FormMigrate.Hcl.Template
import FormMigrate.Hcl.Token

/-! Reading attribute files from their tokens. A reader returns what it found and the tokens after
it.
-/

namespace FormMigrate.Hcl

--------------------------------------------------------------------------------
-- Tokens
--------------------------------------------------------------------------------

/-- Tokens yet to be read. -/
abbrev Tokens := List Token

/-- The tokens after line breaks, which are skipped only on request. -/
def skip (breaks : Bool) (ts : Tokens) : Tokens :=
  if breaks then ts.dropWhile (· == .newline) else ts

/-- The tokens after a mark, if it is the next token. -/
def after? (breaks : Bool) (mark : Mark) (ts : Tokens) : Option Tokens :=
  match skip breaks ts with
  | .mark found :: rest => if found == mark then some rest else none
  | _ => none

/-- Whether the next token is a word. -/
def isWord (word : String) (ts : Tokens) : Bool :=
  match skip true ts with
  | .name name :: _ => name == Bytes.ofString word
  | _ => false

/-- The operators of each level with their marks, loosest level first. -/
def operators : List (List (Mark × Operator)) := [
  [(.or, .or)],
  [(.and, .and)],
  [(.doubleEqual, .equal), (.notEqual, .notEqual)],
  [(.greaterEqual, .greaterEqual), (.greater, .greater), (.lessEqual, .lessEqual), (.less, .less)],
  [(.plus, .add), (.minus, .subtract)],
  [(.star, .multiply), (.slash, .divide), (.percent, .modulo)]]

/-- The operator of a level that the next token is, and the tokens after it. -/
def operator? (breaks : Bool) (level : Nat) (ts : Tokens) : Option (Operator × Tokens) :=
  match skip breaks ts with
  | .mark mark :: rest => (((operators[level]?).getD []).lookup mark).map fun o => (o, rest)
  | _ => none

/-- The variables of a loop: an optional key, a value, and the word before the collection. -/
def loopNames? (ts : Tokens) : Option (Option Bytes × Bytes × Tokens) :=
  match skip true ts with
  | .name first :: rest =>
      let named := match after? true .comma rest with
        | none => some (none, first, rest)
        | some rest =>
            match skip true rest with
            | .name second :: rest => some (some first, second, rest)
            | _ => none
      named.bind fun (key, value, rest) =>
        if isWord "in" rest then some (key, value, (skip true rest).drop 1) else none
  | _ => none

/-- A step by a number after a dot. -/
def numberStep? (s : Bytes) : Option Expr :=
  if s.contains 0x2e then none else (WideFloat.ofText? s).map .number

/-- The steps by names and numbers after a splat that takes only these. The fuel bounds their
number.
-/
def dotSteps? : (fuel : Nat) → (breaks : Bool) → Expr → Tokens → Option (Expr × Tokens)
  | 0, _, _, _ => none
  | fuel + 1, breaks, e, ts =>
      match after? breaks .dot ts with
      | none => some (e, ts)
      | some rest =>
          match skip breaks rest with
          | .name name :: rest => dotSteps? fuel breaks (.member e name) rest
          | .numeral s :: rest =>
              (numberStep? s).bind fun key => dotSteps? fuel breaks (.index e key) rest
          | _ => none

/-- The expression of a word that is no call. -/
def wordExpr (word : Bytes) : Expr :=
  if word == Bytes.ofString "true" then .bool true
  else if word == Bytes.ofString "false" then .bool false
  else if word == Bytes.ofString "null" then .null
  else .name word

/-- The rest of a function's name, whose parts stand between double colons, and the tokens after
the parenthesis that opens its arguments. The fuel bounds the number of parts.
-/
def callName? : (fuel : Nat) → (breaks : Bool) → Bytes → Tokens → Option (Bytes × Tokens)
  | 0, _, _, _ => none
  | fuel + 1, breaks, name, ts =>
      match skip breaks ts with
      | .mark .openParen :: rest => some (name, rest)
      | .mark .doubleColon :: rest =>
          match skip breaks rest with
          | .name part :: rest => callName? fuel breaks (name ++ "::" ++ part) rest
          | _ => none
      | _ => none

--------------------------------------------------------------------------------
-- Expressions
--------------------------------------------------------------------------------

mutual

/-- An expression. The fuel of this and the following readers bounds nesting and length. -/
def expr? : (fuel : Nat) → (breaks : Bool) → Tokens → Option (Expr × Tokens)
  | 0, _, _ => none
  | fuel + 1, breaks, ts =>
      match level? fuel breaks 0 ts with
      | none => none
      | some (condition, rest) =>
          match after? breaks .question rest with
          | none => some (condition, rest)
          | some rest =>
              match expr? fuel breaks rest with
              | none => none
              | some (yes, rest) =>
                  match after? breaks .colon rest with
                  | none => none
                  | some rest =>
                      (expr? fuel breaks rest).map fun (no, rest) =>
                        (.choice condition yes no, rest)

/-- An expression whose operators are of a level or tighter. -/
def level? : (fuel : Nat) → (breaks : Bool) → (level : Nat) → Tokens → Option (Expr × Tokens)
  | 0, _, _, _ => none
  | fuel + 1, breaks, level, ts =>
      if operators.length ≤ level then operand? fuel breaks ts
      else
        match level? fuel breaks (level + 1) ts with
        | none => none
        | some (left, rest) => operands? fuel breaks level left rest

/-- The operators of a level and their right sides after a left side. -/
def operands?
    : (fuel : Nat) → (breaks : Bool) → (level : Nat) → Expr → Tokens → Option (Expr × Tokens)
  | 0, _, _, _, _ => none
  | fuel + 1, breaks, level, left, ts =>
      match operator? breaks level ts with
      | none => some (left, ts)
      | some (operator, rest) =>
          match level? fuel breaks (level + 1) rest with
          | none => none
          | some (right, rest) => operands? fuel breaks level (.binary operator left right) rest

/-- A term with its steps. -/
def operand? : (fuel : Nat) → (breaks : Bool) → Tokens → Option (Expr × Tokens)
  | 0, _, _ => none
  | fuel + 1, breaks, ts =>
      match term? fuel breaks (skip breaks ts) with
      | none => none
      | some (e, rest) => steps? fuel breaks e rest

/-- Members, indices and splats after an expression. -/
def steps? : (fuel : Nat) → (breaks : Bool) → Expr → Tokens → Option (Expr × Tokens)
  | 0, _, _, _ => none
  | fuel + 1, breaks, e, ts =>
      match skip breaks ts with
      | .mark .dot :: rest =>
          match skip breaks rest with
          | .name name :: rest => steps? fuel breaks (.member e name) rest
          | .numeral s :: rest =>
              match numberStep? s with
              | none => none
              | some key => steps? fuel breaks (.index e key) rest
          | .mark .star :: rest =>
              match dotSteps? (rest.length + 1) breaks .element rest with
              | none => none
              | some (each, rest) => steps? fuel breaks (.splat e each) rest
          | _ => none
      | .mark .openBracket :: rest =>
          match after? breaks .star rest with
          | some rest =>
              match after? breaks .closeBracket rest with
              | none => none
              | some rest =>
                  (steps? fuel breaks .element rest).map fun (each, rest) => (.splat e each, rest)
          | none =>
              match expr? fuel true rest with
              | none => none
              | some (key, rest) =>
                  match after? true .closeBracket rest with
                  | none => none
                  | some rest => steps? fuel breaks (.index e key) rest
      | _ => some (e, ts)

/-- A single term. -/
def term? : (fuel : Nat) → (breaks : Bool) → Tokens → Option (Expr × Tokens)
  | 0, _, _ => none
  | fuel + 1, breaks, ts =>
      match ts with
      | .mark .openParen :: rest =>
          match expr? fuel true rest with
          | none => none
          | some (e, rest) => (after? true .closeParen rest).map fun rest => (.group e, rest)
      | .mark .minus :: rest => (operand? fuel breaks rest).map fun (e, rest) => (.negate e, rest)
      | .mark .not :: rest => (operand? fuel breaks rest).map fun (e, rest) => (.not e, rest)
      | .mark .openBracket :: rest =>
          if isWord "for" rest then loop? fuel .closeBracket ((skip true rest).drop 1)
          else (elements? fuel rest).map fun (es, rest) => (.tuple es, rest)
      | .mark .openBrace :: rest =>
          if isWord "for" rest then loop? fuel .closeBrace ((skip true rest).drop 1)
          else (items? fuel rest).map fun (items, rest) => (.object items, rest)
      | .numeral s :: rest => (WideFloat.ofText? s).map fun n => (.number n, rest)
      | .name word :: rest =>
          match skip breaks rest with
          | .mark .openParen :: _ | .mark .doubleColon :: _ =>
              match callName? (rest.length + 1) breaks word rest with
              | none => none
              | some (function, rest) =>
                  (arguments? fuel rest).map fun (es, rest) => (.call function es, rest)
          | _ => some (wordExpr word, rest)
      | .openQuote :: rest =>
          match pieces? fuel .closeQuote false rest with
          | none => none
          | some (pieces, rest) => (Template.expr? pieces).map fun e => (e, rest)
      | .openHeredoc flush :: rest =>
          match pieces? fuel .closeHeredoc false rest with
          | none => none
          | some (pieces, rest) =>
              let pieces := if flush then Template.flush pieces else pieces
              (Template.expr? pieces).map fun e => (e, rest)
      | _ => none

/-- Elements between commas up to a closing bracket; a comma may stand before it. -/
def elements? : (fuel : Nat) → Tokens → Option (List Expr × Tokens)
  | 0, _ => none
  | fuel + 1, ts =>
      match after? true .closeBracket ts with
      | some rest => some ([], rest)
      | none =>
          match expr? fuel true ts with
          | none => none
          | some (e, rest) =>
              match after? true .comma rest with
              | some rest => (elements? fuel rest).map fun (es, rest) => (e :: es, rest)
              | none => (after? true .closeBracket rest).map fun rest => ([e], rest)

/-- Arguments between commas up to a closing parenthesis; a comma or, after the last argument, an
ellipsis may stand before it.
-/
def arguments? : (fuel : Nat) → Tokens → Option (List Expr × Tokens)
  | 0, _ => none
  | fuel + 1, ts =>
      match after? true .closeParen ts with
      | some rest => some ([], rest)
      | none =>
          match expr? fuel true ts with
          | none => none
          | some (e, rest) =>
              match after? true .comma rest with
              | some rest => (arguments? fuel rest).map fun (es, rest) => (e :: es, rest)
              | none =>
                  (after? true .closeParen ((after? true .ellipsis rest).getD rest)).map fun rest =>
                    ([e], rest)

/-- Keys and values up to a closing brace; a comma or a line break divides them. A key that starts
with a parenthesis is no name.
-/
def items? : (fuel : Nat) → Tokens → Option (List (Expr × Expr) × Tokens)
  | 0, _ => none
  | fuel + 1, ts =>
      match after? true .closeBrace ts with
      | some rest => some ([], rest)
      | none =>
          let start := skip true ts
          match expr? fuel false start with
          | none => none
          | some (key, rest) =>
              let key := if start.head? == some (.mark .openParen) then .group key else key
              match rest with
              | .mark sign :: rest =>
                  if sign == .equal || sign == .colon then
                    match expr? fuel false rest with
                    | none => none
                    | some (value, rest) =>
                        match rest with
                        | .mark .closeBrace :: rest => some ([(key, value)], rest)
                        | .mark .comma :: rest | .newline :: rest =>
                            (items? fuel rest).map fun (es, rest) => ((key, value) :: es, rest)
                        | _ => none
                  else none
              | _ => none

/-- A loop after its first word, up to a closing mark. Only an object has keys, and only its results
are grouped.
-/
def loop? : (fuel : Nat) → (closer : Mark) → Tokens → Option (Expr × Tokens)
  | 0, _, _ => none
  | fuel + 1, closer, ts =>
      match loopNames? ts with
      | none => none
      | some (key, value, rest) =>
          match expr? fuel true rest with
          | none => none
          | some (collection, rest) =>
              match after? true .colon rest with
              | none => none
              | some rest =>
                  match expr? fuel true rest with
                  | none => none
                  | some (first, rest) =>
                      match after? true .arrow rest with
                      | none =>
                          if closer == .closeBrace then none
                          else
                            (condition? fuel closer rest).map fun (condition, rest) =>
                              (.forTuple key value collection first condition, rest)
                      | some rest =>
                          match expr? fuel true rest with
                          | none => none
                          | some (result, rest) =>
                              let grouped := after? true .ellipsis rest
                              if closer == .closeBracket then none
                              else
                                (condition? fuel closer (grouped.getD rest)).map
                                  fun (condition, rest) =>
                                    (.forObject key value collection first result condition
                                      grouped.isSome, rest)

/-- The condition at the end of a loop, which every element meets if there is none, and the tokens
after the closing mark.
-/
def condition? : (fuel : Nat) → (closer : Mark) → Tokens → Option (Expr × Tokens)
  | 0, _, _ => none
  | fuel + 1, closer, ts =>
      if isWord "if" ts then
        match expr? fuel true ((skip true ts).drop 1) with
        | none => none
        | some (condition, rest) => (after? true closer rest).map fun rest => (condition, rest)
      else (after? true closer ts).map fun rest => (.bool true, rest)

/-- The pieces of a template up to a closing token. What stands before may ask for trimming the
front of a text, and what follows for trimming its end.
-/
def pieces? : (fuel : Nat) → (closer : Token) → (trim : Bool) → Tokens
    → Option (List Piece × Tokens)
  | 0, _, _, _ => none
  | fuel + 1, closer, trim, ts =>
      match ts with
      | [] => none
      | .literal s :: rest =>
          let front := if trim then Template.trimFront s else s
          let text := match rest with
            | .openValue true :: _ | .openDirective true :: _ => Template.trimBack front
            | _ => front
          (pieces? fuel closer false rest).map fun (ps, rest) => (.literal text :: ps, rest)
      | .openValue _ :: rest =>
          match expr? fuel true rest with
          | none => none
          | some (e, rest) =>
              match skip true rest with
              | .closeSequence trim :: rest =>
                  (pieces? fuel closer trim rest).map fun (ps, rest) => (.value e :: ps, rest)
              | _ => none
      | .openDirective _ :: rest =>
          match directive? fuel rest with
          | none => none
          | some (piece, rest) =>
              match skip true rest with
              | .closeSequence trim :: rest =>
                  (pieces? fuel closer trim rest).map fun (ps, rest) => (piece :: ps, rest)
              | _ => none
      | token :: rest => if token == closer then some ([], rest) else none

/-- The directive of a template after its opening token. -/
def directive? : (fuel : Nat) → Tokens → Option (Piece × Tokens)
  | 0, _ => none
  | fuel + 1, ts =>
      match skip true ts with
      | .name word :: rest =>
          if word == Bytes.ofString "if" then
            (expr? fuel true rest).map fun (e, rest) => (.openIf e, rest)
          else if word == Bytes.ofString "else" then some (.otherwise, rest)
          else if word == Bytes.ofString "endif" then some (.endIf, rest)
          else if word == Bytes.ofString "endfor" then some (.endFor, rest)
          else if word == Bytes.ofString "for" then
            match loopNames? rest with
            | none => none
            | some (key, value, rest) =>
                (expr? fuel true rest).map fun (e, rest) => (.openFor key value e, rest)
          else none
      | _ => none

end

--------------------------------------------------------------------------------
-- Files
--------------------------------------------------------------------------------

/-- The expression of an attribute after its equals sign. -/
def value? (ts : Tokens) : Option (Expr × Tokens) := expr? (16 * (ts.length + 2)) false ts

/-- The tokens after the end of a line, or of the file. -/
def endOfLine? : Tokens → Option Tokens
  | [] => some []
  | .newline :: rest => some rest
  | _ => none

/-- The names of the attributes among some lines. -/
def attributeNames (items : List Item) : List Bytes :=
  items.filterMap fun
    | .attribute name _ => some name
    | .block _ _ _ => none

/-- A line before others, unless it sets an attribute that they set again. -/
def addItem? (item : Item) (items : List Item) : Option (List Item) :=
  match item with
  | .attribute name _ => if (attributeNames items).contains name then none else some (item :: items)
  | .block _ _ _ => some (item :: items)

/-- The labels of a block and the tokens after its opening brace. A label is a name or a text
without values, of which the reader is told what it has read so far.
-/
def labels? : (text : Option Bytes) → Tokens → Option (List Bytes × Tokens)
  | none, .mark .openBrace :: rest => some ([], rest)
  | none, .openQuote :: rest => labels? (some []) rest
  | none, .name label :: rest => (labels? none rest).map fun (ls, rest) => (label :: ls, rest)
  | some text, .literal s :: rest => labels? (some (text ++ s)) rest
  | some text, .closeQuote :: rest => (labels? none rest).map fun (ls, rest) => (text :: ls, rest)
  | _, _ => none

mutual

/-- The lines up to the end of the file, or to the brace that closes a block. The fuel bounds
nesting and length.
-/
def body? : (fuel : Nat) → (inBlock : Bool) → Tokens → Option (List Item × Tokens)
  | 0, _, _ => none
  | fuel + 1, inBlock, ts =>
      match skip true ts with
      | [] => if inBlock then none else some ([], [])
      | token :: rest =>
          if inBlock && token == .mark .closeBrace then some ([], rest)
          else
            match item? fuel (token :: rest) with
            | none => none
            | some (item, rest) =>
                match endOfLine? rest with
                | none => none
                | some rest =>
                    match body? fuel inBlock rest with
                    | none => none
                    | some (items, rest) => (addItem? item items).map fun items => (items, rest)

/-- An attribute or a block. A block that opens and closes on one line holds at most one
attribute.
-/
def item? : (fuel : Nat) → Tokens → Option (Item × Tokens)
  | 0, _ => none
  | fuel + 1, ts =>
      match ts with
      | .name name :: .mark .equal :: rest =>
          (value? rest).map fun (e, rest) => (.attribute name e, rest)
      | .name name :: rest =>
          match labels? none rest with
          | none => none
          | some (labels, .name inner :: .mark .equal :: rest) =>
              match value? rest with
              | some (e, .mark .closeBrace :: rest) =>
                  some (.block name labels [.attribute inner e], rest)
              | _ => none
          | some (labels, .newline :: rest) =>
              (body? fuel true rest).map fun (items, rest) => (.block name labels items, rest)
          | some (labels, .mark .closeBrace :: rest) => some (.block name labels [], rest)
          | some _ => none
      | _ => none

end

/-- The lines of a file. -/
def parse? (s : Bytes) : Option (List Item) :=
  (tokens? s).bind fun ts => (body? (2 * (ts.length + 2)) false ts).map Prod.fst

end FormMigrate.Hcl
