import FormMigrate.Yaml.Token

/-! The first document of a text as a tree of scalars, sequences and mappings. -/

namespace FormMigrate.Yaml

/-- A scalar: its tag, unless what it means goes by its text, whether it is plain, and its text. -/
structure Scalar where
  tag : Option Bytes
  isPlain : Bool
  text : Bytes
  deriving DecidableEq, Repr

/-- A part of a document. The tags of sequences and mappings do not count. -/
inductive Node where
  | scalar (s : Scalar)
  /-- Another part by its name; there is none for a part that contains its own name. -/
  | alias (name : Bytes) (target : Option Node)
  | sequence (elements : List Node)
  | mapping (members : List (Node × Node))

/-- The part that stands where nothing is written. -/
def Node.empty : Node := .scalar ⟨none, true, []⟩

--------------------------------------------------------------------------------
-- Names and tags
--------------------------------------------------------------------------------

/-- A named part: the number of its name among all, and the part once it is complete. -/
structure Anchor where
  name : Bytes
  number : Nat
  target : Option Node

/-- What is left to read, the meanings of the handles of tags, and the named parts, last ones
first.
-/
structure Reader where
  scanner : Scanner
  handles : List (Bytes × Bytes) := []
  anchors : List Anchor := []

namespace Reader

/-- The first token. -/
def peek? (r : Reader) : Option (Token × Reader) :=
  r.scanner.peek?.map fun (token, scanner) => (token, { r with scanner })

/-- Drops the first token. -/
def drop (r : Reader) : Reader := { r with scanner := r.scanner.drop }

/-- Names a part that is complete. -/
def name (r : Reader) (anchor : Option Bytes) (node : Node) : Reader :=
  match anchor with
  | none => r
  | some name =>
      { r with anchors := ⟨name, r.anchors.length, some node⟩ :: r.anchors }

/-- Names a part that is not complete yet. -/
def announce (r : Reader) (anchor : Option Bytes) : Reader :=
  match anchor with
  | none => r
  | some name => { r with anchors := ⟨name, r.anchors.length, none⟩ :: r.anchors }

/-- Completes the part that was announced as the one with a number. -/
def complete (r : Reader) (anchor : Option Bytes) (number : Nat) (node : Node) : Reader :=
  match anchor with
  | none => r
  | some _ =>
      { r with anchors := r.anchors.map fun a =>
          if a.number == number then { a with target := some node } else a }

end Reader

/-- The start of the tags that every document knows. -/
def commonTags : Bytes := "tag:yaml.org,2002:"

/-- The meanings of handles that no directive explains. -/
def commonHandles : List (Bytes × Bytes) := [("!", "!"), ("!!", commonTags)]

/-- The short form of a tag. -/
def shortTag (tag : Bytes) : Bytes :=
  if commonTags.isPrefixOf tag then "!!" ++ tag.drop commonTags.length else tag

/-- The whole tag that is written. It fails for a handle without a meaning. -/
def Reader.resolve? (r : Reader) (tag : Tag) : Option Bytes :=
  if tag.handle.isEmpty then some tag.rest
  else (r.handles.lookup tag.handle).map (· ++ tag.rest)

/-- What stands before a part: its name and its tag. -/
structure Properties where
  anchor : Option Bytes := none
  tag : Option Bytes := none
  deriving DecidableEq, Repr

namespace Properties

/-- Whether there are none. -/
def isEmpty (p : Properties) : Bool := p.anchor.isNone && p.tag.isNone

/-- A scalar with properties. A lone exclamation mark is no tag. -/
def scalar (p : Properties) (isPlain : Bool) (text : Bytes) : Node :=
  .scalar ⟨(p.tag.filter fun tag => tag != Bytes.ofString "!").map shortTag, isPlain, text⟩

/-- The name at the front, if there is one. -/
def anchor? (r : Reader) : Option (Option Bytes × Reader) :=
  r.peek?.map fun (token, r) =>
    match token with
    | .anchor name => (some name, r.drop)
    | _ => (none, r)

/-- The tag at the front, if there is one. -/
def tag? (r : Reader) : Option (Option Tag × Reader) :=
  r.peek?.map fun (token, r) =>
    match token with
    | .tag t => (some t, r.drop)
    | _ => (none, r)

/-- The properties at the front, a name and a tag in either order. -/
def read? (r : Reader) : Option (Properties × Reader) := do
  let (before, r) ← anchor? r
  let (tag, r) ← tag? r
  let (anchor, r) ← if before.isNone && tag.isSome then anchor? r else some (before, r)
  match tag with
  | none => some ({ anchor }, r)
  | some tag => (r.resolve? tag).map fun tag => ({ anchor, tag := some tag }, r)

end Properties

--------------------------------------------------------------------------------
-- Parts
--------------------------------------------------------------------------------

/-- Whether a token leaves the place of a key or value in a block empty. -/
def Token.endsMember : Token → Bool
  | .key | .value | .blockEnd => true
  | _ => false

/-- Whether a token leaves the place of a key in braces empty. -/
def Token.endsBracedKey : Token → Bool
  | .value | .comma | .closeBrace => true
  | _ => false

/-- Whether a token leaves the place of a value in braces empty. -/
def Token.endsBraced : Token → Bool
  | .comma | .closeBrace => true
  | _ => false

/-- Whether a token leaves the place of a value in brackets empty. -/
def Token.endsBracketed : Token → Bool
  | .comma | .closeBracket => true
  | _ => false

mutual

/-- A part. Blocks stand only where they are allowed, and dashes without a block of their own only
as a value. The fuel of this and the following readers bounds the number of parts.
-/
def node? : (fuel : Nat) → (block dashes : Bool) → Reader → Option (Node × Reader)
  | 0, _, _, _ => none
  | fuel + 1, block, dashes, r => do
      let (first, r) ← r.peek?
      match first with
      | .alias name =>
          let found ← r.anchors.find? fun a => a.name == name
          some (.alias name found.target, r.drop)
      | _ =>
          let (properties, r) ← Properties.read? r
          let number := r.anchors.length
          let (token, r) ← r.peek?
          let finish (found : Node × Reader) : Node × Reader :=
            (found.1, found.2.complete properties.anchor number found.1)
          let inside := r.announce properties.anchor
          match token with
          | .scalar isPlain text =>
              let node := properties.scalar isPlain text
              some (node, r.drop.name properties.anchor node)
          | .openBracket =>
              (bracketed? fuel true inside.drop).map fun (found, r) => finish (.sequence found, r)
          | .openBrace =>
              (braced? fuel true inside.drop).map fun (found, r) => finish (.mapping found, r)
          | token =>
              if dashes && token == .dash then
                (looseElements? fuel inside).map fun (found, r) => finish (.sequence found, r)
              else if block && token == .sequenceStart then
                (elements? fuel inside.drop).map fun (found, r) => finish (.sequence found, r)
              else if block && token == .mappingStart then
                (members? fuel inside.drop).map fun (found, r) => finish (.mapping found, r)
              else if properties.isEmpty then none
              else
                let node := properties.scalar true []
                some (node, r.name properties.anchor node)

/-- The elements of a block up to its end. -/
def elements? : (fuel : Nat) → Reader → Option (List Node × Reader)
  | 0, _ => none
  | fuel + 1, r => do
      let (token, r) ← r.peek?
      match token with
      | .dash =>
          let (next, r) ← r.drop.peek?
          let (element, r) ←
            if next == .dash || next == .blockEnd then some (.empty, r)
            else node? fuel true false r
          let (found, r) ← elements? fuel r
          some (element :: found, r)
      | .blockEnd => some ([], r.drop)
      | _ => none

/-- The elements after dashes that have no block of their own. -/
def looseElements? : (fuel : Nat) → Reader → Option (List Node × Reader)
  | 0, _ => none
  | fuel + 1, r => do
      let (token, r) ← r.peek?
      match token with
      | .dash =>
          let (next, r) ← r.drop.peek?
          let (element, r) ←
            if next == .dash || next.endsMember then some (.empty, r)
            else node? fuel true false r
          let (found, r) ← looseElements? fuel r
          some (element :: found, r)
      | _ => some ([], r)

/-- The members of a block up to its end. -/
def members? : (fuel : Nat) → Reader → Option (List (Node × Node) × Reader)
  | 0, _ => none
  | fuel + 1, r => do
      let (token, r) ← r.peek?
      match token with
      | .key =>
          let (key, r) ← member? fuel r.drop
          let (token, r) ← r.peek?
          let (value, r) ←
            if token == .value then member? fuel r.drop else some (.empty, r)
          let (found, r) ← members? fuel r
          some ((key, value) :: found, r)
      | .blockEnd => some ([], r.drop)
      | _ => none

/-- A key or value of a block. -/
def member? : (fuel : Nat) → Reader → Option (Node × Reader)
  | 0, _ => none
  | fuel + 1, r => do
      let (token, r) ← r.peek?
      if token.endsMember then some (.empty, r) else node? fuel true true r

/-- The elements in brackets, up to the closing one. A key in them is a mapping of one member. -/
def bracketed? : (fuel : Nat) → (isFirst : Bool) → Reader → Option (List Node × Reader)
  | 0, _, _ => none
  | fuel + 1, isFirst, r => do
      let (token, r) ← r.peek?
      if token == .closeBracket then some ([], r.drop)
      else
        let (token, r) ←
          if isFirst then some (token, r)
          else if token == .comma then r.drop.peek?
          else none
        if token == .closeBracket then some ([], r.drop)
        else
          let (element, r) ←
            if token == .key then pair? fuel r.drop else node? fuel false false r
          let (found, r) ← bracketed? fuel false r
          some (element :: found, r)

/-- The mapping of one member in brackets after the mark of its key. What stands in the place of an
empty key is dropped.
-/
def pair? : (fuel : Nat) → Reader → Option (Node × Reader)
  | 0, _ => none
  | fuel + 1, r => do
      let (token, r) ← r.peek?
      let (key, r) ←
        if token == .value || token.endsBracketed then some (.empty, r.drop)
        else node? fuel false false r
      let (token, r) ← r.peek?
      if token == .value then
        let (next, r) ← r.drop.peek?
        let (value, r) ← if next.endsBracketed then some (.empty, r) else node? fuel false false r
        some (.mapping [(key, value)], r)
      else some (.mapping [(key, .empty)], r)

/-- The members in braces, up to the closing one. A part without the mark of a key is a key with an
empty value.
-/
def braced? : (fuel : Nat) → (isFirst : Bool) → Reader → Option (List (Node × Node) × Reader)
  | 0, _, _ => none
  | fuel + 1, isFirst, r => do
      let (token, r) ← r.peek?
      if token == .closeBrace then some ([], r.drop)
      else
        let (token, r) ←
          if isFirst then some (token, r)
          else if token == .comma then r.drop.peek?
          else none
        if token == .closeBrace then some ([], r.drop)
        else
          let (member, r) ←
            if token == .key then bracedMember? fuel r.drop
            else (node? fuel false false r).map fun (key, r) => ((key, .empty), r)
          let (found, r) ← braced? fuel false r
          some (member :: found, r)

/-- A member in braces after the mark of its key. -/
def bracedMember? : (fuel : Nat) → Reader → Option ((Node × Node) × Reader)
  | 0, _ => none
  | fuel + 1, r => do
      let (token, r) ← r.peek?
      let (key, r) ← if token.endsBracedKey then some (.empty, r) else node? fuel false false r
      let (token, r) ← r.peek?
      if token == .value then
        let (next, r) ← r.drop.peek?
        let (value, r) ← if next.endsBraced then some (.empty, r) else node? fuel false false r
        some ((key, value), r)
      else some ((key, .empty), r)

end

--------------------------------------------------------------------------------
-- Documents
--------------------------------------------------------------------------------

/-- Whether a token can only stand before a document. -/
def Token.isOutside : Token → Bool
  | .directive _ | .documentStart | .documentEnd | .streamEnd => true
  | _ => false

/-- The reader after the directives at the front. There may be one version, which has to be 1.1, and
one meaning for a handle. The fuel bounds their number.
-/
def directives? : (fuel : Nat) → (versioned : Bool) → Reader → Option Reader
  | 0, _, _ => none
  | fuel + 1, versioned, r => do
      let (token, r) ← r.peek?
      match token with
      | .directive (.version major minor) =>
          if versioned || major != 1 || minor != 1 then none else directives? fuel true r.drop
      | .directive (.tag handle meaning) =>
          if (r.handles.lookup handle).isSome then none
          else directives? fuel versioned { r.drop with handles := (handle, meaning) :: r.handles }
      | _ => some { r with handles := r.handles ++ commonHandles }

/-- The first document of some characters, empty if there is none. What follows it has to be sound
as far as it is needed to tell where it ends.
-/
def Source.document? (source : Source) : Option Node := do
  let fuel := 32 * (source.chars.length + 4)
  let r : Reader := { scanner := .ofSource source }
  let (token, r) ← r.peek?
  match token with
  | .streamEnd => some .empty
  | token =>
      let r ← directives? fuel false r
      let (node, r) ←
        if token.isOutside && token != .documentEnd then do
          let (start, r) ← r.peek?
          if start != .documentStart then none
          else
            let (next, r) ← r.drop.peek?
            if next.isOutside then some (.empty, r) else node? fuel true false r
        else node? fuel true false r
      let _ ← r.peek?
      some node

/-- The first document of a file. -/
def document? (content : Bytes) : Option Node := (Source.ofBytes content).document?

end FormMigrate.Yaml
