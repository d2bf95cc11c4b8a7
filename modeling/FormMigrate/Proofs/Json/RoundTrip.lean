import FormMigrate.Proofs.Json.Text

/-! Printed JSON documents read back as they are, with the replacement character for the stray bytes
of their texts.
-/

namespace FormMigrate.Json

--------------------------------------------------------------------------------
-- Statement
--------------------------------------------------------------------------------

mutual

/-- A document whose texts are sanitized. -/
def sanitized : Json → Json
  | .null => .null
  | .bool b => .bool b
  | .number numeral => .number numeral
  | .text s => .text (Utf8.sanitized s)
  | .array elements => .array (sanitizedElements elements)
  | .object members => .object (sanitizedMembers members)

/-- Elements whose texts are sanitized. -/
def sanitizedElements : List Json → List Json
  | [] => []
  | element :: rest => element.sanitized :: sanitizedElements rest

/-- Members whose names and texts are sanitized. -/
def sanitizedMembers : List (Bytes × Json) → List (Bytes × Json)
  | [] => []
  | (name, value) :: rest => (Utf8.sanitized name, value.sanitized) :: sanitizedMembers rest

end

/-- Whether nothing that could continue a number follows it. -/
def Ends (rest : Bytes) : Prop := ∀ b ∈ rest.head?, b = 0x2c ∨ b = 0x0a

/-- A text that reads as a number wherever it ends. -/
structure Numeral (numeral : Bytes) : Prop where
  front : ∃ first tail, numeral = first :: tail ∧ (first.isDigit = true ∨ first = 0x2d)
  reads : ∀ rest, Ends rest → number? (numeral ++ rest) = some (numeral, rest)

/-- A document with numerals for numbers, whose arrays and objects nest to a depth at most. -/
inductive Fits : (depth : Nat) → Json → Prop
  | null {depth} : Fits depth .null
  | bool {depth b} : Fits depth (.bool b)
  | number {depth numeral} (reads : Numeral numeral) : Fits depth (.number numeral)
  | text {depth s} : Fits depth (.text s)
  | array {depth elements} (each : ∀ element ∈ elements, Fits depth element)
    : Fits (depth + 1) (.array elements)
  | object {depth members} (each : ∀ member ∈ members, Fits depth member.2)
    : Fits (depth + 1) (.object members)

/-- A document reads back from its text, whatever ends it. -/
def ReadsBack (depth : Nat) (document : Json) : Prop :=
  ∀ escaping indent fuel rest,
    2 * (document.render escaping indent).length ≤ fuel
    → Ends rest
    → documentFrom fuel depth (document.render escaping indent ++ rest)
      = some (document.sanitized, rest)

--------------------------------------------------------------------------------
-- Blanks
--------------------------------------------------------------------------------

theorem skipBlank_append {blank : Bytes} (blanks : ∀ b ∈ blank, isBlank b = true) (s : Bytes)
    : skipBlank (blank ++ s) = skipBlank s :=
  List.dropWhile_append_of_pos blanks

theorem skipBlank_cons {b : Byte} (stands : isBlank b = false) (s : Bytes)
    : skipBlank (b :: s) = b :: s :=
  List.dropWhile_cons_of_neg (ne_true_of_eq_false stands)

theorem isBlank_of_mem_lineBreak {depth : Nat} : ∀ b ∈ lineBreak depth, isBlank b = true := by
  intro b member
  rcases List.mem_cons.mp member with rfl | space
  · rfl
  · obtain rfl := List.eq_of_mem_replicate space
    rfl

/-- Blanks before a document are skipped. -/
theorem documentFrom_blank (fuel depth : Nat) {blank : Bytes}
    (blanks : ∀ b ∈ blank, isBlank b = true) (s : Bytes)
    : documentFrom fuel depth (blank ++ s) = documentFrom fuel depth s := by
  cases fuel with
  | zero => rfl
  | succ fuel => rw [documentFrom, documentFrom, skipBlank_append blanks]

theorem elementsFrom_blank (fuel depth : Nat) {blank : Bytes}
    (blanks : ∀ b ∈ blank, isBlank b = true) (s : Bytes)
    : elementsFrom fuel depth (blank ++ s) = elementsFrom fuel depth s := by
  cases fuel with
  | zero => rfl
  | succ fuel => rw [elementsFrom, elementsFrom, documentFrom_blank fuel depth blanks]

theorem membersFrom_blank (fuel depth : Nat) {blank : Bytes}
    (blanks : ∀ b ∈ blank, isBlank b = true) (s : Bytes)
    : membersFrom fuel depth (blank ++ s) = membersFrom fuel depth s := by
  cases fuel with
  | zero => rfl
  | succ fuel => rw [membersFrom, membersFrom, skipBlank_append blanks]

--------------------------------------------------------------------------------
-- Scalars
--------------------------------------------------------------------------------

/-- A word or a number at the front of a text. -/
def scalar? (s : Bytes) : Option (Json × Bytes) :=
  match after? "null" s, after? "true" s, after? "false" s with
  | some after, _, _ => some (.null, after)
  | _, some after, _ => some (.bool true, after)
  | _, _, some after => some (.bool false, after)
  | _, _, _ => (number? s).map fun (numeral, after) => (.number numeral, after)

/-- What starts no text, array or object is a scalar. -/
theorem documentFrom_scalar (fuel depth : Nat) {b : Byte} {tail : Bytes}
    (stands : isBlank b = false) (quote : b ≠ 0x22) (bracket : b ≠ 0x5b) (brace : b ≠ 0x7b)
    : documentFrom (fuel + 1) depth (b :: tail) = scalar? (b :: tail) := by
  rw [documentFrom, skipBlank_cons stands]
  split
  · rename_i same
    cases same
  · rename_i same
    cases same
    exact absurd rfl quote
  · rename_i same
    cases same
    exact absurd rfl bracket
  · rename_i same
    cases same
    exact absurd rfl brace
  · rfl

theorem documentFrom_quote (fuel depth : Nat) (body : Bytes)
    : documentFrom (fuel + 1) depth (0x22 :: body)
      = (text? body).map fun (content, after) => (.text content, after) :=
  rfl

theorem documentFrom_noElements (fuel depth : Nat) (after : Bytes)
    : documentFrom (fuel + 1) (depth + 1) (0x5b :: 0x5d :: after) = some (.array [], after) :=
  rfl

theorem documentFrom_elements (fuel depth : Nat) {body : Bytes}
    (stays : ∀ after, skipBlank body ≠ 0x5d :: after)
    : documentFrom (fuel + 1) (depth + 1) (0x5b :: body)
      = (elementsFrom fuel depth body).map fun (found, after) => (.array found, after) := by
  have bracket : skipBlank (0x5b :: body) = 0x5b :: body := skipBlank_cons rfl _
  simp only [documentFrom, bracket]

theorem documentFrom_noMembers (fuel depth : Nat) (after : Bytes)
    : documentFrom (fuel + 1) (depth + 1) (0x7b :: 0x7d :: after) = some (.object [], after) :=
  rfl

theorem documentFrom_members (fuel depth : Nat) {body : Bytes}
    (stays : ∀ after, skipBlank body ≠ 0x7d :: after)
    : documentFrom (fuel + 1) (depth + 1) (0x7b :: body)
      = (membersFrom fuel depth body).map fun (found, after) => (.object found, after) := by
  have brace : skipBlank (0x7b :: body) = 0x7b :: body := skipBlank_cons rfl _
  simp only [documentFrom, brace]

theorem after?_append (word : String) (rest : Bytes)
    : after? word (word ++ rest) = some rest := by
  rw [after?, if_pos (List.isPrefixOf_iff_prefix.mpr (List.prefix_append _ _)), List.drop_left]

theorem after?_none {word : String} {c : Byte} {letters : Bytes}
    (spelled : Bytes.ofString word = c :: letters) {b : Byte} {tail : Bytes} (differs : c ≠ b)
    : after? word (b :: tail) = none := by
  rw [after?, spelled, if_neg]
  simp [differs]

/-- The letters of the words of the format. -/
theorem words
    : Bytes.ofString "null" = [0x6e, 0x75, 0x6c, 0x6c]
      ∧ Bytes.ofString "true" = [0x74, 0x72, 0x75, 0x65]
      ∧ Bytes.ofString "false" = [0x66, 0x61, 0x6c, 0x73, 0x65] := by
  decide

/-- What a number starts with starts nothing else. -/
theorem numeral_front
    : ∀ b : Byte,
        b.isDigit = true ∨ b = 0x2d
        → isBlank b = false
          ∧ (b ≠ 0x22 ∧ b ≠ 0x5b ∧ b ≠ 0x5d ∧ b ≠ 0x7b)
          ∧ 0x6e ≠ b
          ∧ 0x74 ≠ b
          ∧ 0x66 ≠ b := by
  decide

/-- A document starts with something that is neither a blank nor a closing bracket. -/
theorem render_front {depth : Nat} {document : Json} (fits : Fits depth document)
    (escaping : Escaping) (indent : Nat)
    : ∃ b tail,
        document.render escaping indent = b :: tail ∧ isBlank b = false ∧ b ≠ 0x5d := by
  obtain ⟨null, true', false'⟩ := words
  cases fits with
  | null => exact ⟨_, _, null, rfl, by decide⟩
  | @bool _ b =>
      cases b
      · exact ⟨_, _, false', rfl, by decide⟩
      · exact ⟨_, _, true', rfl, by decide⟩
  | number reads =>
      obtain ⟨first, tail, rfl, digit⟩ := reads.front
      obtain ⟨stands, ⟨-, -, bracket, -⟩, -⟩ := numeral_front first digit
      exact ⟨first, tail, rfl, stands, bracket⟩
  | text => exact ⟨_, _, rfl, rfl, by decide⟩
  | array | object =>
      rw [render, block]
      split
      · exact ⟨_, _, rfl, rfl, by decide⟩
      · exact ⟨_, _, rfl, rfl, by decide⟩

/-- What is enough fuel for a document is some fuel. -/
theorem fuel_succ {depth fuel : Nat} {document : Json} (fits : Fits depth document)
    {escaping : Escaping} {indent : Nat}
    (enough : 2 * (document.render escaping indent).length ≤ fuel)
    : ∃ n, fuel = n + 1 ∧ 2 * (document.render escaping indent).length ≤ n + 1 := by
  obtain ⟨b, tail, parts, -⟩ := render_front fits escaping indent
  rw [parts, List.length_cons] at enough ⊢
  exact ⟨fuel - 1, by omega, by omega⟩

theorem readsBack_null (depth : Nat) : ReadsBack depth .null := by
  intro escaping indent fuel rest enough ends
  obtain ⟨fuel, rfl, -⟩ := fuel_succ (@Fits.null depth) enough
  have parts : Json.null.render escaping indent ++ rest = Bytes.ofString "null" ++ rest := rfl
  have front : Bytes.ofString "null" ++ rest = 0x6e :: ([0x75, 0x6c, 0x6c] ++ rest) := by
    rw [words.1]
    rfl
  rw [parts, front, documentFrom_scalar fuel depth rfl (by decide) (by decide) (by decide), ← front,
    scalar?, after?_append]
  rfl

theorem readsBack_bool (depth : Nat) (b : Bool) : ReadsBack depth (.bool b) := by
  intro escaping indent fuel rest enough ends
  obtain ⟨null, true', false'⟩ := words
  obtain ⟨fuel, rfl, -⟩ := fuel_succ (@Fits.bool depth b) enough
  cases b with
  | true =>
      have parts
          : (Json.bool true).render escaping indent ++ rest = Bytes.ofString "true" ++ rest := rfl
      have front : Bytes.ofString "true" ++ rest = 0x74 :: ([0x72, 0x75, 0x65] ++ rest) := by
        rw [true']
        rfl
      rw [parts, front, documentFrom_scalar fuel depth rfl (by decide) (by decide) (by decide),
        scalar?, after?_none null (by decide), ← front, after?_append]
      rfl
  | false =>
      have parts
          : (Json.bool false).render escaping indent ++ rest = Bytes.ofString "false" ++ rest := rfl
      have front : Bytes.ofString "false" ++ rest = 0x66 :: ([0x61, 0x6c, 0x73, 0x65] ++ rest) := by
        rw [false']
        rfl
      rw [parts, front, documentFrom_scalar fuel depth rfl (by decide) (by decide) (by decide),
        scalar?, after?_none null (by decide), after?_none true' (by decide), ← front,
        after?_append]
      rfl

theorem readsBack_number (depth : Nat) {numeral : Bytes} (reads : Numeral numeral)
    : ReadsBack depth (.number numeral) := by
  intro escaping indent fuel rest enough ends
  obtain ⟨null, true', false'⟩ := words
  obtain ⟨fuel, rfl, -⟩ := fuel_succ (@Fits.number depth _ reads) enough
  have read := reads.reads rest ends
  obtain ⟨first, tail, rfl, digit⟩ := reads.front
  obtain ⟨stands, ⟨quote, bracket, -, brace⟩, n, t, f⟩ := numeral_front first digit
  have parts
      : (Json.number (first :: tail)).render escaping indent ++ rest = first :: (tail ++ rest) :=
    rfl
  rw [parts, documentFrom_scalar fuel depth stands quote bracket brace, scalar?,
    after?_none null n, after?_none true' t, after?_none false' f]
  dsimp only
  rw [← List.cons_append, read]
  rfl

theorem readsBack_text (depth : Nat) (s : Bytes) : ReadsBack depth (.text s) := by
  intro escaping indent fuel rest enough ends
  obtain ⟨fuel, rfl, -⟩ := fuel_succ (@Fits.text depth s) enough
  obtain ⟨body, parts, read⟩ := text?_quoted escaping s rest
  have parts : (Json.text s).render escaping indent ++ rest = 0x22 :: body := parts
  rw [parts, documentFrom_quote, read]
  rfl

--------------------------------------------------------------------------------
-- Blocks
--------------------------------------------------------------------------------

/-- The parts of a block stand between the line breaks inside its brackets. -/
theorem block_append (opener closer : Byte) (indent : Nat) (part : Bytes) (parts : List Bytes)
    (rest : Bytes)
    : block opener closer indent (part :: parts) ++ rest
        = opener
          :: (lineBreak (indent + 1)
            ++ (Bytes.join (0x2c :: lineBreak (indent + 1)) (part :: parts)
              ++ (lineBreak indent ++ closer :: rest)))
      ∧ (Bytes.join (0x2c :: lineBreak (indent + 1)) (part :: parts)).length + 2
        ≤ (block opener closer indent (part :: parts)).length := by
  rw [block, if_neg (by simp)]
  generalize Bytes.join (0x2c :: lineBreak (indent + 1)) (part :: parts) = joined
  constructor
  · simp only [List.cons_append, List.append_assoc, List.nil_append]
  · simp only [List.length_append, List.length_cons, List.length_nil]
    omega

/-- Parts one after another start like the first one. -/
theorem join_front (separator : Bytes) {part : Bytes} {b : Byte} {tail : Bytes}
    (front : part = b :: tail) (parts : List Bytes)
    : ∃ more, Bytes.join separator (part :: parts) = b :: more := by
  cases parts with
  | nil => exact ⟨tail, by rw [Bytes.join, List.intercalate_singleton, front]⟩
  | cons next parts =>
      rw [Bytes.join, List.intercalate_cons_cons, front]
      exact ⟨_, List.cons_append⟩

--------------------------------------------------------------------------------
-- Elements
--------------------------------------------------------------------------------

theorem elementsFrom_last {fuel depth : Nat} {s after rest : Bytes} {element : Json}
    (read : documentFrom fuel depth s = some (element, after))
    (closed : skipBlank after = 0x5d :: rest)
    : elementsFrom (fuel + 1) depth s = some ([element], rest) := by
  rw [elementsFrom, read]
  dsimp only
  rw [closed]
  rfl

theorem elementsFrom_more {fuel depth : Nat} {s after rest : Bytes} {element : Json}
    (read : documentFrom fuel depth s = some (element, after))
    (separated : skipBlank after = 0x2c :: rest)
    : elementsFrom (fuel + 1) depth s
      = (elementsFrom fuel depth rest).map fun (found, after) => (element :: found, after) := by
  rw [elementsFrom, read]
  dsimp only
  rw [separated]
  rfl

theorem ends_comma (s : Bytes) : Ends (0x2c :: s) := by
  rintro b ⟨⟩
  exact .inl rfl

theorem ends_lineBreak (depth : Nat) (s : Bytes) : Ends (lineBreak depth ++ s) := by
  rintro b ⟨⟩
  exact .inr rfl

theorem skipBlank_lineBreak (depth : Nat) {b : Byte} (stands : isBlank b = false) (s : Bytes)
    : skipBlank (lineBreak depth ++ b :: s) = b :: s := by
  rw [skipBlank_append isBlank_of_mem_lineBreak, skipBlank_cons stands]

/-- Elements on lines of their own read back up to the closing bracket. -/
theorem elementsFrom_join {depth : Nat} {elements : List Json} (nonempty : elements ≠ [])
    (each : ∀ element ∈ elements, ReadsBack depth element) (escaping : Escaping)
    (inner outer : Nat) {fuel : Nat} (rest : Bytes)
    (enough
      : 2 * (Bytes.join (0x2c :: lineBreak inner) (renderElements escaping inner elements)).length + 1
        ≤ fuel)
    : elementsFrom fuel depth
        (Bytes.join (0x2c :: lineBreak inner) (renderElements escaping inner elements)
          ++ (lineBreak outer ++ 0x5d :: rest))
      = some (sanitizedElements elements, rest) := by
  induction elements generalizing fuel with
  | nil => exact absurd rfl nonempty
  | cons element others ih =>
      rw [List.forall_mem_cons] at each
      obtain ⟨fuel, rfl⟩ : ∃ n, fuel = n + 1 := ⟨fuel - 1, by omega⟩
      cases others with
      | nil =>
          rw [renderElements, renderElements, Bytes.join, List.intercalate_singleton] at enough ⊢
          exact elementsFrom_last (each.1 escaping inner fuel _ (by omega) (ends_lineBreak _ _))
            (skipBlank_lineBreak outer rfl rest)
      | cons next others =>
          have joined
              : Bytes.join (0x2c :: lineBreak inner)
                  (renderElements escaping inner (element :: next :: others))
                = element.render escaping inner
                  ++ 0x2c :: (lineBreak inner
                    ++ Bytes.join (0x2c :: lineBreak inner)
                      (renderElements escaping inner (next :: others))) := by
            rw [renderElements, renderElements, Bytes.join, List.intercalate_cons_cons,
              List.append_assoc]
            rfl
          rw [joined] at enough ⊢
          simp only [List.length_append, List.length_cons] at enough
          rw [List.append_assoc, List.cons_append]
          rw [elementsFrom_more (each.1 escaping inner fuel _ (by omega) (ends_comma _))
              (skipBlank_cons rfl _), List.append_assoc,
            elementsFrom_blank fuel depth isBlank_of_mem_lineBreak,
            ih (by simp) each.2 (by omega)]
          rfl

/-- An array of documents that read back reads back. -/
theorem readsBack_array {depth : Nat} {elements : List Json}
    (fits : ∀ element ∈ elements, Fits depth element)
    (each : ∀ element ∈ elements, ReadsBack depth element)
    : ReadsBack (depth + 1) (.array elements) := by
  intro escaping indent fuel rest enough ends
  obtain ⟨fuel, rfl, enough⟩ := fuel_succ (.array fits) enough
  rw [render] at enough ⊢
  cases elements with
  | nil => exact documentFrom_noElements fuel depth rest
  | cons element others =>
      obtain ⟨b, tail, front, stands, bracket⟩ :=
        render_front (fits element (.head _)) escaping (indent + 1)
      obtain ⟨parts, longer⟩ :=
        block_append 0x5b 0x5d indent (render escaping (indent + 1) element)
          (renderElements escaping (indent + 1) others) rest
      have read := @elementsFrom_join depth (element :: others) (List.cons_ne_nil _ _) each escaping
        (indent + 1) indent fuel rest
      rw [renderElements] at enough read ⊢
      rw [parts, documentFrom_elements,
        elementsFrom_blank fuel depth isBlank_of_mem_lineBreak, read (by omega)]
      · rfl
      · obtain ⟨more, joined⟩ := join_front (0x2c :: lineBreak (indent + 1)) front
          (renderElements escaping (indent + 1) others)
        rw [joined, List.cons_append, skipBlank_lineBreak _ stands]
        intro after same
        exact bracket (List.cons.inj same).1

--------------------------------------------------------------------------------
-- Members
--------------------------------------------------------------------------------

/-- A member as it is written. -/
def renderMember (escaping : Escaping) (indent : Nat) (member : Bytes × Json) : Bytes :=
  quoted escaping member.1 ++ ": " ++ member.2.render escaping indent

/-- The name of a member reads back, and so does its value behind the colon. -/
theorem renderMember_reads {depth : Nat} {member : Bytes × Json} (each : ReadsBack depth member.2)
    (escaping : Escaping) (indent : Nat) {fuel : Nat} {rest : Bytes}
    (enough : 2 * (renderMember escaping indent member).length ≤ fuel) (ends : Ends rest)
    : ∃ body colon,
        renderMember escaping indent member ++ rest = 0x22 :: body
        ∧ text? body = some (Utf8.sanitized member.1, 0x3a :: colon)
        ∧ documentFrom fuel depth colon = some (member.2.sanitized, rest) := by
  have separator : Bytes.ofString ": " = [0x3a, 0x20] := by decide
  have space : ∀ b ∈ ([0x20] : Bytes), isBlank b = true := by simp [isBlank]
  obtain ⟨body, parts, named⟩ := text?_quoted escaping member.1
    (0x3a :: ([0x20] ++ (member.2.render escaping indent ++ rest)))
  refine ⟨body, _, ?_, named, ?_⟩
  · rw [renderMember, separator, List.append_assoc, List.append_assoc, ← parts]
    rfl
  · rw [renderMember, List.length_append] at enough
    rw [documentFrom_blank fuel depth space]
    exact each escaping indent fuel rest (by omega) ends

theorem membersFrom_last {fuel depth : Nat} {body colon after rest : Bytes} {name : Bytes}
    {value : Json} (named : text? body = some (name, 0x3a :: colon))
    (read : documentFrom fuel depth colon = some (value, after))
    (closed : skipBlank after = 0x7d :: rest)
    : membersFrom (fuel + 1) depth (0x22 :: body) = some ([(name, value)], rest) := by
  have quote : skipBlank (0x22 :: body) = 0x22 :: body := skipBlank_cons rfl _
  have separator : skipBlank (0x3a :: colon) = 0x3a :: colon := skipBlank_cons rfl _
  simp only [membersFrom, quote, named, separator, read, closed]

theorem membersFrom_more {fuel depth : Nat} {body colon after rest : Bytes} {name : Bytes}
    {value : Json} (named : text? body = some (name, 0x3a :: colon))
    (read : documentFrom fuel depth colon = some (value, after))
    (separated : skipBlank after = 0x2c :: rest)
    : membersFrom (fuel + 1) depth (0x22 :: body)
      = (membersFrom fuel depth rest).map fun (found, after) => ((name, value) :: found, after) := by
  have quote : skipBlank (0x22 :: body) = 0x22 :: body := skipBlank_cons rfl _
  have separator : skipBlank (0x3a :: colon) = 0x3a :: colon := skipBlank_cons rfl _
  simp only [membersFrom, quote, named, separator, read, separated]

/-- Members on lines of their own read back up to the closing brace. -/
theorem membersFrom_join {depth : Nat} {members : List (Bytes × Json)} (nonempty : members ≠ [])
    (each : ∀ member ∈ members, ReadsBack depth member.2) (escaping : Escaping)
    (inner outer : Nat) {fuel : Nat} (rest : Bytes)
    (enough
      : 2 * (Bytes.join (0x2c :: lineBreak inner) (renderMembers escaping inner members)).length + 1
        ≤ fuel)
    : membersFrom fuel depth
        (Bytes.join (0x2c :: lineBreak inner) (renderMembers escaping inner members)
          ++ (lineBreak outer ++ 0x7d :: rest))
      = some (sanitizedMembers members, rest) := by
  induction members generalizing fuel with
  | nil => exact absurd rfl nonempty
  | cons member others ih =>
      rw [List.forall_mem_cons] at each
      obtain ⟨fuel, rfl⟩ : ∃ n, fuel = n + 1 := ⟨fuel - 1, by omega⟩
      cases others with
      | nil =>
          have alone
              : Bytes.join (0x2c :: lineBreak inner) (renderMembers escaping inner [member])
                = renderMember escaping inner member :=
            List.intercalate_singleton ..
          rw [alone] at enough ⊢
          obtain ⟨body, colon, parts, named, read⟩ :=
            renderMember_reads each.1 escaping inner (show _ ≤ fuel by omega)
              (ends_lineBreak outer (0x7d :: rest))
          rw [parts]
          exact membersFrom_last named read (skipBlank_lineBreak outer rfl rest)
      | cons next others =>
          have joined
              : Bytes.join (0x2c :: lineBreak inner)
                  (renderMembers escaping inner (member :: next :: others))
                = renderMember escaping inner member
                  ++ 0x2c :: (lineBreak inner
                    ++ Bytes.join (0x2c :: lineBreak inner)
                      (renderMembers escaping inner (next :: others))) := by
            rw [renderMembers, renderMembers, Bytes.join, List.intercalate_cons_cons,
              List.append_assoc]
            rfl
          rw [joined] at enough ⊢
          simp only [List.length_append, List.length_cons] at enough
          rw [List.append_assoc, List.cons_append]
          obtain ⟨body, colon, parts, named, read⟩ :=
            renderMember_reads each.1 escaping inner (show _ ≤ fuel by omega) (ends_comma _)
          rw [parts, membersFrom_more named read (skipBlank_cons rfl _), List.append_assoc,
            membersFrom_blank fuel depth isBlank_of_mem_lineBreak, ih (by simp) each.2 (by omega)]
          rfl

/-- An object whose values read back reads back. -/
theorem readsBack_object {depth : Nat} {members : List (Bytes × Json)}
    (fits : ∀ member ∈ members, Fits depth member.2)
    (each : ∀ member ∈ members, ReadsBack depth member.2)
    : ReadsBack (depth + 1) (.object members) := by
  intro escaping indent fuel rest enough ends
  obtain ⟨fuel, rfl, enough⟩ := fuel_succ (.object fits) enough
  rw [render] at enough ⊢
  cases members with
  | nil => exact documentFrom_noMembers fuel depth rest
  | cons member others =>
      obtain ⟨tail, front⟩ : ∃ tail, renderMember escaping (indent + 1) member = 0x22 :: tail :=
        ⟨_, rfl⟩
      obtain ⟨parts, longer⟩ :=
        block_append 0x7b 0x7d indent (renderMember escaping (indent + 1) member)
          (renderMembers escaping (indent + 1) others) rest
      have read := @membersFrom_join depth (member :: others) (List.cons_ne_nil _ _) each escaping
        (indent + 1) indent fuel rest
      have first
          : renderMembers escaping (indent + 1) (member :: others)
            = renderMember escaping (indent + 1) member
              :: renderMembers escaping (indent + 1) others :=
        rfl
      rw [first] at enough read ⊢
      rw [parts, documentFrom_members,
        membersFrom_blank fuel depth isBlank_of_mem_lineBreak, read (by omega)]
      · rfl
      · obtain ⟨more, joined⟩ := join_front (0x2c :: lineBreak (indent + 1)) front
          (renderMembers escaping (indent + 1) others)
        rw [joined, List.cons_append, skipBlank_lineBreak _ rfl]
        intro after same
        cases same

--------------------------------------------------------------------------------
-- Documents
--------------------------------------------------------------------------------

theorem readsBack {depth : Nat} {document : Json} (fits : Fits depth document)
    : ReadsBack depth document := by
  induction fits with
  | null => exact readsBack_null _
  | bool => exact readsBack_bool _ _
  | number reads => exact readsBack_number _ reads
  | text => exact readsBack_text _ _
  | array each ih => exact readsBack_array each ih
  | object each ih => exact readsBack_object each ih

/-- A printed document reads back, with the replacement character for stray bytes. -/
theorem parse?_print {document : Json} (fits : Fits depthLimit document) (escaping : Escaping)
    : parse? (document.print escaping) = some document.sanitized := by
  have read := readsBack fits escaping 0 (2 * (document.print escaping).length + 2) []
    (Nat.le_add_right _ 2) (by rintro b ⟨⟩)
  rw [List.append_nil, ← print] at read
  rw [parse?, read]
  rfl

end FormMigrate.Json
