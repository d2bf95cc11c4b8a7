import FormMigrate.Proofs.Scan.Arguments
import FormMigrate.Proofs.Scan.Enclosing

/-! Builder chains as data: calls of methods one behind the other, how they are written, and how
they are read back with the scanner's own means.
-/

namespace FormMigrate

--------------------------------------------------------------------------------
-- Chains
--------------------------------------------------------------------------------

/-- One call of a chain: a method and its arguments. -/
structure Link where
  method : Bytes
  args : List Bytes
  deriving DecidableEq, Repr

/-- The text of a call in a chain. -/
def Link.code (call : Link) : Bytes :=
  "->" ++ call.method ++ "(" ++ Bytes.join ", " call.args ++ ")"

namespace Chain

/-- What every chain of a builder starts with. -/
def root : Bytes := "html()"

/-- The text of a chain. -/
def code (calls : List Link) : Bytes := root ++ calls.flatMap Link.code

/-- The calls of a chain behind its root. A method ends at its parenthesis, and its arguments at the
parenthesis that matches.
-/
def calls? : Bytes → Option (List Link)
  | [] => some []
  | 0x2d :: 0x3e :: rest =>
      let opened := rest.dropWhile Byte.isNamePart
      if opened.head? = some 0x28 then
        match Extent.extract opened 0 with
        | .error _ => none
        | .ok extent =>
            (calls? (opened.drop (extent.closing + 1))).map fun others =>
              ⟨rest.takeWhile Byte.isNamePart, Argument.split extent.inner⟩ :: others
      else none
  | _ => none
termination_by s => s.length
decreasing_by
  have shorter := (List.dropWhile_suffix (l := rest) Byte.isNamePart).length_le
  simp only [List.length_drop, List.length_cons]
  omega

/-- The calls of a chain. -/
def read? (s : Bytes) : Option (List Link) :=
  if root.isPrefixOf s then calls? (s.drop root.length) else none

end Chain

--------------------------------------------------------------------------------
-- Reading what is written
--------------------------------------------------------------------------------

/-- A call whose method is a name and whose arguments all have a property. -/
structure Link.Holds (p : Bytes → Prop) (call : Link) : Prop where
  named : call.method.all Byte.isNamePart = true
  each : ∀ arg ∈ call.args, p arg

theorem Link.Holds.single {p : Bytes → Prop} {method arg : Bytes}
    (named : method.all Byte.isNamePart = true) (h : p arg)
    : Link.Holds p ⟨method, [arg]⟩ :=
  ⟨named, List.forall_mem_singleton.mpr h⟩

/-- Parentheses around a well-nested text match each other. -/
theorem Extent.extract_parentheses {inner : Bytes} (nested : WellNested inner) (rest : Bytes)
    : extract (0x28 :: (inner ++ 0x29 :: rest)) 0 = .ok ⟨inner, 0, inner.length + 1⟩ := by
  have closes : innerLength? 0x28 0x29 .outside 1 (inner ++ 0x29 :: rest) = some inner.length := by
    rw [innerLength?_wellNested rfl nested Nat.one_pos]
    simp [innerLength?, QuoteState.isInert, QuoteState.isDelimiter]
  refine extract_eq_ok_iff.mpr ⟨?_, rfl, Nat.add_comm ..⟩
  simp only [List.drop_zero, innerOf, closerOf?, beq_self_eq_true, ↓reduceIte, closes,
    List.take_left]

namespace Chain

/-- One call in front of a chain is read on its own, if its arguments are single ones. -/
theorem calls?_code {call : Link} (readable : call.Holds Argument.Single) (rest : Bytes)
    : calls? (call.code ++ rest) = (calls? rest).map (call :: ·) := by
  have named : ∀ c ∈ call.method, c.isNamePart = true := List.all_eq_true.mp readable.named
  have nested : WellNested (Bytes.join ", " call.args) :=
    .join (.of_scan rfl) fun arg member => (readable.each arg member).uncut.nested
  have written : call.code ++ rest
      = 0x2d :: 0x3e :: (call.method
        ++ 0x28 :: (Bytes.join ", " call.args ++ 0x29 :: rest)) := by
    simp only [Link.code, List.append_assoc]
    rfl
  have behind : (call.method ++ 0x28 :: (Bytes.join ", " call.args ++ 0x29 :: rest)).dropWhile
      Byte.isNamePart = 0x28 :: (Bytes.join ", " call.args ++ 0x29 :: rest) := by
    rw [List.dropWhile_append_of_pos named]
    rfl
  have name : (call.method ++ 0x28 :: (Bytes.join ", " call.args ++ 0x29 :: rest)).takeWhile
      Byte.isNamePart = call.method := by
    rw [List.takeWhile_append_of_pos named]
    simp [show Byte.isNamePart 0x28 = false from rfl]
  have args : Argument.split (Bytes.join ", " call.args) = call.args :=
    Argument.split_join_single readable.each
  have left : (0x28 :: (Bytes.join ", " call.args ++ 0x29 :: rest)).drop
      ((Bytes.join ", " call.args).length + 1 + 1) = rest := by
    rw [List.drop_succ_cons, List.drop_length_add_append]
    rfl
  rw [written, calls?]
  simp only [behind, name, List.head?_cons, ↓reduceIte, Extent.extract_parentheses nested, left, args]

/-- A chain of such calls is read back. -/
theorem read?_code {calls : List Link} (readable : ∀ call ∈ calls, call.Holds Argument.Single)
    : read? (code calls) = some calls := by
  have behind : calls? (calls.flatMap Link.code) = some calls := by
    induction calls with
    | nil => simp [calls?]
    | cons call others ih =>
        rw [List.forall_mem_cons] at readable
        rw [List.flatMap_cons, calls?_code readable.1, ih readable.2]
        rfl
  have front : root.isPrefixOf (code calls) = true :=
    List.isPrefixOf_iff_prefix.mpr (List.prefix_append _ _)
  rw [read?, if_pos front, code, List.drop_left, behind]

end Chain

end FormMigrate
