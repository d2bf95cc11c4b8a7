import FormMigrate.Proofs.File.Path
import Mathlib.Data.List.Induction

/-! Going down from a path by the names of directory entries: joined one at a time or all at once
they make the same path, whose last names they are.
-/

namespace FormMigrate.Path

--------------------------------------------------------------------------------
-- Cleaned names
--------------------------------------------------------------------------------

/-- What an entry of a directory can be called. -/
structure IsName (name : Bytes) : Prop where
  nonempty : name ≠ []
  plain : (0x2f : Byte) ∉ name
  here : name ≠ Path.here
  parent : name ≠ Path.parent

instance (name : Bytes) : Decidable (IsName name) :=
  decidable_of_iff
    (name ≠ [] ∧ (0x2f : Byte) ∉ name ∧ name ≠ Path.here ∧ name ≠ Path.parent)
    ⟨fun ⟨nonempty, plain, here, parent⟩ => ⟨nonempty, plain, here, parent⟩,
      fun ⟨nonempty, plain, here, parent⟩ => ⟨nonempty, plain, here, parent⟩⟩

/-- Names, the last one first, that all stay when they are added one after another. -/
def Stable (absolute : Bool) : List Bytes → Prop
  | [] => True
  | name :: stack => push absolute stack name = name :: stack ∧ Stable absolute stack

/-- The names that are left of others in a cleaned path. -/
def cleaned (absolute : Bool) (names : List Bytes) : List Bytes :=
  (names.foldl (push absolute) []).reverse

variable {absolute : Bool} {name : Bytes}

theorem Stable.push {stack : List Bytes} (stable : Stable absolute stack) (name : Bytes)
    : Stable absolute (push absolute stack name) := by
  unfold Path.push
  split
  · exact stable
  · rename_i other
    split
    · rename_i up
      obtain rfl := beq_iff_eq.mp up
      split
      · split
        · trivial
        · rename_i relative
          exact ⟨by simp [Path.push, other, relative], trivial⟩
      · rename_i top below
        split
        · rename_i same
          exact ⟨by simp [Path.push, other, same], stable⟩
        · exact stable.2
    · rename_i down
      exact ⟨by simp [Path.push, other, down], stable⟩

theorem stable_foldl (names : List Bytes) {stack : List Bytes} (stable : Stable absolute stack)
    : Stable absolute (names.foldl (Path.push absolute) stack) := by
  induction names generalizing stack with
  | nil => exact stable
  | cons name rest ih => exact ih (stable.push name)

theorem Stable.foldl_reverse {stack : List Bytes} (stable : Stable absolute stack)
    : stack.reverse.foldl (Path.push absolute) [] = stack := by
  induction stack with
  | nil => rfl
  | cons name stack ih =>
      rw [List.reverse_cons, List.foldl_append, ih stable.2]
      exact stable.1

/-- Cleaning what is clean already changes nothing about what follows. -/
theorem cleaned_cleaned_append (names more : List Bytes)
    : cleaned absolute (cleaned absolute names ++ more) = cleaned absolute (names ++ more) := by
  have stable : Stable absolute (names.foldl (Path.push absolute) []) := stable_foldl names trivial
  rw [cleaned, cleaned, cleaned, List.foldl_append, stable.foldl_reverse, List.foldl_append]

/-- The names of directory entries stay. -/
theorem cleaned_append (names : List Bytes) {below : List Bytes} (named : ∀ name ∈ below, IsName name)
    : cleaned absolute (names ++ below) = cleaned absolute names ++ below := by
  induction below generalizing names with
  | nil => simp
  | cons name rest ih =>
      have one : cleaned absolute (names ++ [name]) = cleaned absolute names ++ [name] := by
        have proper := named name (.head _)
        rw [cleaned, List.foldl_append, List.foldl_cons, List.foldl_nil,
          push_name proper.here proper.parent, List.reverse_cons, cleaned]
      have rest := ih (names ++ [name]) fun other member => named other (.tail _ member)
      rw [List.append_assoc, List.singleton_append] at rest
      rw [rest, one, List.append_assoc, List.singleton_append]

theorem mem_push {stack : List Bytes} {other : Bytes} (member : other ∈ push absolute stack name)
    : other ∈ stack ∨ other = name := by
  unfold Path.push at member
  grind

theorem mem_foldl_push {names stack : List Bytes}
    (member : name ∈ names.foldl (push absolute) stack)
    : name ∈ stack ∨ name ∈ names := by
  induction names generalizing stack with
  | nil => exact .inl member
  | cons first rest ih =>
      rcases ih member with pushed | later
      · rcases mem_push pushed with member | rfl
        · exact .inl member
        · exact .inr (.head _)
      · exact .inr (.tail _ later)

theorem mem_of_mem_cleaned {names : List Bytes} (member : name ∈ cleaned absolute names)
    : name ∈ names :=
  (mem_foldl_push (List.mem_reverse.mp member)).resolve_left List.not_mem_nil

--------------------------------------------------------------------------------
-- Spelled names
--------------------------------------------------------------------------------

/-- A name that may stand in a path, those of a directory itself and of its parent included. -/
def IsPart (name : Bytes) : Prop := name ≠ [] ∧ (0x2f : Byte) ∉ name

theorem IsName.isPart (h : IsName name) : IsPart name := ⟨h.nonempty, h.plain⟩

theorem not_mem_of_mem_split {sep : Byte} {s piece : Bytes} (member : piece ∈ Bytes.split sep s)
    : sep ∉ piece := by
  rw [Bytes.split] at member
  induction s generalizing piece with
  | nil =>
      obtain rfl := List.mem_singleton.mp member
      exact List.not_mem_nil
  | cons c rest ih =>
      rw [List.splitOn_cons_eq_if_modifyHead] at member
      split at member
      · rcases List.mem_cons.mp member with rfl | member
        · exact List.not_mem_nil
        · exact ih member
      · rename_i other
        obtain ⟨first, others, pieces⟩ :=
          List.exists_cons_of_ne_nil (List.splitOn_ne_nil sep rest)
        rw [pieces] at member ih
        rcases List.mem_cons.mp member with rfl | member
        · rw [List.mem_cons, not_or]
          exact ⟨fun same => other (beq_iff_eq.mpr same.symm), ih (.head _)⟩
        · exact ih (.tail _ member)

theorem isPart_of_mem_names {path : Bytes} (member : name ∈ names path) : IsPart name := by
  obtain ⟨piece, nonempty⟩ := List.mem_filter.mp member
  exact ⟨by simpa using nonempty, not_mem_of_mem_split piece⟩

/-- The cleaned path with the given names. -/
def spell (absolute : Bool) (names : List Bytes) : Bytes :=
  let body := Bytes.join [0x2f] names
  if absolute then 0x2f :: body else if body.isEmpty then here else body

theorem clean_eq (path : Bytes)
    : clean path = spell (isAbsolute path) (cleaned (isAbsolute path) (names path)) := by
  have separator : Bytes.ofString "/" = [0x2f] := by decide
  rw [clean, separator]
  rfl

theorem names_join {parts : List Bytes} (each : ∀ part ∈ parts, IsPart part)
    : names (Bytes.join [0x2f] parts) = parts := by
  induction parts with
  | nil => rfl
  | cons part rest ih =>
      have own := names_of_not_mem (each part (.head _)).1 (each part (.head _)).2
      have others := ih fun other member => each other (.tail _ member)
      rw [Bytes.join] at *
      by_cases last : rest = []
      · rw [last, List.intercalate_singleton, own]
      · rw [List.intercalate_cons_of_ne_nil last, List.append_assoc, List.singleton_append,
          names_slash, own, others, List.singleton_append]

theorem names_spell {parts : List Bytes} (some : parts ≠ []) (each : ∀ part ∈ parts, IsPart part)
    : names (spell absolute parts) = parts := by
  have body := names_join each
  unfold spell
  dsimp only
  split
  · exact (names_slash [] _).trans body
  · rw [if_neg, body]
    intro empty
    rw [List.isEmpty_iff.mp empty] at body
    exact some body.symm

/-- Names that are joined start with none of the slashes between them. -/
theorem isAbsolute_join {parts : List Bytes} (each : ∀ part ∈ parts, IsPart part)
    : isAbsolute (Bytes.join [0x2f] parts) = false := by
  cases parts with
  | nil => rfl
  | cons part rest =>
      obtain ⟨nonempty, plain⟩ := each part (.head _)
      obtain ⟨c, part, rfl⟩ := List.exists_cons_of_ne_nil nonempty
      have relative : c ≠ 0x2f := fun slash => plain (slash ▸ .head _)
      rw [Bytes.join]
      by_cases last : rest = []
      · rw [last, List.intercalate_singleton]
        simpa [isAbsolute] using relative
      · rw [List.intercalate_cons_of_ne_nil last]
        simpa [isAbsolute] using relative

theorem isAbsolute_spell {parts : List Bytes} (each : ∀ part ∈ parts, IsPart part)
    : isAbsolute (spell absolute parts) = absolute := by
  have relative := isAbsolute_join each
  unfold spell
  dsimp only
  cases absolute with
  | true => rfl
  | false =>
      rw [if_neg Bool.false_ne_true]
      split
      · rfl
      · exact relative

--------------------------------------------------------------------------------
-- Going down
--------------------------------------------------------------------------------

/-- The names that paths below another one start with. -/
def above (path : Bytes) : List Bytes := cleaned (isAbsolute path) (names path)

variable {path : Bytes} {below : List Bytes}

theorem above_parts (named : ∀ name ∈ below, IsName name)
    : ∀ part ∈ above path ++ below, IsPart part := by
  intro part member
  rcases List.mem_append.mp member with member | member
  · exact isPart_of_mem_names (mem_of_mem_cleaned member)
  · exact (named part member).isPart

/-- A path and names below it, joined all at once. -/
theorem join_below (some : below ≠ []) (named : ∀ name ∈ below, IsName name)
    : join (path :: below) = spell (isAbsolute path) (above path ++ below) := by
  have separator : Bytes.ofString "/" = [0x2f] := by decide
  have used : below.filter (fun part => !part.isEmpty) = below := by
    rw [List.filter_eq_self]
    intro part member
    simpa using (named part member).nonempty
  have each : ∀ part ∈ below, IsPart part := fun part member => (named part member).isPart
  have parts := names_join each
  cases path with
  | nil =>
      have dropped : ([] :: below).filter (fun part : Bytes => !part.isEmpty) = below := used
      rw [join, dropped, if_neg (by simpa using some), separator, clean_eq, isAbsolute_join each, parts]
      exact congrArg (spell false) (cleaned_append [] named)
  | cons c path =>
      have kept : ((c :: path) :: below).filter (fun part => !part.isEmpty) = (c :: path) :: below :=
        congrArg ((c :: path) :: ·) used
      have whole
          : Bytes.join [0x2f] ((c :: path) :: below) = c :: path ++ 0x2f :: Bytes.join [0x2f] below := by
        rw [Bytes.join, List.intercalate_cons_of_ne_nil some, List.append_assoc]
        rfl
      have names_whole
          : names (c :: path ++ 0x2f :: Bytes.join [0x2f] below) = names (c :: path) ++ below := by
        rw [names_slash, parts]
      rw [join, kept, if_neg (by simp), separator, whole, clean_eq, names_whole,
        cleaned_append _ named, above]
      rfl

/-- Joining further names to a joined path is joining all names at once. -/
theorem join_join {name : Bytes} (some : below ≠ [])
    (named : ∀ other ∈ below ++ [name], IsName other)
    : join [join (path :: below), name] = join (path :: (below ++ [name])) := by
  have named' : ∀ other ∈ below, IsName other := fun other member =>
    named other (List.mem_append_left _ member)
  have last : ∀ other ∈ [name], IsName other := fun other member =>
    named other (List.mem_append_right _ member)
  have ne : above path ++ below ≠ [] := List.append_ne_nil_of_right_ne_nil _ some
  have parts := @above_parts path below named'
  have same : above (spell (isAbsolute path) (above path ++ below)) = above path ++ below := by
    rw [above, names_spell ne parts, isAbsolute_spell parts, above,
      cleaned_cleaned_append, cleaned_append _ named']
  rw [join_below some named', join_below (List.cons_ne_nil _ _) last, isAbsolute_spell parts, same,
    join_below (List.concat_ne_nil _ _) named, List.append_assoc]

/-- Names joined one at a time or all at once make the same path. -/
theorem descend_eq (some : below ≠ []) (named : ∀ name ∈ below, IsName name)
    : descend path below = join (path :: below) := by
  induction below using List.reverseRecOn with
  | nil => exact absurd rfl some
  | append_singleton front name ih =>
      have step : descend path (front ++ [name]) = join [descend path front, name] := by
        rw [descend, List.foldl_append]
        rfl
      rw [step]
      by_cases first : front = []
      · rw [first]
        rfl
      · rw [ih first fun other member => named other (List.mem_append_left _ member)]
        exact join_join first named

theorem names_descend (some : below ≠ []) (named : ∀ name ∈ below, IsName name)
    : names (descend path below) = above path ++ below := by
  rw [descend_eq some named, join_below some named,
    names_spell (List.append_ne_nil_of_right_ne_nil _ some) (above_parts named)]

/-- Different names lead to different paths. -/
theorem descend_inj {other : List Bytes} (some : below ≠ []) (some' : other ≠ [])
    (named : ∀ name ∈ below, IsName name) (named' : ∀ name ∈ other, IsName name)
    (same : descend path below = descend path other)
    : below = other := by
  have parts := congrArg names same
  rw [names_descend some named, names_descend some' named'] at parts
  exact List.append_cancel_left parts

/-- A path ends with what its entry is called. -/
theorem base_descend (named : ∀ name ∈ below, IsName name)
    : base (descend path below) = nameOf path below := by
  by_cases empty : below = []
  · rw [empty]
    rfl
  · have ends := List.getLast?_eq_some_getLast empty
    have last : (names (descend path below)).getLast? = some (below.getLast empty) := by
      rw [names_descend empty named, List.getLast?_append, ends]
      rfl
    rw [base_eq last, nameOf, ends]
    rfl

end FormMigrate.Path
