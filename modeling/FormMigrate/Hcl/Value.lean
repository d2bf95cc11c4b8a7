import FormMigrate.Hcl.Type
import FormMigrate.Number.WideText
import FormMigrate.Text.Normal

/-! Values in attribute files, their types and conversions. -/

namespace FormMigrate.Hcl

/-- The value of an expression. A value that is null or not known still has a type. The members of
objects and maps are in the order of their names.
-/
inductive Value where
  | null (type : Ty)
  | unknown (type : Ty)
  | bool (b : Bool)
  | number (n : WideFloat)
  | text (s : Bytes)
  | tuple (elements : List Value)
  | object (members : List (Bytes × Value))
  | list (element : Ty) (elements : List Value)
  | map (element : Ty) (members : List (Bytes × Value))

namespace Value

/-- The value of which nothing is known. -/
def nothing : Value := .unknown .any

/-- The value of a text in normal spelling. -/
def ofText (s : Bytes) : Value := .text s.normal

/-- The members with one more, which takes the place of one of the same name. -/
def insert {α : Type} (name : Bytes) (value : α) : List (Bytes × α) → List (Bytes × α)
  | [] => [(name, value)]
  | (n, v) :: rest =>
      if n == name then (name, value) :: rest
      else if Bytes.le name n then (name, value) :: (n, v) :: rest
      else (n, v) :: insert name value rest

/-- The members in the order of their names; of two of one name the last one counts. -/
def sorted {α : Type} (members : List (Bytes × α)) : List (Bytes × α) :=
  members.foldl (fun ms m => insert m.1 m.2 ms) []

mutual

/-- The type of a value. -/
def type : Value → Ty
  | .null t | .unknown t => t
  | .bool _ => .bool
  | .number _ => .number
  | .text _ => .text
  | .tuple es => .tuple (types es)
  | .object ms => .object (memberTypes ms)
  | .list e _ => .list e
  | .map e _ => .map e

/-- The types of some values. -/
def types : List Value → List Ty
  | [] => []
  | v :: rest => v.type :: types rest

/-- The types of some members. -/
def memberTypes : List (Bytes × Value) → List (Bytes × Ty)
  | [] => []
  | (name, v) :: rest => (name, v.type) :: memberTypes rest

end

/-- Whether a value is null. -/
def isNull : Value → Bool
  | .null _ => true
  | _ => false

/-- Whether a value is known. -/
def isKnown : Value → Bool
  | .unknown _ => false
  | _ => true

/-- A text as a truth value. -/
def boolOf? (s : Bytes) : Option Bool :=
  if s == Bytes.ofString "true" || s == Bytes.ofString "1" then some true
  else if s == Bytes.ofString "false" || s == Bytes.ofString "0" then some false
  else none

/-- A type with the unknown type replaced by that of a value. -/
def resolved (source : Ty) : Ty → Ty
  | .any => source
  | target => target

/-- The type of the elements of a collection made of elements of some types. -/
def elementType (wanted : Ty) (types : List Ty) : Ty :=
  if wanted.isAny then (Ty.common? types).getD .any else wanted

mutual

/-- A value as a value of a type that its own type converts to. It fails when a text spells no value
of the type or a member is missing.
-/
def convertTo (target : Ty) : Value → Option Value
  | .null t => some (.null (resolved t target))
  | .unknown t => some (.unknown (resolved t target))
  | .bool b =>
      match target with
      | .text => some (.text (if b then "true" else "false"))
      | _ => some (.bool b)
  | .number n =>
      match target with
      | .text => some (.text n.text)
      | _ => some (.number n)
  | .text s =>
      match target with
      | .number => (WideFloat.ofText? s).map .number
      | .bool => (boolOf? s).map .bool
      | _ => some (.text s)
  | .tuple es =>
      match target with
      | .list e =>
          let element := elementType e (types es)
          (convertEach element es).map (.list element)
      | .tuple ts => (convertPairs ts es).map .tuple
      | _ => some (.tuple es)
  | .object ms =>
      match target with
      | .map e =>
          let element := elementType e ((memberTypes ms).map Prod.snd)
          (convertMembers element ms).map (.map element)
      | .object ts =>
          (convertNamed ts ms).bind fun found =>
            if found.length == ts.length then some (.object found) else none
      | _ => some (.object ms)
  | .list e es =>
      match target with
      | .list wanted =>
          let element := resolved e wanted
          (convertEach element es).map (.list element)
      | _ => some (.list e es)
  | .map e ms =>
      match target with
      | .map wanted =>
          let element := resolved e wanted
          (convertMembers element ms).map (.map element)
      | .object ts =>
          (convertNamed ts ms).bind fun found =>
            if found.length == ts.length then some (.object found) else none
      | _ => some (.map e ms)

/-- Values as values of one type. -/
def convertEach (target : Ty) : List Value → Option (List Value)
  | [] => some []
  | v :: rest =>
      match v.convertTo target, convertEach target rest with
      | some v, some rest => some (v :: rest)
      | _, _ => none

/-- Values as values of a type each. -/
def convertPairs : List Ty → List Value → Option (List Value)
  | t :: ts, v :: rest =>
      match v.convertTo t, convertPairs ts rest with
      | some v, some rest => some (v :: rest)
      | _, _ => none
  | _, [] => some []
  | [], _ :: _ => none

/-- The values of members as values of one type. -/
def convertMembers (target : Ty) : List (Bytes × Value) → Option (List (Bytes × Value))
  | [] => some []
  | (name, v) :: rest =>
      match v.convertTo target, convertMembers target rest with
      | some v, some rest => some ((name, v) :: rest)
      | _, _ => none

/-- The members that have a type, as values of it. -/
def convertNamed (ts : List (Bytes × Ty)) : List (Bytes × Value) → Option (List (Bytes × Value))
  | [] => some []
  | (name, v) :: rest =>
      match ts.lookup name, convertNamed ts rest with
      | none, rest => rest
      | some t, some rest => (v.convertTo t).map fun v => (name, v) :: rest
      | some _, none => none

end

/-- A value as a value of a type. -/
def convert? (target : Ty) (value : Value) : Option Value :=
  if value.type == target then some value
  else if value.type.convertsTo target then value.convertTo target
  else none

/-- Both of two answers, either of which may be open. -/
def both : Option Bool → Option Bool → Option Bool
  | some true, b => b
  | some false, _ => some false
  | none, _ => none

mutual

/-- Whether two values are equal, unless that depends on something that is not known. Null is equal
to null alone.
-/
def equals? : Value → Value → Option Bool
  | .unknown _, _ | _, .unknown _ => none
  | .null _, v => some v.isNull
  | .bool a, .bool b => some (a == b)
  | .number a, .number b => some (a.same b)
  | .text a, .text b => some (a == b)
  | .tuple as, .tuple bs => if as.length == bs.length then equalAll? as bs else some false
  | .list a as, .list b bs =>
      if a == b && as.length == bs.length then equalAll? as bs else some false
  | .object as, .object bs => if as.length == bs.length then equalMembers? as bs else some false
  | .map a as, .map b bs =>
      if a == b && as.length == bs.length then equalMembers? as bs else some false
  | _, _ => some false

/-- Whether values are equal one by one. -/
def equalAll? : List Value → List Value → Option Bool
  | a :: as, b :: bs => both (equals? a b) (equalAll? as bs)
  | _, _ => some true

/-- Whether members are equal one by one. -/
def equalMembers? : List (Bytes × Value) → List (Bytes × Value) → Option Bool
  | (m, a) :: as, (n, b) :: bs =>
      if m == n then both (equals? a b) (equalMembers? as bs) else some false
  | _, _ => some true

end

end Value

end FormMigrate.Hcl
