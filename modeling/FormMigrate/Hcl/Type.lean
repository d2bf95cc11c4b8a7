import FormMigrate.Text.Bytes

/-! Types of values in attribute files, which values of one type can be values of another, and the
type that several types have in common.
-/

namespace FormMigrate.Hcl

/-- A type. The members of an object are in the order of their names. -/
inductive Ty where
  /-- A type that is not known yet. -/
  | any
  | text
  | number
  | bool
  | list (element : Ty)
  | map (element : Ty)
  | tuple (elements : List Ty)
  | object (members : List (Bytes × Ty))
  deriving BEq, Repr

namespace Ty

/-- Whether a type is not known. -/
def isAny : Ty → Bool
  | .any => true
  | _ => false

/-- Whether a type is one of lists. -/
def isList : Ty → Bool
  | .list _ => true
  | _ => false

/-- Whether a type is one of maps. -/
def isMap : Ty → Bool
  | .map _ => true
  | _ => false

/-- Whether a type is one of tuples. -/
def isTuple : Ty → Bool
  | .tuple _ => true
  | _ => false

/-- Whether a type is one of objects. -/
def isObject : Ty → Bool
  | .object _ => true
  | _ => false

/-- The type of the elements of a list or map. -/
def element : Ty → Ty
  | .list e | .map e => e
  | _ => .any

/-- The types of the elements of a tuple. -/
def elements : Ty → List Ty
  | .tuple es => es
  | _ => []

/-- The members of an object. -/
def members : Ty → List (Bytes × Ty)
  | .object ms => ms
  | _ => []

/-- How a type is preferred as the common one, lower ranks first: what everything of its kind can be
written as, the other types, and last the type that is not known.
-/
def rank : Ty → Nat
  | .text | .list _ | .map _ => 0
  | .any => 2
  | _ => 1

mutual

/-- How deep a type is nested. -/
def depth : Ty → Nat
  | .list e | .map e => e.depth + 1
  | .tuple es => depthOf es + 1
  | .object ms => memberDepth ms + 1
  | _ => 1

/-- How deep some types are nested at most. -/
def depthOf : List Ty → Nat
  | [] => 0
  | t :: rest => max t.depth (depthOf rest)

/-- How deep the types of some members are nested at most. -/
def memberDepth : List (Bytes × Ty) → Nat
  | [] => 0
  | (_, t) :: rest => max t.depth (memberDepth rest)

end

mutual

/-- Whether values of a type can be values of another one. Whether a text spells a number or a truth
value is not a matter of types. The fuel of this and the following functions bounds the depth.
-/
def convertsFrom : (fuel : Nat) → (source target : Ty) → Bool
  | 0, _, _ => false
  | fuel + 1, source, target =>
      source == target || match source, target with
        | _, .any | .any, _ => true
        | .number, .text | .bool, .text | .text, .number | .text, .bool => true
        | .list a, .list b | .map a, .map b => convertsFrom fuel a b
        | .tuple es, .list e =>
            if e.isAny then es.isEmpty || (commonFrom fuel es).isSome
            else es.all fun t => convertsFrom fuel t e
        | .object ms, .map e =>
            if e.isAny then ms.isEmpty || (commonFrom fuel (ms.map Prod.snd)).isSome
            else ms.all fun m => convertsFrom fuel m.2 e
        | .tuple as, .tuple bs =>
            as.length == bs.length && (as.zip bs).all fun p => convertsFrom fuel p.1 p.2
        | .object as, .object bs =>
            bs.all fun b => match as.lookup b.1 with
              | some a => convertsFrom fuel a b.2
              | none => false
        | .map e, .object bs => bs.all fun b => convertsFrom fuel e b.2
        | _, _ => false

/-- A type that values of all given types can have. -/
def commonFrom : (fuel : Nat) → List Ty → Option Ty
  | 0, _ => none
  | fuel + 1, types =>
      let every (kinds : List (Ty → Bool)) : Bool := types.all fun t => kinds.any fun kind => kind t
      let dynamic := types.any isAny
      if types.isEmpty then none
      else if types.any isMap && every [isMap, isAny] then
        if dynamic then some .any else (commonFrom fuel (types.map element)).map .map
      else if types.any isList && every [isList, isAny] then
        if dynamic then some .any else (commonFrom fuel (types.map element)).map .list
      else if types.any isObject && every [isObject, isAny] then
        if dynamic then some .any else commonObject fuel types
      else if types.any isTuple && every [isTuple, isAny] then
        if dynamic then some .any else commonTuple fuel types
      else if types.any isMap && every [isMap, isObject, isAny] then
        let asMap := (commonFrom fuel ((types.flatMap members).map Prod.snd)).map Ty.map
        let unified (m : Ty) : List Ty := types.map fun t => if t.isObject then m else t
        match asMap.bind fun m => commonFrom fuel (unified m) with
        | some (.map e) => some (.map e)
        | _ => preferred fuel types
      else if types.any isList && every [isList, isTuple, isAny] then
        let asList := (commonFrom fuel (types.flatMap elements)).map Ty.list
        let unified (l : Ty) : List Ty := types.map fun t => if t.isTuple then l else t
        match asList.bind fun l => commonFrom fuel (unified l) with
        | some (.list e) => some (.list e)
        | _ => preferred fuel types
      else if types.any isObject && types.any isTuple then none
      else preferred fuel types

/-- The first of the types, by preference, that all others can be. -/
def preferred : (fuel : Nat) → List Ty → Option Ty
  | 0, _ => none
  | fuel + 1, types =>
      (types.mergeSort fun a b => a.rank ≤ b.rank).find? fun target =>
        types.all fun source => convertsFrom fuel source target

/-- The common type of objects: an object when they have the same members, else a map. -/
def commonObject : (fuel : Nat) → List Ty → Option Ty
  | 0, _ => none
  | fuel + 1, types =>
      let names := ((types.head?.getD .any).members).map Prod.fst
      if types.all fun t => t.members.map Prod.fst == names then
        (names.mapM fun name =>
          (commonFrom fuel (types.map fun t => (t.members.lookup name).getD .any)).map fun t =>
            (name, t)).map .object
      else
        match commonFrom fuel ((types.flatMap members).map Prod.snd) with
        | some e =>
            if types.all fun t => convertsFrom fuel t (.map e) then some (.map e) else none
        | none => none

/-- The common type of tuples: a tuple when they have the same length, else a list. -/
def commonTuple : (fuel : Nat) → List Ty → Option Ty
  | 0, _ => none
  | fuel + 1, types =>
      let length := (types.head?.getD .any).elements.length
      if types.all fun t => t.elements.length == length then
        ((List.range length).mapM fun i =>
          commonFrom fuel (types.map fun t => (t.elements[i]?).getD .any)).map .tuple
      else
        match commonFrom fuel (types.flatMap elements) with
        | some e =>
            if types.all fun t => convertsFrom fuel t (.list e) then some (.list e) else none
        | none => none

end

/-- Enough fuel for types of a depth. -/
def fuelFor (types : List Ty) : Nat := 8 * (depthOf types + 1)

/-- Whether values of a type can be values of another one. -/
def convertsTo (source target : Ty) : Bool := convertsFrom (fuelFor [source, target]) source target

/-- A type that values of all given types can have. -/
def common? (types : List Ty) : Option Ty := commonFrom (fuelFor types) types

end Ty

end FormMigrate.Hcl
