import FormMigrate.Hcl.Syntax
import FormMigrate.Hcl.Value

/-! The values of expressions in attribute files. An expression at fault still has a value, of which
at most the type is known, so that one that is not chosen does no harm.
-/

namespace FormMigrate.Hcl

/-- The values of the names that expressions may use. -/
abbrev Scope := List (Bytes × Value)

/-- The value of an expression and whether nothing in it is at fault. -/
structure Outcome where
  value : Value
  sound : Bool := true

namespace Outcome

/-- The outcome of an expression at fault. -/
def fault : Outcome := ⟨.nothing, false⟩

/-- The outcome of an expression at fault whose type is certain. -/
def faultOf (type : Ty) : Outcome := ⟨.unknown type, false⟩

/-- An outcome that is sound only if something else is. -/
def given (sound : Bool) (outcome : Outcome) : Outcome :=
  { outcome with sound := sound && outcome.sound }

end Outcome

namespace Value

--------------------------------------------------------------------------------
-- Parts of values
--------------------------------------------------------------------------------

/-- The member of a value under a name. -/
def member (value : Value) (name : Bytes) : Outcome :=
  match value with
  | .object members | .map _ members =>
      match members.lookup name.normal with
      | some found => ⟨found, true⟩
      | none => .fault
  | .unknown .any => ⟨.nothing, true⟩
  | .unknown (.object members) =>
      match members.lookup name.normal with
      | some type => ⟨.unknown type, true⟩
      | none => .fault
  | .unknown (.map element) => ⟨.unknown element, true⟩
  | _ => .fault

/-- The element of some elements under a number. -/
def elementAt (elements : List Value) (key : WideFloat) : Outcome :=
  match key.toInt? 64 with
  | some (.ofNat n) =>
      match elements[n]? with
      | some found => ⟨found, true⟩
      | none => .fault
  | _ => .fault

/-- The part of a sequence under a key, which has to be a number. A number that is not known gives
another value.
-/
def placeOf (elements : List Value) (other : Value) (key : Value) : Outcome :=
  match key.convert? .number with
  | some (.number n) => elementAt elements n
  | some _ => ⟨other, true⟩
  | none => .fault

/-- The part of a value under a key in brackets. -/
def part (value key : Value) : Outcome :=
  if value.isNull || key.isNull then .fault
  else if value.type.isAny || key.type.isAny then ⟨.nothing, true⟩
  else
    match value with
    | .tuple elements => placeOf elements .nothing key
    | .list element elements => placeOf elements (.unknown element) key
    | .map element members =>
        match key.convert? .text with
        | some (.text name) =>
            match members.lookup name with
            | some found => ⟨found, true⟩
            | none => .fault
        | some _ => ⟨.unknown element, true⟩
        | none => .fault
    | .object members =>
        match key.convert? .text with
        | some (.text name) =>
            match members.lookup name with
            | some found => ⟨found, true⟩
            | none => .fault
        | some _ => ⟨.nothing, true⟩
        | none => .fault
    | .unknown (.tuple _) =>
        if (key.convert? .number).isSome then ⟨.nothing, true⟩ else .fault
    | .unknown (.list element) =>
        if (key.convert? .number).isSome then ⟨.unknown element, true⟩ else .fault
    | .unknown (.map element) =>
        if (key.convert? .text).isSome then ⟨.unknown element, true⟩ else .fault
    | .unknown (.object _) =>
        if (key.convert? .text).isSome then ⟨.nothing, true⟩ else .fault
    | _ => .fault

/-- The elements of a value with their keys: places count from zero, and members come in the order
of their names.
-/
def elements? : Value → Option (List (Value × Value))
  | .tuple es | .list _ es =>
      some (es.zipIdx.map fun (e, i) => (.number (WideFloat.ofNat i), e))
  | .object ms | .map _ ms => some (ms.map fun (name, v) => (.text name, v))
  | _ => none

/-- Whether a type has elements. -/
def hasElements : Ty → Bool
  | .list _ | .map _ | .tuple _ | .object _ => true
  | _ => false

--------------------------------------------------------------------------------
-- Operators
--------------------------------------------------------------------------------

/-- A truth value that may be open. -/
def ofBool? : Option Bool → Value
  | some b => .bool b
  | none => .unknown .bool

/-- The outcome of an operator on two numbers. -/
def onNumbers (result : Ty) (f : WideFloat → WideFloat → Option Value) (a b : Value) : Outcome :=
  match a.convert? .number, b.convert? .number with
  | some (.number x), some (.number y) =>
      match f x y with
      | some value => ⟨value, true⟩
      | none => .faultOf result
  | some (.null _), some _ | some _, some (.null _) => .faultOf result
  | some _, some _ => ⟨.unknown result, true⟩
  | _, _ => .faultOf result

/-- The outcome of an operator on two truth values. -/
def onBools (f : Bool → Bool → Bool) (a b : Value) : Outcome :=
  match a.convert? .bool, b.convert? .bool with
  | some (.bool x), some (.bool y) => ⟨.bool (f x y), true⟩
  | some (.null _), some _ | some _, some (.null _) => .faultOf .bool
  | some _, some _ => ⟨.unknown .bool, true⟩
  | _, _ => .faultOf .bool

/-- The outcome of arithmetic on two numbers. -/
def arithmetic (f : WideFloat → WideFloat → Option WideFloat) : Value → Value → Outcome :=
  onNumbers .number fun x y => (f x y).map .number

/-- The outcome of a comparison of two numbers. -/
def comparison (f : WideFloat → WideFloat → Bool) : Value → Value → Outcome :=
  onNumbers .bool fun x y => some (.bool (f x y))

/-- The type of an operator's values. -/
def operatorType : Operator → Ty
  | .add | .subtract | .multiply | .divide | .modulo => .number
  | _ => .bool

/-- The outcome of an operator between two values. -/
def operate (operator : Operator) (a b : Value) : Outcome :=
  match operator with
  | .equal => ⟨ofBool? (a.equals? b), true⟩
  | .notEqual => ⟨ofBool? ((a.equals? b).map (!·)), true⟩
  | .or => onBools (· || ·) a b
  | .and => onBools (· && ·) a b
  | .greaterEqual => comparison (fun x y => y.less x || x.same y) a b
  | .greater => comparison (fun x y => y.less x) a b
  | .lessEqual => comparison (fun x y => x.less y || x.same y) a b
  | .less => comparison WideFloat.less a b
  | .add => arithmetic WideFloat.add? a b
  | .subtract => arithmetic WideFloat.subtract? a b
  | .multiply => arithmetic WideFloat.multiply? a b
  | .divide => arithmetic WideFloat.divide? a b
  | .modulo => arithmetic WideFloat.modulo? a b

/-- The outcome of an operator between two outcomes, which only sound ones reach. -/
def operateOn (operator : Operator) (a b : Outcome) : Outcome :=
  if a.sound && b.sound then operate operator a.value b.value else .faultOf (operatorType operator)

/-- The outcome of a minus sign. -/
def negateOf (a : Outcome) : Outcome :=
  match a.sound, a.value.convert? .number with
  | true, some (.number x) => ⟨.number x.negate, true⟩
  | true, some (.unknown _) => ⟨.unknown .number, true⟩
  | _, _ => .faultOf .number

/-- The outcome of a denial. -/
def notOf (a : Outcome) : Outcome :=
  match a.sound, a.value.convert? .bool with
  | true, some (.bool b) => ⟨.bool !b, true⟩
  | true, some (.unknown _) => ⟨.unknown .bool, true⟩
  | _, _ => .faultOf .bool

--------------------------------------------------------------------------------
-- Choices, templates and collections
--------------------------------------------------------------------------------

/-- The type of a choice between two values. A plain null takes the type of the other one. -/
def choiceType? (yes no : Value) : Option Ty :=
  match yes, no with
  | .null .any, _ => some no.type
  | _, .null .any => some yes.type
  | _, _ =>
      if yes.type.isAny || no.type.isAny then some .any else Ty.common? [yes.type, no.type]

/-- The outcome of a choice. Only the chosen outcome has to be sound. -/
def choose (condition yes no : Outcome) : Outcome :=
  match choiceType? yes.value no.value with
  | none => .fault
  | some type =>
      match condition.value.isNull, condition.value.convert? .bool with
      | false, some (.bool b) =>
          let chosen := if b then yes else no
          match chosen.value.convert? type with
          | some value => ⟨value, condition.sound && chosen.sound⟩
          | none => .faultOf type
      | false, some _ =>
          if yes.value.isNull && no.value.isNull then ⟨.null type, condition.sound⟩
          else ⟨.unknown type, condition.sound⟩
      | _, _ => .faultOf type

/-- A template while its parts are put together. -/
structure TextDraft where
  text : Bytes := []
  isKnown : Bool := true
  sound : Bool := true

/-- Adds a part to a template. Null and values without text are faults. -/
def TextDraft.add (draft : TextDraft) (part : Outcome) : TextDraft :=
  let sound := draft.sound && part.sound
  if part.value.isNull then { draft with sound := false }
  else if !part.value.isKnown then { draft with isKnown := false, sound }
  else
    match part.value.convert? .text with
    | some (.text s) => { draft with text := draft.text ++ s, sound }
    | _ => { draft with sound := false }

/-- The outcome of a template. -/
def TextDraft.outcome (draft : TextDraft) : Outcome :=
  ⟨if draft.isKnown then ofText draft.text else .unknown .text, draft.sound⟩

/-- The outcome of joining the texts of a tuple. -/
def joinOf (tuple : Outcome) : Outcome :=
  match tuple.value with
  | .tuple elements =>
      let parts := elements.map fun v => (⟨v, true⟩ : Outcome)
      (parts.foldl TextDraft.add {}).outcome.given tuple.sound
  | _ => ⟨.unknown .text, tuple.sound⟩

/-- The outcome of a tuple of outcomes. -/
def tupleOf (elements : List Outcome) : Outcome :=
  ⟨.tuple (elements.map Outcome.value), elements.all Outcome.sound⟩

/-- An object while its members are evaluated. -/
structure ObjectDraft where
  members : List (Bytes × Value) := []
  isKnown : Bool := true
  sound : Bool := true

/-- Adds a member under a key. The last member under a key counts. -/
def ObjectDraft.add (draft : ObjectDraft) (key value : Outcome) : ObjectDraft :=
  let sound := draft.sound && key.sound && value.sound
  if !key.sound || key.value.isNull then { draft with isKnown := false, sound := false }
  else
    match key.value.convert? .text with
    | some (.text name) => { draft with members := insert name value.value draft.members, sound }
    | some _ => { draft with isKnown := false, sound }
    | none => { draft with isKnown := false, sound := false }

/-- The outcome of an object. -/
def ObjectDraft.outcome (draft : ObjectDraft) : Outcome :=
  ⟨if draft.isKnown then .object draft.members else .nothing, draft.sound⟩

/-- The scope inside a loop. -/
def loopScope (scope : Scope) (key : Option Bytes) (value : Bytes) (element : Value × Value)
    : Scope :=
  (value, element.2) :: (key.map fun k => (k, element.1)).toList ++ scope

/-- Whether the outcome of a condition is no fault of a loop. -/
def isCondition (condition : Outcome) : Bool :=
  condition.sound && !condition.value.isNull && (condition.value.convert? .bool).isSome

/-- The elements that a loop runs over, unless its outcome is certain without them: its condition is
tried first with elements of which nothing is known.
-/
def loopElements (collection : Outcome) (trial : Outcome) : Except Outcome (List (Value × Value)) :=
  let value := collection.value
  if value.isNull then .error .fault
  else if value.type.isAny then .error ⟨.nothing, collection.sound⟩
  else if !hasElements value.type then .error .fault
  else
    match value.elements? with
    | none => .error ⟨.nothing, collection.sound⟩
    | some elements =>
        if isCondition trial then .ok elements
        else .error .fault

/-- Whether a loop takes an element, by the outcome of its condition; it may be open. -/
def taken (condition : Outcome) : Option Bool :=
  if condition.value.isNull then none
  else
    match condition.value.convert? .bool with
    | some (.bool b) => some b
    | _ => none

/-- The outcome of a loop that makes a tuple, from the outcomes of its condition and its result for
each element.
-/
def loopTuple (sound : Bool) (rounds : List (Outcome × Outcome)) : Outcome :=
  let results := (rounds.filter fun r => taken r.1 == some true).map Prod.snd
  let sound := sound && rounds.all (fun r => isCondition r.1) && results.all Outcome.sound
  if rounds.all fun r => (taken r.1).isSome then ⟨.tuple (results.map Outcome.value), sound⟩
  else ⟨.nothing, sound⟩

/-- The members with a value added to those of one name. -/
def addToGroup (groups : List (Bytes × List Value)) (name : Bytes) (value : Value)
    : List (Bytes × List Value) :=
  insert name ((groups.lookup name).getD [] ++ [value]) groups

/-- The outcome of a loop that makes an object, from the outcomes of its condition, its name and its
result for each element. Only grouped results may share a name.
-/
def loopObject (grouped sound : Bool) (rounds : List (Outcome × Outcome × Outcome)) : Outcome :=
  let results := (rounds.filter fun r => taken r.1 == some true).map Prod.snd
  let named := results.map fun (name, result) => (name.value.convert? .text, result)
  let groups := named.foldl (fun groups (name, result) =>
    match name with
    | some (.text name) => addToGroup groups name result.value
    | _ => groups) []
  let isKnown := rounds.all (fun r => (taken r.1).isSome) && named.all fun (name, _) =>
    match name with
    | some (.text _) => true
    | _ => false
  let sound := sound && rounds.all (fun r => isCondition r.1)
    && results.all (fun (name, result) =>
      name.sound && !name.value.isNull && (name.value.convert? .text).isSome && result.sound)
    && (grouped || groups.all fun (_, values) => values.length == 1)
  let members := groups.map fun (name, values) =>
    (name, if grouped then .tuple values else values.head?.getD .nothing)
  if isKnown then ⟨.object members, sound⟩ else ⟨.nothing, sound⟩

/-- What a splat runs over: the elements of a sequence, or the value itself as the only one. -/
inductive SplatSource where
  | elements (isList : Bool) (values : List Value)
  | alone (value : Value)
  | settled (outcome : Outcome)

/-- What a splat of a value runs over. Null alone has no elements. -/
def splatSource : Value → SplatSource
  | .tuple es => .elements false es
  | .list _ es => .elements true es
  | .null (.tuple _) | .null (.list _) => .settled .fault
  | .null _ => .settled ⟨.tuple [], true⟩
  | .unknown .any => .settled ⟨.nothing, true⟩
  | .unknown (.tuple types) => .settled ⟨.unknown (.tuple (types.map fun _ => .any)), true⟩
  | .unknown (.list _) => .settled ⟨.unknown (.list .any), true⟩
  | v => .alone v

/-- The outcome of a splat from its outcomes for each element. -/
def splatOf (isList : Bool) (results : List Outcome) : Outcome :=
  let values := results.map Outcome.value
  if results.all Outcome.sound then
    if isList then ⟨.list ((types values).head?.getD .any) values, true⟩ else ⟨.tuple values, true⟩
  else .faultOf (if isList then .list ((types values).head?.getD .any) else .tuple (types values))

end Value

--------------------------------------------------------------------------------
-- Expressions
--------------------------------------------------------------------------------

/-- The outcome of a name that stands for a key. A path is no key, and every other expression is
evaluated.
-/
def keyOutcome? (key : Expr) : Option Outcome :=
  match key with
  | .name n => some ⟨.ofText n, true⟩
  | .null => some ⟨.text "null", true⟩
  | .bool b => some ⟨.text (if b then "true" else "false"), true⟩
  | key => if key.isPath then some .fault else none

mutual

/-- The outcome of an expression in a scope, where a splat may be at an element. There are no
functions to call.
-/
def eval : Expr → (scope : Scope) → (element : Value) → Outcome
  | .null, _, _ => ⟨.null .any, true⟩
  | .bool b, _, _ => ⟨.bool b, true⟩
  | .number n, _, _ => ⟨.number n, true⟩
  | .text s, _, _ => ⟨.text s, true⟩
  | .template parts, scope, element =>
      ((evalAll parts scope element).foldl Value.TextDraft.add {}).outcome
  | .join e, scope, element => Value.joinOf (eval e scope element)
  | .group e, scope, element => eval e scope element
  | .name n, scope, _ =>
      match scope.lookup n with
      | some value => ⟨value, true⟩
      | none => .fault
  | .element, _, element => ⟨element, true⟩
  | .call _ _, _, _ => .fault
  | .member e name, scope, element =>
      let found := eval e scope element
      (found.value.member name).given found.sound
  | .index e key, scope, element =>
      let found := eval e scope element
      let key := eval key scope element
      (found.value.part key.value).given (found.sound && key.sound)
  | .splat e each, scope, element =>
      let found := eval e scope element
      if !found.sound then .fault
      else
        match Value.splatSource found.value with
        | .settled outcome => outcome
        | .elements isList values =>
            Value.splatOf isList (values.map fun v => eval each scope v)
        | .alone value =>
            let result := eval each scope value
            if value.isKnown then Value.splatOf false [result] else ⟨.nothing, result.sound⟩
  | .tuple elements, scope, element => Value.tupleOf (evalAll elements scope element)
  | .object items, scope, element => (evalItems items scope element {}).outcome
  | .forTuple key value collection result condition, scope, element =>
      let collection := eval collection scope element
      let trial := Value.loopScope scope key value (.nothing, .nothing)
      match Value.loopElements collection (eval condition trial element) with
      | .error outcome => outcome
      | .ok elements =>
          Value.loopTuple collection.sound (elements.map fun e =>
            let inner := Value.loopScope scope key value e
            (eval condition inner element, eval result inner element))
  | .forObject key value collection name result condition grouped, scope, element =>
      let collection := eval collection scope element
      let trial := Value.loopScope scope key value (.nothing, .nothing)
      match Value.loopElements collection (eval condition trial element) with
      | .error outcome => outcome
      | .ok elements =>
          Value.loopObject grouped collection.sound (elements.map fun e =>
            let inner := Value.loopScope scope key value e
            (eval condition inner element, eval name inner element, eval result inner element))
  | .negate e, scope, element => Value.negateOf (eval e scope element)
  | .not e, scope, element => Value.notOf (eval e scope element)
  | .binary operator left right, scope, element =>
      Value.operateOn operator (eval left scope element) (eval right scope element)
  | .choice condition yes no, scope, element =>
      Value.choose (eval condition scope element) (eval yes scope element) (eval no scope element)

/-- The outcomes of expressions in order. -/
def evalAll : List Expr → (scope : Scope) → (element : Value) → List Outcome
  | [], _, _ => []
  | e :: rest, scope, element => eval e scope element :: evalAll rest scope element

/-- An object with further members. -/
def evalItems : List (Expr × Expr) → (scope : Scope) → (element : Value) → Value.ObjectDraft
    → Value.ObjectDraft
  | [], _, _, draft => draft
  | (key, e) :: rest, scope, element, draft =>
      let name := match keyOutcome? key with
        | some outcome => outcome
        | none => eval key scope element
      evalItems rest scope element (draft.add name (eval e scope element))

end

/-- The value of an expression that nothing is at fault in. -/
def evaluate? (scope : Scope) (e : Expr) : Option Value :=
  let found := eval e scope .nothing
  if found.sound then some found.value else none

end FormMigrate.Hcl
