import FormMigrate.Proofs.Literal.RoundTrip
import FormMigrate.Proofs.Rule.Nesting
import FormMigrate.Proofs.Rule.StaticArrays
import FormMigrate.Proofs.Rule.Verbatim

/-! What an options array says about a form: it is decided by the lookups of a few names, and what
is written for it is read again.
-/

namespace FormMigrate

--------------------------------------------------------------------------------
-- Values that are looked up
--------------------------------------------------------------------------------

namespace Entries

variable {entries : Entries}

theorem settled_of_get? (settled : EntriesSettled entries) {key : Key} {v : Value}
    (found : entries.get? key = some v)
    : v.Settled := by
  induction entries with
  | nil => cases found
  | cons entry rest ih =>
      obtain ⟨k, value⟩ := entry
      obtain ⟨-, here, behind⟩ := settled
      rw [get?] at found
      split at found
      · exact Option.some.inj found ▸ here
      · exact ih behind found

/-- A value that is found in settled entries is settled. -/
theorem settled_of_lookup? (settled : EntriesSettled entries) {name : Bytes} {v : Value}
    (found : entries.lookup? name = some v)
    : v.Settled := by
  unfold lookup? at found
  split at found
  · cases found
  · exact settled_of_get? settled found

end Entries

namespace FormOptions

--------------------------------------------------------------------------------
-- What options say
--------------------------------------------------------------------------------

/-- An option is set if its key is there with a value other than null. -/
theorem lookup?_eq_some_iff {entries : Entries} {name : Bytes} {v : Value}
    : entries.lookup? name = some v ↔ entries.get? (Key.ofText name) = some v ∧ v ≠ .null := by
  unfold Entries.lookup?
  split
  · rename_i null
    rw [null]
    constructor
    · exact nofun
    · intro ⟨same, shown⟩
      exact absurd (Option.some.inj same).symm shown
  · rename_i other
    constructor
    · intro found
      exact ⟨found, fun null => other (null ▸ found)⟩
    · exact And.left

/-- The value of the first of several options that is set. -/
inductive Chosen (entries : Entries) : List String → Option Value → Prop
  | unset : Chosen entries [] none
  | here {name : String} {names : List String} {v : Value} (set : entries.lookup? name = some v)
    : Chosen entries (name :: names) (some v)
  | next {name : String} {names : List String} {chosen : Option Value}
    (unset : entries.lookup? name = none) (behind : Chosen entries names chosen)
    : Chosen entries (name :: names) chosen

/-- The method that an option names, in upper case, or the one of a form without options. -/
inductive IsMethod : Option Value → Bytes → Prop
  | named (v : Value) : IsMethod (some v) (Bytes.upper v.plain)
  | default : IsMethod none "POST"

/-- A route given as an array is called by its text at index zero. The other entries are its
parameters, numbered anew.
-/
inductive IsRoute (route : Entries) : Bytes → Prop
  | bare {name : Bytes} (names : route.lookup? "0" = some (.text name))
    (alone : ∀ entry ∈ route, entry.1 = .int 0)
    : IsRoute route ("route(" ++ quote name ++ ")")
  | parameters {name : Bytes} (names : route.lookup? "0" = some (.text name))
    (more : ∃ entry ∈ route, entry.1 ≠ .int 0)
    : IsRoute route
        ("route(" ++ quote name ++ ", "
          ++ (Value.array (Entries.reindex (route.filter fun entry => entry.1 != .int 0))).code ++ ")")

/-- The target of a form. A route that is set decides alone, whether or not it can be used, and then
an address that is a text does, the one under the first name before the one under the second.
-/
inductive IsTarget (entries : Entries) : Option Bytes → Prop
  | route {name : Bytes} (set : entries.lookup? "route" = some (.text name))
    : IsTarget entries (some ("route(" ++ quote name ++ ")"))
  | array {route : Entries} {target : Bytes} (set : entries.lookup? "route" = some (.array route))
    (called : IsRoute route target)
    : IsTarget entries (some target)
  | nameless {route : Entries} (set : entries.lookup? "route" = some (.array route))
    (nameless : ∀ name, route.lookup? "0" ≠ some (.text name))
    : IsTarget entries none
  | unusable {v : Value} (set : entries.lookup? "route" = some v) (text : ∀ name, v ≠ .text name)
    (array : ∀ route, v ≠ .array route)
    : IsTarget entries none
  | action {s : Bytes} (routeless : entries.lookup? "route" = none)
    (set : entries.lookup? "action" = some (.text s))
    : IsTarget entries (some (quote s))
  | url {s : Bytes} (routeless : entries.lookup? "route" = none)
    (other : ∀ s, entries.lookup? "action" ≠ some (.text s))
    (set : entries.lookup? "url" = some (.text s))
    : IsTarget entries (some (quote s))
  | nowhere (routeless : entries.lookup? "route" = none)
    (action : ∀ s, entries.lookup? "action" ≠ some (.text s))
    (url : ∀ s, entries.lookup? "url" ≠ some (.text s))
    : IsTarget entries none

/-- An attribute of a form. -/
inductive IsAttribute (entries : Entries) : Bytes → Value → Prop
  | charset {v : Value} (chosen : Chosen entries ["accept-charset", "accept_charset"] (some v))
    : IsAttribute entries "accept-charset" v
  | unchecked {v : Value} (set : entries.lookup? "novalidate" = some v)
    (truth : v = .bool true ∨ v = .int 1)
    : IsAttribute entries "novalidate" (.text "novalidate")
  | validation {s : Bytes} (set : entries.lookup? "novalidate" = some (.text s))
    : IsAttribute entries "novalidate" (.text s)
  | upload {v : Value} (set : entries.lookup? "files" = some v)
    (truth : v = .bool true ∨ v = .text "true")
    : IsAttribute entries "enctype" (.text "multipart/form-data")
  | copied {name : String} {v : Value} (known : name ∈ ["class", "id", "style", "role", "accept"])
    (set : entries.lookup? name = some v)
    : IsAttribute entries name v

theorem chosen_firstOf? (entries : Entries) (names : List String)
    : Chosen entries names (firstOf? entries names) := by
  induction names with
  | nil => exact .unset
  | cons name names ih =>
      rw [firstOf?, List.findSome?_cons]
      cases set : entries.lookup? name with
      | some v => exact .here set
      | none => exact .next set ih

theorem Chosen.firstOf?_eq {entries : Entries} {names : List String} {chosen : Option Value}
    (h : Chosen entries names chosen)
    : firstOf? entries names = chosen := by
  induction h with
  | unset => rfl
  | here set => rw [firstOf?, List.findSome?_cons, set]
  | next unset behind ih =>
      rw [firstOf?, List.findSome?_cons, unset]
      exact ih

theorem Chosen.set {entries : Entries} {names : List String} {v : Value}
    (h : Chosen entries names (some v))
    : ∃ name ∈ names, entries.lookup? name = some v :=
  List.exists_of_findSome?_eq_some h.firstOf?_eq

theorem isMethod_methodOf (entries : Entries)
    : IsMethod (firstOf? entries ["method", "type"]) (methodOf entries) := by
  unfold methodOf
  cases firstOf? entries ["method", "type"] with
  | some v => exact .named v
  | none => exact .default

theorem isRoute_routeWithParameters? {route : Entries} {name : Bytes}
    (names : route.lookup? "0" = some (.text name))
    : ∃ target, routeWithParameters? route = some target ∧ IsRoute route target := by
  rw [routeWithParameters?, names]
  dsimp only
  split
  · rename_i alone
    rw [List.isEmpty_iff, List.filter_eq_nil_iff] at alone
    exact ⟨_, rfl, .bare names fun entry member => by simpa using alone entry member⟩
  · rename_i more
    rw [List.isEmpty_iff, List.filter_eq_nil_iff] at more
    push Not at more
    obtain ⟨entry, member, other⟩ := more
    exact ⟨_, rfl, .parameters names ⟨entry, member, by simpa using other⟩⟩

theorem routeWithParameters?_nameless {route : Entries}
    (nameless : ∀ name, route.lookup? "0" ≠ some (.text name))
    : routeWithParameters? route = none := by
  unfold routeWithParameters?
  split
  · rename_i name names
    exact absurd names (nameless name)
  · rfl

/-- An address is a text under its name. -/
theorem address?_eq {entries : Entries} {name : String}
    : (∃ s, entries.lookup? name = some (.text s) ∧ address? entries name = some (quote s))
      ∨ (∀ s, entries.lookup? name ≠ some (.text s)) ∧ address? entries name = none := by
  unfold address?
  split
  · rename_i s set
    exact .inl ⟨s, set, rfl⟩
  · rename_i other
    exact .inr ⟨other, rfl⟩

theorem isTarget_actionOf (entries : Entries) : IsTarget entries (actionOf entries) := by
  unfold actionOf
  split
  · rename_i name set
    exact .route set
  · rename_i route set
    by_cases named : ∃ name, Entries.lookup? route "0" = some (.text name)
    · obtain ⟨name, names⟩ := named
      obtain ⟨target, called, isRoute⟩ := isRoute_routeWithParameters? names
      rw [called]
      exact .array set isRoute
    · have nameless := not_exists.mp named
      rw [routeWithParameters?_nameless nameless]
      exact .nameless set nameless
  · rename_i v text array set
    exact .unusable set text array
  · rename_i routeless
    rcases @address?_eq entries "action" with ⟨s, set, action⟩ | ⟨action, none⟩
    · rw [action]
      exact .action routeless set
    · rw [none, Option.none_or]
      rcases @address?_eq entries "url" with ⟨s, set, url⟩ | ⟨url, none⟩
      · rw [url]
        exact .url routeless action set
      · rw [none]
        exact .nowhere routeless action url

theorem mem_named_iff {name : String} {value : Option Value} {written : Bytes × Value}
    : written ∈ named name value ↔ ∃ v, value = some v ∧ written = (Bytes.ofString name, v) := by
  rw [named, Option.mem_toList, Option.map_eq_some_iff]
  exact exists_congr fun v => and_congr_right fun _ => eq_comm

theorem isAttribute_of_noValidation? {entries : Entries} {v : Value}
    (found : noValidation? entries = some v)
    : IsAttribute entries "novalidate" v := by
  unfold noValidation? at found
  split at found
  · rename_i set
    cases found
    exact .unchecked set (.inl rfl)
  · rename_i n set
    obtain ⟨one, same⟩ := Option.ite_none_right_eq_some.mp found
    cases same
    exact .unchecked set (.inr (congrArg Value.int one))
  · rename_i s set
    cases found
    exact .validation set
  · cases found

theorem isAttribute_of_uploads {entries : Entries} (asked : uploads entries = true)
    : IsAttribute entries "enctype" (.text "multipart/form-data") := by
  unfold uploads at asked
  split at asked
  · rename_i set
    exact .upload set (.inl rfl)
  · rename_i s set
    exact .upload set (.inr (congrArg Value.text (beq_iff_eq.mp asked)))
  · cases asked

/-- The attributes of a form are those that its options describe. -/
theorem mem_attributesOf_iff {entries : Entries} {name : Bytes} {v : Value}
    : (name, v) ∈ attributesOf entries ↔ IsAttribute entries name v := by
  rw [attributesOf, List.mem_append, List.mem_append, List.mem_append, List.mem_flatMap]
  constructor
  · intro member
    rcases member with ((charset | novalidate) | enctype) | ⟨name, known, copied⟩
    · obtain ⟨v, chosen, same⟩ := mem_named_iff.mp charset
      cases same
      exact .charset (chosen ▸ chosen_firstOf? entries _)
    · obtain ⟨v, found, same⟩ := mem_named_iff.mp novalidate
      cases same
      exact isAttribute_of_noValidation? found
    · obtain ⟨v, found, same⟩ := mem_named_iff.mp enctype
      obtain ⟨asked, value⟩ := Option.ite_none_right_eq_some.mp found
      cases same
      cases value
      exact isAttribute_of_uploads asked
    · obtain ⟨v, set, same⟩ := mem_named_iff.mp copied
      cases same
      exact .copied known set
  · intro described
    cases described with
    | charset chosen =>
        exact .inl (.inl (.inl (mem_named_iff.mpr ⟨v, chosen.firstOf?_eq, rfl⟩)))
    | unchecked set truth =>
        have found : noValidation? entries = some (.text "novalidate") := by
          rw [noValidation?, set]
          rcases truth with rfl | rfl <;> rfl
        exact .inl (.inl (.inr (mem_named_iff.mpr ⟨_, found, rfl⟩)))
    | @validation s set =>
        have found : noValidation? entries = some (.text s) := by
          rw [noValidation?, set]
        exact .inl (.inl (.inr (mem_named_iff.mpr ⟨_, found, rfl⟩)))
    | upload set truth =>
        have asked : uploads entries = true := by
          rw [uploads, set]
          rcases truth with rfl | rfl
          · rfl
          · exact beq_self_eq_true _
        exact .inl (.inr (mem_named_iff.mpr ⟨_, if_pos asked, rfl⟩))
    | @copied name _ known set => exact .inr ⟨name, known, mem_named_iff.mpr ⟨v, set, rfl⟩⟩

--------------------------------------------------------------------------------
-- Names that matter
--------------------------------------------------------------------------------

/-- The names under which options are looked up. -/
def optionNames : List String :=
  ["method", "type", "route", "action", "url", "accept-charset", "accept_charset", "novalidate",
    "files", "class", "id", "style", "role", "accept"]

/-- Two options arrays give the same lookups on the names that matter. -/
def Agree (entries others : Entries) : Prop :=
  ∀ name ∈ optionNames, entries.lookup? (Bytes.ofString name) = others.lookup? (Bytes.ofString name)

/-- The first option that is set is the same under names of the same lookups. -/
theorem firstOf?_congr {entries others : Entries} {names : List String}
    (same : ∀ name ∈ names,
      entries.lookup? (Bytes.ofString name) = others.lookup? (Bytes.ofString name))
    : firstOf? entries names = firstOf? others names := by
  induction names with
  | nil => rfl
  | cons name names ih =>
      rw [List.forall_mem_cons] at same
      have rest := ih same.2
      rw [firstOf?] at rest ⊢
      rw [List.findSome?_cons, rest, same.1]
      rfl

/-- Only the lookups of these names matter to a form. -/
theorem Agree.ofEntries_eq {entries others : Entries} (agree : Agree entries others)
    : ofEntries entries = ofEntries others := by
  have among {names : List String} (known : names ⊆ optionNames)
      : ∀ name ∈ names,
          entries.lookup? (Bytes.ofString name) = others.lookup? (Bytes.ofString name) :=
    fun name member => agree name (known member)
  have lookup (name : String) (known : name ∈ optionNames) := agree name known
  have method : methodOf entries = methodOf others := by
    rw [methodOf, firstOf?_congr (among (by decide))]
    rfl
  have action : actionOf entries = actionOf others := by
    simp only [actionOf, address?, lookup "route" (by decide), lookup "action" (by decide),
      lookup "url" (by decide)]
  have charset : firstOf? entries ["accept-charset", "accept_charset"]
      = firstOf? others ["accept-charset", "accept_charset"] :=
    firstOf?_congr (among (by decide))
  have novalidate : noValidation? entries = noValidation? others := by
    simp only [noValidation?, lookup "novalidate" (by decide)]
  have files : uploads entries = uploads others := by
    simp only [uploads, lookup "files" (by decide)]
  have copied
      : (copiedAttributes.flatMap fun name => named name (entries.lookup? (Bytes.ofString name)))
        = copiedAttributes.flatMap fun name => named name (others.lookup? (Bytes.ofString name)) :=
    List.flatMap_congr fun name member => by
      have known : copiedAttributes ⊆ optionNames := by decide
      rw [among known name member]
  rw [ofEntries, ofEntries, attributesOf, attributesOf, method, action, charset, novalidate, files,
    copied]

--------------------------------------------------------------------------------
-- Attributes
--------------------------------------------------------------------------------

/-- The names of attributes in the order in which they are written. -/
def attributeOrder : List Bytes :=
  [Bytes.ofString "accept-charset", Bytes.ofString "novalidate", Bytes.ofString "enctype",
    Bytes.ofString "class", Bytes.ofString "id", Bytes.ofString "style", Bytes.ofString "role",
    Bytes.ofString "accept"]

theorem names_named (name : String) (value : Option Value)
    : ((named name value).map Prod.fst).Sublist [Bytes.ofString name] := by
  cases value with
  | none => exact List.nil_sublist _
  | some v => exact List.Sublist.refl _

/-- Attributes are written in a fixed order, each at most once. -/
theorem attributesOf_names (entries : Entries)
    : ((attributesOf entries).map Prod.fst).Sublist attributeOrder := by
  simp only [attributesOf, copiedAttributes, List.flatMap_cons, List.flatMap_nil, List.append_nil,
    List.map_append, List.append_assoc]
  exact (names_named _ _).append ((names_named _ _).append ((names_named _ _).append
    ((names_named _ _).append ((names_named _ _).append ((names_named _ _).append
      ((names_named _ _).append (names_named _ _)))))))

/-- What options describe: a method under the first of its two names that is set, a target, and
attributes in a fixed order.
-/
structure Described (entries : Entries) (form : FormOptions) : Prop where
  method : ∃ chosen, Chosen entries ["method", "type"] chosen ∧ IsMethod chosen form.method
  action : IsTarget entries form.action
  attributes : ∀ name v, (name, v) ∈ form.attributes ↔ IsAttribute entries name v
  order : (form.attributes.map Prod.fst).Sublist attributeOrder

/-- A form is the one that its options describe. -/
theorem ofEntries_described (entries : Entries) : Described entries (ofEntries entries) where
  method := ⟨_, chosen_firstOf? entries _, isMethod_methodOf entries⟩
  action := isTarget_actionOf entries
  attributes := fun _ _ => mem_attributesOf_iff
  order := attributesOf_names entries

/-- The attributes as entries of an array. -/
def attributeEntries (form : FormOptions) : Entries :=
  form.attributes.map fun (name, v) => (.text name, v)

/-- The attributes are written as their array is printed: their keys are texts, so it is no list. -/
theorem attributesCode_eq (form : FormOptions)
    : form.attributesCode = (Value.array form.attributeEntries).code := by
  have keyed (attributes : List (Bytes × Value))
      : entriesCode false (attributes.map fun (name, v) => (.text name, v))
        = attributes.map fun (name, v) => quote name ++ " => " ++ v.code := by
    induction attributes with
    | nil => rfl
    | cons first rest ih =>
        rw [List.map_cons, List.map_cons, entriesCode, ih]
        rfl
  rw [attributesCode, Value.code, attributeEntries]
  cases written : form.attributes with
  | nil => rfl
  | cons first rest =>
      rw [show Entries.isList ((first :: rest).map fun (name, v) => (.text name, v)) = false
        from rfl, keyed]
      rfl

/-- The values of attributes are taken from the options or are texts. -/
theorem attributesOf_settled {entries : Entries} (settled : EntriesSettled entries)
    : ∀ written ∈ attributesOf entries, written.2.Settled := by
  intro ⟨name, v⟩ member
  cases mem_attributesOf_iff.mp member with
  | charset chosen =>
      obtain ⟨name, -, set⟩ := chosen.set
      exact Entries.settled_of_lookup? settled set
  | unchecked | validation | upload => trivial
  | copied _ set => exact Entries.settled_of_lookup? settled set

/-- The attributes of a form make up a settled array: no name stands twice, and none spells a word.
-/
theorem attributeEntries_settled {entries : Entries} (settled : EntriesSettled entries)
    : (Value.array (ofEntries entries).attributeEntries).Settled := by
  have names := attributesOf_names entries
  have values := attributesOf_settled settled
  have cast : ∀ name ∈ attributeOrder, (Key.text name).Settled := by
    have texts : ∀ name ∈ attributeOrder, Key.ofText name = .text name := by decide
    exact fun name known => congrArg Except.ok (texts name known)
  show (((attributesOf entries).map fun (name, v) => (Key.text name, v)).map Prod.fst).Nodup
    ∧ EntriesSettled ((attributesOf entries).map fun (name, v) => (Key.text name, v))
  constructor
  · have keys : ((attributesOf entries).map fun (name, v) => (Key.text name, v)).map Prod.fst
        = ((attributesOf entries).map Prod.fst).map Key.text := by
      rw [List.map_map, List.map_map]
      rfl
    have distinct : attributeOrder.Nodup := by decide
    rw [keys]
    exact (names.nodup distinct).map fun _ _ same => Key.text.inj same
  · have each (attributes : List (Bytes × Value))
        (known : ∀ written ∈ attributes, written.1 ∈ attributeOrder ∧ written.2.Settled)
        : EntriesSettled (attributes.map fun (name, v) => (Key.text name, v)) := by
      induction attributes with
      | nil => trivial
      | cons first rest ih =>
          rw [List.forall_mem_cons] at known
          exact ⟨cast _ known.1.1, known.1.2, ih known.2⟩
    exact each _ fun written member =>
      ⟨names.subset (List.mem_map_of_mem member), values written member⟩

/-- The attributes evaluate to their array, unless they show a code marker or hold an infinite
number.
-/
theorem evaluate_attributesCode {entries : Entries} (settled : EntriesSettled entries)
    (static : Literal.codeMarker? (ofEntries entries).attributesCode = none)
    (finite : (Value.array (ofEntries entries).attributeEntries).hasInfinity = false)
    : Literal.evaluate (ofEntries entries).attributesCode
      = .ok (.array (ofEntries entries).attributeEntries) := by
  have spells := Literal.code_spells _ (attributeEntries_settled settled) finite
  rw [← attributesCode_eq] at spells
  exact Literal.evaluate_eq_ok_iff.mpr
    (.of_spells (Literal.codeMarker?_eq_none_iff.mp static) spells)

--------------------------------------------------------------------------------
-- Arguments that are written
--------------------------------------------------------------------------------

/-- A route with its arguments is one argument of any list. -/
theorem route_single {inner : Bytes} (nested : WellNested inner)
    : Argument.Single ("route(" ++ inner ++ ")") := by
  have callee : Sealed "route" := .of_segments (.of_scan rfl) rfl
  have text : Bytes.ofString "route(" ++ inner ++ Bytes.ofString ")"
      = Bytes.ofString "route" ++ 0x28 :: (inner ++ [0x29]) := by
    rw [List.append_assoc]
    rfl
  have whole : Sealed (Bytes.ofString "route(" ++ inner ++ Bytes.ofString ")") :=
    text ▸ callee.append (.bracketed rfl nested)
  exact .of_edges whole (show _ = some 0x72 from rfl) List.getLast?_concat rfl rfl

/-- The target of a form is one argument of any list. -/
theorem actionOf_single {entries : Entries} {action : Bytes} (found : actionOf entries = some action)
    : Argument.Single action := by
  rcases actionOf_cases found with ⟨s, rfl⟩ | ⟨inner, nested, rfl⟩
  · exact quote_single s
  · exact route_single nested

theorem attributesCode_single (form : FormOptions) : Argument.Single form.attributesCode := by
  have whole : Sealed form.attributesCode := .bracketed rfl form.attributes_nested
  exact .of_edges whole (show _ = some 0x5b from rfl) List.getLast?_concat rfl rfl

end FormOptions

end FormMigrate
