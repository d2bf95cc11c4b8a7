import FormMigrate.Proofs.Rule.Chain
import FormMigrate.Proofs.Rule.Replies
import Mathlib

/-! Where the arguments of single fields go: which chain each keyword is to become, and that its
builder writes this chain, from which the arguments are read back as they were.
-/

namespace FormMigrate

--------------------------------------------------------------------------------
-- The prescribed arrangement
--------------------------------------------------------------------------------

/-- The argument at an index, unless it is missing, blank or null. -/
def given? (args : List Bytes) (i : Nat) : Option Bytes :=
  args[i]?.filter fun arg => !arg.isEmpty && !Bytes.sameFold arg "null"

/-- The argument at an index, or what stands for it. -/
def givenOr (args : List Bytes) (i : Nat) (default : Bytes) : Bytes := (given? args i).getD default

/-- The attributes at an index, unless they are an empty array. -/
def givenAttributes? (args : List Bytes) (i : Nat) : Option Bytes :=
  (given? args i).filter fun arg => !CallSite.isEmptyArray arg

/-- The call that an argument has if it is there. -/
def callFor (method : String) (arg : Option Bytes) : List Link := arg.toList.map (⟨method, [·]⟩)

/-- The call that makes an input. Addresses have no method of their own. -/
def inputCall (keyword name : Bytes) : Link :=
  if keyword = Bytes.ofString "url" then ⟨"input", ["'url'", name]⟩ else ⟨keyword, [name]⟩

/-- The calls that a call of a single field is to become, by its keyword and its arguments. -/
def arrangement (keyword : Bytes) (args : List Bytes) : List Link :=
  let name := givenOr args 0 "''"
  if Rule.textKeywords.contains keyword then
    inputCall keyword name
      :: (callFor "value" (given? args 1) ++ callFor "attributes" (givenAttributes? args 2))
  else if [Bytes.ofString "password", Bytes.ofString "file"].contains keyword then
    ⟨keyword, [name]⟩ :: callFor "attributes" (givenAttributes? args 1)
  else if keyword = Bytes.ofString "hidden" then
    ⟨keyword, [name]⟩ :: callFor "value" (given? args 1)
  else if keyword = Bytes.ofString "label" then
    ⟨"label", []⟩ :: ⟨"for", [name]⟩
      :: (callFor "text" (given? args 1) ++ callFor "attributes" (givenAttributes? args 2))
  else if [Bytes.ofString "submit", Bytes.ofString "button"].contains keyword then
    ⟨"button", [givenOr args 0 "'Submit'"]⟩ :: ⟨"type", ["'" ++ keyword ++ "'"]⟩
      :: callFor "attributes" (givenAttributes? args 1)
  else if [Bytes.ofString "checkbox", Bytes.ofString "radio"].contains keyword then
    let value : Bytes := if keyword = Bytes.ofString "checkbox" then "'1'" else "null"
    ⟨keyword, [name, givenOr args 2 "false", givenOr args 1 value]⟩
      :: callFor "attributes" (givenAttributes? args 3)
  else []

/-- How many arguments a call of a single field has a place for. -/
def arity (keyword : Bytes) : Nat :=
  if Rule.textKeywords.contains keyword then 3
  else if [Bytes.ofString "password", Bytes.ofString "file"].contains keyword then 2
  else if keyword = Bytes.ofString "hidden" then 2
  else if keyword = Bytes.ofString "label" then 3
  else if [Bytes.ofString "submit", Bytes.ofString "button"].contains keyword then 2
  else if [Bytes.ofString "checkbox", Bytes.ofString "radio"].contains keyword then 4
  else 0

/-- The passes over single fields, which put arguments into chains as they are. -/
def Rule.fieldPasses : List Pass :=
  Rule.inputs.passes ++ Rule.labelButton.passes ++ Rule.checkboxRadio.passes

--------------------------------------------------------------------------------
-- Writing
--------------------------------------------------------------------------------

/-- Builders see an argument as it was cut: it has been trimmed already. -/
theorem CallSite.optional?_eq (site : CallSite) (i : Nat)
    : site.optional? i = given? site.args i := by
  rw [optional?, given?]
  cases found : site.args[i]? with
  | none => rfl
  | some arg =>
      have trimmed : Bytes.trim arg = arg :=
        Argument.trim_of_mem_split (List.mem_of_getElem? found)
      simp only [trimmed, Option.filter_some]
      cases arg.isEmpty <;> cases Bytes.sameFold arg "null" <;> rfl

theorem CallSite.attributes?_eq (site : CallSite) (i : Nat)
    : site.attributes? i = givenAttributes? site.args i := by
  rw [attributes?, optional?_eq, givenAttributes?]

theorem CallSite.orElse_eq (site : CallSite) (i : Nat) (default : Bytes)
    : site.orElse i default = givenOr site.args i default := by
  rw [orElse, optional?_eq, givenOr]

theorem Link.code_single (method arg : Bytes)
    : Link.code ⟨method, [arg]⟩ = "->" ++ method ++ "(" ++ arg ++ ")" := by
  simp [Link.code, Bytes.join]

theorem linkFor_eq (method : String) (arg : Option Bytes)
    : linkFor method arg = (callFor method arg).flatMap Link.code := by
  cases arg with
  | none => rfl
  | some arg =>
      rw [show callFor method (some arg) = [⟨method, [arg]⟩] from rfl, List.flatMap_singleton,
        Link.code_single]
      rfl

theorem inputHead_eq (keyword name : Bytes)
    : Builder.inputHead keyword name = Chain.code [inputCall keyword name] := by
  rw [Builder.inputHead, inputCall, Chain.code, List.flatMap_singleton]
  by_cases url : keyword = Bytes.ofString "url"
  · rw [if_pos (by simpa using url), if_pos url, Link.code, Bytes.join, List.intercalate_cons_cons,
      List.intercalate_singleton]
    simp only [List.append_assoc]
    rfl
  · rw [if_neg (by simpa using url), if_neg url, Link.code_single]
    simp only [List.append_assoc]
    rfl

namespace Builder

variable (keyword inner : Bytes)

theorem textInput_code
    : textInput ⟨keyword, inner⟩
      = .accept
          (Chain.code
            (inputCall keyword (givenOr (Argument.split inner) 0 "''")
              :: (callFor "value" (given? (Argument.split inner) 1)
                ++ callFor "attributes" (givenAttributes? (Argument.split inner) 2)))) := by
  simp only [textInput, CallSite.orElse_eq, CallSite.optional?_eq, CallSite.attributes?_eq,
    CallSite.args, linkFor_eq, inputHead_eq, Chain.code, List.flatMap_cons, List.flatMap_append,
    List.flatMap_nil, List.append_nil, List.append_assoc]

theorem plainInput_code
    : plainInput ⟨keyword, inner⟩
      = .accept
          (Chain.code
            (inputCall keyword (givenOr (Argument.split inner) 0 "''")
              :: callFor "attributes" (givenAttributes? (Argument.split inner) 1))) := by
  simp only [plainInput, CallSite.orElse_eq, CallSite.attributes?_eq, CallSite.args, linkFor_eq,
    inputHead_eq, Chain.code, List.flatMap_cons, List.flatMap_nil, List.append_nil,
    List.append_assoc]

theorem hiddenInput_code
    : hiddenInput ⟨keyword, inner⟩
      = .accept
          (Chain.code
            (inputCall keyword (givenOr (Argument.split inner) 0 "''")
              :: callFor "value" (given? (Argument.split inner) 1))) := by
  simp only [hiddenInput, CallSite.orElse_eq, CallSite.optional?_eq, CallSite.args, linkFor_eq,
    inputHead_eq, Chain.code, List.flatMap_cons, List.flatMap_nil, List.append_nil,
    List.append_assoc]

theorem label_code
    : label ⟨keyword, inner⟩
      = .accept
          (Chain.code
            (⟨"label", []⟩ :: ⟨"for", [givenOr (Argument.split inner) 0 "''"]⟩
              :: (callFor "text" (given? (Argument.split inner) 1)
                ++ callFor "attributes" (givenAttributes? (Argument.split inner) 2)))) := by
  simp only [label, CallSite.orElse_eq, CallSite.optional?_eq, CallSite.attributes?_eq,
    CallSite.args, linkFor_eq, link, Chain.code, List.flatMap_cons, List.flatMap_append,
    Link.code_single, List.append_assoc]
  rfl

theorem button_code
    : button ⟨keyword, inner⟩
      = .accept
          (Chain.code
            (⟨"button", [givenOr (Argument.split inner) 0 "'Submit'"]⟩
              :: ⟨"type", ["'" ++ keyword ++ "'"]⟩
              :: callFor "attributes" (givenAttributes? (Argument.split inner) 1))) := by
  simp only [button, CallSite.orElse_eq, CallSite.attributes?_eq, CallSite.args, linkFor_eq, link,
    Chain.code, List.flatMap_cons, Link.code_single, List.append_assoc]
  rfl

/-- The value and the mark of a checkbox or radio change places. -/
theorem toggle_code (value : Bytes)
    : toggle value ⟨keyword, inner⟩
      = .accept
          (Chain.code
            (⟨keyword,
                [givenOr (Argument.split inner) 0 "''", givenOr (Argument.split inner) 2 "false",
                  givenOr (Argument.split inner) 1 value]⟩
              :: callFor "attributes" (givenAttributes? (Argument.split inner) 3))) := by
  simp only [toggle, CallSite.orElse_eq, CallSite.attributes?_eq, CallSite.args, linkFor_eq,
    Chain.code, Link.code, Bytes.join, List.intercalate_cons_cons, List.intercalate_singleton,
    List.flatMap_cons, List.append_assoc]
  rfl

end Builder

/-- The builder of a single field writes the chain that its arguments are to become.
Witness: one case per keyword, or family of keywords, along the passes.
-/
theorem Rule.field_code {pass : Pass} (field : pass ∈ Rule.fieldPasses) (inner : Bytes)
    : pass.build ⟨pass.keyword, inner⟩
      = .accept (Chain.code (arrangement pass.keyword (Argument.split inner))) := by
  simp only [Rule.fieldPasses, Rule.inputs, Rule.labelButton, Rule.checkboxRadio, List.mem_append,
    List.mem_map, List.mem_cons, List.not_mem_nil, or_false] at field
  rcases field with
    ((⟨keyword, known, rfl⟩ | rfl | rfl | rfl) | rfl | rfl | rfl) | rfl | rfl
  · rw [arrangement, if_pos (List.contains_iff_mem.mpr known)]
    exact Builder.textInput_code keyword inner
  · exact Builder.plainInput_code "password" inner
  · exact Builder.plainInput_code "file" inner
  · exact Builder.hiddenInput_code "hidden" inner
  · exact Builder.label_code "label" inner
  · exact Builder.button_code "submit" inner
  · exact Builder.button_code "button" inner
  · exact Builder.toggle_code "checkbox" inner "'1'"
  · exact Builder.toggle_code "radio" inner "null"

--------------------------------------------------------------------------------
-- Reading
--------------------------------------------------------------------------------

/-- What builders write where an argument is missing, or besides the arguments. -/
def fillers : List Bytes :=
  [Bytes.ofString "''", Bytes.ofString "'Submit'", Bytes.ofString "'1'", Bytes.ofString "null",
    Bytes.ofString "false", Bytes.ofString "'url'", Bytes.ofString "'submit'",
    Bytes.ofString "'button'"]

section Arrangement

variable {p : Bytes → Prop} {args : List Bytes}

theorem holds_callFor {method : String} (named : (Bytes.ofString method).all Byte.isNamePart = true)
    {arg : Option Bytes} (h : ∀ v, arg = some v → p v)
    : ∀ call ∈ callFor method arg, call.Holds p := by
  cases arg with
  | none => exact nofun
  | some v =>
      intro call member
      obtain rfl := List.mem_singleton.mp member
      exact .single named (h v rfl)

/-- What holds of given arguments and of fillers holds of every argument in the chain that they are
to become.
Witness: one case per construct.
-/
theorem holds_arrangement (given : ∀ i v, given? args i = some v → p v)
    (filler : ∀ text ∈ fillers, p text) (keyword : Bytes)
    : ∀ call ∈ arrangement keyword args, call.Holds p := by
  have orFiller (i : Nat) {default : Bytes} (known : default ∈ fillers)
      : p (givenOr args i default) := by
    rw [givenOr]
    cases found : given? args i with
    | none => exact filler default known
    | some v => exact given i v found
  have name : p (givenOr args 0 "''") := orFiller 0 (by decide)
  have value : ∀ call ∈ callFor "value" (given? args 1), call.Holds p :=
    holds_callFor rfl (given 1)
  have attributes (i : Nat)
      : ∀ call ∈ callFor "attributes" (givenAttributes? args i), call.Holds p :=
    holds_callFor rfl fun v found => given i v (Option.filter_eq_some_iff.mp found).1
  have textNames : ∀ keyword ∈ Rule.textKeywords, keyword.all Byte.isNamePart = true := by decide
  have plainNames : ∀ keyword ∈ [Bytes.ofString "password", Bytes.ofString "file"],
      keyword.all Byte.isNamePart = true := by decide
  have toggleNames : ∀ keyword ∈ [Bytes.ofString "checkbox", Bytes.ofString "radio"],
      keyword.all Byte.isNamePart = true := by decide
  have types : ∀ keyword ∈ [Bytes.ofString "submit", Bytes.ofString "button"],
      "'" ++ keyword ++ "'" ∈ fillers := by decide
  have toggled {value : Bytes}
      (known : keyword ∈ [Bytes.ofString "checkbox", Bytes.ofString "radio"])
      (worth : value ∈ fillers)
      : ∀ call ∈ (⟨keyword,
            [givenOr args 0 "''", givenOr args 2 "false", givenOr args 1 value]⟩ : Link)
          :: callFor "attributes" (givenAttributes? args 3),
          call.Holds p := by
    refine List.forall_mem_cons.mpr ⟨⟨toggleNames keyword known, ?_⟩, attributes 3⟩
    rw [List.forall_mem_cons, List.forall_mem_cons, List.forall_mem_singleton]
    exact ⟨name, orFiller 2 (by decide), orFiller 1 worth⟩
  unfold arrangement
  split_ifs with text plain hidden label button toggle
  · rw [List.forall_mem_cons, List.forall_mem_append]
    refine ⟨?_, value, attributes 2⟩
    rw [inputCall]
    split_ifs
    · exact ⟨rfl, List.forall_mem_cons.mpr
        ⟨filler _ (by decide), List.forall_mem_singleton.mpr name⟩⟩
    · exact .single (textNames keyword (List.contains_iff_mem.mp text)) name
  · exact List.forall_mem_cons.mpr
      ⟨.single (plainNames keyword (List.contains_iff_mem.mp plain)) name, attributes 1⟩
  · subst hidden
    exact List.forall_mem_cons.mpr ⟨.single rfl name, value⟩
  · rw [List.forall_mem_cons, List.forall_mem_cons, List.forall_mem_append]
    exact ⟨⟨rfl, nofun⟩, .single rfl name, holds_callFor rfl (given 1), attributes 2⟩
  · rw [List.forall_mem_cons, List.forall_mem_cons]
    exact ⟨.single rfl (orFiller 0 (by decide)),
      .single rfl (filler _ (types keyword (List.contains_iff_mem.mp button))),
      attributes 1⟩
  · exact toggled (List.contains_iff_mem.mp toggle) (by decide)
  · exact toggled (List.contains_iff_mem.mp toggle) (by decide)
  · simp

/-- No argument is lost that has a place and is there for builders, attributes included.
Witness: one case per construct and place.
-/
theorem mem_arrangement {keyword : Bytes} {i : Nat} {v : Bytes} (place : i < arity keyword)
    (given : given? args i = some v) (attributes : givenAttributes? args i = some v)
    : ∃ call ∈ arrangement keyword args, v ∈ call.args := by
  have orGiven (default : Bytes) : givenOr args i default = v := by rw [givenOr, given]; rfl
  have called (method : String) {arg : Option Bytes} (same : arg = some v)
      : ⟨method, [v]⟩ ∈ callFor method arg := by
    rw [same]
    exact List.mem_singleton_self _
  have single : v ∈ [v] := List.mem_singleton_self v
  have toggled (few : i < 4) (default : Bytes)
      : ∃ call ∈ (⟨keyword,
            [givenOr args 0 "''", givenOr args 2 "false", givenOr args 1 default]⟩ : Link)
          :: callFor "attributes" (givenAttributes? args 3),
          v ∈ call.args := by
    obtain rfl | rfl | rfl | rfl : i = 0 ∨ i = 1 ∨ i = 2 ∨ i = 3 := by omega
    · exact ⟨_, List.mem_cons_self, by rw [orGiven]; exact List.mem_cons_self⟩
    · exact ⟨_, List.mem_cons_self, by rw [orGiven default]; exact .tail _ (.tail _ single)⟩
    · exact ⟨_, List.mem_cons_self, by rw [orGiven "false"]; exact .tail _ List.mem_cons_self⟩
    · exact ⟨_, .tail _ (called "attributes" attributes), single⟩
  unfold arity at place
  unfold arrangement
  split_ifs at place ⊢ with text plain hidden label button toggle
  · obtain rfl | rfl | rfl : i = 0 ∨ i = 1 ∨ i = 2 := by omega
    · refine ⟨_, List.mem_cons_self, ?_⟩
      rw [orGiven, inputCall]
      split_ifs
      · exact List.mem_cons_of_mem _ single
      · exact single
    · exact ⟨_, .tail _ (List.mem_append_left _ (called "value" given)), single⟩
    · exact ⟨_, .tail _ (List.mem_append_right _ (called "attributes" attributes)), single⟩
  · obtain rfl | rfl : i = 0 ∨ i = 1 := by omega
    · exact ⟨_, List.mem_cons_self, by rw [orGiven]; exact single⟩
    · exact ⟨_, .tail _ (called "attributes" attributes), single⟩
  · obtain rfl | rfl : i = 0 ∨ i = 1 := by omega
    · exact ⟨_, List.mem_cons_self, by rw [orGiven]; exact single⟩
    · exact ⟨_, .tail _ (called "value" given), single⟩
  · obtain rfl | rfl | rfl : i = 0 ∨ i = 1 ∨ i = 2 := by omega
    · exact ⟨_, .tail _ List.mem_cons_self, by rw [orGiven]; exact single⟩
    · exact ⟨_, .tail _ (.tail _ (List.mem_append_left _ (called "text" given))), single⟩
    · exact ⟨_, .tail _ (.tail _ (List.mem_append_right _ (called "attributes" attributes))),
        single⟩
  · obtain rfl | rfl : i = 0 ∨ i = 1 := by omega
    · exact ⟨_, List.mem_cons_self, by rw [orGiven]; exact single⟩
    · exact ⟨_, .tail _ (.tail _ (called "attributes" attributes)), single⟩
  · exact toggled place _
  · exact toggled place _
  · cases place

end Arrangement

theorem fillers_single : ∀ filler ∈ fillers, Argument.Single filler := by
  have each
      : ∀ filler ∈ fillers,
          WellNested filler
          ∧ Argument.segments filler = [filler]
          ∧ Bytes.trim filler = filler
          ∧ filler ≠ [] := by
    decide
  intro filler member
  obtain ⟨nested, alone, trimmed, shown⟩ := each filler member
  exact .of_split nested alone trimmed shown

/-- A given argument of a well-nested list is one of any list. -/
theorem given?_single {inner : Bytes} (nested : WellNested inner) {i : Nat} {arg : Bytes}
    (given : given? (Argument.split inner) i = some arg)
    : Argument.Single arg := by
  obtain ⟨found, shown⟩ := Option.filter_eq_some_iff.mp given
  rw [Bool.and_eq_true, Bool.not_eq_true', List.isEmpty_eq_false_iff] at shown
  exact Argument.single_of_mem_split nested (List.mem_of_getElem? found) shown.1

/-- The arguments of a call of a single field are found again in the chain that takes its place. If
they are well nested, reading the chain back gives the calls that its arguments are to become: each
of them is an argument as it was cut, or what stands for one that is missing, blank or null.
Witness: the builder writes the arranged calls, and every argument in them is a single one.
-/
theorem Rule.field_reads_back {pass : Pass} (field : pass ∈ Rule.fieldPasses) {inner : Bytes}
    (nested : WellNested inner)
    : ∃ text,
        pass.build ⟨pass.keyword, inner⟩ = .accept text
        ∧ Chain.read? text = some (arrangement pass.keyword (Argument.split inner)) := by
  have readable := holds_arrangement (fun _ _ => given?_single nested) fillers_single pass.keyword
  exact ⟨_, Rule.field_code field inner, Chain.read?_code readable⟩

/-- A checkbox with an array for its value, no mark and empty attributes. -/
theorem Rule.field_reads_back_checkbox
    : (⟨"checkbox", Builder.toggle "'1'"⟩ : Pass) ∈ Rule.fieldPasses
      ∧ WellNested "'a', f([1, ')']), NULL, array( )"
      ∧ ∃ text,
          Builder.toggle "'1'" ⟨"checkbox", "'a', f([1, ')']), NULL, array( )"⟩ = .accept text
          ∧ Chain.read? text = some [⟨"checkbox", ["'a'", "false", "f([1, ')'])"]⟩] := by
  have field : (⟨"checkbox", Builder.toggle "'1'"⟩ : Pass) ∈ Rule.fieldPasses := by
    simp [Rule.fieldPasses, Rule.checkboxRadio]
  have nested : WellNested "'a', f([1, ')']), NULL, array( )" := by decide +kernel
  have arranged
      : arrangement "checkbox" (Argument.split "'a', f([1, ')']), NULL, array( )")
        = [⟨"checkbox", ["'a'", "false", "f([1, ')'])"]⟩] := by
    decide +kernel
  obtain ⟨text, written, read⟩ := Rule.field_reads_back field nested
  exact ⟨field, nested, text, written, read.trans (congrArg some arranged)⟩

end FormMigrate
