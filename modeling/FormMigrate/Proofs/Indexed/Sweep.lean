import FormMigrate.Proofs.Indexed.Builder
import FormMigrate.Proofs.Call.Substitution

/-! Passes and rules that go over a text by offsets. Each of them reaches its end without an access
out of range, with the text and the records of the pass or the rule as it runs.
-/

namespace FormMigrate.Indexed

--------------------------------------------------------------------------------
-- Passes
--------------------------------------------------------------------------------

/-- A pass whose builder reads by index. -/
structure Pass where
  keyword : Bytes
  build : Build

/-- A sweep under way, whose scan goes on at an offset. -/
structure Sweep where
  text : Bytes
  next : Int
  records : List Record

/-- Whether the byte before an offset belongs to a name. -/
def followsName (src : Bytes) (pos : Int) : Option Bool := do
  if 0 < pos then return (← byteAt src (pos - 1)).isNamePart else return false

/-- Adds records about an offset of a text. -/
def noteAll (file src : Bytes) (pos : Int) : List Note → List Record → Option (List Record)
  | [], records => some records
  | note :: notes, records => do
      noteAll file src pos notes (records ++ [← record file src pos note.snippet note.reason])

/-- Answers the call at an offset whose parentheses enclose an extent. -/
def Pass.answer (pass : Pass) (file : Bytes) (sweep : Sweep) (pos : Int) (extent : Extent)
    : Option Sweep := do
  let reply ← pass.build ⟨pass.keyword, extent.inner, ← splitArgs extent.inner⟩
  let records ← noteAll file sweep.text pos reply.notes sweep.records
  match reply.replacement with
  | none => return ⟨sweep.text, extent.closing + 1, records⟩
  | some text =>
      let front ← slice sweep.text 0 pos
      let back ← slice sweep.text (extent.closing + 1) sweep.text.length
      return ⟨front ++ text ++ back, pos + text.length, records⟩

/-- Deals with the marker at an offset, which ends at another one. -/
def Pass.visit (pass : Pass) (file : Bytes) (sweep : Sweep) (pos behind : Int) : Option Sweep := do
  if ← followsName sweep.text pos then return { sweep with next := behind }
  else
    match ← findParen sweep.text behind behind with
    | none => return { sweep with next := behind }
    | some opening =>
        match ← extract sweep.text opening with
        | .error _ =>
            let rest ← slice sweep.text pos sweep.text.length
            let excerpt ← clip rest FormMigrate.Pass.unbalancedExcerpt
            let noted ← record file sweep.text pos excerpt
              ("unbalanced parentheses in Form::" ++ pass.keyword)
            return ⟨sweep.text, behind, sweep.records ++ [noted]⟩
        | .ok extent => pass.answer file sweep pos extent

/-- The text and the records when no marker is left. -/
def Pass.run (pass : Pass) (file : Bytes) (s : Sweep) : Option (Bytes × List Record) := do
  let marker := facade ++ pass.keyword
  match ← indexFold s.text marker s.next with
  | none => return (s.text, s.records)
  | some pos => (pass.run (s := ← pass.visit file s pos (pos + marker.length))) file
partial_fixpoint

--------------------------------------------------------------------------------
-- Rules
--------------------------------------------------------------------------------

/-- A named list of passes. -/
structure Rule where
  name : Bytes
  passes : List Pass

/-- The passes of a rule one after another, with the records made on the way. -/
def runAll (file : Bytes) : List Pass → Bytes → List Record → Option (Bytes × List Record)
  | [], src, records => some (src, records)
  | pass :: passes, src, records => do
      let (text, more) ← pass.run file ⟨src, 0, []⟩
      runAll file passes text (records ++ more)

/-- The conversion of a text by a rule. -/
def Rule.convert (rule : Rule) (file src : Bytes) : Option (Bytes × List Record) :=
  runAll file rule.passes src []

/-- The built-in rules. -/
def builtIn : List Rule := [
  ⟨"open_close", [⟨"open", openForm⟩, ⟨"close", closeForm⟩]⟩,
  ⟨"inputs",
    FormMigrate.Rule.textKeywords.map (⟨·, textInput⟩)
      ++ [⟨"password", plainInput⟩, ⟨"file", plainInput⟩, ⟨"hidden", hiddenInput⟩]⟩,
  ⟨"label_button", [⟨"label", label⟩, ⟨"submit", button⟩, ⟨"button", button⟩]⟩,
  ⟨"checkbox_radio", [⟨"checkbox", toggle "'1'"⟩, ⟨"radio", toggle "null"⟩]⟩,
  ⟨"select", [⟨"select", select⟩]⟩,
  ⟨"model_token", [⟨"model", modelForm⟩, ⟨"token", token⟩]⟩]

--------------------------------------------------------------------------------
-- Agreement
--------------------------------------------------------------------------------

/-- A sweep as passes that go by offsets see it. -/
def Sweep.of (sweep : FormMigrate.Sweep) : Sweep := ⟨sweep.text, sweep.next, sweep.records⟩

/-- A pass by offsets answers the calls of the same keyword in the same way. -/
structure Pass.Agrees (checked : Pass) (pass : FormMigrate.Pass) : Prop where
  keyword : checked.keyword = pass.keyword
  build : Build.Agrees checked.build pass.build

variable {checked : Pass} {pass : FormMigrate.Pass}

theorem followsName_eq (sweep : FormMigrate.Sweep) {pos : Nat} (inside : pos ≤ sweep.text.length)
    : followsName sweep.text pos = some (sweep.followsName pos) := by
  rw [followsName, FormMigrate.Sweep.followsName]
  cases pos with
  | zero => rfl
  | succ n =>
      obtain ⟨c, rest, behind⟩ : ∃ c rest, sweep.text.drop n = c :: rest :=
        List.exists_cons_of_ne_nil fun empty => by
          rw [List.drop_eq_nil_iff] at empty
          omega
      have here : At sweep.text n (c :: rest) :=
        behind ▸ At.of_le (Int.natCast_nonneg n) (Int.ofNat_le.mpr (Nat.le_of_succ_le inside))
      have found : sweep.text[n]? = some c := by
        rw [← Nat.add_zero n, ← List.getElem?_drop, behind]
        rfl
      rw [if_pos (by omega), Int.natCast_add, Int.natCast_one, Int.add_sub_cancel, here.byteAt,
        Nat.add_sub_cancel, found]
      rfl

theorem noteAll_eq (file : Bytes) (pos : Nat) (notes : List Note) (sweep : FormMigrate.Sweep)
    : noteAll file sweep.text pos notes sweep.records
      = some (notes.foldl (FormMigrate.Sweep.remark · file pos) sweep).records := by
  induction notes generalizing sweep with
  | nil => rfl
  | cons note notes ih =>
      rw [noteAll, record_eq, List.foldl_cons, ← ih]
      rfl

/-- The text from an offset on. -/
theorem slice_drop {s : Bytes} {n : Nat} (inside : n ≤ s.length)
    : slice s n s.length = some (s.drop n) := by
  have here : At s n (s.drop n) := At.of_le (Int.natCast_nonneg n) (Int.ofNat_le.mpr inside)
  exact here.slice_length

/-- Calls are answered in bounds. -/
theorem Pass.Agrees.answer (agrees : checked.Agrees pass) (file : Bytes) (sweep : FormMigrate.Sweep)
    {pos : Nat} {extent : Extent} (inside : pos ≤ sweep.text.length)
    (closes : extent.closing < sweep.text.length)
    : checked.answer file (.of sweep) pos extent
      = some (.of (pass.answer file pos extent sweep)) := by
  have reply : checked.build ⟨pass.keyword, extent.inner, Argument.split extent.inner⟩
      = some (pass.build ⟨pass.keyword, extent.inner⟩) :=
    agrees.build ⟨pass.keyword, extent.inner⟩
  have front := slice_zero inside
  have back := slice_drop (Nat.succ_le_of_lt closes)
  rw [Int.natCast_succ] at back
  rw [Pass.answer, FormMigrate.Pass.answer, agrees.keyword, splitArgs_eq, Option.bind_eq_bind,
    Option.bind_some, reply]
  simp only [Sweep.of, Option.bind_eq_bind, Option.bind_some, noteAll_eq, front, back,
    FormMigrate.Pass.foldl_remark]
  cases (pass.build ⟨pass.keyword, extent.inner⟩).replacement <;> rfl

/-- A marker is dealt with in bounds. -/
theorem Pass.Agrees.visit (agrees : checked.Agrees pass) (file : Bytes) (sweep : FormMigrate.Sweep)
    {pos : Nat} (inside : pos + pass.marker.length ≤ sweep.text.length)
    : checked.visit file (.of sweep) pos (pos + pass.marker.length)
      = some (.of (pass.visit file pos sweep)) := by
  have start : pos ≤ sweep.text.length := Nat.le_of_add_right_le inside
  have behind : At sweep.text (pos + pass.marker.length : Nat) _ :=
    At.of_le (Int.natCast_nonneg _) (Int.ofNat_le.mpr inside)
  have opens := behind.opening
  rw [Int.toNat_natCast, Int.natCast_add] at opens
  rw [Pass.visit, FormMigrate.Pass.visit, Sweep.of]
  simp only [followsName_eq sweep start, opens, slice_drop start, clip_eq, record_eq, extract_eq,
    Option.bind_eq_bind, Option.bind_some]
  split
  · rfl
  · cases CallSite.opening? sweep.text (pos + pass.marker.length) with
    | none => rfl
    | some opening =>
        dsimp only [Option.map_some]
        cases extracted : Extent.extract sweep.text opening with
        | error e =>
            rw [agrees.keyword]
            rfl
        | ok extent =>
            exact agrees.answer file sweep start (Extent.closing_lt_of_extract extracted).2

/-- Dealing with a marker leaves the scan inside the text. -/
theorem visit_within (pass : FormMigrate.Pass) (file : Bytes) (sweep : FormMigrate.Sweep)
    {pos : Nat} (inside : pos + pass.marker.length ≤ sweep.text.length)
    : (pass.visit file pos sweep).next ≤ (pass.visit file pos sweep).text.length := by
  rw [FormMigrate.Pass.visit]
  split
  · exact inside
  · split
    · exact inside
    · split
      · exact inside
      · rename_i extracted
        have closes := (Extent.closing_lt_of_extract extracted).2
        rw [FormMigrate.Pass.answer]
        simp only [FormMigrate.Pass.foldl_remark]
        split
        · exact closes
        · simp only [FormMigrate.Sweep.replace, List.length_append, List.length_take]
          omega

/-- The next marker is found in bounds. -/
theorem indexFold_next (pass : FormMigrate.Pass) (sweep : FormMigrate.Sweep)
    (within : sweep.next ≤ sweep.text.length)
    : indexFold sweep.text pass.marker sweep.next
      = some ((sweep.find? pass.marker).map fun n : Nat => (n : Int)) := by
  have here : At sweep.text sweep.next (sweep.text.drop sweep.next) :=
    At.of_le (Int.natCast_nonneg _) (Int.ofNat_le.mpr within)
  have some : pass.marker ≠ [] := List.ne_nil_of_length_pos pass.marker_length_pos
  rw [here.indexFold some, FormMigrate.Sweep.find?, Option.map_map]
  rfl

/-- A run stays in bounds to its end, by induction on the run. -/
theorem Pass.Agrees.run (agrees : checked.Agrees pass) (file : Bytes) (sweep : FormMigrate.Sweep)
    (within : sweep.next ≤ sweep.text.length)
    : checked.run file (.of sweep)
      = some ((pass.run file sweep).text, (pass.run file sweep).records) := by
  fun_induction FormMigrate.Pass.run pass file sweep with
  | case1 sweep last =>
      have none : sweep.find? pass.marker = none := Option.map_eq_none_iff.mp last
      have found := indexFold_next pass sweep within
      rw [none] at found
      rw [Pass.run, agrees.keyword, ← FormMigrate.Pass.marker, Sweep.of]
      simp only [found, Option.bind_eq_bind, Option.bind_some]
      rfl
  | case2 sweep further next _ ih =>
      obtain ⟨pos, marked, rfl⟩ := Option.map_eq_some_iff.mp next
      have found := indexFold_next pass sweep within
      rw [marked] at found
      obtain ⟨k, index, rfl⟩ := Option.map_eq_some_iff.mp marked
      have inside := Bytes.indexFold?_add_length_le index
      rw [List.length_drop] at inside
      have reach : sweep.next + k + pass.marker.length ≤ sweep.text.length := by omega
      have visited := agrees.visit file sweep reach
      rw [Sweep.of] at visited
      rw [Pass.run, agrees.keyword, ← FormMigrate.Pass.marker, Sweep.of]
      simp only [found, Option.map_some, Option.bind_eq_bind, Option.bind_some, visited]
      exact ih (visit_within pass file sweep reach)

/-- Passes one after another stay in bounds, by induction on the list of them. -/
theorem runAll_eq {passes : List Pass} {others : List FormMigrate.Pass}
    (agree : List.Forall₂ Pass.Agrees passes others) (file src : Bytes) (records : List Record)
    : runAll file passes src records
      = some
          ((others.foldl (FormMigrate.Rule.Converted.step file) ⟨src, records⟩).text,
            (others.foldl (FormMigrate.Rule.Converted.step file) ⟨src, records⟩).records) := by
  induction agree generalizing src records with
  | nil => rfl
  | @cons checked pass passes others agrees _ ih =>
      have run := agrees.run file ⟨src, 0, []⟩ (Nat.zero_le _)
      rw [Sweep.of] at run
      rw [runAll, List.foldl_cons]
      simp only [Int.natCast_zero] at run
      simp only [run, Option.bind_eq_bind, Option.bind_some]
      exact ih _ _

/-- A rule by offsets has the name of another one, and converts every text in bounds to what that
one makes of it.
-/
structure Rule.Agrees (checked : Rule) (rule : FormMigrate.Rule) : Prop where
  name : checked.name = rule.name
  converts
    : ∀ file src,
        checked.convert file src
          = some ((rule.convert file src).text, (rule.convert file src).records)

theorem Rule.Agrees.of_passes {name : Bytes} {passes : List Pass} {others : List FormMigrate.Pass}
    (agree : List.Forall₂ Pass.Agrees passes others)
    : Rule.Agrees ⟨name, passes⟩ ⟨name, others⟩ :=
  ⟨rfl, fun file src => runAll_eq agree file src []⟩

/-- The built-in rules stay in bounds, by the agreement of their builders. -/
theorem builtIn_agrees : List.Forall₂ Rule.Agrees builtIn FormMigrate.Rule.builtIn := by
  have texts : List.Forall₂ Pass.Agrees (FormMigrate.Rule.textKeywords.map (⟨·, textInput⟩))
      (FormMigrate.Rule.textKeywords.map (⟨·, Builder.textInput⟩)) := by
    rw [List.forall₂_map_left_iff, List.forall₂_map_right_iff]
    exact List.forall₂_same.mpr fun keyword _ => ⟨rfl, textInput_agrees⟩
  refine .cons (.of_passes ?_) (.cons (.of_passes ?_) (.cons (.of_passes ?_)
    (.cons (.of_passes ?_) (.cons (.of_passes ?_) (.cons (.of_passes ?_) .nil)))))
  · exact .cons ⟨rfl, openForm_agrees⟩ (.cons ⟨rfl, closeForm_agrees⟩ .nil)
  · exact List.rel_append texts (.cons ⟨rfl, plainInput_agrees⟩
      (.cons ⟨rfl, plainInput_agrees⟩ (.cons ⟨rfl, hiddenInput_agrees⟩ .nil)))
  · exact .cons ⟨rfl, label_agrees⟩
      (.cons ⟨rfl, button_agrees⟩ (.cons ⟨rfl, button_agrees⟩ .nil))
  · exact .cons ⟨rfl, toggle_agrees _⟩ (.cons ⟨rfl, toggle_agrees _⟩ .nil)
  · exact .cons ⟨rfl, select_agrees⟩ .nil
  · exact .cons ⟨rfl, modelForm_agrees⟩ (.cons ⟨rfl, token_agrees⟩ .nil)

--------------------------------------------------------------------------------
-- Main result
--------------------------------------------------------------------------------

/-- The expression of a call whose value its builder takes for an array: the lone argument of a
form, the options of a form with a model or the options of a select field, where they look like an
array literal.
-/
inductive TakenForArray (site : CallSite) : Bytes → Prop
  | openForm {arg : Bytes} (alone : site.args = [arg])
    (literal : FormMigrate.looksLiteral site.inner = true)
    : TakenForArray site arg
  | modelForm {options : Bytes} (given : site.attributes? 1 = some options)
    (literal : FormMigrate.looksLiteral options = true)
    : TakenForArray site options
  | select (literal : FormMigrate.looksLiteral (site.orElse 1 "[]") = true)
    : TakenForArray site (site.orElse 1 "[]")

/-- What is taken for an array is one if it evaluates. -/
theorem TakenForArray.array {site : CallSite} {expr : Bytes} {v : Value}
    (taken : TakenForArray site expr) (evaluated : Literal.evaluate expr = .ok v)
    : ∃ entries, v = .array entries := by
  cases taken with
  | openForm alone literal => exact array_of_arg site alone literal evaluated
  | modelForm _ literal | select literal => exact array_of_expr literal evaluated

/-- Every built-in rule converts every text to its end, with no access out of range and no entries
taken of a value that is no array: reading by offsets comes to the same conversion. The reader of
literals stays inside the text from every offset in it, takes a byte with every value, and evaluates
every expression; and what a builder takes for an array is one.
Witness: accesses behind an offset are those of the text that is left there, and the running
readers, scanners, builders and sweeps consume that text.
-/
theorem rules_in_bounds
    : List.Forall₂ Rule.Agrees builtIn FormMigrate.Rule.builtIn
      ∧ (∀ (src : Bytes) (pos : Int), 0 ≤ pos → pos ≤ src.length → ReadsInside src pos)
      ∧ (∀ expr, evaluate expr = some (Literal.evaluate expr))
      ∧ ∀ (site : CallSite) (expr : Bytes) (v : Value),
          TakenForArray site expr
            → Literal.evaluate expr = .ok v
            → ∃ entries, v = .array entries ∧ entriesOf v = some entries := by
  refine ⟨builtIn_agrees, fun _ _ => readsInside, evaluate_eq, ?_⟩
  intro site expr v taken evaluated
  obtain ⟨entries, rfl⟩ := taken.array evaluated
  exact ⟨entries, rfl, rfl⟩

/-- A literal cut off behind a backslash is read inside of it, and the argument before a comma at
the end is an array.
-/
theorem rules_in_bounds_cut
    : ReadsInside "['\\" 1
      ∧ Literal.evaluate "[1]" = .ok (.array [(.int 0, .int 1)])
      ∧ TakenForArray ⟨"open", " [1], "⟩ "[1]"
      ∧ ∃ entries,
          Value.array [(.int 0, .int 1)] = .array entries
          ∧ entriesOf (.array [(.int 0, .int 1)]) = some entries := by
  have evaluated : Literal.evaluate "[1]" = .ok (.array [(.int 0, .int 1)]) := by cbv
  have taken : TakenForArray ⟨"open", " [1], "⟩ "[1]" :=
    .openForm (by decide +kernel) (by decide +kernel)
  exact ⟨rules_in_bounds.2.1 _ _ (by decide) (by decide), evaluated, taken,
    rules_in_bounds.2.2.2 _ _ _ taken evaluated⟩

end FormMigrate.Indexed
