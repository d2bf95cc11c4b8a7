import FormMigrate.Proofs.Call.Simulation
import FormMigrate.Rule

/-! What every built-in pass promises about its replies: the edges of its replacements, and when it
makes a remark.
-/

namespace FormMigrate

--------------------------------------------------------------------------------
-- The built-in passes
--------------------------------------------------------------------------------

/-- The passes of the built-in rules in the order in which they run. -/
def Rule.allPasses : List Pass := Rule.builtIn.flatMap Rule.passes

/-- The built-in passes by their builder, so that a fact about each is one case per builder. -/
inductive Rule.BuiltIn : Pass → Prop
  | openForm : BuiltIn ⟨"open", Builder.openForm⟩
  | closeForm : BuiltIn ⟨"close", Builder.closeForm⟩
  | textInput {keyword} (known : keyword ∈ Rule.textKeywords)
    : BuiltIn ⟨keyword, Builder.textInput⟩
  | plainInput {keyword} (known : keyword ∈ [Bytes.ofString "password", Bytes.ofString "file"])
    : BuiltIn ⟨keyword, Builder.plainInput⟩
  | hiddenInput : BuiltIn ⟨"hidden", Builder.hiddenInput⟩
  | label : BuiltIn ⟨"label", Builder.label⟩
  | button {keyword} (known : keyword ∈ [Bytes.ofString "submit", Bytes.ofString "button"])
    : BuiltIn ⟨keyword, Builder.button⟩
  | checkbox : BuiltIn ⟨"checkbox", Builder.toggle "'1'"⟩
  | radio : BuiltIn ⟨"radio", Builder.toggle "null"⟩
  | select : BuiltIn ⟨"select", Builder.select⟩
  | modelForm : BuiltIn ⟨"model", Builder.modelForm⟩
  | token : BuiltIn ⟨"token", Builder.token⟩

/-- Every pass of the built-in rules has one of the known builders. -/
theorem Rule.builtIn_of_mem {pass : Pass} (h : pass ∈ Rule.allPasses) : Rule.BuiltIn pass := by
  simp only [Rule.allPasses, Rule.builtIn, List.mem_flatMap, List.mem_cons, List.not_mem_nil,
    or_false] at h
  obtain ⟨rule, rfl | rfl | rfl | rfl | rfl | rfl, member⟩ := h
  · simp only [Rule.openClose, List.mem_cons, List.not_mem_nil, or_false] at member
    rcases member with rfl | rfl
    · exact .openForm
    · exact .closeForm
  · simp only [Rule.inputs, List.mem_append, List.mem_map, List.mem_cons, List.not_mem_nil,
      or_false] at member
    rcases member with ⟨keyword, known, rfl⟩ | rfl | rfl | rfl
    · exact .textInput known
    · exact .plainInput (by simp)
    · exact .plainInput (by simp)
    · exact .hiddenInput
  · simp only [Rule.labelButton, List.mem_cons, List.not_mem_nil, or_false] at member
    rcases member with rfl | rfl | rfl
    · exact .label
    · exact .button (by simp)
    · exact .button (by simp)
  · simp only [Rule.checkboxRadio, List.mem_cons, List.not_mem_nil, or_false] at member
    rcases member with rfl | rfl
    · exact .checkbox
    · exact .radio
  · simp only [Rule.select, List.mem_singleton] at member
    subst member
    exact .select
  · simp only [Rule.modelToken, List.mem_cons, List.not_mem_nil, or_false] at member
    rcases member with rfl | rfl
    · exact .modelForm
    · exact .token

/-- No marker of a built-in pass overlaps with itself, and all have only letters and colons. -/
theorem Rule.marker_of_mem
    : ∀ pass ∈ Rule.allPasses,
        Bytes.Unbordered (Bytes.lowerAscii pass.marker)
        ∧ pass.marker.all (fun c => c.isLetter || c == 0x3a) = true := by
  decide

--------------------------------------------------------------------------------
-- The edges of replacements
--------------------------------------------------------------------------------

/-- A text that starts as every replacement does: a chain, or the request token. -/
def Written (text : Bytes) : Prop :=
  text.take 2 = Bytes.ofString "ht" ∨ text.take 2 = Bytes.ofString "cs"

instance (text : Bytes) : Decidable (Written text) :=
  inferInstanceAs (Decidable (text.take 2 = _ ∨ text.take 2 = _))

namespace Written

theorem append {first : Bytes} (h : Written first) (rest : Bytes) : Written (first ++ rest) := by
  have two : (Bytes.ofString "ht").length = 2 ∧ (Bytes.ofString "cs").length = 2 := by decide
  have long : 2 ≤ first.length := by
    have lengths := h.imp (congrArg List.length) (congrArg List.length)
    rw [two.1, two.2, or_self, List.length_take] at lengths
    omega
  rwa [Written, List.take_append_of_le_length long]

/-- What is written cannot be mistaken for a call. -/
theorem fresh {text : Bytes} (h : Written text) : Fresh text := by
  have front : text.head? = (text.take 2).head? := by rw [List.head?_take, if_neg (by decide)]
  rw [Fresh, front]
  rcases h with start | start <;>
    (rw [start]; decide)

end Written

theorem Closed.prepend {last : Bytes} (h : Closed last) (text : Bytes) : Closed (text ++ last) := by
  rw [Closed, List.getLast?_append, h, Option.some_or]

theorem closed_link (method : String) (arg : Bytes) : Closed (link method arg) :=
  Closed.prepend (by decide) _

theorem Closed.linkFor {text : Bytes} (h : Closed text) (method : String) (arg : Option Bytes)
    : Closed (text ++ FormMigrate.linkFor method arg) := by
  cases arg with
  | none => simpa [FormMigrate.linkFor] using h
  | some arg => exact (closed_link method arg).prepend text

namespace Builder

theorem inputHead_edges (keyword name : Bytes)
    : Written (inputHead keyword name) ∧ Closed (inputHead keyword name) := by
  unfold inputHead
  split <;>
    exact ⟨.inl rfl, Closed.prepend (by decide) _⟩

/-- Opening a form with options starts as its head call does and ends in a parenthesis. -/
theorem openCall_edges (form : FormOptions) {start : Bytes} (written : Written start)
    : Written (form.openCall start) ∧ Closed (form.openCall start) := by
  unfold FormOptions.openCall
  exact ⟨by simp only [List.append_assoc]; exact written.append _, Closed.prepend (by decide) _⟩

theorem openForm_edges {site : CallSite} {text : Bytes}
    (h : (openForm site).replacement = some text)
    : Written text ∧ Closed text := by
  simp only [openForm] at h
  split at h
  · cases h
    decide
  · split at h
    · split at h
      · split at h
        · cases h
          split
          · decide
          · exact openCall_edges _ (by decide)
        · cases h
      · cases h
    · split at h
      · cases h
        exact ⟨.inl rfl, Closed.prepend (by decide) _⟩
      · cases h

theorem modelForm_edges {site : CallSite} {text : Bytes}
    (h : (modelForm site).replacement = some text)
    : Written text ∧ Closed text := by
  simp only [modelForm] at h
  split at h
  · cases h
    exact ⟨.inl rfl, Closed.prepend (by decide) _⟩
  · split at h
    · split at h
      · cases h
        split
        · exact ⟨.inl rfl, Closed.prepend (by decide) _⟩
        · exact openCall_edges _ (.inl rfl)
      · cases h
    · cases h

theorem select_edges {site : CallSite} {text : Bytes}
    (h : (select site).replacement = some text)
    : Written text ∧ Closed text := by
  simp only [select] at h
  split at h
  · cases h
    exact ⟨.inl rfl, ((closed_link _ _).prepend _).linkFor _ _⟩
  · cases h
    exact ⟨.inl rfl, (((closed_link _ _).prepend _).linkFor _ _).linkFor _ _⟩

end Builder

/-- A replacement by a built-in pass is written anew from its start and ends in a parenthesis.
Witness: every builder writes the start of a chain first and closes a call last.
-/
theorem Rule.BuiltIn.edges {pass : Pass} (known : Rule.BuiltIn pass) {inner text : Bytes}
    (h : (pass.build ⟨pass.keyword, inner⟩).replacement = some text)
    : Written text ∧ Closed text := by
  cases known with
  | openForm => exact Builder.openForm_edges h
  | closeForm =>
      simp only [Builder.closeForm] at h
      split at h
      · cases h
        decide
      · cases h
  | textInput =>
      cases h
      obtain ⟨written, closed⟩ := Builder.inputHead_edges _ _
      exact ⟨(written.append _).append _, (closed.linkFor _ _).linkFor _ _⟩
  | plainInput =>
      cases h
      obtain ⟨written, closed⟩ := Builder.inputHead_edges _ _
      exact ⟨written.append _, closed.linkFor _ _⟩
  | hiddenInput =>
      cases h
      obtain ⟨written, closed⟩ := Builder.inputHead_edges _ _
      exact ⟨written.append _, closed.linkFor _ _⟩
  | label =>
      cases h
      exact ⟨.inl rfl, (((closed_link _ _).prepend _).linkFor _ _).linkFor _ _⟩
  | button =>
      cases h
      exact ⟨.inl rfl, ((closed_link _ _).prepend _).linkFor _ _⟩
  | checkbox | radio =>
      cases h
      exact ⟨.inl rfl, (Closed.prepend (by decide) _).linkFor _ _⟩
  | select => exact Builder.select_edges h
  | modelForm => exact Builder.modelForm_edges h
  | token =>
      simp only [Builder.token] at h
      split at h
      · cases h
        decide
      · cases h

--------------------------------------------------------------------------------
-- Remarks
--------------------------------------------------------------------------------

/-- The options of a select field look like a literal but are no array without groups, so that
they are mapped when the page is rendered.
-/
def Builder.FallsBack (site : CallSite) : Prop :=
  looksLiteral (site.orElse 1 "[]") = true
  ∧ ∀ entries,
      Literal.evaluate (site.orElse 1 "[]") = .ok (.array entries)
      → Builder.hasGroups entries = true

/-- Static options carry a remark when they cannot be written out, and only then. -/
theorem Builder.staticOptions_note {site : CallSite} {note : Option Note}
    (h : Builder.staticOptions (site.orElse 1 "[]") = .error note)
    : note.toList ≠ [] ↔ Builder.FallsBack site := by
  unfold Builder.staticOptions at h
  unfold Builder.FallsBack
  split at h
  · rename_i literal
    split at h
    · rename_i failed
      cases h
      simp [literal, failed]
    · rename_i entries evaluated
      split at h
      · rename_i groups
        cases h
        simp [literal, evaluated, groups]
      · cases h
    · rename_i value other evaluated
      cases h
      simp only [literal, evaluated, Except.ok.injEq, Option.toList_some, ne_eq, List.cons_ne_self,
        not_false_eq_true, true_and, true_iff]
      intro entries same
      exact (other entries same).elim
  · rename_i dynamic
    cases h
    simp [dynamic]

/-- Written-out options need no remark. -/
theorem Builder.staticOptions_ok {site : CallSite} {entries : Entries}
    (h : Builder.staticOptions (site.orElse 1 "[]") = .ok entries)
    : ¬ Builder.FallsBack site := by
  unfold Builder.staticOptions at h
  rintro ⟨literal, groups⟩
  rw [literal, if_pos rfl] at h
  split at h
  · cases h
  · rename_i found evaluated
    have grouped := groups found evaluated
    rw [grouped, if_pos rfl] at h
    cases h
  · cases h

/-- A reply that either replaces a call without a remark or leaves it alone with one. -/
inductive Reply.Plain : Reply → Prop
  | accept (text : Bytes) : Plain (.accept text)
  | decline (note : Note) : Plain (.decline note)

theorem Builder.openForm_plain (site : CallSite) : (Builder.openForm site).Plain := by
  unfold Builder.openForm
  split
  · exact .accept _
  · split
    · split
      · split
        · exact .accept _
        · exact .decline _
      · exact .decline _
    · split
      · exact .accept _
      · exact .decline _

theorem Builder.modelForm_plain (site : CallSite) : (Builder.modelForm site).Plain := by
  simp only [Builder.modelForm]
  split
  · exact .accept _
  · split
    · split
      · exact .accept _
      · exact .decline _
    · exact .decline _

theorem Builder.bare_plain (site : CallSite)
    : (Builder.closeForm site).Plain ∧ (Builder.token site).Plain := by
  unfold Builder.closeForm Builder.token
  split
  · exact ⟨.accept _, .accept _⟩
  · exact ⟨.decline _, .decline _⟩

/-- Every built-in pass but the one for select fields gives plain replies. -/
theorem Rule.BuiltIn.plain_or_select {pass : Pass} (known : Rule.BuiltIn pass) (inner : Bytes)
    : ((pass.build ⟨pass.keyword, inner⟩).Plain ∧ pass.keyword ≠ Bytes.ofString "select")
      ∨ pass = ⟨"select", Builder.select⟩ := by
  cases known with
  | openForm => exact .inl ⟨Builder.openForm_plain _, by decide⟩
  | closeForm => exact .inl ⟨(Builder.bare_plain _).1, by decide⟩
  | @textInput keyword known =>
      have other : ∀ keyword ∈ Rule.textKeywords, keyword ≠ Bytes.ofString "select" := by decide
      exact .inl ⟨.accept _, other keyword known⟩
  | @plainInput keyword known =>
      have other : ∀ keyword ∈ [Bytes.ofString "password", Bytes.ofString "file"],
          keyword ≠ Bytes.ofString "select" := by decide
      exact .inl ⟨.accept _, other keyword known⟩
  | hiddenInput => exact .inl ⟨.accept _, by decide⟩
  | label => exact .inl ⟨.accept _, by decide⟩
  | @button keyword known =>
      have other : ∀ keyword ∈ [Bytes.ofString "submit", Bytes.ofString "button"],
          keyword ≠ Bytes.ofString "select" := by decide
      exact .inl ⟨.accept _, other keyword known⟩
  | checkbox | radio => exact .inl ⟨.accept _, by decide⟩
  | select => exact .inr rfl
  | modelForm => exact .inl ⟨Builder.modelForm_plain _, by decide⟩
  | token => exact .inl ⟨(Builder.bare_plain _).2, by decide⟩

/-- A select field is always replaced; its remark says that its options fell back. -/
theorem Builder.select_reply (site : CallSite)
    : ∃ text,
        (Builder.select site).replacement = some text
        ∧ (Builder.select site).notes.length ≤ 1
        ∧ ((Builder.select site).notes ≠ [] ↔ Builder.FallsBack site) := by
  simp only [Builder.select]
  split
  · rename_i entries static
    refine ⟨_, rfl, by simp, ?_⟩
    simpa using Builder.staticOptions_ok static
  · rename_i note fallback
    exact ⟨_, rfl, by cases note <;> simp, Builder.staticOptions_note fallback⟩

/-- A built-in pass that leaves a call alone makes exactly one remark about it. -/
theorem Rule.BuiltIn.declined_notes {pass : Pass} (known : Rule.BuiltIn pass) {inner : Bytes}
    (h : (pass.build ⟨pass.keyword, inner⟩).replacement = none)
    : ∃ note, (pass.build ⟨pass.keyword, inner⟩).notes = [note] := by
  rcases known.plain_or_select inner with ⟨plain, _⟩ | rfl
  · cases reply : pass.build ⟨pass.keyword, inner⟩ with
    | mk replacement notes =>
        rw [reply] at plain h
        cases plain with
        | accept => cases h
        | decline note => exact ⟨note, rfl⟩
  · obtain ⟨text, replaced, _⟩ := Builder.select_reply ⟨"select", inner⟩
    rw [h] at replaced
    cases replaced

/-- A built-in pass that replaces a call makes no remark, except that a select field whose options
fall back gets one.
-/
theorem Rule.BuiltIn.replaced_notes {pass : Pass} (known : Rule.BuiltIn pass)
    {inner text : Bytes} (h : (pass.build ⟨pass.keyword, inner⟩).replacement = some text)
    : (pass.build ⟨pass.keyword, inner⟩).notes.length ≤ 1
      ∧ ((pass.build ⟨pass.keyword, inner⟩).notes ≠ []
        ↔ pass.keyword = Bytes.ofString "select"
          ∧ Builder.FallsBack ⟨pass.keyword, inner⟩) := by
  rcases known.plain_or_select inner with ⟨plain, other⟩ | rfl
  · cases reply : pass.build ⟨pass.keyword, inner⟩ with
    | mk replacement notes =>
        rw [reply] at plain h
        cases plain with
        | accept => simp [other]
        | decline => cases h
  · obtain ⟨_, _, few, remark⟩ := Builder.select_reply ⟨"select", inner⟩
    exact ⟨few, remark.trans (by simp)⟩

/-- The built-in passes keep what makes their sweeps follow the source. -/
theorem Rule.regular_of_mem {pass : Pass} (h : pass ∈ Rule.allPasses) : pass.Regular where
  unbordered := (Rule.marker_of_mem pass h).1
  worded := (Rule.marker_of_mem pass h).2
  fresh _ _ replaced := ((Rule.builtIn_of_mem h).edges replaced).1.fresh
  closed _ _ replaced := ((Rule.builtIn_of_mem h).edges replaced).2

end FormMigrate
