import FormMigrate.Proofs.Rule.FormOptions

/-! Opening a form with static options: what the call becomes is decided by the form that the
options describe, and the form is found again in the chain that is written.
-/

namespace FormMigrate

--------------------------------------------------------------------------------
-- The first argument of a list
--------------------------------------------------------------------------------

namespace Argument

/-- The first segment of a text is at its front. -/
theorem segmentsFrom_prefix (q : QuoteState) (depth : Int) (s : Bytes)
    : ∀ first ∈ (segmentsFrom q depth s).head?, first <+: s := by
  have longer {c : Byte} {rest : Bytes} {segments : List Bytes}
      (front : ∀ first ∈ segments.head?, first <+: rest)
      : ∀ first ∈ (consHead c segments).head?, first <+: c :: rest := by
    rintro first member
    cases segments with
    | nil =>
        obtain rfl := Option.some.inj member
        exact List.prefix_append [c] rest
    | cons segment others =>
        obtain rfl := Option.some.inj member
        exact (List.prefix_cons_inj c).mpr (front segment rfl)
  induction s generalizing q depth with
  | nil =>
      rintro first member
      obtain rfl := Option.some.inj member
      exact List.prefix_rfl
  | cons c rest ih =>
      rw [segmentsFrom]
      split
      · exact longer (ih _ _)
      · split
        · rintro first member
          obtain rfl := Option.some.inj member
          exact List.nil_prefix
        · exact longer (ih _ _)

theorem head_of_dropBlankLast {text first : Bytes} {texts rest : List Bytes}
    (h : dropBlankLast (text :: texts) = first :: rest)
    : text = first := by
  cases texts with
  | nil =>
      rw [dropBlankLast] at h
      split at h
      · cases h
      · exact (List.cons.inj h).1
  | cons second others => exact (List.cons.inj h).1

/-- The first argument of a list stands behind white space at its front. -/
theorem front_of_split {s first : Bytes} {rest : List Bytes} (h : split s = first :: rest)
    : ∃ front back, Bytes.White front ∧ s = front ++ (first ++ back) := by
  obtain ⟨segment, others, cut⟩ := List.exists_cons_of_ne_nil (segmentsFrom_ne_nil .outside 0 s)
  rw [split, segments, cut, List.map_cons] at h
  obtain rfl := head_of_dropBlankLast h
  obtain ⟨behind, parts⟩ := segmentsFrom_prefix .outside 0 s segment (by rw [cut]; rfl)
  obtain ⟨front, back, white, -, padded⟩ := Bytes.trim_parts segment
  refine ⟨front, back ++ behind, white, ?_⟩
  rw [← parts]
  conv_lhs => rw [padded]
  simp only [List.append_assoc]

end Argument

namespace Literal

/-- An argument list that starts with a static array looks like a literal. -/
theorem looksLiteral_of_split {inner expr : Bytes} {entries : Entries} {rest : List Bytes}
    (evaluated : evaluate expr = .ok (.array entries))
    (args : Argument.split inner = Bytes.trim expr :: rest)
    : looksLiteral inner = true := by
  obtain ⟨-, -, -, spells, -, -⟩ := (evaluate_eq_ok_iff.mp evaluated).padded_array
  obtain ⟨parts, array, -⟩ := spells.array
  obtain ⟨front, back, white, rfl⟩ := Argument.front_of_split args
  obtain ⟨c, d, first, last, visible, visible'⟩ := array.edges
  exact array.looksLiteral (Bytes.trim_append white first last visible visible')

end Literal

namespace Builder

open FormOptions

--------------------------------------------------------------------------------
-- Static options
--------------------------------------------------------------------------------

theorem staticArray?_eq {expr : Bytes} {entries : Entries}
    (evaluated : Literal.evaluate expr = .ok (.array entries))
    : staticArray? expr = some entries := by
  rw [staticArray?, evaluated]

/-- A form with static options alone is the one that they describe. -/
theorem openForm_static {site : CallSite} {expr : Bytes} {entries : Entries}
    (evaluated : Literal.evaluate expr = .ok (.array entries)) (args : site.args = [Bytes.trim expr])
    : openForm site
      = .accept
          (if (ofEntries entries).isBare then bareOpen
            else (ofEntries entries).openCall "html()->form(") := by
  have literal : looksLiteral site.inner = true := Literal.looksLiteral_of_split evaluated args
  have shown : (Bytes.trim site.inner).isEmpty = false := by
    rw [List.isEmpty_eq_false_iff]
    intro empty
    rw [looksLiteral, empty] at literal
    cases literal
  have static := staticArray?_eq (Literal.evaluate_trim evaluated)
  simp only [openForm, shown, literal, args, static, Bool.false_eq_true, ↓reduceIte]

/-- A static array is present as an argument, and one without entries is an empty one. -/
theorem attributes?_static {site : CallSite} {i : Nat} {expr : Bytes} {entries : Entries}
    (evaluated : Literal.evaluate expr = .ok (.array entries))
    (given : site.args[i]? = some (Bytes.trim expr))
    : site.attributes? i = some (Bytes.trim expr) ∨ site.attributes? i = none ∧ entries = [] := by
  have denotes := Literal.evaluate_eq_ok_iff.mp (Literal.evaluate_trim evaluated)
  obtain ⟨-, -, -, spells, -, -⟩ := (Literal.evaluate_eq_ok_iff.mp evaluated).padded_array
  obtain ⟨parts, array, same⟩ := spells.array
  have shown : Bytes.trim expr ≠ [] := by
    intro empty
    obtain ⟨c, d, first, -⟩ := array.edges
    rw [empty] at first
    cases first
  have other : Bytes.sameFold (Bytes.trim expr) "null" = false := by
    rw [Bytes.sameFold, beq_eq_false_iff_ne]
    intro null
    have word : Literal.Spells (Bytes.trim expr) .null := .word (by rw [null]; rfl)
    have value := Literal.evaluate_eq_ok_iff.mpr (.of_spells denotes.static word)
    rw [Literal.evaluate_trim evaluated] at value
    cases value
  have present : site.optional? i = some (Bytes.trim expr) := by
    rw [CallSite.optional?_eq, given?, given, Option.filter_some, other,
      List.isEmpty_eq_false_iff.mpr shown]
    rfl
  rw [CallSite.attributes?, present, Option.filter_some]
  cases empty : CallSite.isEmptyArray (Bytes.trim expr) with
  | false => exact .inl rfl
  | true =>
      obtain rfl := array.parts_of_isEmptyArray empty
      exact .inr ⟨rfl, (Value.array.inj same).symm⟩

/-- A form bound to a model, with static options, is the one that they describe. -/
theorem modelForm_static {site : CallSite} {model expr : Bytes} {entries : Entries}
    (evaluated : Literal.evaluate expr = .ok (.array entries))
    (args : site.args = [model, Bytes.trim expr])
    : modelForm site
      = .accept
          (if (ofEntries entries).isBare then
            "html()->modelForm(" ++ site.orElse 0 "$model" ++ ")->open()"
          else
            (ofEntries entries).openCall
              ("html()->modelForm(" ++ site.orElse 0 "$model" ++ ", ")) := by
  have given : site.args[1]? = some (Bytes.trim expr) := by rw [args]; rfl
  have value := Literal.evaluate_trim evaluated
  rcases attributes?_static evaluated given with present | ⟨absent, rfl⟩
  · simp only [modelForm, present, Literal.looksLiteral_of_evaluate value, staticArray?_eq value,
      ↓reduceIte]
  · have bare : (ofEntries []).isBare = true := by decide
    simp only [modelForm, absent, bare, ↓reduceIte]

--------------------------------------------------------------------------------
-- The chain of a form
--------------------------------------------------------------------------------

/-- The calls of a form that says nothing but its first arguments. -/
def bareCalls (method : Bytes) (front : List Bytes) : List Link := [⟨method, front⟩, ⟨"open", []⟩]

/-- The calls of any other form: behind the first arguments stand its method and its target, and its
attributes have a call of their own if there are any.
-/
def fullCalls (method : Bytes) (front : List Bytes) (form : FormOptions) : List Link :=
  ⟨method, front ++ [quote form.method, form.action.getD "null"]⟩
    :: ((if form.attributes.isEmpty then [] else [⟨"attributes", [form.attributesCode]⟩])
      ++ [⟨"open", []⟩])

theorem isBare_iff {form : FormOptions}
    : form.isBare = true
      ↔ form.method = Bytes.ofString "POST" ∧ form.action = none ∧ form.attributes = [] := by
  rw [isBare, Bool.and_eq_true, Bool.and_eq_true, Option.isNone_iff_eq_none, List.isEmpty_iff,
    beq_iff_eq, and_comm]

/-- The links behind the head call of a form. -/
theorem fullCalls_code (method : Bytes) (front : List Bytes) (form : FormOptions)
    : Chain.code (fullCalls method front form)
      = Chain.root ++ "->" ++ method ++ "("
        ++ Bytes.join ", " (front ++ [quote form.method, form.action.getD "null"]) ++ ")"
        ++ (if form.attributes.isEmpty then [] else link "attributes" form.attributesCode)
        ++ "->open()" := by
  have opened : Link.code ⟨"open", []⟩ = Bytes.ofString "->open()" := by decide
  rw [Chain.code, fullCalls, List.flatMap_cons, List.flatMap_append, List.flatMap_singleton, opened]
  split
  · simp only [Link.code, List.flatMap_nil, List.nil_append, List.append_nil, List.append_assoc]
  · simp only [Link.code, link, Bytes.join, List.flatMap_singleton, List.intercalate_singleton,
      List.append_assoc]

/-- A form with static options is written as its chain. -/
theorem openForm_code {site : CallSite} {expr : Bytes} {entries : Entries}
    (evaluated : Literal.evaluate expr = .ok (.array entries)) (args : site.args = [Bytes.trim expr])
    : openForm site
      = .accept
          (Chain.code
            (if (ofEntries entries).isBare then bareCalls "form" []
              else fullCalls "form" [] (ofEntries entries))) := by
  rw [openForm_static evaluated args]
  split
  · exact congrArg Reply.accept (by decide)
  · rw [fullCalls_code, openCall, List.nil_append, Bytes.join, List.intercalate_cons_cons,
      List.intercalate_singleton]
    simp only [List.append_assoc]
    rfl

/-- A form bound to a model, with static options, is written as its chain. -/
theorem modelForm_code {site : CallSite} {model expr : Bytes} {entries : Entries}
    (evaluated : Literal.evaluate expr = .ok (.array entries))
    (args : site.args = [model, Bytes.trim expr])
    : modelForm site
      = .accept
          (Chain.code
            (if (ofEntries entries).isBare then bareCalls "modelForm" [site.orElse 0 "$model"]
              else fullCalls "modelForm" [site.orElse 0 "$model"] (ofEntries entries))) := by
  rw [modelForm_static evaluated args]
  split
  · simp only [bareCalls, Chain.code, List.flatMap_cons, List.flatMap_nil, Link.code_single,
      List.append_nil, List.append_assoc]
    rfl
  · rw [fullCalls_code, openCall, List.singleton_append, Bytes.join, List.intercalate_cons_cons,
      List.intercalate_cons_cons, List.intercalate_singleton]
    simp only [List.append_assoc]
    rfl

--------------------------------------------------------------------------------
-- Reading a form back
--------------------------------------------------------------------------------

/-- A text opens a form, after the first arguments of the method that makes it. It is the bare form
exactly if the form posts and has neither a target nor attributes. Otherwise reading it gives the
quoted method and the target, or null, as the last arguments, and the attributes as one argument. It
evaluates to the attributes, in their order, unless it shows a code marker or holds an infinite
number.
-/
structure Opens (text method : Bytes) (front : List Bytes) (form : FormOptions) : Prop where
  bare
    : text = Chain.code (bareCalls method front)
      ↔ form.method = Bytes.ofString "POST" ∧ form.action = none ∧ form.attributes = []
  reads
    : text ≠ Chain.code (bareCalls method front)
      → Chain.read? text = some (fullCalls method front form)
  order : (form.attributes.map Prod.fst).Sublist attributeOrder
  evaluates
    : Literal.codeMarker? form.attributesCode = none
      → (Value.array form.attributeEntries).hasInfinity = false
      → Literal.evaluate form.attributesCode = .ok (.array form.attributeEntries)

/-- The chain of a form opens it, after first arguments that are single ones.
Witness: both chains are read back, and the full one has more arguments in its first call.
-/
theorem opens_code {method : Bytes} (named : method.all Byte.isNamePart = true) {front : List Bytes}
    (single : ∀ arg ∈ front, Argument.Single arg) {entries : Entries}
    (settled : EntriesSettled entries)
    : Opens
        (Chain.code
          (if (ofEntries entries).isBare then bareCalls method front
            else fullCalls method front (ofEntries entries)))
        method front (ofEntries entries) := by
  have opened : Link.Holds Argument.Single ⟨"open", []⟩ :=
    ⟨rfl, List.forall_mem_nil _⟩
  have bareRead
      : Chain.read? (Chain.code (bareCalls method front)) = some (bareCalls method front) :=
    Chain.read?_code (List.forall_mem_cons.mpr
      ⟨⟨named, single⟩, List.forall_mem_singleton.mpr opened⟩)
  have fullRead : Chain.read? (Chain.code (fullCalls method front (ofEntries entries)))
      = some (fullCalls method front (ofEntries entries)) := by
    have target : Argument.Single ((ofEntries entries).action.getD "null") := by
      cases found : (ofEntries entries).action with
      | none => exact fillers_single _ (by decide)
      | some action => exact actionOf_single found
    refine Chain.read?_code (List.forall_mem_cons.mpr ⟨⟨named, ?_⟩, ?_⟩)
    · rw [List.forall_mem_append, List.forall_mem_cons, List.forall_mem_singleton]
      exact ⟨single, quote_single _, target⟩
    · rw [List.forall_mem_append, List.forall_mem_singleton]
      refine ⟨?_, opened⟩
      split
      · exact List.forall_mem_nil _
      · exact List.forall_mem_singleton.mpr (.single rfl (attributesCode_single _))
  have apart : Chain.code (fullCalls method front (ofEntries entries))
      ≠ Chain.code (bareCalls method front) := by
    intro same
    rw [same, bareRead, Option.some.injEq, bareCalls, fullCalls, List.cons.injEq,
      Link.mk.injEq] at fullRead
    have lengths := congrArg List.length fullRead.1.2
    rw [List.length_append] at lengths
    simp at lengths
  refine ⟨?_, ?_, attributesOf_names entries, evaluate_attributesCode settled⟩
  · rw [← isBare_iff]
    split
    · rename_i bare
      exact iff_of_true rfl bare
    · rename_i full
      exact iff_of_false apart full
  · split
    · exact fun other => (other rfl).elim
    · exact fun _ => fullRead

/-- The model that a form is bound to is one argument. -/
theorem model_single {site : CallSite} {model : Bytes} {rest : List Bytes}
    (nested : WellNested model) (alone : Argument.segments model = [model])
    (args : site.args = Bytes.trim model :: rest)
    : Argument.Single (site.orElse 0 "$model") := by
  have fallback : Argument.Single "$model" := by
    have whole : Sealed "$model" := .of_segments (.of_scan rfl) rfl
    exact .of_edges whole (show _ = some 0x24 from rfl) (show _ = some 0x6c from rfl) rfl rfl
  rw [CallSite.orElse_eq, givenOr, args]
  cases given : given? (Bytes.trim model :: rest) 0 with
  | none => exact fallback
  | some v =>
      obtain ⟨found, shown⟩ := Option.filter_eq_some_iff.mp given
      obtain rfl := Option.some.inj found
      rw [Bool.and_eq_true, Bool.not_eq_true', List.isEmpty_eq_false_iff] at shown
      exact ⟨(Sealed.of_segments nested alone).trim, Bytes.trim_trim model, shown.1⟩

/-- Static options of a form are interpreted by the lookups of a few names alone: arrays that agree
on them open the same form, alone or bound to the same model, whatever else is in them and however
they are spelled. The form is the one that the options describe. A spelled array is the only
argument of a call around it, and the second one behind a model and a comma.
Witness: the calls are written as the chain of that form, which is read back.
-/
theorem form_opens {expr other : Bytes} {entries others : Entries}
    (evaluated : Literal.evaluate expr = .ok (.array entries))
    (evaluated' : Literal.evaluate other = .ok (.array others)) (agree : Agree entries others)
    : ((∀ keyword, (CallSite.mk keyword expr).args = [Bytes.trim expr])
        ∧ ∀ site site' : CallSite,
            site.args = [Bytes.trim expr]
              → site'.args = [Bytes.trim other]
              → openForm site' = openForm site
                ∧ ∃ text,
                    openForm site = .accept text ∧ Opens text "form" [] (ofEntries entries))
      ∧ ∀ model,
          WellNested model
            → Argument.segments model = [model]
            → (∀ keyword,
                (CallSite.mk keyword (model ++ 0x2c :: expr)).args
                  = [Bytes.trim model, Bytes.trim expr])
              ∧ ∀ site site' : CallSite,
                  site.args = [Bytes.trim model, Bytes.trim expr]
                    → site'.args = [Bytes.trim model, Bytes.trim other]
                    → modelForm site' = modelForm site
                      ∧ ∃ text,
                          modelForm site = .accept text
                          ∧ Opens text "modelForm" [site.orElse 0 "$model"] (ofEntries entries) := by
  have denotes := Literal.evaluate_eq_ok_iff.mp evaluated
  have alone := Argument.split_sealed denotes.sealed denotes.trim_ne_nil
  obtain ⟨-, -, -, spells, -, -⟩ := denotes.padded_array
  have settled := spells.settled.2
  refine ⟨⟨fun _ => alone, fun site site' args args' => ?_⟩,
    fun model nested uncut => ⟨fun _ => ?_, fun site site' args args' => ?_⟩⟩
  · rw [openForm_code evaluated args, openForm_code evaluated' args', ← agree.ofEntries_eq]
    exact ⟨rfl, _, rfl, opens_code rfl (List.forall_mem_nil _) settled⟩
  · exact (Argument.split_cons (.of_segments nested uncut) expr).trans (congrArg _ alone)
  · have same : site'.orElse 0 "$model" = site.orElse 0 "$model" := by
      rw [CallSite.orElse_eq, CallSite.orElse_eq, args, args']
      rfl
    have single := List.forall_mem_singleton.mpr (model_single nested uncut args)
    rw [modelForm_code evaluated args, modelForm_code evaluated' args', same, ← agree.ofEntries_eq]
    exact ⟨rfl, _, rfl, opens_code rfl single settled⟩

/-- Two spellings of the same options, in another order and with an entry written over and one that
does not matter, as the only argument and beside a model.
-/
theorem form_opens_spellings
    : ∃ entries others,
        Literal.evaluate "['method' => 'put', 'files' => true, 'class' => 'a']"
          = .ok (.array entries)
        ∧ Literal.evaluate
            "array('class' => 1, 7, 'files' => TRUE, 'method' => \"put\", 'class' => 'a')"
          = .ok (.array others)
        ∧ Agree entries others
        ∧ openForm
            ⟨"open", "array('class' => 1, 7, 'files' => TRUE, 'method' => \"put\", 'class' => 'a')"⟩
          = openForm ⟨"open", " ['method' => 'put', 'files' => true, 'class' => 'a'], "⟩
        ∧ (∃ text,
            openForm ⟨"open", " ['method' => 'put', 'files' => true, 'class' => 'a'], "⟩
              = .accept text
            ∧ Opens text "form" [] (ofEntries entries))
        ∧ modelForm
            ⟨"model",
              "$user, array('class' => 1, 7, 'files' => TRUE, 'method' => \"put\", 'class' => 'a')"⟩
          = modelForm ⟨"model", "$user, ['method' => 'put', 'files' => true, 'class' => 'a']"⟩ := by
  have evaluated : Literal.evaluate "['method' => 'put', 'files' => true, 'class' => 'a']"
      = .ok (.array [(.text "method", .text "put"), (.text "files", .bool true),
          (.text "class", .text "a")]) := by
    cbv
  have evaluated'
      : Literal.evaluate
          "array('class' => 1, 7, 'files' => TRUE, 'method' => \"put\", 'class' => 'a')"
        = .ok (.array [(.text "class", .text "a"), (.int 0, .int 7), (.text "files", .bool true),
            (.text "method", .text "put")]) := by
    cbv
  have agree
      : Agree [(.text "method", .text "put"), (.text "files", .bool true), (.text "class", .text "a")]
          [(.text "class", .text "a"), (.int 0, .int 7), (.text "files", .bool true),
            (.text "method", .text "put")] := by
    simp only [Agree, optionNames, List.forall_mem_cons, List.not_mem_nil, false_implies,
      implies_true, and_true]
    exact ⟨rfl, rfl, rfl, rfl, rfl, rfl, rfl, rfl, rfl, rfl, rfl, rfl, rfl, rfl⟩
  obtain ⟨⟨-, alone⟩, bound⟩ := form_opens evaluated evaluated' agree
  obtain ⟨same, opens⟩ := alone
    ⟨"open", " ['method' => 'put', 'files' => true, 'class' => 'a'], "⟩
    ⟨"open", "array('class' => 1, 7, 'files' => TRUE, 'method' => \"put\", 'class' => 'a')"⟩
    (by decide +kernel) (by decide +kernel)
  obtain ⟨same', -⟩ := (bound "$user" (.of_scan rfl) rfl).2
    ⟨"model", "$user, ['method' => 'put', 'files' => true, 'class' => 'a']"⟩
    ⟨"model", "$user, array('class' => 1, 7, 'files' => TRUE, 'method' => \"put\", 'class' => 'a')"⟩
    (by decide +kernel) (by decide +kernel)
  exact ⟨_, _, evaluated, evaluated', agree, same, opens, same'⟩

end Builder

end FormMigrate
