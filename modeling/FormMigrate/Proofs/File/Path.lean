import FormMigrate.File.Path

/-! The names of a path: slashes at its end add none, and a name that is put below a directory is
the last one.
-/

namespace FormMigrate

theorem Bytes.trimBack_prefix (drop : Byte → Bool) (s : Bytes) : Bytes.trimBack drop s <+: s := by
  obtain ⟨dropped, parts⟩ := List.dropWhile_suffix (l := s.reverse) drop
  refine ⟨dropped.reverse, ?_⟩
  rw [Bytes.trimBack, ← List.reverse_append, parts, List.reverse_reverse]

namespace Path

theorem names_nil : names [] = [] := rfl

/-- A slash separates the names before it from those behind it. -/
theorem names_slash (s t : Bytes) : names (s ++ 0x2f :: t) = names s ++ names t := by
  rw [names, Bytes.split, List.splitOn_append_cons_self, List.filter_append]
  rfl

/-- A name is a path of its own. -/
theorem names_of_not_mem {name : Bytes} (nonempty : name ≠ []) (plain : (0x2f : Byte) ∉ name)
    : names name = [name] := by
  rw [names, Bytes.split, List.splitOn_eq_singleton plain]
  simpa using nonempty

/-- Slashes at the end of a path may be left out. -/
theorem names_trimBack (path : Bytes) : names (Bytes.trimBack (· == 0x2f) path) = names path := by
  obtain ⟨s, rfl⟩ : ∃ s : Bytes, path = s.reverse := ⟨path.reverse, path.reverse_reverse.symm⟩
  rw [Bytes.trimBack, List.reverse_reverse]
  induction s with
  | nil => rfl
  | cons c rest ih =>
      rw [List.dropWhile_cons]
      split
      · rename_i slash
        obtain rfl := beq_iff_eq.mp slash
        rw [ih, List.reverse_cons, names_slash, names_nil, List.append_nil]
      · rfl

/-- The last name behind other ones. -/
theorem getLast?_names_join (parts : List Bytes) {name : Bytes} (nonempty : name ≠ [])
    (plain : (0x2f : Byte) ∉ name)
    : (names (Bytes.join [0x2f] (parts ++ [name]))).getLast? = some name := by
  induction parts with
  | nil =>
      rw [List.nil_append, Bytes.join, List.intercalate_singleton, names_of_not_mem nonempty plain]
      rfl
  | cons part rest ih =>
      have more : rest ++ [name] ≠ [] := by simp
      rw [List.cons_append, Bytes.join, List.intercalate_cons_of_ne_nil more, List.append_assoc]
      rw [List.singleton_append, names_slash]
      rw [Bytes.join] at ih
      rw [List.getLast?_append, ih]
      rfl

theorem push_name {name : Bytes} (here : name ≠ Path.here) (parent : name ≠ Path.parent)
    (absolute : Bool) (stack : List Bytes)
    : push absolute stack name = name :: stack := by
  unfold push
  rw [if_neg (by simpa using here), if_neg (by simpa using parent)]

theorem base_eq {path name : Bytes} (last : (names path).getLast? = some name)
    : base path = name := by
  rw [base, last]

/-- A name stays the last one of a cleaned path. -/
theorem getLast?_names_clean {s name : Bytes} (nonempty : name ≠ []) (plain : (0x2f : Byte) ∉ name)
    (here : name ≠ Path.here) (parent : name ≠ Path.parent) {above : List Bytes}
    (last : names s = above ++ [name])
    : (names (clean s)).getLast? = some name := by
  have pushed : (names s).foldl (push (isAbsolute s)) []
      = name :: above.foldl (push (isAbsolute s)) [] := by
    rw [last, List.foldl_append, List.foldl_cons, List.foldl_nil, push_name here parent]
  have body := getLast?_names_join (above.foldl (push (isAbsolute s)) []).reverse nonempty plain
  rw [← List.reverse_cons, ← pushed] at body
  have separator : Bytes.ofString "/" = [0x2f] := by decide
  rw [clean, separator]
  split
  · exact (congrArg List.getLast? (names_slash [] _)).trans body
  · rw [if_neg, body]
    intro empty
    rw [List.isEmpty_iff.mp empty] at body
    cases body

/-- A name below a directory is the last one of its path. -/
theorem getLast?_names_below (directory : Bytes) {name : Bytes} (nonempty : name ≠ [])
    (plain : (0x2f : Byte) ∉ name) (here : name ≠ Path.here) (parent : name ≠ Path.parent)
    : (names (join [directory, name])).getLast? = some name := by
  have separator : Bytes.ofString "/" = [0x2f] := by decide
  have own := names_of_not_mem nonempty plain
  cases directory with
  | nil =>
      have used : [[], name].filter (fun part : Bytes => !part.isEmpty) = [name] := by
        simp [nonempty]
      have alone : join [[], name] = clean name := by
        rw [join, used, if_neg (by simp), Bytes.join, List.intercalate_singleton]
      rw [alone]
      exact getLast?_names_clean nonempty plain here parent (own.trans (List.nil_append _).symm)
  | cons c rest =>
      have used : [c :: rest, name].filter (fun part => !part.isEmpty) = [c :: rest, name] := by
        simp [nonempty]
      have below : join [c :: rest, name] = clean (c :: rest ++ 0x2f :: name) := by
        rw [join, used, if_neg (by simp), separator, Bytes.join,
          List.intercalate_cons_cons, List.intercalate_singleton, List.append_assoc]
        rfl
      rw [below]
      exact getLast?_names_clean nonempty plain here parent
        ((names_slash _ name).trans (congrArg (names (c :: rest) ++ ·) own))

end Path

end FormMigrate
