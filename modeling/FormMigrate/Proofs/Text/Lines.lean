import FormMigrate.Text.Clip

/-! The lines of a text, told by where its breaks stand: a carriage return with the line feed behind
it is one break, and each of them alone is one too.
-/

namespace FormMigrate.Bytes

/-- The breaks that end a line. -/
def lineBreaks : List Bytes := [[0x0d, 0x0a], [0x0a], [0x0d]]

/-- A text without a byte of a break. -/
def Unbroken (s : Bytes) : Prop := ∀ c ∈ s, c ≠ 0x0a ∧ c ≠ 0x0d

/-- A text is lines with a break between neighbours, where no break could have taken in the byte
behind it.
-/
inductive LinesOf : Bytes → List Bytes → Prop
  | last {line : Bytes} (unbroken : Unbroken line) : LinesOf line [line]
  | more {line mark rest : Bytes} {lines : List Bytes} (unbroken : Unbroken line)
      (breaks : mark ∈ lineBreaks) (longest : mark = [0x0d] → rest.head? ≠ some 0x0a)
      (others : LinesOf rest lines)
    : LinesOf (line ++ (mark ++ rest)) (line :: lines)

theorem Unbroken.cons {c : Byte} {s : Bytes} (feed : c ≠ 0x0a) (carriage : c ≠ 0x0d)
    (unbroken : Unbroken s)
    : Unbroken (c :: s) := by
  intro d member
  rcases List.mem_cons.mp member with rfl | member
  · exact ⟨feed, carriage⟩
  · exact unbroken d member

theorem Unbroken.nil : Unbroken [] := by simp [Unbroken]

/-- A byte that belongs to no break lengthens the first line. -/
theorem LinesOf.prepend {c : Byte} {s line : Bytes} {others : List Bytes} (feed : c ≠ 0x0a)
    (carriage : c ≠ 0x0d) (h : LinesOf s (line :: others))
    : LinesOf (c :: s) ((c :: line) :: others) := by
  cases h with
  | last unbroken => exact .last (unbroken.cons feed carriage)
  | more unbroken breaks longest rest => exact .more (unbroken.cons feed carriage) breaks longest rest

/-- Cutting at breaks gives the lines of a text, by the recursion of the cutting. -/
theorem linesOf_lines (s : Bytes) : LinesOf s (lines s) := by
  fun_induction lines s with
  | case1 => exact .last .nil
  | case2 rest ih => exact @LinesOf.more [] [0x0d, 0x0a] rest _ .nil (by simp [lineBreaks]) (by simp) ih
  | case3 c rest pair isBreak ih =>
      simp only [Bool.or_eq_true, beq_iff_eq] at isBreak
      refine @LinesOf.more [] [c] rest _ .nil ?_ ?_ ih
      · rcases isBreak with rfl | rfl <;> simp [lineBreaks]
      · intro carriage feed
        obtain ⟨tail, rfl⟩ := List.head?_eq_some_iff.mp feed
        exact pair tail (List.singleton_inj.mp carriage) rfl
  | case4 c rest pair noBreak none ih => rw [none] at ih; cases ih
  | case5 c rest pair noBreak line others some ih =>
      simp only [Bool.or_eq_true, beq_iff_eq, not_or] at noBreak
      rw [some] at ih
      exact ih.prepend noBreak.1 noBreak.2

theorem lines_unbroken_append {line : Bytes} (unbroken : Unbroken line) {s first : Bytes}
    {others : List Bytes} (cut : lines s = first :: others)
    : lines (line ++ s) = (line ++ first) :: others := by
  induction line with
  | nil => exact cut
  | cons c line ih =>
      obtain ⟨feed, carriage⟩ := unbroken c (by simp)
      have ih := ih fun d member => unbroken d (by simp [member])
      rw [List.cons_append, lines.eq_3 c _ (by simp [carriage])]
      simp [feed, carriage, ih]

/-- A break ends the line in front of it. -/
theorem lines_break_append {mark rest : Bytes} (breaks : mark ∈ lineBreaks)
    (longest : mark = [0x0d] → rest.head? ≠ some 0x0a)
    : lines (mark ++ rest) = [] :: lines rest := by
  simp only [lineBreaks, List.mem_cons, List.not_mem_nil, or_false] at breaks
  rcases breaks with rfl | rfl | rfl
  · simp [lines]
  · rw [List.singleton_append, lines.eq_3 _ _ (by simp)]
    simp
  · have alone : ∀ tail, rest ≠ 0x0a :: tail := by
      rintro tail rfl
      exact longest rfl rfl
    rw [List.singleton_append, lines.eq_3 _ _ (by simpa using alone)]
    simp

/-- A text has one list of lines, the one that cutting at breaks gives. -/
theorem linesOf_iff {s : Bytes} {parts : List Bytes} : LinesOf s parts ↔ parts = lines s := by
  constructor
  · intro h
    induction h with
    | @last line unbroken =>
        have cut := lines_unbroken_append unbroken (show lines [] = [] :: [] from rfl)
        simpa using cut.symm
    | more unbroken breaks longest _ ih =>
        have cut := lines_unbroken_append unbroken (lines_break_append breaks longest)
        rw [cut, ih, List.append_nil]
  · rintro rfl
    exact linesOf_lines s

end FormMigrate.Bytes
