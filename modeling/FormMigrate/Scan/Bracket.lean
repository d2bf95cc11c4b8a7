import FormMigrate.Scan.Quote

/-! Matching brackets. Only brackets of the opener's own family count, and none inside strings. -/

namespace FormMigrate

/-- The closing bracket that matches an opening one. -/
def closerOf? (c : Byte) : Option Byte :=
  if c == 0x28 then some 0x29
  else if c == 0x5b then some 0x5d
  else if c == 0x7b then some 0x7d
  else none

/-- Why a bracketed region cannot be read. -/
inductive BracketError where
  | notAnOpener
  | unbalanced
  deriving DecidableEq, Repr

/-- The wording of a bracket error. -/
def BracketError.message : BracketError → Bytes
  | .notAnOpener => "not an opening bracket"
  | .unbalanced => "unbalanced brackets"

/-- A bracketed region: the offsets of its two brackets and the text between them. -/
structure Extent where
  inner : Bytes
  opening : Nat
  closing : Nat
  deriving DecidableEq, Repr

namespace Extent

/-- The number of bytes before the bracket that closes the given number of open ones. -/
def innerLength? (opener closer : Byte) : QuoteState → (depth : Nat) → Bytes → Option Nat
  | _, _, [] => none
  | q, depth, c :: rest =>
      let q' := q.next c
      if q.isInert c then (innerLength? opener closer q' depth rest).map (· + 1)
      else if c == opener then (innerLength? opener closer q' (depth + 1) rest).map (· + 1)
      else if c == closer then
        if depth ≤ 1 then some 0 else (innerLength? opener closer q' (depth - 1) rest).map (· + 1)
      else (innerLength? opener closer q' depth rest).map (· + 1)

/-- The closing bracket is a byte of the text. -/
theorem innerLength?_lt {opener closer : Byte} {q : QuoteState} {depth n : Nat} {s : Bytes}
    (h : innerLength? opener closer q depth s = some n)
    : n < s.length := by
  induction s generalizing q depth n with
  | nil => simp [innerLength?] at h
  | cons c rest ih =>
      have further {q' : QuoteState} {depth' : Nat}
          (mapped : (innerLength? opener closer q' depth' rest).map (· + 1) = some n)
          : n < (c :: rest).length := by
        obtain ⟨k, found, rfl⟩ := Option.map_eq_some_iff.mp mapped
        have := ih found
        simp only [List.length_cons]
        omega
      simp only [innerLength?] at h
      split at h
      · exact further h
      · split at h
        · exact further h
        · split at h
          · split at h
            · cases h
              simp
            · exact further h
          · exact further h

/-- The text between the bracket at the front of a text and its match. -/
def innerOf : Bytes → Except BracketError Bytes
  | [] => .error .notAnOpener
  | c :: rest =>
      match closerOf? c with
      | none => .error .notAnOpener
      | some closer =>
          match innerLength? c closer .outside 1 rest with
          | none => .error .unbalanced
          | some n => .ok (rest.take n)

/-- The region that the bracket at an offset encloses. -/
def extract (src : Bytes) (opening : Int) : Except BracketError Extent :=
  match opening with
  | .negSucc _ => .error .notAnOpener
  | .ofNat start => do
      let inner ← innerOf (src.drop start)
      return ⟨inner, start, start + 1 + inner.length⟩

/-- The closing bracket of a region stands behind the opening one, inside the text. -/
theorem closing_lt_of_extract {src : Bytes} {opening : Nat} {extent : Extent}
    (h : extract src opening = .ok extent)
    : opening < extent.closing ∧ extent.closing < src.length := by
  have found : ∃ inner, innerOf (src.drop opening) = .ok inner
      ∧ extent = ⟨inner, opening, opening + 1 + inner.length⟩ := by
    cases inside : innerOf (src.drop opening) with
    | error e => simp [extract, inside, bind, Except.bind] at h
    | ok inner =>
        refine ⟨inner, rfl, ?_⟩
        simpa [extract, inside, bind, Except.bind, pure, Except.pure, eq_comm] using h
  obtain ⟨inner, inside, rfl⟩ := found
  cases rest : src.drop opening with
  | nil => simp [rest, innerOf] at inside
  | cons c tail =>
      have length : tail.length + 1 = src.length - opening := by
        rw [← List.length_drop, rest, List.length_cons]
      simp only [rest, innerOf] at inside
      split at inside
      · cases inside
      · split at inside
        · cases inside
        · rename_i n closes
          cases inside
          have := innerLength?_lt closes
          simp only [List.length_take]
          omega

end Extent

end FormMigrate
