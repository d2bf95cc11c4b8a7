import FormMigrate.Text.Clip

/-! Sample diffs: a window of lines around the first difference of two texts. -/

namespace FormMigrate.Diff

/-- The lines of two texts side by side, the shorter text continued by empty lines. -/
def pairUp : (old new : List Bytes) → List (Bytes × Bytes)
  | [], [] => []
  | a :: old, [] => (a, []) :: pairUp old []
  | [], b :: new => ([], b) :: pairUp [] new
  | a :: old, b :: new => (a, b) :: pairUp old new

/-- Whether a pair of lines differs. -/
def differs (pair : Bytes × Bytes) : Bool := pair.1 != pair.2

/-- The shown lines for one pair: two marked lines where the texts differ, one where they agree. -/
def shown (maxLine : Nat) (pair : Bytes × Bytes) : List Bytes :=
  if differs pair then
    ["- " ++ Bytes.clip pair.1 maxLine, "+ " ++ Bytes.clip pair.2 maxLine]
  else ["  " ++ Bytes.clip pair.2 maxLine]

/-- The offset that no line number reaches. A window that ends there or beyond shows nothing. -/
def limit : Nat := 9223372036854775808

/-- A window of lines that starts two above the first difference; nothing when every line agrees. -/
def snippet (before after : Bytes) (window maxLine : Nat) : List Bytes :=
  let pairs := pairUp (Bytes.lines before) (Bytes.lines after)
  match pairs.findIdx? differs with
  | none => []
  | some first =>
      let start := first - 2
      if limit ≤ start + window then []
      else ((pairs.drop start).take window).flatMap (shown maxLine)

/-- The window for signed bounds. A line that is shown cannot be clipped to a negative length. -/
def snippet? (before after : Bytes) (window maxLine : Int) : Option (List Bytes) :=
  let lines := snippet before after window.toNat maxLine.toNat
  if maxLine < 0 && !lines.isEmpty then none else some lines

end FormMigrate.Diff
