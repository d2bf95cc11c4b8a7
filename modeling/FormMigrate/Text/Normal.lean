import FormMigrate.Text.CanonicalMapping
import FormMigrate.Text.CombiningClass
import FormMigrate.Text.Utf8

/-! Normal text: every letter with its marks in the one spelling that is composed as far as it can
be. Stray bytes stay as they are and combine with nothing.
-/

namespace FormMigrate.Normal

/-- The first composed syllable. -/
def syllableBase : Nat := 0xac00

/-- The first leading consonant. -/
def leadBase : Nat := 0x1100

/-- The first vowel. -/
def vowelBase : Nat := 0x1161

/-- The code before the first trailing consonant. -/
def tailBase : Nat := 0x11a7

/-- Whether a code point is a composed syllable. -/
def isSyllable (n : Nat) : Bool := syllableBase ≤ n && n < syllableBase + 11172

/-- The letters of a syllable. -/
def letters (n : Nat) : List Nat :=
  let index := n - syllableBase
  let tail := index % 28
  [leadBase + index / 588, vowelBase + index % 588 / 28]
    ++ if tail == 0 then [] else [tailBase + tail]

/-- The syllable of a leading letter and a vowel, or of a syllable without tail and a tail. -/
def syllable? (first second : Nat) : Option Nat :=
  if leadBase ≤ first && first < leadBase + 19 && vowelBase ≤ second && second < vowelBase + 21 then
    some (syllableBase + ((first - leadBase) * 21 + (second - vowelBase)) * 28)
  else if isSyllable first && (first - syllableBase) % 28 == 0
      && tailBase < second && second < tailBase + 28 then
    some (first + (second - tailBase))
  else none

/-- The parts of a code point, taken apart until nothing is left to take apart. The fuel bounds the
number of steps on one path.
-/
def partsFrom : (fuel n : Nat) → List Nat
  | 0, n => [n]
  | fuel + 1, n =>
      if n < 0xc0 then [n]
      else if isSyllable n then letters n
      else
        match entry? canonicalSingles n with
        | some m => partsFrom fuel m
        | none =>
            match entry? canonicalPairs n with
            | some (first, second) => partsFrom fuel first ++ partsFrom fuel second
            | none => [n]

/-- The characters that a unit is made of; a stray byte is itself. -/
def parts : Unit8 → List Unit8
  | .char c => (partsFrom 6 c.toNat).map fun n => .char (Char.ofNat n)
  | .stray b => [.stray b]

/-- The combining class of a unit. -/
def classOf : Unit8 → Nat
  | .char c => if c.toNat < 0x300 then 0 else combiningClass c
  | .stray _ => 0

/-- Puts a unit before others: a mark goes after the marks of lower class that follow it. -/
def insertMark (u : Unit8) : List Unit8 → List Unit8
  | [] => [u]
  | v :: rest =>
      if classOf v != 0 && classOf v < classOf u then v :: insertMark u rest else u :: v :: rest

/-- The units with the marks of each letter in the order of their classes. -/
def ordered (units : List Unit8) : List Unit8 := units.foldr insertMark []

/-- The unit that two units compose to. -/
def compose? : Unit8 → Unit8 → Option Unit8
  | .char a, .char b =>
      match syllable? a.toNat b.toNat with
      | some n => some (.char (Char.ofNat n))
      | none =>
          if a.toNat < 0x3c || b.toNat < 0x300 then none
          else (pairedCode? a.toNat b.toNat).map fun n => .char (Char.ofNat n)
  | _, _ => none

/-- Text while it is composed, last unit first: what is finished, the letter that still takes up
marks, and the marks after it that did not compose.
-/
structure Composition where
  finished : List Unit8 := []
  letter : Option Unit8 := none
  marks : List Unit8 := []

/-- All units of a composition, last one first. -/
def Composition.all (c : Composition) : List Unit8 := c.marks ++ c.letter.toList ++ c.finished

/-- Adds a unit. It composes with the letter before it unless a mark of its own or a higher class
stands between them.
-/
def Composition.add (c : Composition) (u : Unit8) : Composition :=
  let free := match c.marks with
    | [] => true
    | mark :: _ => classOf mark < classOf u
  match c.letter.bind (compose? · u) with
  | some composed =>
      if free then { c with letter := some composed } else separate
  | none => separate
where
  /-- The composition with the unit on its own. -/
  separate : Composition :=
    if classOf u == 0 then { finished := c.all, letter := some u }
    else { c with marks := u :: c.marks }

/-- The units composed as far as they can be. -/
def composed (units : List Unit8) : List Unit8 :=
  (units.foldl Composition.add {}).all.reverse

/-- The character that divides a run of marks. -/
def joiner : Unit8 := .char (Char.ofNat 0x34f)

/-- How many marks may follow each other. -/
def markLimit : Nat := 30

/-- Whether a unit counts as a mark: it has a class or can be the second part of a character. -/
def isMark : Unit8 → Bool
  | .char c =>
      let n := c.toNat
      0x300 ≤ n && (combiningClass c != 0 || isSecondPart n
        || (vowelBase ≤ n && n < vowelBase + 21) || (tailBase < n && n < tailBase + 28))
  | .stray _ => false

/-- The units with a divider wherever a run of marks, counted so far, passes the limit. -/
def divided : (count : Nat) → List Unit8 → List Unit8
  | _, [] => []
  | count, u :: rest =>
      let made := parts u
      let leading := (made.takeWhile isMark).length
      if leading == 0 then u :: divided (made.reverse.takeWhile isMark).length rest
      else if markLimit < count + leading then joiner :: u :: divided leading rest
      else u :: divided (count + leading) rest

end Normal

/-- The normal spelling of a text. -/
def Bytes.normal (s : Bytes) : Bytes :=
  if s.all (· < 0x80) then s
  else
    let parts := (Normal.divided 0 (Utf8.units s)).flatMap Normal.parts
    Utf8.spell (Normal.composed (Normal.ordered parts))

end FormMigrate
