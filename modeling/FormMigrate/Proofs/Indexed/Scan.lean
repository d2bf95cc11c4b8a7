import FormMigrate.Ambiguity.Log
import FormMigrate.Call.Site
import FormMigrate.Proofs.Indexed.Access
import FormMigrate.Proofs.Scan.Cutting
import FormMigrate.Proofs.Text.Fold

/-! Brackets, arguments and markers found by offsets. -/

namespace FormMigrate.Indexed

--------------------------------------------------------------------------------
-- Brackets
--------------------------------------------------------------------------------

/-- The offset of the bracket that closes as many as are open. -/
def closing (src : Bytes) (opener closer : Byte) (q : QuoteState) (depth i : Int)
    : Option (Option Int) := do
  if i < src.length then
    let c ← byteAt src i
    if q.isInert c then (closing (i := i + 1)) src opener closer (q.next c) depth
    else if c == opener then (closing (i := i + 1)) src opener closer (q.next c) (depth + 1)
    else if c == closer then
      if depth - 1 == 0 then return some i
      else (closing (i := i + 1)) src opener closer (q.next c) (depth - 1)
    else (closing (i := i + 1)) src opener closer (q.next c) depth
  else return none
partial_fixpoint

/-- The region that the bracket at an offset encloses. -/
def extract (src : Bytes) (opening : Int) : Option (Except BracketError Extent) := do
  if opening < 0 ∨ src.length ≤ opening then return .error .notAnOpener
  else
    let opener ← byteAt src opening
    match closerOf? opener with
    | none => return .error .notAnOpener
    | some closer =>
        match ← closing src opener closer .outside 1 (opening + 1) with
        | none => return .error .unbalanced
        | some i => return .ok ⟨← slice src (opening + 1) i, opening.toNat, i.toNat⟩

variable {src s : Bytes} {pos : Int}

/-- The closing bracket is found behind as many bytes as it is counted to stand behind, by induction
on what is left.
-/
theorem At.closing (here : At src pos s) (opener closer : Byte) (q : QuoteState) {depth : Nat}
    (inside : 0 < depth)
    : Indexed.closing src opener closer q depth pos
      = some ((Extent.innerLength? opener closer q depth s).map fun n : Nat => pos + n) := by
  induction s generalizing pos q depth with
  | nil =>
      rw [Indexed.closing, if_neg here.not_lt]
      rfl
  | cons c rest ih =>
      have further (q : QuoteState) {depth : Nat} (inside : 0 < depth)
          : Indexed.closing src opener closer q depth (pos + 1)
            = some (((Extent.innerLength? opener closer q depth rest).map (· + 1)).map
                fun n : Nat => pos + n) := by
        rw [ih here.cons q inside, Option.map_map]
        congr 2
        funext n
        simp only [Function.comp_apply]
        omega
      rw [Indexed.closing, if_pos here.lt, here.byteAt, Extent.innerLength?]
      simp only [Option.bind_eq_bind, Option.bind_some]
      split
      · exact further _ inside
      · split
        · exact further _ (Nat.succ_pos depth)
        · split
          · by_cases last : depth ≤ 1
            · have one : ((depth : Int) - 1 == 0) = true := by
                rw [beq_iff_eq]
                omega
              rw [if_pos one, if_pos last]
              exact congrArg (fun i => some (some i)) (Int.add_zero pos).symm
            · have more : ((depth : Int) - 1 == 0) = false := by
                rw [beq_eq_false_iff_ne]
                omega
              rw [more, if_neg Bool.false_ne_true, if_neg last, ← further _ (by omega)]
              congr 1
              omega
          · exact further _ inside

/-- The region that a bracket encloses is extracted in bounds, from every offset there may be. -/
theorem extract_eq (src : Bytes) (opening : Int)
    : Indexed.extract src opening = some (Extent.extract src opening) := by
  rw [Indexed.extract]
  cases opening with
  | negSucc n => exact if_pos (.inl (Int.negSucc_lt_zero n))
  | ofNat start =>
      rw [Extent.extract]
      by_cases beyond : src.length ≤ start
      · rw [if_pos (.inr (Int.ofNat_le.mpr beyond)), List.drop_eq_nil_of_le beyond]
        rfl
      · have here : At src (Int.ofNat start) (src.drop start) :=
          At.of_le (Int.natCast_nonneg start) (Int.ofNat_le.mpr (Nat.le_of_not_le beyond))
        obtain ⟨c, rest, left⟩ : ∃ c rest, src.drop start = c :: rest :=
          List.exists_cons_of_ne_nil fun empty => beyond (List.drop_eq_nil_iff.mp empty)
        rw [left] at here ⊢
        rw [if_neg (not_or_intro (Int.not_lt.mpr here.nonneg) (Int.not_le.mpr here.lt)),
          here.byteAt, Extent.innerOf]
        simp only [Option.bind_eq_bind, Option.bind_some]
        cases closerOf? c with
        | none => rfl
        | some closer =>
            have closes := here.cons.closing c closer .outside Nat.one_pos
            rw [Int.natCast_one] at closes
            dsimp only
            rw [closes]
            cases found : Extent.innerLength? c closer .outside 1 rest with
            | none => rfl
            | some n =>
                have inside := (Extent.innerLength?_lt found).le
                have cut := here.cons.slice_take inside
                have ends
                    : (Int.ofNat start + 1 + (n : Int)).toNat
                      = start + 1 + (rest.take n).length := by
                  rw [List.length_take, Nat.min_eq_left inside]
                  simp only [Int.ofNat_eq_natCast]
                  omega
                rw [Option.bind_some, Option.map_some]
                dsimp only
                rw [cut, ends]
                rfl

--------------------------------------------------------------------------------
-- Arguments
--------------------------------------------------------------------------------

/-- The trimmed arguments from an offset on, added to those already cut, where the argument at hand
starts at another offset.
-/
def cutArgs (src : Bytes) (q : QuoteState) (depth start i : Int) (args : List Bytes)
    : Option (List Bytes) := do
  if i < src.length then
    let c ← byteAt src i
    if q.isInert c then (cutArgs (i := i + 1)) src (q.next c) depth start args
    else if c == 0x2c && depth == 0 then
      let arg ← slice src start i
      (cutArgs (i := i + 1)) src (q.next c) depth (i + 1) (args ++ [Bytes.trim arg])
    else (cutArgs (i := i + 1)) src (q.next c) (depth + Argument.depthChange c) start args
  else
    let last := Bytes.trim (← slice src start src.length)
    return if last.isEmpty then args else args ++ [last]
partial_fixpoint

/-- The arguments of a call. -/
def splitArgs (s : Bytes) : Option (List Bytes) := cutArgs s .outside 0 0 0 []

open Argument in
theorem dropBlankLast_cons (first : Bytes) {others : List Bytes} (more : others ≠ [])
    : dropBlankLast (first :: others) = first :: dropBlankLast others := by
  cases others with
  | nil => exact (more rfl).elim
  | cons second others => rfl

open Argument in
/-- The argument at hand ends at the next top-level comma, by induction on what is left. -/
theorem At.cutArgs {start : Int} {arg : Bytes} (here : At src start (arg ++ s)) (q : QuoteState)
    (depth : Int) (args : List Bytes)
    : Indexed.cutArgs src q depth start (start + arg.length) args
      = some (args ++ dropBlankLast ((glue arg (segmentsFrom q depth s)).map Bytes.trim)) := by
  induction s generalizing start arg q depth args with
  | nil =>
      rw [List.append_nil] at here
      have behind : ¬ start + arg.length < src.length := by
        have whole := here.add_length
        omega
      rw [Indexed.cutArgs, if_neg behind, here.slice_length]
      rw [segmentsFrom, glue, List.append_nil, List.map_singleton, dropBlankLast]
      simp only [Option.bind_eq_bind, Option.bind_some]
      split <;> simp
  | cons c rest ih =>
      have further (q : QuoteState) (depth : Int)
          : Indexed.cutArgs src q depth start (start + arg.length + 1) args
            = some (args ++ dropBlankLast
                ((glue arg (consHead c (segmentsFrom q depth rest))).map Bytes.trim)) := by
        have longer : At src start ((arg ++ [c]) ++ rest) := by
          rwa [List.append_assoc, List.singleton_append]
        have next := ih longer q depth args
        rw [consHead_eq_glue, glue_glue, ← next, List.length_append, List.length_singleton,
          Int.natCast_add, ← Int.add_assoc, Int.natCast_one]
      have at_c := here.append
      rw [Indexed.cutArgs, if_pos at_c.lt, at_c.byteAt, segmentsFrom]
      simp only [Option.bind_eq_bind, Option.bind_some]
      split
      · exact further _ _
      · split
        · have later := segmentsFrom_ne_nil (q.next c) depth rest
          have fresh : At src (start + arg.length + 1) ([] ++ rest) := at_c.cons
          have next := ih fresh (q.next c) depth (args ++ [Bytes.trim arg])
          rw [List.length_nil, Int.natCast_zero, Int.add_zero, glue_nil later, List.append_assoc,
            List.singleton_append, ← dropBlankLast_cons _ (by simpa using later)] at next
          rw [here.slice, Option.bind_some, next, glue, List.append_nil, List.map_cons]
        · exact further _ _

/-- Arguments are cut in bounds. -/
theorem splitArgs_eq (s : Bytes) : Indexed.splitArgs s = some (Argument.split s) := by
  have fresh : At s 0 ([] ++ s) := At.zero s
  have cut := fresh.cutArgs .outside 0 []
  rwa [Argument.glue_nil (Argument.segmentsFrom_ne_nil _ _ _)] at cut

--------------------------------------------------------------------------------
-- Markers
--------------------------------------------------------------------------------

/-- Whether two texts are the same from an offset on, up to the case of letters, as far as the first
one goes.
-/
def sameFrom (a b : Bytes) (i : Int) : Option Bool := do
  if i < a.length then
    if (← byteAt a i).lower != (← byteAt b i).lower then return false
    else (sameFrom (i := i + 1)) a b
  else return true
partial_fixpoint

/-- The first offset from another one on where a marker starts, up to the case of letters. -/
def findFrom (src marker : Bytes) (first : Byte) (i : Int) : Option (Option Int) := do
  if i + marker.length ≤ src.length then
    if (← byteAt src i).lower != first then (findFrom (i := i + 1)) src marker first
    else if ← sameFrom (← slice src i (i + marker.length)) marker 0 then return some i
    else (findFrom (i := i + 1)) src marker first
  else return none
partial_fixpoint

/-- The offset of the first marker from an offset on. -/
def indexFold (src marker : Bytes) (start : Int) : Option (Option Int) := do
  if marker.length == 0 then return some start
  else findFrom src marker (← byteAt marker 0).lower start

/-- The offset of the parenthesis behind an offset and few enough blanks. -/
def findParen (src : Bytes) (start i : Int) : Option (Option Int) := do
  if i < src.length ∧ i ≤ start + CallSite.maxGap then
    let c ← byteAt src i
    if c == 0x28 then return some i
    else if CallSite.isGap c then (findParen (i := i + 1)) src start
    else return none
  else return none
partial_fixpoint

/-- Texts of one length are compared in bounds, by induction on what is left of the first. -/
theorem At.sameFrom {a b rest rest' : Bytes} {i : Int} (here : At a i rest) (there : At b i rest')
    (length : rest.length = rest'.length)
    : Indexed.sameFrom a b i = some (Bytes.startsWithFold rest' rest) := by
  induction rest generalizing i rest' with
  | nil =>
      rw [Indexed.sameFrom, if_neg here.not_lt, List.length_eq_zero_iff.mp length.symm]
      rfl
  | cons c rest ih =>
      rcases rest' with - | ⟨d, rest'⟩
      · cases length
      · rw [Indexed.sameFrom, if_pos here.lt, here.byteAt, there.byteAt, Bytes.startsWithFold]
        simp only [Option.bind_eq_bind, Option.bind_some]
        rw [ih here.cons there.cons (Nat.succ.inj length), bne, Bool.beq_comm]
        cases d.lower == c.lower <;> rfl

/-- No more of a text than the length of another one matters to whether it starts with that one. -/
theorem startsWithFold_take (opening s : Bytes)
    : Bytes.startsWithFold opening (s.take opening.length) = Bytes.startsWithFold opening s := by
  induction opening generalizing s with
  | nil => rfl
  | cons a opening ih =>
      cases s with
      | nil => rfl
      | cons b s =>
          rw [List.length_cons, List.take_succ_cons, Bytes.startsWithFold, Bytes.startsWithFold, ih]

/-- No marker is found that would reach beyond the end of the text. -/
theorem At.findFrom_beyond {c : Byte} {marker : Bytes} (here : At src pos s)
    (beyond : ¬ pos + (c :: marker).length ≤ src.length)
    : Indexed.findFrom src (c :: marker) c.lower pos
      = some ((Bytes.indexFold? (c :: marker) s).map fun n : Nat => pos + n) := by
  have whole := here.add_length
  rw [Indexed.findFrom, if_neg beyond]
  cases found : Bytes.indexFold? (c :: marker) s with
  | none => rfl
  | some n =>
      have inside := Bytes.indexFold?_add_length_le found
      omega

/-- A marker with a byte is found in bounds, by induction on what is left. -/
theorem At.findFrom {c : Byte} {marker : Bytes} (here : At src pos s)
    : Indexed.findFrom src (c :: marker) c.lower pos
      = some ((Bytes.indexFold? (c :: marker) s).map fun n : Nat => pos + n) := by
  induction s generalizing pos with
  | nil =>
      refine here.findFrom_beyond ?_
      have whole := here.add_length
      simp only [List.length_cons, List.length_nil] at whole ⊢
      omega
  | cons d rest ih =>
      by_cases reach : pos + (c :: marker).length ≤ src.length
      case neg => exact here.findFrom_beyond reach
      have further
          : Indexed.findFrom src (c :: marker) c.lower (pos + 1)
            = some (((Bytes.indexFold? (c :: marker) rest).map (· + 1)).map
                fun n : Nat => pos + n) := by
        rw [ih here.cons, Option.map_map]
        congr 2
        funext n
        simp only [Function.comp_apply]
        omega
      rw [Indexed.findFrom, if_pos reach, here.byteAt, Bytes.indexFold?]
      simp only [Option.bind_eq_bind, Option.bind_some]
      by_cases same : d.lower = c.lower
      · have long : (c :: marker).length ≤ (d :: rest).length := by
          have whole := here.add_length
          omega
        have cut := here.slice_take long
        have length : ((d :: rest).take (c :: marker).length).length = (c :: marker).length := by
          rw [List.length_take, Nat.min_eq_left long]
        rw [if_neg (by simpa using same), cut, Option.bind_some,
          (At.zero _).sameFrom (At.zero (c :: marker)) length, Option.bind_some,
          startsWithFold_take, further]
        split
        · exact congrArg (fun i => some (some i)) (Int.add_zero pos).symm
        · rfl
      · have other : Bytes.startsWithFold (c :: marker) (d :: rest) = false := by
          rw [Bytes.startsWithFold, beq_false_of_ne (Ne.symm same), Bool.false_and]
        rw [if_pos (by simpa using same), other, further]
        rfl

/-- Markers are found in bounds. -/
theorem At.indexFold {marker : Bytes} (some : marker ≠ []) (here : At src pos s)
    : Indexed.indexFold src marker pos
      = .some ((Bytes.indexFold? marker s).map fun n : Nat => pos + n) := by
  obtain ⟨c, rest, rfl⟩ := List.exists_cons_of_ne_nil some
  rw [Indexed.indexFold, if_neg (by simp), (At.zero (c :: rest)).byteAt]
  exact here.findFrom

/-- The parenthesis is found in bounds, by induction on what is left. -/
theorem At.findParen {start : Int} {limit : Nat} (here : At src pos s)
    (reach : pos + limit = start + CallSite.maxGap)
    : Indexed.findParen src start pos
      = some ((CallSite.gap? limit s).map fun n : Nat => pos + n) := by
  induction s generalizing pos limit with
  | nil =>
      rw [Indexed.findParen, if_neg fun inside => here.not_lt inside.1, CallSite.gap?]
      rfl
  | cons c rest ih =>
      have zero : (some (some pos) : Option (Option Int)) = some (some (pos + (0 : Nat))) := by
        rw [Int.natCast_zero, Int.add_zero]
      rw [Indexed.findParen, if_pos ⟨here.lt, by omega⟩, here.byteAt]
      simp only [Option.bind_eq_bind, Option.bind_some]
      cases limit with
      | zero =>
          rw [CallSite.gap?]
          split
          · exact zero
          · split
            · rw [Indexed.findParen, if_neg fun inside => by omega]
              rfl
            · rfl
      | succ limit =>
          rw [CallSite.gap?]
          split
          · exact zero
          · split
            · have nearer : pos + 1 + (limit : Int) = start + CallSite.maxGap := by omega
              rw [ih here.cons nearer, Option.map_map]
              congr 2
              funext n
              simp only [Function.comp_apply]
              omega
            · rfl

/-- The parenthesis behind an offset is found in bounds. -/
theorem At.opening (here : At src pos s)
    : Indexed.findParen src pos pos
      = some ((CallSite.opening? src pos.toNat).map fun n : Nat => (n : Int)) := by
  have least := here.nonneg
  rw [here.findParen rfl, CallSite.opening?, here.drop_eq, Option.map_map]
  congr 2
  funext n
  simp only [Function.comp_apply]
  omega

--------------------------------------------------------------------------------
-- Records
--------------------------------------------------------------------------------

/-- A number of bytes of a text, less those at their end that complete no character. -/
def dropPartial (s : Bytes) (n : Int) : Option Bytes := do
  let front ← slice s 0 n
  if 0 < n then
    if Bytes.endsInCharacter front.reverse then return front else (dropPartial (n := n - 1)) s
  else return front
partial_fixpoint

/-- At most a number of bytes of a text, cut between characters. -/
def clip (s : Bytes) (n : Int) : Option Bytes := do
  if s.length ≤ n then return s else dropPartial s n

/-- The number of the line that holds an offset, which is brought inside the text. -/
def lineAt (s : Bytes) (pos : Int) : Option Nat := do
  return (← slice s 0 (max 0 (min pos s.length))).count 0x0a + 1

/-- The record of an offset in a text. -/
def record (file src : Bytes) (pos : Int) (snippet reason : Bytes) : Option Record := do
  return ⟨file, pos, ← lineAt src pos, ← clip snippet Record.maxSnippet, reason⟩

/-- Bytes are dropped from the end in bounds, by induction on how many there are. -/
theorem dropPartial_eq {n : Nat} (inside : n ≤ s.length)
    : Indexed.dropPartial s n = some (Bytes.dropPartial (s.take n).reverse).reverse := by
  induction n with
  | zero =>
      rw [Indexed.dropPartial, slice_zero inside]
      rfl
  | succ n ih =>
      have ends : (s.take (n + 1)).reverse = s[n] :: (s.take n).reverse := by
        rw [List.take_succ_eq_append_getElem inside, List.reverse_append, List.reverse_singleton,
          List.singleton_append]
      rw [Indexed.dropPartial, slice_zero inside, Option.bind_eq_bind, Option.bind_some,
        if_pos (Int.natCast_pos.mpr n.succ_pos), Int.natCast_succ, Int.add_sub_cancel, ends,
        Bytes.dropPartial]
      split
      · rw [← ends, List.reverse_reverse]
        rfl
      · exact ih (Nat.le_of_succ_le inside)

/-- Texts are clipped in bounds. -/
theorem clip_eq (s : Bytes) (n : Nat) : Indexed.clip s n = some (Bytes.clip s n) := by
  rw [Indexed.clip, Bytes.clip]
  by_cases short : s.length ≤ n
  · rw [if_pos (Int.ofNat_le.mpr short), if_pos short]
    rfl
  · rw [if_neg fun le => short (Int.ofNat_le.mp le), if_neg short,
      dropPartial_eq (Nat.le_of_not_le short)]

/-- Lines are counted in bounds, at every offset there may be. -/
theorem lineAt_eq (s : Bytes) (pos : Int) : Indexed.lineAt s pos = some (Bytes.lineAt s pos) := by
  have clamped : max 0 (min pos s.length) = (min pos.toNat s.length : Nat) := by omega
  rw [Indexed.lineAt, clamped, slice_zero (Nat.min_le_right _ _), Bytes.lineAt, ← List.take_take,
    List.take_length]
  rfl

/-- Records are made in bounds. -/
theorem record_eq (file src : Bytes) (pos : Int) (snippet reason : Bytes)
    : Indexed.record file src pos snippet reason
      = some (Record.ofOffset file src pos snippet reason) := by
  rw [Indexed.record, lineAt_eq, clip_eq]
  rfl

end FormMigrate.Indexed
