import FormMigrate.Builder.FormOptions
import FormMigrate.Proofs.Literal.Arrays

/-! Entries that are added again: words are counted from zero and texts kept, so that nothing is
written over and the parameters of a route are carried without loss.
-/

namespace FormMigrate

namespace Entries

--------------------------------------------------------------------------------
-- Statement
--------------------------------------------------------------------------------

/-- The number of entries under words. -/
def words : Entries → Nat
  | [] => 0
  | (.int _, _) :: rest => words rest + 1
  | (.text _, _) :: rest => words rest

/-- Entries are renumbered: their values stay in order, under the texts that they had or under the
number of words in front of them.
-/
structure Renumbered (items result : Entries) : Prop where
  values : result.map Prod.snd = items.map Prod.snd
  texts
    : ∀ (i : Nat) s value, items[i]? = some (.text s, value) → result[i]? = some (.text s, value)
  counted
    : ∀ (i : Nat) n value,
        items[i]? = some (.int n, value)
        → ∃ m, result[i]? = some (.int m, value) ∧ m.toInt = words (items.take i)

--------------------------------------------------------------------------------
-- Counting words
--------------------------------------------------------------------------------

/-- The entries with their words counted from a number on. -/
def renumberFrom : Nat → Entries → Entries
  | _, [] => []
  | start, (.int _, value) :: rest =>
      (.int (Int64.ofNat start), value) :: renumberFrom (start + 1) rest
  | start, (.text s, value) :: rest => (.text s, value) :: renumberFrom start rest

theorem values_renumberFrom (start : Nat) (entries : Entries)
    : (renumberFrom start entries).map Prod.snd = entries.map Prod.snd := by
  fun_induction renumberFrom start entries with
  | case1 => rfl
  | case2 start n value rest ih => rw [List.map_cons, List.map_cons, ih]
  | case3 start s value rest ih => rw [List.map_cons, List.map_cons, ih]

/-- Counting once more counts alike. -/
theorem renumberFrom_renumberFrom (start start' : Nat) (entries : Entries)
    : renumberFrom start (renumberFrom start' entries) = renumberFrom start entries := by
  fun_induction renumberFrom start' entries generalizing start with
  | case1 => rfl
  | case2 start' n value rest ih => rw [renumberFrom, ih, renumberFrom]
  | case3 start' s value rest ih => rw [renumberFrom, ih, renumberFrom]

theorem text_mem_renumberFrom {start : Nat} {entries : Entries} {s : Bytes}
    : Key.text s ∈ (renumberFrom start entries).map Prod.fst
      ↔ Key.text s ∈ entries.map Prod.fst := by
  fun_induction renumberFrom start entries with
  | case1 => rfl
  | case2 start n value rest ih => simpa using ih
  | case3 start t value rest ih => simpa using or_congr_right ih

theorem getElem?_renumberFrom_text {start i : Nat} {entries : Entries} {s : Bytes} {value : Value}
    (found : entries[i]? = some (.text s, value))
    : (renumberFrom start entries)[i]? = some (.text s, value) := by
  fun_induction renumberFrom start entries generalizing i with
  | case1 => cases found
  | case2 start n value' rest ih =>
      cases i with
      | zero => cases found
      | succ i => exact ih found
  | case3 start t value' rest ih =>
      cases i with
      | zero => exact found
      | succ i => exact ih found

theorem getElem?_renumberFrom_int {start i : Nat} {entries : Entries} {n : Int64} {value : Value}
    (found : entries[i]? = some (.int n, value))
    : (renumberFrom start entries)[i]?
      = some (.int (Int64.ofNat (start + words (entries.take i))), value) := by
  fun_induction renumberFrom start entries generalizing i with
  | case1 => cases found
  | case2 start n value' rest ih =>
      cases i with
      | zero =>
          cases found
          rfl
      | succ i =>
          rw [List.take_succ_cons, words, ← Nat.add_assoc, Nat.add_right_comm]
          exact ih found
  | case3 start t value' rest ih =>
      cases i with
      | zero => cases found
      | succ i => exact ih found

theorem words_le_length (entries : Entries) : words entries ≤ entries.length := by
  fun_induction words entries with
  | case1 => exact Nat.le_refl 0
  | case2 n value rest ih => exact Nat.succ_le_succ ih
  | case3 s value rest ih => exact Nat.le_succ_of_le ih

theorem toInt_ofNat {n : Nat} (small : n < Word.bound) : (Int64.ofNat n).toInt = n :=
  Int64.toInt_ofNat_of_lt (Int.ofNat_lt.mp small)

/-- A word of entries that are counted is not below the number that they are counted from. -/
theorem le_of_int_mem_renumberFrom {start : Nat} {entries : Entries} {n : Int64}
    (room : start + entries.length ≤ Word.bound)
    (member : Key.int n ∈ (renumberFrom start entries).map Prod.fst)
    : start ≤ n.toInt := by
  fun_induction renumberFrom start entries with
  | case1 => cases member
  | case2 start m value rest ih =>
      rw [List.length_cons] at room
      rcases List.mem_cons.mp member with same | behind
      · exact Int.le_of_eq (by rw [Key.int.inj same, toInt_ofNat (by omega)])
      · have later := ih (by omega) behind
        omega
  | case3 start s value rest ih =>
      rw [List.length_cons] at room
      exact ih (by omega) ((List.mem_cons.mp member).resolve_left nofun)

/-- The keys of entries are distinct, and their texts cast to themselves. -/
structure Keyed (entries : Entries) : Prop where
  distinct : (entries.map Prod.fst).Nodup
  cast : ∀ s, Key.text s ∈ entries.map Prod.fst → Key.ofText s = .text s

namespace Keyed

variable {entries : Entries}

theorem tail {entry : Key × Value} (keyed : Keyed (entry :: entries)) : Keyed entries where
  distinct := (List.nodup_cons.mp keyed.distinct).2
  cast s member := keyed.cast s (List.mem_cons_of_mem _ member)

theorem sublist {items : Entries} (keyed : Keyed entries) (part : items.Sublist entries)
    : Keyed items where
  distinct := (part.map Prod.fst).nodup keyed.distinct
  cast s member := keyed.cast s ((part.map Prod.fst).subset member)

/-- No key stands twice among counted entries: texts are kept, and each word is below the next one.
-/
theorem nodup_renumberFrom {start : Nat} (keyed : Keyed entries)
    (room : start + entries.length ≤ Word.bound)
    : ((renumberFrom start entries).map Prod.fst).Nodup := by
  fun_induction renumberFrom start entries with
  | case1 => exact List.nodup_nil
  | case2 start n value rest ih =>
      rw [List.length_cons] at room
      refine List.nodup_cons.mpr ⟨fun again => ?_, ih keyed.tail (by omega)⟩
      have above := le_of_int_mem_renumberFrom (by omega) again
      rw [toInt_ofNat (by omega)] at above
      omega
  | case3 start s value rest ih =>
      rw [List.length_cons] at room
      have new := (List.nodup_cons.mp keyed.distinct).1
      exact List.nodup_cons.mpr ⟨mt text_mem_renumberFrom.mp new, ih keyed.tail (by omega)⟩

theorem counted {start : Nat} (keyed : Keyed entries)
    (room : start + entries.length ≤ Word.bound)
    : Keyed (renumberFrom start entries) where
  distinct := keyed.nodup_renumberFrom room
  cast s member := keyed.cast s (text_mem_renumberFrom.mp member)

end Keyed

--------------------------------------------------------------------------------
-- Adding entries again
--------------------------------------------------------------------------------

/-- Entries that are added again are counted from the counter of the table on: no key of theirs is
written over.
Witness: the counter is the number of the next word, as long as there is one behind it.
-/
theorem foldl_readd {table : Table} {entries : Entries} {start : Nat}
    (counter : table.next.toInt = start) (room : start + entries.length < Word.bound)
    (keyed : Keyed entries)
    (distinct : ((table.entries ++ renumberFrom start entries).map Prod.fst).Nodup)
    : (entries.foldl Table.readd table).entries = table.entries ++ renumberFrom start entries := by
  induction entries generalizing table start with
  | nil => exact (List.append_nil _).symm
  | cons entry rest ih =>
      obtain ⟨key, value⟩ := entry
      rw [List.length_cons] at room
      cases key with
      | int n =>
          have here : Int64.ofNat start = table.next := by
            rw [← Int64.toInt_inj, counter, toInt_ofNat (by omega)]
          have below : table.next < Table.maxWord := by
            have largest : Table.maxWord.toInt = 9223372036854775807 := rfl
            rw [Int64.lt_iff_toInt_lt, counter, largest]
            simp only [Word.bound] at room
            omega
          have counter' : (table.push value).next.toInt = (start + 1 : Nat) := by
            rw [Literal.toInt_next_push below, counter, Int.natCast_succ]
          rw [renumberFrom, here] at distinct
          obtain ⟨same, distinct⟩ := insert_append distinct
          rw [renumberFrom, here, ← same]
          exact @ih (table.push value) (start + 1) counter' (by omega) keyed.tail distinct
      | text s =>
          have cast : Key.ofText s = .text s := keyed.cast s List.mem_cons_self
          rw [renumberFrom] at distinct
          obtain ⟨same, distinct⟩ := insert_append distinct
          rw [List.foldl_cons, Table.readd, cast, renumberFrom, ← same]
          exact @ih (table.insert (.text s) value) start counter (by omega) keyed.tail distinct

theorem Keyed.reindex_eq {entries : Entries} (keyed : Keyed entries)
    (room : entries.length < Word.bound)
    : reindex entries = renumberFrom 0 entries :=
  @foldl_readd {} entries 0 rfl (by omega) keyed (keyed.nodup_renumberFrom (by omega))

/-- Adding entries again renumbers them, and once more changes nothing. -/
theorem Keyed.renumbered {entries : Entries} (keyed : Keyed entries)
    (room : entries.length < Word.bound)
    : Renumbered entries (reindex entries) ∧ reindex (reindex entries) = reindex entries := by
  have same := values_renumberFrom 0 entries
  have length := congrArg List.length same
  rw [List.length_map, List.length_map] at length
  rw [keyed.reindex_eq room]
  refine ⟨⟨same, fun _ _ _ => getElem?_renumberFrom_text, fun i n value found => ?_⟩, ?_⟩
  · have few := words_le_length (entries.take i)
    rw [List.length_take] at few
    refine ⟨_, getElem?_renumberFrom_int found, ?_⟩
    rw [Nat.zero_add, toInt_ofNat (by omega)]
  · rw [(keyed.counted (by omega)).reindex_eq (length ▸ room), renumberFrom_renumberFrom]

end Entries

--------------------------------------------------------------------------------
-- The size of literals
--------------------------------------------------------------------------------

namespace Literal

theorem SpellsEntry.length_le {s value : Bytes} {item : Item} (h : SpellsEntry s item value)
    : value.length ≤ s.length := by
  cases h with
  | positional => simp only [List.length_append]; omega
  | keyed => simp only [List.length_append, List.length_cons]; omega

/-- A text has a comma between any two of its entries, and the texts of their values. -/
theorem SpellsEntries.length_le {s : Bytes} {parts : List (Item × Bytes)} (h : SpellsEntries s parts)
    : parts.length ≤ s.length + 1 ∧ ∀ part ∈ parts, part.2.length ≤ s.length := by
  induction h with
  | none => exact ⟨Nat.zero_le _, List.forall_mem_nil _⟩
  | last spells => exact ⟨Nat.le_add_left 1 _, List.forall_mem_singleton.mpr spells.length_le⟩
  | @more s value rest item parts spells behind ih =>
      obtain ⟨few, inside⟩ := ih
      have first := spells.length_le
      simp only [List.length_append, List.length_cons]
      refine ⟨by omega, List.forall_mem_cons.mpr ⟨?_, fun part member => ?_⟩⟩
      · exact Nat.le_trans first (Nat.le_add_right _ _)
      · have later := inside part member
        omega

theorem SpellsArray.length_le {s : Bytes} {parts : List (Item × Bytes)} (h : SpellsArray s parts)
    : parts.length ≤ s.length ∧ ∀ part ∈ parts, part.2.length ≤ s.length := by
  cases h with
  | brackets inside =>
      obtain ⟨few, parts⟩ := inside.length_le
      simp only [List.length_append, List.length_cons]
      exact ⟨by omega, fun part member => Nat.le_trans (parts part member) (by omega)⟩
  | parentheses _ _ inside =>
      obtain ⟨few, parts⟩ := inside.length_le
      simp only [List.length_append, List.length_cons]
      exact ⟨by omega, fun part member => Nat.le_trans (parts part member) (by omega)⟩

/-- A literal inside of another one is no longer, by induction on the keys that it stands under. -/
theorem LiteralUnder.length_le {s literal : Bytes} {path : List Key} (h : LiteralUnder s path literal)
    : literal.length ≤ s.length := by
  induction h with
  | here => exact Nat.le_refl _
  | entry array _ _ _ _ ih =>
      exact Nat.le_trans ih (array.length_le.2 _ (List.mem_append_right _ List.mem_cons_self))

/-- An array has no more entries than its expression has bytes. -/
theorem length_le_of_evaluate {expr : Bytes} {v : Value} (evaluated : evaluate expr = .ok v)
    {path : List Key} {entries : Entries} (found : v.under? path = some (.array entries))
    : entries.length ≤ expr.length := by
  obtain ⟨parts, ⟨front, s, back, literal, -, -, rfl, inside, array⟩, records⟩ :=
    literalIn_of_evaluate evaluated found
  have once : (entries.map Prod.fst).length ≤ ((writes (parts.map Prod.fst)).map Prod.fst).length :=
    records.distinct.length_le_of_subset fun key member =>
      List.mem_eraseDups.mp (records.keys ▸ member)
  rw [List.length_map, List.length_map, writes, length_writesFrom, List.length_map] at once
  have few := array.length_le.1
  have within := inside.length_le
  simp only [List.length_append]
  omega

theorem keyed_of_evaluate {expr : Bytes} {v : Value} (evaluated : evaluate expr = .ok v)
    {path : List Key} {entries : Entries} (found : v.under? path = some (.array entries))
    : entries.Keyed := by
  obtain ⟨-, _, _, _, -, spells, -⟩ := evaluate_eq_ok_iff.mp evaluated
  obtain ⟨_, -, shown⟩ := spells.under found
  obtain ⟨distinct, settled⟩ := shown.settled
  exact ⟨distinct, fun s member => (settled_of_mem_keys settled member).ofText_plain⟩

end Literal

--------------------------------------------------------------------------------
-- Parameters of a route
--------------------------------------------------------------------------------

/-- The route of entries whose keys are distinct is the text under zero, and all others are its
parameters, wherever the text stands.
-/
theorem FormOptions.routeWithParameters?_eq {entries : Entries}
    (distinct : (entries.map Prod.fst).Nodup) {name : Bytes}
    (named : entries.lookup? "0" = some (.text name))
    : ∃ before behind,
        entries = before ++ (.int 0, .text name) :: behind
        ∧ routeWithParameters? entries
          = some (if entries.length = 1 then "route(" ++ quote name ++ ")"
              else "route(" ++ quote name ++ ", "
                ++ (Value.array (Entries.reindex (before ++ behind))).code ++ ")") := by
  have zero : Key.ofText "0" = .int 0 := rfl
  obtain ⟨member, -⟩ := (Entries.lookup?_eq_some_iff distinct).mp named
  rw [zero] at member
  obtain ⟨before, behind, rfl⟩ := List.append_of_mem member
  have rest : (before ++ (.int 0, .text name) :: behind).filter (fun entry => entry.1 != .int 0)
      = before ++ behind := by
    rw [List.map_append, List.map_cons, List.nodup_middle, List.nodup_cons, ← List.map_append]
      at distinct
    have others : (before ++ behind).filter (fun entry => entry.1 != .int 0) = before ++ behind :=
      List.filter_eq_self.mpr fun entry inside => bne_iff_ne.mpr fun same =>
        distinct.1 (List.mem_map.mpr ⟨entry, inside, same⟩)
    rw [List.filter_append, List.filter_cons_of_neg (by simp), ← List.filter_append, others]
  have code
      : routeWithParameters? (before ++ (.int 0, .text name) :: behind)
        = if (before ++ behind).isEmpty then some ("route(" ++ quote name ++ ")")
          else some ("route(" ++ quote name ++ ", "
            ++ (Value.array (Entries.reindex (before ++ behind))).code ++ ")") := by
    rw [routeWithParameters?, named, ← rest]
  refine ⟨before, behind, rfl, ?_⟩
  rw [code]
  cases others : before ++ behind with
  | nil =>
      obtain ⟨rfl, rfl⟩ := List.append_eq_nil_iff.mp others
      rfl
  | cons entry rest =>
      have length := congrArg List.length others
      rw [List.length_append, List.length_cons] at length
      rw [if_neg (by simp), if_neg]
      simp only [List.length_append, List.length_cons]
      omega

/-- Adding entries of an evaluated array again, any of them, keeps their values in order and their
texts, and counts their words from zero; once more changes nothing. A route with a text under zero
is written with all its other entries renumbered, wherever the text stands. The length of a text is
a word, so that the counter does not come to a stand.
Witness: a word is written under the number of words before it, which no earlier entry has.
-/
theorem Literal.evaluate_renumbers {expr : Bytes} {v : Value} (evaluated : evaluate expr = .ok v)
    (sized : expr.length < Word.bound) {path : List Key} {entries : Entries}
    (found : v.under? path = some (.array entries))
    : (∀ items : Entries,
        items.Sublist entries
        → Entries.Renumbered items items.reindex ∧ items.reindex.reindex = items.reindex)
      ∧ ∀ name,
          entries.lookup? "0" = some (.text name)
          → ∃ before behind,
              entries = before ++ (.int 0, .text name) :: behind
              ∧ Entries.Renumbered (before ++ behind) (Entries.reindex (before ++ behind))
              ∧ FormOptions.routeWithParameters? entries
                = some (if entries.length = 1 then "route(" ++ quote name ++ ")"
                    else "route(" ++ quote name ++ ", "
                      ++ (Value.array (Entries.reindex (before ++ behind))).code ++ ")") := by
  have keyed := keyed_of_evaluate evaluated found
  have few := length_le_of_evaluate evaluated found
  have renumbers (items : Entries) (part : items.Sublist entries)
      : Entries.Renumbered items items.reindex ∧ items.reindex.reindex = items.reindex := by
    have fewer := part.length_le
    exact (keyed.sublist part).renumbered (by omega)
  refine ⟨renumbers, fun name named => ?_⟩
  obtain ⟨before, behind, rfl, code⟩ := FormOptions.routeWithParameters?_eq keyed.distinct named
  have others : (before ++ behind).Sublist (before ++ (.int 0, .text name) :: behind) :=
    (List.sublist_cons_self _ _).append_left before
  exact ⟨before, behind, rfl, (renumbers _ others).1, code⟩

/-- The name of the route stands among its parameters, which have a text and two words for keys. -/
theorem Literal.evaluate_renumbers_route
    : ∃ entries : Entries,
        evaluate "['route' => ['id' => 5, 3 => 'x', 0 => 'users.show', 9]]"
          = .ok (.array [(.text "route", .array entries)])
        ∧ entries.map Prod.fst = [.text "id", .int 3, .int 0, .int 4]
        ∧ entries.reindex.map Prod.fst = [.text "id", .int 0, .int 1, .int 2]
        ∧ Entries.Renumbered entries entries.reindex
        ∧ entries.reindex.reindex = entries.reindex
        ∧ FormOptions.routeWithParameters? entries
          = some "route('users.show', ['id' => 5, 0 => 'x', 1 => 9])"
        ∧ ∃ before behind,
            entries = before ++ (.int 0, .text "users.show") :: behind
            ∧ Entries.Renumbered (before ++ behind) (Entries.reindex (before ++ behind)) := by
  have evaluated
      : evaluate "['route' => ['id' => 5, 3 => 'x', 0 => 'users.show', 9]]"
        = .ok (.array [(.text "route", .array [(.text "id", .int 5), (.int 3, .text "x"),
            (.int 0, .text "users.show"), (.int 4, .int 9)])]) := by
    cbv
  obtain ⟨renumbers, carries⟩ :=
    @evaluate_renumbers _ _ evaluated (by decide) [.text "route"]
      [(.text "id", .int 5), (.int 3, .text "x"), (.int 0, .text "users.show"), (.int 4, .int 9)] rfl
  obtain ⟨before, behind, parts, renumbered, -⟩ := carries "users.show" rfl
  obtain ⟨all, again⟩ := renumbers _ (.refl _)
  exact ⟨_, evaluated, rfl, by decide +kernel, all, again, by decide +kernel, before, behind, parts,
    renumbered⟩

end FormMigrate
