import FormMigrate.Proofs.Text.Utf8

/-! Encoded characters read as themselves, so that a text with stray bytes is changed by reading its
characters and encoding them again, and no other text is.
-/

namespace FormMigrate.Utf8

--------------------------------------------------------------------------------
-- Bytes by their numbers
--------------------------------------------------------------------------------

theorem ofNat_lt {n : Nat} {b : Byte} (small : n < 0x100) : UInt8.ofNat n < b ↔ n < b.toNat := by
  rw [UInt8.lt_iff_toNat_lt, UInt8.toNat_ofNat_of_lt' small]

theorem isContinuation_ofNat {n : Nat} (small : n < 0x40)
    : isContinuation (UInt8.ofNat (n + 0x80)) = true := by
  have least : (0x80 : Byte) ≤ UInt8.ofNat (n + 0x80) := by
    rw [UInt8.le_iff_toNat_le, UInt8.toNat_ofNat_of_lt' (show n + 0x80 < 0x100 by omega)]
    exact Nat.le_add_left 0x80 n
  have most : UInt8.ofNat (n + 0x80) ≤ (0xbf : Byte) := by
    rw [UInt8.le_iff_toNat_le, UInt8.toNat_ofNat_of_lt' (show n + 0x80 < 0x100 by omega)]
    exact show n + 0x80 ≤ 0xbf by omega
  rw [isContinuation, decide_eq_true least, decide_eq_true most]
  rfl

theorem payload_ofNat {n : Nat} (small : n < 0x40) : payload (UInt8.ofNat (n + 0x80)) = n := by
  rw [payload, UInt8.toNat_ofNat_of_lt' (show n + 0x80 < 0x100 by omega)]
  omega

--------------------------------------------------------------------------------
-- Characters
--------------------------------------------------------------------------------

section Front

variable {a b c d : Byte}

theorem not_ascii (least : ¬ a < 0xc2) : ¬ a < 0x80 := by
  rw [UInt8.not_lt] at least ⊢
  exact UInt8.le_trans (by decide) least

theorem front?_two (rest : Bytes) (least : ¬ a < 0xc2) (most : a < 0xe0)
    (second : isContinuation b = true)
    : front? (a :: b :: rest) = some (Char.ofNat (a.toNat % 0x20 * 0x40 + payload b), 2) := by
  simp only [front?, not_ascii least, least, most, second, if_false, if_true]

theorem front?_three (rest : Bytes) (least : ¬ a < 0xe0) (most : a < 0xf0)
    (second : isContinuation b = true) (third : isContinuation c = true) {n : Nat}
    (value : a.toNat % 0x10 * 0x1000 + payload b * 0x40 + payload c = n) (long : 0x800 ≤ n)
    (valid : n < 0xd800 ∨ 0xe000 ≤ n)
    : front? (a :: b :: c :: rest) = some (Char.ofNat n, 3) := by
  have above : ¬ a < 0xc2 := fun below => least (UInt8.lt_trans below (by decide))
  have apart : (!(decide (0xd800 ≤ n) && decide (n < 0xe000))) = true := by
    simp only [Bool.not_eq_true', Bool.and_eq_false_iff, decide_eq_false_iff_not]
    omega
  simp only [front?, not_ascii above, above, least, most, second, third, value, long, apart,
    if_false, if_true, decide_true, Bool.and_self]

theorem front?_four (rest : Bytes) (least : ¬ a < 0xf0) (most : a < 0xf5)
    (second : isContinuation b = true) (third : isContinuation c = true)
    (fourth : isContinuation d = true) {n : Nat}
    (value : a.toNat % 0x08 * 0x40000 + payload b * 0x1000 + payload c * 0x40 + payload d = n)
    (long : 0x10000 ≤ n) (valid : n < 0x110000)
    : front? (a :: b :: c :: d :: rest) = some (Char.ofNat n, 4) := by
  have above : ¬ a < 0xe0 := fun below => least (UInt8.lt_trans below (by decide))
  have above' : ¬ a < 0xc2 := fun below => above (UInt8.lt_trans below (by decide))
  simp only [front?, not_ascii above', above', above, least, most, second, third, fourth, value,
    long, valid, if_false, if_true, decide_true, Bool.and_self]

end Front

/-- What is written for a character is read as it, whatever follows. -/
theorem front?_encode (c : Char) (rest : Bytes)
    : front? (String.utf8EncodeChar c ++ rest) = some (c, (String.utf8EncodeChar c).length) := by
  have valid : c.val.toNat < 0xd800 ∨ 0xdfff < c.val.toNat ∧ c.val.toNat < 0x110000 := c.valid
  have same : Char.ofNat c.val.toNat = c := c.ofNat_toNat
  have beyond {n : Nat} {b : Byte} (small : n < 0x100) (least : b.toNat ≤ n)
      : ¬ UInt8.ofNat n < b :=
    fun below => Nat.not_lt.mpr least ((ofNat_lt small).mp below)
  have follows {n : Nat} : isContinuation (UInt8.ofNat (n % 0x40 + 0x80)) = true :=
    isContinuation_ofNat (Nat.mod_lt n (by decide))
  have carries {n : Nat} : payload (UInt8.ofNat (n % 0x40 + 0x80)) = n % 0x40 :=
    payload_ofNat (Nat.mod_lt n (by decide))
  unfold String.utf8EncodeChar
  generalize c.val.toNat = n at valid same
  dsimp only
  split
  · have small : n < 0x100 := by omega
    rw [List.singleton_append]
    unfold front?
    dsimp only
    rw [if_pos ((ofNat_lt (b := 0x80) small).mpr (show n < 0x80 by omega)),
      UInt8.toNat_ofNat_of_lt' small, same]
    rfl
  split
  · have small : n / 64 % 0x20 + 0xc0 < 0x100 := by omega
    have value : (n / 64 % 0x20 + 0xc0) % 0x20 * 0x40 + n % 0x40 = n := by omega
    refine (front?_two rest (beyond small ?_) ((ofNat_lt small).mpr ?_) follows).trans ?_
    · show 0xc2 ≤ _
      omega
    · show _ < 0xe0
      omega
    · rw [UInt8.toNat_ofNat_of_lt' small, carries, value, same]
      rfl
  split
  · have small : n / 4096 % 0x10 + 0xe0 < 0x100 := by omega
    refine (front?_three rest (beyond small ?_) ((ofNat_lt small).mpr ?_) follows follows ?_
      (by omega) (by omega)).trans (congrArg (fun c => some (c, 3)) same)
    · show 0xe0 ≤ _
      omega
    · show _ < 0xf0
      omega
    · rw [UInt8.toNat_ofNat_of_lt' small, carries, carries]
      omega
  · have small : n / 262144 % 0x08 + 0xf0 < 0x100 := by omega
    refine (front?_four rest (beyond small ?_) ((ofNat_lt small).mpr ?_) follows follows follows ?_
      (by omega) (by omega)).trans (congrArg (fun c => some (c, 4)) same)
    · show 0xf0 ≤ _
      omega
    · show _ < 0xf5
      omega
    · rw [UInt8.toNat_ofNat_of_lt' small, carries, carries, carries]
      omega

/-- All bytes of a character but the first one only continue it. -/
theorem encode_shape (c : Char)
    : ∃ b tail, String.utf8EncodeChar c = b :: tail ∧ isContinuation b = false
        ∧ ∀ d ∈ tail, isContinuation d = true := by
  have valid : c.val.toNat < 0x110000 := by
    rcases c.valid with below | ⟨-, bound⟩
    · exact Nat.lt_trans below (by decide)
    · exact bound
  unfold String.utf8EncodeChar
  generalize c.val.toNat = n at valid
  have leads {m : Nat} (least : 0xc0 ≤ m) (most : m < 0x100)
      : isContinuation (UInt8.ofNat m) = false := by
    have above : ¬ UInt8.ofNat m ≤ 0xbf := by
      rw [UInt8.le_iff_toNat_le, UInt8.toNat_ofNat_of_lt' most]
      exact Nat.not_le.mpr least
    rw [isContinuation, decide_eq_false above, Bool.and_false]
  have all (ms : List Nat) : ∀ d ∈ ms.map fun m => UInt8.ofNat (m % 0x40 + 0x80),
      isContinuation d = true := by
    intro d member
    obtain ⟨m, -, rfl⟩ := List.mem_map.mp member
    exact isContinuation_ofNat (Nat.mod_lt m (by decide))
  dsimp only
  split
  · refine ⟨_, [], rfl, ?_, all []⟩
    have below : ¬ 0x80 ≤ UInt8.ofNat n := by
      rw [UInt8.not_le, ofNat_lt (by omega)]
      exact Nat.lt_succ_of_le ‹_›
    rw [isContinuation, decide_eq_false below, Bool.false_and]
  · split
    · exact ⟨_, _, rfl, leads (by omega) (by omega), all [n]⟩
    · split
      · exact ⟨_, _, rfl, leads (by omega) (by omega), all [n / 64, n]⟩
      · exact ⟨_, _, rfl, leads (by omega) (by omega), all [n / 4096, n / 64, n]⟩

theorem unitsFrom_drop (skip : Nat) (s : Bytes) : unitsFrom skip s = units (s.drop skip) := by
  induction s generalizing skip with
  | nil => cases skip <;> rfl
  | cons b rest ih =>
      cases skip with
      | zero => rfl
      | succ skip => exact ih skip

/-- What is written for a character is a unit of its own. -/
theorem units_encodeChar (c : Char) (rest : Bytes)
    : units (String.utf8EncodeChar c ++ rest) = .char c :: units rest := by
  obtain ⟨b, tail, spelled⟩ := List.exists_cons_of_ne_nil
    (show String.utf8EncodeChar c ≠ [] by simp)
  have front := front?_encode c rest
  rw [spelled, List.cons_append] at front ⊢
  rw [units, unitsFrom, front]
  dsimp only
  rw [unitsFrom_drop, List.length_cons, Nat.add_sub_cancel, List.drop_left]

theorem units_encode (cs : List Char) (rest : Bytes)
    : units (encode cs ++ rest) = cs.map .char ++ units rest := by
  induction cs with
  | nil => rfl
  | cons c cs ih =>
      rw [encode, List.flatMap_cons, List.append_assoc, units_encodeChar, ← encode, ih]
      rfl

theorem chars_append_encode (cs : List Char) (rest : Bytes)
    : chars (encode cs ++ rest) = cs ++ chars rest := by
  rw [chars, units_encode, List.map_append, List.map_map, ← chars]
  exact congrArg (· ++ chars rest) (List.map_id cs)

/-- Characters are read as they were written. -/
theorem chars_encode (cs : List Char) : chars (encode cs) = cs := by
  have read := chars_append_encode cs []
  rwa [List.append_nil, show chars [] = [] from rfl, List.append_nil] at read

theorem encode_append (cs ds : List Char) : encode (cs ++ ds) = encode cs ++ encode ds :=
  List.flatMap_append

/-- ASCII is written as it is read. -/
theorem encode_ascii {s : Bytes} (ascii : ∀ b ∈ s, b < 0x80)
    : encode (s.map fun b => Char.ofNat b.toNat) = s := by
  induction s with
  | nil => rfl
  | cons b rest ih =>
      rw [List.map_cons, encode, List.flatMap_cons, encode_one (ascii b (.head _)), ← encode,
        ih fun c member => ascii c (.tail _ member)]
      rfl

--------------------------------------------------------------------------------
-- Valid texts
--------------------------------------------------------------------------------

/-- A text with the replacement character for each stray byte. -/
def sanitized (s : Bytes) : Bytes := encode (chars s)

/-- Whether a text is made of characters alone. -/
def Valid (s : Bytes) : Prop := sanitized s = s

instance (s : Bytes) : Decidable (Valid s) := inferInstanceAs (Decidable (sanitized s = s))

theorem valid_iff {s : Bytes} : Valid s ↔ ∃ cs, encode cs = s := by
  constructor
  · exact fun valid => ⟨chars s, valid⟩
  · rintro ⟨cs, rfl⟩
    rw [Valid, sanitized, chars_encode]

theorem Valid.append {s t : Bytes} (hs : Valid s) (ht : Valid t) : Valid (s ++ t) := by
  obtain ⟨cs, rfl⟩ := valid_iff.mp hs
  obtain ⟨ds, rfl⟩ := valid_iff.mp ht
  exact valid_iff.mpr ⟨cs ++ ds, encode_append cs ds⟩

/-- ASCII is valid. -/
theorem valid_ascii {s : Bytes} (ascii : ∀ b ∈ s, b < 0x80) : Valid s :=
  valid_iff.mpr ⟨_, encode_ascii ascii⟩

end FormMigrate.Utf8
