import FormMigrate.Text.Bytes

/-! Texts that spell a point in time: a date, alone or with a time of day. -/

namespace FormMigrate.Yaml.Timestamp

/-- Whether a year has a leap day. -/
def isLeap (year : Nat) : Bool := year % 4 == 0 && (year % 100 != 0 || year % 400 == 0)

/-- The number of days in a month. -/
def daysIn (year month : Nat) : Nat :=
  if month == 2 then if isLeap year then 29 else 28
  else if month == 4 || month == 6 || month == 9 || month == 11 then 30
  else 31

/-- The number of one or two digits at the front, and what follows it. -/
def number? : Bytes → Option (Nat × Bytes)
  | a :: b :: rest =>
      if !a.isDigit then none
      else if b.isDigit then some ((a.toNat - 0x30) * 10 + (b.toNat - 0x30), rest)
      else some (a.toNat - 0x30, b :: rest)
  | [a] => if a.isDigit then some (a.toNat - 0x30, []) else none
  | [] => none

/-- What follows a byte at the front. -/
def after? (b : Byte) : Bytes → Option Bytes
  | c :: rest => if c == b then some rest else none
  | [] => none

/-- What follows a date: a year of four digits, a month and a day of it, with dashes between. -/
def date? (s : Bytes) : Option Bytes := do
  let digits := s.takeWhile Byte.isDigit
  let year := digits.foldl (fun n c => n * 10 + (c.toNat - 0x30)) 0
  let (month, rest) ← number? (← after? 0x2d (s.drop digits.length))
  let (day, rest) ← number? (← after? 0x2d rest)
  if digits.length == 4 && 1 ≤ month && month ≤ 12 && 1 ≤ day && day ≤ daysIn year month then
    some rest
  else none

/-- What follows a fraction of a second, if there is one. -/
def fraction : Bytes → Bytes
  | mark :: d :: rest =>
      if (mark == 0x2e || mark == 0x2c) && d.isDigit then rest.dropWhile Byte.isDigit
      else mark :: d :: rest
  | s => s

/-- What follows a time of day: hours, minutes and seconds with colons between. -/
def clock? (s : Bytes) : Option Bytes := do
  let (hours, rest) ← number? s
  let (minutes, rest) ← number? (← after? 0x3a rest)
  let (seconds, rest) ← number? (← after? 0x3a rest)
  if hours < 24 && minutes < 60 && seconds < 60 then some (fraction rest) else none

/-- The number of two digits. -/
def twoDigits? (a b : Byte) : Option Nat :=
  if a.isDigit && b.isDigit then some ((a.toNat - 0x30) * 10 + (b.toNat - 0x30)) else none

/-- Whether a text is a time zone: the letter of universal time, or hours and minutes from it. -/
def isZone : Bytes → Bool
  | [0x5a] => true
  | [sign, a, b, 0x3a, c, d] =>
      (sign == 0x2b || sign == 0x2d)
        && (twoDigits? a b).any (· ≤ 24) && (twoDigits? c d).any (· ≤ 60)
  | _ => false

/-- Whether a text is a date, a date and a time with a zone after a letter, or a date and a time
without one after blanks.
-/
def isTimestamp (s : Bytes) : Bool :=
  match date? s with
  | none => false
  | some [] => true
  | some (c :: rest) =>
      if c == 0x54 || c == 0x74 then (clock? rest).any isZone
      else if c == 0x20 then (clock? (rest.dropWhile (· == 0x20))).any List.isEmpty
      else false

end FormMigrate.Yaml.Timestamp
