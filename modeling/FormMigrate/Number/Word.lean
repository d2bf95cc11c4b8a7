/-! The range of signed words of 64 bits. -/

namespace FormMigrate.Word

/-- The least word, `-2 ^ 63`. -/
abbrev least : Int := -9223372036854775808

/-- The first integer beyond all words, `2 ^ 63`. -/
abbrev bound : Int := 9223372036854775808

/-- Whether an integer is a word. -/
def holds (n : Int) : Bool := least ≤ n && n < bound

end FormMigrate.Word
