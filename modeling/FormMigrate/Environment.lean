import FormMigrate.Text.Bytes

/-! The environment: named texts that configuration files may refer to. -/

namespace FormMigrate

/-- Values by name; of two values of one name the last one counts. -/
structure Environment where
  entries : List (Bytes × Bytes) := []
  deriving DecidableEq, Repr

namespace Environment

/-- The entry that a text spells: a name that is not empty, an equals sign and a value. -/
def entry? (s : Bytes) : Option (Bytes × Bytes) :=
  match Bytes.cut? 0x3d s with
  | some (name, value) => if name.isEmpty then none else some (name, value)
  | none => none

/-- The environment of texts that spell entries. All other texts are ignored. -/
def ofTexts (texts : List Bytes) : Environment := ⟨texts.filterMap entry?⟩

/-- The value of a name. -/
def get? (environment : Environment) (name : Bytes) : Option Bytes :=
  environment.entries.reverse.lookup name

/-- The value of a name, empty when it has none. -/
def get (environment : Environment) (name : Bytes) : Bytes := (environment.get? name).getD []

end Environment

end FormMigrate
