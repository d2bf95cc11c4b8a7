import FormMigrate.File.Disk
import FormMigrate.Proofs.File.Path

/-! What writing to a disk does: a file under a path and directories on the way to it, and nothing
else. A place keeps its kind, so that paths go on leading where they led.
-/

namespace FormMigrate.Disk

variable {disk before after later : Disk}

--------------------------------------------------------------------------------
-- Nodes
--------------------------------------------------------------------------------

theorem lookup_cons (p : Place) (node : Node) (rest : List (Place × Node)) (other : Place)
    : List.lookup other ((p, node) :: rest) = if other = p then some node else rest.lookup other := by
  rw [List.lookup_cons]
  by_cases same : other = p
  · rw [if_pos same, beq_iff_eq.mpr same]
  · rw [if_neg same, beq_eq_false_iff_ne.mpr same]

theorem lookup_setNode (nodes : List (Place × Node)) (place other : Place) (node : Node)
    : (setNode nodes place node).lookup other
      = if other = place then some node else nodes.lookup other := by
  induction nodes with
  | nil => exact lookup_cons place node [] other
  | cons entry rest ih =>
      obtain ⟨p, n⟩ := entry
      rw [setNode]
      split
      · rename_i found
        obtain rfl := beq_iff_eq.mp found
        rw [lookup_cons, lookup_cons]
        split <;> rfl
      · rename_i found
        rw [lookup_cons, lookup_cons, ih]
        split
        · rename_i same
          subst same
          rw [if_neg fun same' => found (beq_iff_eq.mpr same')]
        · rfl

/-- The root is a directory, whatever else there is. -/
theorem node?_nil (disk : Disk) : disk.node? [] = some (.directory 0o755) := rfl

theorem node?_put (disk : Disk) {place : Place} (below : place ≠ []) (node : Node) (other : Place)
    : (disk.put place node).node? other = if other = place then some node else disk.node? other := by
  cases other with
  | nil => rw [node?_nil, node?_nil, if_neg below.symm]
  | cons name rest => exact lookup_setNode disk.nodes place (name :: rest) node

theorem lookup_filter (nodes : List (Place × Node)) (place other : Place)
    : (nodes.filter fun entry => entry.1 != place).lookup other
      = if other = place then none else nodes.lookup other := by
  induction nodes with
  | nil => split <;> rfl
  | cons entry rest ih =>
      obtain ⟨p, n⟩ := entry
      rw [List.filter_cons]
      split
      · rename_i kept
        rw [lookup_cons, lookup_cons, ih]
        split
        · rename_i same
          rw [if_neg (same ▸ bne_iff_ne.mp kept)]
        · rfl
      · rename_i dropped
        obtain rfl : p = place := by simpa using dropped
        rw [ih, lookup_cons]
        split <;> rfl

theorem node?_erase (disk : Disk) {place : Place} (below : place ≠ []) (other : Place)
    : (disk.erase place).node? other = if other = place then none else disk.node? other := by
  cases other with
  | nil => rw [node?_nil, node?_nil, if_neg below.symm]
  | cons name rest => exact lookup_filter disk.nodes place (name :: rest)

/-- The content of a file. -/
def content? (disk : Disk) (place : Place) : Option Bytes :=
  match disk.node? place with
  | some (.file _ content) => some content
  | _ => none

--------------------------------------------------------------------------------
-- Spots
--------------------------------------------------------------------------------

/-- The place that one name leads to if nothing is in the way. -/
def stride (place : Place) (name : Bytes) : Place :=
  if name == Path.here then place
  else if name == Path.parent then place.dropLast
  else place ++ [name]

/-- The place that a path names by its text alone. -/
def spot (disk : Disk) (path : Bytes) : Place :=
  (steps path).foldl stride (if Path.isAbsolute path then [] else disk.workingDirectory)

/-- A slash at the end of a path asks for a directory, but it names no other place. -/
theorem foldl_steps (start : Place) (path : Bytes)
    : (steps path).foldl stride start = (Path.names path).foldl stride start := by
  rw [steps, List.foldl_append]
  split <;> rfl

/-- Slashes at the end of a path name no other place. -/
theorem spot_trimBack (disk : Disk) {path : Bytes} (some : Bytes.trimBack (· == 0x2f) path ≠ [])
    : disk.spot (Bytes.trimBack (· == 0x2f) path) = disk.spot path := by
  have head : (Bytes.trimBack (· == 0x2f) path).head? = path.head? := by
    obtain ⟨dropped, parts⟩ := Bytes.trimBack_prefix (· == 0x2f) path
    obtain ⟨c, rest, first⟩ := List.exists_cons_of_ne_nil some
    have parts := congrArg List.head? parts
    rw [first] at parts ⊢
    exact parts
  rw [spot, spot, foldl_steps, foldl_steps, Path.names_trimBack, Path.isAbsolute, Path.isAbsolute,
    head]

/-- The place that a path names has the last name of the path. -/
theorem getLast?_spot (disk : Disk) {path name : Bytes} (last : (Path.names path).getLast? = some name)
    (here : name ≠ Path.here) (parent : name ≠ Path.parent)
    : (disk.spot path).getLast? = some name := by
  obtain ⟨above, names⟩ := List.getLast?_eq_some_iff.mp last
  rw [spot, foldl_steps, names, List.foldl_append, List.foldl_cons, List.foldl_nil, stride,
    if_neg (by simpa using here), if_neg (by simpa using parent), List.getLast?_concat]

theorem follow_ok {place next : Place} {name : Bytes} (followed : disk.follow place name = .ok next)
    : next = stride place name := by
  unfold follow at followed
  unfold stride
  split at followed
  · cases followed
  · cases followed
  · split at followed
    · cases followed
    · split at followed
      · rename_i here
        rw [if_pos here]
        exact (Except.ok.inj followed).symm
      · rename_i here
        rw [if_neg here]
        split at followed
        · rename_i parent
          rw [if_pos parent]
          exact (Except.ok.inj followed).symm
        · rename_i parent
          rw [if_neg parent]
          exact (Except.ok.inj followed).symm

theorem foldlM_follow_ok {names : List Bytes} {start place : Place}
    (followed : names.foldlM disk.follow start = .ok place)
    : place = names.foldl stride start := by
  induction names generalizing start with
  | nil => exact (Except.ok.inj followed).symm
  | cons name rest ih =>
      rw [List.foldlM_cons] at followed
      cases first : disk.follow start name with
      | error errno =>
          rw [first] at followed
          cases followed
      | ok next =>
          rw [first] at followed
          rw [List.foldl_cons, ← follow_ok first]
          exact ih followed

/-- A path that leads somewhere leads to the place that it names. -/
theorem place_ok {path : Bytes} {place : Place} (led : disk.place path = .ok place)
    : path ≠ [] ∧ place = disk.spot path := by
  unfold Disk.place at led
  split at led
  · cases led
  · rename_i nonempty
    split at led
    · cases led
    · split at led
      · cases led
      · exact ⟨by simpa using nonempty, foldlM_follow_ok led⟩

theorem find_ok {path : Bytes} {place : Place} {node : Node}
    : disk.find path = .ok (place, node)
      ↔ disk.place path = .ok place ∧ disk.node? place = some node := by
  unfold find
  constructor
  · intro found
    cases led : disk.place path with
    | error errno =>
        rw [led] at found
        cases found
    | ok p =>
        rw [led] at found
        cases stands : disk.node? p with
        | none => simp [bind, Except.bind, stands] at found
        | some n =>
            simp only [bind, Except.bind, stands] at found
            cases found
            exact ⟨rfl, stands⟩
  · rintro ⟨led, stands⟩
    rw [led]
    simp only [bind, Except.bind, stands]

--------------------------------------------------------------------------------
-- Paths that go on leading
--------------------------------------------------------------------------------

/-- Directories stay directories. -/
structure Leads (before after : Disk) : Prop where
  workingDirectory : after.workingDirectory = before.workingDirectory
  directory
    : ∀ {place mode},
        before.node? place = some (.directory mode)
        → ∃ mode', after.node? place = some (.directory mode')

namespace Leads

theorem follow {place next : Place} {name : Bytes} (h : Leads before after)
    (followed : before.follow place name = .ok next)
    : after.follow place name = .ok next := by
  unfold Disk.follow at followed ⊢
  split at followed
  · cases followed
  · cases followed
  · rename_i mode stands
    obtain ⟨mode', stands'⟩ := h.directory stands
    rw [stands']
    exact followed

/-- A path goes on leading where it led. -/
theorem place {path : Bytes} {place : Place} (h : Leads before after)
    (led : before.place path = .ok place)
    : after.place path = .ok place := by
  have follows {names : List Bytes} {start place : Place}
      (followed : names.foldlM before.follow start = .ok place)
      : names.foldlM after.follow start = .ok place := by
    induction names generalizing start with
    | nil => exact followed
    | cons name rest ih =>
        rw [List.foldlM_cons] at followed ⊢
        cases first : before.follow start name with
        | error errno =>
            rw [first] at followed
            cases followed
        | ok next =>
            rw [first] at followed
            rw [h.follow first]
            exact ih followed
  unfold Disk.place at led ⊢
  rw [h.workingDirectory]
  split at led
  · cases led
  · rename_i nonempty
    rw [if_neg nonempty]
    split at led
    · cases led
    · rename_i plain
      rw [if_neg plain]
      split at led
      · cases led
      · rename_i short
        rw [if_neg short]
        exact follows led

theorem spot (h : Leads before after) (path : Bytes) : after.spot path = before.spot path := by
  rw [Disk.spot, Disk.spot, h.workingDirectory]

end Leads

--------------------------------------------------------------------------------
-- Growth
--------------------------------------------------------------------------------

/-- What stands on a disk stands on a later one, as the same kind of node. -/
structure Grows (before after : Disk) : Prop where
  workingDirectory : after.workingDirectory = before.workingDirectory
  kinds
    : ∀ {place node},
        before.node? place = some node
        → ∃ node', after.node? place = some node' ∧ node'.kind = node.kind

namespace Grows

theorem refl (disk : Disk) : Grows disk disk := ⟨rfl, fun stands => ⟨_, stands, rfl⟩⟩

theorem trans (h : Grows before after) (h' : Grows after later) : Grows before later := by
  refine ⟨h'.workingDirectory.trans h.workingDirectory, fun stands => ?_⟩
  obtain ⟨node, stands, kind⟩ := h.kinds stands
  obtain ⟨node', stands', kind'⟩ := h'.kinds stands
  exact ⟨node', stands', kind'.trans kind⟩

theorem directory {place : Place} {mode : Nat} (h : Grows before after)
    (stands : before.node? place = some (.directory mode))
    : ∃ mode', after.node? place = some (.directory mode') := by
  obtain ⟨node, stands, kind⟩ := h.kinds stands
  cases node with
  | file => cases kind
  | directory mode' => exact ⟨mode', stands⟩

theorem file {place : Place} {mode : Nat} {content : Bytes} (h : Grows before after)
    (stands : before.node? place = some (.file mode content))
    : ∃ mode' content', after.node? place = some (.file mode' content') := by
  obtain ⟨node, stands, kind⟩ := h.kinds stands
  cases node with
  | directory => cases kind
  | file mode' content' => exact ⟨mode', content', stands⟩

theorem leads (h : Grows before after) : Leads before after := ⟨h.workingDirectory, h.directory⟩

theorem place {path : Bytes} {place : Place} (h : Grows before after)
    (led : before.place path = .ok place)
    : after.place path = .ok place :=
  h.leads.place led

theorem spot (h : Grows before after) (path : Bytes) : after.spot path = before.spot path :=
  h.leads.spot path

end Grows

theorem grows_put {place : Place} {node : Node} (below : place ≠ [])
    (kind : ∀ node', disk.node? place = some node' → node.kind = node'.kind)
    : Grows disk (disk.put place node) := by
  refine ⟨rfl, @fun other node' stands => ?_⟩
  rw [node?_put disk below]
  split
  · rename_i same
    subst same
    exact ⟨node, rfl, kind node' stands⟩
  · exact ⟨node', stands, rfl⟩

--------------------------------------------------------------------------------
-- Directories
--------------------------------------------------------------------------------

/-- Only directories were added, each of which a path names on its way. -/
structure Makes (path : Bytes) (before after : Disk) : Prop where
  workingDirectory : after.workingDirectory = before.workingDirectory
  nodes
    : ∀ place,
        after.node? place = before.node? place
        ∨ before.node? place = none
          ∧ (∃ mode, after.node? place = some (.directory mode))
          ∧ ∃ above, above <+: path ∧ before.spot above = place

namespace Makes

variable {path : Bytes}

theorem refl (path : Bytes) (disk : Disk) : Makes path disk disk := ⟨rfl, fun _ => .inl rfl⟩

theorem grows (h : Makes path before after) : Grows before after := by
  refine ⟨h.workingDirectory, @fun place node stands => ?_⟩
  rcases h.nodes place with same | ⟨free, -⟩
  · exact ⟨node, same.trans stands, rfl⟩
  · cases free.symm.trans stands

theorem trans (h : Makes path before after) (h' : Makes path after later)
    : Makes path before later := by
  refine ⟨h'.workingDirectory.trans h.workingDirectory, fun place => ?_⟩
  rcases h.nodes place with same | ⟨free, ⟨mode, made⟩, way⟩
  · rcases h'.nodes place with same' | ⟨free, made, above, front, spot⟩
    · exact .inl (same'.trans same)
    · exact .inr ⟨same.symm.trans free, made, above, front, (h.grows.spot above).symm.trans spot⟩
  · exact .inr ⟨free, h'.grows.directory made, way⟩

theorem widen {longer : Bytes} (h : Makes path before after) (front : path <+: longer)
    : Makes longer before after :=
  ⟨h.workingDirectory, fun place => (h.nodes place).imp_right fun ⟨free, made, above, front', spot⟩ =>
    ⟨free, made, above, front'.trans front, spot⟩⟩

theorem content? (h : Makes path before after) (place : Place)
    : after.content? place = before.content? place := by
  rcases h.nodes place with same | ⟨free, ⟨mode, made⟩, -⟩
  · rw [Disk.content?, same, Disk.content?]
  · rw [Disk.content?, made, Disk.content?, free]

end Makes

/-- A directory that is made where nothing stands. -/
theorem makes_put {path : Bytes} {place : Place} {above : Bytes} (front : above <+: path)
    (led : disk.place above = .ok place) (free : disk.node? place = none) (mode : Nat)
    : Makes path disk (disk.put place (.directory mode)) := by
  have below : place ≠ [] := by
    rintro rfl
    cases free
  refine ⟨rfl, fun other => ?_⟩
  rw [node?_put disk below]
  split
  · rename_i same
    subst same
    exact .inr ⟨free, ⟨mode, rfl⟩, above, front, (place_ok led).2.symm⟩
  · exact .inl rfl

/-- The path of the directory that holds one. -/
def holder (path : Bytes) : Bytes := Bytes.trimBack (· == 0x2f) (parentPath path)

/-- Makes the directory that holds one. -/
def hold (fuel : Nat) (disk : Disk) (path : Bytes) : Except FileFault Unit × Disk :=
  if (holder path).isEmpty then (.ok (), disk) else makeDirectoryFrom fuel disk (holder path)

/-- Makes a directory in one that is there. -/
def settle (disk : Disk) (path : Bytes) : Except FileFault Unit × Disk :=
  match disk.place (Bytes.trimBack (· == 0x2f) path) with
  | .error errno => (.error (.onPath "mkdir" path errno), disk)
  | .ok place =>
      match disk.node? place with
      | some (.directory _) => (.ok (), disk)
      | some (.file _ _) => (.error (.onPath "mkdir" path .alreadyExists), disk)
      | none => (.ok (), disk.put place (.directory 0o755))

theorem makeDirectoryFrom_succ (fuel : Nat) (disk : Disk) (path : Bytes)
    : makeDirectoryFrom (fuel + 1) disk path
      = match disk.find path with
        | .ok (_, .directory _) => (.ok (), disk)
        | .ok (_, .file _ _) => (.error (.onPath "mkdir" path .notDirectory), disk)
        | .error _ =>
            match hold fuel disk path with
            | (.error fault, held) => (.error fault, held)
            | (.ok (), held) => settle held path := by
  rw [makeDirectoryFrom]
  cases disk.find path with
  | ok found =>
      obtain ⟨place, node⟩ := found
      cases node <;> rfl
  | error errno =>
      rcases holds : hold fuel disk path with ⟨fault | done, held⟩ <;>
        (unfold hold holder at holds; dsimp only; rw [holds])
      rfl

theorem settle_makes (disk : Disk) (path : Bytes) : Makes path disk (disk.settle path).2 := by
  unfold settle
  split
  · exact .refl path disk
  · rename_i place led
    split
    · exact .refl path disk
    · exact .refl path disk
    · rename_i free
      exact makes_put (Bytes.trimBack_prefix _ _) led free 0o755

/-- Only directories on the way to a directory are made. -/
theorem makeDirectoryFrom_makes (fuel : Nat) (disk : Disk) (path : Bytes)
    : Makes path disk (makeDirectoryFrom fuel disk path).2 := by
  induction fuel generalizing path with
  | zero => exact .refl path disk
  | succ fuel ih =>
      rw [makeDirectoryFrom_succ]
      have front : holder path <+: path :=
        (Bytes.trimBack_prefix _ _).trans
          ((Bytes.trimBack_prefix _ _).trans (Bytes.trimBack_prefix _ _))
      have holds : Makes path disk (hold fuel disk path).2 := by
        unfold hold
        split
        · exact .refl path disk
        · exact (ih (holder path)).widen front
      split
      · exact .refl path disk
      · exact .refl path disk
      · split
        · rename_i held
          rw [held] at holds
          exact holds
        · rename_i disk' held
          rw [held] at holds
          exact holds.trans (settle_makes disk' path)

theorem settle_ok {path : Bytes} (settled : before.settle path = (.ok (), after))
    : Grows before after
      ∧ ∃ place mode,
          after.place (Bytes.trimBack (· == 0x2f) path) = .ok place
          ∧ after.node? place = some (.directory mode) := by
  have grows := (settle_makes before path).grows
  rw [settled] at grows
  refine ⟨grows, ?_⟩
  unfold settle at settled
  split at settled
  · cases settled
  · rename_i place led
    refine ⟨place, ?_⟩
    split at settled
    · rename_i mode stands
      cases settled
      exact ⟨mode, led, stands⟩
    · cases settled
    · rename_i free
      cases settled
      refine ⟨0o755, grows.place led, ?_⟩
      rw [node?_put before (by rintro rfl; cases free), if_pos rfl]

/-- Making a directory again, with more on the disk than it left, changes nothing. -/
theorem makeDirectoryFrom_again {fuel : Nat} {path : Bytes}
    (made : makeDirectoryFrom fuel before path = (.ok (), after)) (grows : Grows after later)
    : makeDirectoryFrom fuel later path = (.ok (), later) := by
  induction fuel generalizing before after path with
  | zero => cases made
  | succ fuel ih =>
      rw [makeDirectoryFrom_succ] at made ⊢
      split at made
      · rename_i place mode found
        obtain ⟨led, stands⟩ := find_ok.mp found
        cases made
        obtain ⟨mode', stands'⟩ := grows.directory stands
        rw [find_ok.mpr ⟨grows.place led, stands'⟩]
      · cases made
      · split at made
        · cases made
        · rename_i held holds
          obtain ⟨settles, place, mode, led, stands⟩ := settle_ok made
          obtain ⟨mode, stands⟩ := grows.directory stands
          have led := grows.place led
          have again : hold fuel later path = (.ok (), later) := by
            unfold hold at holds ⊢
            split at holds
            · rename_i alone
              rw [if_pos alone]
            · rename_i held
              rw [if_neg held]
              exact ih holds (settles.trans grows)
          have settled : settle later path = (.ok (), later) := by
            rw [settle, led]
            dsimp only
            rw [stands]
          cases found : later.find path with
          | error errno =>
              dsimp only
              rw [again]
              exact settled
          | ok pair =>
              -- What the path leads to is the directory, by the place that it names.
              obtain ⟨place', node⟩ := pair
              obtain ⟨led', stands'⟩ := find_ok.mp found
              obtain ⟨nonempty, spot⟩ := place_ok led
              rw [(place_ok led').2, ← spot_trimBack later nonempty, ← spot, stands] at stands'
              cases stands'
              rfl

--------------------------------------------------------------------------------
-- Contents
--------------------------------------------------------------------------------

theorem content?_eq {place : Place} {content : Bytes}
    : disk.content? place = some content ↔ ∃ mode, disk.node? place = some (.file mode content) := by
  unfold content?
  split
  · rename_i mode found stands
    rw [stands]
    simp
  · rename_i other
    constructor
    · intro held
      cases held
    · rintro ⟨mode, stands⟩
      exact absurd stands (other mode content)

theorem read_ok {path content : Bytes}
    : disk.read path = .ok content
      ↔ ∃ place mode, disk.place path = .ok place ∧ disk.node? place = some (.file mode content) := by
  unfold read stat
  constructor
  · intro read
    cases found : disk.find path with
    | error errno =>
        rw [found] at read
        cases read
    | ok pair =>
        obtain ⟨place, node⟩ := pair
        rw [found] at read
        cases node with
        | directory mode => cases read
        | file mode held =>
            cases read
            exact ⟨place, mode, find_ok.mp found⟩
  · rintro ⟨place, mode, led, stands⟩
    rw [find_ok.mpr ⟨led, stands⟩]

/-- What is read is the content of the place that the path names. -/
theorem content?_of_read {path content : Bytes} (read : disk.read path = .ok content)
    : disk.content? (disk.spot path) = some content := by
  obtain ⟨place, mode, led, stands⟩ := read_ok.mp read
  rw [← (place_ok led).2]
  exact content?_eq.mpr ⟨mode, stands⟩

/-- A file that could be read can be read later on, with the content that it has then. -/
theorem Grows.read {path content content' : Bytes} (h : Grows before after)
    (read : before.read path = .ok content)
    (holds : after.content? (before.spot path) = some content')
    : after.read path = .ok content' := by
  obtain ⟨place, mode, led, stands⟩ := read_ok.mp read
  rw [← (place_ok led).2] at holds
  obtain ⟨mode', stands'⟩ := content?_eq.mp holds
  exact read_ok.mpr ⟨place, mode', h.place led, stands'⟩

--------------------------------------------------------------------------------
-- Replaced files
--------------------------------------------------------------------------------

/-- Only the file under a path may be new or have changed, and directories on the way to it may be
new.
-/
structure Alters (path : Bytes) (before after : Disk) : Prop where
  grows : Grows before after
  others
    : ∀ place,
        place ≠ before.spot path
        → after.node? place = before.node? place
          ∨ before.node? place = none
            ∧ (∃ mode, after.node? place = some (.directory mode))
            ∧ ∃ above, above <+: Path.directory path ∧ before.spot above = place

namespace Alters

variable {path : Bytes}

theorem refl (path : Bytes) (disk : Disk) : Alters path disk disk := ⟨.refl disk, fun _ _ => .inl rfl⟩

theorem content? {place : Place} (h : Alters path before after) (apart : place ≠ before.spot path)
    : after.content? place = before.content? place := by
  rcases h.others place apart with same | ⟨free, ⟨mode, made⟩, -⟩
  · rw [Disk.content?, same, Disk.content?]
  · rw [Disk.content?, made, Disk.content?, free]

end Alters

theorem Makes.alters {path : Bytes} (h : Makes (Path.directory path) before after)
    : Alters path before after :=
  ⟨h.grows, fun place _ => h.nodes place⟩

/-- A path whose last name leaves room for that of a temporary file beside it. -/
def Nameable (path : Bytes) : Prop :=
  temporaryFault? (Path.directory path) (FileCalls.temporaryFront path ++ "*") = none

theorem makeDirectory_makes (disk : Disk) (path : Bytes)
    : Makes path disk (disk.makeDirectory path).2 :=
  makeDirectoryFrom_makes _ disk path

/-- A file is replaced once its directory is there, unless a directory stands in its place. -/
theorem replace_cases (disk : Disk) (path content : Bytes) (mode : Nat)
    : (∃ fault,
        (disk.replace path content mode).1 = .error fault
        ∧ Makes (Path.directory path) disk (disk.replace path content mode).2)
      ∨ ∃ held place,
          Nameable path
          ∧ disk.makeDirectory (Path.directory path) = (.ok (), held)
          ∧ held.place path = .ok place
          ∧ (∀ mode, held.node? place ≠ some (.directory mode))
          ∧ disk.replace path content mode
            = (.ok (), held.put place (.file (mode % 0o1000) content)) := by
  have makes := disk.makeDirectory_makes (Path.directory path)
  unfold replace
  rcases made : disk.makeDirectory (Path.directory path) with ⟨fault | done, held⟩
  · rw [made] at makes
    exact .inl ⟨fault, rfl, makes⟩
  · rw [made] at makes
    dsimp only
    split
    · exact .inl ⟨_, rfl, makes⟩
    · rename_i nameable
      cases led : held.place path with
      | error errno => exact .inl ⟨_, rfl, makes⟩
      | ok place =>
          dsimp only
          split
          · exact .inl ⟨_, rfl, makes⟩
          · rename_i other
            exact .inr ⟨held, place, nameable, rfl, led, other, rfl⟩

/-- A file that can be replaced again and again. -/
structure Rewritable (disk : Disk) (path : Bytes) : Prop where
  nameable : Nameable path
  directory : disk.makeDirectory (Path.directory path) = (.ok (), disk)
  file
    : ∃ place mode content,
        disk.place path = .ok place ∧ disk.node? place = some (.file mode content)

theorem Grows.rewritable {path : Bytes} (h : Grows before after) (file : Rewritable before path)
    : Rewritable after path := by
  refine ⟨file.nameable, makeDirectoryFrom_again file.directory h, ?_⟩
  obtain ⟨place, mode, content, led, stands⟩ := file.file
  obtain ⟨mode', content', stands'⟩ := h.file stands
  exact ⟨place, mode', content', h.place led, stands'⟩

theorem Rewritable.replace {path : Bytes} (file : Rewritable disk path) (content : Bytes) (mode : Nat)
    : (disk.replace path content mode).1 = .ok () := by
  have nameable := file.nameable
  obtain ⟨place, mode', content', led, stands⟩ := file.file
  unfold Nameable at nameable
  unfold Disk.replace
  rw [file.directory]
  dsimp only
  rw [nameable, led]
  dsimp only
  rw [stands]

theorem grows_put_file {place : Place} {mode : Nat} {content : Bytes}
    (other : ∀ mode, disk.node? place ≠ some (.directory mode))
    : place ≠ [] ∧ Grows disk (disk.put place (.file mode content)) := by
  have below : place ≠ [] := by
    rintro rfl
    exact other 0o755 disk.node?_nil
  refine ⟨below, grows_put below fun node stands => ?_⟩
  cases node with
  | file => rfl
  | directory mode => exact absurd stands (other mode)

/-- A file that is put under a path once the directories on the way to it are made. -/
theorem Makes.alters_put {path content : Bytes} {place : Place} {mode : Nat} {held : Disk}
    (makes : Makes (Path.directory path) before held) (led : held.place path = .ok place)
    (other : ∀ mode, held.node? place ≠ some (.directory mode))
    : Alters path before (held.put place (.file mode content)) := by
  obtain ⟨below, grows⟩ := @grows_put_file held place mode content other
  refine ⟨makes.grows.trans grows, fun q apart => ?_⟩
  have spot : place = before.spot path := (place_ok led).2.trans (makes.grows.spot path)
  rw [node?_put held below, if_neg (spot ▸ apart)]
  exact makes.nodes q

theorem replace_alters (disk : Disk) (path content : Bytes) (mode : Nat)
    : Alters path disk (disk.replace path content mode).2 := by
  rcases replace_cases disk path content mode with
    ⟨fault, -, makes⟩ | ⟨held, place, -, made, led, other, done⟩
  · exact makes.alters
  · have makes := disk.makeDirectory_makes (Path.directory path)
    rw [made] at makes
    rw [done]
    exact makes.alters_put led other

/-- A replaced file has its new content, and it can be replaced again. -/
theorem replace_ok {path content : Bytes} {mode : Nat}
    (done : disk.replace path content mode = (.ok (), later))
    : later.read path = .ok content ∧ Rewritable later path := by
  rcases replace_cases disk path content mode with
    ⟨fault, failed, -⟩ | ⟨held, place, nameable, made, led, other, replaced⟩
  · rw [done] at failed
    cases failed
  · obtain ⟨below, grows⟩ := @grows_put_file held place (mode % 0o1000) content other
    obtain rfl : later = _ := (Prod.mk.inj (done.symm.trans replaced)).2
    have stands := (node?_put held below (.file (mode % 0o1000) content) place).trans (if_pos rfl)
    exact ⟨read_ok.mpr ⟨place, _, grows.place led, stands⟩, nameable,
      makeDirectoryFrom_again made grows, place, _, _, grows.place led, stands⟩

end FormMigrate.Disk
