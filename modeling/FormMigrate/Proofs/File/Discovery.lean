import FormMigrate.File.Templates
import FormMigrate.Proofs.File.Descent
import FormMigrate.Proofs.File.Disk
import FormMigrate.Proofs.State
import FormMigrate.Proofs.Text.Order
import Mathlib.Data.List.Nodup

/-! The templates below a directory are all files of its tree with the extension, in the byte order
of their paths, in whatever order the tree is walked.
-/

namespace FormMigrate

--------------------------------------------------------------------------------
-- Directory trees
--------------------------------------------------------------------------------

/-- A finite tree of directories and of files, which are all else that stands in a directory. -/
inductive Tree where
  | file
  /-- A directory has entries with names of their own. What is inside under other names is ignored.
  -/
  | directory (names : List Bytes) (distinct : names.Nodup)
      (proper : ∀ name ∈ names, Path.IsName name) (inside : Bytes → Tree)

namespace Tree

def kind : Tree → FileKind
  | file => .file
  | directory .. => .directory

/-- The entries of a tree with the names that lead to them, a directory before what it holds. -/
def places : Tree → List (Place × FileKind)
  | file => [([], .file)]
  | directory names _ _ inside =>
      ([], .directory)
        :: names.flatMap fun name =>
            (inside name).places.map fun (below, kind) => (name :: below, kind)

theorem mem_places_directory {names : List Bytes} {distinct : names.Nodup}
    {proper : ∀ name ∈ names, Path.IsName name} {inside : Bytes → Tree} {place : Place}
    {kind : FileKind}
    : (place, kind) ∈ (directory names distinct proper inside).places
      ↔ place = [] ∧ kind = .directory
        ∨ ∃ name ∈ names,
            ∃ below, (below, kind) ∈ (inside name).places ∧ place = name :: below := by
  simp only [places, List.mem_cons, Prod.mk.injEq, List.mem_flatMap, List.mem_map, Prod.exists]
  grind

theorem kind_of_root {tree : Tree} {kind : FileKind} (h : ([], kind) ∈ tree.places)
    : tree.kind = kind := by
  cases tree with
  | file => simpa [places, Tree.kind, eq_comm] using h
  | directory =>
      rw [mem_places_directory] at h
      rcases h with ⟨-, rfl⟩ | ⟨_, _, _, _, no⟩
      · rfl
      · cases no

/-- No names lead to the root of a tree, and some lead to each other entry. -/
theorem places_eq (tree : Tree)
    : tree.places = ([], tree.kind) :: tree.places.filter fun found => !found.1.isEmpty := by
  cases tree with
  | file => rfl
  | directory names distinct proper inside =>
      have others : ∀ found ∈ (names.flatMap fun name =>
          (inside name).places.map fun (below, kind) => (name :: below, kind)),
          (!found.1.isEmpty) = true := by
        intro found member
        obtain ⟨name, -, member⟩ := List.mem_flatMap.mp member
        obtain ⟨below, -, rfl⟩ := List.mem_map.mp member
        rfl
      rw [places, List.filter_cons_of_neg (by simp), List.filter_eq_self.mpr others]
      rfl

/-- Names lead to every file of a tree that is a directory. -/
theorem ne_nil_of_file {tree : Tree} {place : Place} (holding : tree.kind = .directory)
    (h : (place, .file) ∈ tree.places)
    : place ≠ [] := by
  rintro rfl
  rw [kind_of_root h] at holding
  cases holding

/-- Only names of entries lead to entries. -/
theorem isName_of_mem_places {tree : Tree} {place : Place} {kind : FileKind}
    (h : (place, kind) ∈ tree.places)
    : ∀ name ∈ place, Path.IsName name := by
  induction tree generalizing place with
  | file => simp_all [places]
  | directory names distinct proper inside ih =>
      rw [mem_places_directory] at h
      rcases h with ⟨rfl, -⟩ | ⟨name, member, below, h, rfl⟩
      · exact fun _ no => absurd no List.not_mem_nil
      · intro other found
        rcases List.mem_cons.mp found with rfl | found
        · exact proper other member
        · exact ih name h other found

/-- Every entry has names of its own.
Witness: induction on the tree. Entries of two directories differ by the first of their names.
-/
theorem places_nodup (tree : Tree) : (tree.places.map Prod.fst).Nodup := by
  induction tree with
  | file => simp [places]
  | directory names distinct proper inside ih =>
      have split
          : (directory names distinct proper inside).places.map Prod.fst
            = [] :: names.flatMap fun name =>
                ((inside name).places.map Prod.fst).map (name :: ·) := by
        simp [places, List.map_flatMap, Function.comp_def]
      rw [split, List.nodup_cons, List.nodup_flatMap]
      refine ⟨by simp, fun name _ => ?_, distinct.imp fun {a b} apart place => ?_⟩
      · exact (ih name).map (List.cons_injective)
      · intro ina inb
        obtain ⟨_, _, rfl⟩ := List.mem_map.mp ina
        obtain ⟨_, _, same⟩ := List.mem_map.mp inb
        exact apart (List.cons.inj same).1.symm

/-- What a walk through a tree under a path comes to at the names that lead to an entry. -/
def entry (root : Bytes) (place : Place × FileKind) : WalkEntry :=
  ⟨Path.descend root place.1, Path.nameOf root place.1, place.2⟩

/-- All that a walk through a tree under a path comes to, directories too. -/
def entries (tree : Tree) (root : Bytes) : List WalkEntry := tree.places.map (entry root)

/-- The paths of the entries of a tree that are files and are called so that they end with an
extension.
-/
def withExtension (tree : Tree) (root extension : Bytes) : List Bytes :=
  (tree.places.filter fun (below, kind) =>
      kind == .file && Bytes.endsWith (Path.nameOf root below) extension).map
    fun (below, _) => Path.descend root below

/-- The last name of a path is what its entry is called, at the root too. -/
theorem mem_withExtension_iff {tree : Tree} {root extension path : Bytes}
    : path ∈ tree.withExtension root extension
      ↔ ∃ below,
          (below, .file) ∈ tree.places
          ∧ path = Path.descend root below
          ∧ Bytes.endsWith (Path.base path) extension = true := by
  constructor
  · intro listed
    obtain ⟨⟨below, kind⟩, chosen, same⟩ := List.mem_map.mp listed
    obtain ⟨member, chosen⟩ := List.mem_filter.mp chosen
    obtain ⟨file, ends⟩ := Bool.and_eq_true_iff.mp chosen
    obtain rfl := beq_iff_eq.mp file
    rw [← Path.base_descend (isName_of_mem_places member)] at ends
    exact ⟨below, member, same.symm, same ▸ ends⟩
  · intro ⟨below, member, same, ends⟩
    rw [same, Path.base_descend (isName_of_mem_places member)] at ends
    rw [same]
    exact List.mem_map_of_mem (List.mem_filter.mpr ⟨member, by simp [ends]⟩)

/-- Files are told apart by their paths. -/
theorem withExtension_nodup (tree : Tree) (root extension : Bytes)
    : (tree.withExtension root extension).Nodup := by
  cases kind : tree.kind with
  | file =>
      cases tree with
      | file =>
          refine ((List.nodup_singleton _).filter _).map_on ?_
          intro place member other member' same
          have alone := List.mem_singleton.mp (List.mem_of_mem_filter member)
          exact alone.trans (List.mem_singleton.mp (List.mem_of_mem_filter member')).symm
      | directory => cases kind
  | directory =>
      refine (tree.places_nodup.of_map.filter _).map_on ?_
      intro ⟨below, sort⟩ member ⟨other, sort'⟩ member' same
      obtain ⟨member, chosen⟩ := List.mem_filter.mp member
      obtain ⟨member', chosen'⟩ := List.mem_filter.mp member'
      obtain rfl := beq_iff_eq.mp (Bool.and_eq_true_iff.mp chosen).1
      obtain rfl := beq_iff_eq.mp (Bool.and_eq_true_iff.mp chosen').1
      have names := Path.descend_inj (ne_nil_of_file kind member) (ne_nil_of_file kind member')
        (isName_of_mem_places member) (isName_of_mem_places member') same
      rw [names]

end Tree

--------------------------------------------------------------------------------
-- Walks
--------------------------------------------------------------------------------

/-- A walk of a workspace that comes to each entry of a tree under a path once, in whatever order.
No directory fails to be read.
-/
def Workspace.Walks {σ : Type} (workspace : Workspace (StateM σ)) (tree : Tree) (root : Bytes)
    (s later : σ)
    : Prop :=
  ∃ entries : List WalkEntry,
    workspace.walk root s = (entries.map .ok, later) ∧ entries.Perm (tree.entries root)

namespace Disk

variable {disk : Disk} {root : Bytes} {tree : Tree}

/-- All that stands at a place or below it, with the names that lead there. -/
def placesFrom (disk : Disk) (place : Place) : List (Place × FileKind) :=
  (([], Node.directory 0o755) :: disk.nodes).filterMap fun (p, node) =>
    if place.isPrefixOf p then some (p.drop place.length, node.kind) else none

/-- A disk that has exactly the entries of a tree under a path, in whatever order. -/
def Holds (disk : Disk) (root : Bytes) (tree : Tree) : Prop :=
  ∃ place node, disk.find root = .ok (place, node) ∧ (disk.placesFrom place).Perm tree.places

theorem mem_placesFrom_of_node? {place : Place} {node : Node}
    (stands : disk.node? place = some node)
    : ([], node.kind) ∈ disk.placesFrom place := by
  have member : (place, node) ∈ ([], Node.directory 0o755) :: disk.nodes := by
    unfold node? at stands
    split at stands
    · rename_i root
      rw [List.isEmpty_iff.mp root, ← Option.some.inj stands]
      exact .head _
    · obtain ⟨before, after, nodes, -⟩ := List.lookup_eq_some_iff.mp stands
      rw [nodes]
      simp
  refine List.mem_filterMap.mpr ⟨(place, node), member, ?_⟩
  simp

/-- A walk comes to a directory and then to what stands below it. -/
theorem walk_directory {place : Place} {mode : Nat}
    (led : disk.find root = .ok (place, .directory mode))
    : disk.walk root
      = .ok (Tree.entry root ([], .directory))
        :: ((disk.placesFrom place).filter fun found => !found.1.isEmpty).map
            fun found => .ok (Tree.entry root found) := by
  rw [walk, led]
  dsimp only
  rw [placesFrom, List.filter_filterMap, List.map_filterMap, List.filterMap_cons_none]
  · refine congrArg (_ :: ·) (List.filterMap_congr ?_)
    intro ⟨p, node⟩ _
    by_cases under : place.isPrefixOf p <;> by_cases self : (p.drop place.length).isEmpty <;>
      simp [under, self, Option.filter, Tree.entry]
  · dsimp only
    split <;> simp [Option.filter]

/-- A disk in memory that holds a tree is walked through all of it. -/
theorem Holds.walks (holds : disk.Holds root tree) (workingDirectory : Bytes) (cancelled : Bool)
    : (Disk.workspace workingDirectory cancelled).Walks tree root disk disk := by
  obtain ⟨place, node, led, same⟩ := holds
  have kind := Tree.kind_of_root (same.mem_iff.mp (mem_placesFrom_of_node? (find_ok.mp led).2))
  cases node with
  | file mode content =>
      cases tree with
      | file =>
          refine ⟨[Tree.entry root ([], .file)], ?_, .rfl⟩
          show (disk.walk root, disk) = _
          rw [walk, led, List.map_singleton]
          rfl
      | directory => cases kind
  | directory mode =>
      refine ⟨Tree.entry root ([], .directory)
          :: ((disk.placesFrom place).filter fun found => !found.1.isEmpty).map (Tree.entry root),
        ?_, ?_⟩
      · show (disk.walk root, disk) = _
        rw [walk_directory led, List.map_cons, List.map_map]
        rfl
      · rw [Tree.entries, tree.places_eq, List.map_cons, kind]
        exact ((same.filter _).map (Tree.entry root)).cons _

end Disk

--------------------------------------------------------------------------------
-- Discovery
--------------------------------------------------------------------------------

namespace Templates

variable {σ : Type}

/-- A walk without failures leaves the paths of the files with the extension, in its order. -/
theorem foldlM_visit (extension : Bytes) (entries : List WalkEntry) (found : List Bytes)
    : (entries.map Except.ok).foldlM (visit extension) found
      = .ok
        (found
          ++ (entries.filter fun entry =>
              entry.kind != .directory && Bytes.endsWith entry.name extension).map
            WalkEntry.path) := by
  induction entries generalizing found with
  | nil => simp [pure, Except.pure]
  | cons entry rest ih =>
      rw [List.map_cons, List.foldlM_cons, visit, List.filter_cons]
      show (rest.map Except.ok).foldlM (visit extension) _ = _
      rw [ih]
      split
      · simp
      · rfl

theorem withExtension_eq (tree : Tree) (root extension : Bytes)
    : ((tree.entries root).filter fun entry =>
          entry.kind != .directory && Bytes.endsWith entry.name extension).map WalkEntry.path
      = tree.withExtension root extension := by
  rw [Tree.entries, List.filter_map, List.map_map, Tree.withExtension]
  refine congrArg (List.map _) (List.filter_congr fun ⟨below, kind⟩ _ => ?_)
  cases kind <;> rfl

/-- Whatever the order of a walk, it finds all files of a tree with the extension and nothing else,
each once and in the strictly increasing byte order of their paths.
-/
theorem find_lists {workspace : Workspace (StateM σ)} {tree : Tree} {root extension : Bytes}
    {s later : σ} (named : extension ≠ []) (walks : workspace.Walks tree root s later)
    : ∃ listed,
        find workspace root extension s = (.ok listed, later)
        ∧ listed.Perm (tree.withExtension root extension)
        ∧ listed.Pairwise (· < ·) := by
  obtain ⟨entries, walked, order⟩ := walks
  have chosen := (order.filter fun entry =>
    entry.kind != .directory && Bytes.endsWith entry.name extension).map WalkEntry.path
  rw [withExtension_eq] at chosen
  have distinct := chosen.nodup_iff.mpr (tree.withExtension_nodup root extension)
  refine ⟨_, ?_, (Bytes.sort_perm _).trans chosen, Bytes.sort_increasing distinct⟩
  rw [find, if_neg (by simpa using named), bind_run walked, foldlM_visit]
  rfl

/-- A directory, a file and a directory called like a file, one of them with a file of its own. -/
def shelfTree : Tree :=
  .directory ["a", "a.blade.php", "b.blade.php"] (by decide) (by decide) fun name =>
    if name == "a" then .directory ["z.blade.php"] (by decide) (by decide) fun _ => .file
    else if name == "b.blade.php" then .directory [] (by decide) (by decide) fun _ => .file
    else .file

/-- A disk with the entries of the tree in no order, and with a file elsewhere. -/
def shelf : Disk where
  nodes := [
    (["v", "a", "z.blade.php"], .file 0o644 []),
    (["v", "b.blade.php"], .directory 0o755),
    (["w.blade.php"], .file 0o644 []),
    (["v"], .directory 0o755),
    (["v", "a.blade.php"], .file 0o600 []),
    (["v", "a"], .directory 0o755)]

/-- A workspace that walks a disk backwards. -/
def backwards : Workspace (StateM Disk) :=
  { Disk.workspace [] false with walk := fun path disk => ((disk.walk path).reverse, disk) }

/-- The file is listed before what stands in the directory, although its name comes behind the name
of that one.
-/
theorem find_lists_backwards
    : (".blade.php" : Bytes) ≠ []
      ∧ backwards.Walks shelfTree "./v" shelf shelf
      ∧ find backwards "./v" ".blade.php" shelf
        = (.ok ["v/a.blade.php", "v/a/z.blade.php"], shelf)
      ∧ (["v/a.blade.php", "v/a/z.blade.php"] : List Bytes).Perm
          (shelfTree.withExtension "./v" ".blade.php")
      ∧ (["v/a.blade.php", "v/a/z.blade.php"] : List Bytes).Pairwise (· < ·) := by
  have named : (".blade.php" : Bytes) ≠ [] := by decide
  have holds : shelf.Holds "./v" shelfTree :=
    ⟨["v"], .directory 0o755, by decide +kernel, by decide +kernel⟩
  have walks : backwards.Walks shelfTree "./v" shelf shelf := by
    obtain ⟨entries, walked, order⟩ := holds.walks [] false
    refine ⟨entries.reverse, ?_, (List.reverse_perm _).trans order⟩
    have walked : shelf.walk "./v" = entries.map .ok := (Prod.mk.inj walked).1
    show ((shelf.walk "./v").reverse, shelf) = _
    rw [walked, List.map_reverse]
  have chosen : (["v/a.blade.php", "v/a/z.blade.php"] : List Bytes).Perm
      (shelfTree.withExtension "./v" ".blade.php") := by decide +kernel
  have ordered : (["v/a.blade.php", "v/a/z.blade.php"] : List Bytes).Pairwise (· < ·) := by
    decide +kernel
  obtain ⟨listed, found, perm, increasing⟩ := find_lists named walks
  have same : listed = ["v/a.blade.php", "v/a/z.blade.php"] :=
    (perm.trans chosen.symm).eq_of_pairwise
      (fun _ _ _ _ before after => absurd after (List.lt_asymm before)) increasing ordered
  rw [same] at found
  exact ⟨named, walks, found, chosen, ordered⟩

end Templates

end FormMigrate
