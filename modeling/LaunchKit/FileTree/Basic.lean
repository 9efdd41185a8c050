import LaunchKit.Text.Raw

/-!
# File trees

A tree of files and directories, kept as a table of the places that are taken. A place is the list
of the names that lead to it, the innermost first, so that its directory is the tail. The root is
always a directory and does not stand in the table.

A directory in which a process works can be removed. The process is then in a *spot* outside of the
tree, in which nothing can be found but the way up.

Paths are walked as the system does it. A slash separates names, several count as one, `.` stays
and `..` goes to the directory above, which at the root is the root. Every name but the last must
lead to a directory, and so must the last one when a slash follows it. A directory in which a name
is looked for must be open to searches.

## Main definitions

* `FileTree`: the table, with the spot from which relative paths start and what is permitted.
* `FileTree.kindAt`: what is at a place.
* `FileTree.walk`, `FileTree.locate`: the spot to which names, or a path, lead.
* `IoError`: why an operation was refused.
-/
namespace LaunchKit

/-- The two kinds of entry. -/
inductive EntryKind where
  | file
  | directory
  deriving DecidableEq, Repr

/-- The names that lead to a place from the root, the innermost first. -/
abbrev Place := List Bytes

/-- Where a walk can be: at a place of the tree, or in a directory that was removed from below a
spot. -/
inductive Spot where
  | inTree (place : Place)
  | removed (above : Spot)
  deriving DecidableEq, Repr

namespace Spot

/-- The spot above. -/
def above : Spot → Spot
  | inTree place => inTree place.tail
  | removed above => above

/-- The innermost place of the tree that a spot is at or below. -/
def ground : Spot → Place
  | inTree place => place
  | removed above => above.ground

/-- A spot when the entry at a place was removed. -/
def without (gone : Place) : Spot → Spot
  | inTree place => if place = gone then removed (inTree place.tail) else inTree place
  | removed above => removed (above.without gone)

end Spot

/-- Why the system refused an operation. -/
inductive IoError where
  | notPermitted
  | noEntry
  | accessDenied
  | busy
  | notDirectory
  | isDirectory
  | invalid
  | readOnly
  | nameTooLong
  | notEmpty
  deriving DecidableEq, Repr

namespace IoError

/-- The code of an error. -/
def code : IoError → Nat
  | notPermitted => 1
  | noEntry => 2
  | accessDenied => 13
  | busy => 16
  | notDirectory => 20
  | isDirectory => 21
  | invalid => 22
  | readOnly => 30
  | nameTooLong => 36
  | notEmpty => 39

/-- The wording of an error. -/
def reason : IoError → Text
  | notPermitted => "Operation not permitted"
  | noEntry => "No such file or directory"
  | accessDenied => "Permission denied"
  | busy => "Device or resource busy"
  | notDirectory => "Not a directory"
  | isDirectory => "Is a directory"
  | invalid => "Invalid argument"
  | readOnly => "Read-only file system"
  | nameTooLong => "File name too long"
  | notEmpty => "Directory not empty"

end IoError

/-- What the system permits: which directories may be searched, which lie on a file system that
nobody may write to, and why an entry may not be removed otherwise. -/
structure Permissions where
  isSearchable : Spot → Bool := fun _ => true
  isReadOnly : Place → Bool := fun _ => false
  refusal? : Place → Option IoError := fun _ => none

/-- The entries of a file system, the working directory, and what is permitted. -/
structure FileTree where
  entries : List (Place × EntryKind) := []
  working : Spot := .inTree []
  permissions : Permissions := {}

namespace FileTree

/-- What is at a place. -/
def kindAt (tree : FileTree) : Place → Option EntryKind
  | [] => some .directory
  | place => tree.entries.lookup place

/-- What is in a spot. -/
def kindIn (tree : FileTree) : Spot → Option EntryKind
  | .inTree place => tree.kindAt place
  | .removed _ => some .directory

/-- The places directly below a directory. -/
def children (tree : FileTree) (directory : Place) : List Place :=
  (tree.entries.map Prod.fst).filter fun place => !place.isEmpty && place.tail = directory

/-- The tree with an entry at a place. -/
def insert (tree : FileTree) (place : Place) (kind : EntryKind) : FileTree :=
  if (tree.kindAt place).isSome then tree
  else { tree with entries := (place, kind) :: tree.entries }

/-- The tree without the entry at a place. -/
def erase (tree : FileTree) (place : Place) : FileTree :=
  { tree with
    entries := tree.entries.filter (·.1 ≠ place)
    working := tree.working.without place }

/-- Erasing one place does not touch another. -/
theorem kindAt_erase_of_ne (tree : FileTree) {place other : Place} (h : other ≠ place) :
    (tree.erase place).kindAt other = tree.kindAt other := by
  cases other with
  | nil => rfl
  | cons name directory =>
    simp only [kindAt, erase]
    induction tree.entries with
    | nil => rfl
    | cons entry entries ih =>
      obtain ⟨key, kind⟩ := entry
      by_cases hk : key = place
      · subst hk
        rw [List.filter_cons_of_neg (by simp), ih, List.lookup_cons, beq_eq_false_iff_ne.2 h]
      · rw [List.filter_cons_of_pos (by simpa using hk), List.lookup_cons, List.lookup_cons, ih]

/-- What is erased is gone. -/
theorem kindAt_erase_self (tree : FileTree) {place : Place} (h : place ≠ []) :
    (tree.erase place).kindAt place = none := by
  cases place with
  | nil => exact absurd rfl h
  | cons name directory =>
    simp only [kindAt, erase]
    induction tree.entries with
    | nil => rfl
    | cons entry entries ih =>
      obtain ⟨key, kind⟩ := entry
      by_cases hk : key = name :: directory
      · subst hk
        rw [List.filter_cons_of_neg (by simp), ih]
      · rw [List.filter_cons_of_pos (by simpa using hk), List.lookup_cons, ih,
          beq_eq_false_iff_ne.2 (Ne.symm hk)]

/-! ## Paths -/

/-- The largest size of a name and the size that no path may reach. -/
def nameLimit : Nat := 255

def pathLimit : Nat := 4096

/-- The byte between the names of a path. -/
def slash : UInt8 := 0x2F

/-- The names of the directory itself and of the one above. -/
def self : Bytes := [0x2E]

def parent : Bytes := [0x2E, 0x2E]

/-- A path in parts: whether it starts at the root, its names, and whether a slash follows the
last one. -/
structure PathParts where
  rooted : Bool
  names : List Bytes
  slashed : Bool

/-- The parts of a path. -/
def partsOf (path : Bytes) : PathParts :=
  { rooted := path.head? = some slash
    names := (path.splitOn slash).filter (!·.isEmpty)
    slashed := path.getLast? = some slash }

/-- The parts of a path that the system accepts at all. -/
def acceptedParts (path : Bytes) : Except IoError PathParts :=
  if path.isEmpty then .error .noEntry
  else if pathLimit ≤ path.length then .error .nameTooLong
  else .ok (partsOf path)

/-- What has to be the case, or else is refused. -/
def check (holds : Bool) (error : IoError) : Except IoError Unit :=
  if holds then .ok () else .error error

/-- The place of a proper name in a spot. -/
def lookUp (tree : FileTree) (spot : Spot) (name : Bytes) : Except IoError Place :=
  match spot with
  | .removed _ => .error .noEntry
  | .inTree directory =>
    if nameLimit < name.length then .error .nameTooLong
    else if (tree.kindAt (name :: directory)).isSome then .ok (name :: directory)
    else .error .noEntry

/-- The spot to which a name leads from a spot. -/
def step (tree : FileTree) (spot : Spot) (name : Bytes) : Except IoError Spot := do
  check (tree.permissions.isSearchable spot) .accessDenied
  if name = self then return spot
  if name = parent then return spot.above
  return .inTree (← tree.lookUp spot name)

/-- The directory in a spot. -/
def asDirectory (tree : FileTree) (spot : Spot) : Except IoError Spot :=
  if tree.kindIn spot = some .directory then .ok spot else .error .notDirectory

/-- The directory to which names lead from a directory. -/
def walk (tree : FileTree) (spot : Spot) : List Bytes → Except IoError Spot
  | [] => .ok spot
  | name :: names => do
    let found ← tree.step spot name
    tree.walk (← tree.asDirectory found) names

/-- Where the walk along a path begins. -/
def start (tree : FileTree) (parts : PathParts) : Spot :=
  if parts.rooted then .inTree [] else tree.working

/-- The spot to which a path leads. -/
def locate (tree : FileTree) (path : Bytes) : Except IoError Spot := do
  let parts ← acceptedParts path
  let directory ← tree.walk (tree.start parts) parts.names.dropLast
  match parts.names.getLast? with
  | none => return directory
  | some name =>
    let spot ← tree.step directory name
    if parts.slashed then tree.asDirectory spot else return spot

/-- The path of the working directory. There is none to a directory that was removed. -/
def workingPath (tree : FileTree) : Except IoError Bytes :=
  match tree.working with
  | .inTree place => .ok (slash :: List.intercalate [slash] place.reverse)
  | .removed _ => .error .noEntry

end FileTree
end LaunchKit
