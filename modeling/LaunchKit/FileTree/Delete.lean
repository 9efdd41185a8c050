import LaunchKit.Failure.Coding
import LaunchKit.Failure.System
import LaunchKit.FileTree.Basic
import LaunchKit.Log

/-!
# Deleting files and directories

A file is deleted by its path, an empty directory by its path, and neither by the operation for
the other. What the system refuses is not a failure of the operation: it answers that nothing was
deleted, logs the refusal, and hands it over to be remembered. Only a path that does not reach the
system is a failure: one that has no encoding, or one with a null character.

## Main definitions

* `FileTree.existsAs`: whether a path leads to an entry of a kind.
* `FileTree.remove`: what the system does.
* `FileTree.delete`: the operation, with its report.
-/
namespace LaunchKit

/-- The word for a kind of entry. -/
def EntryKind.word : EntryKind → Text
  | .file => "file"
  | .directory => "directory"

namespace FileTree

/-! ## Paths -/

/-- The failure of a path with a null character. -/
def nullCharacter : Failure := .saying .badValue "embedded null byte"

/-- A path as it reaches the system. -/
def spelled (path : RawText) : Except Failure Bytes :=
  match path.encode with
  | .error defect => .error (.notEncoded defect)
  | .ok bytes => if .character '\x00' ∈ path then .error nullCharacter else .ok bytes

/-- Whether a path leads to an entry of a kind. One that does not reach the system leads nowhere. -/
def existsAs (tree : FileTree) (kind : EntryKind) (path : RawText) : Bool :=
  match spelled path with
  | .error _ => false
  | .ok bytes =>
    match tree.locate bytes with
    | .error _ => false
    | .ok spot => tree.kindIn spot = some kind

/-! ## What the system does -/

/-- Whether an entry may be removed, or why not. -/
def permit (tree : FileTree) (place : Place) : Except IoError Unit :=
  match tree.permissions.refusal? place with
  | some error => .error error
  | none => .ok ()

/-- Remove the file of a name in a directory. A slash behind the name asks for a directory, which
is not what can be removed. -/
def removeFile (tree : FileTree) (spot : Spot) (name : Bytes) (slashed : Bool) :
    Except IoError FileTree := do
  check (tree.permissions.isSearchable spot) .accessDenied
  if name = self ∨ name = parent then throw .isDirectory
  check (!tree.permissions.isReadOnly spot.ground) .readOnly
  let place ← tree.lookUp spot name
  let isFile := tree.kindAt place ≠ some .directory
  if slashed then throw (if isFile then .notDirectory else .isDirectory)
  tree.permit place
  check isFile .isDirectory
  return tree.erase place

/-- Remove the empty directory of a name in a directory. -/
def removeDirectory (tree : FileTree) (spot : Spot) (name : Bytes) :
    Except IoError FileTree := do
  check (tree.permissions.isSearchable spot) .accessDenied
  if name = self then throw .invalid
  if name = parent then throw .notEmpty
  check (!tree.permissions.isReadOnly spot.ground) .readOnly
  let place ← tree.lookUp spot name
  tree.permit place
  check (tree.kindAt place = some .directory) .notDirectory
  check (tree.children place).isEmpty .notEmpty
  return tree.erase place

/-- Remove an entry of a kind by its path. -/
def remove (tree : FileTree) (kind : EntryKind) (path : Bytes) : Except IoError FileTree := do
  let parts ← acceptedParts path
  let spot ← tree.walk (tree.start parts) parts.names.dropLast
  match parts.names.getLast?, kind with
  | none, .file => throw .isDirectory
  | none, .directory => throw .busy
  | some name, .file => tree.removeFile spot name parts.slashed
  | some name, .directory => tree.removeDirectory spot name

/-! ## The operations -/

/-- A refusal of the system as a failure. -/
def refusal (error : IoError) (path : RawText) : Failure :=
  .ofSystem error.code error.reason (some path)

/-- The record of a refusal. -/
def refusalRecord (kind : EntryKind) (path : RawText) (failure : Failure) : Record :=
  .saying .debug .files
    ("Failed to delete " ++ kind.word ++ ' ' :: path.shown ++ ": ".toList ++ failure.told.2)

/-- Delete an entry of a kind by its path: whether it was deleted, the tree that is left, and the
refusal to be remembered. -/
def delete (tree : FileTree) (kind : EntryKind) (path : RawText) :
    Report Bool × FileTree × Option Failure :=
  match spelled path with
  | .error failure => (.ofFailure failure, tree, none)
  | .ok bytes =>
    match tree.remove kind bytes with
    | .ok tree => (.ofResult true, tree, none)
    | .error error =>
      let failure := refusal error path
      ((Report.ofResult false).after [refusalRecord kind path failure], tree, some failure)

end FileTree
end LaunchKit
