import LaunchKit.Path.Normal
import LaunchKit.Text.Case

/-!
# Joined paths

A path taken relative to a directory. A rooted path keeps the drive of the directory unless it has
one of its own; a path on another drive replaces the directory; all others are appended to it.

## Main definitions

* `Path.append`: a separator between two paths where one is needed.
* `Path.join`: a path taken relative to a directory.
-/
namespace LaunchKit.Path

/-- Whether a path begins with a separator. -/
def isRooted (path : Text) : Bool := path.head?.any isSeparator

/-- The second path behind the first, with a separator unless the first is empty or ends in one. -/
def append (first second : Text) : Text :=
  if first.isEmpty || first.getLast?.any isSeparator then first ++ second
  else first ++ separator :: second

/-- A drive and a path on it. Behind a share or a device a separator is put before an unrooted
path. -/
def onDrive (drive path : Text) : Text :=
  if !path.isEmpty && !isRooted path && !drive.isEmpty && drive.getLast? != some ':' then
    drive ++ separator :: path
  else drive ++ path

/-- The second path, taken relative to the first. -/
def join (first second : Text) : Text :=
  let (drive, path) := splitDrive first
  let (drive', path') := splitDrive second
  if isRooted path' then onDrive (if drive'.isEmpty then drive else drive') path'
  else if drive'.isEmpty || drive' = drive then onDrive drive (append path path')
  else if Text.lower drive' = Text.lower drive then onDrive drive' (append path path')
  else onDrive drive' path'

example : join "C:\\a" "b" = "C:\\a\\b".toList := by decide
example : join "C:\\a" "\\b" = "C:\\b".toList := by decide
example : join "C:\\a" "c:b" = "c:\\a\\b".toList := by decide
example : join "C:\\a" "D:b" = "D:b".toList := by decide

end LaunchKit.Path
