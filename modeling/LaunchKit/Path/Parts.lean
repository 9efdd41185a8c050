import LaunchKit.Path.Drive

/-!
# Parts of a path

The last separator, of either form, divides a path into the directory and the name. Names of
programs may carry an extension that the system adds by itself.

## Main definitions

* `Path.baseName`, `Path.parentDirectory`: what stands behind and before the last separator.
* `Path.withoutExe`, `Path.withExe`: a program without and with its extension.
-/
namespace LaunchKit.Path

/-- What stands behind the last separator. -/
def baseName (path : Text) : Text := (path.reverse.takeWhile (!isSeparator ·)).reverse

/-- What stands before the last separator; a path without one is its own parent. -/
def parentDirectory (path : Text) : Text :=
  match path.reverse.dropWhile (!isSeparator ·) with
  | [] => path
  | _ :: front => front.reverse

/-- The extension of programs. -/
def exe : Text := ".exe"

/-- The program without its extension. -/
def withoutExe (program : Text) : Text := (Text.dropEnding? exe program).getD program

/-- The program with its extension, which is not added twice. -/
def withExe (program : Text) : Text := withoutExe program ++ exe

/-- A name holds no separator. -/
theorem not_isSeparator_of_mem_baseName {path : Text} {c : Char} (h : c ∈ baseName path) :
    isSeparator c = false := by
  have all := List.all_takeWhile (p := fun c => !isSeparator c) (l := path.reverse)
  simpa using List.all_eq_true.1 all c (List.mem_reverse.1 h)

example : baseName "a\\b/c" = ['c'] ∧ parentDirectory "a\\b/c" = "a\\b".toList := by decide

end LaunchKit.Path
