import LaunchKit.Path.Join
import LaunchKit.Text.Quoted

/-!
# Converted paths

Paths arrive in the forms of several shells. Conversion gives the normal Windows form: besides the
change of separators, a drive that is written as a first directory of one letter (`/c/work`)
becomes a drive, and a drive that stands alone gets its root. No path may hold a null character.

An absolute form is found by joining the converted path to a directory that has one.

## Main definitions

* `PathError`: why a path has no converted or no absolute form.
* `Path.convert`: the normal Windows form.
* `Path.convertFolded`: the same in lower case, for comparison.
* `Path.convertAbsolute`: the absolute form with respect to a directory.
-/
namespace LaunchKit

/-- Why a path could not be converted. -/
inductive PathError where
  | nullCharacter (path : Text)
  | empty
  | notOnDrive (path directory : Text)
  deriving DecidableEq, Repr

/-- The wording of a refused conversion. -/
def PathError.message : PathError → Text
  | .nullCharacter path => "Path contains null byte: " ++ Text.quoted path
  | .empty => "Path cannot be empty"
  | .notOnDrive path directory =>
    "Cannot resolve " ++ path ++ " against non-Windows directory ".toList ++ directory

namespace Path

/-- A first directory of one ASCII letter, read as a drive. The directory ends at a separator or
with the path, where a line end at the very end is passed over. -/
def liftDrive : Text → Text
  | '\\' :: c :: rest =>
    if c.isAlpha && (rest = [] || rest = ['\n'] || rest.head? = some separator) then
      c :: ':' :: rest
    else '\\' :: c :: rest
  | path => path

/-- A drive that stands alone, with its root. -/
def rootDrive : Text → Text
  | [c, ':'] => if c.isAlpha then [c, ':', separator] else [c, ':']
  | path => path

/-- The Windows form of a path without a null character. -/
def windowsForm (path : Text) : Text :=
  if path.isEmpty then [] else normalize (rootDrive (liftDrive (withBackslashes path)))

/-- The Windows form of a path. -/
def convert (path : Text) : Except PathError Text :=
  if '\x00' ∈ path then .error (.nullCharacter path) else .ok (windowsForm path)

/-- The Windows form in lower case. -/
def convertFolded (path : Text) : Except PathError Text := (convert path).map Text.lower

/-- The absolute Windows form of a path; a relative one is taken from the given directory. -/
def convertAbsolute (directory path : Text) : Except PathError Text := do
  if path.isEmpty then throw .empty
  let converted ← convert path
  if isAbsolute converted then return converted
  let base ← convert directory
  if isAbsolute base then return normalize (join base converted)
  throw (.notOnDrive path base)

/-- Conversion fails exactly on a null character. -/
theorem convert_eq_ok_iff {path result : Text} :
    convert path = .ok result ↔ '\x00' ∉ path ∧ windowsForm path = result := by
  unfold convert
  split <;> simp_all

example : windowsForm "/c/work/../bin" = "c:\\bin".toList := by decide
example : windowsForm "c:" = "c:\\".toList := by decide
example : windowsForm "/cd/x" = "\\cd\\x".toList := by decide

end Path
end LaunchKit
