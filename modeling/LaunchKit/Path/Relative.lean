import LaunchKit.Path.Normal

/-!
# Relative paths

The shortest way from one directory to a path, both being in normal form and compared character
by character. The two texts are walked in lockstep; what counts is the last separator that both
have passed, or, where one text ends and the other goes on with a separator, that separator. For
each name that is left of the directory there is one `..`, and then comes what is left of the
path.

## Main definitions

* `Mismatch`: two paths without a way from one to the other.
* `Path.diverge`: what is left of both paths behind the last common separator.
* `Path.relative`: the way from a directory to a path.
* `Path.relativeBySegments`: the same way, said in names rather than characters.
-/
namespace LaunchKit

/-- Why there is no way between two paths. -/
inductive MismatchCause where
  | onlyOneAbsolute
  | differentDrives
  deriving DecidableEq, Repr

/-- Two paths without a way from one to the other. -/
structure Mismatch where
  cause : MismatchCause
  path : Text
  base : Text
  deriving DecidableEq, Repr

/-- The wording of a cause. -/
def MismatchCause.message : MismatchCause → Text
  | .onlyOneAbsolute =>
    "Cannot calculate relative path from an absolute and a non-absolute path."
  | .differentDrives =>
    "Cannot calculate relative path from absolute path under different drives."

/-- A mismatch in three lines: the cause and the two paths. -/
def mismatchText (message path base : Text) : Text :=
  message ++ "\npath = ".toList ++ path ++ "\nbase = ".toList ++ base

/-- The wording of a mismatch. -/
def Mismatch.message (mismatch : Mismatch) : Text :=
  mismatchText mismatch.cause.message mismatch.path mismatch.base

namespace Path

/-- What is left of two different paths behind the last separator that both have passed; `restPath`
and `restBase` are what was left at the last one so far. -/
def diverge (restPath restBase : Text) : (path base : Text) → Text × Text
  | c :: path, d :: base =>
    if c = d then
      if c = separator then diverge path base path base else diverge restPath restBase path base
    else (restPath, restBase)
  | c :: path, [] => if c = separator then (path, []) else (restPath, restBase)
  | [], d :: base => if d = separator then ([], base) else (restPath, restBase)
  | [], [] => (restPath, restBase)

/-- How many names a rest of a path has; a rest that is empty has none. -/
def nameCount (rest : Text) : Nat := if rest.isEmpty then 0 else rest.count separator + 1

/-- So many steps up and then the given way down. -/
def upAndDown (ups : Nat) (down : Text) : Text :=
  List.intercalate [separator]
    (List.replicate ups parent ++ if down.isEmpty then [] else [down])

/-- Why there is no way from the base to the path, if so. -/
def mismatchCause? (path base : Text) : Option MismatchCause :=
  if isAbsolute path ≠ isAbsolute base then some .onlyOneAbsolute
  else if isAbsolute path ∧ path.head? ≠ base.head? then some .differentDrives
  else none

/-- The way from the base to the path; the empty text when they are the same. -/
def relative (path base : Text) : Except Mismatch Text :=
  match mismatchCause? path base with
  | some cause => .error ⟨cause, path, base⟩
  | none =>
    if path = base then .ok []
    else
      let (down, up) := diverge path base path base
      .ok (upAndDown (nameCount up) down)

/-! ## The same way in names -/

/-- What is left of two sequences behind their longest common beginning. -/
def dropCommon : (first second : List Text) → List Text × List Text
  | a :: first, b :: second => if a = b then dropCommon first second else (a :: first, b :: second)
  | first, second => (first, second)

/-- One `..` for each name that is left of the base, unless these are nothing or one empty name,
and then the names that are left of the path, unless these make an empty text. -/
def relativeBySegments (path base : Text) : Text :=
  let (down, up) := dropCommon (path.splitOn separator) (base.splitOn separator)
  let ups := if List.intercalate [separator] up = [] then 0 else up.length
  upAndDown ups (List.intercalate [separator] down)

/-- The error of a relative path is the mismatch of the two paths. -/
theorem relative_eq_error_iff {path base : Text} {mismatch : Mismatch} :
    relative path base = .error mismatch ↔
      ∃ cause, mismatchCause? path base = some cause ∧ mismatch = ⟨cause, path, base⟩ := by
  unfold relative
  split
  · next cause h => simp [h, eq_comm]
  · next h => split <;> simp [h]

example : relative "C:\\a\\b" "C:\\a\\c\\d" = .ok "..\\..\\b".toList := by rfl
example : relativeBySegments "C:\\a\\b" "C:\\a\\c\\d" = "..\\..\\b".toList := by decide

end Path
end LaunchKit
