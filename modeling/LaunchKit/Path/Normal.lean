import LaunchKit.Path.Drive

/-!
# Normal paths

A path is brought to normal form by its text alone: backslashes for slashes, one separator at the
root, no empty name and no `.`, and each `..` cancels the name before it. A `..` that nothing
precedes is dropped at a root and kept elsewhere. What is left of nothing at all is `.`.

The names are kept on a stack, the last one first, which is what makes one step a function of the
stack and of the next name.

## Main definitions

* `Path.push`: one name put on the stack.
* `Path.reduce`: the names that are left.
* `Path.normalize`: the normal form of a path.
-/
namespace LaunchKit.Path

/-- The name of the directory itself. -/
abbrev current : Text := ['.']

/-- The name of the parent directory. -/
abbrev parent : Text := ['.', '.']

/-- One more name on the stack of names, the last one first. -/
def push (rooted : Bool) (stack : List Text) (name : Text) : List Text :=
  if name = [] ∨ name = current then stack
  else if name = parent then
    match stack with
    | [] => if rooted then [] else [parent]
    | last :: others => if last = parent then parent :: stack else others
  else name :: stack

/-- The names that are left of a sequence of names, below a root or not. -/
def reduce (rooted : Bool) (names : List Text) : List Text :=
  (names.foldl (push rooted) []).reverse

/-- Drive and root of a path with backslashes only, and the rest without the separators in front. -/
def splitRoot (path : Text) : Text × Text :=
  let (drive, rest) := splitDrive path
  if rest.head? = some separator then (drive ++ [separator], rest.dropWhile (· = separator))
  else (drive, rest)

/-- The normal form of a path. -/
def normalize (path : Text) : Text :=
  let (root, rest) := splitRoot (withBackslashes path)
  let names := reduce (root.getLast? = some separator) (rest.splitOn separator)
  if root.isEmpty && names.isEmpty then current
  else root ++ List.intercalate [separator] names

@[simp] theorem push_nil_name (rooted : Bool) (stack : List Text) :
    push rooted stack [] = stack := by
  simp [push]

@[simp] theorem push_current (rooted : Bool) (stack : List Text) :
    push rooted stack current = stack := by
  simp [push]

/-- A name other than the three special ones is kept. -/
theorem push_of_plain {name : Text} (h₀ : name ≠ []) (h₁ : name ≠ current) (h₂ : name ≠ parent)
    (rooted : Bool) (stack : List Text) : push rooted stack name = name :: stack := by
  simp [push, h₀, h₁, h₂]

/-- Names can be reduced in two goes. -/
theorem reduce_append (rooted : Bool) (first second : List Text) :
    reduce rooted (first ++ second) =
      (second.foldl (push rooted) (first.foldl (push rooted) [])).reverse := by
  simp [reduce]

example : normalize "C:/a/./b//../c/" = "C:\\a\\c".toList := by decide
example : normalize "..\\a\\..\\.." = "..\\..".toList := by decide
example : normalize "\\\\s\\h\\..\\x" = "\\\\s\\h\\x".toList := by decide

end LaunchKit.Path
