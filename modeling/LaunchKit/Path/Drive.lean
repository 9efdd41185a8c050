import LaunchKit.Text.Letter

/-!
# Drives

A Windows path begins with a drive or with none. A drive is a letter with a colon, or the two
first names of a path that begins with two separators: the server and the share, or a device. The
long form of a share has the fixed beginning `\\?\UNC\` before the two names.

## Main definitions

* `Path.isSeparator`: backslash and slash.
* `Path.splitDrive`: the drive of a path and the rest.
* `Path.isAbsolute`: whether a path begins with a letter and a colon.
-/
namespace LaunchKit.Path

/-- The separator of a converted path. -/
abbrev separator : Char := '\\'

/-- Whether a character separates names, in a path of either form. -/
def isSeparator (c : Char) : Bool := c = '\\' || c = '/'

/-- A path with backslashes for slashes. -/
def withBackslashes (path : Text) : Text := path.map fun c => if c = '/' then '\\' else c

/-- Whether a path begins with a letter of any script and a colon. -/
def isAbsolute : Text → Bool
  | c :: ':' :: _ => Text.isLetter c
  | _ => false

/-- The length of the beginning of a share or a device: the two separators, or all of the long
form, in either case of letters. -/
def shareOpening (path : Text) : Nat :=
  if (withBackslashes (path.take 8)).map Char.toUpper = "\\\\?\\UNC\\".toList then 8 else 2

/-- The length of a name at the beginning of a text. -/
def nameLength (text : Text) : Nat := (text.takeWhile (!isSeparator ·)).length

/-- The length of the drive of a path that begins with two separators: two names behind the opening
and the separator between them. A path that ends before is a drive altogether. -/
def shareLength (path : Text) : Nat :=
  let toShare := shareOpening path + nameLength (path.drop (shareOpening path)) + 1
  toShare + nameLength (path.drop toShare)

/-- The drive of a path, empty when there is none, and the rest. -/
def splitDrive : Text → Text × Text
  | c :: d :: rest =>
    if isSeparator c && isSeparator d then (c :: d :: rest).splitAt (shareLength (c :: d :: rest))
    else if d = ':' then ([c, d], rest)
    else ([], c :: d :: rest)
  | path => ([], path)

/-- Drive and rest are all of the path. -/
theorem splitDrive_append (path : Text) : (splitDrive path).1 ++ (splitDrive path).2 = path := by
  unfold splitDrive
  split
  · split
    · simp [List.splitAt_eq]
    · split <;> simp
  · simp

example : splitDrive "C:\\a" = ("C:".toList, "\\a".toList) := by decide
example : splitDrive "\\\\s\\h\\a" = ("\\\\s\\h".toList, "\\a".toList) := by decide
example : splitDrive "//?/unc/s/h/a" = ("//?/unc/s/h".toList, "/a".toList) := by decide

end LaunchKit.Path
