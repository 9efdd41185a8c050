import LaunchKit.Text.Basic

/-!
# Shell command strings

A shell splits a command string into words at blanks, tabs and line ends outside quotes. Between
single quotes every character is literal. A backslash outside quotes makes the next character
literal; between double quotes it does so only before a double quote or a backslash.

An argument is written for that reader with every backslash and every double quote behind a
backslash, and between double quotes when it holds a blank. Other separators and single quotes are
not looked at.

## Main definitions

* `Bash.escape`: the written form of one argument.
* `Bash.splitWords`: the reader, which fails on an open quote or a backslash at the end.
-/
namespace LaunchKit.Bash

/-! ## Writing -/

/-- The argument with a backslash before each backslash and each double quote. -/
def escapedBody (argument : Text) : Text :=
  Text.replaceEach '"' ['\\', '"'] (Text.replaceEach '\\' ['\\', '\\'] argument)

/-- The written form of an argument. -/
def escape (argument : Text) : Text :=
  if argument.isEmpty then ['"', '"']
  else if ' ' ∈ argument then '"' :: escapedBody argument ++ ['"']
  else escapedBody argument

/-- Both replacements in one pass: no backslash of the second is doubled by the first. -/
theorem escapedBody_eq_flatMap (argument : Text) :
    escapedBody argument =
      argument.flatMap fun c => if c = '\\' ∨ c = '"' then ['\\', c] else [c] := by
  induction argument with
  | nil => rfl
  | cons c rest ih =>
    rw [List.flatMap_cons, ← ih]
    by_cases slash : c = '\\'
    · subst slash; simp [escapedBody]
    · by_cases quote : c = '"'
      · subst quote; simp [escapedBody]
      · simp [escapedBody, slash, quote]

/-! ## Reading -/

/-- Where a reader of words stands: outside quotes, between single or double quotes, or behind a
backslash in one of the two places where it has a meaning. -/
inductive Place where
  | plain
  | single
  | double
  | escapedPlain
  | escapedDouble
  deriving DecidableEq, Repr

/-- Whether a character separates words. -/
def isSeparator (c : Char) : Bool := c = ' ' || c = '\t' || c = '\r' || c = '\n'

/-- The words of the rest of a string; `word` holds what has been read of a word that has begun. -/
def splitAfter : Place → (word : Option Text) → Text → Option (List Text)
  | .plain, word, [] => some word.toList
  | _, _, [] => none
  | .plain, word, c :: rest =>
    if isSeparator c then (splitAfter .plain none rest).map (word.toList ++ ·)
    else if c = '\'' then splitAfter .single (some (word.getD [])) rest
    else if c = '"' then splitAfter .double (some (word.getD [])) rest
    else if c = '\\' then splitAfter .escapedPlain (some (word.getD [])) rest
    else splitAfter .plain (some (word.getD [] ++ [c])) rest
  | .single, word, c :: rest =>
    if c = '\'' then splitAfter .plain word rest
    else splitAfter .single (some (word.getD [] ++ [c])) rest
  | .double, word, c :: rest =>
    if c = '"' then splitAfter .plain word rest
    else if c = '\\' then splitAfter .escapedDouble word rest
    else splitAfter .double (some (word.getD [] ++ [c])) rest
  | .escapedPlain, word, c :: rest => splitAfter .plain (some (word.getD [] ++ [c])) rest
  | .escapedDouble, word, c :: rest =>
    let kept := if c = '"' ∨ c = '\\' then [c] else ['\\', c]
    splitAfter .double (some (word.getD [] ++ kept)) rest

/-- The words that a shell reads from a command string. -/
def splitWords (string : Text) : Option (List Text) := splitAfter .plain none string

example : splitWords "a \"b c\" ''" = some [['a'], "b c".toList, []] := by decide
example : splitWords "it's" = none := by decide

end LaunchKit.Bash
