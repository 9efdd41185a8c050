import LaunchKit.Text.Basic

/-!
# Windows command lines

A program started with one command line splits it into arguments by itself. Blanks and tabs
separate arguments outside quotes. A backslash is literal, except in a run that ends at a double
quote: there two backslashes stand for one, and one left over makes the quote literal; without one
the quote opens or closes a quoted part.

An argument is written for that reader as it is, or quoted when it holds a blank or a quote. A
tab alone does not bring quotes about.

## Main definitions

* `Windows.escape`: the written form of one argument.
* `Windows.splitArguments`: the reader.
-/
namespace LaunchKit.Windows

/-- A run of backslashes. -/
def slashes (count : Nat) : Text := List.replicate count '\\'

/-! ## Writing -/

/-- The inside of a quoted argument, behind `pending` backslashes that are not yet written: a run
before a quote or before the end is doubled, and the quote gets one more. -/
def quotedBody : (pending : Nat) → Text → Text
  | pending, [] => slashes (2 * pending)
  | pending, c :: rest =>
    if c = '\\' then quotedBody (pending + 1) rest
    else if c = '"' then slashes (2 * pending + 1) ++ '"' :: quotedBody 0 rest
    else slashes pending ++ c :: quotedBody 0 rest

/-- Whether an argument is written between quotes. -/
def needsQuotes (argument : Text) : Bool := argument.isEmpty || ' ' ∈ argument || '"' ∈ argument

/-- The written form of an argument. -/
def escape (argument : Text) : Text :=
  if needsQuotes argument then '"' :: quotedBody 0 argument ++ ['"'] else argument

@[simp] theorem escape_nil : escape [] = ['"', '"'] := rfl

/-- Without a blank and a quote, an argument is written as it is. -/
theorem escape_of_plain {argument : Text} (h : needsQuotes argument = false) :
    escape argument = argument := by
  simp [escape, h]

/-! ## Reading -/

/-- Whether a character separates arguments. -/
def isSeparator (c : Char) : Bool := c = ' ' || c = '\t'

/-- The arguments of the rest of a line, behind `pending` backslashes. `quoted` tells whether the
place is inside quotes, `argument` holds what has been read of an argument that has begun. -/
def splitAfter : (pending : Nat) → (quoted : Bool) → (argument : Option Text) → Text → List Text
  | pending, _, argument, [] => (argument.map (· ++ slashes pending)).toList
  | pending, quoted, argument, c :: rest =>
    let read := argument.getD []
    if c = '\\' then splitAfter (pending + 1) quoted (some read) rest
    else if c = '"' then
      if pending % 2 = 1 then
        splitAfter 0 quoted (some (read ++ slashes (pending / 2) ++ ['"'])) rest
      else splitAfter 0 (!quoted) (some (read ++ slashes (pending / 2))) rest
    else if isSeparator c && !quoted then
      (argument.map (· ++ slashes pending)).toList ++ splitAfter 0 false none rest
    else splitAfter 0 quoted (some (read ++ slashes pending ++ [c])) rest

/-- The arguments that a program reads from its command line. -/
def splitArguments (line : Text) : List Text := splitAfter 0 false none line

example : splitArguments "a \"b c\\\"\" \\\\x" = [['a'], "b c\"".toList, "\\\\x".toList] := by
  decide
example : splitArguments (escape "say \\\"hi\\") = ["say \\\"hi\\".toList] := by decide

end LaunchKit.Windows
