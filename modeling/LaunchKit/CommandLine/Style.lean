import LaunchKit.CommandLine.Bash
import LaunchKit.CommandLine.Windows
import LaunchKit.Text.Quoted

/-!
# Command lines

A command line is a list of arguments, each written in one of two styles, with single blanks
between them.

## Main definitions

* `Style`: the two styles, with the names that callers use.
* `Style.escape`: an argument in a style.
* `Style.commandLine`: the whole line.
* `UnknownStyle`: the refusal of another name.
-/
namespace LaunchKit

/-- Who will split the command line. -/
inductive Style where
  | windows
  | bash
  deriving DecidableEq, Repr

/-- The name of a style that does not exist. -/
structure UnknownStyle where
  name : Text

/-- The wording of the refusal. -/
def UnknownStyle.message (unknown : UnknownStyle) : Text :=
  "Unknown quoting style: " ++ Text.quoted unknown.name

namespace Style

/-- All styles, in the order in which they are listed to callers. -/
def all : List Style := [.windows, .bash]

/-- The name of a style. -/
def name : Style → Text
  | .windows => "windows"
  | .bash => "bash"

/-- The style of a name. -/
def named (name : Text) : Except UnknownStyle Style :=
  match all.find? fun style => style.name == name with
  | some style => .ok style
  | none => .error ⟨name⟩

@[simp] theorem named_name (style : Style) : named style.name = .ok style := by
  cases style <;> rfl

/-- One argument, written in the style. -/
def escape : Style → Text → Text
  | .windows => Windows.escape
  | .bash => Bash.escape

/-- The arguments in the style, with single blanks between them. -/
def commandLine (style : Style) (arguments : List Text) : Text :=
  List.intercalate [' '] (arguments.map style.escape)

@[simp] theorem commandLine_nil (style : Style) : style.commandLine [] = [] := rfl

/-- A blank stands behind an argument when another one follows. -/
theorem commandLine_cons (style : Style) (argument : Text) (others : List Text) :
    style.commandLine (argument :: others) =
      style.escape argument ++ if others = [] then [] else ' ' :: style.commandLine others := by
  cases others <;> simp [commandLine]

end Style
end LaunchKit
