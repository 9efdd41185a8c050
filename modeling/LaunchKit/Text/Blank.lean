import LaunchKit.Text.CodeSet

/-!
# Blank characters

Two notions of white space are in use. A message ends a path at any *blank*, where the four
information separators U+001C to U+001F count as blanks. A number may be surrounded by *margin*,
where they do not.

## Main definitions

* `Text.isBlank`, `Text.isMargin`: the two classes.
* `Text.trimMargin`: a text without the margin on both sides.
-/
namespace LaunchKit.Text

/-- The blanks: white space of every script and the information separators. -/
def blanks : CodeSet := ⟨[
    0x9, 0xE, 0x1C, 0x21, 0x85, 0x86, 0xA0, 0xA1, 0x1680, 0x1681, 0x2000, 0x200B, 0x2028, 0x202A,
    0x202F, 0x2030, 0x205F, 0x2060, 0x3000, 0x3001]⟩

/-- Whether a character is white space, information separators included. -/
def isBlank (c : Char) : Bool := blanks.contains c

/-- Whether a character may surround a number: a blank other than an information separator. -/
def isMargin (c : Char) : Bool := isBlank c && !(0x1C ≤ c.toNat && c.toNat < 0x20)

/-- The text without the margin on both sides. -/
def trimMargin (text : Text) : Text :=
  ((text.dropWhile isMargin).reverse.dropWhile isMargin).reverse

example : isBlank ' ' ∧ isBlank '\t' ∧ isBlank '\x1c' ∧ ¬ isMargin '\x1c' ∧ ¬ isBlank 'a' := by
  decide

end LaunchKit.Text
