import LaunchKit.Number.Numeral

/-!
# Colours on a terminal

A terminal shows text in a colour between two control sequences: one that selects the colour and
one that resets it. A sequence is an escape character, a bracket, numbers separated by semicolons,
and the letter `m`. What a reader sees is the text without the sequences.

## Main definitions

* `Console.Paint`: the codes that are selected one after the other.
* `Console.paint`: a text between its sequences.
* `Console.visible`: a text without sequences.
-/
namespace LaunchKit.Console

/-- The codes that select an appearance, each in a sequence of its own. -/
abbrev Paint := List Nat

/-- The control sequence of a code. -/
def sequence (code : Nat) : Text := '\x1b' :: '[' :: Numeral.ofNat code ++ ['m']

/-- The sequence that resets all. -/
def reset : Text := sequence 0

/-- The text in an appearance. -/
def paint (codes : Paint) (text : Text) : Text := codes.flatMap sequence ++ text ++ reset

/-- The text in an appearance, if colours are wanted. -/
def paintIf (useColors : Bool) (codes : Paint) (text : Text) : Text :=
  if useColors then paint codes text else text

/-! ## Appearances -/

abbrev dim : Paint := [2]
abbrev green : Paint := [32]
abbrev yellow : Paint := [33]
abbrev cyan : Paint := [36]
abbrev white : Paint := [37]
abbrev brightBlack : Paint := [90]
abbrev brightRed : Paint := [91]
abbrev brightGreen : Paint := [92]
abbrev brightYellow : Paint := [93]
abbrev brightBlue : Paint := [94]
abbrev brightMagenta : Paint := [95]
abbrev brightCyan : Paint := [96]

/-- White and bold on a red ground. -/
abbrev alarm : Paint := [41, 37, 1]

/-! ## What a reader sees -/

/-- Whether a character may stand between the bracket and the letter of a sequence. -/
def isParameter (c : Char) : Bool := c.isDigit || c = ';'

/-- The rest of a text behind the control sequence in front of it, if there is one. -/
def skipSequence? : Text → Option Text
  | '\x1b' :: '[' :: rest =>
    match rest.dropWhile isParameter with
    | 'm' :: rest => some rest
    | _ => none
  | _ => none

/-- The text without its control sequences, for at most so many characters. -/
def visibleWithin : (fuel : Nat) → Text → Text
  | 0, text => text
  | _ + 1, [] => []
  | fuel + 1, c :: rest =>
    match skipSequence? (c :: rest) with
    | some rest => visibleWithin fuel rest
    | none => c :: visibleWithin fuel rest

/-- The text without its control sequences. -/
def visible (text : Text) : Text := visibleWithin text.length text

example : visible (paint brightRed "a b") = "a b".toList := by decide

end LaunchKit.Console
