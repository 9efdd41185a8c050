import LaunchKit.Text.Basic

/-!
# Message templates

A template is a text in which directives stand for arguments. A directive is a percent sign, the
key of a mapping in parentheses, flags, a least width, a precision behind a point, a length letter
without meaning, and the letter of a conversion; all but the first and the last may be missing. A
doubled percent sign stands for itself.

Reading a template never fails: a directive that the template cuts off is read as one without a
conversion, and what is wrong with it shows when an argument is due.

## Main definitions

* `Directive`, `Piece`: the parts of a template.
* `Template.parse`: the pieces of a template.
-/
namespace LaunchKit

/-- A width or a precision: missing, given, or taken from the arguments. -/
inductive Extent where
  | absent
  | given (n : Nat)
  | argument
  deriving DecidableEq, Repr

/-- The flags of a directive. -/
structure Flags where
  left : Bool := false
  plus : Bool := false
  blank : Bool := false
  alternate : Bool := false
  zeros : Bool := false
  deriving DecidableEq, Repr

/-- The key of a directive: none, a name, or an opening parenthesis that is never closed. -/
inductive KeyPart where
  | absent
  | named (key : Text)
  | unclosed
  deriving DecidableEq, Repr

/-- A directive; `place` is the index of the letter of its conversion in the template. -/
structure Directive where
  key : KeyPart := .absent
  flags : Flags := {}
  width : Extent := .absent
  precision : Extent := .absent
  conversion : Option Char := none
  place : Nat := 0
  deriving DecidableEq, Repr

/-- A part of a template. -/
inductive Piece where
  | literal (c : Char)
  | directive (d : Directive)
  deriving DecidableEq, Repr

namespace Template

/-- A key up to the parenthesis that closes it, `depth` others being open. -/
def spanKey? (depth : Nat) : Text → Option (Text × Text)
  | [] => none
  | c :: rest =>
    if c = ')' then
      match depth with
      | 0 => some ([], rest)
      | depth + 1 => (spanKey? depth rest).map fun (key, rest) => (c :: key, rest)
    else
      (spanKey? (if c = '(' then depth + 1 else depth) rest).map fun (key, rest) => (c :: key, rest)

/-- The key in front of a text. -/
def spanKey : Text → KeyPart × Text
  | '(' :: rest =>
    match spanKey? 0 rest with
    | some (key, rest) => (.named key, rest)
    | none => (.unclosed, [])
  | text => (.absent, text)

/-- The flags in front of a text, in any order and number. -/
def spanFlags (flags : Flags) : Text → Flags × Text
  | [] => (flags, [])
  | c :: rest =>
    if c = '-' then spanFlags { flags with left := true } rest
    else if c = '+' then spanFlags { flags with plus := true } rest
    else if c = ' ' then spanFlags { flags with blank := true } rest
    else if c = '#' then spanFlags { flags with alternate := true } rest
    else if c = '0' then spanFlags { flags with zeros := true } rest
    else (flags, c :: rest)

/-- The extent in front of a text; no digits stand for `missing`. -/
def spanExtent (missing : Extent) : Text → Extent × Text
  | '*' :: rest => (.argument, rest)
  | text =>
    let digits := text.takeWhile Char.isDigit
    (if digits.isEmpty then missing else .given (Nat.ofDigitChars 10 digits 0),
      text.dropWhile Char.isDigit)

/-- The precision in front of a text; a point alone stands for zero. -/
def spanPrecision : Text → Extent × Text
  | '.' :: rest => spanExtent (.given 0) rest
  | text => (.absent, text)

/-- The text without one length letter in front. -/
def skipLength : Text → Text
  | c :: rest => if c = 'h' ∨ c = 'l' ∨ c = 'L' then rest else c :: rest
  | [] => []

/-- The directive in front of a text that is the end of a template of the given length. -/
def spanDirective (total : Nat) (text : Text) : Directive × Text :=
  let (key, text) := spanKey text
  let (flags, text) := spanFlags {} text
  let (width, text) := spanExtent .absent text
  let (precision, text) := spanPrecision text
  match skipLength text with
  | [] => ({ key, flags, width, precision }, [])
  | c :: rest =>
    ({ key, flags, width, precision, conversion := some c, place := total - rest.length - 1 }, rest)

/-- The pieces of a text that is the end of a template of the given length. Each piece takes at
least one character, so the count of characters is enough fuel. -/
def piecesOf (total : Nat) : (fuel : Nat) → Text → List Piece
  | 0, _ => []
  | _ + 1, [] => []
  | fuel + 1, c :: rest =>
    if c = '%' then
      match rest with
      | '%' :: rest => .literal '%' :: piecesOf total fuel rest
      | rest =>
        let (directive, rest) := spanDirective total rest
        .directive directive :: piecesOf total fuel rest
    else .literal c :: piecesOf total fuel rest

/-- The pieces of a template. -/
def parse (template : Text) : List Piece := piecesOf template.length template.length template

example : parse "%-5.2lf" = [.directive
    { flags := { left := true }, width := .given 5, precision := .given 2,
      conversion := some 'f', place := 6 }] := by decide

end Template
end LaunchKit
