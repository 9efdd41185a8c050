import LaunchKit.Diagnostics

/-!
# Arguments as they are shown

A template is read once, before any argument is looked at. What an argument is shown as stands in
the text as it is: percent signs and line ends in it mean nothing, and no such template fails on
arguments that can be shown.

## Main statements

* `Template.expandPieces_literals`, `Template.expandDirective_of_convert`: the pieces of a template.
* `Template.convert_display`, `Template.convert_literal`: the two conversions that show an argument.
* `Diagnostics.print_display`: an argument on the error stream.
-/
namespace LaunchKit

variable [Room]

namespace Template

variable {arguments : TemplateArguments} {value : Value} {shown : Text}

/-- Literal pieces stand for themselves, and no argument is taken. -/
theorem expandPieces_literals {pieces : List Piece} {waiting left : List Value}
    (h : expandPieces arguments pieces waiting = .ok (shown, left)) (text : Text) :
    expandPieces arguments (text.map .literal ++ pieces) waiting = .ok (text ++ shown, left) := by
  induction text with
  | nil => exact h
  | cons c text ih =>
    rw [List.map_cons, List.cons_append, expandPieces, ih]
    rfl

/-- A directive stands for what its argument is shown as, and the arguments behind it are left. -/
theorem expandPieces_directive {directive : Directive} {pieces : List Piece}
    {waiting next left : List Value} {rest : Text}
    (hdirective : expandDirective arguments directive waiting = .ok (shown, next))
    (h : expandPieces arguments pieces next = .ok (rest, left)) :
    expandPieces arguments (.directive directive :: pieces) waiting =
      .ok (shown ++ rest, left) := by
  rw [expandPieces, hdirective]
  change (expandPieces arguments pieces next >>= _) = _
  rw [h]
  rfl

/-- A directive that has nothing but a conversion takes the next argument. -/
theorem expandDirective_of_convert {letter : Char} {place : Nat}
    (h : convert {} none letter place value = .ok { body := shown }) (waiting : List Value) :
    expandDirective arguments { conversion := some letter, place } (value :: waiting) =
      .ok (shown, waiting) := by
  change (convert {} none letter place value >>= _) = _
  rw [h]
  change Except.ok (layout {} none { body := shown }, waiting) = _
  simp [layout]

theorem convert_display (h : value.display = .ok shown) (place : Nat) :
    convert {} none 's' place value = .ok { body := shown } := by
  change (borrowed value.display >>= _) = _
  rw [h]
  rfl

theorem convert_literal (h : value.literal = .ok shown) (place : Nat) :
    convert {} none 'r' place value = .ok { body := shown } := by
  change (borrowed value.literal >>= _) = _
  rw [h]
  rfl

/-- Of pieces that use up the arguments, the text is what is shown. -/
theorem expand_of_expandPieces {template : Text} {values : List Value}
    (h : expandPieces (.sequence values) (parse template) values = .ok (shown, [])) :
    expand template (.sequence values) = .ok shown := by
  change (expandPieces (.sequence values) (parse template) values >>= _) = _
  rw [h]
  rfl

end Template

open Template

/-- **An argument on the error stream** stands there as it is shown, whatever signs it holds. -/
theorem Diagnostics.print_display {value : Value} {shown : Text} (h : value.display = .ok shown) :
    print "%s" [value] = ⟨.ok (), [], line shown⟩ := by
  have hparse : parse "%s" = [.directive { conversion := some 's', place := 1 }] := by decide
  have hpieces : expandPieces (.sequence [value]) (parse "%s") [value] = .ok (shown ++ [], []) := by
    rw [hparse]
    exact expandPieces_directive (expandDirective_of_convert (convert_display h 1) []) rfl
  rw [List.append_nil] at hpieces
  have hmessage : message "%s" [value] = .ok shown := expand_of_expandPieces hpieces
  rw [print, hmessage]

end LaunchKit
