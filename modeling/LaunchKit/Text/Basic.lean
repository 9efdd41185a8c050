/-!
# Texts

A text is a list of characters. Lengths, cuts and paddings count characters, whatever they take in
an encoding, and every rule of this library that speaks of "the next character" is a rule about
the head of such a list.

## Main definitions

* `Text`: lists of characters, with literals read as texts.
* `Text.replaceEach`: a text in place of every occurrence of a character.
* `Text.padRight`, `Text.padLeft`: layout in columns.
* `Text.clip`: cutting at a signed length.
* `Text.dropOpening?`, `Text.dropEnding?`: a text without a given beginning or end.
-/
namespace LaunchKit

/-- A sequence of characters. -/
abbrev Text := List Char

/-- A literal stands for the list of its characters. -/
instance : Coe String Text := ⟨String.toList⟩

namespace Text

/-- A length that is more than the memory holds. -/
def lengthLimit : Nat := 0x80000000

/-- Every occurrence of `target` becomes `image`. -/
def replaceEach (target : Char) (image : Text) (text : Text) : Text :=
  text.flatMap fun c => if c = target then image else [c]

@[simp] theorem replaceEach_nil (target : Char) (image : Text) :
    replaceEach target image [] = [] := rfl

@[simp] theorem replaceEach_cons (target : Char) (image : Text) (c : Char) (rest : Text) :
    replaceEach target image (c :: rest) =
      (if c = target then image else [c]) ++ replaceEach target image rest := rfl

/-! ## Columns -/

/-- The text filled up with blanks on the right to the given width. -/
def padRight (width : Nat) (text : Text) : Text :=
  text ++ List.replicate (width - text.length) ' '

/-- The text filled up on the left to the given width. -/
def padLeft (fill : Char) (width : Nat) (text : Text) : Text :=
  List.replicate (width - text.length) fill ++ text

/-! ## Cuts -/

/-- The first `length` characters; a negative length leaves out that many at the end. -/
def clip (length : Int) (text : Text) : Text :=
  if length < 0 then text.take (text.length - length.natAbs) else text.take length.toNat

/-- The rest of a text that begins with `opening`. -/
def dropOpening? : (opening text : Text) → Option Text
  | [], text => some text
  | _ :: _, [] => none
  | c :: opening, d :: text => if c = d then dropOpening? opening text else none

/-- The front of a text that ends in `ending`. -/
def dropEnding? (ending text : Text) : Option Text :=
  (dropOpening? ending.reverse text.reverse).map List.reverse

/-- Taking the opening away is the inverse of putting it there. -/
theorem dropOpening?_eq_some {opening text rest : Text} :
    dropOpening? opening text = some rest ↔ text = opening ++ rest := by
  induction opening generalizing text with
  | nil => simp [dropOpening?]
  | cons c opening ih =>
    cases text with
    | nil => simp [dropOpening?]
    | cons d text =>
      by_cases h : c = d
      · subst h; simp [dropOpening?, ih]
      · simp [dropOpening?, h, Ne.symm h]

/-! ## Pieces -/

/-- No piece of a text that is split at a mark holds the mark. -/
theorem not_mem_of_mem_splitOn {mark : Char} {text piece : Text} (h : piece ∈ text.splitOn mark) :
    mark ∉ piece := by
  induction text generalizing piece with
  | nil =>
    have heq : piece = [] := by simpa using h
    simp [heq]
  | cons c text ih =>
    rw [List.splitOn_cons_eq_if_modifyHead] at h
    obtain ⟨first, others, hsplit⟩ :=
      List.exists_cons_of_ne_nil (List.splitOn_ne_nil mark text)
    rw [hsplit] at h ih
    by_cases hc : c = mark
    · rw [if_pos (by simp [hc])] at h
      rcases List.mem_cons.mp h with rfl | hmem
      · simp
      · exact ih hmem
    · rw [if_neg (by simp [hc]), List.modifyHead_cons] at h
      rcases List.mem_cons.mp h with rfl | hmem
      · have hfirst := ih List.mem_cons_self
        simp [Ne.symm hc, hfirst]
      · exact ih (List.mem_cons_of_mem _ hmem)

end Text
end LaunchKit
