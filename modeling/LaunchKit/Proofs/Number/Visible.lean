import LaunchKit.Number.Decimal
import LaunchKit.Proofs.Number.ReadBack
import LaunchKit.Proofs.Text.Escaped

/-!
# Written numbers

Whole numbers and floating point numbers are written in visible characters of ASCII: digits, signs,
a point, and the letters of a power of ten and of the values that are no numbers.

## Main statements

* `Numeral.isVisible_ofInt`: whole numbers.
* `Binary64.isVisible_shortestText`: floating point numbers in their shortest form.
-/
namespace LaunchKit

open Text (IsVisible)

/-! ## Whole numbers -/

namespace Numeral

theorem isVisible_ofNat (n : Nat) : ∀ c ∈ ofNat n, IsVisible c := fun _ hc =>
  Text.digit_induction (by decide) (isDigit_of_mem_ofNat hc)

/-- **Whole numbers.** -/
theorem isVisible_ofInt (n : Int) : ∀ c ∈ ofInt n, IsVisible c := by
  rw [ofInt]
  split
  · exact List.forall_mem_cons.mpr ⟨by decide, isVisible_ofNat _⟩
  · exact isVisible_ofNat _

end Numeral

/-! ## Decimal forms -/

theorem Text.isVisible_padLeft {fill : Char} (hfill : IsVisible fill) (width : Nat) {text : Text}
    (h : ∀ c ∈ text, IsVisible c) : ∀ c ∈ padLeft fill width text, IsVisible c := by
  rw [padLeft, List.forall_mem_append]
  exact ⟨fun c hc => List.eq_of_mem_replicate hc ▸ hfill, h⟩

namespace Decimal

theorem isVisible_text (d : Decimal) : ∀ c ∈ d.text, IsVisible c :=
  Text.isVisible_padLeft (by decide) _ (Numeral.isVisible_ofNat _)

theorem isVisible_zeros (count : Nat) : ∀ c ∈ List.replicate count '0', IsVisible c := by
  intro c hc
  rw [List.eq_of_mem_replicate hc]
  decide

theorem isVisible_positional (d : Decimal) (padded : Bool) :
    ∀ c ∈ d.positional padded, IsVisible c := by
  have hdigits := d.isVisible_text
  rw [positional]
  split
  · rw [List.forall_mem_append, List.forall_mem_append]
    exact ⟨⟨Text.isVisible_of_all rfl, isVisible_zeros _⟩, hdigits⟩
  split
  · rw [List.forall_mem_append, List.forall_mem_append]
    refine ⟨⟨hdigits, isVisible_zeros _⟩, ?_⟩
    cases padded <;> exact Text.isVisible_of_all rfl
  · rw [List.forall_mem_append, List.forall_mem_cons]
    exact ⟨fun c hc => hdigits c (List.mem_of_mem_take hc), by decide,
      fun c hc => hdigits c (List.mem_of_mem_drop hc)⟩

theorem isVisible_scientific (d : Decimal) (keepPoint : Bool) :
    ∀ c ∈ d.scientific keepPoint, IsVisible c := by
  have hdigits := d.isVisible_text
  have hsign (exponent : Int) : IsVisible (if exponent < 0 then '-' else '+') := by
    split <;> decide
  rw [scientific, exponentText, List.forall_mem_append, List.forall_mem_append,
    List.forall_mem_cons, List.forall_mem_cons]
  refine ⟨⟨fun c hc => hdigits c (List.mem_of_mem_take hc), ?_⟩, by decide, hsign _,
    Text.isVisible_padLeft (by decide) _ (Numeral.isVisible_ofNat _)⟩
  split
  · exact List.forall_mem_cons.mpr ⟨by decide, fun c hc => hdigits c (List.mem_of_mem_drop hc)⟩
  · exact List.forall_mem_nil _

end Decimal

/-! ## Floating point numbers -/

namespace Binary64

/-- A sign and the names of the values that are no numbers are visible. -/
theorem isVisible_signedText (x : Binary64) {body : Nat → Int → Text}
    (hbody : ∀ coefficient exponent, ∀ c ∈ body coefficient exponent, IsVisible c) :
    ∀ c ∈ x.signedText body, IsVisible c := by
  have hsign : ∀ c ∈ (if x.isNegative then ['-'] else [] : Text), IsVisible c := by
    cases x.isNegative <;> exact Text.isVisible_of_all rfl
  rw [signedText.eq_def]
  cases x with
  | nan => exact Text.isVisible_of_all rfl
  | infinite negative => exact List.forall_mem_append.mpr ⟨hsign, Text.isVisible_of_all rfl⟩
  | finite negative coefficient exponent =>
    exact List.forall_mem_append.mpr ⟨hsign, hbody coefficient exponent⟩

/-- **Floating point numbers** in their shortest form. -/
theorem isVisible_shortestText (x : Binary64) : ∀ c ∈ x.shortestText, IsVisible c := by
  refine isVisible_signedText x fun coefficient exponent => ?_
  dsimp only
  split
  · exact Decimal.isVisible_positional _ _
  · exact Decimal.isVisible_scientific _ _

end Binary64
end LaunchKit
