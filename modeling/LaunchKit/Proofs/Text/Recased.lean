import LaunchKit.Proofs.Text.Lowered
import Mathlib.Data.List.Forall2

/-!
# Texts that differ in the case of ASCII letters

Two texts that are the same but for the case of ASCII letters have one image under the map that
lowers those letters and leaves all else alone. That map goes through all characters one by one,
unlike lowering, which looks at neighbours and makes images of several characters. Lowering does not
notice it: an ASCII letter counts as a cased neighbour in either case, and none of them is passed
over in the search for one.

## Main definitions

* `Text.IsCaseVariant`: two texts that differ in the case of ASCII letters.
* `Text.IsRecasing`: maps of characters that change the case of letters at most.

## Main statements

* `Text.IsCaseVariant.map_toLower_eq`: the common image.
* `Text.isRecasing_toLower`: lowering of ASCII letters changes the case of letters only.
* `Text.lower_map_toLower`: lowering does not notice it.
* `Text.lowerAfter_eq_iff_isCaseVariant`: what is lowered to a word of small ASCII letters.
-/
namespace LaunchKit.Text

/-- Two texts of one length that have the same character at each place, or the same ASCII letter in
either case: `Char.toLower` and `Char.toUpper` leave all other characters alone. -/
def IsCaseVariant (first second : Text) : Prop :=
  List.Forall₂ (fun c d => d = c ∨ d = c.toLower ∨ d = c.toUpper) first second

instance (first second : Text) : Decidable (IsCaseVariant first second) :=
  inferInstanceAs (Decidable (List.Forall₂ _ first second))

/-- A map of characters that changes the case of letters at most. -/
structure IsRecasing (f : Char → Char) : Prop where
  mark : ∀ {m : Char}, isMark m = true → ∀ c, f c = m ↔ c = m
  alpha : ∀ c, (f c).isAlpha = c.isAlpha
  upper : ∀ c, (f c).toUpper = c.toUpper

/-! ## Characters -/

theorem toLower_of_beyond_ascii {c : Char} (h : ¬c.toNat < 128) : c.toLower = c := by
  have hnot : ¬(c.val ≥ 'A'.val ∧ c.val ≤ 'Z'.val) := by
    rintro ⟨-, hle⟩
    have hle : c.toNat ≤ 90 := UInt32.le_iff_toNat_le.mp hle
    omega
  unfold Char.toLower
  exact dif_neg hnot

theorem toUpper_of_beyond_ascii {c : Char} (h : ¬c.toNat < 128) : c.toUpper = c := by
  have hnot : ¬(c.val ≥ 'a'.val ∧ c.val ≤ 'z'.val) := by
    rintro ⟨-, hle⟩
    have hle : c.toNat ≤ 122 := UInt32.le_iff_toNat_le.mp hle
    omega
  unfold Char.toUpper
  exact dif_neg hnot

/-- What does not change when a character of ASCII is lowered does not change for any character. -/
theorem apply_toLower_eq {α : Type} (p : Char → α)
    (h : ∀ n < 128, p (Char.ofNat n).toLower = p (Char.ofNat n)) (c : Char) :
    p c.toLower = p c := by
  by_cases hc : c.toNat < 128
  · have heq := h c.toNat hc
    rwa [Char.ofNat_toNat] at heq
  · rw [toLower_of_beyond_ascii hc]

theorem toLower_toLower (c : Char) : c.toLower.toLower = c.toLower :=
  apply_toLower_eq Char.toLower (by decide +kernel) c

theorem toLower_toUpper (c : Char) : c.toUpper.toLower = c.toLower := by
  by_cases hc : c.toNat < 128
  · have hall : ∀ n < 128, (Char.ofNat n).toUpper.toLower = (Char.ofNat n).toLower := by
      decide +kernel
    have heq := hall c.toNat hc
    rwa [Char.ofNat_toNat] at heq
  · rw [toUpper_of_beyond_ascii hc]

theorem toLower_of_isMark {c : Char} (h : isMark c = true) : c.toLower = c :=
  (ascii_toLower (toNat_lt_of_isMark h)).2.2.2.2 h

/-- **Lowering of ASCII letters changes the case of letters only.** -/
theorem isRecasing_toLower : IsRecasing Char.toLower where
  mark {m} hm c := by
    have hsame : isMark c.toLower = isMark c := apply_toLower_eq isMark (by decide +kernel) c
    constructor
    · rintro rfl
      exact (toLower_of_isMark (hsame ▸ hm)).symm
    · rintro rfl
      exact toLower_of_isMark hm
  alpha := apply_toLower_eq Char.isAlpha (by decide +kernel)
  upper := apply_toLower_eq Char.toUpper (by decide +kernel)

/-! ## Texts -/

/-- **The common image** of two texts that differ in the case of ASCII letters. -/
theorem IsCaseVariant.map_toLower_eq {first second : Text} (h : IsCaseVariant first second) :
    first.map Char.toLower = second.map Char.toLower := by
  induction h with
  | nil => rfl
  | cons hc _ ih =>
    rw [List.map_cons, List.map_cons, ih]
    rcases hc with rfl | rfl | rfl
    · rfl
    · rw [toLower_toLower]
    · rw [toLower_toUpper]

namespace IsRecasing

variable {f : Char → Char} (hf : IsRecasing f)
include hf

theorem apply_mark {mark : Char} (hmark : isMark mark = true) : f mark = mark :=
  (hf.mark hmark mark).mpr rfl

/-- A mark stands in the mapped text where it stood before. -/
theorem mem_map_iff {mark : Char} (hmark : isMark mark = true) {text : Text} :
    mark ∈ text.map f ↔ mark ∈ text := by
  simp only [List.mem_map, hf.mark hmark, exists_eq_right]

/-- A text of marks is the image of itself only. -/
theorem map_eq_iff_of_marks {marks : Text} (h : marks.all isMark = true) {text : Text} :
    text.map f = marks ↔ text = marks := by
  induction text generalizing marks with
  | nil => rfl
  | cons c text ih =>
    cases marks with
    | nil => simp
    | cons mark marks =>
      rw [List.all_cons, Bool.and_eq_true] at h
      rw [List.map_cons, List.cons.injEq, List.cons.injEq, hf.mark h.1, ih h.2]

/-- The pieces between marks are mapped each by itself. -/
theorem splitOn_map {mark : Char} (hmark : isMark mark = true) (text : Text) :
    (text.map f).splitOn mark = (text.splitOn mark).map (List.map f) := by
  induction text with
  | nil => rfl
  | cons c text ih =>
    obtain ⟨first, others, hsplit⟩ :=
      List.exists_cons_of_ne_nil (List.splitOn_ne_nil mark text)
    rw [hsplit] at ih
    rw [List.map_cons, List.splitOn_cons_eq_if_modifyHead, List.splitOn_cons_eq_if_modifyHead,
      ih, hsplit]
    by_cases hc : c = mark
    · simp [hc, hf.apply_mark hmark]
    · have hc' : f c ≠ mark := mt (hf.mark hmark c).mp hc
      simp [hc, hc']

end IsRecasing

/-- Joined texts are mapped each by itself, and so is what stands between them. -/
theorem map_intercalate (f : Char → Char) (between : Text) (pieces : List Text) :
    (List.intercalate between pieces).map f =
      List.intercalate (between.map f) (pieces.map (List.map f)) := by
  induction pieces with
  | nil => rfl
  | cons piece pieces ih =>
    cases pieces with
    | nil => simp
    | cons next pieces =>
      rw [List.intercalate_cons_cons, List.map_append, List.map_append, ih]
      simp

/-! ## Lowering -/

theorem isCaseIgnorable_toLower (c : Char) : isCaseIgnorable c.toLower = isCaseIgnorable c :=
  apply_toLower_eq isCaseIgnorable (by decide +kernel) c

theorem isCased_toLower (c : Char) : isCased c.toLower = isCased c :=
  apply_toLower_eq isCased (by decide +kernel) c

theorem lowerImage_toLower (c : Char) : lowerImage c.toLower = lowerImage c :=
  apply_toLower_eq lowerImage (by decide +kernel) c

theorem toLower_eq_sigma_iff (c : Char) : c.toLower = 'Σ' ↔ c = 'Σ' := by
  have hsame : decide (c.toLower = 'Σ') = decide (c = 'Σ') :=
    apply_toLower_eq (fun d => decide (d = 'Σ')) (by decide +kernel) c
  simpa using hsame

theorem startsCased_map_toLower (text : Text) :
    startsCased (text.map Char.toLower) = startsCased text := by
  have hdrop : (text.map Char.toLower).dropWhile isCaseIgnorable =
      (text.dropWhile isCaseIgnorable).map Char.toLower := by
    rw [List.dropWhile_map]
    simp only [Function.comp_def, isCaseIgnorable_toLower]
  rw [startsCased, startsCased, hdrop]
  cases text.dropWhile isCaseIgnorable with
  | nil => rfl
  | cons c rest => exact isCased_toLower c

/-- What stands before and behind a character counts the same in either case. -/
theorem lowerAfter_map_toLower (cased : Bool) (text : Text) :
    lowerAfter cased (text.map Char.toLower) = lowerAfter cased text := by
  induction text generalizing cased with
  | nil => rfl
  | cons c text ih =>
    rw [List.map_cons, lowerAfter, lowerAfter, ih, startsCased_map_toLower, lowerImage_toLower,
      isCaseIgnorable_toLower, isCased_toLower]
    simp only [toLower_eq_sigma_iff]

/-- **Lowering does not notice the case of ASCII letters.** -/
theorem lower_map_toLower (text : Text) : lower (text.map Char.toLower) = lower text :=
  lowerAfter_map_toLower false text

/-- The characters that are lowered to a small letter by ASCII are its two cases. -/
theorem toLower_eq_iff {c d : Char} (hc : c.toLower = c) :
    d.toLower = c ↔ d = c ∨ d = c.toLower ∨ d = c.toUpper := by
  constructor
  · rintro rfl
    by_cases hd : d.toNat < 128
    · have hall : ∀ n < 128, Char.ofNat n = (Char.ofNat n).toLower ∨
          Char.ofNat n = (Char.ofNat n).toLower.toUpper := by
        decide +kernel
      have hcases := hall d.toNat hd
      rw [Char.ofNat_toNat] at hcases
      exact hcases.imp_right Or.inr
    · exact Or.inl (toLower_of_beyond_ascii hd).symm
  · rintro (rfl | rfl | rfl)
    · exact hc
    · rw [hc, hc]
    · rw [toLower_toUpper, hc]

/-- A small character of ASCII that is no image of one beyond: all but `k`. -/
def isOwnSmall (c : Char) : Bool := decide (c.toNat < 128) && c.toLower == c && c != 'k'

/-- **What is lowered to a word** of such characters is that word in any case of its letters. The
dotted capital I is lowered to an `i` with a mark behind it, which is beyond ASCII. -/
theorem lowerAfter_eq_iff_isCaseVariant {word : Text} (h : word.all isOwnSmall = true)
    {cased : Bool} {text : Text} : lowerAfter cased text = word ↔ IsCaseVariant word text := by
  induction text generalizing cased word with
  | nil =>
    rw [lowerAfter, IsCaseVariant, List.forall₂_nil_right_iff]
    exact eq_comm
  | cons c rest ih =>
    obtain ⟨image, cased', himage, hcons⟩ := exists_lowerAfter_cons cased c rest
    rw [hcons]
    cases word with
    | nil => simp [himage.ne_nil, IsCaseVariant]
    | cons first word =>
      rw [List.all_cons, Bool.and_eq_true, isOwnSmall, Bool.and_eq_true, Bool.and_eq_true,
        decide_eq_true_eq, beq_iff_eq, bne_iff_ne] at h
      obtain ⟨⟨⟨hascii, hsmall⟩, hk⟩, hword⟩ := h
      have hvariant : IsCaseVariant (first :: word) (c :: rest) ↔
          c.toLower = first ∧ IsCaseVariant word rest := by
        rw [IsCaseVariant, List.forall₂_cons, toLower_eq_iff hsmall]
        rfl
      rw [hvariant]
      by_cases hc : c.toNat < 128
      · rw [himage.of_ascii hc, List.singleton_append, List.cons.injEq, ih hword]
      · have hne' : c.toLower ≠ first := by
          rw [toLower_of_beyond_ascii hc]
          rintro rfl
          exact hc hascii
        refine iff_of_false (fun heq => ?_) fun hand => hne' hand.1
        by_cases hdotted : c = 'İ'
        · rw [himage.dotted hdotted, List.cons_append, List.cons_append, List.cons.injEq] at heq
          rw [← heq.2, List.all_cons, Bool.and_eq_true] at hword
          exact absurd hword.1 (by decide)
        · obtain ⟨d, hd⟩ := himage.single hdotted
          have hkelvin := himage.kelvin hc hdotted
          rw [hd, List.singleton_append, List.cons.injEq] at heq
          rw [hd, List.forall_mem_singleton, heq.1] at hkelvin
          exact hk (hkelvin hascii)

end LaunchKit.Text
