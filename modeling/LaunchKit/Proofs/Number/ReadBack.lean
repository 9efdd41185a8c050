import LaunchKit.Number.Numeral
import Mathlib.Data.List.TakeWhile

/-!
# Numerals that are read back

A whole number is read back from its decimal form, and from that form within margin, unless it has
too many digits. The information separators are blanks that may not surround a number: a text with
one of them is no numeral, wherever it stands.

## Main definitions

* `Text.isSeparator`: the information separators.

## Main statements

* `Text.trimMargin_append`: trimming leaves what stands within margin.
* `Numeral.readSigned?_ofInt`: the number of a decimal form.
* `Numeral.read?_ofInt_append`: the number of a decimal form within blanks.
-/
namespace LaunchKit

namespace Text

/-! ## Margin -/

/-- The information separators, which are blanks and no margin. -/
def isSeparator (c : Char) : Bool := 0x1C ≤ c.toNat && c.toNat < 0x20

theorem isMargin_eq_true_iff {c : Char} :
    isMargin c = true ↔ isBlank c = true ∧ isSeparator c = false := by
  rw [isMargin, Bool.and_eq_true, Bool.not_eq_true', isSeparator]

/-- **Trimming leaves what stands within margin**, if no margin stands in there. -/
theorem trimMargin_append {before core behind : Text} (hbefore : ∀ c ∈ before, isMargin c = true)
    (hcore : core ≠ []) (hkept : ∀ c ∈ core, isMargin c = false)
    (hbehind : ∀ c ∈ behind, isMargin c = true) :
    trimMargin (before ++ core ++ behind) = core := by
  have hstart (text rest : Text) (hne : text ≠ []) (h : ∀ c ∈ text, isMargin c = false) :
      (text ++ rest).dropWhile isMargin = text ++ rest := by
    obtain ⟨c, others, rfl⟩ := List.exists_cons_of_ne_nil hne
    have hc : ¬isMargin c = true := by simp [h c List.mem_cons_self]
    exact List.dropWhile_cons_of_neg hc
  have hbehind' : ∀ c ∈ behind.reverse, isMargin c = true := fun c hc =>
    hbehind c (List.mem_reverse.mp hc)
  rw [trimMargin, List.append_assoc, List.dropWhile_append_of_pos hbefore,
    hstart core _ hcore hkept, List.reverse_append, List.dropWhile_append_of_pos hbehind']
  have hback := hstart core.reverse [] (by simpa using hcore)
    fun c hc => hkept c (List.mem_reverse.mp hc)
  rw [List.append_nil] at hback
  rw [hback, List.reverse_reverse]

/-- Trimming takes away nothing but margin. -/
theorem mem_trimMargin {text : Text} {c : Char} (hmem : c ∈ text) (hc : isMargin c = false) :
    c ∈ trimMargin text := by
  have hkept {front : Text} (h : c ∈ front) : c ∈ front.dropWhile isMargin := by
    rw [← List.takeWhile_append_dropWhile (p := isMargin) (l := front), List.mem_append] at h
    refine h.resolve_left fun htake => ?_
    rw [List.mem_takeWhile_imp htake] at hc
    cases hc
  rw [trimMargin, List.mem_reverse]
  exact hkept (List.mem_reverse.mpr (hkept hmem))

/-! ## Digits -/

/-- What is said of the ten digits of ASCII. -/
theorem digit_induction {p : Char → Prop} (h : ∀ digit < 10, p (Char.ofNat (0x30 + digit)))
    {c : Char} (hc : c.isDigit = true) : p c := by
  obtain ⟨hfirst, hlast⟩ : 0x30 ≤ c.toNat ∧ c.toNat ≤ 0x39 := Char.isDigit_iff_toNat.mp hc
  have hdigit := h (c.toNat - 0x30) (by omega)
  rwa [Nat.add_sub_cancel' hfirst, Char.ofNat_toNat] at hdigit

theorem decimalDigit?_of_isDigit {c : Char} (h : c.isDigit = true) :
    decimalDigit? c = some (c.toNat - 0x30) :=
  digit_induction (p := fun c => decimalDigit? c = some (c.toNat - 0x30)) (by decide) h

theorem isMargin_of_isDigit {c : Char} (h : c.isDigit = true) : isMargin c = false :=
  digit_induction (p := fun c => isMargin c = false) (by decide) h

end Text

namespace Numeral

/-! ## Reading the digits -/

/-- Digits have their values. -/
theorem digitValues?_of_isDigit {text : Text} (h : ∀ c ∈ text, c.isDigit = true)
    {afterDigit : Bool} (hafter : afterDigit = true ∨ text ≠ []) :
    digitValues? afterDigit text = some (text.map fun c => c.toNat - 0x30) := by
  induction text generalizing afterDigit with
  | nil =>
    have hafter : afterDigit = true := by simpa using hafter
    rw [digitValues?, if_pos hafter]
    rfl
  | cons c rest ih =>
    rw [List.forall_mem_cons] at h
    rw [digitValues?, Text.decimalDigit?_of_isDigit h.1]
    dsimp only
    rw [ih h.2 (Or.inl rfl)]
    rfl

/-- A text with a character that is neither a digit nor an underscore has no values. -/
theorem digitValues?_eq_none_of_mem {c : Char} (hdigit : Text.decimalDigit? c = none)
    (hc : c ≠ '_') {text : Text} (hmem : c ∈ text) (afterDigit : Bool) :
    digitValues? afterDigit text = none := by
  induction text generalizing afterDigit with
  | nil => cases hmem
  | cons d rest ih =>
    rw [digitValues?]
    rcases List.mem_cons.mp hmem with rfl | hrest
    · rw [hdigit]
      simp [hc]
    · cases Text.decimalDigit? d with
      | some value => simp [ih hrest]
      | none => simp [ih hrest]

/-! ## Reading natural numbers -/

theorem isDigit_of_mem_ofNat {n : Nat} {c : Char} (h : c ∈ ofNat n) : c.isDigit = true :=
  Nat.isDigit_of_mem_toDigits (by decide) (by decide) h

theorem ofNat_ne_nil (n : Nat) : ofNat n ≠ [] := Nat.toDigits_ne_nil

/-- The values of the digits of a number make the number. -/
theorem ofDigitValues_ofNat (n : Nat) :
    ofDigitValues ((ofNat n).map fun c => c.toNat - 0x30) = n := by
  have hstep : (fun (n : Nat) (c : Char) => n * 10 + (c.toNat - 0x30)) =
      fun n c => 10 * n + (c.toNat - '0'.toNat) := by
    funext n c
    rw [Nat.mul_comm]
    rfl
  rw [ofDigitValues, List.foldl_map, hstep, ← Nat.ofDigitChars_eq_foldl]
  exact Nat.ofDigitChars_toDigits (by decide) (by decide)

/-- A natural number is read back. -/
theorem readNat?_ofNat {n : Nat} (h : (ofNat n).length ≤ digitLimit) :
    readNat? (ofNat n) = some n := by
  have hvalues : digitValues? false (ofNat n) = some ((ofNat n).map fun c => c.toNat - 0x30) :=
    digitValues?_of_isDigit (fun _ => isDigit_of_mem_ofNat) (Or.inr (ofNat_ne_nil n))
  rw [readNat?, hvalues]
  dsimp only
  rw [List.length_map, if_pos h, ofDigitValues_ofNat]

/-- A numeral without a character that is neither a digit nor an underscore. -/
theorem readNat?_eq_none_of_mem {c : Char} (hdigit : Text.decimalDigit? c = none) (hc : c ≠ '_')
    {text : Text} (hmem : c ∈ text) : readNat? text = none := by
  rw [readNat?, digitValues?_eq_none_of_mem hdigit hc hmem]

/-! ## Reading whole numbers -/

/-- A text that does not start with a sign is read as a natural number. -/
theorem readSigned?_of_head {c : Char} (hminus : c ≠ '-') (hplus : c ≠ '+') (rest : Text) :
    readSigned? (c :: rest) = (readNat? (c :: rest)).map Int.ofNat := by
  rw [readSigned?]
  · rintro _ ⟨rfl, -⟩
    exact hminus rfl
  · rintro _ ⟨rfl, -⟩
    exact hplus rfl

/-- **A whole number is read back** from its decimal form. -/
theorem readSigned?_ofInt {n : Int} (h : (ofNat n.natAbs).length ≤ digitLimit) :
    readSigned? (ofInt n) = some n := by
  rw [ofInt]
  split
  · next hnegative =>
    rw [readSigned?, readNat?_ofNat h]
    have hn : -(n.natAbs : Int) = n := by omega
    exact congrArg some hn
  · next hnegative =>
    obtain ⟨c, rest, heq⟩ := List.exists_cons_of_ne_nil (ofNat_ne_nil n.natAbs)
    have hc : c.isDigit = true := isDigit_of_mem_ofNat (by rw [heq]; exact List.mem_cons_self)
    have hread := readNat?_ofNat h
    rw [heq] at hread ⊢
    have hminus : c ≠ '-' := by
      rintro rfl
      cases hc
    have hplus : c ≠ '+' := by
      rintro rfl
      cases hc
    rw [readSigned?_of_head hminus hplus, hread]
    exact congrArg some (Int.natAbs_of_nonneg (by omega))

/-- A text with a character that has no place in a numeral is not read. -/
theorem readSigned?_eq_none_of_mem {c : Char} (hdigit : Text.decimalDigit? c = none)
    (hmark : c ∉ ['_', '-', '+']) {text : Text} (hmem : c ∈ text) : readSigned? text = none := by
  simp only [List.mem_cons, List.not_mem_nil, or_false, not_or] at hmark
  have hnone {rest : Text} (h : c ∈ rest) : readNat? rest = none :=
    readNat?_eq_none_of_mem hdigit hmark.1 h
  unfold readSigned?
  split
  · rw [hnone ((List.mem_cons.mp hmem).resolve_left hmark.2.1)]
    rfl
  · rw [hnone ((List.mem_cons.mp hmem).resolve_left hmark.2.2)]
    rfl
  · rw [hnone hmem]
    rfl

/-! ## Reading within blanks -/

theorem isMargin_of_mem_ofInt {n : Int} {c : Char} (h : c ∈ ofInt n) :
    Text.isMargin c = false := by
  rw [ofInt] at h
  split at h
  · rcases List.mem_cons.mp h with rfl | hmem
    · decide
    · exact Text.isMargin_of_isDigit (isDigit_of_mem_ofNat hmem)
  · exact Text.isMargin_of_isDigit (isDigit_of_mem_ofNat h)

theorem ofInt_ne_nil (n : Int) : ofInt n ≠ [] := by
  rw [ofInt]
  split
  · exact List.cons_ne_nil _ _
  · exact ofNat_ne_nil _

/-- An information separator has no place in a numeral. -/
theorem read?_eq_none_of_isSeparator {c : Char} (hc : Text.isSeparator c = true) {text : Text}
    (hmem : c ∈ text) : read? text = none := by
  rw [Text.isSeparator, Bool.and_eq_true, decide_eq_true_eq, decide_eq_true_eq] at hc
  obtain ⟨hfirst, hlast⟩ := hc
  have hall : ∀ n < 0x20, 0x1C ≤ n → Text.isMargin (Char.ofNat n) = false ∧
      Text.decimalDigit? (Char.ofNat n) = none ∧ Char.ofNat n ∉ ['_', '-', '+'] := by
    decide
  obtain ⟨hmargin, hdigit, hmark⟩ := hall c.toNat hlast hfirst
  rw [Char.ofNat_toNat] at hmargin hdigit hmark
  exact readSigned?_eq_none_of_mem hdigit hmark (Text.mem_trimMargin hmem hmargin)

/-- **A whole number within blanks.** It is read back from its decimal form, unless an information
separator is among the blanks: then nothing is read. -/
theorem read?_ofInt_append {n : Int} (h : (ofNat n.natAbs).length ≤ digitLimit)
    {before behind : Text} (hblank : (before ++ behind).all Text.isBlank = true) :
    read? (before ++ ofInt n ++ behind) =
      if (before ++ behind).any Text.isSeparator then none else some n := by
  split
  · next hseparator =>
    obtain ⟨c, hmem, hc⟩ := List.any_eq_true.mp hseparator
    refine read?_eq_none_of_isSeparator hc ?_
    rcases List.mem_append.mp hmem with hbefore | hbehind
    · exact List.mem_append_left _ (List.mem_append_left _ hbefore)
    · exact List.mem_append_right _ hbehind
  · next hseparator =>
    rw [Bool.not_eq_true, List.any_eq_false] at hseparator
    have hmargin (c : Char) (hmem : c ∈ before ++ behind) : Text.isMargin c = true :=
      Text.isMargin_eq_true_iff.mpr
        ⟨List.all_eq_true.mp hblank c hmem, Bool.not_eq_true _ ▸ hseparator c hmem⟩
    have htrim := Text.trimMargin_append
      (fun c hmem => hmargin c (List.mem_append_left _ hmem)) (ofInt_ne_nil n)
      (fun _ => isMargin_of_mem_ofInt) fun c hmem => hmargin c (List.mem_append_right _ hmem)
    rw [read?, htrim, readSigned?_ofInt h]

end Numeral
end LaunchKit
