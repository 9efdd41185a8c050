import LaunchKit.Text.Quoted

/-!
# Escaped texts

A quoted text shows printable characters as they are and escapes all others, so that nothing in it
can end a line or move a cursor. Escapes are made of visible characters of ASCII, which are
printable.

## Main definitions

* `Text.IsVisible`: the visible characters of ASCII, with the blank.
* `Text.IsControl`: the control characters.

## Main statements

* `Text.not_isControl_of_isPrintable`: no control character is printable.
* `Text.isPrintable_quoted`: quoted texts consist of printable characters.
* `Text.forall_mem_commaList`: what is said of the characters of a list of texts.
-/
namespace LaunchKit.Text

/-! ## Characters -/

/-- A visible character of ASCII, or the blank. -/
def IsVisible (c : Char) : Prop := 0x20 ≤ c.toNat ∧ c.toNat < 0x7F

instance (c : Char) : Decidable (IsVisible c) :=
  inferInstanceAs (Decidable (_ ∧ _))

/-- A control character, of ASCII or of the block behind it. -/
def IsControl (c : Char) : Prop := c.toNat < 0x20 ∨ 0x7F ≤ c.toNat ∧ c.toNat < 0xA0

instance (c : Char) : Decidable (IsControl c) :=
  inferInstanceAs (Decidable (_ ∨ _))

/-- Whether all characters of a text are visible can be computed. -/
theorem isVisible_of_all {text : Text} (h : text.all (fun c => decide (IsVisible c)) = true) :
    ∀ c ∈ text, IsVisible c := fun c hc =>
  of_decide_eq_true (List.all_eq_true.mp h c hc)

theorem IsVisible.isPrintable {c : Char} (h : IsVisible c) : isPrintable c = true := by
  obtain ⟨hfirst, hlast⟩ := h
  have hascii : c.toNat < 128 := by omega
  rw [Text.isPrintable, if_pos hascii]
  simp [hfirst, hlast]

/-- **No control character is printable.** -/
theorem not_isControl_of_isPrintable {c : Char} (h : isPrintable c = true) : ¬IsControl c := by
  rw [isPrintable] at h
  rintro (hlow | ⟨hdelete, hhigh⟩)
  · rw [if_pos (by omega)] at h
    simp at h
    omega
  · split at h
    · simp at h
      omega
    · -- All printable characters beyond ASCII lie behind the first boundary.
      have hbefore : c.toNat < 0xA1 := by omega
      rw [CodeSet.contains, printables, CodeSet.insideAfter, if_pos hbefore] at h
      cases h

/-! ## Lists of texts -/

/-- **What is said of the characters of a list**, if it is said of its brackets, of its separators
and of the texts in it. -/
theorem forall_mem_commaList {p : Char → Prop} {opening closing : Char} {parts : List Text}
    (hopening : p opening) (hclosing : p closing) (hcomma : p ',') (hblank : p ' ')
    (hparts : ∀ part ∈ parts, ∀ c ∈ part, p c) :
    ∀ c ∈ commaList opening closing parts, p c := by
  have hseparator : ∀ c ∈ ", ".toList, p c :=
    List.forall_mem_cons.mpr ⟨hcomma, List.forall_mem_singleton.mpr hblank⟩
  have hbetween : ∀ c ∈ List.intercalate ", ".toList parts, p c := by
    induction parts with
    | nil => exact List.forall_mem_nil p
    | cons part parts ih =>
      rw [List.forall_mem_cons] at hparts
      cases parts with
      | nil => simpa using hparts.1
      | cons next parts =>
        rw [List.intercalate_cons_cons, List.forall_mem_append, List.forall_mem_append]
        exact ⟨⟨hparts.1, hseparator⟩, ih hparts.2⟩
  rw [commaList, List.forall_mem_append, List.forall_mem_cons, List.forall_mem_singleton]
  exact ⟨⟨hopening, hbetween⟩, hclosing⟩

/-! ## Escapes -/

theorem isVisible_hexDigits (count n : Nat) : ∀ c ∈ hexDigits count n, IsVisible c := by
  have hdigit : ∀ d < 16, IsVisible (hexDigit d) := by decide
  induction count generalizing n with
  | zero => exact List.forall_mem_nil _
  | succ count ih =>
    rw [hexDigits, List.forall_mem_append, List.forall_mem_singleton]
    exact ⟨ih (n / 16), hdigit (n % 16) (Nat.mod_lt n (by decide))⟩

theorem isVisible_pointEscape (point : Nat) : ∀ c ∈ pointEscape point, IsVisible c := by
  rw [pointEscape]
  repeat' split
  all_goals
    rw [List.forall_mem_cons, List.forall_mem_cons]
    exact ⟨by decide, by decide, isVisible_hexDigits _ _⟩

/-! ## Quoted texts -/

theorem isVisible_quoteMark (text : Text) : IsVisible (quoteMark text) := by
  rw [quoteMark]
  split <;> decide

/-- A character between quotes is shown if it is printable, and else it is escaped. -/
theorem isPrintable_quotedChar {mark : Char} (hmark : IsVisible mark) (c : Char) :
    ∀ d ∈ quotedChar mark c, isPrintable d = true := by
  have hescape {escaped : Char} (h : isPrintable escaped = true) :
      ∀ d ∈ ['\\', escaped], isPrintable d = true := by
    rw [List.forall_mem_cons, List.forall_mem_singleton]
    exact ⟨by decide, h⟩
  rw [quotedChar]
  split
  · next hsame =>
    refine hescape ?_
    rcases hsame with rfl | rfl
    · exact hmark.isPrintable
    · decide
  split
  · exact hescape (by decide)
  split
  · exact hescape (by decide)
  split
  · exact hescape (by decide)
  split
  · next hprintable => exact List.forall_mem_singleton.mpr hprintable
  · exact fun d hd => (isVisible_pointEscape _ d hd).isPrintable

/-- **Quoted texts consist of printable characters.** -/
theorem isPrintable_quoted (text : Text) : ∀ c ∈ quoted text, isPrintable c = true := by
  have hmark := isVisible_quoteMark text
  rw [quoted, List.forall_mem_append, List.forall_mem_cons, List.forall_mem_singleton]
  refine ⟨⟨hmark.isPrintable, fun d hd => ?_⟩, hmark.isPrintable⟩
  obtain ⟨c, -, hc⟩ := List.mem_flatMap.mp hd
  exact isPrintable_quotedChar hmark c d hc

end LaunchKit.Text
