import LaunchKit.Text.Basic
import Mathlib.Data.List.Basic

/-!
# Fields of a text

A reader of command lines that meets no quote does one thing only: it breaks the text at
separators and keeps what stands between them. Both styles of command lines come down to this
where an argument is written without quotes, so it is said once, for any set of separators.

## Main definitions

* `Text.fields`: what stands between the separators of a text, where it is not empty.

## Main statements

* `Text.not_separator_of_mem_fields`: no field holds a separator.
* `Text.fields_of_forall`: a text without separators is its own field.
-/
namespace LaunchKit.Text

/-- The fields of the rest of a text; `field` holds what has been read of a field that has begun. -/
def fieldsAfter (isSeparator : Char → Bool) : (field : Option Text) → Text → List Text
  | field, [] => field.toList
  | field, c :: rest =>
    if isSeparator c then field.toList ++ fieldsAfter isSeparator none rest
    else fieldsAfter isSeparator (some (field.getD [] ++ [c])) rest

/-- The non-empty fields of a text between separators. -/
def fields (isSeparator : Char → Bool) (text : Text) : List Text :=
  fieldsAfter isSeparator none text

variable {isSeparator : Char → Bool}

/-- No field holds a separator. -/
theorem not_separator_of_mem_fieldsAfter {field : Option Text} {text found : Text} {c : Char}
    (h : ∀ d ∈ field.getD [], isSeparator d = false)
    (hfound : found ∈ fieldsAfter isSeparator field text) (hc : c ∈ found) :
    isSeparator c = false := by
  induction text generalizing field with
  | nil =>
    cases field with
    | none => simp [fieldsAfter] at hfound
    | some begun =>
      simp only [fieldsAfter, Option.toList_some, List.mem_singleton] at hfound
      subst hfound
      exact h c hc
  | cons d rest ih =>
    simp only [fieldsAfter] at hfound
    by_cases hd : isSeparator d = true
    · rw [if_pos hd] at hfound
      rcases List.mem_append.mp hfound with hbegun | hrest
      · cases field with
        | none => simp at hbegun
        | some begun =>
          have heq : found = begun := by simpa using hbegun
          subst heq
          exact h c hc
      · have hnone : ∀ e ∈ (none : Option Text).getD [], isSeparator e = false := by simp
        exact ih hnone hrest
    · rw [if_neg hd] at hfound
      refine ih ?_ hfound
      intro e he
      rcases List.mem_append.mp he with hbegun | hlast
      · exact h e hbegun
      · rw [List.mem_singleton.mp hlast]
        simpa using hd

theorem not_separator_of_mem_fields {text found : Text} {c : Char}
    (hfound : found ∈ fields isSeparator text) (hc : c ∈ found) : isSeparator c = false := by
  have hnone : ∀ d ∈ (none : Option Text).getD [], isSeparator d = false := by simp
  exact not_separator_of_mem_fieldsAfter hnone hfound hc

/-- Without a separator the text goes on with the field that has begun. -/
theorem fieldsAfter_some_of_forall {begun text : Text} (h : ∀ c ∈ text, isSeparator c = false) :
    fieldsAfter isSeparator (some begun) text = [begun ++ text] := by
  induction text generalizing begun with
  | nil => simp [fieldsAfter]
  | cons c rest ih =>
    have hc : isSeparator c = false := h c (by simp)
    have hrest : ∀ d ∈ rest, isSeparator d = false := by
      intro d hd
      exact h d (by simp [hd])
    simp [fieldsAfter, hc, ih hrest]

/-- A text that is not empty and holds no separator is its own field. -/
theorem fields_of_forall {text : Text} (hne : text ≠ [])
    (h : ∀ c ∈ text, isSeparator c = false) : fields isSeparator text = [text] := by
  cases text with
  | nil => exact absurd rfl hne
  | cons c rest =>
    have hc : isSeparator c = false := h c (by simp)
    have hrest : ∀ d ∈ rest, isSeparator d = false := by
      intro d hd
      exact h d (by simp [hd])
    simp [fields, fieldsAfter, hc, fieldsAfter_some_of_forall hrest]

/-- Where a sound text is found as it is, and whatever is found is sound, a list of texts is found
unchanged exactly when all of it is sound: a text that is broken up cannot come back as a find of
another. -/
theorem flatMap_eq_self_iff {found : Text → List Text} {sound : Text → Prop}
    (hself : ∀ text, sound text → found text = [text])
    (hsound : ∀ text, ∀ find ∈ found text, sound find) (texts : List Text) :
    texts.flatMap found = texts ↔ ∀ text ∈ texts, sound text := by
  constructor
  · intro h text hmem
    rw [← h] at hmem
    obtain ⟨written, -, hfind⟩ := List.mem_flatMap.mp hmem
    exact hsound written text hfind
  · intro h
    have hcongr : texts.flatMap found = texts.flatMap fun text => [text] :=
      List.flatMap_congr fun text hmem => hself text (h text hmem)
    rw [hcongr, List.flatMap_singleton']

end LaunchKit.Text
