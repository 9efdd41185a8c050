import LaunchKit.Proofs.Console.Visible
import LaunchKit.Console.Highlight

/-!
# Durations in a message

An amount is a run of digits, with or without a point and more digits; with `ms` behind it, it is a
duration. Painting reads a text from the left: where a duration begins it is painted whole, and any
other character is kept. Painted durations alone hide nothing: what is seen is the text.

## Main definitions

* `Console.IsAmount`, `Console.BeginsDuration`: amounts, and texts that begin with a duration.

## Main statements

* `Console.paintDurations_duration`, `Console.paintDurations_cons`: the two steps of painting.
* `Console.duration_induction`: induction along these steps.
* `Console.visible_paintDurations_append`: what is seen of painted durations.
-/
namespace LaunchKit.Console

/-! ## Amounts -/

/-- Digits of any script, with or without a point and more digits. -/
inductive IsAmount : Text → Prop where
  | whole {digits : Text} (hne : digits ≠ [])
      (hdigits : ∀ c ∈ digits, Text.isDecimalDigit c = true) : IsAmount digits
  | point {digits part : Text} (hne : digits ≠ [])
      (hdigits : ∀ c ∈ digits, Text.isDecimalDigit c = true)
      (hpart : ∀ c ∈ part, Text.isDecimalDigit c = true) : IsAmount (digits ++ '.' :: part)

/-- Whether a text begins with a duration. -/
def BeginsDuration (text : Text) : Prop :=
  ∃ amount rest, IsAmount amount ∧ text = amount ++ 'm' :: 's' :: rest

theorem IsAmount.ne_nil {amount : Text} (h : IsAmount amount) : amount ≠ [] := by
  cases h with
  | whole hne _ => exact hne
  | point hne _ _ => exact List.append_ne_nil_of_left_ne_nil hne _

/-- An amount consists of digits and points. -/
theorem IsAmount.digit_or_point {amount : Text} (h : IsAmount amount) {c : Char}
    (hmem : c ∈ amount) : Text.isDecimalDigit c = true ∨ c = '.' := by
  cases h with
  | whole _ hdigits => exact Or.inl (hdigits c hmem)
  | point _ hdigits hpart =>
    rcases List.mem_append.mp hmem with hdigit | hrest
    · exact Or.inl (hdigits c hdigit)
    · rcases List.mem_cons.mp hrest with rfl | hpoint
      · exact Or.inr rfl
      · exact Or.inl (hpart c hpoint)

/-- What is neither a digit nor a point is in no amount. -/
theorem IsAmount.not_mem {amount : Text} (h : IsAmount amount) {c : Char}
    (hdigit : Text.isDecimalDigit c = false) (hpoint : c ≠ '.') : c ∉ amount := fun hmem =>
  (h.digit_or_point hmem).elim (fun htrue => by rw [hdigit] at htrue; cases htrue) hpoint

/-- An amount begins with a digit. -/
theorem IsAmount.exists_cons {amount : Text} (h : IsAmount amount) :
    ∃ c rest, amount = c :: rest ∧ Text.isDecimalDigit c = true := by
  cases h with
  | @whole digits hne hdigits =>
    obtain ⟨c, rest, rfl⟩ := List.exists_cons_of_ne_nil hne
    exact ⟨c, rest, rfl, hdigits c List.mem_cons_self⟩
  | @point digits part hne hdigits _ =>
    obtain ⟨c, rest, rfl⟩ := List.exists_cons_of_ne_nil hne
    exact ⟨c, rest ++ '.' :: part, rfl, hdigits c List.mem_cons_self⟩

theorem IsAmount.isDecimalDigit_of_append_eq {amount rest text : Text} (h : IsAmount amount)
    {c : Char} (heq : amount ++ rest = c :: text) : Text.isDecimalDigit c = true := by
  obtain ⟨d, more, rfl, hd⟩ := h.exists_cons
  rw [← (List.cons.inj heq).1]
  exact hd

/-- One more digit in front makes an amount again. -/
theorem IsAmount.cons {amount : Text} (h : IsAmount amount) {c : Char}
    (hc : Text.isDecimalDigit c = true) : IsAmount (c :: amount) := by
  cases h with
  | whole _ hdigits => exact .whole nofun (List.forall_mem_cons.mpr ⟨hc, hdigits⟩)
  | point _ hdigits hpart =>
    rw [← List.cons_append]
    exact .point nofun (List.forall_mem_cons.mpr ⟨hc, hdigits⟩) hpart

theorem BeginsDuration.isDecimalDigit {c : Char} {rest : Text} (h : BeginsDuration (c :: rest)) :
    Text.isDecimalDigit c = true := by
  obtain ⟨amount, behind, hamount, htext⟩ := h
  exact hamount.isDecimalDigit_of_append_eq htext.symm

/-- Where no duration begins with a digit, none begins behind it. -/
theorem not_beginsDuration_of_cons {c : Char} {rest : Text} (hc : Text.isDecimalDigit c = true)
    (h : ¬BeginsDuration (c :: rest)) : ¬BeginsDuration rest := by
  rintro ⟨amount, behind, hamount, rfl⟩
  exact h ⟨c :: amount, behind, hamount.cons hc, rfl⟩

/-- The text up to the first occurrence of a character is one and the same however it is cut. -/
theorem eq_of_append_cons_eq {c : Char} {front front' rest rest' : Text} (h : c ∉ front)
    (h' : c ∉ front') (heq : front ++ c :: rest = front' ++ c :: rest') :
    front = front' ∧ rest = rest' := by
  induction front generalizing front' with
  | nil =>
    cases front' with
    | nil => exact ⟨rfl, (List.cons.inj heq).2⟩
    | cons d front' => exact absurd ((List.cons.inj heq).1 ▸ List.mem_cons_self) h'
  | cons d front ih =>
    rw [List.mem_cons, not_or] at h
    cases front' with
    | nil => exact absurd (List.cons.inj heq).1.symm h.1
    | cons d' front' =>
      rw [List.mem_cons, not_or] at h'
      obtain ⟨rfl, htail⟩ := List.cons.inj heq
      obtain ⟨rfl, hrest⟩ := ih h.2 h'.2 htail
      exact ⟨rfl, hrest⟩

theorem IsAmount.m_not_mem {amount : Text} (h : IsAmount amount) : 'm' ∉ amount :=
  h.not_mem (by decide) (by decide)

/-! ## The duration in front of a text -/

theorem span_digits {digits : Text} (hdigits : ∀ c ∈ digits, Text.isDecimalDigit c = true)
    {c : Char} (hc : Text.isDecimalDigit c = false) (rest : Text) :
    (digits ++ c :: rest).takeWhile Text.isDecimalDigit = digits ∧
      (digits ++ c :: rest).dropWhile Text.isDecimalDigit = c :: rest := by
  rw [List.takeWhile_append_of_pos hdigits, List.dropWhile_append_of_pos hdigits,
    List.takeWhile_cons_of_neg (by rw [hc]; nofun), List.append_nil]
  exact ⟨rfl, List.dropWhile_cons_of_neg (by rw [hc]; nofun)⟩

/-- A duration is read as one. -/
theorem spanDuration?_duration {amount : Text} (h : IsAmount amount) (rest : Text) :
    spanDuration? (amount ++ 'm' :: 's' :: rest) = some (amount ++ ['m', 's'], rest) := by
  have hm : Text.isDecimalDigit 'm' = false := by decide
  have hpoint : Text.isDecimalDigit '.' = false := by decide
  cases h with
  | whole _ hdigits =>
    obtain ⟨htaken, hdropped⟩ := span_digits hdigits hm ('s' :: rest)
    rw [spanDuration?, htaken, hdropped]
    rfl
  | @point digits part _ hdigits hpart =>
    obtain ⟨htaken, hdropped⟩ := span_digits hdigits hpoint (part ++ 'm' :: 's' :: rest)
    obtain ⟨hpartTaken, hpartDropped⟩ := span_digits hpart hm ('s' :: rest)
    rw [List.append_assoc, List.cons_append, spanDuration?, htaken, hdropped]
    simp only [hpartTaken, hpartDropped]

/-- Only a duration is read as one. -/
theorem eq_of_spanDuration?_eq_some {c : Char} {text duration behind : Text}
    (hc : Text.isDecimalDigit c = true) (h : spanDuration? (c :: text) = some (duration, behind)) :
    ∃ amount, IsAmount amount ∧ duration = amount ++ ['m', 's'] ∧
      c :: text = amount ++ 'm' :: 's' :: behind := by
  have hdigits (text : Text) : ∀ d ∈ text.takeWhile Text.isDecimalDigit,
      Text.isDecimalDigit d = true := fun d hd => (List.all_eq_true.mp List.all_takeWhile) d hd
  have hne : (c :: text).takeWhile Text.isDecimalDigit ≠ [] := by
    rw [List.takeWhile_cons_of_pos hc]
    nofun
  have hsplit (text : Text) :
      text.takeWhile Text.isDecimalDigit ++ text.dropWhile Text.isDecimalDigit = text :=
    List.takeWhile_append_dropWhile
  rw [spanDuration?] at h
  split at h
  · next rest hdropped =>
    cases h
    refine ⟨_, .whole hne (hdigits _), rfl, ?_⟩
    rw [← hdropped, hsplit]
  · next rest hdropped =>
    dsimp only at h
    split at h
    · next behind' hpart =>
      cases h
      refine ⟨_, .point hne (hdigits _) (hdigits rest), rfl, ?_⟩
      rw [List.append_assoc, List.cons_append, ← hpart, hsplit, ← hdropped, hsplit]
    · cases h
  · cases h

/-! ## Painting -/

theorem length_of_spanDuration? {c : Char} {text duration behind : Text}
    (hc : Text.isDecimalDigit c = true) (h : spanDuration? (c :: text) = some (duration, behind)) :
    behind.length < (c :: text).length := by
  obtain ⟨amount, -, -, htext⟩ := eq_of_spanDuration?_eq_some hc h
  rw [htext, List.length_append, List.length_cons, List.length_cons]
  omega

/-- Enough steps give all. -/
theorem paintDurationsWithin_eq_of_le {m n : Nat} {text : Text} (hm : text.length ≤ m)
    (hn : text.length ≤ n) : paintDurationsWithin m text = paintDurationsWithin n text := by
  induction m generalizing n text with
  | zero =>
    obtain rfl := List.length_eq_zero_iff.mp (Nat.le_zero.mp hm)
    cases n <;> rfl
  | succ m ih =>
    cases text with
    | nil => cases n <;> rfl
    | cons c rest =>
      obtain ⟨n, rfl⟩ := Nat.exists_eq_add_one_of_ne_zero (Nat.ne_zero_of_lt hn)
      rw [List.length_cons, Nat.add_le_add_iff_right] at hm hn
      rw [paintDurationsWithin, paintDurationsWithin]
      cases hc : Text.isDecimalDigit c with
      | false => exact congrArg (c :: ·) (ih hm hn)
      | true =>
        rw [if_pos rfl, if_pos rfl]
        cases hspan : spanDuration? (c :: rest) with
        | some found =>
          have hlt := length_of_spanDuration? hc hspan
          rw [List.length_cons] at hlt
          exact congrArg (paint brightYellow found.1 ++ ·) (ih (by omega) (by omega))
        | none =>
          have hle := (List.dropWhile_sublist Text.isDecimalDigit (l := rest)).length_le
          exact congrArg (c :: rest.takeWhile Text.isDecimalDigit ++ ·)
            (ih (by omega) (by omega))

/-- One step of painting. -/
theorem paintDurations_step (c : Char) (rest : Text) :
    paintDurations (c :: rest) =
      if Text.isDecimalDigit c then
        match spanDuration? (c :: rest) with
        | some (duration, rest) => paint brightYellow duration ++ paintDurations rest
        | none =>
          c :: rest.takeWhile Text.isDecimalDigit ++
            paintDurations (rest.dropWhile Text.isDecimalDigit)
      else c :: paintDurations rest := by
  rw [paintDurations, List.length_cons, paintDurationsWithin]
  cases hc : Text.isDecimalDigit c with
  | false => rfl
  | true =>
    rw [if_pos rfl]
    cases hspan : spanDuration? (c :: rest) with
    | some found =>
      have hlt := length_of_spanDuration? hc hspan
      exact congrArg (paint brightYellow found.1 ++ ·)
        (paintDurationsWithin_eq_of_le (Nat.le_of_lt_succ hlt) (Nat.le_refl _))
    | none =>
      have hle := (List.dropWhile_sublist Text.isDecimalDigit (l := rest)).length_le
      exact congrArg (c :: rest.takeWhile Text.isDecimalDigit ++ ·)
        (paintDurationsWithin_eq_of_le hle (Nat.le_refl _))

/-- A duration is painted whole. -/
theorem paintDurations_duration {amount : Text} (h : IsAmount amount) (rest : Text) :
    paintDurations (amount ++ 'm' :: 's' :: rest) =
      paint brightYellow (amount ++ ['m', 's']) ++ paintDurations rest := by
  have hspan := spanDuration?_duration h rest
  obtain ⟨c, more, rfl, hc⟩ := h.exists_cons
  rw [List.cons_append] at hspan ⊢
  rw [paintDurations_step, if_pos hc, hspan]

theorem spanDuration?_eq_none {c : Char} {rest : Text} (hc : Text.isDecimalDigit c = true)
    (h : ¬BeginsDuration (c :: rest)) : spanDuration? (c :: rest) = none := by
  cases hspan : spanDuration? (c :: rest) with
  | none => rfl
  | some found =>
    obtain ⟨amount, hamount, -, htext⟩ := eq_of_spanDuration?_eq_some hc hspan
    exact absurd ⟨amount, found.2, hamount, htext⟩ h

/-- Any other character is kept. -/
theorem paintDurations_cons {c : Char} {rest : Text} (h : ¬BeginsDuration (c :: rest)) :
    paintDurations (c :: rest) = c :: paintDurations rest := by
  rw [paintDurations_step]
  cases hc : Text.isDecimalDigit c with
  | false => rfl
  | true =>
    have hrest := not_beginsDuration_of_cons hc h
    rw [if_pos rfl, spanDuration?_eq_none hc h]
    -- The run of digits behind the first is kept in one step of its own.
    cases rest with
    | nil => rfl
    | cons d rest =>
      cases hd : Text.isDecimalDigit d with
      | false =>
        rw [List.takeWhile_cons_of_neg (by rw [hd]; nofun),
          List.dropWhile_cons_of_neg (by rw [hd]; nofun)]
        rfl
      | true =>
        rw [List.takeWhile_cons_of_pos hd, List.dropWhile_cons_of_pos hd, paintDurations_step d,
          if_pos hd, spanDuration?_eq_none hd hrest]
        rfl

theorem paintDurations_cons_of_not_digit {c : Char} (h : Text.isDecimalDigit c = false)
    (rest : Text) : paintDurations (c :: rest) = c :: paintDurations rest := by
  refine paintDurations_cons fun hbegins => ?_
  rw [hbegins.isDecimalDigit] at h
  cases h

/-- Induction along the steps of painting. -/
@[elab_as_elim]
theorem duration_induction {motive : Text → Prop} (text : Text) (nil : motive [])
    (duration : ∀ amount rest, IsAmount amount → motive rest →
      motive (amount ++ 'm' :: 's' :: rest))
    (other : ∀ c rest, ¬BeginsDuration (c :: rest) → motive rest → motive (c :: rest)) :
    motive text := by
  induction hlength : text.length using Nat.strongRecOn generalizing text with
  | ind n ih =>
    subst hlength
    cases text with
    | nil => exact nil
    | cons c rest =>
      by_cases hbegins : BeginsDuration (c :: rest)
      · obtain ⟨amount, behind, hamount, htext⟩ := hbegins
        have hlt : behind.length < (c :: rest).length := by
          rw [htext, List.length_append, List.length_cons, List.length_cons]
          omega
        rw [htext]
        exact duration amount behind hamount (ih _ hlt behind rfl)
      · exact other c rest hbegins (ih _ (Nat.lt_succ_self _) rest rfl)

/-! ## What painting leaves -/

theorem IsAmount.escape_not_mem {amount : Text} (h : IsAmount amount) : '\x1b' ∉ amount :=
  h.not_mem (by decide) (by decide)

/-- **Painted durations hide nothing.** -/
theorem visible_paintDurations_append {text : Text} (h : '\x1b' ∉ text) (rest : Text) :
    visible (paintDurations text ++ rest) = text ++ visible rest := by
  induction text using duration_induction with
  | nil => rfl
  | duration amount behind hamount ih =>
    have hduration : '\x1b' ∉ amount ++ ['m', 's'] := by
      simpa using hamount.escape_not_mem
    have hbehind : '\x1b' ∉ behind := fun hmem => h (by simp [hmem])
    rw [paintDurations_duration hamount, List.append_assoc, visible_paint hduration, ih hbehind]
    simp
  | other c behind hbegins ih =>
    rw [List.mem_cons, not_or] at h
    rw [paintDurations_cons hbegins, List.cons_append, visible_cons_of_ne (Ne.symm h.1), ih h.2,
      List.cons_append]

/-- A character that is no escape character comes first in the painted text only if it does in the
text. -/
theorem paintDurations_eq_cons {c : Char} (hc : c ≠ '\x1b') {text rest : Text}
    (h : paintDurations text = c :: rest) :
    ∃ behind, text = c :: behind ∧ rest = paintDurations behind := by
  induction text using duration_induction with
  | nil => cases h
  | duration amount behind hamount _ =>
    rw [paintDurations_duration hamount] at h
    exact absurd (List.cons.inj h).1.symm hc
  | other d behind hbegins _ =>
    rw [paintDurations_cons hbegins] at h
    obtain ⟨rfl, rfl⟩ := List.cons.inj h
    exact ⟨behind, rfl, rfl⟩

/-! ## Control sequences -/

/-- Digits and an `m` are no duration unless an `s` follows. -/
theorem paintDurations_digits {digits rest : Text}
    (hdigits : ∀ c ∈ digits, Text.isDecimalDigit c = true) (h : rest.head? ≠ some 's') :
    paintDurations (digits ++ 'm' :: rest) = digits ++ 'm' :: paintDurations rest := by
  induction digits with
  | nil => exact paintDurations_cons_of_not_digit (by decide) rest
  | cons c digits ih =>
    have hm : 'm' ∉ c :: digits := fun hmem => by
      have hdigit := hdigits 'm' hmem
      cases hdigit
    have hbegins : ¬BeginsDuration ((c :: digits) ++ 'm' :: rest) := by
      rintro ⟨amount, behind, hamount, htext⟩
      obtain ⟨-, rfl⟩ := eq_of_append_cons_eq hm hamount.m_not_mem htext
      exact h rfl
    exact (paintDurations_cons hbegins).trans
      (congrArg (c :: ·) (ih (List.forall_mem_cons.mp hdigits).2))

theorem isDecimalDigit_of_mem_ofNat {code : Nat} {c : Char} (h : c ∈ Numeral.ofNat code) :
    Text.isDecimalDigit c = true := by
  rw [Text.isDecimalDigit, Text.decimalDigit?_of_isDigit (Numeral.isDigit_of_mem_ofNat h)]
  rfl

/-- No sequence becomes a duration unless an `s` follows. -/
theorem paintDurations_sequence (code : Nat) {rest : Text} (h : rest.head? ≠ some 's') :
    paintDurations (sequence code ++ rest) = sequence code ++ paintDurations rest := by
  rw [sequence_append, sequence_append, paintDurations_cons_of_not_digit (by decide),
    paintDurations_cons_of_not_digit (by decide),
    paintDurations_digits (fun _ => isDecimalDigit_of_mem_ofNat) h]

theorem paintDurations_flatMap_sequence (codes : Paint) {rest : Text} (h : rest.head? ≠ some 's') :
    paintDurations (codes.flatMap sequence ++ rest) =
      codes.flatMap sequence ++ paintDurations rest := by
  induction codes with
  | nil => rfl
  | cons code codes ih =>
    have hhead : (codes.flatMap sequence ++ rest).head? ≠ some 's' := by
      cases codes with
      | nil => exact h
      | cons code codes => simp [sequence]
    rw [List.flatMap_cons, List.append_assoc, List.append_assoc, paintDurations_sequence code hhead,
      ih]

theorem paintDurations_append_of_not_digit {text : Text}
    (h : ∀ c ∈ text, Text.isDecimalDigit c = false) (rest : Text) :
    paintDurations (text ++ rest) = text ++ paintDurations rest := by
  induction text with
  | nil => rfl
  | cons c text ih =>
    rw [List.forall_mem_cons] at h
    rw [List.cons_append, paintDurations_cons_of_not_digit h.1, ih h.2, List.cons_append]

end LaunchKit.Console
