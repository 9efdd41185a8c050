import LaunchKit.Console.Paint
import LaunchKit.Proofs.Number.ReadBack

/-!
# What a reader sees

A text without escape characters is seen as it is, a control sequence is not seen at all, and so a
painted text is seen as the text. This holds in front of anything: sequences do not run over into
what follows them. A sequence that is torn, with something other than its letter behind the numbers,
is seen: its escape character stays.

## Main statements

* `Console.visible_append`, `Console.visible_sequence`, `Console.visible_paint`: plain texts,
  sequences and painted texts in front of anything.
* `Console.escape_mem_visible_of_torn`: a torn sequence.
-/
namespace LaunchKit.Console

/-! ## Steps -/

theorem isParameter_of_mem_takeWhile {c : Char} {text : Text} (h : c ∈ text.takeWhile isParameter) :
    isParameter c = true :=
  List.all_eq_true.mp List.all_takeWhile c h

/-- A sequence ends at the letter behind its numbers. -/
theorem skipSequence?_bracket (rest : Text) :
    skipSequence? ('\x1b' :: '[' :: rest) =
      match rest.dropWhile isParameter with
      | 'm' :: behind => some behind
      | _ => none := rfl

/-- Sequences, and nothing else, are skipped. -/
theorem skipSequence?_eq_some_iff {text rest : Text} :
    skipSequence? text = some rest ↔
      ∃ parameters, (∀ c ∈ parameters, isParameter c = true) ∧
        text = '\x1b' :: '[' :: (parameters ++ 'm' :: rest) := by
  constructor
  · intro h
    unfold skipSequence? at h
    split at h
    · next inside =>
      split at h
      · next behind hdrop =>
        cases h
        refine ⟨inside.takeWhile isParameter, fun _ => isParameter_of_mem_takeWhile, ?_⟩
        rw [← hdrop, List.takeWhile_append_dropWhile]
      · cases h
    · cases h
  · rintro ⟨parameters, hparameters, rfl⟩
    have hdrop : (parameters ++ 'm' :: rest).dropWhile isParameter = 'm' :: rest := by
      rw [List.dropWhile_append_of_pos hparameters]
      exact List.dropWhile_cons_of_neg (by decide)
    rw [skipSequence?_bracket, hdrop]
    rfl

theorem length_skipSequence? {text rest : Text} (h : skipSequence? text = some rest) :
    rest.length < text.length := by
  obtain ⟨parameters, -, rfl⟩ := skipSequence?_eq_some_iff.mp h
  simp only [List.length_cons, List.length_append]
  omega

/-- Enough steps give all. -/
theorem visibleWithin_eq_of_le {m n : Nat} {text : Text} (hm : text.length ≤ m)
    (hn : text.length ≤ n) : visibleWithin m text = visibleWithin n text := by
  induction m generalizing n text with
  | zero =>
    obtain rfl := List.length_eq_zero_iff.mp (Nat.le_zero.mp hm)
    cases n <;> rfl
  | succ m ih =>
    cases text with
    | nil => cases n <;> rfl
    | cons c rest =>
      obtain ⟨n, rfl⟩ := Nat.exists_eq_add_one_of_ne_zero (Nat.ne_zero_of_lt hn)
      rw [visibleWithin, visibleWithin]
      cases hskip : skipSequence? (c :: rest) with
      | none => exact congrArg _ (ih (Nat.le_of_succ_le_succ hm) (Nat.le_of_succ_le_succ hn))
      | some behind =>
        have hlt := length_skipSequence? hskip
        exact ih (by omega) (by omega)

@[simp] theorem visible_nil : visible [] = [] := rfl

/-- A sequence in front of a text is not seen, any other character is. -/
theorem visible_cons (c : Char) (rest : Text) :
    visible (c :: rest) =
      match skipSequence? (c :: rest) with
      | some behind => visible behind
      | none => c :: visible rest := by
  rw [visible, List.length_cons, visibleWithin]
  cases hskip : skipSequence? (c :: rest) with
  | none => rfl
  | some behind =>
    have hlt := length_skipSequence? hskip
    exact visibleWithin_eq_of_le (Nat.le_of_lt_succ hlt) (Nat.le_refl _)

theorem skipSequence?_of_ne {c : Char} (h : c ≠ '\x1b') (rest : Text) :
    skipSequence? (c :: rest) = none := by
  rw [skipSequence?]
  rintro _ heq
  exact h (List.cons.inj heq).1

theorem visible_cons_of_ne {c : Char} (h : c ≠ '\x1b') (rest : Text) :
    visible (c :: rest) = c :: visible rest := by
  rw [visible_cons, skipSequence?_of_ne h]

/-! ## Texts -/

/-- A text without escape characters is seen as it is, whatever follows. -/
theorem visible_append {text : Text} (h : '\x1b' ∉ text) (rest : Text) :
    visible (text ++ rest) = text ++ visible rest := by
  induction text with
  | nil => rfl
  | cons c text ih =>
    rw [List.mem_cons, not_or] at h
    rw [List.cons_append, visible_cons_of_ne (Ne.symm h.1), ih h.2, List.cons_append]

theorem isParameter_of_mem_ofNat {code : Nat} {c : Char} (h : c ∈ Numeral.ofNat code) :
    isParameter c = true := by
  rw [isParameter, Numeral.isDigit_of_mem_ofNat h, Bool.true_or]

theorem sequence_append (code : Nat) (rest : Text) :
    sequence code ++ rest = '\x1b' :: '[' :: (Numeral.ofNat code ++ 'm' :: rest) := by
  simp [sequence]

theorem skipSequence?_sequence (code : Nat) (rest : Text) :
    skipSequence? (sequence code ++ rest) = some rest :=
  skipSequence?_eq_some_iff.mpr
    ⟨Numeral.ofNat code, fun _ => isParameter_of_mem_ofNat, sequence_append code rest⟩

/-- A sequence is not seen. -/
theorem visible_sequence (code : Nat) (rest : Text) :
    visible (sequence code ++ rest) = visible rest := by
  have hskip := skipSequence?_sequence code rest
  rw [sequence_append] at hskip ⊢
  rw [visible_cons, hskip]

theorem visible_flatMap_sequence (codes : Paint) (rest : Text) :
    visible (codes.flatMap sequence ++ rest) = visible rest := by
  induction codes with
  | nil => rfl
  | cons code codes ih => rw [List.flatMap_cons, List.append_assoc, visible_sequence, ih]

/-- A painted text is seen as the text, whatever follows. -/
theorem visible_paint {text : Text} (h : '\x1b' ∉ text) (codes : Paint) (rest : Text) :
    visible (paint codes text ++ rest) = text ++ visible rest := by
  rw [paint, List.append_assoc, List.append_assoc, visible_flatMap_sequence, visible_append h,
    reset, visible_sequence]

/-! ## Lines -/

/-- No sequence reaches over the end of a line. -/
theorem skipSequence?_append_newline (text rest : Text) :
    skipSequence? (text ++ '\n' :: rest) = (skipSequence? text).map (· ++ '\n' :: rest) := by
  cases hskip : skipSequence? text with
  | some behind =>
    obtain ⟨parameters, hparameters, rfl⟩ := skipSequence?_eq_some_iff.mp hskip
    exact skipSequence?_eq_some_iff.mpr ⟨parameters, hparameters, by simp⟩
  | none =>
    rw [Option.map_none, Option.eq_none_iff_forall_ne_some]
    intro behind hbehind
    obtain ⟨parameters, hparameters, htext⟩ := skipSequence?_eq_some_iff.mp hbehind
    have hsplit : text ++ '\n' :: rest =
        ('\x1b' :: '[' :: (parameters ++ ['m'])) ++ behind := by simpa using htext
    have hinside {front : Text} (hfront : '\x1b' :: '[' :: (parameters ++ ['m']) = text ++ front) :
        front ≠ [] := by
      rintro rfl
      rw [List.append_nil] at hfront
      have hnone := skipSequence?_eq_some_iff.mpr ⟨parameters, hparameters, hfront.symm⟩
      rw [hskip] at hnone
      cases hnone
    rcases List.append_eq_append_iff.mp hsplit with ⟨front, hfront, hrest⟩ | ⟨more, rfl, -⟩
    · obtain ⟨c, more, rfl⟩ := List.exists_cons_of_ne_nil (hinside hfront)
      rw [← (List.cons.inj hrest).1] at hfront
      have hmem : '\n' ∈ '\x1b' :: '[' :: (parameters ++ ['m']) := by rw [hfront]; simp
      have hnewline : '\n' ∈ parameters := by simpa using hmem
      exact absurd (hparameters _ hnewline) (by decide)
    · have hsome : skipSequence? ('\x1b' :: '[' :: (parameters ++ ['m']) ++ more) = some more :=
        skipSequence?_eq_some_iff.mpr ⟨parameters, hparameters, by simp⟩
      rw [hskip] at hsome
      cases hsome

/-- Lines are seen one by one. -/
theorem visible_append_newline (text rest : Text) :
    visible (text ++ '\n' :: rest) = visible text ++ '\n' :: visible rest := by
  induction hlength : text.length using Nat.strongRecOn generalizing text with
  | ind n ih =>
    subst hlength
    cases text with
    | nil => exact visible_cons_of_ne (by decide) rest
    | cons c text =>
      rw [List.cons_append, visible_cons, visible_cons, ← List.cons_append,
        skipSequence?_append_newline]
      cases hskip : skipSequence? (c :: text) with
      | none => exact congrArg (c :: ·) (ih _ (Nat.lt_succ_self _) text rfl)
      | some behind => exact ih _ (length_skipSequence? hskip) behind rfl

/-! ## Torn sequences -/

/-- **A torn sequence** is seen, with its escape character. -/
theorem escape_mem_visible_of_torn (parameters : Text) {c : Char}
    (hparameters : parameters.all isParameter = true) (hc : isParameter c = false)
    (hne : c ≠ 'm') (rest : Text) :
    '\x1b' ∈ visible ('\x1b' :: '[' :: parameters ++ c :: rest) := by
  have hdrop : (parameters ++ c :: rest).dropWhile isParameter = c :: rest := by
    rw [List.dropWhile_append_of_pos (List.all_eq_true.mp hparameters)]
    exact List.dropWhile_cons_of_neg (by rw [hc]; nofun)
  have hskip : skipSequence? ('\x1b' :: '[' :: (parameters ++ c :: rest)) = none := by
    rw [skipSequence?_bracket, hdrop]
    split
    · next heq => exact absurd (List.cons.inj heq).1 hne
    · rfl
  rw [List.cons_append, List.cons_append, visible_cons, hskip]
  exact List.mem_cons_self

end LaunchKit.Console
