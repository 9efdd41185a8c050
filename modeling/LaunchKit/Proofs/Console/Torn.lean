import LaunchKit.Proofs.Console.DrivePaths

/-!
# Torn durations

The sequence that closes a painted duration ends in a letter. Where a colon and a backslash stand
behind the duration, a path begins with that letter and tears the sequence, unless a path that began
before goes on there. Whether a message has a torn duration is told here from the message alone, and
found out step by step along its durations and paths.

## Main definitions

* `Console.InPath`: texts that end in an open path.
* `Console.HasTornDuration`: messages with a torn duration.

## Main statements

* `Console.hasTornDuration_duration`, `Console.hasTornDuration_path`,
  `Console.hasTornDuration_cons`: one step along a message.
-/
namespace LaunchKit.Console

/-! ## Open paths -/

/-- Whether a path that begins in a text reaches to its end. -/
def InPath (text : Text) : Prop :=
  ∃ front letter body, letter.isAlpha = true ∧ (∀ c ∈ body, endsPath c = false) ∧
    text = front ++ letter :: ':' :: '\\' :: body

theorem not_inPath_nil : ¬InPath [] := by
  rintro ⟨front, letter, body, -, -, htext⟩
  simp at htext

theorem InPath.append_left {text : Text} (h : InPath text) (front : Text) :
    InPath (front ++ text) := by
  obtain ⟨before, letter, body, hletter, hbody, rfl⟩ := h
  exact ⟨front ++ before, letter, body, hletter, hbody, (List.append_assoc ..).symm⟩

/-- An open path begins with the first character or behind it. -/
theorem InPath.of_cons {c : Char} {text : Text} (h : InPath (c :: text)) :
    (c.isAlpha = true ∧ ∃ body, (∀ d ∈ body, endsPath d = false) ∧ text = ':' :: '\\' :: body) ∨
      InPath text := by
  obtain ⟨front, letter, body, hletter, hbody, htext⟩ := h
  cases front with
  | nil =>
    obtain ⟨rfl, rfl⟩ := List.cons.inj htext
    exact Or.inl ⟨hletter, body, hbody, rfl⟩
  | cons d front => exact Or.inr ⟨front, letter, body, hletter, hbody, (List.cons.inj htext).2⟩

/-- No path begins in a text without colons, unless its mark follows. -/
theorem InPath.of_append_of_colon {text front : Text} (hcolon : ':' ∉ text)
    (hmark : ¬BeginsMark front) (h : InPath (text ++ front)) : InPath front := by
  induction text with
  | nil => exact h
  | cons c text ih =>
    rw [List.mem_cons, not_or] at hcolon
    rcases InPath.of_cons h with ⟨-, body, -, htext⟩ | hrest
    · cases text with
      | nil => exact absurd ⟨body, htext⟩ hmark
      | cons d text => exact absurd ((List.cons.inj htext).1 ▸ List.mem_cons_self) hcolon.2
    · exact ih hcolon.2 hrest

/-- No path goes on over a character that ends paths. -/
theorem InPath.of_append_of_cut {text front : Text} {c : Char} (hc : endsPath c = true)
    (h : InPath (text ++ c :: front)) : InPath (c :: front) := by
  induction text with
  | nil => exact h
  | cons d text ih =>
    rcases InPath.of_cons h with ⟨-, body, hbody, htext⟩ | hrest
    · have hmark : [':', '\\'].all (!endsPath ·) = true := by decide
      have hmem : c ∈ [':', '\\'] ++ body := by
        rw [List.cons_append, List.singleton_append, ← htext]
        exact List.mem_append_right _ List.mem_cons_self
      rcases List.mem_append.mp hmem with hin | hin
      · have hopen := List.all_eq_true.mp hmark c hin
        rw [hc] at hopen
        cases hopen
      · rw [hbody c hin] at hc
        cases hc
    · exact ih hrest

/-! ## Torn durations -/

/-- Whether a message has a colon and a backslash behind a duration that is in no path. -/
def HasTornDuration (message : Text) : Prop :=
  ∃ front amount rest, IsAmount amount ∧ ¬InPath front ∧
    message = front ++ (amount ++ 'm' :: 's' :: ':' :: '\\' :: rest)

theorem not_hasTornDuration_nil : ¬HasTornDuration [] := by
  rintro ⟨front, amount, rest, -, -, htext⟩
  simp at htext

/-- What is in front of the rest of a message makes no difference if no torn duration begins there,
and if no path begins there that goes on in the rest. -/
theorem hasTornDuration_append {text rest : Text}
    (hbegins : ∀ front middle amount behind, IsAmount amount → text = front ++ middle →
      middle ≠ [] → amount ++ 'm' :: 's' :: ':' :: '\\' :: behind = middle ++ rest → InPath front)
    (hpath : ∀ front amount behind, IsAmount amount →
      rest = front ++ (amount ++ 'm' :: 's' :: ':' :: '\\' :: behind) →
      (InPath (text ++ front) ↔ InPath front)) :
    HasTornDuration (text ++ rest) ↔ HasTornDuration rest := by
  constructor
  · rintro ⟨front, amount, behind, hamount, hopen, htext⟩
    rcases List.append_eq_append_iff.mp htext with ⟨before, rfl, hrest⟩ | ⟨middle, hfront, hdur⟩
    · exact ⟨before, amount, behind, hamount,
        fun h => hopen ((hpath before amount behind hamount hrest).mpr h), hrest⟩
    · by_cases hmiddle : middle = []
      · subst hmiddle
        rw [List.append_nil] at hfront
        refine ⟨[], amount, behind, hamount, not_inPath_nil, hdur.symm⟩
      · exact absurd (hbegins front middle amount behind hamount hfront hmiddle hdur) hopen
  · rintro ⟨front, amount, behind, hamount, hopen, rfl⟩
    exact ⟨text ++ front, amount, behind, hamount,
      fun h => hopen ((hpath front amount behind hamount rfl).mp h), (List.append_assoc ..).symm⟩

/-- A duration that is not torn itself. -/
theorem hasTornDuration_duration {amount rest : Text} (hamount : IsAmount amount)
    (hmark : ¬BeginsMark rest) :
    HasTornDuration (amount ++ 'm' :: 's' :: rest) ↔ HasTornDuration rest := by
  have hsplit : amount ++ 'm' :: 's' :: rest = (amount ++ ['m', 's']) ++ rest := by simp
  have hcolon : ':' ∉ amount ++ ['m', 's'] := by
    simpa using hamount.not_mem (by decide) (by decide)
  rw [hsplit]
  refine hasTornDuration_append ?_ ?_
  · intro front middle other behind hother htext hmiddle hdur
    exfalso
    rcases List.append_eq_append_iff.mp htext with ⟨before, -, hletters⟩ | ⟨digits, rfl, rfl⟩
    · -- No amount begins with a letter.
      obtain ⟨c, more, rfl⟩ := List.exists_cons_of_ne_nil hmiddle
      have hall : ['m', 's'].all (!Text.isDecimalDigit ·) = true := by decide
      have hmem : c ∈ ['m', 's'] := hletters ▸ List.mem_append_right _ List.mem_cons_self
      have hnot := List.all_eq_true.mp hall c hmem
      rw [hother.isDecimalDigit_of_append_eq hdur] at hnot
      cases hnot
    · -- Both amounts end where the first `m` is.
      rw [List.append_assoc] at hdur
      have hm : 'm' ∉ digits := fun hmem => hamount.m_not_mem (List.mem_append_right _ hmem)
      have hrest := (eq_of_append_cons_eq hother.m_not_mem hm hdur).2
      exact hmark ⟨behind, (List.cons.inj hrest).2.symm⟩
  · intro front other behind _ hrest
    have hfront : ¬BeginsMark front := fun ⟨more, hmore⟩ =>
      hmark ⟨_, by rw [hrest, hmore, List.cons_append, List.cons_append]⟩
    exact ⟨InPath.of_append_of_colon hcolon hfront, fun h => h.append_left _⟩

/-- A path. -/
theorem hasTornDuration_path {letter : Char} (hletter : letter.isAlpha = true) {body rest : Text}
    (hbody : ∀ c ∈ body, endsPath c = false) (hcut : IsCut rest) :
    HasTornDuration (letter :: ':' :: '\\' :: (body ++ rest)) ↔ HasTornDuration rest := by
  change HasTornDuration ((letter :: ':' :: '\\' :: body) ++ rest) ↔ _
  refine hasTornDuration_append ?_ ?_
  · intro front middle amount behind hamount htext hmiddle hdur
    have hdigit {c : Char} {more : Text} (heq : middle = c :: more)
        (hc : Text.isDecimalDigit c = false) : InPath front := by
      rw [heq, List.cons_append] at hdur
      rw [hamount.isDecimalDigit_of_append_eq hdur] at hc
      cases hc
    match front with
    | [] => exact hdigit htext.symm (isDecimalDigit_eq_false_of_isAlpha hletter)
    | [_] => exact hdigit (List.cons.inj htext).2.symm (by decide)
    | [_, _] => exact hdigit (List.cons.inj (List.cons.inj htext).2).2.symm (by decide)
    | _ :: _ :: _ :: front =>
      simp only [List.cons_append, List.cons.injEq] at htext
      obtain ⟨rfl, rfl, rfl, rfl⟩ := htext
      exact ⟨[], letter, front, hletter, fun c hc => hbody c (List.mem_append_left _ hc), rfl⟩
  · intro front amount behind hamount hrest
    refine ⟨fun h => ?_, fun h => h.append_left _⟩
    cases front with
    | nil =>
      -- No amount begins where a path ends.
      obtain ⟨c, more, hcons⟩ := List.exists_cons_of_ne_nil
        (List.append_ne_nil_of_left_ne_nil hamount.ne_nil ('m' :: 's' :: ':' :: '\\' :: behind))
      have hends := hcut c (by rw [hrest, List.nil_append, hcons]; rfl)
      rw [endsPath_eq_false_of_isDecimalDigit (hamount.isDecimalDigit_of_append_eq hcons)] at hends
      cases hends
    | cons c front => exact h.of_append_of_cut (hcut c (by rw [hrest]; rfl))

/-- A character with which neither a duration nor a path begins. -/
theorem hasTornDuration_cons {c : Char} {rest : Text} (hduration : ¬BeginsDuration (c :: rest))
    (hpath : ¬BeginsPath (c :: rest)) :
    HasTornDuration (c :: rest) ↔ HasTornDuration rest := by
  change HasTornDuration ([c] ++ rest) ↔ _
  refine hasTornDuration_append ?_ ?_
  · intro front middle amount behind hamount htext hmiddle hdur
    cases front with
    | nil =>
      rw [List.nil_append] at htext
      subst htext
      exact absurd ⟨amount, ':' :: '\\' :: behind, hamount, hdur.symm⟩ hduration
    | cons d front =>
      exact absurd (List.append_eq_nil_iff.mp (List.cons.inj htext).2.symm).2 hmiddle
  · intro front amount behind hamount hrest
    refine ⟨fun h => (InPath.of_cons h).resolve_left ?_, fun h => h.append_left _⟩
    rintro ⟨hletter, body, -, rfl⟩
    exact hpath (beginsPath_cons.mpr ⟨hletter, _, hrest⟩)

end LaunchKit.Console
