import LaunchKit.Proofs.CommandLine.Bash
import LaunchKit.Proofs.CommandLine.Windows

/-!
# Different arguments make different command lines

The readers of command lines do not give every list of arguments back: a tab, a line end or a single
quote can get in their way. The line itself still tells which arguments it was written from. Both
styles write an argument in one of two ways. Either it stands between double quotes, and what is
inside ends at the first quote that is not escaped, or it is bare: not empty, without a blank, and
not opened by a quote. Blanks between arguments are therefore never taken for others, whatever
characters the arguments are made of.

## Main definitions

* `IsBreak`: what may stand behind a written argument in a line.
* `IsQuoting`: the two ways to write an argument, and what each of them determines.

## Main statements

* `IsQuoting.append_inj`: an argument and what stands behind it can be told apart.
* `Style.commandLine_inj`: no two lists of arguments share a command line.
-/
namespace LaunchKit

/-- The end of a line, or the blank before another argument. -/
def IsBreak (rest : Text) : Prop := ∀ c ∈ rest.head?, c = ' '

theorem isBreak_nil : IsBreak [] := by simp [IsBreak]

theorem isBreak_blank (rest : Text) : IsBreak (' ' :: rest) := by simp [IsBreak]

/-! ## Two ways to write -/

/-- A way to write arguments of which some are quoted. Before a break, a quoted argument can be told
from any other quoted one, and a bare one is a word of the line that has no other meaning. -/
structure IsQuoting (write : Text → Text) (IsQuoted : Text → Prop) : Prop where
  opening : ∀ argument, IsQuoted argument → (write argument).head? = some '"'
  quoted_inj : ∀ first second rest rest', IsQuoted first → IsQuoted second → IsBreak rest →
    IsBreak rest' → write first ++ rest = write second ++ rest' → first = second
  bare_ne_nil : ∀ argument, ¬IsQuoted argument → write argument ≠ []
  bare_opening : ∀ argument, ¬IsQuoted argument → (write argument).head? ≠ some '"'
  bare_blank : ∀ argument, ¬IsQuoted argument → ' ' ∉ write argument
  bare_inj : ∀ first second, ¬IsQuoted first → ¬IsQuoted second →
    write first = write second → first = second

namespace IsQuoting

variable {write : Text → Text} {IsQuoted : Text → Prop}

/-- What is written is opened by a quote exactly when it is quoted. -/
theorem head?_append_iff (h : IsQuoting write IsQuoted) (argument rest : Text) :
    (write argument ++ rest).head? = some '"' ↔ IsQuoted argument := by
  by_cases hquoted : IsQuoted argument
  · simp [List.head?_append, h.opening argument hquoted, hquoted]
  · obtain ⟨c, word, hword⟩ := List.exists_cons_of_ne_nil (h.bare_ne_nil argument hquoted)
    have hc := h.bare_opening argument hquoted
    rw [hword] at hc ⊢
    simpa [hquoted] using hc

theorem ne_nil (h : IsQuoting write IsQuoted) (argument : Text) : write argument ≠ [] := by
  by_cases hquoted : IsQuoted argument
  · intro hnil
    have hopening := h.opening argument hquoted
    rw [hnil] at hopening
    cases hopening
  · exact h.bare_ne_nil argument hquoted

/-- A bare argument ends at the first blank. -/
theorem takeWhile_append (h : IsQuoting write IsQuoted) {argument rest : Text}
    (hbare : ¬IsQuoted argument) (hrest : IsBreak rest) :
    (write argument ++ rest).takeWhile (· ≠ ' ') = write argument := by
  have hword : ∀ c ∈ write argument, decide (c ≠ ' ') = true := by
    intro c hc
    exact decide_eq_true fun heq => h.bare_blank argument hbare (heq ▸ hc)
  have hnone : rest.takeWhile (· ≠ ' ') = [] := by
    cases rest with
    | nil => rfl
    | cons c rest =>
      rw [hrest c rfl]
      rfl
  rw [List.takeWhile_append_of_pos hword, hnone, List.append_nil]

/-- **An argument before a break** is determined by the line. -/
theorem append_inj (h : IsQuoting write IsQuoted) {first second rest rest' : Text}
    (hrest : IsBreak rest) (hrest' : IsBreak rest')
    (heq : write first ++ rest = write second ++ rest') : first = second ∧ rest = rest' := by
  have hquoted : IsQuoted first ↔ IsQuoted second := by
    rw [← h.head?_append_iff first rest, ← h.head?_append_iff second rest', heq]
  have harguments : first = second := by
    by_cases hfirst : IsQuoted first
    · exact h.quoted_inj first second rest rest' hfirst (hquoted.mp hfirst) hrest hrest' heq
    · have hsecond : ¬IsQuoted second := fun hsecond => hfirst (hquoted.mpr hsecond)
      have hwords := congrArg (List.takeWhile (· ≠ ' ')) heq
      rw [h.takeWhile_append hfirst hrest, h.takeWhile_append hsecond hrest'] at hwords
      exact h.bare_inj first second hfirst hsecond hwords
  subst harguments
  exact ⟨rfl, List.append_cancel_left heq⟩

end IsQuoting

/-! ## Windows -/

namespace Windows

theorem head?_escape_of_bare {argument : Text} (h : ¬needsQuotes argument = true) :
    argument ≠ [] ∧ argument.head? ≠ some '"' ∧ ' ' ∉ argument := by
  simp only [needsQuotes, Bool.or_eq_true, List.isEmpty_iff, decide_eq_true_eq, not_or] at h
  obtain ⟨⟨hne, hblank⟩, hquote⟩ := h
  exact ⟨hne, fun hhead => hquote (List.mem_of_mem_head? hhead), hblank⟩

/-- A quoted argument is read back, so the line determines it. -/
theorem escape_quoted_inj {first second rest rest' : Text} (hfirst : needsQuotes first = true)
    (hsecond : needsQuotes second = true) (hrest : IsBreak rest) (hrest' : IsBreak rest')
    (heq : escape first ++ rest = escape second ++ rest') : first = second := by
  have hsep {text : Text} (h : IsBreak text) : ∀ c ∈ text.head?, isSeparator c = true := by
    intro c hc
    rw [h c hc]
    rfl
  have hread := congrArg (splitAfter 0 false none) heq
  rw [splitAfter_escape first (hsep hrest), splitAfter_escape second (hsep hrest'), readBack,
    readBack, if_pos hfirst, if_pos hsecond] at hread
  exact (List.cons.inj hread).1

theorem isQuoting_escape : IsQuoting escape (needsQuotes · = true) where
  opening argument h := by simp [escape, h]
  quoted_inj _ _ _ _ hfirst hsecond hrest hrest' heq :=
    escape_quoted_inj hfirst hsecond hrest hrest' heq
  bare_ne_nil argument h := by simpa [escape, h] using (head?_escape_of_bare h).1
  bare_opening argument h := by simpa [escape, h] using (head?_escape_of_bare h).2.1
  bare_blank argument h := by simpa [escape, h] using (head?_escape_of_bare h).2.2
  bare_inj first second hfirst hsecond heq := by simpa [escape, hfirst, hsecond] using heq

end Windows

/-! ## Shell -/

namespace Bash

/-- Whether an argument is written between double quotes. -/
def NeedsQuotes (argument : Text) : Prop := argument = [] ∨ ' ' ∈ argument

theorem escape_of_needsQuotes {argument : Text} (h : NeedsQuotes argument) :
    escape argument = '"' :: escapedBody argument ++ ['"'] := by
  rcases h with rfl | hblank
  · rfl
  · have hne : ¬argument.isEmpty = true := by
      rw [List.isEmpty_iff]
      exact List.ne_nil_of_mem hblank
    rw [escape, if_neg hne, if_pos hblank]

theorem escape_of_not_needsQuotes {argument : Text} (h : ¬NeedsQuotes argument) :
    escape argument = escapedBody argument := by
  rw [NeedsQuotes, not_or] at h
  rw [escape, if_neg (by simpa using h.1), if_neg h.2]

/-- No body begins with the quote that ends it. -/
theorem head?_escapedBody_ne (argument : Text) : (escapedBody argument).head? ≠ some '"' := by
  cases argument with
  | nil => simp [escapedBody]
  | cons c rest =>
    rw [escapedBody_cons]
    by_cases hc : c = '\\' ∨ c = '"'
    · simp [hc]
    · rw [if_neg hc]
      simpa using (not_or.mp hc).2

theorem blank_mem_escapedBody_iff {argument : Text} :
    ' ' ∈ escapedBody argument ↔ ' ' ∈ argument := by
  induction argument with
  | nil => simp [escapedBody]
  | cons c rest ih =>
    rw [escapedBody_cons, List.mem_append, ih, List.mem_cons]
    by_cases hc : c = '\\' ∨ c = '"'
    · rcases hc with rfl | rfl <;> simp
    · simp [hc]

/-- One character is determined by its written form. -/
theorem escaped_append_inj {c d : Char} {rest rest' : Text}
    (heq : (if c = '\\' ∨ c = '"' then ['\\', c] else [c]) ++ rest =
      (if d = '\\' ∨ d = '"' then ['\\', d] else [d]) ++ rest') : c = d ∧ rest = rest' := by
  split at heq
  · split at heq
    · simpa using heq
    · next hd => exact absurd (List.cons.inj heq).1.symm (not_or.mp hd).1
  · next hc =>
    split at heq
    · exact absurd (List.cons.inj heq).1 (not_or.mp hc).1
    · simpa using heq

/-- A body ends at the first quote that is not escaped, whatever stands behind it. -/
theorem escapedBody_append_quote_inj {first second : Text} (rest rest' : Text)
    (heq : escapedBody first ++ '"' :: rest = escapedBody second ++ '"' :: rest') :
    first = second := by
  have hhead (c : Char) (text tail : Text) :
      (escapedBody (c :: text) ++ tail).head? ≠ some '"' := by
    have hne : escapedBody (c :: text) ≠ [] := by
      rw [escapedBody_cons]
      split <;> simp
    rw [List.head?_append_of_ne_nil _ hne]
    exact head?_escapedBody_ne _
  induction first generalizing second with
  | nil =>
    cases second with
    | nil => rfl
    | cons d second => exact absurd (congrArg List.head? heq).symm (hhead d second _)
  | cons c first ih =>
    cases second with
    | nil => exact absurd (congrArg List.head? heq) (hhead c first _)
    | cons d second =>
      rw [escapedBody_cons, escapedBody_cons, List.append_assoc, List.append_assoc] at heq
      obtain ⟨rfl, hrest⟩ := escaped_append_inj heq
      rw [ih hrest]

theorem isQuoting_escape : IsQuoting escape NeedsQuotes where
  opening argument h := by simp [escape_of_needsQuotes h]
  quoted_inj first second rest rest' hfirst hsecond _ _ heq := by
    rw [escape_of_needsQuotes hfirst, escape_of_needsQuotes hsecond] at heq
    exact escapedBody_append_quote_inj rest rest' (by simpa using heq)
  bare_ne_nil argument h := by
    rw [escape_of_not_needsQuotes h]
    obtain ⟨c, rest, rfl⟩ := List.exists_cons_of_ne_nil (not_or.mp h).1
    rw [escapedBody_cons]
    split <;> simp
  bare_opening argument h := by
    rw [escape_of_not_needsQuotes h]
    exact head?_escapedBody_ne argument
  bare_blank argument h := by
    rw [escape_of_not_needsQuotes h, blank_mem_escapedBody_iff]
    exact (not_or.mp h).2
  bare_inj first second hfirst hsecond heq := by
    rw [escape_of_not_needsQuotes hfirst, escape_of_not_needsQuotes hsecond] at heq
    exact escapedBody_append_quote_inj [] [] (by rw [heq])

end Bash

/-! ## Command lines -/

namespace Style

/-- Which arguments a style quotes. -/
def Quotes : Style → Text → Prop
  | .windows => (Windows.needsQuotes · = true)
  | .bash => Bash.NeedsQuotes

theorem isQuoting_escape (style : Style) : IsQuoting style.escape style.Quotes :=
  match style with
  | .windows => Windows.isQuoting_escape
  | .bash => Bash.isQuoting_escape

/-- What stands behind an argument of a command line is a break. -/
theorem isBreak_behind (style : Style) (others : List Text) :
    IsBreak (if others = [] then [] else ' ' :: style.commandLine others) := by
  split
  · exact isBreak_nil
  · exact isBreak_blank _

theorem commandLine_cons_ne_nil (style : Style) (argument : Text) (others : List Text) :
    style.commandLine (argument :: others) ≠ [] := by
  rw [commandLine_cons]
  exact List.append_ne_nil_of_left_ne_nil (style.isQuoting_escape.ne_nil argument) _

/-- **No two lists of arguments share a command line**, in either style. -/
theorem commandLine_inj (style : Style) (first second : List Text) :
    style.commandLine first = style.commandLine second ↔ first = second := by
  refine ⟨fun heq => ?_, fun heq => congrArg style.commandLine heq⟩
  induction first generalizing second with
  | nil =>
    cases second with
    | nil => rfl
    | cons argument others => exact absurd heq.symm (commandLine_cons_ne_nil style argument others)
  | cons argument others ih =>
    cases second with
    | nil => exact absurd heq (commandLine_cons_ne_nil style argument others)
    | cons argument' others' =>
      rw [commandLine_cons, commandLine_cons] at heq
      obtain ⟨rfl, hbehind⟩ := style.isQuoting_escape.append_inj (style.isBreak_behind others)
        (style.isBreak_behind others') heq
      -- Both lines end here, or both go on behind a blank.
      by_cases hothers : others = []
      · by_cases hothers' : others' = []
        · rw [hothers, hothers']
        · rw [if_pos hothers, if_neg hothers'] at hbehind
          cases hbehind
      · by_cases hothers' : others' = []
        · rw [if_neg hothers, if_pos hothers'] at hbehind
          cases hbehind
        · rw [if_neg hothers, if_neg hothers'] at hbehind
          rw [ih others' (List.cons.inj hbehind).2]

end Style
end LaunchKit
