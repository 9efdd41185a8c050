import LaunchKit.CommandLine.Style
import LaunchKit.Proofs.CommandLine.Fields

/-!
# Windows command lines are read argument by argument

A line is read from left to right with a count of pending backslashes, while an argument is
written with the same count running ahead of it. The two meet in `splitAfter_quotedBody`: inside
quotes the reader gets exactly the text behind whatever is pending, so a quoted argument is read
back whole. An argument without quotes is read as its fields, where only a tab can break it.

## Main definitions

* `Windows.readBack`: what is read back of one written argument.

## Main statements

* `Windows.splitArguments_commandLine`: the whole line, for any arguments.
* `Windows.splitArguments_commandLine_eq_self_iff`: the lines that give the arguments back.
-/
namespace LaunchKit.Windows

/-- What is read back of one written argument. -/
def readBack (argument : Text) : List Text :=
  if needsQuotes argument then [argument] else Text.fields isSeparator argument

/-! ## Runs of backslashes -/

@[simp] theorem slashes_zero : slashes 0 = [] := rfl

theorem slashes_succ (n : Nat) : slashes (n + 1) = slashes n ++ ['\\'] :=
  List.replicate_succ'

/-- A run of backslashes is kept pending, inside quotes and outside. -/
theorem splitAfter_slashes (n pending : Nat) (quoted : Bool) (read rest : Text) :
    splitAfter pending quoted (some read) (slashes n ++ rest) =
      splitAfter (pending + n) quoted (some read) rest := by
  induction n generalizing pending with
  | zero => simp
  | succ n ih =>
    have hcons : slashes (n + 1) ++ rest = '\\' :: (slashes n ++ rest) := rfl
    rw [hcons, splitAfter]
    simp only [if_true, Option.getD_some]
    rw [ih (pending + 1)]
    congr 1
    omega

/-- An even run before a quote is halved, and the quote opens or closes a quoted part. -/
theorem splitAfter_even (n : Nat) (quoted : Bool) (read rest : Text) :
    splitAfter 0 quoted (some read) (slashes (2 * n) ++ '"' :: rest) =
      splitAfter 0 (!quoted) (some (read ++ slashes n)) rest := by
  rw [splitAfter_slashes, Nat.zero_add, splitAfter]
  simp

/-- An odd run before a quote is halved, and the quote belongs to the argument. -/
theorem splitAfter_odd (n : Nat) (quoted : Bool) (read rest : Text) :
    splitAfter 0 quoted (some read) (slashes (2 * n + 1) ++ '"' :: rest) =
      splitAfter 0 quoted (some (read ++ slashes n ++ ['"'])) rest := by
  have hhalf : (2 * n + 1) / 2 = n := by omega
  rw [splitAfter_slashes, Nat.zero_add, splitAfter]
  simp [hhalf]

/-! ## One argument -/

/-- **The inside of quotes.** Behind the pending backslashes the reader gets the text, up to the
closing quote. -/
theorem splitAfter_quotedBody (pending : Nat) (read text rest : Text) :
    splitAfter 0 true (some read) (quotedBody pending text ++ '"' :: rest) =
      splitAfter 0 false (some (read ++ slashes pending ++ text)) rest := by
  induction text generalizing pending read with
  | nil =>
    rw [quotedBody, splitAfter_even]
    simp
  | cons c text ih =>
    rw [quotedBody]
    by_cases hslash : c = '\\'
    · rw [if_pos hslash, ih, slashes_succ, hslash]
      simp
    · rw [if_neg hslash]
      by_cases hquote : c = '"'
      · rw [if_pos hquote, List.append_assoc, List.cons_append, splitAfter_odd, ih, hquote]
        simp
      · rw [if_neg hquote, List.append_assoc, List.cons_append, splitAfter_slashes,
          Nat.zero_add, splitAfter]
        simp only [if_neg hslash, if_neg hquote, Bool.not_true, Bool.and_false,
          Bool.false_eq_true, if_false, Option.getD_some]
        rw [ih]
        simp

/-- At a separator or at the end of the line, the argument that has begun is complete. -/
theorem splitAfter_of_break {rest : Text} (h : ∀ c ∈ rest.head?, isSeparator c = true)
    (pending : Nat) (argument : Option Text) :
    splitAfter pending false argument rest =
      (argument.map (· ++ slashes pending)).toList ++ splitAfter 0 false none rest := by
  cases rest with
  | nil => simp [splitAfter]
  | cons c rest =>
    have hc : isSeparator c = true := h c (by simp)
    have hslash : c ≠ '\\' := fun heq => by simp [heq, isSeparator] at hc
    have hquote : c ≠ '"' := fun heq => by simp [heq, isSeparator] at hc
    simp [splitAfter, hslash, hquote, hc]

/-- Without a quote, what is read are the fields of the text. The pending backslashes belong to
the argument that has begun, so there are none before one has. -/
theorem splitAfter_of_not_mem_quote {text rest : Text} (hquote : '"' ∉ text)
    (hrest : ∀ c ∈ rest.head?, isSeparator c = true) (pending : Nat) (argument : Option Text)
    (hpending : argument = none → pending = 0) :
    splitAfter pending false argument (text ++ rest) =
      Text.fieldsAfter isSeparator (argument.map (· ++ slashes pending)) text ++
        splitAfter 0 false none rest := by
  induction text generalizing pending argument with
  | nil => exact splitAfter_of_break hrest pending argument
  | cons c text ih =>
    rw [List.mem_cons, not_or] at hquote
    have hc : c ≠ '"' := Ne.symm hquote.1
    rw [List.cons_append, splitAfter]
    by_cases hslash : c = '\\'
    · subst hslash
      simp only [if_true]
      rw [ih hquote.2 _ _ (by simp)]
      cases argument with
      | none =>
        rw [hpending rfl]
        simp [Text.fieldsAfter, isSeparator, slashes]
      | some read => simp [Text.fieldsAfter, isSeparator, slashes_succ]
    · simp only [if_neg hslash, if_neg hc, Bool.not_false, Bool.and_true]
      by_cases hsep : isSeparator c = true
      · simp only [hsep, if_true, Text.fieldsAfter, List.append_assoc]
        rw [ih hquote.2 0 none (by simp)]
        simp
      · simp only [hsep, Bool.false_eq_true, if_false, Text.fieldsAfter]
        rw [ih hquote.2 0 _ (by simp)]
        cases argument with
        | none =>
          rw [hpending rfl]
          simp
        | some read => simp

/-- A written argument before a separator or the end of the line is read on its own. -/
theorem splitAfter_escape (argument : Text) {rest : Text}
    (hrest : ∀ c ∈ rest.head?, isSeparator c = true) :
    splitAfter 0 false none (escape argument ++ rest) =
      readBack argument ++ splitAfter 0 false none rest := by
  by_cases hneeds : needsQuotes argument = true
  · rw [escape, readBack, if_pos hneeds, if_pos hneeds]
    have hopen : '"' :: quotedBody 0 argument ++ ['"'] ++ rest =
        '"' :: (quotedBody 0 argument ++ '"' :: rest) := by simp
    have hquoted : splitAfter 0 false none ('"' :: (quotedBody 0 argument ++ '"' :: rest)) =
        splitAfter 0 true (some []) (quotedBody 0 argument ++ '"' :: rest) := by
      rw [splitAfter]
      simp
    rw [hopen, hquoted, splitAfter_quotedBody, splitAfter_of_break hrest]
    simp
  · have hquote : '"' ∉ argument := by
      intro hmem
      simp [needsQuotes, hmem] at hneeds
    rw [escape, readBack, if_neg hneeds, if_neg hneeds]
    rw [splitAfter_of_not_mem_quote hquote hrest 0 none (by simp)]
    rfl

/-! ## The whole line -/

/-- **What a program reads.** No argument has an effect on what is read of the others. -/
theorem splitArguments_commandLine (arguments : List Text) :
    splitArguments (Style.windows.commandLine arguments) = arguments.flatMap readBack := by
  rw [splitArguments]
  induction arguments with
  | nil => rfl
  | cons argument others ih =>
    rw [Style.commandLine_cons, Style.escape, List.flatMap_cons]
    rw [splitAfter_escape argument (by split <;> simp [isSeparator])]
    split
    · next hnil => simp [hnil, splitAfter]
    · simp [splitAfter, isSeparator, ih]

/-- An argument without a bare tab is read back as it is. -/
theorem readBack_eq_singleton {argument : Text}
    (h : ¬('\t' ∈ argument ∧ ' ' ∉ argument ∧ '"' ∉ argument)) :
    readBack argument = [argument] := by
  rw [readBack]
  split
  · rfl
  · next hneeds =>
    simp only [needsQuotes, Bool.or_eq_true, List.isEmpty_iff, decide_eq_true_eq,
      not_or] at hneeds
    obtain ⟨⟨hne, hblank⟩, hquote⟩ := hneeds
    have htab : '\t' ∉ argument := by
      intro htab
      exact h ⟨htab, hblank, hquote⟩
    apply Text.fields_of_forall hne
    intro c hc
    have hc₁ : c ≠ ' ' := fun heq => hblank (heq ▸ hc)
    have hc₂ : c ≠ '\t' := fun heq => htab (heq ▸ hc)
    simp [isSeparator, hc₁, hc₂]

/-- Nothing that is read back has a bare tab: where an argument is broken, its tabs are gone. -/
theorem not_bare_tab_of_mem_readBack {argument found : Text} (h : found ∈ readBack argument) :
    ¬('\t' ∈ found ∧ ' ' ∉ found ∧ '"' ∉ found) := by
  rintro ⟨htab, hblank, hquote⟩
  rw [readBack] at h
  split at h
  · next hneeds =>
    have heq : found = argument := by simpa using h
    subst heq
    have hne : found ≠ [] := List.ne_nil_of_mem htab
    simp [needsQuotes, hne, hblank, hquote] at hneeds
  · have hsep := Text.not_separator_of_mem_fields h htab
    simp [isSeparator] at hsep

/-- **Round trip.** A command line gives the arguments back exactly when none of them holds a tab
without a blank or a quote that would bring quotes about. -/
theorem splitArguments_commandLine_eq_self_iff (arguments : List Text) :
    splitArguments (Style.windows.commandLine arguments) = arguments ↔
      ∀ argument ∈ arguments, ¬('\t' ∈ argument ∧ ' ' ∉ argument ∧ '"' ∉ argument) := by
  rw [splitArguments_commandLine]
  exact Text.flatMap_eq_self_iff (fun _ => readBack_eq_singleton)
    (fun _ _ => not_bare_tab_of_mem_readBack) arguments

end LaunchKit.Windows
