import LaunchKit.CommandLine.Style
import LaunchKit.Proofs.CommandLine.Fields

/-!
# Shell command strings are read word by word

As long as no single quote stands outside double quotes, every argument begins and ends outside
quotes, and a string is read argument by argument. One such quote is enough to lose this: all that
follows may be read in the wrong place, up to another single quote anywhere in the string. What it
cannot do is come back: a single quote that opens or closes a quoted part is in no word, the reader
makes none, and so there are fewer of them in the words than in the arguments.

## Main definitions

* `Bash.readBack`: what is read back of one written argument outside quotes.
* `Bash.OpensQuote`: whether an argument has a single quote that the reader meets outside quotes.

## Main statements

* `Bash.splitWords_commandLine`: the whole string, where no argument opens a quoted part.
* `Bash.count_quote_lt_of_opensQuote`: the count of single quotes, where one does.
* `Bash.splitWords_commandLine_eq_some_iff`: the strings that give the arguments back.
-/
namespace LaunchKit.Bash

/-- What is read back of one written argument, unless a single quote gets in the way. -/
def readBack (argument : Text) : List Text :=
  if argument.isEmpty ∨ ' ' ∈ argument then [argument] else Text.fields isSeparator argument

/-- Whether a single quote of the argument opens a quoted part. -/
def OpensQuote (argument : Text) : Prop := '\'' ∈ argument ∧ ' ' ∉ argument

/-! ## One argument -/

theorem escapedBody_cons (c : Char) (rest : Text) :
    escapedBody (c :: rest) =
      (if c = '\\' ∨ c = '"' then ['\\', c] else [c]) ++ escapedBody rest := by
  rw [escapedBody_eq_flatMap, escapedBody_eq_flatMap, List.flatMap_cons]

theorem escapedBody_append (first second : Text) :
    escapedBody (first ++ second) = escapedBody first ++ escapedBody second := by
  simp only [escapedBody_eq_flatMap, List.flatMap_append]

/-- Between double quotes the body is read as the argument. -/
theorem splitAfter_double_escapedBody (word text rest : Text) :
    splitAfter .double (some word) (escapedBody text ++ '"' :: rest) =
      splitAfter .plain (some (word ++ text)) rest := by
  induction text generalizing word with
  | nil => simp [escapedBody_eq_flatMap, splitAfter]
  | cons c text ih =>
    rw [escapedBody_cons]
    by_cases hc : c = '\\' ∨ c = '"'
    · rw [if_pos hc]
      rcases hc with rfl | rfl <;> simp [splitAfter, ih]
    · rw [if_neg hc]
      rw [not_or] at hc
      simp [splitAfter, hc.1, hc.2, ih]

/-- At a separator or at the end of the line, the word that has begun is complete. -/
theorem splitAfter_of_break {rest : Text} (h : ∀ c ∈ rest.head?, isSeparator c = true)
    (word : Option Text) :
    splitAfter .plain word rest = (splitAfter .plain none rest).map (word.toList ++ ·) := by
  cases rest with
  | nil => cases word <;> simp [splitAfter]
  | cons c rest =>
    have hc : isSeparator c = true := h c (by simp)
    simp [splitAfter, hc]

/-- Outside quotes and without a single quote, what is read are the fields of the text. -/
theorem splitAfter_plain_escapedBody {text rest : Text} (hquote : '\'' ∉ text)
    (hrest : ∀ c ∈ rest.head?, isSeparator c = true) (word : Option Text) :
    splitAfter .plain word (escapedBody text ++ rest) =
      (splitAfter .plain none rest).map (Text.fieldsAfter isSeparator word text ++ ·) := by
  induction text generalizing word with
  | nil =>
    have hnil : escapedBody [] = [] := rfl
    rw [hnil, List.nil_append, splitAfter_of_break hrest]
    rfl
  | cons c text ih =>
    rw [List.mem_cons, not_or] at hquote
    have hne : c ≠ '\'' := Ne.symm hquote.1
    rw [escapedBody_cons]
    by_cases hc : c = '\\' ∨ c = '"'
    · have hsep : isSeparator c = false := by rcases hc with rfl | rfl <;> rfl
      rw [if_pos hc]
      simp only [List.cons_append, List.nil_append, splitAfter, Text.fieldsAfter, hsep]
      simpa [isSeparator] using ih hquote.2 _
    · rw [if_neg hc]
      rw [not_or] at hc
      rw [List.append_assoc, List.cons_append, List.nil_append, splitAfter, Text.fieldsAfter]
      by_cases hsep : isSeparator c = true
      · rw [if_pos hsep, if_pos hsep, ih hquote.2 none]
        simp [Function.comp_def]
      · rw [if_neg hsep, if_neg hsep, if_neg hne, if_neg hc.2, if_neg hc.1, ih hquote.2]

/-- One written argument before a separator or the end of the line is read on its own. -/
theorem splitAfter_escape {argument rest : Text} (hquote : ¬OpensQuote argument)
    (hrest : ∀ c ∈ rest.head?, isSeparator c = true) :
    splitAfter .plain none (escape argument ++ rest) =
      (splitAfter .plain none rest).map (readBack argument ++ ·) := by
  rw [escape, readBack]
  by_cases hempty : argument.isEmpty = true
  · rw [if_pos hempty, if_pos (Or.inl hempty), List.isEmpty_iff.mp hempty]
    have h := splitAfter_of_break hrest (some [])
    simpa [splitAfter, isSeparator] using h
  · by_cases hblank : ' ' ∈ argument
    · rw [if_neg hempty, if_pos hblank, if_pos (Or.inr hblank)]
      have hopen : '"' :: escapedBody argument ++ ['"'] ++ rest =
          '"' :: (escapedBody argument ++ '"' :: rest) := by simp
      have hquoted : splitAfter .plain none ('"' :: (escapedBody argument ++ '"' :: rest)) =
          splitAfter .double (some []) (escapedBody argument ++ '"' :: rest) := by
        simp [splitAfter, isSeparator]
      rw [hopen, hquoted, splitAfter_double_escapedBody, splitAfter_of_break hrest]
      simp
    · have hfree : '\'' ∉ argument := by
        intro hmem
        exact hquote ⟨hmem, hblank⟩
      have hplain : ¬(argument.isEmpty = true ∨ ' ' ∈ argument) := by
        intro h
        rcases h with h | h
        · exact hempty h
        · exact hblank h
      rw [if_neg hempty, if_neg hblank, if_neg hplain]
      exact splitAfter_plain_escapedBody hfree hrest none

/-! ## The whole string -/

/-- The words of a string in which no single quote opens a quoted part. -/
theorem splitWords_commandLine {arguments : List Text}
    (hquote : ∀ argument ∈ arguments, ¬OpensQuote argument) :
    splitWords (Style.bash.commandLine arguments) = some (arguments.flatMap readBack) := by
  rw [splitWords]
  induction arguments with
  | nil => rfl
  | cons argument others ih =>
    rw [Style.commandLine_cons, Style.escape, List.flatMap_cons]
    rw [splitAfter_escape (hquote argument (by simp)) (by split <;> simp [isSeparator])]
    split
    · next hnil => simp [hnil, splitAfter]
    · have hothers := ih fun other hmem => hquote other (List.mem_cons_of_mem _ hmem)
      simp [splitAfter, isSeparator, hothers]

/-! ## Counting single quotes -/

/-- **One step** of the reader, whatever follows, ends some words and goes on with another, and
makes no single quote. -/
theorem exists_step (place : Place) (word : Option Text) (c : Char) :
    ∃ (ended : List Text) (next : Place) (begun : Option Text),
      (∀ rest, splitAfter place word (c :: rest) =
        (splitAfter next begun rest).map (ended ++ ·)) ∧
      (ended.flatten ++ begun.getD []).count '\'' ≤
        (word.getD []).count '\'' + [c].count '\'' := by
  cases place with
  | plain =>
    by_cases hsep : isSeparator c = true
    · refine ⟨word.toList, .plain, none, fun rest => by simp [splitAfter, hsep], ?_⟩
      cases word <;> simp
    · by_cases hsingle : c = '\''
      · exact ⟨[], .single, some (word.getD []),
          fun rest => by simp [splitAfter, hsingle, isSeparator], by simp⟩
      · by_cases hdouble : c = '"'
        · exact ⟨[], .double, some (word.getD []),
            fun rest => by simp [splitAfter, hdouble, isSeparator], by simp⟩
        · by_cases hslash : c = '\\'
          · exact ⟨[], .escapedPlain, some (word.getD []),
              fun rest => by simp [splitAfter, hslash, isSeparator], by simp⟩
          · exact ⟨[], .plain, some (word.getD [] ++ [c]),
              fun rest => by simp [splitAfter, hsep, hsingle, hdouble, hslash], by simp⟩
  | single =>
    by_cases hsingle : c = '\''
    · exact ⟨[], .plain, word, fun rest => by simp [splitAfter, hsingle], by simp⟩
    · exact ⟨[], .single, some (word.getD [] ++ [c]),
        fun rest => by simp [splitAfter, hsingle], by simp⟩
  | double =>
    by_cases hdouble : c = '"'
    · exact ⟨[], .plain, word, fun rest => by simp [splitAfter, hdouble], by simp⟩
    · by_cases hslash : c = '\\'
      · exact ⟨[], .escapedDouble, word, fun rest => by simp [splitAfter, hslash], by simp⟩
      · exact ⟨[], .double, some (word.getD [] ++ [c]),
          fun rest => by simp [splitAfter, hdouble, hslash], by simp⟩
  | escapedPlain =>
    exact ⟨[], .plain, some (word.getD [] ++ [c]), fun rest => by simp [splitAfter], by simp⟩
  | escapedDouble =>
    refine ⟨[], .double, some (word.getD [] ++ if c = '"' ∨ c = '\\' then [c] else ['\\', c]),
      fun rest => by simp [splitAfter], ?_⟩
    split <;> simp [List.count_cons]

/-- The single quotes of the words stand in the text. -/
theorem count_quote_le {place : Place} {word : Option Text} {text : Text} {words : List Text}
    (h : splitAfter place word text = some words) :
    words.flatten.count '\'' ≤ (word.getD []).count '\'' + text.count '\'' := by
  induction text generalizing place word words with
  | nil =>
    cases place <;> simp only [splitAfter, reduceCtorEq, Option.some.injEq] at h
    subst h
    cases word <;> simp
  | cons c text ih =>
    obtain ⟨ended, next, begun, hstep, hcount⟩ := exists_step place word c
    rw [hstep] at h
    obtain ⟨others, hothers, rfl⟩ := Option.map_eq_some_iff.mp h
    have hle := ih hothers
    rw [List.flatten_append, List.count_append]
    rw [List.count_append] at hcount
    have hsplit : (c :: text).count '\'' = [c].count '\'' + text.count '\'' := by
      rw [← List.count_append]
      rfl
    omega

/-- A written text without single quotes leaves the reader outside quotes. -/
theorem exists_run {text : Text} (hquote : '\'' ∉ text) (word : Option Text) :
    ∃ (ended : List Text) (begun : Option Text),
      (∀ rest, splitAfter .plain word (escapedBody text ++ rest) =
        (splitAfter .plain begun rest).map (ended ++ ·)) ∧
      (ended.flatten ++ begun.getD []).count '\'' ≤ (word.getD []).count '\'' := by
  induction text generalizing word with
  | nil => exact ⟨[], word, by simp [escapedBody_eq_flatMap], by simp⟩
  | cons c text ih =>
    rw [List.mem_cons, not_or] at hquote
    have hne : c ≠ '\'' := Ne.symm hquote.1
    by_cases hsep : isSeparator c = true
    · obtain ⟨ended, begun, hrun, hcount⟩ := ih hquote.2 none
      have hc : ¬(c = '\\' ∨ c = '"') := by rintro (rfl | rfl) <;> simp [isSeparator] at hsep
      refine ⟨word.toList ++ ended, begun, ?_, ?_⟩
      · intro rest
        simp [escapedBody_cons, hc, splitAfter, hsep, hrun, Function.comp_def]
      · cases word <;> simp at hcount ⊢ <;> omega
    · obtain ⟨ended, begun, hrun, hcount⟩ := ih hquote.2 (some (word.getD [] ++ [c]))
      refine ⟨ended, begun, ?_, ?_⟩
      · intro rest
        by_cases hc : c = '\\' ∨ c = '"'
        · rcases hc with rfl | rfl <;> simp [escapedBody_cons, splitAfter, isSeparator, hrun]
        · rw [not_or] at hc
          simp [escapedBody_cons, splitAfter, hsep, hne, hc.1, hc.2, hrun]
      · simpa [hne] using hcount

@[simp] theorem count_quote_escapedBody (text : Text) :
    (escapedBody text).count '\'' = text.count '\'' := by
  induction text with
  | nil => rfl
  | cons c text ih =>
    rw [escapedBody_cons, List.count_append, ih]
    by_cases hc : c = '\\' ∨ c = '"'
    · rcases hc with rfl | rfl <;> simp
    · simp [hc, List.count_cons, Nat.add_comm]

theorem count_quote_escape (argument : Text) :
    (escape argument).count '\'' = argument.count '\'' := by
  rw [escape]
  split
  · next h => simp [List.isEmpty_iff.mp h]
  · split <;> simp

/-- Writing makes no single quote and drops none. -/
theorem count_quote_commandLine (arguments : List Text) :
    (Style.bash.commandLine arguments).count '\'' = arguments.flatten.count '\'' := by
  induction arguments with
  | nil => rfl
  | cons argument others ih =>
    rw [Style.commandLine_cons, Style.escape, List.count_append, count_quote_escape,
      List.flatten_cons, List.count_append, ← ih]
    split
    · next h => simp [h]
    · simp

/-- A single quote that opens a quoted part is lost, wherever that part comes to its end. -/
theorem count_quote_lt {argument rest : Text} {words : List Text} (hopen : OpensQuote argument)
    (h : splitAfter .plain none (escape argument ++ rest) = some words) :
    words.flatten.count '\'' < (escape argument ++ rest).count '\'' := by
  obtain ⟨front, back, hsplit, hfront⟩ := List.eq_append_cons_of_mem hopen.1
  have hescape : escape argument = escapedBody front ++ '\'' :: escapedBody back := by
    have hne : ¬argument.isEmpty = true := by simp [hsplit]
    rw [escape, if_neg hne, if_neg hopen.2, hsplit, escapedBody_append, escapedBody_cons]
    rfl
  rw [hescape, List.append_assoc, List.cons_append] at h ⊢
  obtain ⟨ended, begun, hrun, hcount⟩ := exists_run hfront none
  rw [hrun] at h
  obtain ⟨others, hothers, rfl⟩ := Option.map_eq_some_iff.mp h
  have hsingle : splitAfter .plain begun ('\'' :: (escapedBody back ++ rest)) =
      splitAfter .single (some (begun.getD [])) (escapedBody back ++ rest) := by
    simp [splitAfter, isSeparator]
  rw [hsingle] at hothers
  have hle := count_quote_le hothers
  simp only [List.flatten_append, List.count_append, List.count_cons_self, Option.getD_some,
    Option.getD_none, List.count_nil] at hle hcount ⊢
  omega

theorem count_quote_readBack_le {argument : Text} (hquote : ¬OpensQuote argument) :
    (readBack argument).flatten.count '\'' ≤ argument.count '\'' := by
  have hself : splitWords (escape argument) = some (readBack argument) := by
    have h := splitAfter_escape hquote (by simp : ∀ c ∈ ([] : Text).head?, isSeparator c = true)
    simpa [splitWords, splitAfter] using h
  have hle := count_quote_le hself
  rw [count_quote_escape] at hle
  simpa using hle

/-- So the words of a line hold fewer single quotes than the arguments do, as soon as one of these
opens a quoted part. -/
theorem count_quote_lt_of_opensQuote {arguments words : List Text}
    (hopen : ∃ argument ∈ arguments, OpensQuote argument)
    (h : splitWords (Style.bash.commandLine arguments) = some words) :
    words.flatten.count '\'' < arguments.flatten.count '\'' := by
  rw [← count_quote_commandLine arguments]
  induction arguments generalizing words with
  | nil => simp at hopen
  | cons argument others ih =>
    rw [splitWords] at h
    rw [Style.commandLine_cons, Style.escape] at h ⊢
    by_cases hfirst : OpensQuote argument
    · exact count_quote_lt hfirst h
    · have hothers : ∃ other ∈ others, OpensQuote other := by simpa [hfirst] using hopen
      have hne : others ≠ [] := by
        intro heq
        simp [heq] at hothers
      rw [if_neg hne] at h ⊢
      rw [splitAfter_escape hfirst (by simp [isSeparator])] at h
      obtain ⟨found, hfound, rfl⟩ := Option.map_eq_some_iff.mp h
      have hblank : splitWords (Style.bash.commandLine others) = some found := by
        simpa [splitWords, splitAfter, isSeparator] using hfound
      have hlt := ih hothers hblank
      have hle := count_quote_readBack_le hfirst
      rw [List.flatten_append, List.count_append, List.count_append, count_quote_escape,
        List.count_cons_of_ne (by decide)]
      omega

/-! ## The round trip -/

/-- An argument that nothing breaks is read back as it is. -/
theorem readBack_eq_singleton {argument : Text}
    (h : ' ' ∉ argument → ∀ c ∈ argument, isSeparator c = false) :
    readBack argument = [argument] := by
  rw [readBack]
  split
  · rfl
  · next hplain =>
    rw [not_or, List.isEmpty_iff] at hplain
    exact Text.fields_of_forall hplain.1 (h hplain.2)

/-- No word that is read back breaks when it is written again. -/
theorem not_separator_of_mem_readBack {argument found : Text} (h : found ∈ readBack argument)
    (hblank : ' ' ∉ found) : ∀ c ∈ found, isSeparator c = false := by
  intro c hc
  rw [readBack] at h
  split at h
  · next hquoted =>
    have heq : found = argument := by simpa using h
    subst heq
    rcases hquoted with hempty | hmem
    · rw [List.isEmpty_iff.mp hempty] at hc
      simp at hc
    · exact absurd hmem hblank
  · exact Text.not_separator_of_mem_fields h hc

/-- **Round trip.** A command string is read, and gives the arguments back, exactly when none that
is written without double quotes holds a single quote, a tab or a line end. -/
theorem splitWords_commandLine_eq_some_iff (arguments : List Text) :
    splitWords (Style.bash.commandLine arguments) = some arguments ↔
      ∀ argument ∈ arguments, ' ' ∉ argument →
        '\'' ∉ argument ∧ '\t' ∉ argument ∧ '\r' ∉ argument ∧ '\n' ∉ argument := by
  have hsound := Text.flatMap_eq_self_iff (fun _ => readBack_eq_singleton)
    (fun _ _ => not_separator_of_mem_readBack) arguments
  constructor
  · intro h argument hmem hblank
    have hquote : ∀ other ∈ arguments, ¬OpensQuote other := by
      intro other hother hopen
      exact Nat.lt_irrefl _ (count_quote_lt_of_opensQuote ⟨other, hother, hopen⟩ h)
    rw [splitWords_commandLine hquote, Option.some_inj, hsound] at h
    have hsep := h argument hmem hblank
    refine ⟨fun hc => hquote argument hmem ⟨hc, hblank⟩, ?_, ?_, ?_⟩
    · intro hc
      exact absurd (hsep _ hc) (by decide)
    · intro hc
      exact absurd (hsep _ hc) (by decide)
    · intro hc
      exact absurd (hsep _ hc) (by decide)
  · intro h
    have hquote : ∀ argument ∈ arguments, ¬OpensQuote argument := by
      intro argument hmem hopen
      exact (h argument hmem hopen.2).1 hopen.1
    rw [splitWords_commandLine hquote, Option.some_inj, hsound]
    intro argument hmem hblank c hc
    obtain ⟨-, htab, hreturn, hline⟩ := h argument hmem hblank
    have h₁ : c ≠ ' ' := fun heq => hblank (heq ▸ hc)
    have h₂ : c ≠ '\t' := fun heq => htab (heq ▸ hc)
    have h₃ : c ≠ '\r' := fun heq => hreturn (heq ▸ hc)
    have h₄ : c ≠ '\n' := fun heq => hline (heq ▸ hc)
    simp [isSeparator, h₁, h₂, h₃, h₄]

end LaunchKit.Bash
