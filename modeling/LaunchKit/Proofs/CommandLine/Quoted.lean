import LaunchKit.Proofs.CommandLine.Windows
import Mathlib.Algebra.Ring.Parity
import Mathlib.Data.List.DropRight

/-!
# The rule of a written argument

The writer keeps a count of backslashes and decides about them when it meets the next character.
The rule it follows is said here without a count that runs along: a text is cut after each
character that is not a backslash, a piece that ends in a quote has its backslashes doubled and
one more put before the quote, the last piece has its backslashes doubled, and the others are
copied.

The parity of the backslashes before a quote is what a reader goes by, and the number of
characters that quoting adds is a sum over the pieces; both follow by induction on the rule.

## Main definitions

* `Windows.IsQuotedBody`: the rule between the quotes.
* `Windows.IsWritten`: the rule for a whole argument.
* `Windows.closingSlashes`: the backslashes that stand right behind a text's last other character.
* `Windows.doubledSlashes`: the backslashes that the rule doubles.

## Main statements

* `Windows.isQuotedBody_iff`: the writer follows the rule, and the rule leaves no choice.
* `Windows.IsQuotedBody.odd_closingSlashes`, `Windows.IsQuotedBody.even_closingSlashes`: the
  parities before a quote of the text and before the closing quote.
* `Windows.IsQuotedBody.length`: the characters that the rule adds.
* `Windows.escape_written`: the three for a whole argument.
-/
namespace LaunchKit.Windows

/-- What is written between quotes for a text, by its runs of backslashes. A run here is never cut:
what stands behind it is another character or the end. -/
inductive IsQuotedBody : Text → Text → Prop
  /-- The run at the end is doubled, since the closing quote comes next. -/
  | closing (count : Nat) : IsQuotedBody (slashes count) (slashes (2 * count))
  /-- The run before a quote is doubled, and the quote gets one more backslash. -/
  | quote (count : Nat) {rest body : Text} (next : IsQuotedBody rest body) :
      IsQuotedBody (slashes count ++ '"' :: rest) (slashes (2 * count) ++ '\\' :: '"' :: body)
  /-- The run before another character is copied with it. -/
  | other (count : Nat) {c : Char} {rest body : Text} (hslash : c ≠ '\\') (hquote : c ≠ '"')
      (next : IsQuotedBody rest body) :
      IsQuotedBody (slashes count ++ c :: rest) (slashes count ++ c :: body)

/-- The written form of an argument, by the rule. -/
inductive IsWritten : Text → Text → Prop
  /-- Nothing is written as two quotes. -/
  | empty : IsWritten [] ['"', '"']
  /-- Without a blank and a quote the argument stands as it is. -/
  | bare {argument : Text} (hne : argument ≠ []) (hblank : ' ' ∉ argument)
      (hquote : '"' ∉ argument) : IsWritten argument argument
  /-- Otherwise it stands between quotes. -/
  | quoted {argument body : Text} (hne : argument ≠ []) (h : ' ' ∈ argument ∨ '"' ∈ argument)
      (hbody : IsQuotedBody argument body) : IsWritten argument ('"' :: body ++ ['"'])

/-- How many backslashes a text ends in. -/
def closingSlashes (text : Text) : Nat := (text.rtakeWhile (· = '\\')).length

/-- Whether a run of backslashes that goes on like this ends at a quote or at the end. -/
def endsAtQuote (behind : Text) : Bool := (behind.dropWhile (· = '\\')).head?.all (· = '"')

/-- How many backslashes of a text stand in runs that end at a quote or at the end. -/
def doubledSlashes : Text → Nat
  | [] => 0
  | c :: rest => (if c = '\\' ∧ endsAtQuote rest then 1 else 0) + doubledSlashes rest

/-! ## The writer follows the rule -/

/-- The writer keeps a run of backslashes pending. -/
theorem quotedBody_slashes (pending count : Nat) (rest : Text) :
    quotedBody pending (slashes count ++ rest) = quotedBody (pending + count) rest := by
  induction count generalizing pending with
  | zero => simp
  | succ count ih =>
    have hcons : slashes (count + 1) ++ rest = '\\' :: (slashes count ++ rest) := rfl
    rw [hcons, quotedBody, if_pos rfl, ih]
    congr 1
    omega

/-- The pending backslashes are the beginning of a run. -/
theorem isQuotedBody_quotedBody (pending : Nat) (text : Text) :
    IsQuotedBody (slashes pending ++ text) (quotedBody pending text) := by
  induction text generalizing pending with
  | nil =>
    rw [quotedBody, List.append_nil]
    exact .closing pending
  | cons c text ih =>
    rw [quotedBody]
    by_cases hslash : c = '\\'
    · have hrun : slashes pending ++ c :: text = slashes (pending + 1) ++ text := by
        rw [slashes_succ, hslash]
        simp
      rw [if_pos hslash, hrun]
      exact ih (pending + 1)
    · rw [if_neg hslash]
      by_cases hquote : c = '"'
      · rw [if_pos hquote, hquote, slashes_succ, List.append_assoc]
        exact .quote pending (ih 0)
      · rw [if_neg hquote]
        exact .other pending hslash hquote (ih 0)

/-- Nothing else follows the rule. -/
theorem IsQuotedBody.eq_quotedBody {text body : Text} (h : IsQuotedBody text body) :
    body = quotedBody 0 text := by
  induction h with
  | closing count =>
    rw [← List.append_nil (slashes count), quotedBody_slashes, quotedBody, Nat.zero_add]
  | quote count _ ih =>
    rw [quotedBody_slashes, quotedBody, if_neg (by decide), if_pos rfl, ih, slashes_succ]
    simp
  | other count hslash hquote _ ih =>
    rw [quotedBody_slashes, quotedBody, if_neg hslash, if_neg hquote, ih, Nat.zero_add]

/-- **The rule between the quotes.** -/
theorem isQuotedBody_iff {text body : Text} :
    IsQuotedBody text body ↔ quotedBody 0 text = body := by
  constructor
  · intro h
    exact h.eq_quotedBody.symm
  · rintro rfl
    exact isQuotedBody_quotedBody 0 text

/-- An argument is quoted when it is empty or holds a blank or a quote. -/
theorem needsQuotes_iff {argument : Text} :
    needsQuotes argument = true ↔ argument = [] ∨ ' ' ∈ argument ∨ '"' ∈ argument := by
  simp [needsQuotes, or_assoc]

theorem escape_of_needsQuotes {argument : Text} (h : needsQuotes argument = true) :
    escape argument = '"' :: quotedBody 0 argument ++ ['"'] := by
  rw [escape, if_pos h]

/-- **The rule for a whole argument.** -/
theorem isWritten_iff {argument written : Text} :
    IsWritten argument written ↔ escape argument = written := by
  constructor
  · intro h
    cases h with
    | empty => rfl
    | bare hne hblank hquote =>
      apply escape_of_plain
      simp [needsQuotes, hne, hblank, hquote]
    | quoted hne h hbody =>
      rw [escape_of_needsQuotes (needsQuotes_iff.mpr (.inr h)), isQuotedBody_iff.mp hbody]
  · rintro rfl
    by_cases hne : argument = []
    · rw [hne]
      exact .empty
    · by_cases h : ' ' ∈ argument ∨ '"' ∈ argument
      · rw [escape_of_needsQuotes (needsQuotes_iff.mpr (.inr h))]
        exact .quoted hne h (isQuotedBody_quotedBody 0 argument)
      · obtain ⟨hblank, hquote⟩ := not_or.mp h
        rw [escape_of_plain (by simp [needsQuotes, hne, hblank, hquote])]
        exact .bare hne hblank hquote

/-! ## The backslashes before a quote -/

theorem closingSlashes_concat_slash (text : Text) :
    closingSlashes (text ++ ['\\']) = closingSlashes text + 1 := by
  rw [closingSlashes, List.rtakeWhile_concat_pos _ _ _ (by simp)]
  simp [closingSlashes]

theorem closingSlashes_concat_of_ne {c : Char} (h : c ≠ '\\') (text : Text) :
    closingSlashes (text ++ [c]) = 0 := by
  rw [closingSlashes, List.rtakeWhile_concat_neg _ _ _ (by simpa using h)]
  rfl

/-- What stands before another character has no part in the run at the end. -/
theorem closingSlashes_append_cons {c : Char} (h : c ≠ '\\') (front rest : Text) :
    closingSlashes (front ++ c :: rest) = closingSlashes rest := by
  induction rest using List.reverseRecOn with
  | nil => exact closingSlashes_concat_of_ne h front
  | append_singleton rest d ih =>
    rw [← List.cons_append, ← List.append_assoc]
    by_cases hd : d = '\\'
    · rw [hd, closingSlashes_concat_slash, closingSlashes_concat_slash, ih]
    · rw [closingSlashes_concat_of_ne hd, closingSlashes_concat_of_ne hd]

theorem closingSlashes_slashes (count : Nat) : closingSlashes (slashes count) = count := by
  induction count with
  | zero => rfl
  | succ count ih => rw [slashes_succ, closingSlashes_concat_slash, ih]

theorem length_slashes (count : Nat) : (slashes count).length = count := List.length_replicate

theorem not_mem_slashes {c : Char} (h : c ≠ '\\') (count : Nat) : c ∉ slashes count := by
  intro hmem
  exact h (List.eq_of_mem_replicate hmem)

/-- A quote behind a part without quotes is the next character or comes later. -/
theorem eq_or_exists_of_append_quote {lead rest front behind : Text} {c : Char}
    (hlead : '"' ∉ lead) (h : lead ++ c :: rest = front ++ '"' :: behind) :
    (front = lead ∧ c = '"' ∧ rest = behind) ∨
      ∃ later, front = lead ++ c :: later ∧ rest = later ++ '"' :: behind := by
  rcases List.append_eq_append_iff.mp h with ⟨between, rfl, hrest⟩ | ⟨between, rfl, hbehind⟩
  · cases between with
    | nil =>
      obtain ⟨hc, heq⟩ := List.cons.inj hrest
      exact .inl ⟨List.append_nil lead, hc, heq⟩
    | cons d later =>
      obtain ⟨hc, heq⟩ := List.cons.inj hrest
      exact .inr ⟨later, by rw [hc], heq⟩
  · cases between with
    | nil =>
      obtain ⟨hc, heq⟩ := List.cons.inj hbehind
      exact .inl ⟨(List.append_nil front).symm, hc.symm, heq.symm⟩
    | cons d between =>
      obtain ⟨hd, -⟩ := List.cons.inj hbehind
      exact absurd (by simp [← hd]) hlead

/-- Before a quote of the text stands an odd number of backslashes. -/
theorem IsQuotedBody.odd_closingSlashes {text body front behind : Text}
    (h : IsQuotedBody text body) (heq : body = front ++ '"' :: behind) :
    Odd (closingSlashes front) := by
  induction h generalizing front with
  | closing count =>
    exact absurd (heq ▸ by simp) (not_mem_slashes (c := '"') (by decide) (2 * count))
  | quote count _ ih =>
    have hlead : '"' ∉ slashes (2 * count + 1) := not_mem_slashes (by decide) _
    rw [List.append_cons, ← slashes_succ] at heq
    rcases eq_or_exists_of_append_quote hlead heq with ⟨rfl, -, -⟩ | ⟨later, rfl, hrest⟩
    · rw [closingSlashes_slashes]
      exact odd_two_mul_add_one count
    · rw [closingSlashes_append_cons (by decide)]
      exact ih hrest
  | other count hslash hquote _ ih =>
    have hlead : '"' ∉ slashes count := not_mem_slashes (by decide) _
    rcases eq_or_exists_of_append_quote hlead heq with ⟨-, hc, -⟩ | ⟨later, rfl, hrest⟩
    · exact absurd hc hquote
    · rw [closingSlashes_append_cons hslash]
      exact ih hrest

/-- Before the closing quote stands an even number of backslashes. -/
theorem IsQuotedBody.even_closingSlashes {text body : Text} (h : IsQuotedBody text body) :
    Even (closingSlashes body) := by
  induction h with
  | closing count =>
    rw [closingSlashes_slashes]
    exact even_two_mul count
  | quote count _ ih =>
    rw [List.append_cons, closingSlashes_append_cons (by decide)]
    exact ih
  | other count hslash _ _ ih =>
    rw [closingSlashes_append_cons hslash]
    exact ih

/-- Between quotes, exactly the first quote and the last one stand behind an even number of
backslashes. -/
theorem IsQuotedBody.even_closingSlashes_iff {text body front behind : Text}
    (h : IsQuotedBody text body) (heq : '"' :: body ++ ['"'] = front ++ '"' :: behind) :
    Even (closingSlashes front) ↔ '"' ∉ front ∨ '"' ∉ behind := by
  have hlead : '"' ∉ ([] : Text) := List.not_mem_nil
  rcases eq_or_exists_of_append_quote hlead heq with ⟨rfl, -, -⟩ | ⟨later, rfl, hrest⟩
  · exact iff_of_true ⟨0, rfl⟩ (.inl hlead)
  · rw [closingSlashes_append_cons (by decide)]
    -- A quote that is not the last one belongs to the body.
    rcases List.eq_nil_or_concat behind with rfl | ⟨inner, d, rfl⟩
    · obtain ⟨rfl, -⟩ := List.append_inj' hrest rfl
      exact iff_of_true h.even_closingSlashes (.inr hlead)
    · rw [List.concat_eq_append, ← List.cons_append, ← List.append_assoc] at hrest
      obtain ⟨hbody, hd⟩ := List.append_inj' hrest rfl
      obtain ⟨rfl, -⟩ := List.cons.inj hd
      have hodd := h.odd_closingSlashes hbody
      refine iff_of_false (Nat.not_even_iff_odd.mpr hodd) ?_
      simp

/-! ## The characters that quoting adds -/

theorem endsAtQuote_slashes_append (count : Nat) (rest : Text) :
    endsAtQuote (slashes count ++ rest) = endsAtQuote rest := by
  induction count with
  | zero => rfl
  | succ count ih => exact ih

/-- A run is doubled as a whole or not at all. -/
theorem doubledSlashes_slashes_append (count : Nat) (rest : Text) :
    doubledSlashes (slashes count ++ rest) =
      (if endsAtQuote rest then count else 0) + doubledSlashes rest := by
  induction count with
  | zero => simp
  | succ count ih =>
    have hcons : slashes (count + 1) ++ rest = '\\' :: (slashes count ++ rest) := rfl
    rw [hcons, doubledSlashes, ih, endsAtQuote_slashes_append]
    by_cases hquote : endsAtQuote rest = true
    · simp only [hquote, and_self, if_true]
      omega
    · simp [hquote]

theorem doubledSlashes_closing (count : Nat) : doubledSlashes (slashes count) = count := by
  have hrun := doubledSlashes_slashes_append count []
  rw [List.append_nil] at hrun
  exact hrun

theorem doubledSlashes_quote (count : Nat) (rest : Text) :
    doubledSlashes (slashes count ++ '"' :: rest) = count + doubledSlashes rest := by
  rw [doubledSlashes_slashes_append]
  simp [endsAtQuote, doubledSlashes]

theorem doubledSlashes_other (count : Nat) {c : Char} (hslash : c ≠ '\\') (hquote : c ≠ '"')
    (rest : Text) : doubledSlashes (slashes count ++ c :: rest) = doubledSlashes rest := by
  rw [doubledSlashes_slashes_append]
  simp [endsAtQuote, doubledSlashes, hslash, hquote]

/-- **The length between the quotes.** Each quote of the text adds a backslash, and so does each
backslash in a run that is doubled. -/
theorem IsQuotedBody.length {text body : Text} (h : IsQuotedBody text body) :
    body.length = text.length + text.count '"' + doubledSlashes text := by
  have hcount (count : Nat) : (slashes count).count '"' = 0 :=
    List.count_eq_zero.mpr (not_mem_slashes (by decide) count)
  induction h with
  | closing count =>
    rw [doubledSlashes_closing, hcount, length_slashes, length_slashes]
    omega
  | quote count _ ih =>
    rw [doubledSlashes_quote, List.count_append, hcount, List.count_cons_self]
    simp only [List.length_append, List.length_cons, length_slashes, ih]
    omega
  | other count hslash hquote _ ih =>
    rw [doubledSlashes_other count hslash hquote, List.count_append, hcount,
      List.count_cons_of_ne hquote]
    simp only [List.length_append, List.length_cons, length_slashes, ih]
    omega

/-! ## The whole argument -/

/-- **The rule, and what follows for an argument that is quoted.** The written form is the one of
the rule. Where it has quotes around it, exactly the first quote and the last one stand behind an
even number of backslashes, and the length is that of the argument, two more, and one more for
each quote and for each backslash in a run before a quote or at the end. -/
theorem escape_written (argument : Text) :
    (∀ written, escape argument = written ↔ IsWritten argument written) ∧
    (argument = [] ∨ ' ' ∈ argument ∨ '"' ∈ argument →
      (∀ front behind, escape argument = front ++ '"' :: behind →
        (Even (closingSlashes front) ↔ '"' ∉ front ∨ '"' ∉ behind)) ∧
      (escape argument).length =
        argument.length + 2 + argument.count '"' + doubledSlashes argument) := by
  refine ⟨fun written => isWritten_iff.symm, fun h => ?_⟩
  have hbody : IsQuotedBody argument (quotedBody 0 argument) := isQuotedBody_quotedBody 0 argument
  rw [escape_of_needsQuotes (needsQuotes_iff.mpr h)]
  refine ⟨fun front behind heq => hbody.even_closingSlashes_iff heq, ?_⟩
  rw [List.length_append, List.length_cons, hbody.length, List.length_singleton]
  omega

/-- With quotes and a run at the end, both kinds of doubling happen. -/
theorem escape_written_quotes_and_run :
    IsWritten "\"hi\" \\" "\"\\\"hi\\\" \\\\\"" ∧
    (escape "\"hi\" \\").length = 6 + 2 + 2 + 1 := by
  have h := escape_written "\"hi\" \\"
  exact ⟨(h.1 _).mp (by decide), (h.2 (by decide)).2⟩

end LaunchKit.Windows
