import LaunchKit.Proofs.CommandLine.Quoted

/-!
# Written arguments in positions

The writer can also be said in positions of the argument: the place it has come to, the place where
a run of backslashes ends, and the place from which on nothing has been copied. There may be no such
place, which a negative one says. Characters that stand for themselves are passed, and copied
together when another one comes or the argument ends.

## Main definitions

* `Windows.runEnd`: the end of a run of backslashes.
* `Windows.pieces`: the pieces that are written from a position on.
* `Windows.escapeByPositions`: the written form of one argument.

## Main statements

* `Windows.escapeByPositions_eq`: the two forms are one.
-/
namespace LaunchKit.Windows

/-! ## Runs -/

/-- The end of the run of backslashes at a position. -/
def runEnd (argument : Text) (position : Nat) : Nat :=
  if h : position < argument.length then
    if argument[position] = '\\' then runEnd argument (position + 1) else position
  else position

theorem le_runEnd (argument : Text) (position : Nat) : position ≤ runEnd argument position := by
  fun_induction runEnd argument position with
  | case1 position h hslash ih => omega
  | case2 position h hslash => omega
  | case3 position h => omega

theorem lt_runEnd {argument : Text} {position : Nat} (h : position < argument.length)
    (hslash : argument[position] = '\\') : position < runEnd argument position := by
  rw [runEnd, dif_pos h, if_pos hslash]
  exact le_runEnd argument (position + 1)

theorem runEnd_le {argument : Text} {position : Nat} (h : position ≤ argument.length) :
    runEnd argument position ≤ argument.length := by
  fun_induction runEnd argument position with
  | case1 position h' hslash ih => exact ih h'
  | case2 position h' hslash => exact h
  | case3 position h' => exact h

/-- A run is nothing but backslashes. -/
theorem drop_eq_slashes_append (argument : Text) (position : Nat) :
    argument.drop position =
      slashes (runEnd argument position - position) ++
        argument.drop (runEnd argument position) := by
  fun_induction runEnd argument position with
  | case1 position h hslash ih =>
    have hcount : runEnd argument (position + 1) - position =
        runEnd argument (position + 1) - (position + 1) + 1 := by
      have := le_runEnd argument (position + 1)
      omega
    rw [List.drop_eq_getElem_cons h, hslash, ih, hcount]
    rfl
  | case2 position h hslash => simp
  | case3 position h => simp

/-- A run goes on as far as there are backslashes. -/
theorem getElem_runEnd_ne {argument : Text} {position : Nat}
    (h : runEnd argument position < argument.length) :
    argument[runEnd argument position] ≠ '\\' := by
  fun_induction runEnd argument position with
  | case1 position h' hslash ih => exact ih h
  | case2 position h' hslash => exact hslash
  | case3 position h' => exact absurd h h'

/-! ## Pieces -/

/-- What has been passed and not yet copied. -/
def segment (argument : Text) (start : Int) (stop : Nat) : List Text :=
  if start < 0 then [] else [argument.extract start.toNat stop]

/-- The place from which on nothing has been copied, when the character at a position is passed. -/
def opened (start : Int) (position : Nat) : Int := if start < 0 then position else start

/-- The pieces that are written from a position on, and before them what has been passed from
`start` on. -/
def pieces (argument : Text) (start : Int) (position : Nat) : List Text :=
  if h : position < argument.length then
    let c := argument[position]
    let passed := segment argument start position
    if c ≠ '"' ∧ c ≠ '\\' then pieces argument (opened start position) (position + 1)
    else if c = '"' then passed ++ ['\\', '"'] :: pieces argument (-1) (position + 1)
    else
      let stop := runEnd argument position
      let count := stop - position
      if hstop : stop < argument.length then
        if argument[stop] = '"' then
          passed ++ slashes (2 * count) :: ['\\', '"'] :: pieces argument (-1) (stop + 1)
        else passed ++ slashes count :: pieces argument (-1) stop
      else passed ++ slashes (2 * count) :: pieces argument (-1) stop
  else segment argument start argument.length
termination_by argument.length - position
decreasing_by
  all_goals
    have hrun : argument[position] = '\\' → position < runEnd argument position := lt_runEnd h
    grind

/-- The written form of an argument, put together from its pieces. -/
def escapeByPositions (argument : Text) : Text :=
  if argument = [] then ['"', '"']
  else if ' ' ∉ argument ∧ '"' ∉ argument then argument
  else (['"'] :: pieces argument 0 0 ++ [['"']]).flatten

/-! ## The two forms -/

@[simp] theorem segment_neg_one (argument : Text) (stop : Nat) :
    segment argument (-1) stop = [] := rfl

theorem opened_le {start : Int} {position : Nat} (h : start ≤ position) :
    opened start position ≤ (position + 1 : Nat) := by
  rw [opened]
  split <;> omega

theorem extract_succ {argument : Text} {start position : Nat} (hstart : start ≤ position)
    (h : position < argument.length) :
    argument.extract start (position + 1) =
      argument.extract start position ++ [argument[position]] := by
  have hlast : position - start < (argument.drop start).length := by
    rw [List.length_drop]
    omega
  have hplace : start + (position - start) = position := by omega
  rw [List.extract_eq_take_drop, List.extract_eq_take_drop, Nat.succ_sub hstart,
    List.take_succ_eq_append_getElem hlast, List.getElem_drop]
  simp only [hplace]

/-- With one more character passed, the segment is longer by it. -/
theorem flatten_segment_opened {argument : Text} {start : Int} {position : Nat}
    (hstart : start ≤ position) (h : position < argument.length) :
    (segment argument (opened start position) (position + 1)).flatten =
      (segment argument start position).flatten ++ [argument[position]] := by
  by_cases hneg : start < 0
  · have hfirst : ¬((position : Int) < 0) := by omega
    simp only [segment, opened, if_pos hneg, if_neg hfirst, List.flatten_singleton,
      List.flatten_nil, Int.toNat_natCast]
    rw [extract_succ (Nat.le_refl position) h]
    simp
  · simp only [segment, opened, if_neg hneg, List.flatten_singleton]
    exact extract_succ (by omega) h

/-- A quote, behind a run of backslashes. -/
theorem quotedBody_drop_quote {argument : Text} {position : Nat} (h : position < argument.length)
    (hquote : argument[position] = '"') (pending : Nat) :
    quotedBody pending (argument.drop position) =
      slashes (2 * pending) ++ ['\\', '"'] ++ quotedBody 0 (argument.drop (position + 1)) := by
  rw [List.drop_eq_getElem_cons h, hquote, quotedBody, if_neg (by decide), if_pos rfl, slashes_succ]
  simp

/-- Another character, behind a run of backslashes. -/
theorem quotedBody_drop_other {argument : Text} {position : Nat} (h : position < argument.length)
    (hquote : argument[position] ≠ '"') (hslash : argument[position] ≠ '\\') (pending : Nat) :
    quotedBody pending (argument.drop position) =
      slashes pending ++ quotedBody 0 (argument.drop position) := by
  rw [List.drop_eq_getElem_cons h, quotedBody, if_neg hslash, if_neg hquote, quotedBody,
    if_neg hslash, if_neg hquote, slashes_zero, List.nil_append]

/-- A run of backslashes is pending where it ends. -/
theorem quotedBody_drop_run (argument : Text) (position : Nat) :
    quotedBody 0 (argument.drop position) =
      quotedBody (runEnd argument position - position)
        (argument.drop (runEnd argument position)) := by
  rw [drop_eq_slashes_append, quotedBody_slashes, Nat.zero_add]

/-- **What the pieces are.** The segment that is not yet copied comes first, and behind it what is
written for the rest. -/
theorem flatten_pieces {argument : Text} {start : Int} {position : Nat} (hstart : start ≤ position)
    (h : position ≤ argument.length) :
    (pieces argument start position).flatten =
      (segment argument start position).flatten ++ quotedBody 0 (argument.drop position) := by
  fun_induction pieces argument start position with
  | case1 start position h' c hc ih =>
    have hpassed : c :: quotedBody 0 (argument.drop (position + 1)) =
        quotedBody 0 (argument.drop position) := by
      rw [List.drop_eq_getElem_cons h', quotedBody, if_neg hc.2, if_neg hc.1]
      rfl
    rw [ih (opened_le hstart) h', flatten_segment_opened hstart h', ← hpassed]
    simp [c]
  | case2 start position h' c passed hc hquote ih =>
    rw [quotedBody_drop_quote h' hquote, List.flatten_append, List.flatten_cons,
      ih (by omega) h']
    simp [passed]
  | case3 start position h' c passed hc hquote stop count hstop hnext ih =>
    have hrun := quotedBody_drop_run argument position
    rw [quotedBody_drop_quote hstop hnext] at hrun
    rw [hrun, List.flatten_append, List.flatten_cons, List.flatten_cons, ih (by omega) hstop]
    simp [passed, count, stop]
  | case4 start position h' c passed hc hquote stop count hstop hnext ih =>
    have hrun := quotedBody_drop_run argument position
    rw [quotedBody_drop_other hstop hnext (getElem_runEnd_ne hstop)] at hrun
    rw [hrun, List.flatten_append, List.flatten_cons, ih (by omega) (Nat.le_of_lt hstop)]
    simp [passed, count, stop]
  | case5 start position h' c passed hc hquote stop count hstop ih =>
    have hend : argument.drop stop = [] := List.drop_of_length_le (Nat.le_of_not_lt hstop)
    have hrun := quotedBody_drop_run argument position
    rw [hend, quotedBody] at hrun
    rw [hrun, List.flatten_append, List.flatten_cons, ih (by omega) (runEnd_le h), hend,
      quotedBody]
    simp [passed, count, stop]
  | case6 start position h' =>
    have hend : position = argument.length := by omega
    rw [hend, List.drop_length, quotedBody]
    simp

/-- **The two forms are one.** -/
theorem escapeByPositions_eq (argument : Text) : escapeByPositions argument = escape argument := by
  rw [escapeByPositions]
  by_cases hne : argument = []
  · rw [if_pos hne, hne, escape_nil]
  · rw [if_neg hne]
    by_cases hplain : ' ' ∉ argument ∧ '"' ∉ argument
    · rw [if_pos hplain, escape_of_plain (by simp [needsQuotes, hne, hplain])]
    · have hneeds : ' ' ∈ argument ∨ '"' ∈ argument := by
        rwa [not_and_or, not_not, not_not] at hplain
      rw [if_neg hplain, escape_of_needsQuotes (needsQuotes_iff.mpr (.inr hneeds)),
        List.flatten_append, List.flatten_cons, flatten_pieces (by omega) (Nat.zero_le _)]
      simp [segment]

end LaunchKit.Windows
