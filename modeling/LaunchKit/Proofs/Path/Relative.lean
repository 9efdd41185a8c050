import LaunchKit.Proofs.Path.Segments

/-!
# Relative paths in positions

The walk can also be said in positions: how far the two texts agree, and the position behind the
last separator on the way. Whether one text ends where the other goes on with a separator is then
a look-up at a position that might lie beyond an end. It never does, and the way is the same.

## Main definitions

* `Path.relativeByPositions`: the way from a directory to a path, with look-ups that can fail.

## Main statements

* `Path.exists_relativeByPositions`: no look-up fails.
* `Path.relative_eq_segments`: when there is no way, and which way there is otherwise.
-/
namespace LaunchKit.Path

/-! ## The walk in positions -/

/-- The position at which two texts part, and the one behind the last separator before it. -/
def walk : (position past : Nat) → (path base : Text) → Nat × Nat
  | position, past, c :: path, d :: base =>
    if c = d then walk (position + 1) (if c = separator then position + 1 else past) path base
    else (position, past)
  | position, past, _, _ => (position, past)

/-- Whether one text ends at a position and the other goes on with a separator there. A position
beyond the end of the other text has no answer. -/
def endsAtSeparator (position : Nat) (path base : Text) : Option Bool :=
  if position = base.length then path[position]?.map (· = separator)
  else if position = path.length then base[position]?.map (· = separator)
  else some false

/-- The way from the base to the path, said in positions of the two texts. -/
def relativeByPositions (path base : Text) : Option Text :=
  let (position, past) := walk 0 0 path base
  if position = path.length ∧ position = base.length then some []
  else
    (endsAtSeparator position path base).map fun atSeparator =>
      let start := if atSeparator then position + 1 else past
      upAndDown (nameCount (base.drop start)) (path.drop start)

/-- The walk in positions finds the rests that the walk over characters leaves, and looks up no
position beyond an end. `front` is what both texts have behind them. -/
theorem walk_spec (front : Text) (past : Nat) {path base : Text} (hne : path ≠ base) :
    ∃ position behind atSeparator,
      walk front.length past path base = (position, behind) ∧
      ¬(position = (front ++ path).length ∧ position = (front ++ base).length) ∧
      endsAtSeparator position (front ++ path) (front ++ base) = some atSeparator ∧
      diverge ((front ++ path).drop past) ((front ++ base).drop past) path base =
        ((front ++ path).drop (if atSeparator then position + 1 else behind),
          (front ++ base).drop (if atSeparator then position + 1 else behind)) := by
  induction path generalizing front past base with
  | nil =>
    cases base with
    | nil => exact absurd rfl hne
    | cons d base =>
      refine ⟨front.length, past, decide (d = separator), by simp [walk], by simp,
        by simp [endsAtSeparator], ?_⟩
      by_cases hd : d = separator <;> simp [diverge, hd]
  | cons c path ih =>
    cases base with
    | nil =>
      refine ⟨front.length, past, decide (c = separator), by simp [walk], by simp,
        by simp [endsAtSeparator], ?_⟩
      by_cases hc : c = separator <;> simp [diverge, hc]
    | cons d base =>
      by_cases hcd : c = d
      · subst hcd
        have htail : path ≠ base := by
          intro heq
          exact hne (by rw [heq])
        obtain ⟨position, behind, atSeparator, hwalk, hends, hat, hdiverge⟩ :=
          ih (front ++ [c]) (if c = separator then front.length + 1 else past) htail
        have hlength : (front ++ [c]).length = front.length + 1 := by simp
        rw [hlength] at hwalk
        rw [List.append_assoc, List.append_assoc, List.singleton_append, List.singleton_append]
          at hends hat hdiverge
        refine ⟨position, behind, atSeparator, ?_, hends, hat, ?_⟩
        · rw [walk, if_pos rfl]
          exact hwalk
        · rw [← hdiverge, diverge, if_pos rfl]
          by_cases hc : c = separator <;> simp [hc]
      · exact ⟨front.length, past, false, by simp [walk, hcd], by simp,
          by simp [endsAtSeparator], by simp [diverge, hcd]⟩

/-- **No look-up fails**, and the way in positions is the way in characters. -/
theorem exists_relativeByPositions {path base : Text} (h : mismatchCause? path base = none) :
    ∃ way, relativeByPositions path base = some way ∧ relative path base = .ok way := by
  by_cases heq : path = base
  · subst heq
    have hwalk (text : Text) (position past : Nat) :
        (walk position past text text).1 = position + text.length := by
      induction text generalizing position past with
      | nil => simp [walk]
      | cons c text ih =>
        rw [walk, if_pos rfl, ih, List.length_cons]
        omega
    refine ⟨[], ?_, ?_⟩
    · simp [relativeByPositions, hwalk]
    · simp [relative, h]
  · obtain ⟨position, behind, atSeparator, hwalk, hends, hat, hdiverge⟩ := walk_spec [] 0 heq
    rw [List.nil_append, List.nil_append] at hends hat hdiverge
    rw [List.length_nil] at hwalk
    rw [List.drop_zero, List.drop_zero] at hdiverge
    let start := if atSeparator then position + 1 else behind
    refine ⟨upAndDown (nameCount (base.drop start)) (path.drop start), ?_, ?_⟩
    · simp only [relativeByPositions, hwalk, if_neg hends, hat, Option.map_some, start]
    · simp only [relative, h, if_neg heq, hdiverge, start]

/-- There is a way unless only one path is absolute, or both are on different drives. -/
theorem mismatchCause?_eq_none_iff {path base : Text} :
    mismatchCause? path base = none ↔
      ¬(isAbsolute path ≠ isAbsolute base ∨
        isAbsolute path = true ∧ isAbsolute base = true ∧ path.head? ≠ base.head?) := by
  rw [mismatchCause?]
  by_cases habs : isAbsolute path = isAbsolute base
  · by_cases hhead : path.head? = base.head? <;> simp [habs, hhead]
  · simp [habs]

/-- **The way between two paths**, in normal form or not. There is none exactly when only one of
them is absolute or both are with different first characters. Otherwise, behind the longest common
beginning of the two sequences of segments, it goes up once for each segment that is left of the
base, unless these make an empty text, and then down what is left of the path. The walk in
positions finds this way without a look-up beyond an end. -/
theorem relative_eq_segments (path base : Text) :
    let mismatched := isAbsolute path ≠ isAbsolute base ∨
      isAbsolute path = true ∧ isAbsolute base = true ∧ path.head? ≠ base.head?
    ((∃ cause, relative path base = .error ⟨cause, path, base⟩) ↔ mismatched) ∧
    (¬mismatched →
      ∃ common, IsLongestCommon common (path.splitOn separator) (base.splitOn separator) ∧
        let up := (base.splitOn separator).drop common.length
        let down := (path.splitOn separator).drop common.length
        let ups := if List.intercalate [separator] up = [] then 0
          else (base.splitOn separator).length - common.length
        let way := List.intercalate [separator] (List.replicate ups parent ++
          if List.intercalate [separator] down = [] then []
          else [List.intercalate [separator] down])
        relative path base = .ok way ∧ relativeByPositions path base = some way) := by
  intro mismatched
  constructor
  · constructor
    · rintro ⟨cause, herror⟩
      obtain ⟨_, hcause, -⟩ := relative_eq_error_iff.mp herror
      by_cases hmismatched : mismatched
      · exact hmismatched
      · rw [mismatchCause?_eq_none_iff.mpr hmismatched] at hcause
        cases hcause
    · intro hmismatched
      cases hcause : mismatchCause? path base with
      | none => exact absurd hmismatched (mismatchCause?_eq_none_iff.mp hcause)
      | some cause => exact ⟨cause, relative_eq_error_iff.mpr ⟨cause, hcause, rfl⟩⟩
  · intro hnone
    have hcause := mismatchCause?_eq_none_iff.mpr hnone
    obtain ⟨common, hcommon, hdrop⟩ :=
      exists_isLongestCommon_dropCommon (path.splitOn separator) (base.splitOn separator)
    obtain ⟨way, hpositions, hway⟩ := exists_relativeByPositions hcause
    refine ⟨common, hcommon, ?_⟩
    intro up down ups way'
    have hsegments : relative path base = .ok way' := by
      rw [relative_of_mismatchCause?_eq_none hcause]
      simp only [relativeBySegments, hdrop, upAndDown, List.isEmpty_iff, List.length_drop]
      rfl
    refine ⟨hsegments, ?_⟩
    rw [hpositions]
    rw [hway] at hsegments
    exact congrArg some (Except.ok.inj hsegments)

end LaunchKit.Path
