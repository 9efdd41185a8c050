import LaunchKit.Proofs.Path.Repeated
import LaunchKit.Proofs.Text.Recased

/-!
# Paths that differ in the case of ASCII letters

No rule of conversion looks at the case of a letter: drives are found by marks and by whether a
character is a letter, the long form of a share is opened in either case, and names are told apart
by separators and dots. So each step goes through a change of case, and converted paths of texts
that differ in the case of ASCII letters differ in the case of ASCII letters. In lower case they are
the same.

## Main statements

* `Path.normalize_map`, `Path.windowsForm_map`: normal and converted forms after a change of case.
* `Path.convertFolded_eq_of_isCaseVariant`: paths with one converted form in lower case.
-/
namespace LaunchKit.Path

open Text (IsRecasing IsCaseVariant)

section Recasing

variable {f : Char → Char} (hf : IsRecasing f)
include hf

/-! ## Drives and roots -/

theorem map_separator : f separator = separator := hf.apply_mark rfl

theorem withBackslashes_map (path : Text) :
    withBackslashes (path.map f) = (withBackslashes path).map f := by
  have hslash : f '/' = '/' := hf.apply_mark rfl
  rw [withBackslashes, withBackslashes, List.map_map, List.map_map]
  refine List.map_congr_left fun c _ => ?_
  by_cases hc : c = '/'
  · simp [hc, hslash, map_separator hf]
  · have hc' : f c ≠ '/' := mt (hf.mark rfl c).mp hc
    simp [hc, hc']

theorem keepsDrives_of_isRecasing : KeepsDrives f where
  separator c := by
    have hback : f c = '\\' ↔ c = '\\' := hf.mark rfl c
    have hslash : f c = '/' ↔ c = '/' := hf.mark rfl c
    simp only [isSeparator, hback, hslash]
  colon := hf.mark rfl
  opening text := by
    rw [withBackslashes_map hf, List.map_map]
    exact List.map_congr_left fun c _ => hf.upper c

theorem head?_map_eq_separator (rest : Text) :
    (rest.map f).head? = some separator ↔ rest.head? = some separator := by
  cases rest with
  | nil => simp
  | cons c rest => simpa using hf.mark (m := separator) rfl c

/-- Root and rest are mapped each by itself. -/
theorem splitRoot_map (path : Text) :
    splitRoot (path.map f) = ((splitRoot path).1.map f, (splitRoot path).2.map f) := by
  have hseparator (c : Char) : f c = separator ↔ c = separator := hf.mark rfl c
  have hdrop (rest : Text) : (rest.map f).dropWhile (· = separator) =
      (rest.dropWhile (· = separator)).map f := by
    rw [List.dropWhile_map]
    simp only [Function.comp_def, hseparator]
  rw [splitRoot, splitRoot, (keepsDrives_of_isRecasing hf).splitDrive_map]
  simp only [head?_map_eq_separator hf, hdrop]
  split
  · simp [map_separator hf]
  · rfl

/-! ## Names -/

/-- One name on the stack. -/
theorem push_map (rooted : Bool) (stack : List Text) (name : Text) :
    push rooted (stack.map (List.map f)) (name.map f) =
      (push rooted stack name).map (List.map f) := by
  have hnil : name.map f = [] ↔ name = [] := hf.map_eq_iff_of_marks rfl
  have hcurrent : name.map f = current ↔ name = current := hf.map_eq_iff_of_marks rfl
  have hparent (text : Text) : text.map f = parent ↔ text = parent := hf.map_eq_iff_of_marks rfl
  have hself : parent.map f = parent := (hparent parent).mpr rfl
  rw [push.eq_def rooted (stack.map _), push.eq_def rooted stack]
  -- The branch is chosen by names of marks, so both sides are in the same one.
  simp only [hnil, hcurrent, hparent]
  split
  · rfl
  · split
    · cases stack with
      | nil => cases rooted <;> simp [hself]
      | cons last others =>
        simp only [List.map_cons, hparent]
        split
        · simp [hself]
        · rfl
    · rfl

/-- What is left of a sequence of names. -/
theorem reduce_map (rooted : Bool) (names : List Text) :
    reduce rooted (names.map (List.map f)) = (reduce rooted names).map (List.map f) := by
  have hfold : names.foldl (fun stack name => push rooted stack (name.map f))
      (List.map (List.map f) []) = (names.foldl (push rooted) []).map (List.map f) :=
    List.foldl_hom (List.map (List.map f)) (push_map hf rooted)
  rw [reduce, reduce, List.foldl_map, List.map_reverse, ← hfold]
  rfl

/-! ## Normal and converted forms -/

/-- **Normal forms after a change of case.** -/
theorem normalize_map (path : Text) : normalize (path.map f) = (normalize path).map f := by
  have hcurrent : current.map f = current := (hf.map_eq_iff_of_marks rfl).mpr rfl
  have hsplit (rest : Text) : (rest.map f).splitOn separator =
      (rest.splitOn separator).map (List.map f) := hf.splitOn_map rfl rest
  have hlast (root : Text) : (root.map f).getLast? = some separator ↔
      root.getLast? = some separator := by
    rw [List.getLast?_map, Option.map_eq_some_iff]
    simp only [hf.mark (m := separator) rfl, exists_eq_right]
  rw [normalize, normalize, withBackslashes_map hf, splitRoot_map hf]
  simp only [hlast, hsplit, reduce_map hf, List.isEmpty_map]
  split
  · exact hcurrent.symm
  · rw [List.map_append, Text.map_intercalate, List.map_singleton, map_separator hf]

theorem liftDrive_map (path : Text) : liftDrive (path.map f) = (liftDrive path).map f := by
  have hcolon : f ':' = ':' := hf.apply_mark rfl
  match path with
  | [] | [_] => simp [liftDrive]
  | s :: c :: rest =>
    by_cases hs : s = '\\'
    · have hend : rest.map f = ['\n'] ↔ rest = ['\n'] := hf.map_eq_iff_of_marks rfl
      rw [hs, List.map_cons, List.map_cons, map_separator hf, liftDrive, liftDrive]
      simp only [hf.alpha, List.map_eq_nil_iff, hend, head?_map_eq_separator hf]
      split
      · rw [List.map_cons, List.map_cons, hcolon]
      · rw [List.map_cons, List.map_cons, map_separator hf]
    · have hs' : f s ≠ '\\' := mt (hf.mark rfl s).mp hs
      simp [liftDrive, hs, hs']

theorem rootDrive_map (path : Text) : rootDrive (path.map f) = (rootDrive path).map f := by
  have hcolon : f ':' = ':' := hf.apply_mark rfl
  match path with
  | [] | [_] | _ :: _ :: _ :: _ => simp [rootDrive]
  | [c, d] =>
    by_cases hd : d = ':'
    · rw [hd, List.map_cons, List.map_singleton, hcolon, rootDrive, rootDrive, hf.alpha]
      split
      · simp [hcolon, map_separator hf]
      · simp [hcolon]
    · have hd' : f d ≠ ':' := mt (hf.mark rfl d).mp hd
      simp [rootDrive, hd, hd']

/-- **Converted forms after a change of case.** -/
theorem windowsForm_map (path : Text) : windowsForm (path.map f) = (windowsForm path).map f := by
  rw [windowsForm, windowsForm, List.isEmpty_map, withBackslashes_map hf, liftDrive_map hf,
    rootDrive_map hf, normalize_map hf]
  split <;> rfl

end Recasing

/-! ## Converted paths in lower case -/

/-- **Paths that differ in the case of ASCII letters** are converted to one path in lower case. -/
theorem convertFolded_eq_of_isCaseVariant {first second : Text} (h : IsCaseVariant first second)
    (hnull : '\x00' ∉ first) : convertFolded second = convertFolded first := by
  have hf := Text.isRecasing_toLower
  have hnull' : '\x00' ∉ second := by
    rw [← hf.mem_map_iff rfl, h.map_toLower_eq, hf.mem_map_iff rfl] at hnull
    exact hnull
  rw [convertFolded_eq hnull, convertFolded_eq hnull', ← Text.lower_map_toLower (windowsForm first),
    ← Text.lower_map_toLower (windowsForm second), ← windowsForm_map hf, ← windowsForm_map hf,
    h.map_toLower_eq]

end LaunchKit.Path
