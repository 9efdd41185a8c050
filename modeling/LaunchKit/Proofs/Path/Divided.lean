import LaunchKit.Path.Parts
import LaunchKit.Proofs.Path.FromDirectory
import LaunchKit.Proofs.Path.Relative

/-!
# Paths divided at their last separator

Where a path ends in its directory and begins in its name is found in three ways, and none of them
is made of another: the parts of a path look for the last separator from the end, a relative path
walks over all that two texts have in common from the front, and the normal form cancels a name
against a step up. They agree. What stands behind a separator is the way down to it, and the way
back goes up once for each of its names. The directory of a path on a drive, once it is converted,
is one step up from the path, also where the drive is left alone, which only conversion takes for
the root.

## Main statements

* `Path.parentDirectory_append_baseName`: the parts of a path make it up again.
* `Path.relative_append`, `Path.relative_of_append`: the ways down to what stands behind a
  separator, and up from there.
* `Path.relative_parentDirectory`: the parts of a path, the ways between them, and a step up.
-/
namespace LaunchKit.Path

/-! ## The last separator -/

/-- Read from the end, a text without separators is passed over before the last one is met. -/
theorem not_isSeparator_of_mem_reverse {name : Text} (hname : ∀ d ∈ name, isSeparator d = false) :
    ∀ d ∈ name.reverse, (!isSeparator d) = true := by
  intro d hmem
  rw [hname d (List.mem_reverse.mp hmem)]
  rfl

/-- The name is what stands behind a separator that no other one follows. -/
theorem baseName_append {front name : Text} {c : Char} (hc : isSeparator c = true)
    (hname : ∀ d ∈ name, isSeparator d = false) : baseName (front ++ c :: name) = name := by
  rw [baseName, List.reverse_append, List.reverse_cons, List.append_assoc, List.singleton_append,
    List.takeWhile_append_of_pos (not_isSeparator_of_mem_reverse hname),
    List.takeWhile_cons_of_neg (by simp [hc]), List.append_nil, List.reverse_reverse]

/-- The directory is what stands before it. -/
theorem parentDirectory_append {front name : Text} {c : Char} (hc : isSeparator c = true)
    (hname : ∀ d ∈ name, isSeparator d = false) : parentDirectory (front ++ c :: name) = front := by
  rw [parentDirectory, List.reverse_append, List.reverse_cons, List.append_assoc,
    List.singleton_append, List.dropWhile_append_of_pos (not_isSeparator_of_mem_reverse hname),
    List.dropWhile_cons_of_neg (by simp [hc])]
  exact List.reverse_reverse front

/-- A path with a separator has a last one. -/
theorem exists_last_separator {path : Text} (h : ∃ c ∈ path, isSeparator c = true) :
    ∃ front c name, path = front ++ c :: name ∧ isSeparator c = true ∧
      ∀ d ∈ name, isSeparator d = false := by
  induction path with
  | nil => simp at h
  | cons first path ih =>
    -- from the front, so the first character counts only if there is no separator behind it
    by_cases hlater : ∃ c ∈ path, isSeparator c = true
    · obtain ⟨front, c, name, rfl, hc, hname⟩ := ih hlater
      exact ⟨first :: front, c, name, rfl, hc, hname⟩
    · have hnone : ∀ d ∈ path, isSeparator d = false := by simpa using hlater
      obtain ⟨c, hmem, hc⟩ := h
      rcases List.mem_cons.mp hmem with rfl | hmem
      · exact ⟨[], c, path, rfl, hc, hnone⟩
      · exact absurd ⟨c, hmem, hc⟩ hlater

/-- **The parts of a path** make it up again, with a separator between them. -/
theorem parentDirectory_append_baseName {path : Text} (hmem : separator ∈ path)
    (hslash : '/' ∉ path) : parentDirectory path ++ separator :: baseName path = path := by
  obtain ⟨front, c, name, rfl, hc, hname⟩ := exists_last_separator ⟨separator, hmem, rfl⟩
  have hne : c ≠ '/' := by
    rintro rfl
    exact hslash (by simp)
  obtain rfl : c = separator := by simpa [isSeparator, hne] using hc
  rw [parentDirectory_append hc hname, baseName_append hc hname]

/-! ## What stands behind a separator -/

/-- What stands behind a separator does not make a path absolute. -/
theorem isAbsolute_append_separator (front rest : Text) :
    isAbsolute (front ++ separator :: rest) = isAbsolute front := by
  match front with
  | [] => exact isAbsolute_eq_false_of_isSeparator rfl rest
  | [c] => simp [isAbsolute, separator]
  | c :: d :: front =>
    by_cases hd : d = ':'
    · subst hd
      rfl
    · simp [isAbsolute, hd]

/-- A path belongs together with what stands before one of its separators. -/
theorem mismatchCause?_append_separator (front rest : Text) :
    mismatchCause? (front ++ separator :: rest) front = none ∧
      mismatchCause? front (front ++ separator :: rest) = none := by
  have hsame := isAbsolute_append_separator front rest
  have hhead : isAbsolute front = true → (front ++ separator :: rest).head? = front.head? := by
    intro habsolute
    obtain ⟨c, front, rfl, -⟩ := exists_eq_colon_of_isAbsolute habsolute
    rfl
  rw [mismatchCause?_eq_none_iff, mismatchCause?_eq_none_iff, hsame]
  constructor
  · rintro (hne | ⟨habsolute, -, hne⟩)
    · exact hne rfl
    · exact hne (hhead habsolute)
  · rintro (hne | ⟨habsolute, -, hne⟩)
    · exact hne rfl
    · exact hne (hhead habsolute).symm

/-- **The way down** to what stands behind a separator is what stands there. -/
theorem relative_append (front rest : Text) :
    relative (front ++ separator :: rest) front = .ok rest := by
  have hdrop : dropCommon (front.splitOn separator ++ rest.splitOn separator)
      (front.splitOn separator) = (rest.splitOn separator, []) := by
    have h := dropCommon_append (front.splitOn separator) (rest.splitOn separator) []
    rw [List.append_nil] at h
    rw [h]
    cases rest.splitOn separator <;> rfl
  rw [relative_of_mismatchCause?_eq_none (mismatchCause?_append_separator front rest).1,
    relativeBySegments, List.splitOn_append_cons_self, hdrop]
  cases rest <;> simp [upAndDown, List.intercalate_splitOn]

/-- **The way up** from there goes up once for each name that stands there. -/
theorem relative_of_append (front rest : Text) :
    relative front (front ++ separator :: rest) = .ok (upAndDown (nameCount rest) []) := by
  have hdrop : dropCommon (front.splitOn separator)
      (front.splitOn separator ++ rest.splitOn separator) = ([], rest.splitOn separator) := by
    have h := dropCommon_append (front.splitOn separator) [] (rest.splitOn separator)
    rw [List.append_nil] at h
    rw [h]
    rfl
  have hcount := nameCount_intercalate fun segment (hmem : segment ∈ rest.splitOn separator) =>
    separator_not_mem_of_mem_splitOn hmem
  rw [relative_of_mismatchCause?_eq_none (mismatchCause?_append_separator front rest).2,
    relativeBySegments, List.splitOn_append_cons_self, hdrop]
  dsimp only
  rw [← hcount, List.intercalate_splitOn]
  rfl

/-- One name without a separator is one step up, and no name is none. -/
theorem upAndDown_nameCount {name : Text} (h : separator ∉ name) :
    upAndDown (nameCount name) [] = if name = [] then [] else parent := by
  have hcount : name.count separator = 0 := List.count_eq_zero.mpr h
  cases name with
  | nil => rfl
  | cons c name =>
    rw [nameCount, hcount]
    rfl

/-! ## One step up from a path on a drive -/

/-- The directory of a path below the root of a drive has all names but the last one. Of the root
itself only the drive is left. -/
theorem parentDirectory_below_drive (c : Char) {names : List Text}
    (hnames : ∀ name ∈ names, IsPlain name) :
    parentDirectory (c :: ':' :: separator :: List.intercalate [separator] names) =
      c :: ':' :: joinBehind names.dropLast := by
  rcases List.eq_nil_or_concat names with rfl | ⟨front, last, rfl⟩
  · have hname : ∀ d ∈ ([] : Text), isSeparator d = false := by simp
    exact @parentDirectory_append [c, ':'] [] separator rfl hname
  · rw [List.concat_eq_append] at hnames ⊢
    have hlast : IsPlain last := hnames last (by simp)
    have hpath : c :: ':' :: separator :: List.intercalate [separator] (front ++ [last]) =
        (c :: ':' :: joinBehind front) ++ separator :: last := by
      rw [separator_cons_intercalate (by simp), joinBehind_append]
      simp
    rw [hpath, parentDirectory_append rfl hlast.no_separator, List.dropLast_concat]

/-- Names behind a drive are converted to a path below its root, also when there are none. -/
theorem windowsForm_joinBehind {c : Char} (hletter : c.isAlpha = true) {names : List Text}
    (hnames : ∀ name ∈ names, IsPlain name) :
    windowsForm (c :: ':' :: joinBehind names) =
      c :: ':' :: separator :: List.intercalate [separator] names := by
  by_cases hnil : names = []
  · subst hnil
    exact windowsForm_colon hletter []
  · rw [← separator_cons_intercalate hnil]
    exact windowsForm_below_drive (Text.isLetter_of_isAlpha hletter) hnames

/-- A step up takes the last name away; at a root there is none to take. -/
theorem reduce_append_parent {names : List Text} (hnames : ∀ name ∈ names, IsPlain name) :
    reduce true (names ++ [parent]) = names.dropLast := by
  rcases List.eq_nil_or_concat names with rfl | ⟨front, last, rfl⟩
  · rfl
  · rw [List.concat_eq_append] at hnames ⊢
    have hfront : ∀ name ∈ front, IsPlain name :=
      fun name hmem => hnames name (List.mem_append_left _ hmem)
    have hlast : ∀ name ∈ [last], IsPlain name :=
      fun name hmem => hnames name (List.mem_append_right _ hmem)
    have hdown : ∀ name ∈ ([] : List Text), IsPlain name := by simp
    simpa using reduce_up_down true hfront hlast hdown

/-- **A step up** from a path below the root of a drive. -/
theorem normalize_join_parent {c : Char} (hletter : Text.isLetter c = true) {names : List Text}
    (hnames : ∀ name ∈ names, IsPlain name) :
    normalize (join (c :: ':' :: separator :: List.intercalate [separator] names) parent) =
      c :: ':' :: separator :: List.intercalate [separator] names.dropLast := by
  have hc : '/' ≠ c := by
    rintro rfl
    exact absurd hletter (by decide)
  have htail := isTail_intercalate (ne_nil_and_isTail hnames)
  have hslash : '/' ∉ c :: ':' :: separator :: List.intercalate [separator] names := by
    simp [hc, htail.no_slash, separator]
  have hparent : parent.splitOn separator = [parent] := by decide
  rw [normalize_join_below_root hslash isTail_parent.no_slash (splitDrive_of_isTail isTail_parent)
      (isRooted_of_isTail isTail_parent),
    reduce_splitOn_intercalate_append true fun name hmem => (hnames name hmem).separator_not_mem,
    hparent, reduce_append_parent hnames]

/-! ## The parts of a path -/

/-- **Dividing a path agrees with relating paths.** The parts of a path make it up again, the name
holds no separator, it is the way from the directory to the path, and the way back is one step up,
or none when the name is empty. For a path of plain names below the root of a drive, the directory
is converted to what one step up from the path leads to. -/
theorem relative_parentDirectory :
    (∀ path : Text, separator ∈ path → '/' ∉ path →
      parentDirectory path ++ separator :: baseName path = path ∧
      (∀ c ∈ baseName path, isSeparator c = false) ∧
      relative path (parentDirectory path) = .ok (baseName path) ∧
      relative (parentDirectory path) path =
        .ok (if baseName path = [] then [] else parent)) ∧
    ∀ (c : Char) (names : List Text), c.isAlpha = true →
      (∀ name ∈ names, IsPlain name ∧ '\x00' ∉ name) →
      let path := c :: ':' :: separator :: List.intercalate [separator] names
      convert (parentDirectory path) = .ok (normalize (join path parent)) := by
  refine ⟨fun path hmem hslash => ?_, fun c names hletter hnames => ?_⟩
  · have hparts := parentDirectory_append_baseName hmem hslash
    have hfree : separator ∉ baseName path := fun hmem =>
      absurd (not_isSeparator_of_mem_baseName hmem) (by decide)
    have hdown := relative_append (parentDirectory path) (baseName path)
    have hup := relative_of_append (parentDirectory path) (baseName path)
    rw [hparts] at hdown hup
    rw [upAndDown_nameCount hfree] at hup
    exact ⟨hparts, fun c => not_isSeparator_of_mem_baseName, hdown, hup⟩
  · intro path
    have hplain : ∀ name ∈ names, IsPlain name := fun name hmem => (hnames name hmem).1
    have hfront : ∀ name ∈ names.dropLast, IsPlain name ∧ '\x00' ∉ name :=
      fun name hmem => hnames name (List.dropLast_subset names hmem)
    have hc : '\x00' ≠ c := by
      rintro rfl
      exact absurd hletter (by decide)
    have hnull : '\x00' ∉ parentDirectory path := by
      rw [parentDirectory_below_drive c hplain]
      simp only [joinBehind, List.mem_cons, List.mem_flatMap, not_or, not_exists, not_and]
      exact ⟨hc, by decide, fun name hmem => ⟨by decide, (hfront name hmem).2⟩⟩
    refine convert_eq_ok_iff.mpr ⟨hnull, ?_⟩
    rw [normalize_join_parent (Text.isLetter_of_isAlpha hletter) hplain,
      parentDirectory_below_drive c hplain,
      windowsForm_joinBehind hletter fun name hmem => (hfront name hmem).1]

/-- For a share with a doubled separator and one at the end, and for a directory right below the
root of a drive, of which the drive alone is left. -/
theorem relative_parentDirectory_doubled :
    let path := "\\\\srv\\\\data\\".toList
    let names := ["work".toList]
    let below := 'C' :: ':' :: separator :: List.intercalate [separator] names
    (separator ∈ path ∧ '/' ∉ path ∧
      parentDirectory path ++ separator :: baseName path = path ∧
      (∀ c ∈ baseName path, isSeparator c = false) ∧
      relative path (parentDirectory path) = .ok (baseName path) ∧
      relative (parentDirectory path) path =
        .ok (if baseName path = [] then [] else parent)) ∧
    'C'.isAlpha = true ∧ (∀ name ∈ names, IsPlain name ∧ '\x00' ∉ name) ∧
      convert (parentDirectory below) = .ok (normalize (join below parent)) := by
  intro path names below
  have hmem : separator ∈ path := by decide
  have hslash : '/' ∉ path := by decide
  have hletter : 'C'.isAlpha = true := by decide
  have hnames : ∀ name ∈ names, IsPlain name ∧ '\x00' ∉ name := by decide
  exact ⟨⟨hmem, hslash, relative_parentDirectory.1 path hmem hslash⟩, hletter, hnames,
    relative_parentDirectory.2 'C' names hletter hnames⟩

end LaunchKit.Path
