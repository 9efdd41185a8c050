import LaunchKit.Proofs.Path.Qualified
import LaunchKit.Proofs.Path.Unrooted

/-!
# Paths taken from a directory on a drive

A path without drive and root is taken from a directory by joining the two converted forms. Steps up
are cancelled twice on this way, within the path first and then against the directory, where they
stop at the root of the drive, if the directory is below it. The outcome is that of one conversion
of the directory, a slash and the path. It is also what makes the absolute form undo the relative
path: a way from the base is taken from there back to the path. Only the way from a path to itself
is no path, since it is empty.

## Main statements

* `Path.windowsForm_colon`, `Path.windowsForm_of_unrooted`: converted paths by their names.
* `Path.convertAbsolute_eq_convert_append`: the absolute form is one conversion of the whole.
* `Path.convertAbsolute_relative`: the absolute form undoes the relative path.
-/
namespace LaunchKit.Path

/-! ## Converted paths by their names -/

/-- A path without root and colon is converted to the names that are left. -/
theorem windowsForm_of_unrooted {path : Text} (hne : path ≠ []) (hrooted : isRooted path = false)
    (hcolon : ':' ∉ path) :
    windowsForm path = unrootedText (reduce false ((withBackslashes path).splitOn separator)) := by
  have hslash := slash_not_mem_withBackslashes path
  have hcolon' : ':' ∉ withBackslashes path := not_mem_withBackslashes (by decide) hcolon
  have hhead : (withBackslashes path).head? ≠ some separator := by
    rw [ne_eq, ← isRooted_iff_head? hslash, isRooted_withBackslashes, hrooted]
    decide
  have hprepared : prepared path = withBackslashes path := by
    refine prepared_eq_withBackslashes (not_isShellDrive_of_unrooted hrooted)
      (not_isLineEndedDrive_of_unrooted hrooted) fun c _ heq => ?_
    exact hcolon' (by simp [heq])
  rw [windowsForm_of_ne_nil hne, hprepared, normalize_of_isTail ⟨hhead, hslash, hcolon'⟩]

theorem isRelativeForm_windowsForm {path : Text} (hne : path ≠ []) (hrooted : isRooted path = false)
    (hcolon : ':' ∉ path) : IsRelativeForm (windowsForm path) := by
  rw [windowsForm_of_unrooted hne hrooted hcolon]
  exact isRelativeForm_unrootedText (slash_not_mem_withBackslashes path)
    (not_mem_withBackslashes (by decide) hcolon)

/-- **A path on a drive** is converted to the names that are left, below the root of the drive when
a separator or nothing at all stands behind the letter and the colon. -/
theorem windowsForm_colon {c : Char} (hletter : c.isAlpha = true) (rest : Text) :
    windowsForm (c :: ':' :: rest) =
      c :: ':' :: driveNames (rest.isEmpty || isRooted rest)
        (reduce (rest.isEmpty || isRooted rest) ((withBackslashes rest).splitOn separator)) := by
  have hback : withBackslashes (c :: ':' :: rest) = c :: ':' :: withBackslashes rest := by
    simp [withBackslashes, slash_ne_of_isAlpha hletter]
  have hslash := slash_not_mem_prepared (c :: ':' :: rest)
  rw [windowsForm_of_ne_nil (by simp)]
  cases rest with
  | nil =>
    rw [prepared_of_bareDrive hletter hback] at hslash ⊢
    rw [normalize_colon hslash]
    rfl
  | cons d rest =>
    have hrooted : isRooted (c :: ':' :: d :: rest) = false :=
      isSeparator_of_isLetter (Text.isLetter_of_isAlpha hletter)
    have hprepared : prepared (c :: ':' :: d :: rest) =
        c :: ':' :: withBackslashes (d :: rest) := by
      rw [← hback]
      refine prepared_eq_withBackslashes (not_isShellDrive_of_unrooted hrooted)
        (not_isLineEndedDrive_of_unrooted hrooted) fun c' _ => ?_
      simp [withBackslashes]
    rw [hprepared] at hslash ⊢
    rw [normalize_colon hslash, isRooted_withBackslashes]
    rfl

/-! ## One conversion of the whole -/

/-- Both converted forms, joined, have the names of the directory and of the path, which may be
reduced apart from each other. -/
theorem normalize_join_windowsForm {c : Char} (hletter : c.isAlpha = true) (rest : Text)
    {path : Text} (hne : path ≠ []) (hrooted : isRooted path = false) (hcolon : ':' ∉ path) :
    normalize (join (windowsForm (c :: ':' :: rest)) (windowsForm path)) =
      windowsForm (c :: ':' :: (rest ++ '/' :: path)) := by
  have hway := windowsForm_of_unrooted hne hrooted hcolon
  have htail := (isRelativeForm_windowsForm hne hrooted hcolon).isTail
  have hfree (rooted : Bool) (text : Text) :
      ∀ name ∈ reduce rooted (text.splitOn separator), separator ∉ name :=
    fun name hmem => separator_not_mem_of_mem_splitOn (mem_of_mem_reduce hmem)
  have hfront := slash_not_mem_windowsForm (c :: ':' :: rest)
  -- The slash between the two is the root of the drive when nothing else stands before it.
  have hroot : ((rest ++ '/' :: path).isEmpty || isRooted (rest ++ '/' :: path)) =
      (rest.isEmpty || isRooted rest) := by
    cases rest <;> rfl
  have hnames : (withBackslashes (rest ++ '/' :: path)).splitOn separator =
      (withBackslashes rest).splitOn separator ++ (withBackslashes path).splitOn separator := by
    rw [← List.splitOn_append_cons_self]
    simp [withBackslashes]
  rw [windowsForm_colon hletter] at hfront ⊢
  rw [normalize_join_drive hfront htail.no_slash (splitDrive_of_isTail htail)
      (isRooted_of_isTail htail), isRooted_driveNames _ (slash_not_mem_withBackslashes rest),
    reduce_splitOn_driveNames _ (hfree _ _), hway, reduce_append_unrootedText _ _ (hfree _ _),
    reduce_reduce_append, windowsForm_colon hletter, hnames, hroot]

/-- **Taking a path from a directory is one conversion.** For a directory on a drive, and a path
that is not empty and has neither colon nor root, the absolute form is what becomes of the
directory, a slash and the path. Neither holds a null character. -/
theorem convertAbsolute_eq_convert_append {c : Char} {rest path : Text} (hletter : c.isAlpha = true)
    (hrest : '\x00' ∉ rest) (hne : path ≠ []) (hnull : '\x00' ∉ path) (hcolon : ':' ∉ path)
    (hrooted : isRooted path = false) :
    let directory := c :: ':' :: rest
    ∃ result, convertAbsolute directory path = .ok result ∧
      convert (directory ++ '/' :: path) = .ok result := by
  intro directory
  have hcnull : '\x00' ≠ c := by
    rintro rfl
    exact absurd hletter (by decide)
  have hdirectory : '\x00' ∉ directory := by simp [directory, hcnull, hrest]
  have hwhole : '\x00' ∉ directory ++ '/' :: path := by simp [hdirectory, hnull]
  have hunrooted : isAbsolute (windowsForm path) = false :=
    isAbsolute_of_not_mem (isRelativeForm_windowsForm hne hrooted hcolon).isTail.no_colon
  have habsolute : isAbsolute (windowsForm directory) = true := by
    rw [windowsForm_colon hletter]
    exact Text.isLetter_of_isAlpha hletter
  refine ⟨windowsForm (directory ++ '/' :: path), convertAbsolute_eq_ok_iff.mpr ⟨hne, hnull, ?_⟩,
    convert_eq_ok_iff.mpr ⟨hwhole, rfl⟩⟩
  exact Or.inr ⟨hunrooted, hdirectory, habsolute,
    normalize_join_windowsForm hletter rest hne hrooted hcolon⟩

/-- Against a directory on a drive that is not below its root, with more steps up than names. -/
theorem convertAbsolute_eq_convert_append_up :
    let rest := "work/./src".toList
    let path := "./../../../out//x".toList
    let directory := 'C' :: ':' :: rest
    'C'.isAlpha = true ∧ '\x00' ∉ rest ∧ path ≠ [] ∧ '\x00' ∉ path ∧ ':' ∉ path ∧
      isRooted path = false ∧
      ∃ result, convertAbsolute directory path = .ok result ∧
        convert (directory ++ '/' :: path) = .ok result := by
  intro rest path directory
  have hletter : 'C'.isAlpha = true := by decide
  have hrest : '\x00' ∉ rest := by decide
  have hne : path ≠ [] := by decide
  have hnull : '\x00' ∉ path := by decide
  have hcolon : ':' ∉ path := by decide
  have hrooted : isRooted path = false := by decide
  exact ⟨hletter, hrest, hne, hnull, hcolon, hrooted,
    convertAbsolute_eq_convert_append hletter hrest hne hnull hcolon hrooted⟩

/-! ## The absolute form undoes the relative path -/

/-- A path of plain names below the root of a drive is left as it is. -/
theorem windowsForm_below_drive {c : Char} (hletter : Text.isLetter c = true) {names : List Text}
    (hnames : ∀ name ∈ names, IsPlain name) :
    windowsForm (c :: ':' :: separator :: List.intercalate [separator] names) =
      c :: ':' :: separator :: List.intercalate [separator] names := by
  have hrooted : isRooted (c :: ':' :: separator :: List.intercalate [separator] names) = false :=
    isSeparator_of_isLetter hletter
  have hc : '/' ≠ c := by
    rintro rfl
    exact absurd hletter (by decide)
  have htail := isTail_intercalate (ne_nil_and_isTail hnames)
  have hslash : '/' ∉ c :: ':' :: separator :: List.intercalate [separator] names := by
    simp [hc, htail.no_slash, separator]
  refine (windowsForm_eq_self_iff (by simp) hslash (not_isLineEndedDrive_of_unrooted hrooted)).mpr
    ⟨not_isShellDrive_of_unrooted hrooted, by simp, ?_⟩
  rw [normalize_eq_self_iff_of_rooted hslash (splitDrive_colon c _)]
  by_cases hnil : names = []
  · exact Or.inl (by rw [hnil]; rfl)
  · rw [List.splitOn_intercalate separator (fun name hmem => (hnames name hmem).separator_not_mem)
      hnil]
    exact Or.inr (isReduced_rooted_iff.mpr fun name hmem =>
      ⟨(hnames name hmem).ne_nil, (hnames name hmem).ne_current, (hnames name hmem).ne_parent⟩)

/-- A way that is in relative form already is joined to such a path as it is. -/
theorem convertAbsolute_below_drive {c : Char} (hletter : Text.isLetter c = true)
    {names : List Text} (hnames : ∀ name ∈ names, IsPlain name ∧ '\x00' ∉ name) {way : Text}
    (hway : IsRelativeForm way) (hnull : '\x00' ∉ way) :
    let base := c :: ':' :: separator :: List.intercalate [separator] names
    convertAbsolute base way = .ok (normalize (join base way)) := by
  intro base
  have hc : '\x00' ≠ c := by
    rintro rfl
    exact absurd hletter (by decide)
  have hjoined : '\x00' ∉ List.intercalate [separator] names :=
    not_mem_intercalate (by decide) fun name hmem => (hnames name hmem).2
  have hnullBase : '\x00' ∉ base := by simp [base, hc, hjoined, separator]
  have hbase : windowsForm base = base :=
    windowsForm_below_drive hletter fun name hmem => (hnames name hmem).1
  refine convertAbsolute_eq_ok_iff.mpr ⟨hway.ne_nil, hnull, ?_⟩
  rw [hway.windowsForm_eq, hbase]
  exact Or.inr ⟨isAbsolute_of_not_mem hway.isTail.no_colon, hnullBase, hletter, rfl⟩

/-- **The absolute form undoes the relative path.** For two paths of plain names below the root of
one drive there is a way from one to the other, and its absolute form with respect to the base is
the path. Only between equal paths the way is empty, and is refused. No name holds a null
character. -/
theorem convertAbsolute_relative {c : Char} (hletter : Text.isLetter c = true)
    {names baseNames : List Text} (hnames : ∀ name ∈ names, IsPlain name ∧ '\x00' ∉ name)
    (hbase : ∀ name ∈ baseNames, IsPlain name ∧ '\x00' ∉ name) :
    let path := c :: ':' :: separator :: List.intercalate [separator] names
    let base := c :: ':' :: separator :: List.intercalate [separator] baseNames
    ∃ way, relative path base = .ok way ∧
      (path ≠ base → convertAbsolute base way = .ok path) ∧
      ((∃ error, convertAbsolute base way = .error error) ↔ path = base) := by
  intro path base
  have hroot : IsRoot [c, ':', separator] := .absolute (.letter hletter)
  obtain ⟨common, up, down, hpathNames, hbaseNames, hway, hback⟩ :=
    exists_way hroot (fun name hmem => (hnames name hmem).1) (fun name hmem => (hbase name hmem).1)
      (by simp)
  generalize hsegments : List.replicate up.length parent ++ down = segments at hway hback
  have hdown : ∀ name ∈ down, IsPlain name ∧ '\x00' ∉ name :=
    fun name hmem => hnames name (hpathNames ▸ List.mem_append_right _ hmem)
  have hdifferent (hne : path ≠ base) :
      convertAbsolute base (List.intercalate [separator] segments) = .ok path := by
    have hsome : segments ≠ [] := by
      rintro rfl
      obtain ⟨hup, hdown⟩ := List.append_eq_nil_iff.mp hsegments
      have hup : up = [] := by simpa using hup
      exact hne (by simp only [path, base, hpathNames, hbaseNames, hup, hdown])
    have hform : IsRelativeForm (List.intercalate [separator] segments) :=
      hsegments ▸ .names up.length (fun name hmem => (hdown name hmem).1) (hsegments ▸ hsome)
    have hfree : ∀ name ∈ segments, '\x00' ∉ name := by
      intro name hmem
      rw [← hsegments] at hmem
      rcases List.mem_append.mp hmem with hmem | hmem
      · rw [List.eq_of_mem_replicate hmem]
        decide
      · exact (hdown name hmem).2
    rw [convertAbsolute_below_drive hletter hbase hform (not_mem_intercalate (by decide) hfree)]
    exact congrArg Except.ok hback
  have hsame (heq : path = base) :
      convertAbsolute base (List.intercalate [separator] segments) = .error .empty := by
    have hnone : relative path base = .ok [] := by
      rw [← heq]
      simp [relative, mismatchCause?]
    have hnil := Except.ok.inj (hway.symm.trans hnone)
    rw [hnil]
    rfl
  refine ⟨_, hway, hdifferent, ?_, fun heq => ⟨_, hsame heq⟩⟩
  rintro ⟨error, herror⟩
  by_contra hne
  rw [hdifferent hne] at herror
  cases herror

/-- Between two paths whose last names that are compared begin alike. -/
theorem convertAbsolute_relative_siblings :
    let names := ["foo".toList, "barbaz".toList]
    let baseNames := ["foo".toList, "bar".toList, "x".toList]
    let path := 'C' :: ':' :: separator :: List.intercalate [separator] names
    let base := 'C' :: ':' :: separator :: List.intercalate [separator] baseNames
    Text.isLetter 'C' = true ∧ (∀ name ∈ names, IsPlain name ∧ '\x00' ∉ name) ∧
      (∀ name ∈ baseNames, IsPlain name ∧ '\x00' ∉ name) ∧
      ∃ way, relative path base = .ok way ∧
        (path ≠ base → convertAbsolute base way = .ok path) ∧
        ((∃ error, convertAbsolute base way = .error error) ↔ path = base) := by
  intro names baseNames path base
  have hletter : Text.isLetter 'C' = true := by decide
  have hnames : ∀ name ∈ names, IsPlain name ∧ '\x00' ∉ name := by decide
  have hbase : ∀ name ∈ baseNames, IsPlain name ∧ '\x00' ∉ name := by decide
  exact ⟨hletter, hnames, hbase, convertAbsolute_relative hletter hnames hbase⟩

end LaunchKit.Path
