import LaunchKit.Path.Join
import LaunchKit.Proofs.Path.Shapes

/-!
# Joined paths and their names

A path without drive and root is appended to the directory it is taken relative to, and a path with
a drive of its own keeps that. Where paths are appended, whether a separator is put between the two
or stands there already, the names that are left are those of both: an empty name at the seam is
dropped when names are reduced.

## Main definitions

* `Path.driveNames`: names behind a drive, below its root or not.

## Main statements

* `Path.join_colon_cases`: what may come of a path joined to a directory on a drive.
* `Path.reduce_splitOn_append`: the names of a path behind another one.
* `Path.normalize_colon`, `Path.normalize_join_drive`: the normal form of a path on a drive, and of
  a path joined to it.
* `Path.intercalate_inj`: names are told apart by their joined texts.
-/
namespace LaunchKit.Path

/-- A path without drive and root is appended to the directory. -/
theorem join_of_unrooted {directory drive front path : Text}
    (hdirectory : splitDrive directory = (drive, front)) (hpath : splitDrive path = ([], path))
    (hrooted : isRooted path = false) :
    join directory path = onDrive drive (append front path) := by
  rw [join, hdirectory, hpath]
  simp [hrooted]

/-- A rooted path without a drive is put behind the drive of the directory. -/
theorem join_of_rooted {directory drive front path : Text}
    (hdirectory : splitDrive directory = (drive, front)) (hpath : splitDrive path = ([], path))
    (hrooted : isRooted path = true) : join directory path = onDrive drive path := by
  rw [join, hdirectory, hpath]
  simp [hrooted]

theorem exists_onDrive_eq (drive path : Text) : ∃ rest, onDrive drive path = drive ++ rest := by
  rw [onDrive]
  split
  · exact ⟨separator :: path, rfl⟩
  · exact ⟨path, rfl⟩

/-- A drive of the path comes first. -/
theorem exists_join_eq_of_drive {path drive : Text} (directory : Text)
    (hdrive : (splitDrive path).1 = drive) (hne : drive ≠ []) :
    ∃ below, join directory path = drive ++ below := by
  obtain ⟨rest, hpath⟩ : ∃ rest, splitDrive path = (drive, rest) := ⟨_, Prod.ext hdrive rfl⟩
  rcases hdirectory : splitDrive directory with ⟨drive', front⟩
  rw [join, hdirectory, hpath]
  dsimp only
  split
  · rw [if_neg (by simpa using hne)]
    exact exists_onDrive_eq drive rest
  · split
    · next hsame =>
      obtain rfl : drive = drive' := by simpa [hne] using hsame
      exact exists_onDrive_eq drive _
    · split
      · exact exists_onDrive_eq drive _
      · exact exists_onDrive_eq drive _

/-- Behind a drive of two characters nothing is put between the drive and the path. -/
theorem onDrive_colon (c : Char) (path : Text) : onDrive [c, ':'] path = c :: ':' :: path := by
  simp [onDrive]

/-- The names of a path behind another one are the names of both. -/
theorem reduce_splitOn_append (rooted : Bool) {front : Text} (hslash : '/' ∉ front)
    (path : Text) :
    reduce rooted ((append front path).splitOn separator) =
      reduce rooted (front.splitOn separator ++ path.splitOn separator) := by
  rw [append]
  split
  · next hseam =>
    rcases List.eq_nil_or_concat front with rfl | ⟨others, last, rfl⟩
    · simp [reduce]
    · -- The separator that is there closes an empty name.
      obtain rfl : last = separator := by
        have hlast : last ≠ '/' := fun heq => hslash (by simp [heq])
        simpa [isSeparator, hlast] using hseam
      rw [List.concat_eq_append, List.append_assoc, List.singleton_append,
        List.splitOn_append_cons_self, List.splitOn_append_cons_self]
      simp [reduce]
  · rw [List.splitOn_append_cons_self]

/-- Names that are joined and read again may stand before others: of no names at all one empty name
is read, which is dropped. -/
theorem reduce_splitOn_intercalate_append (rooted : Bool) {names : List Text}
    (h : ∀ name ∈ names, separator ∉ name) (others : List Text) :
    reduce rooted ((List.intercalate [separator] names).splitOn separator ++ others) =
      reduce rooted (names ++ others) := by
  by_cases hnil : names = []
  · subst hnil
    simp [reduce]
  · rw [List.splitOn_intercalate separator h hnil]

theorem exists_append_cons (c : Char) (front path : Text) :
    ∃ below, append (c :: front) path = c :: below := by
  rw [append]
  split
  · exact ⟨front ++ path, rfl⟩
  · exact ⟨front ++ separator :: path, rfl⟩

/-- Behind a directory an unrooted path leaves the root to the directory. -/
theorem isRooted_append {front path : Text} (hpath : isRooted path = false) :
    isRooted (append front path) = isRooted front := by
  cases front with
  | nil => exact hpath
  | cons c front =>
    obtain ⟨below, hbelow⟩ := exists_append_cons c front path
    rw [hbelow]
    rfl

/-- Nothing but a separator is put between two paths. -/
theorem not_mem_append_of_ne {c : Char} {front path : Text} (hc : c ≠ separator)
    (hfront : c ∉ front) (hpath : c ∉ path) : c ∉ append front path := by
  rw [append]
  split
  · simp [hfront, hpath]
  · simp [hfront, hpath, hc]

theorem exists_splitDrive_share {rest : Text} (hslash : '/' ∉ rest) :
    ∃ others,
      (splitDrive (separator :: separator :: rest)).1 = separator :: separator :: others := by
  have hsegments : ∀ name ∈ rest.splitOn separator, IsSegment name :=
    fun name hmem => isSegment_of_mem_splitOn hslash hmem
  have hne := List.splitOn_ne_nil separator rest
  have hsplit := splitDrive_share hne hsegments
  rw [joinBehind_splitOn] at hsplit
  rw [hsplit]
  obtain ⟨name, names, hnames⟩ := List.exists_cons_of_ne_nil hne
  rw [hnames]
  rcases driveCount_eq (name :: names) with hcount | hcount
  · rw [hcount, List.take_succ_cons, joinBehind_cons]
    exact ⟨_, rfl⟩
  · rw [hcount, List.take_succ_cons, joinBehind_cons]
    exact ⟨_, rfl⟩

/-- **Joining to a directory on a drive.** A share or a drive of the path takes the place of that of
the directory; a path without drive is put behind the drive, and behind the directory too unless it
is rooted. -/
theorem join_colon_cases {c : Char} {front path : Text} (hslash : '/' ∉ path) :
    (∃ rest below, path = separator :: separator :: rest ∧
      join (c :: ':' :: front) path = separator :: separator :: below) ∨
    (∃ d rest below, path = d :: ':' :: rest ∧ join (c :: ':' :: front) path = d :: ':' :: below) ∨
    (splitDrive path = ([], path) ∧ join (c :: ':' :: front) path =
      c :: ':' :: if isRooted path then path else append front path) := by
  by_cases hshare : ∃ rest, path = separator :: separator :: rest
  · obtain ⟨rest, rfl⟩ := hshare
    have hrest : '/' ∉ rest := fun hmem => hslash (by simp [hmem])
    obtain ⟨others, hdrive⟩ := exists_splitDrive_share hrest
    obtain ⟨below, hbelow⟩ := exists_join_eq_of_drive (c :: ':' :: front) hdrive (by simp)
    exact Or.inl ⟨rest, _, rfl, hbelow⟩
  · rcases splitDrive_of_not_share hslash fun rest heq => hshare ⟨rest, heq⟩ with
      hsplit | ⟨d, rest, rfl⟩
    · refine Or.inr (Or.inr ⟨hsplit, ?_⟩)
      cases hrooted : isRooted path with
      | true => simpa [onDrive_colon] using join_of_rooted (splitDrive_colon c front) hsplit hrooted
      | false =>
        simpa [onDrive_colon] using join_of_unrooted (splitDrive_colon c front) hsplit hrooted
    · have hdrive : (splitDrive (d :: ':' :: rest)).1 = [d, ':'] := by rw [splitDrive_colon]
      obtain ⟨below, hbelow⟩ := exists_join_eq_of_drive (c :: ':' :: front) hdrive (by simp)
      exact Or.inr (Or.inl ⟨d, rest, below, rfl, hbelow⟩)

theorem slash_not_mem_onDrive {drive path : Text} (hdrive : '/' ∉ drive) (hpath : '/' ∉ path) :
    '/' ∉ onDrive drive path := by
  rw [onDrive]
  split
  · simp [hdrive, hpath, separator]
  · simp [hdrive, hpath]

theorem slash_not_mem_splitDrive {path : Text} (hslash : '/' ∉ path) :
    '/' ∉ (splitDrive path).1 ∧ '/' ∉ (splitDrive path).2 := by
  rw [← splitDrive_append path, List.mem_append, not_or] at hslash
  exact hslash

theorem slash_not_mem_join {directory path : Text} (hdirectory : '/' ∉ directory)
    (hpath : '/' ∉ path) : '/' ∉ join directory path := by
  obtain ⟨hdrive, hfront⟩ := slash_not_mem_splitDrive hdirectory
  obtain ⟨hdrive', hrest⟩ := slash_not_mem_splitDrive hpath
  have hbehind := not_mem_append_of_ne (by decide) hfront hrest
  rw [join]
  dsimp only
  split
  · refine slash_not_mem_onDrive ?_ hrest
    split
    · exact hdrive
    · exact hdrive'
  · split
    · exact slash_not_mem_onDrive hdrive hbehind
    · split
      · exact slash_not_mem_onDrive hdrive' hbehind
      · exact slash_not_mem_onDrive hdrive' hrest

/-! ## Names behind a drive -/

/-- Names behind a drive of two characters, below its root or not. -/
def driveNames (rooted : Bool) (names : List Text) : Text :=
  if rooted then separator :: List.intercalate [separator] names
  else List.intercalate [separator] names

/-- The names of such a text are those it was made of. -/
theorem reduce_splitOn_driveNames (rooted : Bool) {names : List Text}
    (h : ∀ name ∈ names, separator ∉ name) (others : List Text) :
    reduce rooted ((driveNames rooted names).splitOn separator ++ others) =
      reduce rooted (names ++ others) := by
  rw [← reduce_splitOn_intercalate_append rooted h, driveNames]
  split
  · rw [splitOn_separator_cons]
    simp [reduce]
  · rfl

theorem isRooted_driveNames (rooted : Bool) {text : Text} (hslash : '/' ∉ text) :
    isRooted (driveNames rooted (reduce rooted (text.splitOn separator))) = rooted := by
  cases rooted with
  | true => rfl
  | false =>
    have hjoined : '/' ∉ List.intercalate [separator] (reduce false (text.splitOn separator)) :=
      not_mem_intercalate (by decide) fun name hname hmem =>
        hslash (mem_of_mem_splitOn (mem_of_mem_reduce hname) hmem)
    rw [driveNames, if_neg (by decide), Bool.eq_false_iff, ne_eq, isRooted_iff_head? hjoined]
    exact head?_ne_separator (@eq_nil_or_isReduced_intercalate false text)

/-- **The normal form of a path on a drive** of two characters, below its root or not. -/
theorem normalize_colon {c : Char} {rest : Text} (hslash : '/' ∉ c :: ':' :: rest) :
    normalize (c :: ':' :: rest) =
      c :: ':' :: driveNames (isRooted rest) (reduce (isRooted rest) (rest.splitOn separator)) := by
  have hrest : '/' ∉ rest := fun hmem => hslash (by simp [hmem])
  cases hrooted : isRooted rest with
  | true =>
    obtain ⟨below, rfl⟩ : ∃ below, rest = separator :: below :=
      List.head?_eq_some_iff.mp ((isRooted_iff_head? hrest).mp hrooted)
    rw [normalize_of_rooted hslash (splitDrive_colon c _), splitOn_separator_cons]
    simp [driveNames, reduce]
  | false =>
    have hhead : rest.head? ≠ some separator := by
      rw [ne_eq, ← isRooted_iff_head? hrest, hrooted]
      decide
    rw [normalize_drive hslash hhead]
    simp [driveNames]

/-- **A path joined to a directory on a drive** has the names of both, below the root of the drive
when the directory is. -/
theorem normalize_join_drive {c : Char} {front path : Text} (hfront : '/' ∉ c :: ':' :: front)
    (hslash : '/' ∉ path) (hpath : splitDrive path = ([], path)) (hrooted : isRooted path = false) :
    normalize (join (c :: ':' :: front) path) =
      c :: ':' :: driveNames (isRooted front)
        (reduce (isRooted front) (front.splitOn separator ++ path.splitOn separator)) := by
  have hjoin := slash_not_mem_join hfront hslash
  have hfront' : '/' ∉ front := fun hmem => hfront (by simp [hmem])
  rw [join_of_unrooted (splitDrive_colon c _) hpath hrooted, onDrive_colon] at hjoin ⊢
  rw [normalize_colon hjoin, isRooted_append hrooted, reduce_splitOn_append _ hfront']

/-- Behind a root, the names of the directory are those behind it. -/
theorem normalize_join_below_root {c : Char} {front path : Text}
    (hfront : '/' ∉ c :: ':' :: separator :: front) (hslash : '/' ∉ path)
    (hpath : splitDrive path = ([], path)) (hrooted : isRooted path = false) :
    normalize (join (c :: ':' :: separator :: front) path) =
      c :: ':' :: separator :: List.intercalate [separator]
        (reduce true (front.splitOn separator ++ path.splitOn separator)) := by
  have hroot : isRooted (separator :: front) = true := rfl
  rw [normalize_join_drive hfront hslash hpath hrooted, hroot, splitOn_separator_cons]
  simp [driveNames, reduce]

/-- Names are told apart by their joined texts. -/
theorem intercalate_inj {first second : List Text}
    (hfirst : ∀ name ∈ first, name ≠ [] ∧ separator ∉ name)
    (hsecond : ∀ name ∈ second, name ≠ [] ∧ separator ∉ name)
    (h : List.intercalate [separator] first = List.intercalate [separator] second) :
    first = second := by
  have hread {names : List Text} (hnames : ∀ name ∈ names, name ≠ [] ∧ separator ∉ name) :
      (List.intercalate [separator] names).splitOn separator =
        if names = [] then [[]] else names := by
    split
    · next hnil =>
      rw [hnil]
      rfl
    · next hne =>
      exact List.splitOn_intercalate separator (fun name hmem => (hnames name hmem).2) hne
  have hsplit := congrArg (List.splitOn separator) h
  rw [hread hfirst, hread hsecond] at hsplit
  split at hsplit
  · next hnil =>
    split at hsplit
    · next hnil' => rw [hnil, hnil']
    · exact absurd rfl (hsecond [] (hsplit ▸ List.mem_singleton_self _)).1
  · split at hsplit
    · exact absurd rfl (hfirst [] (hsplit ▸ List.mem_singleton_self _)).1
    · exact hsplit

end LaunchKit.Path
