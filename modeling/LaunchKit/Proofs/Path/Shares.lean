import LaunchKit.Proofs.Path.Reduced

/-!
# Shares in segments

A path that begins with two separators is a share or a device. Its drive is measured in characters,
by the lengths of names; in segments it is the first two of them, or the first four where they open
the long form. Segments show that what stands behind the drive has no say in where the drive ends,
so that the normal form of such a path is its own normal form.

## Main definitions

* `Path.joinBehind`: names, each behind a separator.
* `Path.driveCount`: how many segments belong to the drive.
* `Path.IsNormalShare`: the segments of a share in normal form.

## Main statements

* `Path.splitDrive_share`: the drive of a share in segments.
* `Path.normalize_share_eq_self_iff`: which shares are their own normal forms.
* `Path.exists_normalize_share`: the normal form of a share is one of these.
-/
namespace LaunchKit.Path

/-! ## Segments -/

/-- Names, each behind a separator. -/
def joinBehind (names : List Text) : Text := names.flatMap (separator :: ·)

@[simp] theorem joinBehind_nil : joinBehind [] = [] := rfl

@[simp] theorem joinBehind_cons (name : Text) (names : List Text) :
    joinBehind (name :: names) = separator :: (name ++ joinBehind names) := by
  simp [joinBehind]

theorem joinBehind_append (front names : List Text) :
    joinBehind (front ++ names) = joinBehind front ++ joinBehind names := by
  simp [joinBehind]

theorem intercalate_cons_eq (name : Text) (names : List Text) :
    List.intercalate [separator] (name :: names) = name ++ joinBehind names := by
  induction names generalizing name with
  | nil => simp
  | cons next names ih =>
    rw [List.intercalate_cons_cons, ih, joinBehind_cons, List.append_assoc, List.singleton_append]

theorem separator_cons_intercalate {names : List Text} (hne : names ≠ []) :
    separator :: List.intercalate [separator] names = joinBehind names := by
  obtain ⟨name, names, rfl⟩ := List.exists_cons_of_ne_nil hne
  rw [intercalate_cons_eq, joinBehind_cons]

theorem joinBehind_splitOn (text : Text) :
    joinBehind (text.splitOn separator) = separator :: text := by
  rw [← separator_cons_intercalate (List.splitOn_ne_nil separator text), List.intercalate_splitOn]

/-- A segment of a path that holds no slash. -/
def IsSegment (name : Text) : Prop := ∀ c ∈ name, isSeparator c = false

theorem IsSegment.separator_not_mem {name : Text} (h : IsSegment name) : separator ∉ name := by
  intro hmem
  have hsep := h separator hmem
  simp [isSeparator] at hsep

/-- The characters of a segment are those of the text. -/
theorem mem_of_mem_splitOn {text name : Text} {c : Char} (h : name ∈ text.splitOn separator)
    (hc : c ∈ name) : c ∈ text := by
  have hmem : c ∈ joinBehind (text.splitOn separator) :=
    List.mem_flatMap.mpr ⟨name, h, List.mem_cons_of_mem _ hc⟩
  rw [joinBehind_splitOn, List.mem_cons] at hmem
  rcases hmem with rfl | hmem
  · exact absurd hc (separator_not_mem_of_mem_splitOn h)
  · exact hmem

/-- The characters of a joined text. -/
theorem mem_of_mem_intercalate {names : List Text} {c : Char}
    (h : c ∈ List.intercalate [separator] names) :
    c = separator ∨ ∃ name ∈ names, c ∈ name := by
  by_cases hne : names = []
  · rw [hne] at h
    cases h
  · have hmem : c ∈ joinBehind names := by
      rw [← separator_cons_intercalate hne]
      exact List.mem_cons_of_mem _ h
    obtain ⟨name, hname, hc⟩ := List.mem_flatMap.mp hmem
    rcases List.mem_cons.mp hc with heq | hc
    · exact Or.inl heq
    · exact Or.inr ⟨name, hname, hc⟩

theorem not_mem_intercalate {names : List Text} {c : Char} (hc : c ≠ separator)
    (h : ∀ name ∈ names, c ∉ name) : c ∉ List.intercalate [separator] names := by
  intro hmem
  rcases mem_of_mem_intercalate hmem with heq | ⟨name, hname, hmem⟩
  · exact hc heq
  · exact h name hname hmem

theorem isSegment_of_mem_splitOn {text name : Text} (hslash : '/' ∉ text)
    (h : name ∈ text.splitOn separator) : IsSegment name := by
  intro c hc
  have hback : c ≠ '\\' := by
    rintro rfl
    exact separator_not_mem_of_mem_splitOn h hc
  have hforward : c ≠ '/' := by
    rintro rfl
    exact hslash (mem_of_mem_splitOn h hc)
  simp [isSeparator, hback, hforward]

theorem slash_not_mem_joinBehind {names : List Text} (h : ∀ name ∈ names, IsSegment name) :
    '/' ∉ joinBehind names := by
  intro hmem
  obtain ⟨name, hname, hslash⟩ := List.mem_flatMap.mp hmem
  rcases List.mem_cons.mp hslash with heq | hslash
  · exact absurd heq (by decide)
  · have hsep := h name hname '/' hslash
    simp [isSeparator] at hsep

theorem nameLength_append_joinBehind {name : Text} (h : IsSegment name) (names : List Text) :
    nameLength (name ++ joinBehind names) = name.length := by
  cases names with
  | nil =>
    rw [nameLength, List.takeWhile_append_of_pos (fun c hc => by simp [h c hc])]
    simp
  | cons next names =>
    rw [joinBehind_cons]
    exact nameLength_append h

/-! ## The drive of a share -/

/-- How many segments belong to the drive: server and share, or the two of the long form before
these. -/
def driveCount : List Text → Nat
  | first :: second :: _ :: _ =>
    if first = ['?'] ∧ second.map Char.toUpper = "UNC".toList then 4 else 2
  | _ => 2

theorem driveCount_eq (names : List Text) : driveCount names = 2 ∨ driveCount names = 4 := by
  rw [driveCount.eq_def]
  split
  · split <;> simp
  · simp

/-- What stands behind the drive has no say in how many segments belong to it. -/
theorem driveCount_append (front : List Text) {rest rest' : List Text} (hrest : rest ≠ [])
    (hrest' : rest' ≠ []) (h : front.length = driveCount (front ++ rest)) :
    driveCount (front ++ rest') = driveCount (front ++ rest) := by
  obtain ⟨name, others, rfl⟩ := List.exists_cons_of_ne_nil hrest
  obtain ⟨name', others', rfl⟩ := List.exists_cons_of_ne_nil hrest'
  have hlength : 2 ≤ front.length := by
    rcases driveCount_eq (front ++ name :: others) with hcount | hcount <;> omega
  match front with
  | [] | [_] => simp at hlength
  | [_, _] | _ :: _ :: _ :: _ => rfl

/-- A word is read in either case of letters where a segment ends with it. -/
theorem prefix_append_joinBehind_iff {name word : Text} (hname : IsSegment name)
    (hword : separator ∉ word) (others : List Text) (pattern : Text) :
    word ++ separator :: pattern <+: (name ++ joinBehind others).map Char.toUpper ↔
      name.map Char.toUpper = word ∧ ∃ next more, others = next :: more ∧
        pattern <+: (next ++ joinBehind more).map Char.toUpper := by
  have hupper : separator.toUpper = separator := rfl
  induction name generalizing word with
  | nil =>
    cases word with
    | nil =>
      cases others with
      | nil => simp
      | cons next more =>
        rw [List.nil_append, List.nil_append, joinBehind_cons, List.map_cons, hupper,
          List.cons_prefix_cons]
        constructor
        · rintro ⟨-, hpattern⟩
          exact ⟨rfl, next, more, rfl, hpattern⟩
        · rintro ⟨-, _, _, heq, hpattern⟩
          obtain ⟨rfl, rfl⟩ := List.cons.inj heq
          exact ⟨rfl, hpattern⟩
    | cons w word =>
      have hw : w ≠ separator := fun heq => hword (by simp [heq])
      cases others with
      | nil => simp
      | cons next more => simp [hupper, hw]
  | cons c name ih =>
    obtain ⟨hc, hname⟩ := List.forall_mem_cons.mp hname
    cases word with
    | nil =>
      have hne : separator ≠ c.toUpper := by
        intro heq
        rw [eq_of_toUpper_eq heq.symm (by decide)] at hc
        simp [isSeparator] at hc
      simp [hne]
    | cons w word =>
      have hword' : separator ∉ word := fun hmem => hword (List.mem_cons_of_mem _ hmem)
      have hrest := ih hname hword'
      rw [List.cons_append, List.cons_append, List.map_cons, List.map_cons, List.cons_prefix_cons,
        List.cons.injEq, and_assoc, eq_comm]
      exact and_congr_right fun _ => hrest

theorem map_toUpper_eq_mark {name : Text} : name.map Char.toUpper = ['?'] ↔ name = ['?'] := by
  constructor
  · intro h
    match name with
    | [] => cases h
    | [c] =>
      rw [List.map_cons, List.cons.injEq] at h
      rw [eq_of_toUpper_eq h.1 (by decide)]
    | _ :: _ :: _ => simp at h
  · rintro rfl
    rfl

theorem driveCount_eq_four_iff {first : Text} {others : List Text} :
    driveCount (first :: others) = 4 ↔ first = ['?'] ∧ ∃ second more, others = second :: more ∧
      second.map Char.toUpper = "UNC".toList ∧ ∃ third rest, more = third :: rest := by
  match others with
  | [] | [_] => simp [driveCount]
  | second :: third :: rest =>
    rw [driveCount]
    split
    · next h => exact iff_of_true rfl ⟨h.1, second, third :: rest, rfl, h.2, third, rest, rfl⟩
    · next h =>
      simp only [Nat.reduceEqDiff, List.cons.injEq, false_iff]
      rintro ⟨hfirst, _, _, ⟨rfl, -⟩, hsecond, -⟩
      exact h ⟨hfirst, hsecond⟩

/-- The long form opens with two segments of its own. -/
theorem shareOpening_joinBehind {names : List Text} (hne : names ≠ [])
    (h : ∀ name ∈ names, IsSegment name) :
    shareOpening (separator :: joinBehind names) = if driveCount names = 4 then 8 else 2 := by
  have hslash : '/' ∉ (separator :: joinBehind names).take 8 := by
    intro hmem
    rcases List.mem_cons.mp (List.mem_of_mem_take hmem) with heq | hmem
    · exact absurd heq (by decide)
    · exact slash_not_mem_joinBehind h hmem
  obtain ⟨first, others, rfl⟩ := List.exists_cons_of_ne_nil hne
  obtain ⟨hfirst, hothers⟩ := List.forall_mem_cons.mp h
  have hopening : ((separator :: joinBehind (first :: others)).take 8).map Char.toUpper =
      "\\\\?\\UNC\\".toList ↔ driveCount (first :: others) = 4 := by
    have hupper : separator.toUpper = separator := rfl
    calc ((separator :: joinBehind (first :: others)).take 8).map Char.toUpper =
          "\\\\?\\UNC\\".toList
      _ ↔ ['?'] ++ separator :: "UNC\\".toList <+:
            (first ++ joinBehind others).map Char.toUpper := by
        have htake (text : Text) : "\\\\?\\UNC\\".toList <+: text ↔
            text.take 8 = "\\\\?\\UNC\\".toList := by
          rw [eq_comm]
          exact List.prefix_iff_eq_take
        rw [List.map_take, ← htake, joinBehind_cons, List.map_cons, List.map_cons, hupper]
        simp
      _ ↔ first = ['?'] ∧ ∃ second more, others = second :: more ∧
            "UNC".toList ++ separator :: [] <+: (second ++ joinBehind more).map Char.toUpper := by
        rw [prefix_append_joinBehind_iff hfirst (by decide), map_toUpper_eq_mark]
        rfl
      _ ↔ driveCount (first :: others) = 4 := by
        rw [driveCount_eq_four_iff]
        constructor
        · rintro ⟨hmark, second, more, rfl, hprefix⟩
          have hsecond := hothers second List.mem_cons_self
          obtain ⟨hword, third, rest, hmore, -⟩ :=
            (prefix_append_joinBehind_iff hsecond (by decide) more []).mp hprefix
          exact ⟨hmark, second, more, rfl, hword, third, rest, hmore⟩
        · rintro ⟨hmark, second, more, rfl, hword, third, rest, hmore⟩
          have hsecond := hothers second List.mem_cons_self
          exact ⟨hmark, second, more, rfl, (prefix_append_joinBehind_iff hsecond (by decide) more
            []).mpr ⟨hword, third, rest, hmore, List.nil_prefix⟩⟩
  rw [shareOpening, withBackslashes_of_not_mem hslash]
  simp only [hopening]

/-- A drive that is two names long behind its opening. -/
theorem splitAt_names (opening : Text) {name : Text} (hname : IsSegment name) {others : List Text}
    (h : ∀ other ∈ others, IsSegment other) :
    let path := opening ++ (name ++ joinBehind others)
    let toShare := opening.length + nameLength (path.drop opening.length) + 1
    path.splitAt (toShare + nameLength (path.drop toShare)) =
      (opening ++ (name ++ joinBehind (others.take 1)), joinBehind (others.drop 1)) := by
  intro path toShare
  have hserver : nameLength (path.drop opening.length) = name.length := by
    rw [List.drop_left, nameLength_append_joinBehind hname]
  cases others with
  | nil =>
    -- The second name is missing, and the drive is all of the path.
    have hpath : path.length = opening.length + name.length := by simp [path]
    have hlength : path.length ≤ toShare + nameLength (path.drop toShare) := by
      simp only [toShare, hserver, hpath]
      omega
    rw [List.splitAt_eq, List.take_of_length_le hlength, List.drop_of_length_le hlength]
    rfl
  | cons next others =>
    have hfront : path = (opening ++ (name ++ [separator])) ++ (next ++ joinBehind others) := by
      simp [path]
    have hshare : path.drop toShare = next ++ joinBehind others := by
      have hlength : toShare = (opening ++ (name ++ [separator])).length := by
        simp [toShare, hserver]
        omega
      rw [hlength, hfront, List.drop_left]
    have hpath : path = (opening ++ (name ++ separator :: next)) ++ joinBehind others := by
      simp [path]
    have hlength : toShare + next.length = (opening ++ (name ++ separator :: next)).length := by
      simp [toShare, hserver]
      omega
    rw [hshare, nameLength_append_joinBehind (h next List.mem_cons_self), List.splitAt_eq, hlength,
      hpath, List.take_left, List.drop_left]
    simp

/-- **The drive of a share** and the rest, in segments. -/
theorem splitDrive_share {names : List Text} (hne : names ≠ [])
    (h : ∀ name ∈ names, IsSegment name) :
    splitDrive (separator :: joinBehind names) =
      (separator :: joinBehind (names.take (driveCount names)),
        joinBehind (names.drop (driveCount names))) := by
  have hopening := shareOpening_joinBehind hne h
  obtain ⟨first, others, rfl⟩ := List.exists_cons_of_ne_nil hne
  obtain ⟨hfirst, hothers⟩ := List.forall_mem_cons.mp h
  have hsep : (isSeparator separator && isSeparator separator) = true := rfl
  have hpath : splitDrive (separator :: joinBehind (first :: others)) =
      (separator :: joinBehind (first :: others)).splitAt
        (shareLength (separator :: joinBehind (first :: others))) := by
    rw [joinBehind_cons, splitDrive, if_pos hsep]
  rw [hpath, shareLength, hopening]
  by_cases hcount : driveCount (first :: others) = 4
  · obtain ⟨rfl, second, _, rfl, hunc, third, rest, rfl⟩ := driveCount_eq_four_iff.mp hcount
    have hlength : second.length = 3 := by simpa using congrArg List.length hunc
    have hopening : (separator :: joinBehind [['?'], second] ++ [separator]).length = 8 := by
      simp [hlength]
    have hrest : ∀ other ∈ rest, IsSegment other := fun other hmem => hothers other (by simp [hmem])
    have hnames := splitAt_names (separator :: joinBehind [['?'], second] ++ [separator])
      (hothers third (by simp)) hrest
    rw [hopening] at hnames
    rw [if_pos hcount, hcount]
    simpa using hnames
  · have htwo : driveCount (first :: others) = 2 := by
      have := driveCount_eq (first :: others)
      omega
    have hnames := splitAt_names [separator, separator] hfirst hothers
    rw [if_neg hcount, htwo]
    simpa using hnames

/-! ## Shares in normal form -/

/-- Nothing stands below the drive, or an empty segment alone, or reduced names. -/
def IsNormalShare (names : List Text) : Prop :=
  names.drop (driveCount names) = [] ∨ names.drop (driveCount names) = [[]] ∨
    IsReduced true (names.drop (driveCount names))

theorem slash_not_mem_share {names : List Text} (h : ∀ name ∈ names, IsSegment name) :
    '/' ∉ separator :: joinBehind names := by
  intro hmem
  rcases List.mem_cons.mp hmem with heq | hmem
  · exact absurd heq (by decide)
  · exact slash_not_mem_joinBehind h hmem

/-- A share with nothing below its drive is left as it is. -/
theorem normalize_share_of_drop_eq_nil {names : List Text} (hne : names ≠ [])
    (h : ∀ name ∈ names, IsSegment name) (hdrop : names.drop (driveCount names) = []) :
    normalize (separator :: joinBehind names) = separator :: joinBehind names := by
  have htake : names.take (driveCount names) = names := by
    have happend := List.take_append_drop (driveCount names) names
    rwa [hdrop, List.append_nil] at happend
  have hsplit := splitDrive_share hne h
  rw [hdrop, htake, joinBehind_nil] at hsplit
  rw [normalize_of_unrooted (slash_not_mem_share h) hsplit (by simp), if_neg (by simp)]
  simp [reduce]

/-- The names below the drive of a share are reduced. -/
theorem normalize_share_of_drop_ne_nil {names : List Text} (hne : names ≠ [])
    (h : ∀ name ∈ names, IsSegment name) (hdrop : names.drop (driveCount names) ≠ []) :
    normalize (separator :: joinBehind names) =
      separator :: joinBehind (names.take (driveCount names)) ++
        separator :: List.intercalate [separator]
          (reduce true (names.drop (driveCount names))) := by
  have hfree : ∀ name ∈ names.drop (driveCount names), separator ∉ name :=
    fun name hmem => (h name (List.mem_of_mem_drop hmem)).separator_not_mem
  have hsplit := splitDrive_share hne h
  rw [← separator_cons_intercalate hdrop] at hsplit
  rw [normalize_of_rooted (slash_not_mem_share h) hsplit,
    List.splitOn_intercalate separator hfree hdrop]

/-- **Which shares are their own normal forms.** -/
theorem normalize_share_eq_self_iff {names : List Text} (hne : names ≠ [])
    (h : ∀ name ∈ names, IsSegment name) :
    normalize (separator :: joinBehind names) = separator :: joinBehind names ↔
      IsNormalShare names := by
  by_cases hdrop : names.drop (driveCount names) = []
  · exact iff_of_true (normalize_share_of_drop_eq_nil hne h hdrop) (Or.inl hdrop)
  · have hfree : ∀ name ∈ names.drop (driveCount names), separator ∉ name :=
      fun name hmem => (h name (List.mem_of_mem_drop hmem)).separator_not_mem
    have hsplit := splitDrive_share hne h
    rw [← separator_cons_intercalate hdrop] at hsplit
    have hempty : List.intercalate [separator] (names.drop (driveCount names)) = [] ↔
        names.drop (driveCount names) = [[]] := by
      constructor
      · intro hjoin
        rw [← List.splitOn_intercalate separator hfree hdrop, hjoin]
        rfl
      · intro heq
        rw [heq]
        rfl
    rw [normalize_eq_self_iff_of_rooted (slash_not_mem_share h) hsplit, hempty,
      List.splitOn_intercalate separator hfree hdrop, IsNormalShare]
    simp [hdrop]

/-- **The normal form of a share** is one that is its own normal form. -/
theorem exists_normalize_share {names : List Text} (hne : names ≠ [])
    (h : ∀ name ∈ names, IsSegment name) :
    ∃ names', names' ≠ [] ∧ (∀ name ∈ names', IsSegment name) ∧ IsNormalShare names' ∧
      normalize (separator :: joinBehind names) = separator :: joinBehind names' := by
  by_cases hdrop : names.drop (driveCount names) = []
  · exact ⟨names, hne, h, Or.inl hdrop, normalize_share_of_drop_eq_nil hne h hdrop⟩
  · -- What stands below the drive, with an empty segment where no name is left.
    obtain ⟨below, hbelow, hsegments, hnormal, hjoin⟩ : ∃ below : List Text, below ≠ [] ∧
        (∀ name ∈ below, IsSegment name) ∧ (below = [[]] ∨ IsReduced true below) ∧
          separator :: List.intercalate [separator] (reduce true (names.drop (driveCount names))) =
            joinBehind below := by
      cases hreduce : reduce true (names.drop (driveCount names)) with
      | nil => exact ⟨[[]], by simp, by simp [IsSegment], Or.inl rfl, rfl⟩
      | cons name others =>
        rw [← hreduce]
        refine ⟨_, by simp [hreduce], fun name hmem => ?_, Or.inr (isReduced_reduce true _),
          separator_cons_intercalate (by simp [hreduce])⟩
        exact h name (List.mem_of_mem_drop (mem_of_mem_reduce hmem))
    have hlength : (names.take (driveCount names)).length = driveCount names := by
      rw [List.length_take]
      rw [List.drop_eq_nil_iff] at hdrop
      omega
    have hcount : driveCount (names.take (driveCount names) ++ below) = driveCount names := by
      have happend := driveCount_append (names.take (driveCount names)) hdrop hbelow
      rw [List.take_append_drop] at happend
      exact happend hlength
    refine ⟨names.take (driveCount names) ++ below, by simp [hbelow], ?_, ?_, ?_⟩
    · intro name hmem
      rcases List.mem_append.mp hmem with hmem | hmem
      · exact h name (List.mem_of_mem_take hmem)
      · exact hsegments name hmem
    · have hbelow' : (names.take (driveCount names) ++ below).drop (driveCount names) = below := by
        rw [List.drop_append_of_le_length (by omega), List.drop_of_length_le (by omega),
          List.nil_append]
      rw [IsNormalShare, hcount, hbelow']
      exact Or.inr hnormal
    · rw [normalize_share_of_drop_ne_nil hne h hdrop, hjoin, joinBehind_append, List.cons_append]

end LaunchKit.Path
