import LaunchKit.Proofs.Console.Torn

/-!
# What is seen of a highlighted message

Each step of highlighting reads the control sequences that the steps before it have left. Nearly
always it passes over them, and then the message is seen as it is. There are two exceptions. The
sequence that closes a marker ends in `0m`, which becomes a duration when an `s` follows. And a
sequence that closes a marker or a duration ends in a letter, with which a path begins when a colon
and a backslash follow, unless a path that began before goes on there. In both cases the sequence is
torn and its beginning is seen.

## Main definitions

* `Console.IsTorn`: the messages that are torn.
* `Console.IsMarker`: what is used of the markers.

## Main statements

* `Console.visible_paintDrivePaths_iff`: what is seen of painted durations and paths.
* `Console.visible_highlight_iff`: what is seen of a highlighted message.
-/
namespace LaunchKit.Console

/-! ## Durations and paths -/

theorem colon_not_mem_sequence (code : Nat) : ':' ∉ sequence code := by
  intro hmem
  have hdigit : ':' ∈ Numeral.ofNat code := by simpa [sequence] using hmem
  have hparameter := isParameter_of_mem_ofNat hdigit
  cases hparameter

theorem colon_not_mem_paint {text : Text} (h : ':' ∉ text) (codes : Paint) :
    ':' ∉ paint codes text := by
  simp [paint, reset, h, colon_not_mem_sequence]

/-- With a colon and a backslash behind it, the sequence that closes a painted text is torn. -/
theorem escape_mem_visible_of_mark {text rest : Text} (hcolon : ':' ∉ text)
    (hescape : '\x1b' ∉ text) (hmark : BeginsMark rest) (codes : Paint) :
    '\x1b' ∈ visible (paintDrivePaths (paint codes text ++ rest)) := by
  obtain ⟨behind, rfl⟩ := hmark
  have hopening : ':' ∉ codes.flatMap sequence ++ (text ++ ['\x1b', '[', '0']) := by
    simp [colon_not_mem_sequence, hcolon]
  have hsplit : paint codes text ++ ':' :: '\\' :: behind =
      (codes.flatMap sequence ++ (text ++ ['\x1b', '[', '0'])) ++
        'm' :: ':' :: '\\' :: behind := by
    simp [paint, reset, sequence, Numeral.ofNat]
  rw [hsplit, paintDrivePaths_append hopening (by rintro ⟨more, h⟩; simp at h),
    paintDrivePaths_path (by decide), List.append_assoc, List.append_assoc,
    visible_flatMap_sequence, visible_append hescape]
  exact List.mem_append_right _ (escape_mem_visible_of_torn ['0'] (by decide) (by decide)
    (by decide) _)

/-- A painted path is seen as the path, with painted durations in it as they are. -/
theorem visible_paint_path {letter : Char} (hletter : letter ≠ '\x1b') {body : Text}
    (hbody : '\x1b' ∉ body) (codes : Paint) (rest : Text) :
    visible (paint codes (letter :: ':' :: '\\' :: paintDurations body) ++ rest) =
      letter :: ':' :: '\\' :: (body ++ visible rest) := by
  rw [paint, List.append_assoc, List.append_assoc, visible_flatMap_sequence, List.cons_append,
    List.cons_append, List.cons_append, visible_cons_of_ne hletter, visible_cons_of_ne (by decide),
    visible_cons_of_ne (by decide), visible_paintDurations_append hbody, reset, visible_sequence]

/-- **What is seen of painted durations and paths** is the text, unless a duration is torn. -/
theorem visible_paintDrivePaths_iff {text : Text} (h : '\x1b' ∉ text) :
    visible (paintDrivePaths (paintDurations text)) = text ↔ ¬HasTornDuration text := by
  induction text using message_induction with
  | nil => exact iff_of_true rfl not_hasTornDuration_nil
  | duration amount rest hamount ih =>
    have hescape : '\x1b' ∉ amount ++ ['m', 's'] := by simpa using hamount.escape_not_mem
    have hcolon : ':' ∉ amount ++ ['m', 's'] := by
      simpa using hamount.not_mem (by decide) (by decide)
    have hsplit : amount ++ 'm' :: 's' :: rest = (amount ++ ['m', 's']) ++ rest := by simp
    rw [paintDurations_duration hamount]
    by_cases hmark : BeginsMark rest
    · refine iff_of_false (fun hseen => h (hseen ▸ ?_)) (not_not_intro ?_)
      · exact escape_mem_visible_of_mark hcolon hescape (beginsMark_paintDurations.mpr hmark) _
      · obtain ⟨behind, rfl⟩ := hmark
        exact ⟨[], amount, behind, hamount, not_inPath_nil, rfl⟩
    · have hrest : '\x1b' ∉ rest := fun hmem => h (by simp [hmem])
      rw [paintDrivePaths_append (colon_not_mem_paint hcolon _)
          (mt beginsMark_paintDurations.mp hmark),
        visible_paint hescape, hasTornDuration_duration hamount hmark, ← ih hrest, hsplit,
        List.append_cancel_left_eq]
  | path letter body rest hletter hbody hcut ih =>
    have hne : letter ≠ '\x1b' := fun heq => h (by simp [heq])
    have hbodyEscape : '\x1b' ∉ body := fun hmem => h (by simp [hmem])
    have hrest : '\x1b' ∉ rest := fun hmem => h (by simp [hmem])
    rw [paintDurations_path hletter, paintDrivePaths_paintDurations hletter hbody hcut,
      visible_paint_path hne hbodyEscape, hasTornDuration_path hletter hbody hcut, ← ih hrest]
    simp only [List.cons.injEq, true_and, List.append_cancel_left_eq]
  | other c rest hduration hpath ih =>
    rw [List.mem_cons, not_or] at h
    have hpainted : ¬BeginsPath (c :: paintDurations rest) := by
      rwa [beginsPath_cons, beginsMark_paintDurations, ← beginsPath_cons]
    rw [hasTornDuration_cons hduration hpath, ← ih h.2, paintDurations_cons hduration,
      paintDrivePaths_cons hpainted, visible_cons_of_ne (Ne.symm h.1)]
    simp only [List.cons.injEq, true_and]

/-! ## Markers -/

/-- Whether a message is torn: a duration is, or the sequence that closes its marker. -/
def IsTorn (message : Text) : Prop :=
  (∃ entry ∈ markers, ∃ rest, message = entry.1.toList ++ rest ∧
    (rest.head? = some 's' ∨ BeginsMark rest)) ∨ HasTornDuration message

/-- Three characters that play no other part in a message. -/
structure IsMarker (text : Text) : Prop where
  length : text.length = 3
  digit : ∀ c ∈ text, Text.isDecimalDigit c = false
  letter : ∀ c ∈ text, c.isAlpha = false
  escape : '\x1b' ∉ text
  colon : ':' ∉ text
  s : 's' ∉ text

theorem isMarker_of_mem {entry : String × Paint} (h : entry ∈ markers) :
    IsMarker entry.1.toList := by
  have hall : entry.1.toList.length = 3 ∧
      entry.1.toList.all (fun c => !Text.isDecimalDigit c && !c.isAlpha) = true ∧
      '\x1b' ∉ entry.1.toList ∧ ':' ∉ entry.1.toList ∧ 's' ∉ entry.1.toList := by
    revert entry
    decide
  obtain ⟨hlength, hplain, hescape, hcolon, hs⟩ := hall
  have hchar (c : Char) (hmem : c ∈ entry.1.toList) :
      Text.isDecimalDigit c = false ∧ c.isAlpha = false := by
    simpa using List.all_eq_true.mp hplain c hmem
  exact ⟨hlength, fun c hmem => (hchar c hmem).1, fun c hmem => (hchar c hmem).2, hescape, hcolon,
    hs⟩

theorem paintMarker_of_mem {entry : String × Paint} (h : entry ∈ markers) (rest : Text) :
    paintMarker (entry.1.toList ++ rest) = paint entry.2 entry.1.toList ++ rest := by
  simp only [markers, List.mem_cons, List.not_mem_nil, or_false] at h
  rcases h with rfl | rfl | rfl <;> rfl

theorem paintMarker_of_forall {message : Text}
    (h : ∀ entry ∈ markers, ∀ rest, message ≠ entry.1.toList ++ rest) :
    paintMarker message = message := by
  have hnone : markers.findSome? (fun entry => (Text.dropOpening? entry.1 message).map fun rest =>
      paint entry.2 entry.1 ++ rest) = none := by
    refine List.findSome?_eq_none_iff.mpr fun entry hentry => ?_
    cases hdrop : Text.dropOpening? entry.1.toList message with
    | none => rfl
    | some rest => exact absurd (Text.dropOpening?_eq_some.mp hdrop) (h entry hentry rest)
  exact congrArg (Option.getD · message) hnone

/-- Neither a duration nor a path begins in a marker. -/
theorem hasTornDuration_append_of_plain {text : Text}
    (hdigit : ∀ c ∈ text, Text.isDecimalDigit c = false) (hletter : ∀ c ∈ text, c.isAlpha = false)
    (rest : Text) : HasTornDuration (text ++ rest) ↔ HasTornDuration rest := by
  induction text with
  | nil => rfl
  | cons c text ih =>
    rw [List.forall_mem_cons] at hdigit hletter
    refine (hasTornDuration_cons (fun hbegins => ?_) (fun hbegins => ?_)).trans
      (ih hdigit.2 hletter.2)
    · have htrue := hbegins.isDecimalDigit
      rw [hdigit.1] at htrue
      cases htrue
    · have htrue := (beginsPath_cons.mp hbegins).1
      rw [hletter.1] at htrue
      cases htrue

theorem IsMarker.head?_append {marker : Text} (h : IsMarker marker) (rest : Text) :
    (marker ++ rest).head? ≠ some 's' := by
  cases marker with
  | nil => cases h.length
  | cons c marker =>
    intro heq
    obtain rfl : c = 's' := Option.some.inj heq
    exact h.s List.mem_cons_self

/-- A painted marker is kept unless an `s` follows. -/
theorem IsMarker.paintDurations_paint {marker : Text} (h : IsMarker marker) (codes : Paint)
    {rest : Text} (hs : rest.head? ≠ some 's') :
    paintDurations (paint codes marker ++ rest) = paint codes marker ++ paintDurations rest := by
  rw [paint, List.append_assoc, List.append_assoc,
    paintDurations_flatMap_sequence _ (h.head?_append _),
    paintDurations_append_of_not_digit h.digit, reset, paintDurations_sequence 0 hs,
    List.append_assoc, List.append_assoc]

/-- With an `s` behind it, the sequence that closes a marker becomes a duration. -/
theorem IsMarker.escape_mem_visible {marker : Text} (h : IsMarker marker) (codes : Paint)
    (rest : Text) :
    '\x1b' ∈ visible (paintDrivePaths (paintDurations (paint codes marker ++ 's' :: rest))) := by
  have hopening : ':' ∉ codes.flatMap sequence ++ (marker ++ ['\x1b', '[']) := by
    simp [colon_not_mem_sequence, h.colon]
  have hdigit : ∀ c ∈ marker ++ ['\x1b', '['], Text.isDecimalDigit c = false := by
    intro c hmem
    rcases List.mem_append.mp hmem with hin | hin
    · exact h.digit c hin
    · have hboth : ['\x1b', '['].all (!Text.isDecimalDigit ·) = true := by decide
      simpa using List.all_eq_true.mp hboth c hin
  have hzero : IsAmount ['0'] := .whole (List.cons_ne_nil _ _)
    (List.forall_mem_singleton.mpr (by decide))
  have hsplit : paint codes marker ++ 's' :: rest = codes.flatMap sequence ++
      ((marker ++ ['\x1b', '[']) ++ (['0'] ++ 'm' :: 's' :: rest)) := by
    simp [paint, reset, sequence, Numeral.ofNat]
  have hhead : ((marker ++ ['\x1b', '[']) ++ (['0'] ++ 'm' :: 's' :: rest)).head? ≠ some 's' := by
    rw [List.append_assoc]
    exact h.head?_append _
  obtain ⟨behind, hbehind⟩ : ∃ behind, paint brightYellow (['0'] ++ ['m', 's']) ++
      paintDurations rest = '\x1b' :: behind := ⟨_, rfl⟩
  rw [hsplit, paintDurations_flatMap_sequence _ hhead, paintDurations_append_of_not_digit hdigit,
    paintDurations_duration hzero, hbehind, ← List.append_assoc,
    paintDrivePaths_append hopening (by rintro ⟨more, h⟩; simp at h),
    paintDrivePaths_cons (by rw [beginsPath_cons]; simp), List.append_assoc, List.append_assoc,
    visible_flatMap_sequence, visible_append h.escape]
  exact List.mem_append_right _ (escape_mem_visible_of_torn [] (by decide) (by decide)
    (by decide) _)

/-- A message with a marker is torn behind the marker, or has a torn duration. -/
theorem isTorn_marker {entry : String × Paint} (hentry : entry ∈ markers) (rest : Text) :
    IsTorn (entry.1.toList ++ rest) ↔
      (rest.head? = some 's' ∨ BeginsMark rest) ∨ HasTornDuration rest := by
  have hmarker := isMarker_of_mem hentry
  refine or_congr ⟨?_, fun h => ⟨entry, hentry, rest, rfl, h⟩⟩
    (hasTornDuration_append_of_plain hmarker.digit hmarker.letter rest)
  rintro ⟨other, hother, behind, heq, h⟩
  have hlengths := hmarker.length.trans (isMarker_of_mem hother).length.symm
  rwa [(List.append_inj heq hlengths).2]

/-- What is seen of a painted marker and what follows it. -/
theorem IsMarker.visible_iff {marker : Text} (h : IsMarker marker) (codes : Paint) {rest : Text}
    (hescape : '\x1b' ∉ rest) :
    visible (paintDrivePaths (paintDurations (paint codes marker ++ rest))) = marker ++ rest ↔
      ¬((rest.head? = some 's' ∨ BeginsMark rest) ∨ HasTornDuration rest) := by
  have htorn {text : Text} (hmem : '\x1b' ∈ visible text) : visible text ≠ marker ++ rest :=
    fun hseen => (List.mem_append.mp (hseen ▸ hmem)).elim h.escape hescape
  by_cases hs : rest.head? = some 's'
  · obtain ⟨behind, rfl⟩ := List.head?_eq_some_iff.mp hs
    exact iff_of_false (htorn (h.escape_mem_visible codes behind))
      (not_not_intro (Or.inl (Or.inl hs)))
  · rw [h.paintDurations_paint codes hs]
    by_cases hmark : BeginsMark rest
    · exact iff_of_false
        (htorn (escape_mem_visible_of_mark h.colon h.escape (beginsMark_paintDurations.mpr hmark)
          codes))
        (not_not_intro (Or.inl (Or.inr hmark)))
    · rw [paintDrivePaths_append (colon_not_mem_paint h.colon codes)
          (mt beginsMark_paintDurations.mp hmark),
        visible_paint h.escape, List.append_cancel_left_eq, visible_paintDrivePaths_iff hescape,
        or_iff_right (not_or_intro hs hmark)]

/-! ## Messages -/

/-- **What is seen of a highlighted message** is the message, unless it is torn. -/
theorem visible_highlight_iff {message : Text} (h : '\x1b' ∉ message) :
    visible (highlight true message) = message ↔ ¬IsTorn message := by
  change visible (paintDrivePaths (paintDurations (paintMarker message))) = message ↔ _
  by_cases hmarked : ∃ entry ∈ markers, ∃ rest, message = entry.1.toList ++ rest
  · obtain ⟨entry, hentry, rest, rfl⟩ := hmarked
    rw [List.mem_append, not_or] at h
    rw [paintMarker_of_mem hentry, isTorn_marker hentry]
    exact (isMarker_of_mem hentry).visible_iff entry.2 h.2
  · have hnone : ∀ entry ∈ markers, ∀ rest, message ≠ entry.1.toList ++ rest :=
      fun entry hentry rest heq => hmarked ⟨entry, hentry, rest, heq⟩
    have htorn : IsTorn message ↔ HasTornDuration message :=
      or_iff_right fun ⟨entry, hentry, rest, heq, _⟩ => hnone entry hentry rest heq
    rw [paintMarker_of_forall hnone, htorn]
    exact visible_paintDrivePaths_iff h

end LaunchKit.Console
