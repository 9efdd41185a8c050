import LaunchKit.Proofs.Console.Durations

/-!
# Paths in a message

A path begins with a letter, a colon and a backslash, and goes on up to a character that ends paths.
Painting keeps all that does not begin so. Durations that were painted before do not change which
characters a path is made of: neither a digit nor a character of a control sequence ends a path.

## Main definitions

* `Console.BeginsPath`, `Console.BeginsMark`: texts that begin with a path, or with what stands
  behind its letter.
* `Console.IsCut`: texts in front of which a path ends.

## Main statements

* `Console.paintDrivePaths_path`, `Console.paintDrivePaths_cons`: the two steps of painting.
* `Console.paintDurations_append`: durations are painted on both sides of a cut.
* `Console.message_induction`: induction along durations and paths.
-/
namespace LaunchKit.Console

/-! ## Painting -/

/-- Whether a text begins with a colon and a backslash. -/
def BeginsMark (text : Text) : Prop := ∃ rest, text = ':' :: '\\' :: rest

/-- Whether a text begins with a path. -/
def BeginsPath (text : Text) : Prop :=
  ∃ letter rest, letter.isAlpha = true ∧ text = letter :: ':' :: '\\' :: rest

theorem beginsPath_cons {c : Char} {rest : Text} :
    BeginsPath (c :: rest) ↔ c.isAlpha = true ∧ BeginsMark rest := by
  constructor
  · rintro ⟨letter, behind, hletter, htext⟩
    obtain ⟨rfl, rfl⟩ := List.cons.inj htext
    exact ⟨hletter, behind, rfl⟩
  · rintro ⟨hletter, behind, rfl⟩
    exact ⟨c, behind, hletter, rfl⟩

theorem spanDrivePath?_path {letter : Char} (h : letter.isAlpha = true) (rest : Text) :
    spanDrivePath? (letter :: ':' :: '\\' :: rest) =
      some (letter :: ':' :: '\\' :: rest.takeWhile (!endsPath ·),
        rest.dropWhile (!endsPath ·)) :=
  if_pos h

theorem spanDrivePath?_eq_none {text : Text} (h : ¬BeginsPath text) :
    spanDrivePath? text = none := by
  unfold spanDrivePath?
  split
  · next letter rest =>
    split
    · next hletter => exact absurd ⟨letter, rest, hletter, rfl⟩ h
    · rfl
  · rfl

theorem length_of_spanDrivePath? {text path behind : Text}
    (h : spanDrivePath? text = some (path, behind)) : behind.length < text.length := by
  by_cases hbegins : BeginsPath text
  · obtain ⟨letter, rest, hletter, rfl⟩ := hbegins
    rw [spanDrivePath?_path hletter] at h
    cases h
    have hle := (List.dropWhile_sublist (!endsPath ·) (l := rest)).length_le
    simp only [List.length_cons]
    omega
  · rw [spanDrivePath?_eq_none hbegins] at h
    cases h

/-- Enough steps give all. -/
theorem paintDrivePathsWithin_eq_of_le {m n : Nat} {text : Text} (hm : text.length ≤ m)
    (hn : text.length ≤ n) : paintDrivePathsWithin m text = paintDrivePathsWithin n text := by
  induction m generalizing n text with
  | zero =>
    obtain rfl := List.length_eq_zero_iff.mp (Nat.le_zero.mp hm)
    cases n <;> rfl
  | succ m ih =>
    cases text with
    | nil => cases n <;> rfl
    | cons c rest =>
      obtain ⟨n, rfl⟩ := Nat.exists_eq_add_one_of_ne_zero (Nat.ne_zero_of_lt hn)
      rw [List.length_cons, Nat.add_le_add_iff_right] at hm hn
      rw [paintDrivePathsWithin, paintDrivePathsWithin]
      cases hspan : spanDrivePath? (c :: rest) with
      | none => exact congrArg (c :: ·) (ih hm hn)
      | some found =>
        have hlt := length_of_spanDrivePath? hspan
        rw [List.length_cons] at hlt
        exact congrArg (paint brightMagenta found.1 ++ ·) (ih (by omega) (by omega))

/-- One step of painting. -/
theorem paintDrivePaths_step (c : Char) (rest : Text) :
    paintDrivePaths (c :: rest) =
      match spanDrivePath? (c :: rest) with
      | some (path, rest) => paint brightMagenta path ++ paintDrivePaths rest
      | none => c :: paintDrivePaths rest := by
  rw [paintDrivePaths, List.length_cons, paintDrivePathsWithin]
  cases hspan : spanDrivePath? (c :: rest) with
  | none => rfl
  | some found =>
    have hlt := length_of_spanDrivePath? hspan
    exact congrArg (paint brightMagenta found.1 ++ ·)
      (paintDrivePathsWithin_eq_of_le (Nat.le_of_lt_succ hlt) (Nat.le_refl _))

/-- A path is painted whole. -/
theorem paintDrivePaths_path {letter : Char} (h : letter.isAlpha = true) (rest : Text) :
    paintDrivePaths (letter :: ':' :: '\\' :: rest) =
      paint brightMagenta (letter :: ':' :: '\\' :: rest.takeWhile (!endsPath ·)) ++
        paintDrivePaths (rest.dropWhile (!endsPath ·)) := by
  rw [paintDrivePaths_step, spanDrivePath?_path h]

/-- Any other character is kept. -/
theorem paintDrivePaths_cons {c : Char} {rest : Text} (h : ¬BeginsPath (c :: rest)) :
    paintDrivePaths (c :: rest) = c :: paintDrivePaths rest := by
  rw [paintDrivePaths_step, spanDrivePath?_eq_none h]

/-- A text without colons is kept. -/
theorem paintDrivePaths_append {text rest : Text} (hcolon : ':' ∉ text) (hmark : ¬BeginsMark rest) :
    paintDrivePaths (text ++ rest) = text ++ paintDrivePaths rest := by
  induction text with
  | nil => rfl
  | cons c text ih =>
    rw [List.mem_cons, not_or] at hcolon
    have hbegins : ¬BeginsPath (c :: (text ++ rest)) := by
      rw [beginsPath_cons]
      rintro ⟨-, behind, htext⟩
      cases text with
      | nil => exact hmark ⟨behind, htext⟩
      | cons d text => exact hcolon.2 ((List.cons.inj htext).1 ▸ List.mem_cons_self)
    rw [List.cons_append, paintDrivePaths_cons hbegins, ih hcolon.2, List.cons_append]

/-! ## Paths behind painted durations -/

/-- Painting durations neither makes nor hides a colon and a backslash in front. -/
theorem beginsMark_paintDurations {text : Text} :
    BeginsMark (paintDurations text) ↔ BeginsMark text := by
  constructor
  · rintro ⟨rest, hpainted⟩
    obtain ⟨behind, rfl, htail⟩ := paintDurations_eq_cons (by decide) hpainted
    obtain ⟨more, rfl, -⟩ := paintDurations_eq_cons (by decide) htail.symm
    exact ⟨more, rfl⟩
  · rintro ⟨rest, rfl⟩
    refine ⟨paintDurations rest, ?_⟩
    rw [paintDurations_cons_of_not_digit (by decide), paintDurations_cons_of_not_digit (by decide)]

/-! ## Cuts -/

/-- Whether a path in front of a text ends there. -/
def IsCut (text : Text) : Prop := ∀ c ∈ text.head?, endsPath c = true

theorem exists_zero_of_isDecimalDigit {c : Char} (h : Text.isDecimalDigit c = true) :
    ∃ start ∈ Text.zeros, ∃ k < 10, c.toNat = start + k := by
  rw [Text.isDecimalDigit, Text.decimalDigit?] at h
  split at h
  · split at h
    · next hdigit =>
      have hbounds : 48 ≤ c.toNat ∧ c.toNat ≤ 57 := Char.isDigit_iff_toNat.mp hdigit
      exact ⟨0x30, List.mem_cons_self, c.toNat - 48, by omega, by omega⟩
    · cases h
  · rw [Option.isSome_map, List.find?_isSome] at h
    obtain ⟨start, hmem, hbounds⟩ := h
    rw [Bool.and_eq_true, decide_eq_true_eq, decide_eq_true_eq] at hbounds
    exact ⟨start, hmem, c.toNat - start, by omega, by omega⟩

/-- No letter is a digit. -/
theorem isDecimalDigit_eq_false_of_isAlpha {c : Char} (h : c.isAlpha = true) :
    Text.isDecimalDigit c = false := by
  have hbounds : 65 ≤ c.toNat ∧ c.toNat ≤ 122 := by
    rcases Bool.or_eq_true_iff.mp h with hupper | hlower
    · obtain ⟨hlow, hhigh⟩ := of_decide_eq_true hupper
      exact ⟨hlow, Nat.le_trans hhigh (by decide)⟩
    · obtain ⟨hlow, hhigh⟩ := Bool.and_eq_true_iff.mp hlower
      exact ⟨Nat.le_trans (by decide) (of_decide_eq_true hlow), of_decide_eq_true hhigh⟩
  have hdigit : c.isDigit = false := Bool.eq_false_iff.mpr fun hdigit => by
    have htop : c.toNat ≤ 57 := (Char.isDigit_iff_toNat.mp hdigit).2
    omega
  rw [Text.isDecimalDigit, Text.decimalDigit?, if_pos (by omega), hdigit]
  rfl

/-- No digit ends a path. -/
theorem endsPath_eq_false_of_isDecimalDigit {c : Char} (h : Text.isDecimalDigit c = true) :
    endsPath c = false := by
  have htable : ∀ start ∈ Text.zeros, ∀ k < 10,
      CodeSet.insideAfter false Text.blanks.flips (start + k) = false ∧ start + k ≠ ','.toNat ∧
        start + k ≠ ')'.toNat := by
    decide +kernel
  obtain ⟨start, hstart, k, hk, hc⟩ := exists_zero_of_isDecimalDigit h
  obtain ⟨hblank, hcomma, hparenthesis⟩ := htable start hstart k hk
  rw [← hc] at hblank hcomma hparenthesis
  have hne (d : Char) (hd : c.toNat ≠ d.toNat) : decide (c = d) = false :=
    decide_eq_false fun heq => hd (congrArg Char.toNat heq)
  rw [endsPath, Text.isBlank, CodeSet.contains, hblank, hne ',' hcomma, hne ')' hparenthesis]
  rfl

theorem IsAmount.endsPath_eq_false {amount : Text} (h : IsAmount amount) {c : Char}
    (hmem : c ∈ amount) : endsPath c = false := by
  rcases h.digit_or_point hmem with hdigit | rfl
  · exact endsPath_eq_false_of_isDecimalDigit hdigit
  · decide

/-- No character of a duration ends a path. -/
theorem endsPath_eq_false_of_mem_duration {amount : Text} (h : IsAmount amount) {c : Char}
    (hmem : c ∈ amount ++ ['m', 's']) : endsPath c = false := by
  rcases List.mem_append.mp hmem with hamount | hletters
  · exact h.endsPath_eq_false hamount
  · have hboth : ['m', 's'].all (!Console.endsPath ·) = true := by decide
    simpa using List.all_eq_true.mp hboth c hletters

/-- No duration reaches over a cut. -/
theorem beginsDuration_append {text rest : Text} (hcut : IsCut rest) :
    BeginsDuration (text ++ rest) → BeginsDuration text := by
  rintro ⟨amount, behind, hamount, htext⟩
  have hsplit : text ++ rest = (amount ++ ['m', 's']) ++ behind := by simpa using htext
  rcases List.append_eq_append_iff.mp hsplit with ⟨middle, hduration, hrest⟩ | ⟨middle, heq, -⟩
  · cases middle with
    | nil =>
      rw [List.append_nil] at hduration
      exact ⟨amount, [], hamount, hduration.symm⟩
    | cons c middle =>
      have hc := endsPath_eq_false_of_mem_duration hamount (hduration ▸ List.mem_append_right _
        List.mem_cons_self : c ∈ amount ++ ['m', 's'])
      have hends := hcut c (by rw [hrest]; rfl)
      rw [hc] at hends
      cases hends
  · exact ⟨amount, middle, hamount, by rw [heq, List.append_assoc]; rfl⟩

/-- Durations are painted on both sides of a cut. -/
theorem paintDurations_append {text rest : Text} (hcut : IsCut rest) :
    paintDurations (text ++ rest) = paintDurations text ++ paintDurations rest := by
  induction text using duration_induction with
  | nil => rfl
  | duration amount behind hamount ih =>
    rw [paintDurations_duration hamount, List.append_assoc, List.append_assoc, ← ih]
    exact paintDurations_duration hamount (behind ++ rest)
  | other c behind hbegins ih =>
    have hnone := mt (beginsDuration_append hcut) hbegins
    rw [paintDurations_cons hbegins]
    exact (paintDurations_cons hnone).trans (congrArg (c :: ·) ih)

/-- Painting durations ends no path. -/
theorem endsPath_eq_false_of_mem_paintDurations {text : Text} (h : ∀ c ∈ text, endsPath c = false) :
    ∀ c ∈ paintDurations text, endsPath c = false := by
  induction text using duration_induction with
  | nil => exact h
  | duration amount behind hamount ih =>
    have hcodes : (brightYellow.flatMap sequence ++ reset).all (!endsPath ·) = true := by decide
    have hcode {c : Char} (hmem : c ∈ brightYellow.flatMap sequence ++ reset) :
        endsPath c = false := by
      simpa using List.all_eq_true.mp hcodes c hmem
    intro c hmem
    rw [paintDurations_duration hamount, paint, List.mem_append, List.mem_append,
      List.mem_append] at hmem
    rcases hmem with ((hopening | hduration) | hreset) | hrest
    · exact hcode (List.mem_append_left _ hopening)
    · exact endsPath_eq_false_of_mem_duration hamount hduration
    · exact hcode (List.mem_append_right _ hreset)
    · exact ih (fun d hd => h d (by simp [hd])) c hrest
  | other c behind hbegins ih =>
    rw [List.forall_mem_cons] at h
    rw [paintDurations_cons hbegins]
    exact List.forall_mem_cons.mpr ⟨h.1, ih h.2⟩

theorem paintDurations_isCut {rest : Text} (hcut : IsCut rest) : IsCut (paintDurations rest) := by
  cases rest with
  | nil => exact hcut
  | cons c rest =>
    have hbegins : ¬BeginsDuration (c :: rest) := fun h => by
      have hends := hcut c rfl
      rw [endsPath_eq_false_of_isDecimalDigit h.isDecimalDigit] at hends
      cases hends
    rw [paintDurations_cons hbegins]
    exact hcut

theorem paintDurations_path {letter : Char} (h : letter.isAlpha = true) (rest : Text) :
    paintDurations (letter :: ':' :: '\\' :: rest) =
      letter :: ':' :: '\\' :: paintDurations rest := by
  rw [paintDurations_cons_of_not_digit (isDecimalDigit_eq_false_of_isAlpha h),
    paintDurations_cons_of_not_digit (by decide), paintDurations_cons_of_not_digit (by decide)]

/-- A path with painted durations in it is painted up to the same cut. -/
theorem paintDrivePaths_paintDurations {letter : Char} (hletter : letter.isAlpha = true)
    {body rest : Text} (hbody : ∀ c ∈ body, endsPath c = false) (hcut : IsCut rest) :
    paintDrivePaths (letter :: ':' :: '\\' :: paintDurations (body ++ rest)) =
      paint brightMagenta (letter :: ':' :: '\\' :: paintDurations body) ++
        paintDrivePaths (paintDurations rest) := by
  have hkept : ∀ c ∈ paintDurations body, (!endsPath c) = true := fun c hmem => by
    rw [endsPath_eq_false_of_mem_paintDurations hbody c hmem]
    rfl
  have hspan : (paintDurations rest).takeWhile (!endsPath ·) = [] ∧
      (paintDurations rest).dropWhile (!endsPath ·) = paintDurations rest := by
    have hcutPainted := paintDurations_isCut hcut
    cases hpainted : paintDurations rest with
    | nil => exact ⟨rfl, rfl⟩
    | cons c behind =>
      rw [hpainted] at hcutPainted
      have hends : ¬(!endsPath c) = true := by
        rw [hcutPainted c rfl]
        nofun
      exact ⟨List.takeWhile_cons_of_neg hends, List.dropWhile_cons_of_neg hends⟩
  rw [paintDrivePaths_path hletter, paintDurations_append hcut,
    List.takeWhile_append_of_pos hkept, List.dropWhile_append_of_pos hkept, hspan.1, hspan.2,
    List.append_nil]

/-! ## Induction -/

/-- A text is cut where a path in front of it ends. -/
theorem isCut_dropWhile (text : Text) : IsCut (text.dropWhile (!endsPath ·)) := by
  intro c hc
  have hnot := List.head?_dropWhile_not (!endsPath ·) text
  rw [Option.mem_def.mp hc] at hnot
  simpa using hnot

/-- Induction along the durations and the paths of a message. -/
@[elab_as_elim]
theorem message_induction {motive : Text → Prop} (text : Text) (nil : motive [])
    (duration : ∀ amount rest, IsAmount amount → motive rest →
      motive (amount ++ 'm' :: 's' :: rest))
    (path : ∀ letter body rest, letter.isAlpha = true → (∀ c ∈ body, endsPath c = false) →
      IsCut rest → motive rest → motive (letter :: ':' :: '\\' :: (body ++ rest)))
    (other : ∀ c rest, ¬BeginsDuration (c :: rest) → ¬BeginsPath (c :: rest) → motive rest →
      motive (c :: rest)) :
    motive text := by
  induction hlength : text.length using Nat.strongRecOn generalizing text with
  | ind n ih =>
    subst hlength
    cases text with
    | nil => exact nil
    | cons c rest =>
      by_cases hduration : BeginsDuration (c :: rest)
      · obtain ⟨amount, behind, hamount, htext⟩ := hduration
        have hlt : behind.length < (c :: rest).length := by
          rw [htext, List.length_append, List.length_cons, List.length_cons]
          omega
        rw [htext]
        exact duration amount behind hamount (ih _ hlt behind rfl)
      · by_cases hpath : BeginsPath (c :: rest)
        · obtain ⟨hletter, behind, rfl⟩ := beginsPath_cons.mp hpath
          have hle := (List.dropWhile_sublist (!endsPath ·) (l := behind)).length_le
          have hlt : (behind.dropWhile (!endsPath ·)).length <
              (c :: ':' :: '\\' :: behind).length := by
            simp only [List.length_cons]
            omega
          have hbody : ∀ d ∈ behind.takeWhile (!endsPath ·), endsPath d = false := fun d hd => by
            simpa using List.all_eq_true.mp List.all_takeWhile d hd
          rw [← List.takeWhile_append_dropWhile (p := (!endsPath ·)) (l := behind)]
          exact path c _ _ hletter hbody (isCut_dropWhile behind) (ih _ hlt _ rfl)
        · exact other c rest hduration hpath (ih _ (Nat.lt_succ_self _) rest rfl)

end LaunchKit.Console
