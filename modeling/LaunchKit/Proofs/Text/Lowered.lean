import LaunchKit.Text.Case

/-!
# Lowered texts

Lowering puts an image in the place of each character. The images are lowered themselves, so that
lowering a second time changes nothing, and the marks of ASCII, which are its characters other than
letters, are kept and not made. Behind a mark that ends words, lowering begins anew, and the text
can be lowered in the pieces between such marks.

That no image is lowered further is a fact about the table of spans. It is checked pair by pair: the
images of one span lie beside the points of the other, or pass between them at every second point.

## Main definitions

* `Text.IsLowered`: a character that is its own image.
* `Text.IsImage`: what can be said of all images of a character.
* `Text.isMark`, `Text.endsWords`: the marks of ASCII, and those that end words.

## Main statements

* `Text.exists_lowerAfter_cons`: lowering character by character.
* `Text.lower_lower`: lowering a second time changes nothing.
* `Text.lowerAfter_eq_iff_of_marks`: a text of marks is lowered from itself only.
* `Text.lowerAfter_intercalate`: lowering piece by piece.
-/
namespace LaunchKit.Text

/-! ## The table -/

/-- Whether no image of one span is a point of the other. The comparisons are those that the kernel
computes at once. -/
def CaseSpan.avoids (span other : CaseSpan) : Bool :=
  Nat.blt (span.image + (span.last - span.first)) other.first || Nat.blt other.last span.image ||
    ((Nat.beq span.step 2 || Nat.beq span.first span.last) && Nat.beq other.step 2 &&
      Nat.beq ((span.image + other.first) % 2) 1)

/-- The point of the dotted capital I, which has no span. -/
def dottedSpan : CaseSpan := ⟨0x130, 0x130, 1, 0⟩

/-- Whether the images of a span are characters that are not mapped further. The sign of kelvin is
the only character of the table whose image is in ASCII. -/
def CaseSpan.isSettled (span : CaseSpan) : Bool :=
  (Nat.ble 128 span.image || (Nat.beq span.image 0x6B && Nat.beq span.first span.last)) &&
    (Nat.blt (span.image + (span.last - span.first)) 0xD800 ||
      (Nat.blt 0xDFFF span.image &&
        Nat.blt (span.image + (span.last - span.first)) 0x110000)) &&
    (dottedSpan :: loweringSpans).all span.avoids

theorem isSettled_of_mem_loweringSpans {span : CaseSpan} (h : span ∈ loweringSpans) :
    span.isSettled = true := by
  have hall : loweringSpans.all CaseSpan.isSettled = true := by decide +kernel
  exact List.all_eq_true.mp hall span h

theorem map?_eq_some_iff {span : CaseSpan} {point image : Nat} :
    span.map? point = some image ↔ span.first ≤ point ∧ point ≤ span.last ∧
      (point - span.first) % span.step = 0 ∧ image = span.image + (point - span.first) := by
  rw [CaseSpan.map?]
  split
  · next h => simp [h.1, h.2.1, h.2.2, eq_comm]
  · next h =>
    simp only [reduceCtorEq, false_iff]
    exact fun hall => h ⟨hall.1, hall.2.1, hall.2.2.1⟩

/-- An image of one span is not mapped by a span that is avoided. -/
theorem map?_eq_none_of_avoids {span other : CaseSpan} (h : span.avoids other = true)
    {point image : Nat} (himage : span.map? point = some image) : other.map? image = none := by
  obtain ⟨hfirst, hlast, hstep, rfl⟩ := map?_eq_some_iff.mp himage
  rw [Option.eq_none_iff_forall_ne_some]
  intro further hfurther
  obtain ⟨hfirst', hlast', hstep', -⟩ := map?_eq_some_iff.mp hfurther
  simp only [CaseSpan.avoids, Bool.or_eq_true, Bool.and_eq_true, Nat.blt_eq, Nat.beq_eq] at h
  rcases h with (h | h) | ⟨⟨h | h, hother⟩, hodd⟩
  · omega
  · omega
  · rw [h] at hstep
    rw [hother] at hstep'
    omega
  · rw [hother] at hstep'
    omega

/-- What the table says of an image: it is a character, it is `k` or no character of ASCII, and it
is not mapped further. -/
theorem settled_image {span : CaseSpan} (hspan : span ∈ loweringSpans) {point image : Nat}
    (h : span.map? point = some image) :
    image.isValidChar ∧ (128 ≤ image ∨ image = 0x6B) ∧
      ∀ other ∈ dottedSpan :: loweringSpans, other.map? image = none := by
  have hsettled := isSettled_of_mem_loweringSpans hspan
  simp only [CaseSpan.isSettled, Bool.and_eq_true, Bool.or_eq_true, Nat.ble_eq, Nat.blt_eq,
    Nat.beq_eq] at hsettled
  obtain ⟨⟨hascii, hvalid⟩, havoids⟩ := hsettled
  obtain ⟨hfirst, hlast, -, himage⟩ := map?_eq_some_iff.mp h
  refine ⟨?_, ?_, fun other hmem => ?_⟩
  · rw [Nat.isValidChar]
    omega
  · omega
  · exact map?_eq_none_of_avoids (List.all_eq_true.mp havoids other hmem) h

/-! ## Images -/

/-- A character of ASCII that is no letter. -/
def isMark (c : Char) : Bool := decide (c.toNat < 128) && !c.isAlpha

/-- A character that is its own image, wherever it stands. -/
def IsLowered (c : Char) : Prop := c ≠ 'Σ' ∧ lowerImage c = [c]

/-- What can be said of all images of a character. -/
structure IsImage (c : Char) (image : Text) : Prop where
  lowered : ∀ d ∈ image, IsLowered d
  of_mark : isMark c = true → image = [c]
  not_mark : isMark c = false → ∀ d ∈ image, isMark d = false
  of_ascii : c.toNat < 128 → image = [c.toLower]
  beyond_ascii : ¬c.toNat < 128 → ∀ d ∈ image, d.toNat < 128 → d = 'i' ∨ d = 'k'
  dotted : c = 'İ' → image = ['i', '\u0307']
  single : c ≠ 'İ' → ∃ d, image = [d]
  kelvin : ¬c.toNat < 128 → c ≠ 'İ' → ∀ d ∈ image, d.toNat < 128 → d = 'k'

theorem ne_of_ascii {c d : Char} (h : c.toNat < 128) (hd : ¬d.toNat < 128) : c ≠ d := by
  rintro rfl
  exact hd h

theorem ascii_toLower {c : Char} (h : c.toNat < 128) :
    c.toLower.toNat < 128 ∧ c.toLower.toLower = c.toLower ∧ c.toLower.toUpper = c.toUpper ∧
      isMark c.toLower = isMark c ∧ (isMark c = true → c.toLower = c) := by
  have hall : ∀ n < 128, (Char.ofNat n).toLower.toNat < 128 ∧
      (Char.ofNat n).toLower.toLower = (Char.ofNat n).toLower ∧
      (Char.ofNat n).toLower.toUpper = (Char.ofNat n).toUpper ∧
      isMark (Char.ofNat n).toLower = isMark (Char.ofNat n) ∧
      (isMark (Char.ofNat n) = true → (Char.ofNat n).toLower = Char.ofNat n) := by
    decide +kernel
  have hc := hall c.toNat h
  rwa [Char.ofNat_toNat] at hc

theorem lowerImage_of_ascii {c : Char} (h : c.toNat < 128) : lowerImage c = [c.toLower] := by
  rw [lowerImage, if_pos h]

theorem isImage_of_ascii {c : Char} (h : c.toNat < 128) : IsImage c [c.toLower] := by
  obtain ⟨hascii, hlower, -, hmark, heq⟩ := ascii_toLower h
  refine ⟨?_, ?_, ?_, fun _ => rfl, absurd h, ?_, fun _ => ⟨_, rfl⟩, absurd h⟩
  · intro d hd
    rw [List.mem_singleton.mp hd]
    refine ⟨ne_of_ascii hascii (by decide), ?_⟩
    rw [lowerImage_of_ascii hascii, hlower]
  · intro hc
    rw [heq hc]
  · intro hc d hd
    rw [List.mem_singleton.mp hd, hmark, hc]
  · intro hc
    exact absurd hc (ne_of_ascii h (by decide))

theorem isMark_of_beyond_ascii {c : Char} (h : ¬c.toNat < 128) : isMark c = false := by
  simp [isMark, h]

/-- A character beyond ASCII with an image of one character, of which two things have to be
known. -/
theorem isImage_of_beyond_ascii {c d : Char} (h : ¬c.toNat < 128) (hdotted : c ≠ 'İ')
    (hlowered : IsLowered d) (hd : d.toNat < 128 → d = 'k') : IsImage c [d] := by
  have hmark := isMark_of_beyond_ascii h
  have hkelvin : ∀ e ∈ [d], e.toNat < 128 → e = 'k' := List.forall_mem_singleton.mpr hd
  refine ⟨?_, ?_, ?_, fun hc => absurd hc h, ?_, fun hc => absurd hc hdotted, fun _ => ⟨_, rfl⟩,
    fun _ _ => hkelvin⟩
  · intro e he
    rw [List.mem_singleton.mp he]
    exact hlowered
  · intro hc
    rw [hmark] at hc
    cases hc
  · intro _ e he
    rw [List.mem_singleton.mp he]
    by_cases hascii : d.toNat < 128
    · rw [hd hascii]
      rfl
    · exact isMark_of_beyond_ascii hascii
  · intro _ e he hascii
    exact Or.inr (hkelvin e he hascii)

/-- A character that no span maps is its own image. -/
theorem isLowered_of_forall_map? {c : Char} (hc : ¬c.toNat < 128)
    (h : ∀ span ∈ dottedSpan :: loweringSpans, span.map? c.toNat = none) : IsLowered c := by
  have hfind : loweringSpans.findSome? (fun span => span.map? c.toNat) = none :=
    List.findSome?_eq_none_iff.mpr fun span hmem => h span (List.mem_cons_of_mem _ hmem)
  have hdotted : c ≠ 'İ' := by
    rintro rfl
    have hmap := h dottedSpan List.mem_cons_self
    cases hmap
  have hsigma : c ≠ 'Σ' := by
    rintro rfl
    have hmapped : (loweringSpans.findSome? fun span => span.map? 'Σ'.toNat).isSome = true := by
      decide +kernel
    rw [hfind] at hmapped
    cases hmapped
  refine ⟨hsigma, ?_⟩
  rw [lowerImage, if_neg hc, if_neg hdotted, mapBySpans, hfind]

theorem isImage_dotted : IsImage 'İ' ['i', '\u0307'] := by
  have hdot : IsLowered '\u0307' := ⟨by decide, by decide +kernel⟩
  refine ⟨?_, ?_, ?_, fun hc => absurd hc (by decide), ?_, fun _ => rfl, absurd rfl,
    fun _ hc => absurd rfl hc⟩
  · intro d hd
    simp only [List.mem_cons, List.not_mem_nil, or_false] at hd
    rcases hd with rfl | rfl
    · exact ⟨by decide, rfl⟩
    · exact hdot
  · intro hc
    exact absurd hc (by decide)
  · intro _
    rw [List.forall_mem_cons, List.forall_mem_singleton]
    exact ⟨rfl, rfl⟩
  · intro _
    rw [List.forall_mem_cons, List.forall_mem_singleton]
    exact ⟨fun _ => Or.inl rfl, fun hascii => absurd hascii (by decide)⟩

/-- What the table maps a character to is lowered. -/
theorem isLowered_mapBySpans {c : Char} (hdotted : c ≠ 'İ') (hsigma : c ≠ 'Σ')
    (hc : ¬c.toNat < 128) :
    IsLowered (mapBySpans loweringSpans c) ∧
      ((mapBySpans loweringSpans c).toNat < 128 → mapBySpans loweringSpans c = 'k') := by
  have himage : lowerImage c = [mapBySpans loweringSpans c] := by
    rw [lowerImage, if_neg hc, if_neg hdotted]
  rw [mapBySpans] at himage ⊢
  cases hfind : loweringSpans.findSome? (fun span => span.map? c.toNat) with
  | none =>
    rw [hfind] at himage
    exact ⟨⟨hsigma, himage⟩, fun h => absurd h hc⟩
  | some image =>
    obtain ⟨span, hspan, hmap⟩ := List.exists_of_findSome?_eq_some hfind
    obtain ⟨hvalid, hrange, hnone⟩ := settled_image hspan hmap
    have htoNat : (Char.ofNat image).toNat = image := by
      rw [Char.ofNat, dif_pos hvalid]
      rfl
    rcases hrange with hbeyond | rfl
    · have hbeyond' : ¬(Char.ofNat image).toNat < 128 := by omega
      refine ⟨isLowered_of_forall_map? hbeyond' ?_, fun h => absurd h hbeyond'⟩
      rw [htoNat]
      exact hnone
    · have hk : IsLowered 'k' := ⟨by decide, rfl⟩
      exact ⟨hk, fun _ => rfl⟩

/-- **All images.** The image of a character behind a cased neighbour or not, whatever follows. -/
theorem exists_lowerAfter_cons (cased : Bool) (c : Char) (rest : Text) :
    ∃ image cased', IsImage c image ∧
      lowerAfter cased (c :: rest) = image ++ lowerAfter cased' rest := by
  refine ⟨_, _, ?_, rfl⟩
  split
  · next hsigma =>
    subst hsigma
    -- Both small sigmas are lowered.
    have hfinal : IsLowered 'ς' := ⟨by decide, by decide +kernel⟩
    have hsmall : IsLowered 'σ' := ⟨by decide, by decide +kernel⟩
    split
    · exact isImage_of_beyond_ascii (by decide) (by decide) hfinal (by decide)
    · exact isImage_of_beyond_ascii (by decide) (by decide) hsmall (by decide)
  · next hsigma =>
    by_cases hc : c.toNat < 128
    · rw [lowerImage_of_ascii hc]
      exact isImage_of_ascii hc
    · by_cases hdotted : c = 'İ'
      · subst hdotted
        exact isImage_dotted
      · obtain ⟨hlowered, hk⟩ := isLowered_mapBySpans hdotted hsigma hc
        rw [lowerImage, if_neg hc, if_neg hdotted]
        exact isImage_of_beyond_ascii hc hdotted hlowered hk

/-! ## Lowered texts -/

theorem lowerAfter_eq_self_of_isLowered {text : Text} (h : ∀ c ∈ text, IsLowered c)
    (cased : Bool) : lowerAfter cased text = text := by
  induction text generalizing cased with
  | nil => rfl
  | cons c rest ih =>
    obtain ⟨hsigma, himage⟩ := h c List.mem_cons_self
    have hrest := ih fun d hd => h d (List.mem_cons_of_mem _ hd)
    rw [lowerAfter, if_neg hsigma, himage, hrest]
    rfl

theorem isLowered_of_mem_lowerAfter {cased : Bool} {text : Text} {d : Char}
    (h : d ∈ lowerAfter cased text) : IsLowered d := by
  induction text generalizing cased with
  | nil => cases h
  | cons c rest ih =>
    obtain ⟨image, cased', himage, hcons⟩ := exists_lowerAfter_cons cased c rest
    rw [hcons, List.mem_append] at h
    rcases h with h | h
    · exact himage.lowered d h
    · exact ih h

/-- **Lowering a second time changes nothing.** -/
theorem lower_lower (text : Text) : lower (lower text) = lower text :=
  lowerAfter_eq_self_of_isLowered (fun _ hd => isLowered_of_mem_lowerAfter hd) false

theorem IsImage.ne_nil {c : Char} {image : Text} (h : IsImage c image) : image ≠ [] := by
  by_cases hc : c = 'İ'
  · rw [h.dotted hc]
    simp
  · obtain ⟨d, rfl⟩ := h.single hc
    simp

/-- Marks are kept and not made. -/
theorem mem_lowerAfter_iff {mark : Char} (hmark : isMark mark = true) {cased : Bool}
    {text : Text} : mark ∈ lowerAfter cased text ↔ mark ∈ text := by
  induction text generalizing cased with
  | nil => simp [lowerAfter]
  | cons c rest ih =>
    obtain ⟨image, cased', himage, hcons⟩ := exists_lowerAfter_cons cased c rest
    rw [hcons, List.mem_append, List.mem_cons, ih]
    cases hc : isMark c with
    | true => rw [himage.of_mark hc, List.mem_singleton]
    | false =>
      have hne : mark ≠ c := by
        rintro rfl
        rw [hc] at hmark
        cases hmark
      have hnot : mark ∉ image := by
        intro hmem
        rw [himage.not_mark hc mark hmem] at hmark
        cases hmark
      simp [hne, hnot]

/-- **A text of marks is lowered from itself only.** -/
theorem lowerAfter_eq_iff_of_marks {target : Text} (h : target.all isMark = true)
    {cased : Bool} {text : Text} : lowerAfter cased text = target ↔ text = target := by
  induction text generalizing cased target with
  | nil => rfl
  | cons c rest ih =>
    obtain ⟨image, cased', himage, hcons⟩ := exists_lowerAfter_cons cased c rest
    rw [hcons]
    cases target with
    | nil => simp [himage.ne_nil]
    | cons mark target =>
      rw [List.all_cons, Bool.and_eq_true] at h
      obtain ⟨hmark, htarget⟩ := h
      cases hc : isMark c with
      | true =>
        rw [himage.of_mark hc, List.singleton_append, List.cons.injEq, List.cons.injEq, ih htarget]
      | false =>
        obtain ⟨d, others, hd⟩ := List.exists_cons_of_ne_nil himage.ne_nil
        have hne : d ≠ mark := by
          rintro rfl
          rw [himage.not_mark hc d (by simp [hd])] at hmark
          cases hmark
        have hne' : c ≠ mark := by
          rintro rfl
          rw [hc] at hmark
          cases hmark
        simp [hd, hne, hne']

theorem lowerAfter_eq_nil_iff {cased : Bool} {text : Text} :
    lowerAfter cased text = [] ↔ text = [] :=
  lowerAfter_eq_iff_of_marks rfl

/-! ## Words in capital letters -/

theorem toNat_lt_of_toUpper {c : Char} (h : c.toUpper.toNat < 128) : c.toNat < 128 := by
  unfold Char.toUpper at h
  split at h
  · next hlower =>
    have hle : c.val.toNat ≤ 122 := UInt32.le_iff_toNat_le.mp hlower.2
    have htoNat : c.toNat = c.val.toNat := rfl
    omega
  · exact h

/-- A character of ASCII that is no image of a character beyond, nor the capital of one. -/
def isOwnCapital (c : Char) : Bool := decide (c.toNat < 128) && c != 'I' && c != 'K'

/-- A word of such characters is read from a text and from its lowered form alike, in either case of
letters. -/
theorem map_toUpper_lowerAfter_eq_iff {word : Text} (h : word.all isOwnCapital = true)
    {cased : Bool} {text : Text} :
    (lowerAfter cased text).map Char.toUpper = word ↔ text.map Char.toUpper = word := by
  induction text generalizing cased word with
  | nil => rfl
  | cons c rest ih =>
    obtain ⟨image, cased', himage, hcons⟩ := exists_lowerAfter_cons cased c rest
    rw [hcons]
    cases word with
    | nil => simp [himage.ne_nil]
    | cons first word =>
      rw [List.all_cons, Bool.and_eq_true, isOwnCapital, Bool.and_eq_true, Bool.and_eq_true,
        decide_eq_true_eq, bne_iff_ne, bne_iff_ne] at h
      obtain ⟨⟨⟨hascii, hi⟩, hk⟩, hword⟩ := h
      by_cases hc : c.toNat < 128
      · rw [himage.of_ascii hc, List.singleton_append, List.map_cons, List.map_cons,
          List.cons.injEq, List.cons.injEq, (ascii_toLower hc).2.2.1, ih hword]
      · obtain ⟨d, others, hd⟩ := List.exists_cons_of_ne_nil himage.ne_nil
        have hne : d.toUpper ≠ first := by
          rintro rfl
          rcases himage.beyond_ascii hc d (by simp [hd]) (toNat_lt_of_toUpper hascii) with rfl | rfl
          · exact hi rfl
          · exact hk rfl
        have hne' : c.toUpper ≠ first := by
          rintro rfl
          exact hc (toNat_lt_of_toUpper hascii)
        simp [hd, hne, hne']

/-! ## Lowering piece by piece -/

/-- A mark that is neither cased nor passed over in the search for a cased neighbour. -/
def endsWords (c : Char) : Bool := isMark c && !isCaseIgnorable c && !isCased c

theorem startsCased_append {mark : Char} (hmark : endsWords mark = true) (front rest : Text) :
    startsCased (front ++ mark :: rest) = startsCased front := by
  simp only [endsWords, Bool.and_eq_true, Bool.not_eq_true'] at hmark
  induction front with
  | nil => simp [startsCased, hmark.1.2, hmark.2]
  | cons c front ih =>
    cases hc : isCaseIgnorable c with
    | true =>
      simp only [startsCased] at ih
      simp [startsCased, hc, ih]
    | false => simp [startsCased, hc]

theorem toNat_lt_of_isMark {c : Char} (h : isMark c = true) : c.toNat < 128 := by
  simp only [isMark, Bool.and_eq_true, decide_eq_true_eq] at h
  exact h.1

theorem lowerAfter_cons_of_mark {mark : Char} (hmark : isMark mark = true) (rest : Text)
    (cased : Bool) :
    lowerAfter cased (mark :: rest) =
      mark :: lowerAfter (if isCaseIgnorable mark then cased else isCased mark) rest := by
  have hascii : mark.toNat < 128 := toNat_lt_of_isMark hmark
  rw [lowerAfter, if_neg (ne_of_ascii hascii (by decide)), lowerImage_of_ascii hascii,
    (ascii_toLower hascii).2.2.2.2 hmark]
  rfl

/-- **Behind a mark that ends words, lowering begins anew.** -/
theorem lowerAfter_append {mark : Char} (hends : endsWords mark = true) (front rest : Text)
    (cased : Bool) :
    lowerAfter cased (front ++ mark :: rest) = lowerAfter cased front ++ mark :: lower rest := by
  induction front generalizing cased with
  | nil =>
    have hmark := hends
    simp only [endsWords, Bool.and_eq_true, Bool.not_eq_true'] at hmark
    rw [List.nil_append, lowerAfter_cons_of_mark hmark.1.1, hmark.1.2, hmark.2]
    rfl
  | cons c front ih =>
    rw [List.cons_append, lowerAfter, lowerAfter, startsCased_append hends, ih, List.append_assoc]

/-- The pieces of a text, each lowered by itself. The first may stand behind a cased neighbour. -/
def lowerPieces (cased : Bool) : List Text → List Text
  | [] => []
  | piece :: pieces => lowerAfter cased piece :: pieces.map lower

theorem lowerPieces_false (pieces : List Text) : lowerPieces false pieces = pieces.map lower := by
  cases pieces <;> rfl

theorem lowerPieces_ne_nil {cased : Bool} {pieces : List Text} (h : pieces ≠ []) :
    lowerPieces cased pieces ≠ [] := by
  obtain ⟨piece, pieces, rfl⟩ := List.exists_cons_of_ne_nil h
  simp [lowerPieces]

theorem exists_of_mem_lowerPieces {cased : Bool} {pieces : List Text} {image : Text}
    (h : image ∈ lowerPieces cased pieces) :
    ∃ cased', ∃ piece ∈ pieces, image = lowerAfter cased' piece := by
  cases pieces with
  | nil => cases h
  | cons piece pieces =>
    rcases List.mem_cons.mp h with rfl | hmem
    · exact ⟨cased, piece, List.mem_cons_self, rfl⟩
    · obtain ⟨other, hother, rfl⟩ := List.mem_map.mp hmem
      exact ⟨false, other, List.mem_cons_of_mem _ hother, rfl⟩

/-- **Lowering piece by piece.** -/
theorem lowerAfter_intercalate {mark : Char} (hends : endsWords mark = true) (pieces : List Text)
    (cased : Bool) :
    lowerAfter cased (List.intercalate [mark] pieces) =
      List.intercalate [mark] (lowerPieces cased pieces) := by
  induction pieces generalizing cased with
  | nil => rfl
  | cons piece pieces ih =>
    cases pieces with
    | nil => simp [lowerPieces]
    | cons next pieces =>
      rw [List.intercalate_cons_cons, List.append_assoc, List.singleton_append,
        lowerAfter_append hends, lower, ih, lowerPieces_false]
      simp [lowerPieces]

end LaunchKit.Text
