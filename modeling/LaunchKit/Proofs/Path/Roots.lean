import LaunchKit.Path.Join
import LaunchKit.Proofs.Path.Segments

/-!
# Paths below a root

A path in normal form is a root with plain names behind it. The root is a separator behind a drive,
a separator alone, or nothing; it decides how a path is taken apart, but not what happens to the
names. So the rules for normal forms and for joining are said once for all roots, of any text that
may stand behind one.

## Main definitions

* `Path.IsPlain`: a name that no rule of paths looks into.
* `Path.IsRoot`: the roots of normal forms.
* `Path.IsTail`: a text that is read as names when it stands behind a root.

## Main statements

* `Path.normalize_append`: the normal form of a path below a root.
* `Path.join_append`: a path joined to a path below a root.
-/
namespace LaunchKit.Path

/-! ## Names and roots -/

/-- A name that no rule of paths looks into. -/
structure IsPlain (name : Text) : Prop where
  ne_nil : name ≠ []
  ne_current : name ≠ current
  ne_parent : name ≠ parent
  no_separator : ∀ c ∈ name, isSeparator c = false
  no_colon : ':' ∉ name

/-- A drive in normal form, or none. The server `?` is left out, as it opens the long form. -/
inductive IsDrive : Text → Prop
  | letter {c : Char} (hletter : Text.isLetter c = true) : IsDrive [c, ':']
  | share {server share : Text} (hserver : IsPlain server) (hlong : server ≠ ['?'])
      (hshare : IsPlain share) : IsDrive ([separator, separator] ++ server ++ separator :: share)
  | none : IsDrive []

/-- A root in normal form: a separator behind a drive or behind nothing, or nothing at all. -/
inductive IsRoot : Text → Prop
  | absolute {drive : Text} (hdrive : IsDrive drive) : IsRoot (drive ++ [separator])
  | relative : IsRoot []

/-- A text that is read as names when it stands behind a root. -/
structure IsTail (text : Text) : Prop where
  unrooted : text.head? ≠ some separator
  no_slash : '/' ∉ text
  no_colon : ':' ∉ text

theorem isPlain_iff {name : Text} :
    IsPlain name ↔ name ≠ [] ∧ name ≠ current ∧ name ≠ parent ∧ name.any isSeparator = false ∧
      ':' ∉ name := by
  constructor
  · intro h
    refine ⟨h.ne_nil, h.ne_current, h.ne_parent, ?_, h.no_colon⟩
    rw [List.any_eq_false]
    intro c hc
    simp [h.no_separator c hc]
  · rintro ⟨hnil, hcurrent, hparent, hseparator, hcolon⟩
    refine ⟨hnil, hcurrent, hparent, ?_, hcolon⟩
    intro c hc
    simpa using List.any_eq_false.mp hseparator c hc

instance (name : Text) : Decidable (IsPlain name) := decidable_of_iff _ isPlain_iff.symm

theorem IsPlain.separator_not_mem {name : Text} (h : IsPlain name) : separator ∉ name := by
  intro hmem
  have hsep := h.no_separator separator hmem
  simp [isSeparator] at hsep

theorem IsPlain.slash_not_mem {name : Text} (h : IsPlain name) : '/' ∉ name := by
  intro hmem
  have hsep := h.no_separator '/' hmem
  simp [isSeparator] at hsep

/-- No separator of either form stands at the head of a tail. -/
theorem IsTail.not_separator {c : Char} {text : Text} (h : IsTail (c :: text)) :
    isSeparator c = false := by
  have hback : c ≠ '\\' := fun heq => h.unrooted (by rw [heq]; rfl)
  have hslash : c ≠ '/' := fun heq => h.no_slash (by simp [heq])
  simp [isSeparator, hback, hslash]

theorem IsTail.ne_separator {c : Char} {text : Text} (h : IsTail (c :: text)) :
    c ≠ separator := fun heq => h.unrooted (by rw [heq]; rfl)

/-- A plain name is a tail. -/
theorem IsPlain.isTail {name : Text} (h : IsPlain name) : IsTail name where
  unrooted := fun hhead => h.separator_not_mem (List.mem_of_head? hhead)
  no_slash := h.slash_not_mem
  no_colon := h.no_colon

/-- The empty text is a tail. -/
theorem isTail_nil : IsTail [] where
  unrooted := by simp
  no_slash := List.not_mem_nil
  no_colon := List.not_mem_nil

/-- The name of the parent directory is a tail. -/
theorem isTail_parent : IsTail parent where
  unrooted := by decide
  no_slash := by decide
  no_colon := by decide

/-- A tail may be joined behind names that are no root. -/
theorem isTail_append {name text : Text} (hne : name ≠ []) (hname : IsTail name)
    (hslash : '/' ∉ text) (hcolon : ':' ∉ text) : IsTail (name ++ separator :: text) where
  unrooted := by
    obtain ⟨c, others, rfl⟩ := List.exists_cons_of_ne_nil hne
    exact hname.unrooted
  no_slash := by simp [hname.no_slash, hslash, separator]
  no_colon := by simp [hname.no_colon, hcolon, separator]

/-- Joined tails are a tail, if only the last one may be empty. -/
theorem isTail_intercalate_append {names : List Text}
    (h : ∀ name ∈ names, name ≠ [] ∧ IsTail name) {last : Text} (hlast : IsTail last) :
    IsTail (List.intercalate [separator] (names ++ [last])) := by
  induction names with
  | nil => simpa using hlast
  | cons name names ih =>
    obtain ⟨hne, hname⟩ := h name (by simp)
    have htail := ih fun other hmem => h other (List.mem_cons_of_mem _ hmem)
    rw [List.cons_append, List.intercalate_cons_of_ne_nil (by simp), List.append_assoc]
    exact isTail_append hne hname htail.no_slash htail.no_colon

theorem isTail_intercalate {names : List Text} (h : ∀ name ∈ names, name ≠ [] ∧ IsTail name) :
    IsTail (List.intercalate [separator] names) := by
  rcases List.eq_nil_or_concat names with rfl | ⟨front, last, rfl⟩
  · exact isTail_nil
  · rw [List.concat_eq_append] at h ⊢
    have hfront : ∀ name ∈ front, name ≠ [] ∧ IsTail name := by
      intro name hmem
      exact h name (by simp [hmem])
    exact isTail_intercalate_append hfront (h last (by simp)).2

/-- Plain names may stand behind a root. -/
theorem ne_nil_and_isTail {names : List Text} (h : ∀ name ∈ names, IsPlain name) :
    ∀ name ∈ names, name ≠ [] ∧ IsTail name :=
  fun name hmem => ⟨(h name hmem).ne_nil, (h name hmem).isTail⟩

/-- Steps up may stand before them. -/
theorem ne_nil_and_isTail_up (ups : Nat) {names : List Text}
    (h : ∀ name ∈ names, name ≠ [] ∧ IsTail name) :
    ∀ name ∈ List.replicate ups parent ++ names, name ≠ [] ∧ IsTail name := by
  intro name hmem
  rcases List.mem_append.mp hmem with hmem | hmem
  · rw [List.eq_of_mem_replicate hmem]
    exact ⟨by decide, isTail_parent⟩
  · exact h name hmem

theorem separator_not_mem_up (ups : Nat) {names : List Text} (h : ∀ name ∈ names, IsPlain name) :
    ∀ name ∈ List.replicate ups parent ++ names, separator ∉ name := by
  intro name hmem
  rcases List.mem_append.mp hmem with hmem | hmem
  · rw [List.eq_of_mem_replicate hmem]
    decide
  · exact (h name hmem).separator_not_mem

/-! ## Drives of paths below a root -/

/-- No separator is a drive letter. -/
theorem isSeparator_of_isLetter {c : Char} (h : Text.isLetter c = true) :
    isSeparator c = false := by
  cases hsep : isSeparator c with
  | false => rfl
  | true =>
    have hc : c = '\\' ∨ c = '/' := by simpa [isSeparator] using hsep
    rcases hc with rfl | rfl
    · exact absurd h (by decide)
    · exact absurd h (by decide)

/-- Raising makes no character that is not a capital letter. -/
theorem eq_of_toUpper_eq {c d : Char} (h : c.toUpper = d)
    (hd : d.toNat < 65 ∨ 90 < d.toNat) : c = d := by
  unfold Char.toUpper at h
  split at h
  · next hlower =>
    have h₁ : 97 ≤ c.val.toNat := UInt32.le_iff_toNat_le.mp hlower.1
    have h₂ : c.val.toNat ≤ 122 := UInt32.le_iff_toNat_le.mp hlower.2
    have hval : d.val.toNat = (c.val.toNat + 4294967264) % 4294967296 := by
      rw [← h, UInt32.toNat_add]
      rfl
    have hd' : d.val.toNat < 65 ∨ 90 < d.val.toNat := hd
    omega
  · exact h

theorem nameLength_append {name rest : Text} (h : ∀ c ∈ name, isSeparator c = false) :
    nameLength (name ++ separator :: rest) = name.length := by
  rw [nameLength, List.takeWhile_append_of_pos (fun c hc => by simp [h c hc])]
  simp [isSeparator]

/-- A plain server opens no long form, except for `?`. -/
theorem shareOpening_of_ne {server rest : Text} (hserver : IsPlain server)
    (hlong : server ≠ ['?']) :
    shareOpening (separator :: separator :: (server ++ separator :: rest)) = 2 := by
  rw [shareOpening, if_neg]
  intro h
  cases server with
  | nil => exact hserver.ne_nil rfl
  | cons first others =>
    have hfirst : first ≠ '/' := fun heq => hserver.slash_not_mem (by simp [heq])
    cases others with
    | nil =>
      simp [withBackslashes, hfirst] at h
      exact hlong (by rw [eq_of_toUpper_eq h.1 (by decide)])
    | cons second others =>
      have hsecond : isSeparator second = false := hserver.no_separator second (by simp)
      have hslash : second ≠ '/' := fun heq => by simp [heq, isSeparator] at hsecond
      simp [withBackslashes, hfirst, hslash] at h
      rw [eq_of_toUpper_eq h.2.1 (by decide)] at hsecond
      simp [isSeparator] at hsecond

/-- A share is the drive of all that stands below it. -/
theorem shareLength_of_isPlain {server share rest : Text} (hserver : IsPlain server)
    (hlong : server ≠ ['?']) (hshare : IsPlain share) :
    shareLength (separator :: separator ::
        (server ++ separator :: (share ++ separator :: rest))) =
      2 + server.length + 1 + share.length := by
  have hdrop : (separator :: separator ::
      (server ++ separator :: (share ++ separator :: rest))).drop (2 + server.length + 1) =
        share ++ separator :: rest := by
    have hlength : 2 + server.length + 1 =
        ([separator, separator] ++ server ++ [separator]).length := by
      simp
      omega
    have hfront : separator :: separator :: (server ++ separator :: (share ++ separator :: rest)) =
        ([separator, separator] ++ server ++ [separator]) ++ (share ++ separator :: rest) := by
      simp
    rw [hlength, hfront, List.drop_left]
  have hname : nameLength (server ++ separator :: (share ++ separator :: rest)) = server.length :=
    nameLength_append hserver.no_separator
  simp only [shareLength, shareOpening_of_ne hserver hlong, List.drop_succ_cons, List.drop_zero,
    hname, hdrop, nameLength_append hshare.no_separator]

/-- **The drive of a path below a root.** -/
theorem splitDrive_append_separator {drive text : Text} (hdrive : IsDrive drive)
    (htext : IsTail text) :
    splitDrive (drive ++ separator :: text) = (drive, separator :: text) := by
  cases hdrive with
  | letter hletter => simp [splitDrive, isSeparator_of_isLetter hletter]
  | @share server share hserver hlong hshare =>
    have hpath : [separator, separator] ++ server ++ separator :: share ++ separator :: text =
        separator :: separator :: (server ++ separator :: (share ++ separator :: text)) := by
      simp
    have hlength : 2 + server.length + 1 + share.length =
        ([separator, separator] ++ server ++ separator :: share).length := by
      simp
      omega
    have hsep : (isSeparator separator && isSeparator separator) = true := rfl
    rw [hpath, splitDrive, if_pos hsep, shareLength_of_isPlain hserver hlong hshare, ← hpath,
      List.splitAt_eq, hlength, List.take_left, List.drop_left]
  | none =>
    cases text with
    | nil => simp [splitDrive]
    | cons c text =>
      have hcolon : c ≠ ':' := fun heq => htext.no_colon (by simp [heq])
      simp [splitDrive, htext.not_separator, hcolon]

/-- A tail has no drive. -/
theorem splitDrive_of_isTail {text : Text} (h : IsTail text) : splitDrive text = ([], text) := by
  rw [splitDrive.eq_def]
  split
  · next c d rest =>
    have hd : d ≠ ':' := fun heq => h.no_colon (by simp [heq])
    simp [h.not_separator, hd]
  · rfl

/-! ## Normal forms below a root -/

/-- A drive and a root hold no slash. -/
theorem IsRoot.slash_not_mem {root : Text} (h : IsRoot root) : '/' ∉ root := by
  cases h with
  | absolute hdrive =>
    cases hdrive with
    | @letter c hletter =>
      have hc : c ≠ '/' := by
        intro heq
        have hsep := isSeparator_of_isLetter hletter
        simp [heq, isSeparator] at hsep
      simp [Ne.symm hc, separator]
    | share hserver hlong hshare =>
      simp [hserver.slash_not_mem, hshare.slash_not_mem, separator]
    | none => simp [separator]
  | relative => exact List.not_mem_nil

theorem withBackslashes_of_not_mem {path : Text} (h : '/' ∉ path) :
    withBackslashes path = path := by
  have hcongr : path.map (fun c => if c = '/' then '\\' else c) = path.map id := by
    apply List.map_congr_left
    intro c hc
    have hne : c ≠ '/' := fun heq => h (heq ▸ hc)
    simp [hne]
  rw [withBackslashes, hcongr, List.map_id]

/-- **Root and names** of a path below a root. -/
theorem splitRoot_append {root text : Text} (hroot : IsRoot root) (htext : IsTail text) :
    splitRoot (root ++ text) = (root, text) := by
  cases hroot with
  | @absolute drive hdrive =>
    have hdrop : text.dropWhile (· = separator) = text := by
      cases text with
      | nil => rfl
      | cons c text => simp [htext.ne_separator]
    rw [List.append_assoc, List.singleton_append, splitRoot,
      splitDrive_append_separator hdrive htext]
    simp [hdrop]
  | relative =>
    rw [List.nil_append, splitRoot, splitDrive_of_isTail htext]
    simp [htext.unrooted]

/-- Names are reduced below the root, and the empty path without a root is `.`. -/
theorem normalize_append {root text : Text} (hroot : IsRoot root) (htext : IsTail text) :
    normalize (root ++ text) =
      if root = [] ∧ reduce false (text.splitOn separator) = [] then current
      else root ++ List.intercalate [separator]
        (reduce (root ≠ []) (text.splitOn separator)) := by
  have hslash : '/' ∉ root ++ text := by simp [hroot.slash_not_mem, htext.no_slash]
  rw [normalize, withBackslashes_of_not_mem hslash, splitRoot_append hroot htext]
  cases hroot with
  | absolute hdrive => simp
  | relative => simp [List.isEmpty_iff]

/-! ## Joining below a root -/

/-- Where no slash stands, a path is rooted if a backslash comes first. -/
theorem isRooted_iff_head? {path : Text} (hslash : '/' ∉ path) :
    isRooted path = true ↔ path.head? = some separator := by
  cases path with
  | nil => simp [isRooted]
  | cons c path =>
    have hc : c ≠ '/' := fun heq => hslash (by simp [heq])
    simp [isRooted, isSeparator, hc]

theorem isRooted_of_isTail {text : Text} (h : IsTail text) : isRooted text = false := by
  cases text with
  | nil => rfl
  | cons c text => simp [isRooted, h.not_separator]

/-- Joined names end where the last name ends, and not in a separator. -/
theorem not_separator_of_getLast?_intercalate {names : List Text}
    (h : ∀ name ∈ names, IsPlain name) {c : Char}
    (hc : (List.intercalate [separator] names).getLast? = some c) : isSeparator c = false := by
  rcases List.eq_nil_or_concat names with rfl | ⟨front, last, rfl⟩
  · simp at hc
  · rw [List.concat_eq_append] at h hc
    have hlast : IsPlain last := h last (by simp)
    have hgetLast : (List.intercalate [separator] (front ++ [last])).getLast? =
        last.getLast? := by
      by_cases hfront : front = []
      · simp [hfront]
      · rw [intercalate_append_singleton hfront, List.getLast?_append,
          List.getLast?_cons_of_ne_nil hlast.ne_nil, List.getLast?_eq_some_getLast hlast.ne_nil]
        rfl
    rw [hgetLast] at hc
    exact hlast.no_separator c (List.mem_of_getLast? hc)

theorem intercalate_ne_nil {names : List Text} (hne : names ≠ [])
    (h : ∀ name ∈ names, name ≠ []) : List.intercalate [separator] names ≠ [] := by
  obtain ⟨name, names, rfl⟩ := List.exists_cons_of_ne_nil hne
  have hname : name ≠ [] := h name (by simp)
  cases names <;> simp [hname]

/-- A path is put behind joined names as one more of them. -/
theorem append_intercalate {front : Text} (hfront : front = [] ∨ front = [separator])
    {names : List Text} (h : ∀ name ∈ names, IsPlain name) (way : Text) :
    append (front ++ List.intercalate [separator] names) way =
      front ++ List.intercalate [separator] (names ++ [way]) := by
  by_cases hnames : names = []
  · subst hnames
    rcases hfront with rfl | rfl <;> simp [append, isSeparator]
  · have hjoined := intercalate_ne_nil hnames fun name hmem => (h name hmem).ne_nil
    have hc := List.getLast?_eq_some_getLast hjoined
    have hsep := not_separator_of_getLast?_intercalate h hc
    have hgetLast : (front ++ List.intercalate [separator] names).getLast? =
        some ((List.intercalate [separator] names).getLast hjoined) := by
      rw [List.getLast?_append, hc]
      rfl
    rw [append, if_neg (by simp [hgetLast, hsep, hjoined]),
      intercalate_append_singleton hnames, List.append_assoc]

/-- **Joining below a root** puts the path behind the names. -/
theorem join_append {root : Text} (hroot : IsRoot root) {names : List Text}
    (h : ∀ name ∈ names, IsPlain name) {way : Text} (hway : IsTail way) :
    join (root ++ List.intercalate [separator] names) way =
      root ++ List.intercalate [separator] (names ++ [way]) := by
  have hnames := isTail_intercalate (ne_nil_and_isTail h)
  cases hroot with
  | @absolute drive hdrive =>
    have happend := append_intercalate (Or.inr rfl) h way
    have hrooted (text : Text) : isRooted (separator :: text) = true := rfl
    rw [List.singleton_append, List.singleton_append] at happend
    rw [List.append_assoc, List.append_assoc, List.singleton_append, List.singleton_append]
    rw [join, splitDrive_append_separator hdrive hnames, splitDrive_of_isTail hway]
    simp only [isRooted_of_isTail hway, Bool.false_eq_true, if_false, List.isEmpty_nil,
      Bool.true_or, if_true, happend]
    simp [onDrive, hrooted]
  | relative =>
    have happend := append_intercalate (Or.inl rfl) h way
    rw [List.nil_append] at happend ⊢
    rw [join, splitDrive_of_isTail hnames, splitDrive_of_isTail hway]
    simp only [isRooted_of_isTail hway, Bool.false_eq_true, if_false, List.isEmpty_nil,
      Bool.true_or, if_true, happend]
    simp [onDrive]

end LaunchKit.Path
