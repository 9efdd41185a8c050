/-!
# Computations that may fail

A computation of several steps succeeds when all of its steps do. What a proof has to know of one
that succeeded are the results of its steps, and of one that is to succeed, that each step can be
taken.

## Main statements

* `bind_eq_ok_iff`, `guarded_eq_ok_iff`: the steps of a computation that has a result.
* `exists_bind_eq_ok_iff`, `exists_mapM_eq_ok_iff`: when a computation succeeds.
-/
namespace LaunchKit

variable {ε ε' α β : Type}

theorem pure_eq_ok_iff {result last : α} :
    (pure result : Except ε α) = .ok last ↔ result = last := by
  simp [pure, Except.pure]

/-- A computation of two steps has a result when the second step has it, behind the first. -/
theorem bind_eq_ok_iff {first : Except ε α} {next : α → Except ε β} {last : β} :
    first >>= next = .ok last ↔ ∃ result, first = .ok result ∧ next result = .ok last := by
  cases first with
  | error failure => simp [bind, Except.bind]
  | ok result => simp [bind, Except.bind]

/-- A computation of two steps fails when one of them does. -/
theorem bind_eq_error_iff {first : Except ε α} {next : α → Except ε β} {failure : ε} :
    first >>= next = .error failure ↔
      first = .error failure ∨ ∃ result, first = .ok result ∧ next result = .error failure := by
  cases first with
  | error other => simp [bind, Except.bind]
  | ok result => simp [bind, Except.bind]

/-- A computation that begins with a refusal has a result when the refusal does not come. -/
theorem guarded_eq_ok_iff {refused : Prop} [Decidable refused] {failure : ε}
    {behind : β → Except ε α} {next : Except ε α} {result : α} :
    (if refused then throw failure >>= behind else next) = .ok result ↔
      ¬refused ∧ next = .ok result := by
  split
  · next h => simp [h, throw, throwThe, MonadExceptOf.throw, bind, Except.bind]
  · next h => simp [h]

/-- A result that is made of that of a computation. -/
theorem map_eq_ok_iff {f : α → β} {computation : Except ε α} {last : β} :
    f <$> computation = .ok last ↔ ∃ result, computation = .ok result ∧ f result = last := by
  cases computation with
  | error failure => simp [Functor.map, Except.map]
  | ok result => simp [Functor.map, Except.map]

/-- Another wording of a failure changes no result. -/
theorem mapError_eq_ok_iff {f : ε → ε'} {computation : Except ε α} {result : α} :
    computation.mapError f = .ok result ↔ computation = .ok result := by
  cases computation with
  | error failure => exact iff_of_false nofun nofun
  | ok other =>
    change (Except.ok other : Except ε' α) = .ok result ↔
      (Except.ok other : Except ε α) = .ok result
    simp

/-- A computation of two steps succeeds when both do. -/
theorem exists_bind_eq_ok_iff {first : Except ε α} {next : α → Except ε β} :
    (∃ last, first >>= next = .ok last) ↔
      ∃ result, first = .ok result ∧ ∃ last, next result = .ok last := by
  simp only [bind_eq_ok_iff]
  constructor
  · rintro ⟨last, result, hfirst, hnext⟩
    exact ⟨result, hfirst, last, hnext⟩
  · rintro ⟨result, hfirst, last, hnext⟩
    exact ⟨last, result, hfirst, hnext⟩

/-- The second step may be one that cannot fail. -/
theorem exists_bind_eq_ok_iff_of_forall {first : Except ε α} {next : α → Except ε β}
    (h : ∀ result, ∃ last, next result = .ok last) :
    (∃ last, first >>= next = .ok last) ↔ ∃ result, first = .ok result := by
  rw [exists_bind_eq_ok_iff]
  exact exists_congr fun result => and_iff_left (h result)

/-- A computation for each item succeeds when all of them do. -/
theorem exists_mapM_eq_ok_iff {f : α → Except ε β} {items : List α} :
    (∃ images, items.mapM f = .ok images) ↔ ∀ item ∈ items, ∃ image, f item = .ok image := by
  induction items with
  | nil => exact iff_of_true ⟨[], rfl⟩ (by simp)
  | cons item items ih =>
    have hrest (image : β) :
        (∃ last, (items.mapM f >>= fun images => pure (image :: images)) = .ok last) ↔
          ∃ images, items.mapM f = .ok images :=
      exists_bind_eq_ok_iff_of_forall fun _ => ⟨_, rfl⟩
    rw [List.mapM_cons, exists_bind_eq_ok_iff, List.forall_mem_cons, ← ih]
    simp only [hrest, exists_and_right]

/-- What a computation for each item makes is made of an item. -/
theorem exists_of_mem_mapM {f : α → Except ε β} {items : List α} {images : List β}
    (h : items.mapM f = .ok images) {image : β} (hmem : image ∈ images) :
    ∃ item ∈ items, f item = .ok image := by
  induction items generalizing images with
  | nil =>
    cases h
    cases hmem
  | cons item items ih =>
    rw [List.mapM_cons, bind_eq_ok_iff] at h
    obtain ⟨first, hfirst, h⟩ := h
    obtain ⟨others, hothers, h⟩ := bind_eq_ok_iff.mp h
    cases h
    rcases List.mem_cons.mp hmem with rfl | hrest
    · exact ⟨item, List.mem_cons_self, hfirst⟩
    · obtain ⟨other, hother, himage⟩ := ih hothers hrest
      exact ⟨other, List.mem_cons_of_mem item hother, himage⟩

/-- A computation for each item that fails does so for one of them. -/
theorem exists_of_mapM_eq_error {f : α → Except ε β} {items : List α} {failure : ε}
    (h : items.mapM f = .error failure) : ∃ item ∈ items, f item = .error failure := by
  induction items with
  | nil => cases h
  | cons item items ih =>
    rw [List.mapM_cons, bind_eq_error_iff] at h
    rcases h with hfirst | ⟨first, -, h⟩
    · exact ⟨item, List.mem_cons_self, hfirst⟩
    · rcases bind_eq_error_iff.mp h with hrest | ⟨others, -, heq⟩
      · obtain ⟨other, hmem, hother⟩ := ih hrest
        exact ⟨other, List.mem_cons_of_mem item hmem, hother⟩
      · cases heq

/-- Another wording of a failure changes no success. -/
theorem exists_mapError_eq_ok_iff {f : ε → ε'} {computation : Except ε α} :
    (∃ result, computation.mapError f = .ok result) ↔ ∃ result, computation = .ok result :=
  exists_congr fun _ => mapError_eq_ok_iff

end LaunchKit
