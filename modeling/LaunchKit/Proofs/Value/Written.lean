import LaunchKit.Proofs.Outcome
import LaunchKit.Value.Json

/-!
# Which values can be written

Writing a value fails in two ways only: the value has more levels than there is room for, or one of
the whole numbers in it has too many digits. Both are properties of the value alone, and a value
that has neither can be written as a literal and as a payload.

## Main definitions

* `Value.levels`: how deeply a value is nested.
* `Value.wholes`: the whole numbers in a value.
* `Value.IsWritable`: room for all levels, and no long number.
* `Value.IsEncodable`: room for all levels in JSON, too.

## Main statements

* `Value.literalWithin_eq_ok_iff`: which values have a literal.
* `Value.literal_eq_ok_iff`: with all the room there is.
* `Value.IsEncodable.exists_payload`: encodable values have a payload.
-/
namespace LaunchKit

namespace Value

/-! ## Levels and numbers -/

mutual

/-- How deeply a value is nested. -/
def levels : Value → Nat
  | .list items => itemLevels items + 1
  | .tuple items => itemLevels items + 1
  | .dict entries => entryLevels entries + 1
  | _ => 1

/-- How deeply items are nested. -/
def itemLevels : List Value → Nat
  | [] => 0
  | item :: items => max (levels item) (itemLevels items)

/-- How deeply entries are nested, keys included. -/
def entryLevels : List (Value × Value) → Nat
  | [] => 0
  | (key, value) :: entries => max (max (levels key) (levels value)) (entryLevels entries)

end

mutual

/-- The whole numbers in a value. -/
def wholes : Value → List Int
  | .int n => [n]
  | .list items => itemWholes items
  | .tuple items => itemWholes items
  | .dict entries => entryWholes entries
  | _ => []

/-- The whole numbers in items. -/
def itemWholes : List Value → List Int
  | [] => []
  | item :: items => wholes item ++ itemWholes items

/-- The whole numbers in entries, keys included. -/
def entryWholes : List (Value × Value) → List Int
  | [] => []
  | (key, value) :: entries => wholes key ++ wholes value ++ entryWholes entries

end

/-- A whole number that is not too long to be written. -/
def IsShort (n : Int) : Prop := n.natAbs < Nat.pow 10 Numeral.digitLimit

theorem writtenInt_of_isShort {n : Int} (h : IsShort n) :
    writtenInt n = .ok (Numeral.ofInt n) := by
  have hdigits : Numeral.ofInt? n = some (Numeral.ofInt n) := if_pos h
  delta writtenInt
  rw [hdigits]

theorem writtenInt_of_not_isShort {n : Int} (h : ¬IsShort n) :
    writtenInt n = .error .tooManyDigits := by
  have hdigits : Numeral.ofInt? n = none := if_neg h
  delta writtenInt
  rw [hdigits]

theorem writtenInt_eq_ok_iff {n : Int} : (∃ digits, writtenInt n = .ok digits) ↔ IsShort n := by
  by_cases h : IsShort n
  · simp [writtenInt_of_isShort h, h]
  · simp [writtenInt_of_not_isShort h, h]

/-! ## Literals -/

mutual

/-- **Which values have a literal.** -/
theorem literalWithin_eq_ok_iff (room : Nat) (value : Value) :
    (∃ text, literalWithin room value = .ok text) ↔
      value.levels ≤ room ∧ ∀ n ∈ value.wholes, IsShort n := by
  cases room with
  | zero => cases value <;> simp [literalWithin, levels]
  | succ room =>
    cases value with
    | null | bool | float | text | bytes | object =>
      rw [literalWithin]
      exact iff_of_true ⟨_, rfl⟩ ⟨by simp [levels], by simp [wholes]⟩
    | int n =>
      rw [literalWithin, writtenInt_eq_ok_iff]
      simp [levels, wholes]
    | list items =>
      rw [literalWithin, exists_bind_eq_ok_iff_of_forall, literalsWithin_eq_ok_iff, levels, wholes,
        Nat.add_le_add_iff_right]
      exact fun _ => ⟨_, rfl⟩
    | tuple items =>
      rw [literalWithin, exists_bind_eq_ok_iff_of_forall, literalsWithin_eq_ok_iff, levels, wholes,
        Nat.add_le_add_iff_right]
      intro parts
      split <;> exact ⟨_, rfl⟩
    | dict entries =>
      rw [literalWithin, exists_bind_eq_ok_iff_of_forall, entryLiteralsWithin_eq_ok_iff, levels,
        wholes, Nat.add_le_add_iff_right]
      exact fun _ => ⟨_, rfl⟩

/-- Which items have literals. -/
theorem literalsWithin_eq_ok_iff (room : Nat) (items : List Value) :
    (∃ texts, literalsWithin room items = .ok texts) ↔
      itemLevels items ≤ room ∧ ∀ n ∈ itemWholes items, IsShort n := by
  cases items with
  | nil => simp [literalsWithin, itemLevels, itemWholes]
  | cons item items =>
    have hitem := literalWithin_eq_ok_iff room item
    have hitems := literalsWithin_eq_ok_iff room items
    have hrest (part : Text) :
        (∃ last, (literalsWithin room items >>= fun parts => pure (part :: parts)) = .ok last) ↔
          ∃ texts, literalsWithin room items = .ok texts :=
      exists_bind_eq_ok_iff_of_forall fun _ => ⟨_, rfl⟩
    rw [literalsWithin, exists_bind_eq_ok_iff]
    simp only [hrest, exists_and_right, hitem, hitems, itemLevels, itemWholes, Nat.max_le,
      List.mem_append, or_imp, forall_and]
    exact and_and_and_comm

/-- Which entries have literals. -/
theorem entryLiteralsWithin_eq_ok_iff (room : Nat) (entries : List (Value × Value)) :
    (∃ texts, entryLiteralsWithin room entries = .ok texts) ↔
      entryLevels entries ≤ room ∧ ∀ n ∈ entryWholes entries, IsShort n := by
  cases entries with
  | nil => simp [entryLiteralsWithin, entryLevels, entryWholes]
  | cons entry entries =>
    obtain ⟨key, value⟩ := entry
    have hkey := literalWithin_eq_ok_iff room key
    have hvalue := literalWithin_eq_ok_iff room value
    have hentries := entryLiteralsWithin_eq_ok_iff room entries
    have hlast (keyPart valuePart : Text) :
        (∃ last, (entryLiteralsWithin room entries >>= fun parts =>
            pure ((keyPart ++ ": ".toList ++ valuePart) :: parts)) = .ok last) ↔
          ∃ texts, entryLiteralsWithin room entries = .ok texts :=
      exists_bind_eq_ok_iff_of_forall fun _ => ⟨_, rfl⟩
    have hrest (keyPart : Text) :
        (∃ last, (literalWithin room value >>= fun valuePart =>
            entryLiteralsWithin room entries >>= fun parts =>
              pure ((keyPart ++ ": ".toList ++ valuePart) :: parts)) = .ok last) ↔
          (∃ text, literalWithin room value = .ok text) ∧
            ∃ texts, entryLiteralsWithin room entries = .ok texts := by
      rw [exists_bind_eq_ok_iff]
      simp only [hlast, exists_and_right]
    rw [entryLiteralsWithin, exists_bind_eq_ok_iff]
    simp only [hrest, exists_and_right, hkey, hvalue, hentries, entryLevels, entryWholes,
      Nat.max_le, List.mem_append, or_imp, forall_and]
    constructor
    · rintro ⟨⟨hk, hks⟩, ⟨hv, hvs⟩, hes, hess⟩
      exact ⟨⟨⟨hk, hv⟩, hes⟩, ⟨hks, hvs⟩, hess⟩
    · rintro ⟨⟨⟨hk, hv⟩, hes⟩, ⟨hks, hvs⟩, hess⟩
      exact ⟨⟨hk, hks⟩, ⟨hv, hvs⟩, hes, hess⟩

end

theorem mem_itemWholes {item : Value} {items : List Value} (h : item ∈ items) {n : Int}
    (hn : n ∈ wholes item) : n ∈ itemWholes items := by
  induction items with
  | nil => cases h
  | cons first items ih =>
    rw [itemWholes, List.mem_append]
    rcases List.mem_cons.mp h with rfl | hmem
    · exact Or.inl hn
    · exact Or.inr (ih hmem)

theorem levels_le_entryLevels {entry : Value × Value} {entries : List (Value × Value)}
    (h : entry ∈ entries) :
    levels entry.1 ≤ entryLevels entries ∧ levels entry.2 ≤ entryLevels entries := by
  induction entries with
  | nil => cases h
  | cons first entries ih =>
    obtain ⟨key, value⟩ := first
    rw [entryLevels]
    rcases List.mem_cons.mp h with rfl | hmem
    · dsimp only
      omega
    · have hrest := ih hmem
      omega

theorem mem_entryWholes {entry : Value × Value} {entries : List (Value × Value)}
    (h : entry ∈ entries) {n : Int} (hn : n ∈ wholes entry.1 ∨ n ∈ wholes entry.2) :
    n ∈ entryWholes entries := by
  induction entries with
  | nil => cases h
  | cons first entries ih =>
    obtain ⟨key, value⟩ := first
    rw [entryWholes, List.mem_append, List.mem_append]
    rcases List.mem_cons.mp h with rfl | hmem
    · exact Or.inl hn
    · exact Or.inr (ih hmem)

/-! ## JSON -/

/-- A rendering that failed for want of room. -/
def IsNested {α : Type} (rendering : Except JsonError α) : Prop :=
  ∃ form, rendering = .error (.notRendered (.nestedTooDeeply form))

theorem not_isNested_ok {α : Type} (result : α) : ¬IsNested (.ok result) := by
  rintro ⟨_, heq⟩
  cases heq

theorem not_isNested_bind {α β : Type} {first : Except JsonError α}
    {next : α → Except JsonError β} (h : ¬IsNested first)
    (hnext : ∀ result, ¬IsNested (next result)) : ¬IsNested (first >>= next) := by
  cases first with
  | error failure =>
    rintro ⟨form, heq⟩
    cases heq
    exact h ⟨form, rfl⟩
  | ok result => exact hnext result

theorem not_isNested_borrowed (n : Int) : ¬IsNested (borrowed (writtenInt n)) := by
  by_cases h : IsShort n
  · rw [writtenInt_of_isShort h]
    exact not_isNested_ok _
  · rw [writtenInt_of_not_isShort h]
    rintro ⟨_, heq⟩
    cases heq

theorem not_isNested_jsonKey (key : Value) : ¬IsNested (jsonKey key) := by
  cases key with
  | int n => exact not_isNested_borrowed n
  | _ =>
    rintro ⟨_, heq⟩
    cases heq

mutual

/-- **JSON has room** for as many levels as a value has. -/
theorem not_isNested_jsonWithin {room : Nat} (value : Value) (h : value.levels ≤ room) :
    ¬IsNested (jsonWithin room value) := by
  cases value with
  | int n =>
    rw [jsonWithin]
    exact not_isNested_borrowed n
  | list items =>
    rw [levels] at h
    obtain ⟨room, rfl⟩ := Nat.exists_eq_add_one_of_ne_zero (by omega : room ≠ 0)
    rw [jsonWithin]
    exact not_isNested_bind (not_isNested_jsonItemsWithin items (by omega))
      fun _ => not_isNested_ok _
  | tuple items =>
    rw [levels] at h
    obtain ⟨room, rfl⟩ := Nat.exists_eq_add_one_of_ne_zero (by omega : room ≠ 0)
    rw [jsonWithin]
    exact not_isNested_bind (not_isNested_jsonItemsWithin items (by omega))
      fun _ => not_isNested_ok _
  | dict entries =>
    rw [levels] at h
    obtain ⟨room, rfl⟩ := Nat.exists_eq_add_one_of_ne_zero (by omega : room ≠ 0)
    rw [jsonWithin]
    exact not_isNested_bind (not_isNested_jsonMembersWithin entries (by omega))
      fun _ => not_isNested_ok _
  | _ =>
    rw [jsonWithin]
    exact not_isNested_ok _

/-- JSON has room for the items. -/
theorem not_isNested_jsonItemsWithin {room : Nat} (items : List Value)
    (h : itemLevels items ≤ room) : ¬IsNested (jsonItemsWithin room items) := by
  cases items with
  | nil =>
    rw [jsonItemsWithin]
    exact not_isNested_ok _
  | cons item items =>
    rw [itemLevels, Nat.max_le] at h
    rw [jsonItemsWithin]
    exact not_isNested_bind (not_isNested_jsonWithin item h.1) fun _ =>
      not_isNested_bind (not_isNested_jsonItemsWithin items h.2) fun _ => not_isNested_ok _

/-- JSON has room for the members. -/
theorem not_isNested_jsonMembersWithin {room : Nat} (entries : List (Value × Value))
    (h : entryLevels entries ≤ room) : ¬IsNested (jsonMembersWithin room entries) := by
  cases entries with
  | nil =>
    rw [jsonMembersWithin]
    exact not_isNested_ok _
  | cons entry entries =>
    obtain ⟨key, value⟩ := entry
    rw [entryLevels, Nat.max_le, Nat.max_le] at h
    rw [jsonMembersWithin]
    exact not_isNested_bind (not_isNested_jsonKey key) fun _ =>
      not_isNested_bind (not_isNested_jsonWithin value h.1.2) fun _ =>
        not_isNested_bind (not_isNested_jsonMembersWithin entries h.2) fun _ => not_isNested_ok _

end

/-! ## Values that are nested too deeply -/

/-- A value within so many lists of one item. -/
def nested : Nat → Value → Value
  | 0, value => value
  | n + 1, value => .list [nested n value]

theorem levels_pos (value : Value) : 0 < value.levels := by
  cases value <;> simp [levels]

theorem levels_nested (n : Nat) (value : Value) : (nested n value).levels = levels value + n := by
  induction n with
  | zero => rfl
  | succ n ih => simp [nested, levels, itemLevels, ih, Nat.add_assoc]

/-- JSON has no room for more lists than there are levels. -/
theorem jsonWithin_nested {room n : Nat} (h : room < n) (value : Value) :
    jsonWithin room (nested n value) = .error (.notRendered (.nestedTooDeeply .json)) := by
  induction n generalizing room with
  | zero => omega
  | succ n ih =>
    cases room with
    | zero => rw [nested, jsonWithin]
    | succ room =>
      rw [nested, jsonWithin, jsonItemsWithin, ih (by omega)]
      rfl

/-! ## Writable values -/

variable [Room]

/-- A value with no more levels than there is room for and no long number. -/
structure IsWritable (value : Value) : Prop where
  shallow : value.levels ≤ Room.literal
  short : ∀ n ∈ value.wholes, IsShort n

/-- A writable value for whose levels there is room in JSON, too. -/
structure IsEncodable (value : Value) : Prop extends IsWritable value where
  shallow_json : value.levels ≤ Room.json

/-- **Which values have a literal**, with all the room there is. -/
theorem literal_eq_ok_iff {value : Value} :
    (∃ text, value.literal = .ok text) ↔ IsWritable value := by
  rw [literal, literalWithin_eq_ok_iff]
  exact ⟨fun h => ⟨h.1, h.2⟩, fun h => ⟨h.shallow, h.short⟩⟩

/-- What has a literal can be displayed, and nothing else. -/
theorem display_eq_ok_iff {value : Value} :
    (∃ text, value.display = .ok text) ↔ IsWritable value := by
  rw [display.eq_def]
  split
  · exact iff_of_true ⟨_, rfl⟩ (literal_eq_ok_iff.mp ⟨_, literal_text _⟩)
  · exact literal_eq_ok_iff

/-- What a writable mapping holds is writable. -/
theorem IsWritable.of_mem {entries : List (Value × Value)} (h : IsWritable (.dict entries))
    {entry : Value × Value} (hmem : entry ∈ entries) :
    IsWritable entry.1 ∧ IsWritable entry.2 := by
  obtain ⟨hshallow, hshort⟩ := h
  rw [levels] at hshallow
  rw [wholes] at hshort
  have hlevels := levels_le_entryLevels hmem
  exact ⟨⟨by omega, fun n hn => hshort n (mem_entryWholes hmem (Or.inl hn))⟩,
    ⟨by omega, fun n hn => hshort n (mem_entryWholes hmem (Or.inr hn))⟩⟩

/-- **Encodable values have a payload**: what JSON cannot express is displayed. -/
theorem IsEncodable.exists_payload {value : Value} (h : IsEncodable value) :
    ∃ text, value.payload = .ok text := by
  have hroom : ¬IsNested value.json := not_isNested_jsonWithin value h.shallow_json
  rw [payload]
  split
  · exact ⟨_, rfl⟩
  · next form hjson => exact absurd ⟨form, hjson⟩ hroom
  · exact display_eq_ok_iff.mpr h.toIsWritable

/-- A value within as many lists as there is room for cannot be written. -/
theorem not_isWritable_nested {n : Nat} (h : Room.literal ≤ n) (value : Value) :
    ¬IsWritable (nested n value) := by
  intro hwritable
  have hshallow := hwritable.shallow
  have hpos := levels_pos value
  rw [levels_nested] at hshallow
  omega

end Value
end LaunchKit
