import LaunchKit.Proofs.Number.Visible
import LaunchKit.Proofs.Value.Written

/-!
# Data of JSON, written

A client sends data of JSON: null, truth values, numbers, texts, and lists and mappings with texts
as keys of these. Its literal consists of printable characters, and its payload of visible ones of
ASCII, whatever the texts in it hold and however deeply they are nested. The payload of such data is
its JSON form: where there is none, there is no displayed form either.

## Main definitions

* `Value.IsJson`: the data of JSON.

## Main statements

* `Text.isVisible_jsonQuoted`: JSON strings.
* `Value.IsJson.isPrintable_literal`: the literals of data of JSON.
* `Value.IsJson.isVisible_payload`: the payloads of data of JSON.
-/
namespace LaunchKit

open Text (IsVisible isPrintable)

/-! ## JSON strings -/

namespace Text

theorem isVisible_unitEscape (unit : Nat) : ∀ c ∈ unitEscape unit, IsVisible c := by
  rw [unitEscape, List.forall_mem_cons, List.forall_mem_cons]
  exact ⟨by decide, by decide, isVisible_hexDigits _ _⟩

/-- A character of a JSON string is shown if it is visible, and else it is escaped. -/
theorem isVisible_jsonChar (c : Char) : ∀ d ∈ jsonChar c, IsVisible d := by
  rw [jsonChar]
  split
  · next hsame =>
    rcases hsame with rfl | rfl <;> exact isVisible_of_all rfl
  iterate 5
    split
    · exact isVisible_of_all rfl
  split
  · next hvisible => exact List.forall_mem_singleton.mpr hvisible
  split
  · exact isVisible_unitEscape _
  · exact List.forall_mem_append.mpr ⟨isVisible_unitEscape _, isVisible_unitEscape _⟩

/-- **JSON strings** consist of visible characters. -/
theorem isVisible_jsonQuoted (text : Text) : ∀ c ∈ jsonQuoted text, IsVisible c := by
  rw [jsonQuoted, List.forall_mem_append, List.forall_mem_cons, List.forall_mem_singleton]
  refine ⟨⟨by decide, fun d hd => ?_⟩, by decide⟩
  obtain ⟨c, -, hc⟩ := List.mem_flatMap.mp hd
  exact isVisible_jsonChar c d hc

end Text

namespace Value

/-- The data of JSON. -/
inductive IsJson : Value → Prop where
  | null : IsJson .null
  | bool (b : Bool) : IsJson (.bool b)
  | int (n : Int) : IsJson (.int n)
  | float (x : Binary64) : IsJson (.float x)
  | text (s : Text) : IsJson (.text s)
  | list {items : List Value} (hitems : ∀ item ∈ items, IsJson item) : IsJson (.list items)
  | dict {entries : List (Value × Value)} (hkeys : ∀ entry ∈ entries, ∃ key, entry.1 = .text key)
      (hvalues : ∀ entry ∈ entries, IsJson entry.2) : IsJson (.dict entries)

/-! ## Sequences of parts -/

theorem literalsWithin_eq_mapM (room : Nat) (items : List Value) :
    literalsWithin room items = items.mapM (literalWithin room) := by
  induction items with
  | nil => rfl
  | cons item items ih =>
    rw [literalsWithin, List.mapM_cons, ih]

/-- The literal of an entry. -/
def entryLiteralWithin (room : Nat) (entry : Value × Value) : Except RenderError Text := do
  let keyPart ← literalWithin room entry.1
  let valuePart ← literalWithin room entry.2
  return keyPart ++ ": ".toList ++ valuePart

theorem entryLiteralsWithin_eq_mapM (room : Nat) (entries : List (Value × Value)) :
    entryLiteralsWithin room entries = entries.mapM (entryLiteralWithin room) := by
  induction entries with
  | nil => rfl
  | cons entry entries ih =>
    rw [entryLiteralsWithin, List.mapM_cons, ih, entryLiteralWithin, bind_assoc]
    simp only [bind_assoc, pure_bind]

theorem jsonItemsWithin_eq_mapM (room : Nat) (items : List Value) :
    jsonItemsWithin room items = items.mapM (jsonWithin room) := by
  induction items with
  | nil => rfl
  | cons item items ih => rw [jsonItemsWithin, List.mapM_cons, ih]

/-- A member of an object. -/
def jsonMemberWithin (room : Nat) (entry : Value × Value) : Except JsonError Text := do
  let name ← jsonKey entry.1
  let part ← jsonWithin room entry.2
  return Text.jsonQuoted name ++ ": ".toList ++ part

theorem jsonMembersWithin_eq_mapM (room : Nat) (entries : List (Value × Value)) :
    jsonMembersWithin room entries = entries.mapM (jsonMemberWithin room) := by
  induction entries with
  | nil => rfl
  | cons entry entries ih =>
    rw [jsonMembersWithin, List.mapM_cons, ih, jsonMemberWithin]
    simp only [bind_assoc, pure_bind]

/-! ## Literals -/

theorem eq_quoted_of_literalWithin {room : Nat} {s text : Text}
    (h : literalWithin room (.text s) = .ok text) : text = Text.quoted s := by
  cases room with
  | zero => cases h
  | succ room =>
    rw [literalWithin] at h
    cases h
    rfl

theorem isVisible_of_writtenInt {n : Int} {text : Text} (h : writtenInt n = .ok text) :
    ∀ c ∈ text, IsVisible c := by
  have hshort := writtenInt_eq_ok_iff.mp ⟨text, h⟩
  rw [writtenInt_of_isShort hshort] at h
  cases h
  exact Numeral.isVisible_ofInt n

/-- Visible characters are printable. -/
theorem isPrintable_of_isVisible {text : Text} (h : ∀ c ∈ text, IsVisible c) :
    ∀ c ∈ text, isPrintable c = true := fun c hc => (h c hc).isPrintable

/-- The literals of data of JSON consist of printable characters, however much room there is. -/
theorem IsJson.isPrintable_literalWithin {value : Value} (h : IsJson value) {room : Nat}
    {text : Text} (hliteral : literalWithin room value = .ok text) :
    ∀ c ∈ text, isPrintable c = true := by
  cases room with
  | zero => cases value <;> cases hliteral
  | succ room =>
    induction h generalizing room text with
    | null =>
      rw [literalWithin] at hliteral
      cases hliteral
      exact List.all_eq_true.mp rfl
    | bool b =>
      rw [literalWithin] at hliteral
      cases hliteral
      cases b <;> exact List.all_eq_true.mp rfl
    | int n =>
      rw [literalWithin] at hliteral
      exact isPrintable_of_isVisible (isVisible_of_writtenInt hliteral)
    | float x =>
      rw [literalWithin] at hliteral
      cases hliteral
      exact isPrintable_of_isVisible x.isVisible_shortestText
    | text s =>
      rw [eq_quoted_of_literalWithin hliteral]
      exact Text.isPrintable_quoted s
    | list _ ih =>
      rw [literalWithin, literalsWithin_eq_mapM, bind_eq_ok_iff] at hliteral
      obtain ⟨parts, hparts, heq⟩ := hliteral
      cases heq
      refine Text.forall_mem_commaList rfl rfl rfl rfl fun part hpart => ?_
      obtain ⟨item, hitem, hwritten⟩ := exists_of_mem_mapM hparts hpart
      cases room with
      | zero => cases item <;> cases hwritten
      | succ room => exact ih item hitem room hwritten
    | dict hkeys _ ih =>
      rw [literalWithin, entryLiteralsWithin_eq_mapM, bind_eq_ok_iff] at hliteral
      obtain ⟨parts, hparts, heq⟩ := hliteral
      cases heq
      refine Text.forall_mem_commaList rfl rfl rfl rfl fun part hpart => ?_
      obtain ⟨⟨key, value⟩, hentry, hwritten⟩ := exists_of_mem_mapM hparts hpart
      obtain ⟨keyPart, hkey, hwritten⟩ := bind_eq_ok_iff.mp hwritten
      obtain ⟨valuePart, hvalue, hwritten⟩ := bind_eq_ok_iff.mp hwritten
      cases hwritten
      obtain ⟨name, rfl⟩ := hkeys _ hentry
      rw [eq_quoted_of_literalWithin hkey, List.forall_mem_append, List.forall_mem_append]
      refine ⟨⟨Text.isPrintable_quoted name, List.all_eq_true.mp rfl⟩, ?_⟩
      cases room with
      | zero => cases value <;> cases hvalue
      | succ room => exact ih _ hentry room hvalue

/-! ## JSON forms -/

theorem isVisible_of_borrowed {n : Int} {text : Text} (h : borrowed (writtenInt n) = .ok text) :
    ∀ c ∈ text, IsVisible c :=
  isVisible_of_writtenInt (mapError_eq_ok_iff.mp h)

theorem isVisible_jsonFloat (x : Binary64) : ∀ c ∈ jsonFloat x, IsVisible c := by
  cases x with
  | nan => exact Text.isVisible_of_all rfl
  | infinite negative => cases negative <;> exact Text.isVisible_of_all rfl
  | finite negative coefficient exponent => exact Binary64.isVisible_shortestText _

/-- The JSON forms of data of JSON consist of visible characters, however much room there is. -/
theorem IsJson.isVisible_jsonWithin {value : Value} (h : IsJson value) {room : Nat} {text : Text}
    (hjson : jsonWithin room value = .ok text) : ∀ c ∈ text, IsVisible c := by
  induction h generalizing room text with
  | null =>
    rw [jsonWithin] at hjson
    cases hjson
    exact Text.isVisible_of_all rfl
  | bool b =>
    rw [jsonWithin] at hjson
    cases hjson
    cases b <;> exact Text.isVisible_of_all rfl
  | int n =>
    rw [jsonWithin] at hjson
    exact isVisible_of_borrowed hjson
  | float x =>
    rw [jsonWithin] at hjson
    cases hjson
    exact isVisible_jsonFloat x
  | text s =>
    rw [jsonWithin] at hjson
    cases hjson
    exact Text.isVisible_jsonQuoted s
  | list _ ih =>
    cases room with
    | zero =>
      rw [jsonWithin] at hjson
      cases hjson
    | succ room =>
      rw [jsonWithin, jsonItemsWithin_eq_mapM, bind_eq_ok_iff] at hjson
      obtain ⟨parts, hparts, heq⟩ := hjson
      cases heq
      refine Text.forall_mem_commaList (by decide) (by decide) (by decide) (by decide)
        fun part hpart => ?_
      obtain ⟨item, hitem, hwritten⟩ := exists_of_mem_mapM hparts hpart
      exact ih item hitem hwritten
  | dict hkeys _ ih =>
    cases room with
    | zero =>
      rw [jsonWithin] at hjson
      cases hjson
    | succ room =>
      rw [jsonWithin, jsonMembersWithin_eq_mapM, bind_eq_ok_iff] at hjson
      obtain ⟨parts, hparts, heq⟩ := hjson
      cases heq
      refine Text.forall_mem_commaList (by decide) (by decide) (by decide) (by decide)
        fun part hpart => ?_
      obtain ⟨⟨key, value⟩, hentry, hwritten⟩ := exists_of_mem_mapM hparts hpart
      obtain ⟨name, -, hwritten⟩ := bind_eq_ok_iff.mp hwritten
      obtain ⟨valuePart, hvalue, hwritten⟩ := bind_eq_ok_iff.mp hwritten
      cases hwritten
      rw [List.forall_mem_append, List.forall_mem_append]
      exact ⟨⟨Text.isVisible_jsonQuoted name, Text.isVisible_of_all rfl⟩, ih _ hentry hvalue⟩

/-- Data of JSON without long numbers has a JSON form unless it is nested too deeply. -/
theorem IsJson.isNested_of_jsonWithin_eq_error {value : Value} (h : IsJson value) {room : Nat}
    (hshort : ∀ n ∈ value.wholes, IsShort n) {error : JsonError}
    (hjson : jsonWithin room value = .error error) : IsNested (jsonWithin room value) := by
  induction h generalizing room error with
  | int n =>
    rw [jsonWithin, writtenInt_of_isShort (hshort n (by simp [wholes]))] at hjson
    cases hjson
  | list _ ih =>
    cases room with
    | zero => exact ⟨_, by rw [jsonWithin]⟩
    | succ room =>
      have hitems := hjson
      rw [jsonWithin, jsonItemsWithin_eq_mapM, bind_eq_error_iff] at hitems
      obtain ⟨item, hitem, herror⟩ :=
        exists_of_mapM_eq_error (hitems.resolve_right fun ⟨_, _, heq⟩ => nomatch heq)
      obtain ⟨form, hform⟩ :=
        ih item hitem (fun n hn => hshort n (mem_itemWholes hitem hn)) herror
      rw [herror] at hform
      exact ⟨form, hjson.trans hform⟩
  | dict hkeys _ ih =>
    cases room with
    | zero => exact ⟨_, by rw [jsonWithin]⟩
    | succ room =>
      have hmembers := hjson
      rw [jsonWithin, jsonMembersWithin_eq_mapM, bind_eq_error_iff] at hmembers
      obtain ⟨entry, hentry, herror⟩ :=
        exists_of_mapM_eq_error (hmembers.resolve_right fun ⟨_, _, heq⟩ => nomatch heq)
      obtain ⟨name, hname⟩ := hkeys entry hentry
      rw [jsonMemberWithin, hname] at herror
      have hvalue : jsonWithin room entry.2 = .error error := by
        rcases bind_eq_error_iff.mp herror with heq | ⟨_, _, hrest⟩
        · cases heq
        · exact (bind_eq_error_iff.mp hrest).resolve_right fun ⟨_, _, heq⟩ => nomatch heq
      obtain ⟨form, hform⟩ :=
        ih entry hentry (fun n hn => hshort n (mem_entryWholes hentry (Or.inr hn))) hvalue
      rw [hvalue] at hform
      exact ⟨form, hjson.trans hform⟩
  | _ =>
    rw [jsonWithin] at hjson
    cases hjson

/-! ## With all the room there is -/

variable [Room]

/-- **The literals of data of JSON** consist of printable characters. -/
theorem IsJson.isPrintable_literal {value : Value} (h : IsJson value) {text : Text}
    (hliteral : value.literal = .ok text) : ∀ c ∈ text, isPrintable c = true :=
  h.isPrintable_literalWithin hliteral

/-- The payload of data of JSON is its JSON form: what has none cannot be displayed either, or is
nested too deeply to be tried again. -/
theorem IsJson.json_of_payload {value : Value} (h : IsJson value) {text : Text}
    (hpayload : value.payload = .ok text) : value.json = .ok text := by
  rw [payload] at hpayload
  split at hpayload
  · next form hform =>
    cases hpayload
    exact hform
  · cases hpayload
  · next error hnested hjson =>
    have hshort := (display_eq_ok_iff.mp ⟨text, hpayload⟩).short
    obtain ⟨form, hform⟩ := h.isNested_of_jsonWithin_eq_error hshort hjson
    exact absurd (Except.error.inj (hjson.symm.trans hform)) (hnested form)

/-- **The payloads of data of JSON** consist of visible characters. -/
theorem IsJson.isVisible_payload {value : Value} (h : IsJson value) {text : Text}
    (hpayload : value.payload = .ok text) : ∀ c ∈ text, IsVisible c :=
  h.isVisible_jsonWithin (h.json_of_payload hpayload)

end Value
end LaunchKit
