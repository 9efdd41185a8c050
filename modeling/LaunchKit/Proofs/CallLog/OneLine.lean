import LaunchKit.Proofs.CallLog.Transparent
import LaunchKit.Proofs.Value.Escaped

/-!
# Arguments on one line

What a client sends as arguments is shown in two records: as literals in the line of the call, where
long texts are cut before they are quoted, and as a payload, which is cut behind the escapes. Both
ways no argument adds a control character to a record, so none can end its line, make up another or
move a cursor. Payloads are in ASCII and not longer than their limit and the mark of the cut.

## Main definitions

* `CallLog.AreSent`: arguments as a client sends them.

## Main statements

* `CallLog.isPrintable_argumentsText`: arguments in the line of a call.
* `CallLog.isVisible_truncated`: payloads.
* `CallLog.opening_escaped`: the records of a call that comes in, and all payloads.
-/
namespace LaunchKit.CallLog

open Text (IsVisible IsControl isPrintable)
open Value (IsEncodable IsJson IsWritable)

/-- Arguments as a client sends them: data of JSON behind printable names. -/
structure AreSent (entries : List (Value × Value)) : Prop where
  names : ∀ entry ∈ entries, ∃ name, entry.1 = .text name ∧ ∀ c ∈ name, isPrintable c = true
  values : ∀ entry ∈ entries, IsJson entry.2

theorem AreSent.isJson {entries : List (Value × Value)} (h : AreSent entries) :
    IsJson (.dict entries) := by
  refine .dict (fun entry hentry => ?_) h.values
  obtain ⟨name, hname, -⟩ := h.names entry hentry
  exact ⟨name, hname⟩

/-! ## In the line of a call -/

/-- A text that is cut is a text. -/
theorem isJson_shortened {value : Value} (h : IsJson value) : IsJson (shortened value) := by
  cases h with
  | text s =>
    rw [shortened]
    split <;> exact .text _
  | null => exact .null
  | bool b => exact .bool b
  | int n => exact .int n
  | float x => exact .float x
  | list hitems => exact .list hitems
  | dict hkeys hvalues => exact .dict hkeys hvalues

theorem isPrintable_argumentText [Room] {name : Text} (hname : ∀ c ∈ name, isPrintable c = true)
    {argument : Value} (h : IsJson argument) {text : Text}
    (htext : argumentText (.text name) argument = .ok text) : ∀ c ∈ text, isPrintable c = true := by
  rw [argumentText, Value.display_text, bind_eq_ok_iff] at htext
  obtain ⟨_, heq, htext⟩ := htext
  cases heq
  obtain ⟨literal, hliteral, htext⟩ := bind_eq_ok_iff.mp htext
  cases htext
  rw [List.forall_mem_append, List.forall_mem_cons]
  exact ⟨hname, rfl, (isJson_shortened h).isPrintable_literal hliteral⟩

/-- **Arguments in the line of a call** are shown by printable characters. -/
theorem isPrintable_argumentsText [Room] {entries : List (Value × Value)} (h : AreSent entries)
    {shown : Text} (hshown : argumentsText (.dict entries) = .ok shown) :
    ∀ c ∈ shown, isPrintable c = true := by
  rw [argumentsText, argumentEntries, bind_eq_ok_iff] at hshown
  obtain ⟨_, heq, hshown⟩ := hshown
  cases heq
  obtain ⟨parts, hparts, hshown⟩ := bind_eq_ok_iff.mp hshown
  cases hshown
  refine Text.forall_mem_commaList rfl rfl rfl rfl fun part hpart => ?_
  obtain ⟨⟨key, value⟩, hentry, hpart⟩ := exists_of_mem_mapM (mapError_eq_ok_iff.mp hparts) hpart
  obtain ⟨name, rfl, hname⟩ := h.names _ hentry
  exact isPrintable_argumentText hname (h.values _ hentry) hpart

/-! ## As a payload -/

theorem isVisible_cut {text : Text} (h : ∀ c ∈ text, IsVisible c) (limit : Int) :
    ∀ c ∈ cut limit text, IsVisible c := by
  have hclip : ∀ c ∈ Text.clip limit text, IsVisible c := by
    rw [Text.clip]
    split <;> exact fun c hc => h c (List.mem_of_mem_take hc)
  rw [cut]
  split
  · exact List.forall_mem_append.mpr ⟨hclip, Text.isVisible_of_all rfl⟩
  · exact h

theorem isVisible_limited {log : CallLog} {text shown : Text} (h : ∀ c ∈ text, IsVisible c)
    (hshown : log.limited text = .ok shown) : ∀ c ∈ shown, IsVisible c := by
  rw [limited] at hshown
  split at hshown
  · cases hshown
    exact isVisible_cut h _
  · dsimp only at hshown
    split at hshown
    · cases hshown
    · cases hshown
      exact h

/-- **Payloads** consist of visible characters of ASCII. -/
theorem isVisible_truncated [Room] {log : CallLog} {payload : Value} (h : IsJson payload)
    {shown : Text} (hshown : log.truncated payload = .ok shown) : ∀ c ∈ shown, IsVisible c := by
  rw [truncated, bind_eq_ok_iff] at hshown
  obtain ⟨text, htext, hshown⟩ := hshown
  exact isVisible_limited (h.isVisible_payload (mapError_eq_ok_iff.mp htext)) hshown

/-- No payload is longer than the limit and the mark of the cut. -/
theorem length_truncated_le [Room] {log : CallLog} {limit : Int}
    (hlimit : log.payloadLimit = .whole limit) (h : 0 ≤ limit) {payload : Value} {shown : Text}
    (hshown : log.truncated payload = .ok shown) :
    (shown.length : Int) ≤ limit + cutMark.length := by
  rw [truncated, bind_eq_ok_iff] at hshown
  obtain ⟨text, -, hshown⟩ := hshown
  rw [limited, hlimit] at hshown
  cases hshown
  exact length_cut_le h text

/-- What can be encoded can be logged as a payload, at a limit that is a whole number. -/
theorem exists_truncated [Room] {log : CallLog} {limit : Int}
    (hlimit : log.payloadLimit = .whole limit) {payload : Value} (h : IsEncodable payload) :
    ∃ shown, log.truncated payload = .ok shown := by
  obtain ⟨text, htext⟩ := h.exists_payload
  rw [truncated, htext]
  refine ⟨cut limit text, ?_⟩
  change log.limited text = .ok (cut limit text)
  rw [limited, hlimit]

/-! ## The records of a call -/

/-- A record that can be written, by printable characters alone. -/
def IsPrintableRecord (record : Record) : Prop :=
  ∃ text, record.message = .ok text ∧ ∀ c ∈ text, isPrintable c = true

theorem isPrintable_logPayload [Room] (log : CallLog) {payload : Value} (h : IsJson payload) :
    ∀ record ∈ (log.logPayload "Args" payload).records, IsPrintableRecord record := by
  rw [logPayload]
  split
  · cases hshown : log.truncated payload with
    | error failure => exact List.forall_mem_nil _
    | ok shown =>
      have hvisible := isVisible_truncated h hshown
      rw [Report.records_after, Report.ofResult, List.append_nil, List.forall_mem_singleton]
      refine ⟨_, Record.message_saying .., ?_⟩
      rw [List.forall_mem_append]
      exact ⟨List.all_eq_true.mp rfl, fun c hc => (hvisible c hc).isPrintable⟩
  · exact List.forall_mem_nil _

theorem isPrintable_opening [Room] (log : CallLog) (call : ToolCall)
    {entries : List (Value × Value)} (harguments : call.arguments = .dict entries) (hsent : AreSent entries)
    (hname : ∀ c ∈ shownName call.name, isPrintable c = true) :
    ∀ record ∈ (log.opening call).records, IsPrintableRecord record := by
  rw [opening, harguments]
  cases hshown : argumentsText (.dict entries) with
  | error failure => exact List.forall_mem_nil _
  | ok shown =>
    have hline : IsPrintableRecord (callRecord call shown) := by
      refine ⟨_, Record.message_saying .., ?_⟩
      rw [List.forall_mem_append, List.forall_mem_append]
      exact ⟨⟨List.all_eq_true.mp rfl, hname⟩, isPrintable_argumentsText hsent hshown⟩
    dsimp only
    rw [Report.records_after, List.singleton_append, List.forall_mem_cons]
    refine ⟨hline, ?_⟩
    split
    · exact isPrintable_logPayload log hsent.isJson
    · exact List.forall_mem_nil _

/-- Arguments that can be written are shown in the line of their call. -/
theorem exists_mem_opening [Room] (log : CallLog) (call : ToolCall) {entries : List (Value × Value)}
    (harguments : call.arguments = .dict entries) (h : IsWritable (.dict entries)) :
    ∃ shown, callRecord call shown ∈ (log.opening call).records := by
  obtain ⟨shown, hshown⟩ := argumentsText_eq_ok_iff.mpr fun entry hentry => h.of_mem hentry
  refine ⟨shown, ?_⟩
  rw [opening, harguments, hshown]
  exact List.mem_append_left _ (List.mem_singleton_self _)

/-- **The records of a call that comes in** are printable, whatever the arguments hold: no control
character of an argument reaches them. **Payloads** are in ASCII, and not longer than the limit and
the mark of the cut. Arguments and payloads that can be written are shown. -/
theorem opening_escaped [Room] (log : CallLog) (call : ToolCall) {entries : List (Value × Value)}
    (harguments : call.arguments = .dict entries) (hsent : AreSent entries)
    (hname : ∀ c ∈ shownName call.name, isPrintable c = true) :
    ((∀ record ∈ (log.opening call).records, ∃ text, record.message = .ok text ∧
        ∀ c ∈ text, isPrintable c = true ∧ ¬IsControl c) ∧
      (IsWritable (.dict entries) → ∃ shown, callRecord call shown ∈ (log.opening call).records)) ∧
    ∀ payload, IsJson payload →
      (∀ shown, log.truncated payload = .ok shown →
        (∀ c ∈ shown, c.toNat < 128) ∧
        ∀ limit, log.payloadLimit = .whole limit → 0 ≤ limit →
          (shown.length : Int) ≤ limit + cutMark.length) ∧
      ∀ limit, log.payloadLimit = .whole limit → IsEncodable payload →
        ∃ shown, log.truncated payload = .ok shown := by
  refine ⟨⟨fun record hrecord => ?_, exists_mem_opening log call harguments⟩,
    fun payload hpayload => ⟨fun shown hshown => ?_, fun _ hlimit => exists_truncated hlimit⟩⟩
  · obtain ⟨text, htext, hprintable⟩ :=
      isPrintable_opening log call harguments hsent hname record hrecord
    exact ⟨text, htext, fun c hc =>
      ⟨hprintable c hc, Text.not_isControl_of_isPrintable (hprintable c hc)⟩⟩
  · refine ⟨fun c hc => ?_, fun limit hlimit h => length_truncated_le hlimit h hshown⟩
    have hvisible := isVisible_truncated hpayload hshown c hc
    exact Nat.lt_of_lt_of_le hvisible.2 (by decide)

/-- An argument with the end of a line and an escape in it is shown on one line, twice. -/
theorem opening_escaped_line_end :
    let _ : Room := ⟨1000, 1000, by decide⟩
    let log : CallLog := { payloads := true, payloadLimit := .whole 10 }
    let entries : List (Value × Value) := [(.text "a", .list [.text "x\n\x1b"])]
    let call : ToolCall := ⟨some "t", .dict entries⟩
    AreSent entries ∧
    (log.opening call).records = [record .info ">>> TOOL: t(a=['x\\n\\x1b'])",
      record .debug "    Args: \x7b\"a\": [\"x\\... [truncated]"] ∧
    ∀ record ∈ (log.opening call).records, ∃ text, record.message = .ok text ∧
      ∀ c ∈ text, isPrintable c = true ∧ ¬IsControl c := by
  intro _ log entries call
  have hsent : AreSent entries := by
    constructor
    case names => exact List.forall_mem_singleton.mpr ⟨"a", rfl, List.all_eq_true.mp rfl⟩
    case values =>
      exact List.forall_mem_singleton.mpr (.list (List.forall_mem_singleton.mpr (.text _)))
  refine ⟨hsent, rfl, ?_⟩
  exact (opening_escaped log call rfl hsent (List.all_eq_true.mp rfl)).1.1

end LaunchKit.CallLog
