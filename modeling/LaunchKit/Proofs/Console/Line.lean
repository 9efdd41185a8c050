import LaunchKit.Proofs.Console.Highlighted
import LaunchKit.Proofs.Value.Escaped
import LaunchKit.Console.Line

/-!
# What is seen of a log line

Of the line of an entry in colour a reader sees the line without colours, provided that the entry
itself has no control sequences, and unless its message is torn.

## Main definitions

* `Console.Entry.IsPlain`: the entries without control sequences.

## Main statements

* `Console.visible_line_iff`: what is seen of a line in colour.
* `Console.exists_torn_line`: a line whose message is torn.
-/
namespace LaunchKit.Console

/-! ## Parts of a line -/

/-- What stands before the message of an entry. -/
def lineOpening (useColors : Bool) (name : Text) (look : Text × Paint) (time : Text) : Text :=
  let bar := ' ' :: paintIf useColors dim ['|'] ++ [' ']
  let level := paintIf useColors look.2 (Text.padRight 8 look.1)
  let component := paintIf useColors (componentPaint name) (Text.padRight 20 (componentName name))
  paintIf useColors dim time ++ bar ++ level ++ bar ++ component ++ bar

/-- The escape character is not visible. -/
theorem escape_not_mem_of_isVisible {text : Text} (h : ∀ c ∈ text, Text.IsVisible c) :
    '\x1b' ∉ text := fun hmem => absurd (h '\x1b' hmem) (by decide)

theorem escape_not_mem_padRight {text : Text} (h : '\x1b' ∉ text) (width : Nat) :
    '\x1b' ∉ Text.padRight width text := by
  simp [Text.padRight, h]

theorem escape_not_mem_twoDigits (n : Nat) : '\x1b' ∉ Calendar.twoDigits n :=
  escape_not_mem_of_isVisible (Text.isVisible_padLeft (by decide) 2 (Numeral.isVisible_ofNat n))

theorem isVisible_millisecondText {milliseconds : Number} {text : Text}
    (h : millisecondText milliseconds = .ok text) : ∀ c ∈ text, Text.IsVisible c := by
  simp only [millisecondText, bind, Except.bind] at h
  split at h
  · cases h
  · next n _ =>
    cases hdigits : Value.writtenInt n.natAbs with
    | error refused => rw [hdigits] at h; cases h
    | ok digits =>
      have hwritten := Value.isVisible_of_writtenInt hdigits
      rw [hdigits] at h
      cases h
      split
      · exact List.forall_mem_cons.mpr ⟨by decide, Text.isVisible_padLeft (by decide) _ hwritten⟩
      · exact Text.isVisible_padLeft (by decide) 3 hwritten

/-- The time of an entry has no control sequences. -/
theorem escape_not_mem_timestamp {zone : Calendar.Zone} {entry : Entry} {time : Text}
    (h : timestamp zone entry = .ok time) : '\x1b' ∉ time := by
  rw [timestamp] at h
  cases hmoment : Calendar.moment entry.seconds zone with
  | error refused => rw [hmoment] at h; cases h
  | ok moment =>
    cases hmilliseconds : millisecondText entry.milliseconds with
    | error failure => rw [hmoment, hmilliseconds] at h; cases h
    | ok milliseconds =>
      have hvisible := isVisible_millisecondText hmilliseconds
      rw [hmoment, hmilliseconds] at h
      cases h
      simp [Calendar.Moment.clock, Calendar.Moment.date, escape_not_mem_twoDigits,
        escape_not_mem_of_isVisible hvisible]

theorem escape_not_mem_componentName {name : Text} (h : '\x1b' ∉ name) :
    '\x1b' ∉ componentName name := by
  rw [componentName]
  cases hdrop : Text.dropOpening? packageOpening name with
  | none => exact h
  | some rest =>
    rw [Text.dropOpening?_eq_some.mp hdrop, List.mem_append, not_or] at h
    exact h.2

/-- What stands before the message is seen as it is without colours. -/
theorem visible_lineOpening {name : Text} {look : Text × Paint} {time : Text}
    (hname : '\x1b' ∉ name) (hlook : '\x1b' ∉ look.1) (htime : '\x1b' ∉ time) (rest : Text) :
    visible (lineOpening true name look time ++ rest) =
      lineOpening false name look time ++ visible rest := by
  have hbar (more : Text) : visible (' ' :: (paint dim ['|'] ++ ' ' :: more)) =
      ' ' :: '|' :: ' ' :: visible more := by
    rw [visible_cons_of_ne (by decide), visible_paint (by decide), visible_cons_of_ne (by decide),
      List.cons_append, List.nil_append]
  simp only [lineOpening, paintIf, if_true, Bool.false_eq_true, if_false, List.append_assoc,
    List.cons_append, List.nil_append, visible_paint htime, hbar,
    visible_paint (escape_not_mem_padRight hlook 8),
    visible_paint (escape_not_mem_padRight (escape_not_mem_componentName hname) 20)]

/-- What is seen of a highlighted message is the same in front of what stands behind it. -/
theorem visible_append_ending {ending : Text}
    (h : ending = [] ∨ ∃ text, ending = '\n' :: text ∧ '\x1b' ∉ text) (text : Text) :
    visible (text ++ ending) = visible text ++ ending := by
  rcases h with rfl | ⟨report, rfl, hreport⟩
  · rw [List.append_nil, List.append_nil]
  · have hseen : visible report = report := by
      have happend := visible_append hreport []
      rwa [List.append_nil, visible_nil, List.append_nil] at happend
    rw [visible_append_newline, hseen]

/-! ## Lines in parts -/

variable [Room]

/-- What stands behind the message of an entry. -/
def Entry.ending (entry : Entry) : Except Failure Text :=
  match entry.failure with
  | none => .ok []
  | some failure => failure.report.map ('\n' :: ·)

/-- A line has four parts that may fail, and its colours have no part in that. -/
theorem line_eq (useColors : Bool) (zone : Calendar.Zone) (entry : Entry) :
    line useColors zone entry = do
      let look ← levelLook entry.level
      let time ← timestamp zone entry
      let message ← entry.message
      let ending ← entry.ending
      return lineOpening useColors entry.name look time ++
        (highlight useColors message ++ ending) := by
  rw [line]
  cases levelLook entry.level with
  | error failure => rfl
  | ok look =>
    cases timestamp zone entry with
    | error failure => rfl
    | ok time =>
      cases entry.message with
      | error failure => rfl
      | ok message =>
        rw [Entry.ending]
        cases entry.failure with
        | none => simp [bind, Except.bind, lineOpening]
        | some failure =>
          cases hreport : failure.report with
          | error other => simp [bind, Except.bind, Except.map, hreport]
          | ok report => simp [bind, Except.bind, Except.map, lineOpening, hreport]

/-- A line fails with colours as it does without, or else has its parts. -/
theorem line_cases (zone : Calendar.Zone) (entry : Entry) :
    (∃ failure, ∀ useColors, line useColors zone entry = .error failure) ∨
      ∃ look time message ending, levelLook entry.level = .ok look ∧
        timestamp zone entry = .ok time ∧ entry.message = .ok message ∧
        entry.ending = .ok ending ∧
        ∀ useColors, line useColors zone entry =
          .ok (lineOpening useColors entry.name look time ++
            (highlight useColors message ++ ending)) := by
  simp only [line_eq]
  cases levelLook entry.level with
  | error error => exact Or.inl ⟨_, fun _ => rfl⟩
  | ok look =>
    cases timestamp zone entry with
    | error failure => exact Or.inl ⟨_, fun _ => rfl⟩
    | ok time =>
      cases entry.message with
      | error failure => exact Or.inl ⟨_, fun _ => rfl⟩
      | ok message =>
        cases entry.ending with
        | error failure => exact Or.inl ⟨_, fun _ => rfl⟩
        | ok ending => exact Or.inr ⟨look, time, message, ending, rfl, rfl, rfl, rfl, fun _ => rfl⟩

/-! ## Parts without control sequences -/

/-- An entry whose name, level, message and failure have no escape character. -/
structure Entry.IsPlain (entry : Entry) : Prop where
  name : '\x1b' ∉ entry.name
  level : ∀ look, levelLook entry.level = .ok look → '\x1b' ∉ look.1
  message : ∀ message, entry.message = .ok message → '\x1b' ∉ message
  report : ∀ failure text, entry.failure = some failure → failure.report = .ok text →
    '\x1b' ∉ text

/-- An entry that is a text, under a name and a level. -/
theorem Entry.isPlain_of_text {entry : Entry} {message : Text} {look : Text × Paint}
    (htemplate : entry.template = .text message) (harguments : entry.arguments = [])
    (hfailure : entry.failure = none) (hlevel : levelLook entry.level = .ok look)
    (hname : '\x1b' ∉ entry.name) (hlook : '\x1b' ∉ look.1) (hmessage : '\x1b' ∉ message) :
    entry.IsPlain where
  name := hname
  level other hother := by
    rw [hlevel] at hother
    cases hother
    exact hlook
  message other hother := by
    rw [Entry.message, htemplate, harguments] at hother
    cases hother
    exact hmessage
  report failure text hsome _ := by
    rw [hfailure] at hsome
    cases hsome

theorem Entry.IsPlain.ending {entry : Entry} (h : entry.IsPlain) {ending : Text}
    (hending : entry.ending = .ok ending) : ending = [] ∨ ∃ text, ending = '\n' :: text ∧
      '\x1b' ∉ text := by
  rw [Entry.ending] at hending
  split at hending
  · cases hending
    exact Or.inl rfl
  · next failure hfailure =>
    cases hreport : failure.report with
    | error other => rw [hreport] at hending; cases hending
    | ok text =>
      rw [hreport] at hending
      cases hending
      exact Or.inr ⟨text, rfl, h.report failure text hfailure hreport⟩

/-! ## Lines -/

/-- **What is seen of a line in colour.** Of an entry without control sequences, the line in colour
is seen as the line without colours, and fails as it does, unless there is such a line and its
message is torn. -/
theorem visible_line_iff (zone : Calendar.Zone) {entry : Entry} (h : entry.IsPlain) :
    (line true zone entry).map visible = line false zone entry ↔
      ∀ plain message, line false zone entry = .ok plain → entry.message = .ok message →
        ¬IsTorn message := by
  rcases line_cases zone entry with ⟨failure, hfails⟩ | ⟨look, time, message, ending, hlook, htime,
    hmessage, hending, hline⟩
  · refine iff_of_true (by rw [hfails, hfails]; rfl) fun plain message hplain _ => ?_
    rw [hfails] at hplain
    cases hplain
  · have hseen : visible (lineOpening true entry.name look time ++
        (highlight true message ++ ending)) =
        lineOpening false entry.name look time ++ (visible (highlight true message) ++ ending) := by
      rw [visible_lineOpening h.name (h.level look hlook) (escape_not_mem_timestamp htime),
        visible_append_ending (h.ending hending)]
    rw [hline, hline, Except.map, hseen, Except.ok.injEq, List.append_cancel_left_eq,
      List.append_cancel_right_eq, highlight_false,
      visible_highlight_iff (h.message message hmessage)]
    constructor
    · intro hwhole plain other _ hother
      rw [hmessage] at hother
      cases hother
      exact hwhole
    · exact fun hall => hall _ message rfl hmessage

omit [Room]

/-- An entry with a marker, a path and a duration has no control sequences of its own. -/
theorem visible_line_iff_of_path :
    let _ : Room := ⟨1000, 1000, by decide⟩
    let entry : Entry :=
      { name := "launcher_mcp.tools", level := .int 30, template := .text ">>> C:\\a took 5ms"
        seconds := 0 }
    entry.IsPlain ∧
      ((line true {} entry).map visible = line false {} entry ↔
        ∀ plain message, line false {} entry = .ok plain → entry.message = .ok message →
          ¬IsTorn message) := by
  intro _ entry
  have hplain : entry.IsPlain :=
    Entry.isPlain_of_text rfl rfl rfl rfl (by decide) (by decide) (by decide)
  exact ⟨hplain, visible_line_iff {} hplain⟩

/-! ## A torn line -/

theorem millisecondText_zero : millisecondText (.whole 0) = .ok "000".toList := by
  have hpart : Template.wholePart 'd' (.int 0) = .ok 0 := rfl
  have hzero : ((0 : Int).natAbs : Int) = 0 := rfl
  have hshort : Value.IsShort 0 := by
    delta Value.IsShort
    generalize Numeral.digitLimit = limit
    exact Nat.pow_pos (by decide)
  dsimp only [millisecondText]
  rw [hpart]
  dsimp only [Except.mapError, bind, Except.bind]
  rw [hzero, Value.writtenInt_of_isShort hshort]
  rfl

theorem timestamp_zero {entry : Entry} (hseconds : entry.seconds = 0)
    (hmilliseconds : entry.milliseconds = .whole 0) :
    timestamp {} entry = .ok "00:00:00.000 01/01".toList := by
  rw [timestamp, hseconds, hmilliseconds, millisecondText_zero]
  rfl

/-- An `s` right behind a marker makes a duration of the sequence that closes the marker. -/
theorem exists_torn_line :
    ∃ entry : Entry, ∀ [Room], entry.IsPlain ∧
      line false {} entry =
        .ok "00:00:00.000 01/01 | INFO     | n                    | >>>second" ∧
      (line true {} entry).map visible =
        .ok "00:00:00.000 01/01 | INFO     | n                    | >>>\x1b[0msecond" := by
  let entry : Entry :=
    { name := "n", level := .int 20, template := .text ">>>second", seconds := 0 }
  have hplain [Room] : entry.IsPlain :=
    Entry.isPlain_of_text rfl rfl rfl rfl (by decide) (by decide) (by decide)
  have htime := timestamp_zero (rfl : entry.seconds = 0) rfl
  refine ⟨entry, hplain, ?_, ?_⟩
  · rw [line_eq, htime]
    rfl
  · rw [line_eq, htime]
    exact congrArg Except.ok (by decide +kernel)

end LaunchKit.Console
