import LaunchKit.Server.LogSetup

/-!
# Which names set up the log

The setup takes the level by name from everything that the log has under a name. A name of a level
gives its number, and a name that the log does not know gives the usual level; but the log has more
than levels, and most of it is refused. Settings that come from an environment name their level in
capital letters. Of what the log has under such a name two things are no levels, a layout and a
table, and one of these names is all that can keep the log from being set up there.

## Main definitions

* `LogSetup.IsLevel`: the levels by name.

## Main statements

* `Text.not_isLower_of_mem_upper`: a raised text has no small letter of ASCII.
* `LogSetup.configure_level`: the level of the log behind its setup.
* `LogSetup.exists_not_configured`: an environment in which the log is not set up.
-/
namespace LaunchKit

namespace Text

/-! ## Raised texts -/

/-- Whether a code point is a small letter of ASCII. The comparisons are those that the kernel
computes at once. -/
def isSmall (point : Nat) : Bool := Nat.ble 0x61 point && Nat.ble point 0x7A

/-- Whether no image of a span is a small letter of ASCII. -/
def CaseSpan.isRaised (span : CaseSpan) : Bool :=
  Nat.blt 0x7A span.image || Nat.blt (span.image + (span.last - span.first)) 0x61

theorem isLower_iff {c : Char} : c.isLower = true ↔ 0x61 ≤ c.toNat ∧ c.toNat ≤ 0x7A := by
  have hlower : c.isLower = (decide (c.val ≥ 'a'.val) && decide (c.val ≤ 'z'.val)) := rfl
  rw [hlower, Bool.and_eq_true, decide_eq_true_eq, decide_eq_true_eq]
  exact and_congr UInt32.le_iff_toNat_le UInt32.le_iff_toNat_le

theorem isSmall_of_isLower {point : Nat} (h : (Char.ofNat point).isLower = true) :
    isSmall point = true := by
  by_cases hvalid : point.isValidChar
  · have htoNat : (Char.ofNat point).toNat = point := by
      rw [Char.ofNat, dif_pos hvalid]
      rfl
    rw [isLower_iff, htoNat] at h
    rw [isSmall, Bool.and_eq_true, Nat.ble_eq, Nat.ble_eq]
    exact h
  · rw [Char.ofNat, dif_neg hvalid] at h
    exact absurd h (by decide)

theorem not_isLower_toUpper {c : Char} (h : c.toNat < 128) : c.toUpper.isLower = false := by
  have hall : ∀ n < 128, (Char.ofNat n).toUpper.isLower = false := by decide +kernel
  have hc := hall c.toNat h
  rwa [Char.ofNat_toNat] at hc

theorem not_isLower_mapBySpans {c : Char} (h : ¬c.toNat < 128) :
    (mapBySpans raisingSpans c).isLower = false := by
  rw [mapBySpans, ← Bool.not_eq_true]
  intro hlower
  cases hfind : raisingSpans.findSome? (fun span => span.map? c.toNat) with
  | none =>
    rw [hfind] at hlower
    have hle : c.toNat ≤ 0x7A := (isLower_iff.mp hlower).2
    omega
  | some image =>
    rw [hfind] at hlower
    have hsmall := isSmall_of_isLower hlower
    obtain ⟨span, hspan, hmap⟩ := List.exists_of_findSome?_eq_some hfind
    have hall : raisingSpans.all CaseSpan.isRaised = true := by decide +kernel
    have hraised := List.all_eq_true.mp hall span hspan
    rw [CaseSpan.map?] at hmap
    split at hmap
    · cases hmap
      simp only [isSmall, CaseSpan.isRaised, Bool.and_eq_true, Bool.or_eq_true, Nat.ble_eq,
        Nat.blt_eq] at hsmall hraised
      omega
    · cases hmap

/-- **A raised text has no small letter of ASCII.** -/
theorem not_isLower_of_mem_upper {text : Text} {d : Char} (h : d ∈ upper text) :
    d.isLower = false := by
  obtain ⟨c, -, hd⟩ := List.mem_flatMap.mp h
  rw [upperImage] at hd
  split at hd
  · next hascii =>
    rw [List.mem_singleton.mp hd]
    exact not_isLower_toUpper hascii
  · next hascii =>
    split at hd
    · next points hpoints =>
      obtain ⟨point, hpoint, rfl⟩ := List.mem_map.mp hd
      have hall : (raisingSequences.all fun entry => entry.2.all fun point => !isSmall point) =
          true := by decide +kernel
      obtain ⟨before, after, hentry, -⟩ := List.lookup_eq_some_iff.mp hpoints
      have hentry := List.all_eq_true.mp hall (c.toNat, points) (by simp [hentry])
      have hsmall := List.all_eq_true.mp hentry point hpoint
      rw [← Bool.not_eq_true]
      intro hlower
      rw [isSmall_of_isLower hlower] at hsmall
      cases hsmall
    · rw [List.mem_singleton.mp hd]
      exact not_isLower_mapBySpans hascii

end Text

namespace LogSetup

open LogName (find?)

/-! ## Levels by name -/

/-- The levels by name. -/
inductive IsLevel : Text → Int → Prop where
  | critical : IsLevel "CRITICAL" 50
  | fatal : IsLevel "FATAL" 50
  | error : IsLevel "ERROR" 40
  | warning : IsLevel "WARNING" 30
  | warn : IsLevel "WARN" 30
  | info : IsLevel "INFO" 20
  | debug : IsLevel "DEBUG" 10
  | notSet : IsLevel "NOTSET" 0

/-- The layout of records, which the log has under a name in capital letters. -/
def layoutName : Text := "BASIC_FORMAT"

/-- The table of styles, which the log has under a name in capital letters. -/
def stylesName : Text := "_STYLES"

theorem exists_mem_of_find? {name : Text} {found : LogName} (h : find? name = some found) :
    ∃ entry ∈ LogName.all, entry.1.toList = name ∧ entry.2 = found := by
  obtain ⟨entry, hentry, rfl⟩ := Option.map_eq_some_iff.mp h
  exact ⟨entry, List.mem_of_find?_eq_some hentry, by simpa using List.find?_some hentry, rfl⟩

theorem isLevel_of_mem_levels {word : String} {n : Int} (h : (word, n) ∈ LogName.levels) :
    IsLevel word.toList n := by
  simp only [LogName.levels, List.mem_cons, Prod.mk.injEq, List.not_mem_nil, or_false] at h
  rcases h with ⟨rfl, rfl⟩ | ⟨rfl, rfl⟩ | ⟨rfl, rfl⟩ | ⟨rfl, rfl⟩ | ⟨rfl, rfl⟩ | ⟨rfl, rfl⟩ |
    ⟨rfl, rfl⟩ | ⟨rfl, rfl⟩
  · exact .critical
  · exact .fatal
  · exact .error
  · exact .warn
  · exact .warning
  · exact .info
  · exact .debug
  · exact .notSet

/-- **The levels** are the numbers that the log has under a name. -/
theorem find?_eq_number_iff {name : Text} {n : Int} :
    find? name = some (.level (.number n)) ↔ IsLevel name n := by
  constructor
  · intro h
    obtain ⟨⟨word, found⟩, hmem, rfl, rfl⟩ := exists_mem_of_find? h
    simp only [LogName.all, List.mem_append, List.mem_map, Prod.mk.injEq, LogName.level.injEq,
      Threshold.number.injEq, reduceCtorEq, and_false, exists_false, or_false] at hmem
    obtain ⟨level, hlevel, rfl, rfl⟩ := hmem
    exact isLevel_of_mem_levels hlevel
  · intro h
    cases h <;> decide +kernel

theorem find?_layoutName : find? layoutName = some (.other (.label layoutName)) := by
  decide +kernel

theorem find?_stylesName : find? stylesName = some (.other (.part stylesName)) := by
  decide +kernel

/-- What the log has under a name without small letters is a level, the layout or the table of
styles. -/
theorem find?_of_raised {name : Text} {found : LogName} (h : find? name = some found)
    (hraised : ∀ c ∈ name, c.isLower = false) :
    (∃ n, found = .level (.number n)) ∨ name = layoutName ∨ name = stylesName := by
  have hall : (LogName.all.all fun entry => entry.1.toList.any Char.isLower ||
      (LogName.levels.map Prod.fst).contains entry.1 ||
      entry.1.toList == layoutName || entry.1.toList == stylesName) = true := by decide +kernel
  obtain ⟨⟨word, other⟩, hmem, rfl, rfl⟩ := exists_mem_of_find? h
  have hentry := List.all_eq_true.mp hall _ hmem
  simp only [Bool.or_eq_true, List.any_eq_true, List.contains_iff_mem, List.mem_map,
    beq_iff_eq] at hentry
  rcases hentry with ((⟨c, hc, hlower⟩ | ⟨level, hlevel, rfl⟩) | hlayout) | hstyles
  · rw [hraised c hc] at hlower
    cases hlower
  · refine Or.inl ⟨level.2, ?_⟩
    have hnumber := find?_eq_number_iff.mpr (isLevel_of_mem_levels hlevel)
    rw [h] at hnumber
    exact Option.some.inj hnumber
  · exact Or.inr (Or.inl hlayout)
  · exact Or.inr (Or.inr hstyles)

/-! ## Setup -/

/-- The setup goes as its level does. -/
theorem configure_cases (setup : LogSetup) (settings : Settings) (isTerminal : Bool) :
    (∃ behind, setup.configure settings isTerminal = .ok behind ∧
      levelOf settings.logLevel = .ok behind.level) ∨
    ∃ refused, setup.configure settings isTerminal = .error refused ∧
      levelOf settings.logLevel = .error refused := by
  rw [configure]
  cases hlevel : levelOf settings.logLevel with
  | error refused => exact Or.inr ⟨refused, rfl, rfl⟩
  | ok level =>
    refine Or.inl ?_
    by_cases hfirst : setup.handlers.isEmpty = true
    · exact ⟨⟨level, [settings.logColors && isTerminal], false⟩, if_pos hfirst, rfl⟩
    · exact ⟨{ setup with level }, if_neg hfirst, rfl⟩

theorem levelOf_eq_error_iff {name : Text} {refused : NoLevel} :
    levelOf name = .error refused ↔ find? name = some (.other refused) := by
  rw [levelOf]
  cases find? name with
  | none => simp
  | some found => cases found <;> simp

/-- **The level of a name**: a level, something that serves as one, or the usual level. -/
theorem levelOf_eq_ok_iff {name : Text} {level : Threshold} :
    levelOf name = .ok level ↔
      find? name = some (.level level) ∨ find? name = none ∧ level = .number 20 := by
  rw [levelOf]
  cases find? name with
  | none => simp [Level.number, eq_comm]
  | some found => cases found <;> simp

theorem configure_eq_error_iff {setup : LogSetup} {settings : Settings} {isTerminal : Bool}
    {refused : NoLevel} :
    setup.configure settings isTerminal = .error refused ↔
      find? settings.logLevel = some (.other refused) := by
  rw [← levelOf_eq_error_iff]
  rcases configure_cases setup settings isTerminal with
    ⟨behind, hconfigure, hlevel⟩ | ⟨other, hconfigure, hlevel⟩
  · rw [hconfigure, hlevel]
    exact iff_of_false nofun nofun
  · rw [hconfigure, hlevel]
    simp

/-- The level behind the setup. -/
theorem level_of_configure {setup behind : LogSetup} {settings : Settings} {isTerminal : Bool}
    (h : setup.configure settings isTerminal = .ok behind) :
    (∃ n, IsLevel settings.logLevel n ∧ behind.level = .number n) ∨
    (∃ isOn, find? settings.logLevel = some (.level (.switch isOn)) ∧
      behind.level = .switch isOn) ∨
    find? settings.logLevel = none ∧ behind.level = .number 20 := by
  rcases configure_cases setup settings isTerminal with
    ⟨other, hconfigure, hlevel⟩ | ⟨other, hconfigure, -⟩
  · cases h.symm.trans hconfigure
    rcases levelOf_eq_ok_iff.mp hlevel with hfound | hnone
    · cases hbehind : behind.level with
      | number n => exact Or.inl ⟨n, find?_eq_number_iff.mp (hbehind ▸ hfound), rfl⟩
      | switch isOn => exact Or.inr (Or.inl ⟨isOn, hbehind ▸ hfound, rfl⟩)
    · exact Or.inr (Or.inr hnone)
  · cases h.symm.trans hconfigure

/-- **The setup of the log.** It is refused when the log has something else than a level under the
name that the settings give, and otherwise it sets the level of that name, a switch in place of one,
or the usual level under a name that the log does not know. The settings of an environment name no
switch, and are refused for the layout and for the table of styles only; with all others the level
is the one of that name, or the usual one when it names none. -/
theorem configure_level (setup : LogSetup) (settings : Settings) (isTerminal : Bool) :
    (∀ refused, setup.configure settings isTerminal = .error refused ↔
      find? settings.logLevel = some (.other refused)) ∧
    (∀ behind, setup.configure settings isTerminal = .ok behind →
      (∃ n, IsLevel settings.logLevel n ∧ behind.level = .number n) ∨
      (∃ isOn, find? settings.logLevel = some (.level (.switch isOn)) ∧
        behind.level = .switch isOn) ∨
      find? settings.logLevel = none ∧ behind.level = .number 20) ∧
    ∀ environment, settings.logLevel = (Settings.ofEnvironment environment).1.logLevel →
      ((∃ refused, setup.configure settings isTerminal = .error refused) ↔
        settings.logLevel = layoutName ∨ settings.logLevel = stylesName) ∧
      ∀ behind, setup.configure settings isTerminal = .ok behind →
        (∃ n, IsLevel settings.logLevel n ∧ behind.level = .number n) ∨
        (∀ n, ¬IsLevel settings.logLevel n) ∧ behind.level = .number 20 := by
  refine ⟨fun _ => configure_eq_error_iff, fun _ => level_of_configure, fun environment hname => ?_⟩
  have hraised : ∀ c ∈ settings.logLevel, c.isLower = false := by
    intro c hc
    rw [hname] at hc
    exact Text.not_isLower_of_mem_upper hc
  refine ⟨⟨?_, ?_⟩, fun behind h => ?_⟩
  · rintro ⟨refused, h⟩
    rcases find?_of_raised (configure_eq_error_iff.mp h) hraised with ⟨n, hn⟩ | hspecial
    · cases hn
    · exact hspecial
  · rintro (heq | heq)
    · exact ⟨_, configure_eq_error_iff.mpr (heq ▸ find?_layoutName)⟩
    · exact ⟨_, configure_eq_error_iff.mpr (heq ▸ find?_stylesName)⟩
  · rcases level_of_configure h with hlevel | ⟨isOn, hswitch, -⟩ | ⟨hnone, hlevel⟩
    · exact Or.inl hlevel
    · rcases find?_of_raised hswitch hraised with ⟨n, hn⟩ | heq | heq
      · cases hn
      · cases hswitch.symm.trans (heq ▸ find?_layoutName)
      · cases hswitch.symm.trans (heq ▸ find?_stylesName)
    · refine Or.inr ⟨fun n hn => ?_, hlevel⟩
      cases hnone.symm.trans (find?_eq_number_iff.mpr hn)

/-- An environment that names a level in small letters. -/
theorem configure_level_small :
    let environment : Environment := ⟨[("LAUNCHER_LOG_LEVEL", "warn")]⟩
    let settings := (Settings.ofEnvironment environment).1
    settings.logLevel = "WARN".toList ∧
      ∃ behind, ({} : LogSetup).configure settings false = .ok behind ∧
        behind.level = .number 30 := by
  intro environment settings
  have hname : settings.logLevel = "WARN".toList := by decide +kernel
  obtain ⟨hrefused, hset⟩ := (configure_level {} settings false).2.2 environment rfl
  refine ⟨hname, ?_⟩
  cases hconfigure : ({} : LogSetup).configure settings false with
  | error refused =>
    rcases hrefused.mp ⟨refused, hconfigure⟩ with hlayout | hstyles
    · exact absurd (hname.symm.trans hlayout) (by decide)
    · exact absurd (hname.symm.trans hstyles) (by decide)
  | ok behind =>
    refine ⟨behind, rfl, ?_⟩
    rcases hset behind hconfigure with ⟨n, hn, hlevel⟩ | ⟨hnone, -⟩
    · rw [hname] at hn
      cases hn
      exact hlevel
    · exact absurd (hname ▸ .warn) (hnone 30)

/-- An environment that names the layout in small letters: the log is not set up, and says so of its
layout. -/
theorem exists_not_configured :
    ¬(∀ (setup : LogSetup) (settings : Settings) (isTerminal : Bool),
      ∃ behind, setup.configure settings isTerminal = .ok behind) ∧
    let settings := (Settings.ofEnvironment ⟨[("LAUNCHER_LOG_LEVEL", "basic_format")]⟩).1
    ∃ refused, ({} : LogSetup).configure settings false = .error refused ∧
      ∀ shown : Text → Text, shown layoutName = "%(levelname)s:%(name)s:%(message)s".toList →
        (refused.toFailure shown).told =
          (.badValue, "Unknown level: '%(levelname)s:%(name)s:%(message)s'".toList) := by
  let settings := (Settings.ofEnvironment ⟨[("LAUNCHER_LOG_LEVEL", "basic_format")]⟩).1
  have hfound : find? settings.logLevel = some (.other (.label layoutName)) := by decide +kernel
  have hconfigure : ({} : LogSetup).configure settings false = .error (.label layoutName) :=
    configure_eq_error_iff.mpr hfound
  refine ⟨fun h => ?_, _, hconfigure, fun shown hshown => ?_⟩
  · obtain ⟨behind, hbehind⟩ := h {} settings false
    cases hbehind.symm.trans hconfigure
  · rw [NoLevel.toFailure, hshown, Failure.told_saying]
    decide +kernel

end LogSetup
end LaunchKit
