import LaunchKit.Proofs.Number.Rounded
import LaunchKit.Server.Handlers

/-!
# Which environments have a server

Settings can be loaded from every environment: what cannot be read is replaced by a default, and a
warning says so. A server can be created from all of them but those with a threshold of slow calls
that can be read and is too large for a floating point number. There the conversion fails, and
nothing takes its place.

## Main definitions

* `Settings.IsFault`: what is wrong with an environment.
* `Server.HasHugeThreshold`: an environment with a threshold that is too large.

## Main statements

* `Settings.mem_snd_load_iff`: warnings are given of what is wrong, and of nothing else.
* `Server.create_ofEnvironment`: the environments from which a server can be created.
* `Server.exists_not_created`: one from which it cannot.
-/
namespace LaunchKit

namespace Settings

/-! ## Single fields -/

theorem fst_transportOf (value : Option Text) :
    (transportOf value).1 = "http".toList ∨ (transportOf value).1 = "stdio".toList := by
  rw [transportOf]
  split
  · assumption
  · exact Or.inl rfl

theorem mem_snd_transportOf_iff {value : Option Text} {warning : SettingsWarning} :
    warning ∈ (transportOf value).2 ↔
      ∃ text, value = some text ∧ Text.lower text ≠ [] ∧ Text.lower text ≠ "http".toList ∧
        Text.lower text ≠ "stdio".toList ∧ warning = .unknownTransport (Text.lower text) := by
  have hempty : Text.lower [] = [] := rfl
  rw [transportOf]
  cases value with
  | none => simp [hempty]
  | some text =>
    simp only [Option.getD_some, Option.some.injEq, exists_eq_left']
    by_cases hknown : Text.lower text = "http".toList ∨ Text.lower text = "stdio".toList
    · rw [if_pos hknown]
      rcases hknown with h | h <;> simp [h]
    · rw [if_neg hknown]
      simp_all

theorem fst_wholeOf (key : Text) (default : Int) (value : Option Text) :
    (wholeOf key default value).1 = (value.bind Numeral.read?).getD default := by
  cases value with
  | none => rfl
  | some value =>
    rw [wholeOf]
    cases hread : Numeral.read? value <;> simp [hread]

theorem mem_snd_wholeOf_iff {key : Text} {default : Int} {value : Option Text}
    {warning : SettingsWarning} :
    warning ∈ (wholeOf key default value).2 ↔
      ∃ text, value = some text ∧ Numeral.read? text = none ∧
        warning = .notWhole key text default := by
  cases value with
  | none => simp [wholeOf]
  | some value =>
    rw [wholeOf]
    cases hread : Numeral.read? value <;> simp [hread]

/-! ## All fields -/

/-- The variables that hold whole numbers, with their defaults. -/
def wholeKeys : List (Text × Int) :=
  [("LAUNCHER_HTTP_PORT", 8000), ("LAUNCHER_SLOW_THRESHOLD_MS", 1000)]

/-- What is wrong with an environment: a transport that does not exist, and what is no number where
a number should be. -/
inductive IsFault (environment : Environment) : SettingsWarning → Prop where
  | transport {value : Text} (hvalue : environment.get? "LAUNCHER_TRANSPORT" = some value)
      (hne : Text.lower value ≠ []) (hhttp : Text.lower value ≠ "http".toList)
      (hstdio : Text.lower value ≠ "stdio".toList) :
      IsFault environment (.unknownTransport (Text.lower value))
  | whole {key : Text} {default : Int} {value : Text} (hkey : (key, default) ∈ wholeKeys)
      (hvalue : environment.get? key = some value) (hread : Numeral.read? value = none) :
      IsFault environment (.notWhole key value default)

/-- **Warnings** are given of what is wrong with an environment, and of nothing else. -/
theorem mem_snd_load_iff {environment : Environment} {warning : SettingsWarning} :
    warning ∈ (load environment).2 ↔ IsFault environment warning := by
  have hload : (load environment).2 =
      (transportOf (environment.get? "LAUNCHER_TRANSPORT")).2 ++
        (wholeOf "LAUNCHER_HTTP_PORT" 8000 (environment.get? "LAUNCHER_HTTP_PORT")).2 ++
        (wholeOf "LAUNCHER_SLOW_THRESHOLD_MS" 1000
          (environment.get? "LAUNCHER_SLOW_THRESHOLD_MS")).2 := rfl
  rw [hload, List.mem_append, List.mem_append, mem_snd_transportOf_iff, mem_snd_wholeOf_iff,
    mem_snd_wholeOf_iff]
  constructor
  · rintro ((⟨text, htext, hne, hhttp, hstdio, rfl⟩ | ⟨text, htext, hread, rfl⟩) |
      ⟨text, htext, hread, rfl⟩)
    · exact .transport htext hne hhttp hstdio
    · exact .whole (by simp [wholeKeys]) htext hread
    · exact .whole (by simp [wholeKeys]) htext hread
  · rintro (⟨htext, hne, hhttp, hstdio⟩ | ⟨hkey, htext, hread⟩)
    · exact Or.inl (Or.inl ⟨_, htext, hne, hhttp, hstdio, rfl⟩)
    · simp only [wholeKeys, List.mem_cons, Prod.mk.injEq, List.not_mem_nil, or_false] at hkey
      rcases hkey with ⟨rfl, rfl⟩ | ⟨rfl, rfl⟩
      · exact Or.inl (Or.inr ⟨_, htext, hread, rfl⟩)
      · exact Or.inr ⟨_, htext, hread, rfl⟩

end Settings

namespace Server

/-! ## Creation -/

/-- The threshold of slow calls can be read, and is too large for a floating point number. -/
def HasHugeThreshold (environment : Environment) : Prop :=
  ∃ text n, environment.get? "LAUNCHER_SLOW_THRESHOLD_MS" = some text ∧
    Numeral.read? text = some n ∧ Binary64.wholeLimit ≤ n.natAbs

/-- A server is created when its threshold has a floating point number. -/
theorem outcome_create (settings : Settings) :
    (Binary64.wholeLimit ≤ settings.slowThresholdMs.natAbs ∧
      (create settings).outcome = .error .tooLarge) ∨
    (settings.slowThresholdMs.natAbs < Binary64.wholeLimit ∧
      ∃ server, (create settings).outcome = .ok server) := by
  rw [create]
  cases hthreshold : Binary64.ofInt? settings.slowThresholdMs with
  | none => exact Or.inl ⟨Binary64.ofInt?_eq_none_iff.mp hthreshold, rfl⟩
  | some threshold =>
    have hsmall := mt Binary64.ofInt?_eq_none_iff.mpr (by rw [hthreshold]; nofun)
    exact Or.inr ⟨Nat.not_le.mp hsmall, _, rfl⟩

theorem hasHugeThreshold_iff {environment : Environment} :
    HasHugeThreshold environment ↔
      Binary64.wholeLimit ≤ (Settings.load environment).1.slowThresholdMs.natAbs := by
  have hthreshold : (Settings.load environment).1.slowThresholdMs =
      ((environment.get? "LAUNCHER_SLOW_THRESHOLD_MS").bind Numeral.read?).getD 1000 :=
    Settings.fst_wholeOf _ _ _
  have hdefault : ¬Binary64.wholeLimit ≤ (1000 : Int).natAbs :=
    mt Binary64.ofInt?_eq_none_iff.mpr (by decide)
  rw [hthreshold, HasHugeThreshold]
  cases environment.get? "LAUNCHER_SLOW_THRESHOLD_MS" with
  | none =>
    refine iff_of_false ?_ hdefault
    rintro ⟨_, _, htext, -⟩
    cases htext
  | some text =>
    rw [Option.bind_some]
    cases hread : Numeral.read? text with
    | none =>
      refine iff_of_false ?_ hdefault
      rintro ⟨_, n, htext, hn, -⟩
      cases htext
      exact absurd (hn.symm.trans hread) nofun
    | some n =>
      constructor
      · rintro ⟨_, _, htext, hn, hlarge⟩
        cases htext
        cases hn.symm.trans hread
        exact hlarge
      · intro hlarge
        exact ⟨text, n, rfl, hread, hlarge⟩

/-- **The environments from which a server can be created.** Settings are loaded from every
environment: a transport that exists, the numbers that can be read and defaults for the others, with
a record for each fault. With these settings a server is created, unless their threshold is too
large for a floating point number. -/
theorem create_ofEnvironment (environment : Environment) :
    ∃ settings records, Settings.ofEnvironment environment = (settings, records) ∧
      (settings.transport = "http".toList ∨ settings.transport = "stdio".toList) ∧
      settings.httpPort =
        ((environment.get? "LAUNCHER_HTTP_PORT").bind Numeral.read?).getD 8000 ∧
      settings.slowThresholdMs =
        ((environment.get? "LAUNCHER_SLOW_THRESHOLD_MS").bind Numeral.read?).getD 1000 ∧
      (∀ record, record ∈ records ↔
        ∃ warning, Settings.IsFault environment warning ∧ warning.record = record) ∧
      ((∃ server, (create settings).outcome = .ok server) ↔ ¬HasHugeThreshold environment) ∧
      ((create settings).outcome = .error .tooLarge ↔ HasHugeThreshold environment) := by
  refine ⟨(Settings.load environment).1,
    (Settings.load environment).2.map SettingsWarning.record, rfl, Settings.fst_transportOf _,
    Settings.fst_wholeOf _ _ _, Settings.fst_wholeOf _ _ _, ?_, ?_⟩
  · intro record
    simp only [List.mem_map, Settings.mem_snd_load_iff]
  · rw [hasHugeThreshold_iff]
    rcases outcome_create (Settings.load environment).1 with
      ⟨hlarge, houtcome⟩ | ⟨hsmall, server, houtcome⟩
    · rw [houtcome]
      exact ⟨iff_of_false nofun (not_not_intro hlarge), iff_of_true rfl hlarge⟩
    · rw [houtcome]
      exact ⟨iff_of_true ⟨server, rfl⟩ (Nat.not_le.mpr hsmall),
        iff_of_false nofun (Nat.not_le.mpr hsmall)⟩

/-- From an environment with a threshold of four hundred digits no server is created, although the
threshold can be read. -/
theorem exists_not_created :
    ¬(∀ environment, ∃ server,
      (create (Settings.ofEnvironment environment).1).outcome = .ok server) ∧
    let environment : Environment :=
      ⟨[("LAUNCHER_SLOW_THRESHOLD_MS", Text.bytes ('1' :: List.replicate 400 '0'))]⟩
    (Settings.ofEnvironment environment).2 = [] ∧
      (create (Settings.ofEnvironment environment).1).outcome = .error .tooLarge := by
  let environment : Environment :=
    ⟨[("LAUNCHER_SLOW_THRESHOLD_MS", Text.bytes ('1' :: List.replicate 400 '0'))]⟩
  have hload : Settings.load environment = ({ slowThresholdMs := 10 ^ 400 }, []) := by
    decide +kernel
  have hloaded : Settings.ofEnvironment environment = ({ slowThresholdMs := 10 ^ 400 }, []) := by
    rw [Settings.ofEnvironment, hload]
    rfl
  have hthreshold : Binary64.ofInt? (10 ^ 400) = none := by decide +kernel
  have houtcome : (create (Settings.ofEnvironment environment).1).outcome = .error .tooLarge := by
    rw [hloaded, create, hthreshold]
    rfl
  refine ⟨fun h => ?_, ?_, houtcome⟩
  · obtain ⟨server, hserver⟩ := h environment
    cases houtcome.symm.trans hserver
  · rw [hloaded]

end Server
end LaunchKit
