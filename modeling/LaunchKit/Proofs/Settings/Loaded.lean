import LaunchKit.Proofs.Number.ReadBack
import LaunchKit.Proofs.Server.Creation
import LaunchKit.Proofs.Text.Recased
import LaunchKit.Session

/-!
# Settings that are loaded

Settings are loaded from every environment. Each field has a variable of its own, which alone
determines it, and each warning is about the value of one variable: so a variable that is set,
changed or erased touches its own field and its own warning, if it has them, and nothing else.
Whole numbers are read back from their decimal form, also within blanks that are no information
separators.

## Main definitions

* `Settings.Field`, `Settings.Field.key`: the fields and their variables.
* `Settings.Field.Agrees`: settings that are the same in a field.
* `Settings.Field.fault?`: what is wrong with a value of a variable.
* `Settings.faults`: what is wrong with the variables of an environment, in order.
* `Settings.IsLoaded`: what holds of the settings and the warnings of an environment.

## Main statements

* `Settings.agrees_load`: a field is determined by its variable.
* `Settings.snd_load`: all warnings.
* `Settings.load_fields`: the settings and the warnings of an environment.
* `Settings.exists_not_read_back`: a number within blanks that is not read.
-/
namespace LaunchKit

/-- The variable that a warning is about. -/
def SettingsWarning.key : SettingsWarning → Text
  | .unknownTransport _ => "LAUNCHER_TRANSPORT"
  | .notWhole key _ _ => key

namespace Settings

/-! ## Faults -/

/-- What is wrong with a transport: it is there, and it is neither `http` nor `stdio` in any case of
their letters. -/
def transportFault? (value : Text) : Option SettingsWarning :=
  if value = [] ∨ Text.IsCaseVariant "http" value ∨ Text.IsCaseVariant "stdio" value then none
  else some (.unknownTransport (Text.lower value))

/-- What is wrong with a whole number: it cannot be read. -/
def wholeFault? (key : Text) (default : Int) (value : Text) : Option SettingsWarning :=
  if Numeral.read? value = none then some (.notWhole key value default) else none

theorem snd_transportOf (value : Option Text) :
    (transportOf value).2 = (value.bind transportFault?).toList := by
  have hhttp (text : Text) : Text.lower text = "http".toList ↔ Text.IsCaseVariant "http" text :=
    Text.lowerAfter_eq_iff_isCaseVariant (by decide)
  have hstdio (text : Text) : Text.lower text = "stdio".toList ↔ Text.IsCaseVariant "stdio" text :=
    Text.lowerAfter_eq_iff_isCaseVariant (by decide)
  rw [transportOf]
  cases value with
  | none => rfl
  | some text =>
    have hempty : (Text.lower text).isEmpty = true ↔ text = [] :=
      List.isEmpty_iff.trans Text.lowerAfter_eq_nil_iff
    simp only [Option.getD_some, Option.bind_some, transportFault?, hhttp, hstdio, hempty]
    by_cases hknown : Text.IsCaseVariant "http" text ∨ Text.IsCaseVariant "stdio" text
    · rw [if_pos hknown, if_pos (Or.inr hknown)]
      rfl
    · rw [if_neg hknown]
      by_cases htext : text = []
      · rw [if_pos htext, if_pos (Or.inl htext)]
        rfl
      · rw [if_neg htext, if_neg fun h => hknown (h.resolve_left htext)]
        rfl

theorem snd_wholeOf (key : Text) (default : Int) (value : Option Text) :
    (wholeOf key default value).2 = (value.bind (wholeFault? key default)).toList := by
  cases value with
  | none => rfl
  | some text =>
    rw [wholeOf, Option.bind_some, wholeFault?]
    cases Numeral.read? text <;> rfl

/-! ## Fields -/

/-- The fields of the settings. -/
inductive Field where
  | transport
  | httpHost
  | httpPort
  | logLevel
  | logColors
  | logPayloads
  | slowThresholdMs
  | includeTraceback
  | lowercasePaths
  deriving DecidableEq, Repr

namespace Field

/-- The variable of a field. -/
def key : Field → Text
  | transport => "LAUNCHER_TRANSPORT"
  | httpHost => "LAUNCHER_HTTP_HOST"
  | httpPort => "LAUNCHER_HTTP_PORT"
  | logLevel => "LAUNCHER_LOG_LEVEL"
  | logColors => "LAUNCHER_LOG_COLORS"
  | logPayloads => "LAUNCHER_LOG_PAYLOADS"
  | slowThresholdMs => "LAUNCHER_SLOW_THRESHOLD_MS"
  | includeTraceback => "LAUNCHER_INCLUDE_TRACEBACK"
  | lowercasePaths => "LAUNCHER_LOWERCASE_PATHS"

/-- Settings that are the same in a field. -/
def Agrees (first second : Settings) : Field → Prop
  | transport => first.transport = second.transport
  | httpHost => first.httpHost = second.httpHost
  | httpPort => first.httpPort = second.httpPort
  | logLevel => first.logLevel = second.logLevel
  | logColors => first.logColors = second.logColors
  | logPayloads => first.logPayloads = second.logPayloads
  | slowThresholdMs => first.slowThresholdMs = second.slowThresholdMs
  | includeTraceback => first.includeTraceback = second.includeTraceback
  | lowercasePaths => first.lowercasePaths = second.lowercasePaths

/-- The whole number in a field, if the field holds one. -/
def whole? (settings : Settings) : Field → Option Int
  | httpPort => some settings.httpPort
  | slowThresholdMs => some settings.slowThresholdMs
  | _ => none

/-- What is wrong with a value of the variable of a field. -/
def fault? : Field → Text → Option SettingsWarning
  | transport, value => transportFault? value
  | field, value => (field.whole? {}).bind fun default => wholeFault? field.key default value

/-- What is wrong with a value is about the variable of the field. -/
theorem key_of_fault? {field : Field} {value : Text} {warning : SettingsWarning}
    (h : field.fault? value = some warning) : warning.key = field.key := by
  cases field with
  | transport =>
    obtain ⟨-, heq⟩ := Option.ite_none_left_eq_some.mp h
    cases heq
    rfl
  | httpPort | slowThresholdMs =>
    obtain ⟨-, heq⟩ := Option.ite_none_right_eq_some.mp h
    cases heq
    rfl
  | _ => cases h

/-- What is wrong with the variable of a field in an environment. -/
def faultIn? (environment : Environment) (field : Field) : Option SettingsWarning :=
  (environment.get? field.key).bind field.fault?

end Field

/-! ## Settings and warnings -/

/-- What is wrong with the variables of an environment, in the order in which they are read. -/
def faults (environment : Environment) : List SettingsWarning :=
  [Field.transport, .httpPort, .slowThresholdMs].filterMap (Field.faultIn? environment)

/-- **A field is determined by its variable.** -/
theorem agrees_load {first second : Environment} {field : Field}
    (h : first.get? field.key = second.get? field.key) :
    field.Agrees (load first).1 (load second).1 := by
  cases field with
  | transport => exact congrArg (fun value => (transportOf value).1) h
  | httpHost => exact congrArg (Option.getD · _) h
  | httpPort => exact congrArg (fun value => (wholeOf _ _ value).1) h
  | logLevel => exact congrArg (fun value => Text.upper (Option.getD value _)) h
  | slowThresholdMs => exact congrArg (fun value => (wholeOf _ _ value).1) h
  | logColors | logPayloads | includeTraceback | lowercasePaths => exact congrArg (flagOf _) h

/-- **All warnings** are what is wrong with the variables. -/
theorem snd_load (environment : Environment) : (load environment).2 = faults environment := by
  have hload : (load environment).2 =
      (transportOf (environment.get? Field.transport.key)).2 ++
        (wholeOf Field.httpPort.key 8000 (environment.get? Field.httpPort.key)).2 ++
        (wholeOf Field.slowThresholdMs.key 1000
          (environment.get? Field.slowThresholdMs.key)).2 := rfl
  have htoList (field : Field) (rest : List Field) :
      (field :: rest).filterMap (Field.faultIn? environment) =
        (field.faultIn? environment).toList ++ rest.filterMap (Field.faultIn? environment) := by
    rw [List.filterMap_cons]
    cases field.faultIn? environment <;> rfl
  rw [hload, snd_transportOf, snd_wholeOf, snd_wholeOf, faults, htoList, htoList, htoList,
    List.filterMap_nil, List.append_nil, List.append_assoc]
  rfl

/-- A variable touches no warning but those about it. -/
theorem filter_faults {first second : Environment} {name : Text}
    (h : ∀ key, key ≠ name → first.get? key = second.get? key) :
    (faults first).filter (·.key ≠ name) = (faults second).filter (·.key ≠ name) := by
  have hfield (field : Field) : (field.faultIn? first).filter (·.key ≠ name) =
      (field.faultIn? second).filter (·.key ≠ name) := by
    by_cases hname : field.key = name
    · have hnone (environment : Environment) :
          (field.faultIn? environment).filter (·.key ≠ name) = none := by
        rw [Option.filter_eq_none_iff]
        intro warning hwarning
        obtain ⟨value, -, hfault⟩ := Option.bind_eq_some_iff.mp hwarning
        simp [Field.key_of_fault? hfault, hname]
      rw [hnone, hnone]
    · rw [Field.faultIn?, Field.faultIn?, h field.key hname]
  rw [faults, faults, List.filter_filterMap, List.filter_filterMap]
  exact congrArg (List.filterMap · _) (funext hfield)

/-- A field that holds a whole number holds the one that can be read, or else its default. -/
theorem whole?_load {field : Field} {default : Int} (h : field.whole? {} = some default)
    (environment : Environment) :
    field.whole? (load environment).1 =
      some (((environment.get? field.key).bind Numeral.read?).getD default) := by
  cases field with
  | httpPort | slowThresholdMs =>
    cases h
    exact congrArg some (fst_wholeOf _ _ _)
  | _ => cases h

/-! ## All fields -/

/-- What holds of the settings and the warnings of an environment. -/
structure IsLoaded (environment : Environment) (settings : Settings)
    (warnings : List SettingsWarning) : Prop where
  /-- The transport exists. -/
  transport : settings.transport = "http".toList ∨ settings.transport = "stdio".toList
  /-- A field is determined by its variable. -/
  determined : ∀ (field : Field) (other : Environment),
    environment.get? field.key = other.get? field.key → field.Agrees settings (load other).1
  /-- One variable touches its own field and the warnings about it. -/
  touched : ∀ (name : Text) (other : Environment),
    (∀ key, key ≠ name → environment.get? key = other.get? key) →
      (∀ field : Field, field.key ≠ name → field.Agrees settings (load other).1) ∧
      warnings.filter (·.key ≠ name) = (load other).2.filter (·.key ≠ name)
  /-- The warnings are what is wrong, in order. -/
  warned : warnings = faults environment
  /-- Whole numbers that cannot be read are replaced by a default. -/
  whole : ∀ (field : Field) (default : Int), field.whole? {} = some default →
    field.whole? settings = some (((environment.get? field.key).bind Numeral.read?).getD default)
  /-- A whole number within the limit is read back from its decimal form within blanks, unless an
  information separator is among them. -/
  readBack : ∀ (field : Field) (default : Int), field.whole? {} = some default →
    ∀ (n : Int) (before behind : Text), (Numeral.ofNat n.natAbs).length ≤ Numeral.digitLimit →
      (before ++ behind).all Text.isBlank = true →
        environment.get? field.key = some (before ++ Numeral.ofInt n ++ behind) →
          field.whole? settings =
            some (if (before ++ behind).any Text.isSeparator then default else n)

/-- Loading always answers, and changes nothing. -/
theorem loadSettings_nil (session : Session) :
    session.loadSettings [] =
      (⟨.ok (load session.environment).1,
        ((load session.environment).2.map SettingsWarning.record).filter session.log.shows, []⟩,
        session) := by
  have hrun : session.loadSettings [] =
      (session.log.filter ((Report.ofResult (load session.environment).1).after
        ((load session.environment).2.map SettingsWarning.record)), session) := rfl
  rw [hrun, LogSetup.filter, Report.records_after, Report.ofResult, List.append_nil]
  rfl

/-- **The settings of an environment** are always loaded, with a record for each warning. -/
theorem load_fields (session : Session) :
    ∃ settings warnings, IsLoaded session.environment settings warnings ∧
      session.loadSettings [] =
        (⟨.ok settings, (warnings.map SettingsWarning.record).filter session.log.shows, []⟩,
          session) := by
  refine ⟨(load session.environment).1, (load session.environment).2, ?_, loadSettings_nil session⟩
  constructor
  case transport => exact fst_transportOf _
  case determined => exact fun _ _ => agrees_load
  case touched =>
    intro name other h
    refine ⟨fun field hfield => agrees_load (h field.key hfield), ?_⟩
    rw [snd_load, snd_load]
    exact filter_faults h
  case warned => exact snd_load _
  case whole => exact fun _ _ hfield => whole?_load hfield _
  case readBack =>
    intro field default hfield n before behind hdigits hblank hget
    rw [whole?_load hfield, hget, Option.bind_some, Numeral.read?_ofInt_append hdigits hblank]
    split <;> rfl

/-- A port within blanks is read back, and it is said of the transport that it does not exist. -/
theorem load_fields_port :
    let session : Session :=
      { environment :=
          ⟨[("LAUNCHER_HTTP_PORT", " -42\n"), ("LAUNCHER_TRANSPORT", "Pipe")]⟩ }
    ∃ settings warnings, IsLoaded session.environment settings warnings ∧
      (session.loadSettings []).1.outcome = .ok settings ∧ settings.httpPort = -42 ∧
      warnings = [.unknownTransport "pipe"] := by
  intro session
  obtain ⟨settings, warnings, hloaded, hsession⟩ := load_fields session
  refine ⟨settings, warnings, hloaded, congrArg (fun answer => answer.1.outcome) hsession, ?_, ?_⟩
  · have hport := hloaded.readBack .httpPort 8000 rfl (-42) " " "\n" (by decide) (by decide) rfl
    exact Option.some.inj hport
  · rw [hloaded.warned]
    decide +kernel

/-- A port with an information separator in front of it is not read back: the default stands in its
place, and a warning says so. -/
theorem exists_not_read_back :
    ¬(∀ (environment : Environment) (n : Int) (before behind : Text),
      (Numeral.ofNat n.natAbs).length ≤ Numeral.digitLimit →
        (before ++ behind).all Text.isBlank = true →
          environment.get? "LAUNCHER_HTTP_PORT" = some (before ++ Numeral.ofInt n ++ behind) →
            (load environment).1.httpPort = n) ∧
    load ⟨[("LAUNCHER_HTTP_PORT", "\x1c5")]⟩ =
      ({}, [.notWhole "LAUNCHER_HTTP_PORT" "\x1c5" 8000]) := by
  have hload : load ⟨[("LAUNCHER_HTTP_PORT", "\x1c5")]⟩ =
      ({}, [.notWhole "LAUNCHER_HTTP_PORT" "\x1c5" 8000]) := by
    decide +kernel
  refine ⟨fun h => ?_, hload⟩
  have hport := h ⟨[("LAUNCHER_HTTP_PORT", "\x1c5")]⟩ 5 "\x1c" [] (by decide) (by decide) rfl
  rw [hload] at hport
  exact absurd hport (by decide)

end Settings
end LaunchKit
