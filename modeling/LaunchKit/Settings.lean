import LaunchKit.Environment
import LaunchKit.Text.Case

/-!
# Settings

The settings of the server come from environment variables, each field from its own. A missing
variable leaves the default; so does one that cannot be read, with a warning. Settings are loaded
when they are first asked for and then kept.

## Main definitions

* `Settings`: the settings, with their defaults.
* `SettingsWarning`: what was wrong with a variable.
* `Settings.load`: the settings of an environment, with the warnings.
* `SettingsCache`: the settings that were loaded or injected.
-/
namespace LaunchKit

/-- The settings of the server. -/
structure Settings where
  transport : Text := "http"
  httpHost : Text := "0.0.0.0"
  httpPort : Int := 8000
  logLevel : Text := "INFO"
  logColors : Bool := true
  logPayloads : Bool := false
  slowThresholdMs : Int := 1000
  includeTraceback : Bool := false
  lowercasePaths : Bool := true
  deriving DecidableEq, Repr

/-- A variable that was set to something of no use. -/
inductive SettingsWarning where
  | unknownTransport (transport : Text)
  | notWhole (key value : Text) (default : Int)
  deriving DecidableEq, Repr

/-- The wording of a warning. -/
def SettingsWarning.message : SettingsWarning → Text
  | .unknownTransport transport =>
    "Unknown transport " ++ Text.quoted transport ++ ", using http".toList
  | .notWhole key value default =>
    "Invalid int for " ++ key ++ ": ".toList ++ value ++ ", using default ".toList ++
      Numeral.ofInt default

/-- The record of a warning. -/
def SettingsWarning.record (warning : SettingsWarning) : Record :=
  .saying .warning .settings warning.message

namespace Settings

/-! ## Single fields -/

/-- The transport that a variable names, in either case: `http` or `stdio`. -/
def transportOf (value : Option Text) : Text × List SettingsWarning :=
  let transport := Text.lower (value.getD [])
  if transport = "http".toList ∨ transport = "stdio".toList then (transport, [])
  else ("http", if transport.isEmpty then [] else [.unknownTransport transport])

/-- The number that a variable holds. -/
def wholeOf (key : Text) (default : Int) (value : Option Text) : Int × List SettingsWarning :=
  match value with
  | none => (default, [])
  | some value =>
    match Numeral.read? value with
    | some n => (n, [])
    | none => (default, [.notWhole key value default])

/-- The spellings of true, in either case. All else is false. -/
def trueSpellings : List Text := ["1", "true", "yes", "on"].map String.toList

/-- The truth value that a variable holds. -/
def flagOf (default : Bool) (value : Option Text) : Bool :=
  match value with
  | none => default
  | some value => trueSpellings.contains (Text.lower value)

/-! ## All fields -/

/-- The settings that an environment asks for, and what was wrong with it. -/
def load (environment : Environment) : Settings × List SettingsWarning :=
  let defaults : Settings := {}
  let get (key : String) := environment.get? key.toList
  let (transport, transportWarnings) := transportOf (get "LAUNCHER_TRANSPORT")
  let (port, portWarnings) :=
    wholeOf "LAUNCHER_HTTP_PORT" defaults.httpPort (get "LAUNCHER_HTTP_PORT")
  let (threshold, thresholdWarnings) :=
    wholeOf "LAUNCHER_SLOW_THRESHOLD_MS" defaults.slowThresholdMs (get "LAUNCHER_SLOW_THRESHOLD_MS")
  ({ transport
     httpHost := (get "LAUNCHER_HTTP_HOST").getD defaults.httpHost
     httpPort := port
     logLevel := Text.upper ((get "LAUNCHER_LOG_LEVEL").getD defaults.logLevel)
     logColors := flagOf defaults.logColors (get "LAUNCHER_LOG_COLORS")
     logPayloads := flagOf defaults.logPayloads (get "LAUNCHER_LOG_PAYLOADS")
     slowThresholdMs := threshold
     includeTraceback := flagOf defaults.includeTraceback (get "LAUNCHER_INCLUDE_TRACEBACK")
     lowercasePaths := flagOf defaults.lowercasePaths (get "LAUNCHER_LOWERCASE_PATHS") },
    transportWarnings ++ portWarnings ++ thresholdWarnings)

/-- The settings of an environment, with the records of the warnings. -/
def ofEnvironment (environment : Environment) : Settings × List Record :=
  let (settings, warnings) := load environment
  (settings, warnings.map SettingsWarning.record)

end Settings

/-! ## The cache -/

/-- The settings in use, if any were loaded or injected. -/
abbrev SettingsCache := Option Settings

namespace SettingsCache

/-- The settings in use, loaded from the environment if there are none, with the records of that
and the cache that holds them. -/
def fetch (cache : SettingsCache) (environment : Environment) :
    Settings × List Record × SettingsCache :=
  match cache with
  | some settings => (settings, [], cache)
  | none =>
    let (settings, records) := Settings.ofEnvironment environment
    (settings, records, some settings)

end SettingsCache
end LaunchKit
