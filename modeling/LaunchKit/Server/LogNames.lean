import LaunchKit.Failure.Basic
import LaunchKit.Text.Quoted

/-!
# Names of the log

The level from which records count is set by name, and the log looks among everything that it has
under a name. Most of that is no level. Some of it is a text, which is refused as an unknown level;
the rest is refused by what shows it. A switch, however, is a number. What the texts are and what
shows the rest depends on the edition of the log, so that only their names stand here.

## Main definitions

* `Threshold`: the level from which records count.
* `LogName`: what the log has under a name.
* `LogName.find?`: what stands under a name, if anything.
-/
namespace LaunchKit

/-- The level from which records count: a number, or a switch that serves as one. -/
inductive Threshold where
  | number (n : Int)
  | switch (isOn : Bool)
  deriving DecidableEq, Repr

/-- The number of a threshold. A switch is one or zero. -/
def Threshold.toInt : Threshold → Int
  | .number n => n
  | .switch isOn => if isOn then 1 else 0

/-- What is no level, by its name: a text, or another part of the log. -/
inductive NoLevel where
  | label (name : Text)
  | part (name : Text)
  deriving DecidableEq, Repr

/-- The refusal of what is no level, given the texts and what shows the other parts. -/
def NoLevel.toFailure (shown : Text → Text) : NoLevel → Failure
  | .label name => .saying .badValue ("Unknown level: " ++ Text.quoted (shown name))
  | .part name => .saying .badType ("Level not an integer or a valid string: " ++ shown name)

/-- What the log has under a name. -/
inductive LogName where
  | level (threshold : Threshold)
  | other (noLevel : NoLevel)
  deriving DecidableEq, Repr

namespace LogName

/-! ## Levels -/

/-- The levels by name. -/
def levels : List (String × Int) :=
  [("CRITICAL", 50), ("FATAL", 50), ("ERROR", 40), ("WARN", 30), ("WARNING", 30), ("INFO", 20),
    ("DEBUG", 10), ("NOTSET", 0)]

/-- The switches, all of which are on. -/
def switches : List String :=
  ["raiseExceptions", "logThreads", "logMultiprocessing", "logProcesses"]

/-! ## What is no level -/

/-- The texts: the layout of records, and what the log says of itself. -/
def labels : List String :=
  ["BASIC_FORMAT", "__name__", "__package__", "__version__", "__status__", "__date__",
    "__author__", "__doc__", "__file__", "_srcfile", "__cached__"]

/-- The classes that are shown by their own name. -/
def classes : List String :=
  ["BufferingFormatter", "FileHandler", "Filter", "Filterer", "Formatter", "Handler", "LogRecord",
    "Logger", "LoggerAdapter", "Manager", "NullHandler", "PercentStyle", "PlaceHolder",
    "RootLogger", "StrFormatStyle", "StreamHandler", "StringTemplateStyle", "_StderrHandler"]

/-- The functions. -/
def functions : List String :=
  ["addLevelName", "basicConfig", "captureWarnings", "critical", "currentframe", "debug", "disable",
    "error", "exception", "fatal", "getLevelName", "getLevelNamesMapping", "getLogRecordFactory",
    "getLogger", "getLoggerClass", "info", "log", "makeLogRecord", "setLogRecordFactory",
    "setLoggerClass", "shutdown", "warn", "warning", "_acquireLock", "_addHandlerRef",
    "_after_at_fork_child_reinit_locks", "_checkLevel", "_is_internal_frame",
    "_register_at_fork_reinit_lock", "_releaseLock", "_removeHandlerRef", "_showwarning"]

/-- The functions that every part of a program has. -/
def generalFunctions : List String :=
  ["__dir__", "__format__", "__getstate__", "__reduce__", "__reduce_ex__", "__sizeof__"]

/-- The operators that every part of a program has. -/
def operators : List String :=
  ["__delattr__", "__eq__", "__ge__", "__getattribute__", "__gt__", "__hash__", "__init__",
    "__le__", "__lt__", "__ne__", "__repr__", "__setattr__", "__str__"]

/-- The functions of the class of every part of a program. -/
def classFunctions : List String := ["__init_subclass__", "__new__", "__subclasshook__"]

/-- The parts of a program that the log uses or consists of. -/
def modules : List String :=
  ["collections", "re", "threading", "traceback", "warnings", "weakref", "config", "handlers",
    "atexit", "sys", "time", "io", "os"]

/-- The tables, and the parts that are shown in ways of their own. -/
def otherParts : List String :=
  ["_STYLES", "_nameToLevel", "_levelToName", "__all__", "__annotations__",
    "_warnings_showwarning", "root", "lastResort", "_defaultLastResort", "_loggerClass",
    "_logRecordFactory", "GenericAlias", "Template", "__class__", "__builtins__", "__dict__",
    "__loader__", "__path__", "__spec__", "_at_fork_reinit_lock_weakset", "_defaultFormatter",
    "_handlerList", "_handlers", "_lock", "_startTime", "_str_formatter"]

/-- All parts that are neither levels nor texts. -/
def parts : List String :=
  classes ++ functions ++ generalFunctions ++ operators ++ classFunctions ++ modules ++ otherParts

/-! ## All names -/

/-- Everything that the log has under a name. -/
def all : List (String × LogName) :=
  levels.map (fun level => (level.1, .level (.number level.2))) ++
    switches.map (fun name => (name, .level (.switch true))) ++
    labels.map (fun name => (name, .other (.label name.toList))) ++
    parts.map (fun name => (name, .other (.part name.toList)))

/-- What the log has under a name, if anything. -/
def find? (name : Text) : Option LogName :=
  (all.find? fun entry => entry.1.toList == name).map Prod.snd

example : find? "WARN" = some (.level (.number 30)) := by decide +kernel
example : find? "warn" = some (.other (.part "warn".toList)) := by decide +kernel

end LogName
end LaunchKit
