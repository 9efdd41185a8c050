import LaunchKit.Text.Basic

/-!
# Kinds of failures

Three kinds of failure are *rejections*, the fault of the input and expected; *signals* end a task
and are nobody's fault, so that no handler looks at them; all others are *faults*.

## Main definitions

* `Kind`: the kinds.
* `Kind.named`, `Kind.name`: the kind of a name, and the name of a kind.
* `Kind.qualifiedName`: the name with the place where the kind is defined.
-/
namespace LaunchKit

/-- The failures that the library blames on its input. -/
inductive Rejection where
  | general
  | inputMismatch
  | pathConversion
  deriving DecidableEq, Repr

/-- The kinds of failure. -/
inductive Kind where
  | rejection (r : Rejection)
  | unknownTool
  | signal (name : Text)
  | fault (name : Text)
  deriving DecidableEq, Repr

namespace Kind

/-- The names of the signals that are known by name. -/
def signalNames : List Text :=
  ["SystemExit", "KeyboardInterrupt", "GeneratorExit", "CancelledError", "BaseException"].map
    String.toList

/-- The kind of a name. -/
def named (name : Text) : Kind :=
  if name = "LauncherError".toList then .rejection .general
  else if name = "InputMismatchError".toList then .rejection .inputMismatch
  else if name = "PathConversionError".toList then .rejection .pathConversion
  else if name = "NotFoundError".toList then .unknownTool
  else if name ∈ signalNames then .signal name
  else .fault name

/-- The name of a kind. -/
def name : Kind → Text
  | .rejection .general => "LauncherError"
  | .rejection .inputMismatch => "InputMismatchError"
  | .rejection .pathConversion => "PathConversionError"
  | .unknownTool => "NotFoundError"
  | .signal name => name
  | .fault name => name

/-- The name of a kind with the place where it is defined; general kinds have none. -/
def qualifiedName (kind : Kind) : Text :=
  match kind with
  | .rejection _ => "launcher_mcp.utils.diagnostics." ++ kind.name
  | .unknownTool => "fastmcp.exceptions." ++ kind.name
  | .signal name => if name = "CancelledError".toList then "asyncio.exceptions." ++ name else name
  | .fault name => name

/-- Whether handlers let the failure pass without looking at it. -/
def isSignal : Kind → Bool
  | .signal _ => true
  | _ => false

/-- Whether the input is to blame. -/
def isRejection : Kind → Bool
  | .rejection _ => true
  | _ => false

/-! Kinds of which the library raises failures itself. -/

/-- A value that is refused. -/
abbrev badValue : Kind := .fault "ValueError".toList

/-- A value of an unsuitable class. -/
abbrev badType : Kind := .fault "TypeError".toList

/-- A number out of range. -/
abbrev outOfRange : Kind := .fault "OverflowError".toList

/-- A key that is missing. -/
abbrev missingKey : Kind := .fault "KeyError".toList

/-- A place behind the end of a sequence. -/
abbrev missingPlace : Kind := .fault "IndexError".toList

/-- A detail that a value does not have. -/
abbrev missingDetail : Kind := .fault "AttributeError".toList

/-- A nesting that is too deep. -/
abbrev tooDeep : Kind := .fault "RecursionError".toList

/-- A text that is too long for the memory. -/
abbrev outOfMemory : Kind := .fault "MemoryError".toList

/-- The end of an iteration. -/
abbrev iterationEnd : Kind := .fault "StopIteration".toList

/-- A fault of the program. -/
abbrev programFault : Kind := .fault "RuntimeError".toList

/-- The end of a program. -/
abbrev programEnd : Kind := .signal "SystemExit".toList

end Kind
end LaunchKit
