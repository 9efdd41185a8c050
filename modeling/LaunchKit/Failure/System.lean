import LaunchKit.Failure.Basic
import LaunchKit.Text.Raw

/-!
# Failures of the operating system

A failure of the operating system carries a code and a reason, and its kind follows from the code.
It may be about a file, or about one file and another.

## Main definitions

* `systemKindName`: the kind of a code.
* `Failure.ofSystem`: the failure with a code and a reason.
* `Failure.describe`: the code and the reason of a failure in short.
-/
namespace LaunchKit

/-! ## Kinds -/

/-- The kinds of system failure with codes of their own. -/
def systemKinds : List (Int × String) :=
  [(1, "PermissionError"), (2, "FileNotFoundError"), (3, "ProcessLookupError"),
    (4, "InterruptedError"), (10, "ChildProcessError"), (11, "BlockingIOError"),
    (13, "PermissionError"), (17, "FileExistsError"), (20, "NotADirectoryError"),
    (21, "IsADirectoryError"), (32, "BrokenPipeError"), (103, "ConnectionAbortedError"),
    (104, "ConnectionResetError"), (108, "BrokenPipeError"), (110, "TimeoutError"),
    (111, "ConnectionRefusedError"), (114, "BlockingIOError"), (115, "BlockingIOError")]

/-- The names of the general kind of system failure. -/
def generalSystemNames : List Text :=
  ["OSError", "IOError", "EnvironmentError"].map String.toList

/-- Whether a name stands for a kind of system failure. -/
def isSystemName (name : Text) : Bool :=
  generalSystemNames.contains name || name = "ConnectionError".toList ||
    systemKinds.any fun entry => entry.2.toList == name

/-- A code that is a whole number, truth values counting as zero and one. -/
def wholeCode? : Value → Option Int
  | .int n => some n
  | .bool b => some (if b then 1 else 0)
  | _ => none

/-- The kind of a system failure of a named kind with a code: the general kind becomes the one that
the code has. -/
def systemKindName (name : Text) (code : Value) : Text :=
  if generalSystemNames.contains name then
    let special := (wholeCode? code).bind fun code =>
      (systemKinds.find? fun entry => entry.1 == code).map (·.2.toList)
    special.getD "OSError"
  else name

/-! ## Failures -/

/-- The files that a system failure is about: none, one, or one and another. -/
inductive SystemFiles where
  | none
  | one (file : Value)
  | pair (file target : Value)

variable [Room]

/-- What a system failure with a code says. -/
def systemText (code reason : Value) (files : SystemFiles) : Except RenderError Text := do
  let opening := "[Errno " ++ (← code.display) ++ "] ".toList ++ (← reason.display)
  match files with
  | .none => return opening
  | .one file => return opening ++ ": ".toList ++ (← file.literal)
  | .pair file target =>
    return opening ++ ": ".toList ++ (← file.literal) ++ " -> ".toList ++ (← target.literal)

namespace Failure

/-- The system failure of a named kind with a code and a reason. -/
def ofDetail (name : Text) (code reason : Value) (files : SystemFiles) : Failure :=
  { kind := .named (systemKindName name code)
    text := systemText code reason files
    system := some ⟨code, reason⟩ }

/-- The failure that the system reports by a code, in its wording, about a file if there is one. -/
def ofSystem (code : Nat) (reason : Text) (file : Option RawText) : Failure :=
  { kind := .named (systemKindName "OSError" (.int code))
    text := .ok ("[Errno " ++ Numeral.ofNat code ++ "] ".toList ++ reason ++
      (file.elim [] fun file => ": ".toList ++ file.quoted))
    system := some ⟨.int code, .text reason⟩ }

/-- The failure of asking a failure for a detail that only failures of the system have. -/
def lacking (failure : Failure) (detail : String) : Failure :=
  .noDetail failure.kind.name detail

/-- The code that is told of a failure: the one of the foreign system when there is one. -/
def shownCode (failure : Failure) (detail : SystemDetail) : Value :=
  if failure.foreignCode ≠ 0 then .int failure.foreignCode
  else if detail.code.isPresent then detail.code
  else .int 0

/-- A failure in short: its code and its reason or, failing that, all that it says. Other failures
than those of the system have no reason, and without a foreign code no code. -/
def describe (failure : Failure) : Except Failure Text :=
  match failure.system with
  | none => .error (failure.lacking (if failure.foreignCode = 0 then "errno" else "strerror"))
  | some detail => Except.mapError RenderError.toFailure do
    let reason ← if detail.reason.isPresent then pure detail.reason else .text <$> failure.text
    let code ← (failure.shownCode detail).display
    return "(error: " ++ code ++ "): ".toList ++ (← reason.display)

example : (ofSystem 2 "gone" (some "f".toList)).told =
    (.fault "FileNotFoundError".toList, "[Errno 2] gone: 'f'".toList) := by
  decide +kernel

end Failure
end LaunchKit
