import LaunchKit.CommandLine.Style
import LaunchKit.Diagnostics
import LaunchKit.Path.Convert
import LaunchKit.Path.Parts
import LaunchKit.Path.Relative
import LaunchKit.Settings

/-!
# Tools

The four tools that clients call. Each answers with a text, and bad input is answered in words
rather than by a failure: the client is a program that reads the answer. Only the tool for relative
paths does more than answer. It may load the settings, it tells the error stream of paths that do
not belong together, and it logs what it found.

## Main definitions

* `Tools.escapeArgument`, `Tools.commandLine`, `Tools.binaryPath`: answers that depend on the
  arguments alone.
* `Tools.relatePaths`: the answer about two converted paths.
* `Tools.relativePath`: the tool for relative paths.
-/
namespace LaunchKit.Tools

/-- An answer that tells of an error. -/
def errorAnswer (message : Text) : Text := "Error: " ++ message

/-- One argument in a style. -/
def escapeArgument (argument style : Text) : Text :=
  match Style.named style with
  | .ok style => style.escape argument
  | .error unknown =>
    errorAnswer ("Unknown style " ++ Text.quoted unknown.name ++ ", expected one of: ".toList ++
      List.intercalate ", ".toList (Style.all.map Style.name))

/-- A command line in a style. -/
def commandLine (arguments : List Text) (style : Text) : Text :=
  match Style.named style with
  | .ok style => style.commandLine arguments
  | .error unknown => errorAnswer unknown.message

/-- The path of a program with its extension, or without. -/
def binaryPath (binary : Text) (withExtension : Bool) : Text :=
  if withExtension then Path.withExe binary else Path.withoutExe binary

/-! ## Relative paths -/

/-- The record of a way that was found. -/
def foundRecord (path base way : Text) : Record :=
  .saying .debug .tools
    ("Relative path from " ++ base ++ " to ".toList ++ path ++ ": ".toList ++ Text.quoted way)

/-- The way from a base to a path, as they are. -/
def relatePaths (path base : Text) : Report Text :=
  match Path.relative path base with
  | .ok way => (Report.ofResult way).after [foundRecord path base way]
  | .error mismatch => ⟨.ok (errorAnswer mismatch.message), [], Diagnostics.line mismatch.message⟩

/-- Both paths in Windows form; the path is looked at first. -/
def convertBoth (fold : Bool) (path base : Text) : Except PathError (Text × Text) := do
  let convert := if fold then Path.convertFolded else Path.convert
  return (← convert path, ← convert base)

/-- The way from a base to a path, after conversion of both. -/
def relateConverted (fold : Bool) (path base : Text) : Report Text :=
  match convertBoth fold path base with
  | .ok (path, base) => relatePaths path base
  | .error error => .ofResult (errorAnswer error.message)

/-- The tool for relative paths. Only a conversion asks for the settings, which say whether case is
folded. -/
def relativePath (environment : Environment) (path base : Text) (normalize : Bool)
    (cache : SettingsCache) : Report Text × SettingsCache :=
  if normalize then
    let (settings, records, cache) := cache.fetch environment
    ((relateConverted settings.lowercasePaths path base).after records, cache)
  else (relatePaths path base, cache)

example : escapeArgument "x" "q" =
    "Error: Unknown style 'q', expected one of: windows, bash".toList := by decide

end LaunchKit.Tools
