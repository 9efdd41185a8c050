import LaunchKit.Console.Paint
import LaunchKit.Text.Blank
import LaunchKit.Text.DecimalDigit

/-!
# Highlighted messages

Three things stand out in a message: the marker of an event at its beginning, every duration, and
every path that begins with a drive. They are painted one after the other, each in the text that
the one before has left, control sequences included.

## Main definitions

* `Console.paintMarker`, `Console.paintDurations`, `Console.paintDrivePaths`: the three steps.
* `Console.highlight`: all of them.
-/
namespace LaunchKit.Console

/-! ## Markers -/

/-- The markers of events: a call begins, it ends well, it fails. -/
def markers : List (String × Paint) :=
  [(">>>", brightCyan), ("<<<", brightGreen), ("!!!", brightRed)]

/-- The message with its marker painted, if it begins with one. -/
def paintMarker (message : Text) : Text :=
  let painted := markers.findSome? fun (marker, codes) =>
    (Text.dropOpening? marker message).map fun rest => paint codes marker ++ rest
  painted.getD message

/-! ## Durations -/

/-- The duration in front of a text and the rest: digits of any script, with or without a point and
more digits, and then `ms`. -/
def spanDuration? (text : Text) : Option (Text × Text) :=
  let whole := text.takeWhile Text.isDecimalDigit
  match text.dropWhile Text.isDecimalDigit with
  | 'm' :: 's' :: rest => some (whole ++ ['m', 's'], rest)
  | '.' :: rest =>
    let part := rest.takeWhile Text.isDecimalDigit
    match rest.dropWhile Text.isDecimalDigit with
    | 'm' :: 's' :: rest => some (whole ++ '.' :: part ++ ['m', 's'], rest)
    | _ => none
  | _ => none

/-- The text with its durations painted, in at most so many steps. When no duration begins with the
first digit of a run, none begins within the run. -/
def paintDurationsWithin : (fuel : Nat) → Text → Text
  | 0, text => text
  | _ + 1, [] => []
  | fuel + 1, c :: rest =>
    if Text.isDecimalDigit c then
      match spanDuration? (c :: rest) with
      | some (duration, rest) => paint brightYellow duration ++ paintDurationsWithin fuel rest
      | none =>
        c :: rest.takeWhile Text.isDecimalDigit ++
          paintDurationsWithin fuel (rest.dropWhile Text.isDecimalDigit)
    else c :: paintDurationsWithin fuel rest

/-- The text with its durations painted. Each step takes at least one character. -/
def paintDurations (text : Text) : Text := paintDurationsWithin text.length text

/-! ## Paths -/

/-- Whether a character ends a path in a message. -/
def endsPath (c : Char) : Bool := Text.isBlank c || c = ',' || c = ')'

/-- The path in front of a text and the rest: a letter, a colon, a backslash and all up to a blank,
a comma or a closing parenthesis. -/
def spanDrivePath? : Text → Option (Text × Text)
  | c :: ':' :: '\\' :: rest =>
    if c.isAlpha then
      some (c :: ':' :: '\\' :: rest.takeWhile (!endsPath ·), rest.dropWhile (!endsPath ·))
    else none
  | _ => none

/-- The text with its paths painted, in at most so many steps. -/
def paintDrivePathsWithin : (fuel : Nat) → Text → Text
  | 0, text => text
  | _ + 1, [] => []
  | fuel + 1, c :: rest =>
    match spanDrivePath? (c :: rest) with
    | some (path, rest) => paint brightMagenta path ++ paintDrivePathsWithin fuel rest
    | none => c :: paintDrivePathsWithin fuel rest

/-- The text with its paths painted. -/
def paintDrivePaths (text : Text) : Text := paintDrivePathsWithin text.length text

/-- The message with all that stands out painted, if colours are wanted. -/
def highlight (useColors : Bool) (message : Text) : Text :=
  if useColors then paintDrivePaths (paintDurations (paintMarker message)) else message

@[simp] theorem highlight_false (message : Text) : highlight false message = message := rfl

end LaunchKit.Console
