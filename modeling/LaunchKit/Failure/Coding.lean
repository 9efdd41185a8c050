import LaunchKit.Failure.Basic
import LaunchKit.Text.Raw

/-!
# Failures of encodings

What an encoding cannot express, or bytes that encode nothing, are told by the name of the
encoding, the place of the defect and a reason. A defect of one unit is shown.

## Main definitions

* `Failure.codecText`, `Failure.defectText`: the wording.
* `Failure.notEncoded`: the failure of a raw text that does not reach the system.
-/
namespace LaunchKit.Failure

/-- Where a defect is: at one unit, which is shown, or at units from one position to another. -/
def defectText (unit : String) (shown : Option Text) (start stop : Int) : Text :=
  match shown with
  | some shown =>
    unit.toList ++ ' ' :: shown ++ " in position ".toList ++ Numeral.ofInt start
  | none =>
    unit.toList ++ "s in position ".toList ++ Numeral.ofInt start ++ '-' :: Numeral.ofInt (stop - 1)

/-- The one unit between two positions, if there is just one. -/
def only? {α : Type} (units : List α) (start stop : Int) : Option α :=
  if 0 ≤ start ∧ stop = start + 1 then units[start.toNat]? else none

/-- A byte as it is shown. -/
def byteText (byte : UInt8) : Text := "0x" ++ Text.hexDigits 2 byte.toNat

/-- A code point as it is shown. -/
def pointText (point : CodePoint) : Text := '\'' :: Text.pointEscape point.number ++ ['\'']

/-- What a failure of an encoding begins with. -/
def codecText (encoding : Text) (doing : String) : Text :=
  '\'' :: encoding ++ "' codec can't ".toList ++ doing.toList ++ [' ']

/-- The failure of a raw text that does not reach the system. -/
def notEncoded (defect : RawText.Unencodable) : Failure :=
  let stop : Nat := defect.position + defect.following + 1
  let shown := if defect.following = 0 then some (pointText defect.point) else none
  .saying (.named "UnicodeEncodeError")
    (codecText "utf-8" "encode" ++ defectText "character" shown defect.position stop ++
      ": surrogates not allowed".toList)

example : (notEncoded ⟨0, .surrogate 0, 0⟩).told.2 =
    "'utf-8' codec can't encode character '\\ud800' in position 0: ".toList ++
      "surrogates not allowed".toList := by
  decide +kernel

end LaunchKit.Failure
