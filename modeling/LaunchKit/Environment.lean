import LaunchKit.Failure.Coding
import LaunchKit.Failure.System
import LaunchKit.Log

/-!
# Environment variables

The environment maps names to values, both of them bytes. Names and values that come from outside
are raw texts, which are encoded on the way in; values are decoded on the way out. There are two
ways in: the system's own, which refuses only what the system cannot store, and a guarded one, which
also keeps every value within the limit that Windows sets for one variable. The guarded way out
hides a value beyond that limit.

## Main definitions

* `Environment`: the variables of the process.
* `Environment.put`, `Environment.remove`: the system's own operations.
* `Environment.assign`, `Environment.read`: the guarded ones.
* `randomName`: a random text of letters and digits.
-/
namespace LaunchKit

/-- The variables that are set. -/
structure Environment where
  entries : List (Bytes × Bytes) := []

namespace Environment

/-- The largest length of a value. -/
def valueLimit : Nat := 32767

/-- The bytes that are stored under a name. -/
def stored? (environment : Environment) (name : Bytes) : Option Bytes :=
  environment.entries.lookup name

/-- The environment with bytes stored under a name, whatever was stored there before. -/
def store (environment : Environment) (name value : Bytes) : Environment :=
  ⟨(name, value) :: environment.entries.filter (·.1 ≠ name)⟩

/-- The environment with nothing stored under a name. -/
def erase (environment : Environment) (name : Bytes) : Environment :=
  ⟨environment.entries.filter (·.1 ≠ name)⟩

/-- The value of a variable, with escapes for what is no character in it. -/
def get? (environment : Environment) (name : Text) : Option Text :=
  (environment.stored? name.bytes).map fun value => (RawText.decode value).shown

/-- Erasing one name does not touch another. -/
theorem lookup_filter_ne {name other : Bytes} (h : other ≠ name)
    (entries : List (Bytes × Bytes)) :
    (entries.filter (·.1 ≠ name)).lookup other = entries.lookup other := by
  induction entries with
  | nil => rfl
  | cons entry entries ih =>
    obtain ⟨key, value⟩ := entry
    by_cases hk : key = name
    · subst hk
      rw [List.filter_cons_of_neg (by simp), ih, List.lookup_cons, beq_eq_false_iff_ne.2 h]
    · rw [List.filter_cons_of_pos (by simpa using hk), List.lookup_cons, List.lookup_cons, ih]

@[simp] theorem stored?_store (environment : Environment) (name value other : Bytes) :
    (environment.store name value).stored? other =
      if other = name then some value else environment.stored? other := by
  simp only [stored?, store, List.lookup_cons]
  by_cases h : other = name
  · simp [h]
  · simp only [beq_eq_false_iff_ne.2 h, h, if_false]
    exact lookup_filter_ne h environment.entries

/-! ## The system's own operations -/

/-- What the system cannot store. -/
inductive StoreError where
  | notEncoded (defect : RawText.Unencodable)
  | nullCharacter
  | illegalName
  | emptyName
  deriving DecidableEq, Repr

/-- The refusal of the system, as a failure. -/
def StoreError.toFailure : StoreError → Failure
  | .notEncoded defect => .notEncoded defect
  | .nullCharacter => .saying .badValue "embedded null byte"
  | .illegalName => .saying .badValue "illegal environment variable name"
  | .emptyName => .ofSystem 22 "Invalid argument" none

/-- Set a variable by the system. The name is encoded first. -/
def put (environment : Environment) (name value : RawText) : Except StoreError Environment := do
  let key ← name.encode.mapError .notEncoded
  let bytes ← value.encode.mapError .notEncoded
  if .character '\x00' ∈ name ∨ .character '\x00' ∈ value then throw .nullCharacter
  if .character '=' ∈ name then throw .illegalName
  if name.isEmpty then throw .emptyName
  return environment.store key bytes

/-- Set several variables by the system. What comes behind a refused one is not tried. -/
def putAll (environment : Environment) :
    List (RawText × RawText) → Except StoreError Unit × Environment
  | [] => (.ok (), environment)
  | (name, value) :: more =>
    match environment.put name value with
    | .ok environment => environment.putAll more
    | .error error => (.error error, environment)

/-- Remove a variable by the system. -/
def remove (environment : Environment) (name : RawText) : Except StoreError Unit × Environment :=
  match name.encode with
  | .ok key => (.ok (), environment.erase key)
  | .error defect => (.error (.notEncoded defect), environment)

/-! ## The guarded operations -/

/-- Why a variable was not set. -/
inductive Refusal where
  | badName (name : RawText)
  | tooLong (name : RawText)
  | nullInValue (name : RawText)
  deriving DecidableEq, Repr

/-- The wording of a refusal. -/
def Refusal.message : Refusal → Text
  | .badName name => "Invalid environment variable name: " ++ name.quoted
  | .tooLong name => "Value for " ++ name.shown ++ " exceeds ".toList ++ Numeral.ofNat valueLimit ++
      " chars".toList
  | .nullInValue name => "Value for " ++ name.shown ++ " contains a null byte".toList

/-- Why a variable may not be set to a value, if so. The name is looked at first. -/
def refusal? (name value : RawText) : Option Refusal :=
  if name.isEmpty || .character '=' ∈ name || .character '\x00' ∈ name then some (.badName name)
  else if valueLimit < value.length then some (.tooLong name)
  else if .character '\x00' ∈ value then some (.nullInValue name)
  else none

/-- A record of the environment. -/
def warn (message : Text) : Record := .saying .warning .environment message

/-- Set a variable, or leave all as it is and say why. What passes the checks may still be something
that the system cannot store. -/
def assign (environment : Environment) (name value : RawText) : Report Bool × Environment :=
  match refusal? name value with
  | some refusal => ((Report.ofResult false).after [warn refusal.message], environment)
  | none =>
    match environment.put name value with
    | .ok environment => (.ofResult true, environment)
    | .error error => (.ofFailure error.toFailure, environment)

/-- The value of a variable, unless it is too long. -/
def read (environment : Environment) (name : RawText) : Report (Option RawText) :=
  match name.encode with
  | .error defect => .ofFailure (.notEncoded defect)
  | .ok key =>
    match (environment.stored? key).map RawText.decode with
    | none => .ofResult none
    | some value =>
      if valueLimit < value.length then
        (Report.ofResult none).after
          [warn ("Environment variable " ++ name.shown ++ " exceeds ".toList ++
            Numeral.ofNat valueLimit ++ " chars".toList)]
      else .ofResult (some value)

end Environment

/-! ## Random names -/

/-- The letters and digits of random names. -/
def nameAlphabet : Text := "ABCDEFGHIJKLMNOPQRSTUVWXYZabcdefghijklmnopqrstuvwxyz0123456789"

/-- The failure of drawing more numbers than there are. -/
def drawnOut : Failure := .saying .missingPlace "list index out of range"

/-- A text of letters and digits, one for each of so many numbers drawn; a negative length is taken
for zero, and numbers beyond the alphabet start it again. -/
def randomName (length : Int) (draws : List Int) : Except Failure Text :=
  if draws.length < length then .error drawnOut
  else .ok ((draws.take length.toNat).filterMap fun draw =>
    nameAlphabet[(draw.fmod nameAlphabet.length).toNat]?)

end LaunchKit
