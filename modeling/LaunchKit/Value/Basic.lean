import LaunchKit.Number.Basic

/-!
# Values

Arguments and results of tools are values: data that a client sent, and objects that a tool made,
of which no more is known than the name of their class, the text that shows them and, for some,
their content. Mappings keep the order in which their keys were first entered.

## Main definitions

* `Value`: the values.
* `Value.ofEntries`: a mapping from entries of which later ones may repeat a key.
* `Value.noKey?`: what keeps a value from being a key.
* `Value.typeName`: the name of a value's class.
* `Value.isPresent`: whether a value counts as one at all.
-/
namespace LaunchKit

/-- A value of dynamic type. -/
inductive Value where
  | null
  | bool (b : Bool)
  | int (n : Int)
  | float (x : Binary64)
  | text (s : Text)
  | bytes (bs : List UInt8)
  | list (items : List Value)
  | tuple (items : List Value)
  | dict (entries : List (Value × Value))
  | object (kind shown : Text) (content : Option Value)

instance : Inhabited Value := ⟨.null⟩

namespace Value

/-- The number that a value is, truth values counting as zero and one. -/
def number? : Value → Option Number
  | .bool b => some (.whole (if b then 1 else 0))
  | .int n => some (.whole n)
  | .float x => some (.real x)
  | _ => none

mutual

/-- Whether two values are one key of a mapping. Numbers are compared by value across their kinds,
and what is no number differs from everything, itself included. -/
def sameKey : Value → Value → Bool
  | .null, .null => true
  | .text s, .text t => s == t
  | .bytes s, .bytes t => s == t
  | .tuple s, .tuple t => sameKeys s t
  | a, b => match a.number?, b.number? with
    | some m, some n => m.same n
    | _, _ => false

/-- Equality of keys, item by item. -/
def sameKeys : List Value → List Value → Bool
  | [], [] => true
  | a :: s, b :: t => sameKey a b && sameKeys s t
  | _, _ => false

end

mutual

/-- The name of the class that keeps a value from being a key of a mapping, if there is one. -/
def noKey? : Value → Option Text
  | .list _ => some "list"
  | .dict _ => some "dict"
  | .tuple items => noKeys? items
  | _ => none

/-- The first obstacle among the items of a key. -/
def noKeys? : List Value → Option Text
  | [] => none
  | item :: items => (noKey? item).or (noKeys? items)

end

/-- Enter a key with its value: a known key keeps its place and its form, and takes the value. -/
def enter (key value : Value) : List (Value × Value) → List (Value × Value)
  | [] => [(key, value)]
  | (k, v) :: entries =>
    if sameKey k key then (k, value) :: entries else (k, v) :: enter key value entries

/-- The mapping made by entering the given pairs in order. -/
def ofEntries (entries : List (Value × Value)) : Value :=
  .dict (entries.foldl (fun known entry => enter entry.1 entry.2 known) [])

/-- The value that a mapping holds under a key. -/
def lookup (key : Value) (entries : List (Value × Value)) : Option Value :=
  (entries.find? fun entry => sameKey entry.1 key).map Prod.snd

/-- The name of the class of a value. -/
def typeName : Value → Text
  | .null => "NoneType"
  | .bool _ => "bool"
  | .int _ => "int"
  | .float _ => "float"
  | .text _ => "str"
  | .bytes _ => "bytes"
  | .list _ => "list"
  | .tuple _ => "tuple"
  | .dict _ => "dict"
  | .object kind _ _ => kind

/-- The items of a list or of a tuple. -/
def items? : Value → Option (List Value)
  | .list items => some items
  | .tuple items => some items
  | _ => none

/-- The entries of a mapping; other values have none. -/
def entries : Value → List (Value × Value)
  | .dict entries => entries
  | _ => []

/-- Whether a value is nothing. -/
def isNull : Value → Bool
  | .null => true
  | _ => false

/-- Whether a value counts as present: nothing, zeros and what is empty do not. -/
def isPresent : Value → Bool
  | .null => false
  | .bool b => b
  | .int n => n ≠ 0
  | .float (.finite _ coefficient _) => coefficient ≠ 0
  | .float _ => true
  | .text s => !s.isEmpty
  | .bytes bs => !bs.isEmpty
  | .list items => !items.isEmpty
  | .tuple items => !items.isEmpty
  | .dict entries => !entries.isEmpty
  | .object _ _ _ => true

end Value
end LaunchKit
