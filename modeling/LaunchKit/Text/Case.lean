import LaunchKit.Text.CaseTable

/-!
# Lower and upper case

The full case mappings: a character may become several, and one image depends on the neighbours.
The Greek capital sigma is lowered to its final form at the end of a word, that is, when the
nearest character before it that counts is cased and the nearest one after it is not; characters
that are case-ignorable do not count.

## Main definitions

* `Text.lower`, `Text.upper`: the mappings of a text.
* `Text.lowerImage`, `Text.upperImage`: the images of one character, apart from the sigma rule.
-/
namespace LaunchKit.Text

/-- The first span that maps the point. -/
def mapBySpans (spans : List CaseSpan) (c : Char) : Char :=
  match spans.findSome? (·.map? c.toNat) with
  | some image => Char.ofNat image
  | none => c

/-! ## Lowering -/

/-- The lower-case image of a character that stands alone. Only the dotted capital I has an image
of two characters. -/
def lowerImage (c : Char) : Text :=
  if c.toNat < 128 then [c.toLower]
  else if c = '\u0130' then ['i', '\u0307']
  else [mapBySpans loweringSpans c]

/-- Whether the search for a cased neighbour passes over the character. -/
def isCaseIgnorable (c : Char) : Bool := caseIgnorables.contains c

/-- Whether the character counts as a cased neighbour. -/
def isCased (c : Char) : Bool := if c.toNat < 128 then c.isAlpha else casedLetters.contains c

/-- Whether the nearest character that counts is cased. -/
def startsCased (text : Text) : Bool :=
  match text.dropWhile isCaseIgnorable with
  | [] => false
  | c :: _ => isCased c

/-- Lowering of the rest of a text, behind a cased neighbour or not. -/
def lowerAfter (cased : Bool) : Text → Text
  | [] => []
  | c :: rest =>
    let image := if c = 'Σ' then [if cased && !startsCased rest then 'ς' else 'σ'] else lowerImage c
    image ++ lowerAfter (if isCaseIgnorable c then cased else isCased c) rest

/-- The text in lower case. -/
def lower (text : Text) : Text := lowerAfter false text

/-! ## Raising -/

/-- The upper-case image of a character. -/
def upperImage (c : Char) : Text :=
  if c.toNat < 128 then [c.toUpper]
  else match raisingSequences.lookup c.toNat with
    | some points => points.map Char.ofNat
    | none => [mapBySpans raisingSpans c]

/-- The text in upper case. -/
def upper (text : Text) : Text := text.flatMap upperImage

/-! ## ASCII -/

example : lower "ὈΔΥΣΣΕΎΣ" = "ὀδυσσεύς".toList := by decide +kernel
example : upper "straße" = "STRASSE".toList := by decide +kernel

end LaunchKit.Text
