import GestureGraph.Pattern.Property.Age
import GestureGraph.Pattern.Property.Boundary
import GestureGraph.Pattern.Property.Script

namespace GestureGraph.Pattern.Property

open Text (Category CharSet)

def derived (name : String) : Option CharSet :=
  match name with
  | "alphabetic" | "alpha" => some alphabetic
  | "lowercase" | "lower" => some lowercase
  | "uppercase" | "upper" => some uppercase
  | "cased" => some cased
  | "caseignorable" | "ci" => some caseIgnorable
  | "changeswhencasemapped" | "cwcm" => some caseMapped
  | "defaultignorablecodepoint" | "di" => some defaultIgnorable
  | "graphemeextend" | "grext" => some graphemeExtend
  | "graphemebase" | "grbase" => some graphemeBase
  | "idstart" | "ids" => some idStart
  | "idcontinue" | "idc" => some idContinue
  | "xidstart" | "xids" => some (idStart.diff unstableStarts)
  | "xidcontinue" | "xidc" => some (idContinue.diff unstableIds)
  | "math" => some ((ofCategories [.mathSymbol]).union (Trait.chars "othermath"))
  | "otheralphabetic" | "oalpha" => some (Text.otherLetters.diff recent)
  | _ => none

/-- The form in which names are compared: no leading "is", no gaps, and small letters. A lone "c"
after "is" is no category. -/
def key (name : String) : String :=
  let cs := name.toList
  let cut := (cs.take 2).map Char.toLower = ['i', 's']
  let isGap := fun c => c = ' ' ∨ c = '_' ∨ c = '-'
  let kept := (if cut then cs.drop 2 else cs).filter fun c => c.toNat < 0x80 ∧ ¬ isGap c
  if cut ∧ kept.map Char.toLower = ['c'] then "isc" else String.ofList (kept.map Char.toLower)

def category? (key : String) : Option CharSet :=
  match key with
  | "any" => some CharSet.scalars
  | "ascii" => some [⟨0, 0x7F⟩]
  | "assigned" => some assigned
  | _ => (Category.named? key).map ofCategories

def script? (key : String) : Option CharSet :=
  (Script.code? key).map fun code => (CharSet.ordered (Script.chars code)).inter assigned

def sharedScript? (key : String) : Option CharSet :=
  (Script.code? key).map fun code => (Script.sharedChars code).inter assigned

/-- The characters of an edition and of those before it. Code points that never will be characters
have an age too. -/
def age? (key : String) : Option CharSet :=
  (Edition.chars? key).map fun set => set.inter (assigned.union (Trait.chars "nchar"))

/-- The set that a single name stands for: a trait, else a category, else a script. -/
def named? (name : String) : Option CharSet :=
  let key := key name
  (derived key).or ((Trait.chars? key).or ((category? key).or (script? key)))

def valued? (property value : String) : Option CharSet :=
  match key property with
  | "gc" | "generalcategory" => category? (key value)
  | "sc" | "script" => script? (key value)
  | "scx" | "scriptextensions" => sharedScript? (key value)
  | "age" => age? (key value)
  | "gcb" | "graphemeclusterbreak" => graphemeBreak? (key value)
  | "wb" | "wordbreak" => wordBreak? (key value)
  | "sb" | "sentencebreak" => sentenceBreak? (key value)
  | _ => none

end GestureGraph.Pattern.Property
