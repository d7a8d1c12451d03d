import GestureGraph.Pattern.Property.Trait
import GestureGraph.Text.Letter

namespace GestureGraph.Pattern.Property

open Text (Category CharSet)

/-- The characters of the latest edition of the standard. Patterns go by the edition before it and
take them for unassigned. -/
def recent : CharSet := .ofRows
  ["88F C5C CDC 1ACF-1ADD 1AE0-1AEB 20C1 2B96 A7CE-A7CF A7D2 A7D4 A7F1 FBC3-FBD2 FD90-FD91",
   "FDC8-FDCE 10940-10959 10EC5-10EC7 10ED0-10ED8 10EFA-10EFB 11B60-11B67 11DB0-11DDB",
   "11DE0-11DE9 16EA0-16EB8 16EBB-16ED3 16FF2-16FF6 187F8-187FF 18D09-18D1E 18D80-18DF2",
   "1CCFA-1CCFC 1CEBA-1CED0 1CEE0-1CEF0 1E6C0-1E6DE 1E6E0-1E6F5 1E6FE-1E6FF 1F6D8 1F777-1F77A",
   "1F8D0-1F8D8 1FA54-1FA57 1FA8A 1FA8E 1FAC8 1FACD 1FAEA 1FAEF 1FBFA 2B73A-2B73F 2CEA2-2CEAD",
   "323B0-33479"]

/-- The characters of some categories. Patterns take the letter U+0295 for a lowercase one. -/
def ofCategories (categories : List Category) : CharSet :=
  let latest := Category.charsOf categories
  let revised : CharSet := [⟨0x295, 0x295⟩]
  let set := if categories.contains .lowercaseLetter then latest.union revised
    else latest.diff revised
  if categories.contains .unassigned then set.union recent else set.diff recent

def assigned : CharSet := (ofCategories [.unassigned]).compl

def decimals : CharSet := ofCategories [.decimalNumber]

def blanks : CharSet := Trait.chars "whitespace"

def alphabetic : CharSet := Text.letters.diff recent

def wordChars : CharSet :=
  .unions [alphabetic, ofCategories (.connectorPunctuation :: Category.marks), decimals,
    Trait.chars "joincontrol"]

def isWordChar (c : Char) : Bool :=
  if c.toNat < 0x80 then c.isAlphanum || c == '_' else wordChars.contains c

def isDecimal (c : Char) : Bool :=
  if c.toNat < 0x80 then c.isDigit else decimals.contains c

def lowercase : CharSet := (ofCategories [.lowercaseLetter]).union (Trait.chars "otherlowercase")

def uppercase : CharSet := (ofCategories [.uppercaseLetter]).union (Trait.chars "otheruppercase")

def cased : CharSet := .unions [lowercase, uppercase, ofCategories [.titlecaseLetter]]

def caseIgnorable : CharSet :=
  (ofCategories [.nonspacingMark, .enclosingMark, .format, .modifierLetter, .modifierSymbol]).union
    (.ofRows ["27 2E 3A B7 387 55F 5F4 2018-2019 2024 2027 FE13 FE52 FE55 FF07 FF0E FF1A"])

def caseMapped : CharSet :=
  .unions (["changeswhenlowercased", "changeswhentitlecased", "changeswhenuppercased"].map
    Trait.chars)

def defaultIgnorable : CharSet :=
  (CharSet.unions [Trait.chars "otherdefaultignorablecodepoint", ofCategories [.format],
    Trait.chars "variationselector"]).diff
    (.unions [blanks, .ofRows ["FFF9-FFFB 13430-13440"], Trait.chars "prependedconcatenationmark"])

def graphemeExtend : CharSet :=
  (ofCategories [.nonspacingMark, .enclosingMark]).union (Trait.chars "othergraphemeextend")

def graphemeBase : CharSet :=
  ((ofCategories [.control, .format, .privateUse, .unassigned, .lineSeparator,
    .paragraphSeparator]).union graphemeExtend).compl

def patternChars : CharSet :=
  (Trait.chars "patternsyntax").union (Trait.chars "patternwhitespace")

def idStart : CharSet :=
  ((ofCategories (.letterNumber :: Category.letters)).diff patternChars).union
    (Trait.chars "otheridstart")

def idContinue : CharSet :=
  .unions [idStart, ofCategories [.nonspacingMark, .spacingMark, .decimalNumber,
    .connectorPunctuation], Trait.chars "otheridcontinue"]

def unstableIds : CharSet := .ofRows ["37A 309B-309C FC5E-FC63 FDFA-FDFB FE70~FE7E"]

def unstableStarts : CharSet := unstableIds.union (.ofRows ["E33 EB3 FF9E-FF9F"])

end GestureGraph.Pattern.Property
