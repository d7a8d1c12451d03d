import GestureGraph.Pattern.Property.Basic
import GestureGraph.Pattern.Property.Script

namespace GestureGraph.Pattern.Property

open Text (Category CharSet)

def carriageReturn : CharSet := .ofRows ["D"]

def lineFeed : CharSet := .ofRows ["A"]

def zeroWidthJoiner : CharSet := .ofRows ["200D"]

def regionalIndicator : CharSet := Trait.chars "regionalindicator"

def ofScripts (codes : List String) : CharSet :=
  (CharSet.unions (codes.map Script.chars)).inter assigned

def prepended : CharSet :=
  (Trait.chars "prependedconcatenationmark").union
    (.ofRows ["D4E 111C2-111C3 113D1 1193F 11941 11A3A 11A84-11A89 11D46 11F02"])

def extending : CharSet :=
  (graphemeExtend.union (Trait.chars "emojimodifier")).diff zeroWidthJoiner

def separating : CharSet :=
  (CharSet.unions [ofCategories [.lineSeparator, .paragraphSeparator, .control, .format],
    (ofCategories [.unassigned]).inter defaultIgnorable]).diff
    (.unions [carriageReturn, lineFeed, Trait.chars "joincontrol", prepended, graphemeExtend])

def spacing : CharSet :=
  ((ofCategories [.spacingMark]).union (.ofRows ["E33 EB3"])).diff
    (graphemeExtend.union (.ofRows
      ["102B-102C 1038 1062-1064 1067-106D 1083 1087-108C 108F 109A-109C 1A61 1A63-1A64 AA7B AA7D",
       "11720-11721"]))

/-- Hangul syllables without a final consonant: every 28th of them. -/
def openSyllables : CharSet := (List.range 399).map fun i => ⟨0xAC00 + 28 * i, 0xAC00 + 28 * i⟩

def graphemeBreak? (name : String) : Option CharSet :=
  match name with
  | "cr" => some carriageReturn
  | "lf" => some lineFeed
  | "cn" | "control" => some separating
  | "ex" | "extend" => some extending
  | "zwj" => some zeroWidthJoiner
  | "ri" | "regionalindicator" => some regionalIndicator
  | "pp" | "prepend" => some prepended
  | "sm" | "spacingmark" => some spacing
  | "l" => some (.ofRows ["1100-115F A960-A97C"])
  | "v" => some (.ofRows ["1160-11A7 D7B0-D7C6 16D63 16D67-16D6A"])
  | "t" => some (.ofRows ["11A8-11FF D7CB-D7FB"])
  | "lv" => some openSyllables
  | "lvt" => some (CharSet.diff [⟨0xAC00, 0xD7A3⟩] openSyllables)
  | _ => none

def wordExtending : CharSet := extending.union (ofCategories [.spacingMark])

def formatting : CharSet :=
  (ofCategories [.format]).diff (.unions [.ofRows ["200B-200D"], prepended, graphemeExtend])

def katakana : CharSet :=
  (ofScripts ["Kana"]).union (.ofRows ["3031-3035 309B-309C 30A0 30FC FF70"])

def hebrewLetters : CharSet := (ofScripts ["Hebr"]).inter (ofCategories [.otherLetter])

/-- Scripts that put no gap between words, so that their letters tell nothing of them. -/
def unspaced : CharSet :=
  ofScripts ["Ahom", "Hira", "Khmr", "Lana", "Laoo", "Mymr", "Tale", "Talu", "Tavt", "Thai"]

def plainLetters : CharSet :=
  (alphabetic.diff (.unions [Trait.chars "ideographic", katakana, hebrewLetters, wordExtending,
    unspaced])).union (.ofRows
    ["2C2-2C5 2D2-2D7 2DE-2DF 2E5-2EB 2ED 2EF-2FF 55A-55C 55E 58A 5F3 70F A708-A716 A720-A721",
     "A789-A78A AB5B"])

def numeric : CharSet :=
  (CharSet.unions [decimals, Trait.chars "prependedconcatenationmark", .ofRows ["66B 19DA"]]).diff
    (.ofRows ["70F"])

def wordBreak? (name : String) : Option CharSet :=
  match name with
  | "cr" => some carriageReturn
  | "lf" => some lineFeed
  | "nl" | "newline" => some (.ofRows ["B-C 85 2028-2029"])
  | "extend" => some wordExtending
  | "zwj" => some zeroWidthJoiner
  | "fo" | "format" => some formatting
  | "ri" | "regionalindicator" => some regionalIndicator
  | "ka" | "katakana" => some katakana
  | "hl" | "hebrewletter" => some hebrewLetters
  | "le" | "aletter" => some plainLetters
  | "sq" | "singlequote" => some (.ofRows ["27"])
  | "dq" | "doublequote" => some (.ofRows ["22"])
  | "mb" | "midnumlet" => some (.ofRows ["2E 2018-2019 2024 FE52 FF07 FF0E"])
  | "ml" | "midletter" => some (.ofRows ["3A B7 387 55F 5F4 2027 FE13 FE55 FF1A"])
  | "mn" | "midnum" =>
      some (.ofRows ["2C 3B 37E 589 60C-60D 66C 7F8 2044 FE50 FE54 FF0C FF1B"])
  | "nu" | "numeric" => some numeric
  | "ex" | "extendnumlet" =>
      some (.ofRows ["5F 202F 203F-2040 2054 FE33-FE34 FE4D-FE4F FF3F"])
  | "wsegspace" => some (.ofRows ["20 1680 2000-2006 2008-200A 205F 3000"])
  | _ => none

def sentenceExtending : CharSet :=
  .unions [graphemeExtend, ofCategories [.spacingMark], zeroWidthJoiner]

/-- Georgian has two cases, but no sentence starts with a capital. -/
def sentenceLower : CharSet :=
  lowercase.diff (graphemeExtend.union (.ofRows ["10D0-10FA 10FD-10FF"]))

def sentenceUpper : CharSet :=
  (uppercase.union (ofCategories [.titlecaseLetter])).diff (.ofRows ["1C90-1CBA 1CBD-1CBF"])

def stops : CharSet := .ofRows ["2E 2024 FE52 FF0E"]

def closing : CharSet :=
  (CharSet.unions [ofCategories [.openPunctuation, .closePunctuation, .initialPunctuation,
    .finalPunctuation], Trait.chars "quotationmark",
    .ofRows ["275B-2760 2E00-2E01 2E06-2E08 2E0B 1F676-1F678"]]).diff (.ofRows ["FF02 FF07"])

def sentenceBreak? (name : String) : Option CharSet :=
  match name with
  | "cr" => some carriageReturn
  | "lf" => some lineFeed
  | "ex" | "extend" => some sentenceExtending
  | "se" | "sep" => some (.ofRows ["85 2028-2029"])
  | "fo" | "format" => some (formatting.union (.ofRows ["200B 70F"]))
  | "sp" => some (.ofRows ["9 B-C 20 A0 1680 2000-200A 202F 205F 3000"])
  | "lo" | "lower" => some sentenceLower
  | "up" | "upper" => some sentenceUpper
  | "le" | "oletter" =>
      some ((alphabetic.union (.ofRows ["5F3"])).diff
        (.unions [sentenceLower, sentenceUpper, sentenceExtending]))
  | "nu" | "numeric" => some (numeric.union (.ofRows ["66C"]))
  | "at" | "aterm" => some stops
  | "st" | "sterm" => some ((Trait.chars "sentenceterminal").diff stops)
  | "sc" | "scontinue" =>
      some (.ofRows
        ["2C-2D 3A-3B 37E 55D 60C-60D 7F8 1802 1808 2013-2014 3001 FE10-FE11 FE13-FE14 FE31-FE32",
         "FE50-FE51 FE54-FE55 FE58 FE63 FF0C-FF0D FF1A-FF1B FF64"])
  | "cl" | "close" => some closing
  | _ => none

end GestureGraph.Pattern.Property
