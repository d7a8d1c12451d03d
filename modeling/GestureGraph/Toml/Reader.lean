import GestureGraph.Decimal.Read
import GestureGraph.Text.Ranges
import GestureGraph.Toml

namespace GestureGraph.Toml

abbrev Reader (α : Type) := List Char → Option (α × List Char)

def isGap (c : Char) : Bool := c = ' ' || c = '\t'

def skipGap (cs : List Char) : List Char := cs.dropWhile isGap

def isControl (c : Char) : Bool := (c.toNat < 0x20 && c ≠ '\t') || c.toNat = 0x7F

def lineEnd? : List Char → Option (List Char)
  | '\n' :: cs => some cs
  | '\r' :: '\n' :: cs => some cs
  | _ => none

def skipComment? (cs : List Char) : Option (List Char) :=
  match cs with
  | '#' :: cs =>
      let rest := cs.dropWhile fun c => !isControl c
      if rest = [] ∨ (lineEnd? rest).isSome then some rest else none
  | cs => some cs

def skipLinesIn : (fuel : Nat) → List Char → Option (List Char)
  | 0, cs => some cs
  | fuel + 1, cs =>
      match skipComment? (skipGap cs) with
      | none => none
      | some rest =>
          match lineEnd? rest with
          | some rest => skipLinesIn fuel rest
          | none => some rest

def skipLines? (cs : List Char) : Option (List Char) := skipLinesIn (cs.length + 1) cs

def isHexDigit (c : Char) : Bool :=
  ('0' ≤ c && c ≤ '9') || ('a' ≤ c && c ≤ 'f') || ('A' ≤ c && c ≤ 'F')

def codePoint? (count : Nat) : Reader Char := fun cs =>
  let digits := cs.take count
  let code := Text.hexNat digits
  if digits.length = count ∧ digits.all isHexDigit ∧
      (code < 0xD800 ∨ (0xDFFF < code ∧ code < 0x110000)) then
    some (Char.ofNat code, cs.drop count)
  else none

def escape? : Reader Char
  | 'b' :: cs => some (Char.ofNat 8, cs)
  | 't' :: cs => some ('\t', cs)
  | 'n' :: cs => some ('\n', cs)
  | 'f' :: cs => some (Char.ofNat 12, cs)
  | 'r' :: cs => some ('\r', cs)
  | '"' :: cs => some ('"', cs)
  | '\\' :: cs => some ('\\', cs)
  | 'u' :: cs => codePoint? 4 cs
  | 'U' :: cs => codePoint? 8 cs
  | _ => none

def basicIn : (fuel : Nat) → (done : List Char) → Reader String
  | _, done, '"' :: cs => some (String.ofList done.reverse, cs)
  | fuel + 1, done, '\\' :: cs => (escape? cs).bind fun (c, rest) => basicIn fuel (c :: done) rest
  | fuel + 1, done, c :: cs => if isControl c then none else basicIn fuel (c :: done) cs
  | _, _, _ => none

def literal? : Reader String := fun cs =>
  let body := cs.takeWhile fun c => c ≠ '\'' && !isControl c
  match cs.dropWhile fun c => c ≠ '\'' && !isControl c with
  | '\'' :: rest => some (String.ofList body, rest)
  | _ => none

def joinLines? (cs : List Char) : Option (List Char) :=
  let rest := skipGap cs
  if (lineEnd? rest).isSome then
    some (rest.dropWhile fun c => isGap c || c = '\n' || c = '\r')
  else none

/-- Text between triple quotes; up to two quotes may stand right before the closing ones. -/
def blockIn (quote : Char) (escapes : Bool) : (fuel : Nat) → (done : List Char) → Reader String
  | 0, _, _ => none
  | _, _, [] => none
  | fuel + 1, done, c :: cs =>
      if c = quote then
        let run := (c :: cs).takeWhile (· = quote)
        if 3 ≤ run.length then
          if run.length ≤ 5 then
            some (String.ofList (List.replicate (run.length - 3) quote ++ done).reverse,
              (c :: cs).drop run.length)
          else none
        else blockIn quote escapes fuel (c :: done) cs
      else if c = '\\' ∧ escapes then
        match joinLines? cs with
        | some rest => blockIn quote escapes fuel done rest
        | none => (escape? cs).bind fun (e, rest) => blockIn quote escapes fuel (e :: done) rest
      else
        match lineEnd? (c :: cs) with
        | some rest => blockIn quote escapes fuel ('\n' :: done) rest
        | none => if isControl c then none else blockIn quote escapes fuel (c :: done) cs

/-- A line end right after the opening quotes does not belong to the text. -/
def block? (quote : Char) (escapes : Bool) : Reader String := fun cs =>
  let cs := (lineEnd? cs).getD cs
  blockIn quote escapes (cs.length + 1) [] cs

def text? : Reader String
  | '"' :: '"' :: '"' :: cs => block? '"' true cs
  | '\'' :: '\'' :: '\'' :: cs => block? '\'' false cs
  | '"' :: cs => basicIn (cs.length + 1) [] cs
  | '\'' :: cs => literal? cs
  | _ => none

def isKeyChar (c : Char) : Bool := (c.toNat < 0x80 && c.isAlphanum) || c = '_' || c = '-'

def keyPart? : Reader String
  | '"' :: cs => basicIn (cs.length + 1) [] cs
  | '\'' :: cs => literal? cs
  | cs =>
      let key := cs.takeWhile isKeyChar
      if key = [] then none else some (String.ofList key, cs.dropWhile isKeyChar)

def keyIn : (fuel : Nat) → Reader (List String)
  | 0, _ => none
  | fuel + 1, cs =>
      (keyPart? (skipGap cs)).bind fun (part, rest) =>
        match skipGap rest with
        | '.' :: rest => (keyIn fuel rest).map fun (parts, rest) => (part :: parts, rest)
        | rest => some ([part], rest)

/-- The number of parts that a key does not reach, and of brackets and braces around a value. -/
def nestingBound : Nat := 80

def key? : Reader (List String) := fun cs =>
  (keyIn (cs.length + 1) cs).filter fun (parts, _) => parts.length < nestingBound

def groupedDigits? (isDigit : Char → Bool) (cs : List Char) : Option (List Char) :=
  let groups := Text.fields '_' cs
  if groups.all fun g => g ≠ [] ∧ g.all isDigit then some groups.flatten else none

def digitValue (c : Char) : Nat := Text.hexDigit c

def inBase (base : Nat) (ds : List Char) : Nat := ds.foldl (fun n c => base * n + digitValue c) 0

def inRange? (i : Int) : Option Toml :=
  if Int64.minValue.toInt ≤ i ∧ i ≤ Int64.maxValue.toInt then some (.integer i) else none

def based? (base : Nat) (cs : List Char) : Option Toml :=
  (groupedDigits? (fun c => isHexDigit c && digitValue c < base) cs).bind fun ds =>
    inRange? (inBase base ds)

def plainDigits? (cs : List Char) : Option (List Char) :=
  (groupedDigits? Decimal.isDigit cs).filter fun ds => ds.length = 1 || ds.head? ≠ some '0'

def signed (negative : Bool) (i : Int) : Int := if negative then -i else i

/-- A number with a fraction, an exponent or both. One above all finite numbers is refused. -/
def float? (negative : Bool) (cs : List Char) : Option Toml :=
  let isMark := fun (c : Char) => c = 'e' || c = 'E'
  let mantissa := cs.takeWhile fun c => !isMark c
  let (powerNegative, power) := Decimal.splitSign ((cs.dropWhile fun c => !isMark c).drop 1)
  let power? :=
    if mantissa.length = cs.length then some [] else groupedDigits? Decimal.isDigit power
  let parts? : Option (List Char × List Char) :=
    match Text.fields '.' mantissa with
    | [whole] => (plainDigits? whole).map (·, [])
    | [whole, fraction] => (plainDigits? whole).bind fun w =>
        (groupedDigits? Decimal.isDigit fraction).map (w, ·)
    | _ => none
  match parts?, power? with
  | some (whole, fraction), some power =>
      let x := Decimal.nearest (Decimal.natOf (whole ++ fraction))
        (signed powerNegative (Decimal.natOf power) - fraction.length)
      if negative then some (.float (-x)) else if x.isFinite then some (.float x) else none
  | _, _ => none

def number? (cs : List Char) : Option Toml :=
  let isSigned := cs.head? = some '-' ∨ cs.head? = some '+'
  let (negative, body) := Decimal.splitSign cs
  match body with
  | '0' :: 'x' :: ds => if isSigned then none else based? 16 ds
  | '0' :: 'o' :: ds => if isSigned then none else based? 8 ds
  | '0' :: 'b' :: ds => if isSigned then none else based? 2 ds
  | ['i', 'n', 'f'] => some (.float (if negative then -1.0 / 0.0 else 1.0 / 0.0))
  | ['n', 'a', 'n'] => some (.float (0.0 / 0.0))
  | body =>
      match plainDigits? body with
      | some ds => inRange? (signed negative (Decimal.natOf ds))
      | none => float? negative body

def date? (cs : List Char) : Option (List Char) :=
  match cs with
  | [a, b, c, d, '-', e, f, '-', g, h] =>
      let year := Decimal.natOf [a, b, c, d]
      let month := Decimal.natOf [e, f]
      let day := Decimal.natOf [g, h]
      let leap := year % 4 = 0 ∧ (year % 100 ≠ 0 ∨ year % 400 = 0)
      let last := if month = 2 then (if leap then 29 else 28)
        else if month = 4 ∨ month = 6 ∨ month = 9 ∨ month = 11 then 30 else 31
      if [a, b, c, d, e, f, g, h].all Decimal.isDigit ∧ 1 ≤ month ∧ month ≤ 12 ∧ 1 ≤ day ∧
          day ≤ last then some cs
      else none
  | _ => none

/-- At most nine digits of a fraction count, and none of the zeros at their end. -/
def fraction (digits : List Char) : List Char :=
  let kept := ((digits.take 9).reverse.dropWhile (· = '0')).reverse
  if kept = [] then [] else '.' :: kept

/-- A time of day. A minute may have sixty-one seconds. -/
def clock? (cs : List Char) : Option (List Char) :=
  match cs with
  | a :: b :: ':' :: c :: d :: ':' :: e :: f :: rest =>
      if [a, b, c, d, e, f].all Decimal.isDigit ∧ Decimal.natOf [a, b] ≤ 23 ∧
          Decimal.natOf [c, d] ≤ 59 ∧ Decimal.natOf [e, f] ≤ 60 then
        match rest with
        | [] => some cs
        | '.' :: digits =>
            if digits ≠ [] ∧ digits.all Decimal.isDigit then
              some ([a, b, ':', c, d, ':', e, f] ++ fraction digits)
            else none
        | _ => none
      else none
  | _ => none

def offset? (cs : List Char) : Option (List Char) :=
  match cs with
  | [] => some []
  | ['Z'] => some ['Z']
  | ['z'] => some ['Z']
  | [sign, a, b, ':', c, d] =>
      let digits := [a, b, c, d]
      if (sign = '+' ∨ sign = '-') ∧ digits.all Decimal.isDigit ∧ Decimal.natOf [a, b] ≤ 23 ∧
          Decimal.natOf [c, d] ≤ 59 then
        some ((if digits.all (· = '0') then '+' else sign) :: [a, b, ':', c, d])
      else none
  | _ => none

def dateTime? (cs : List Char) : Option (List Char) :=
  let isClockChar := fun (c : Char) => Decimal.isDigit c || c = ':' || c = '.'
  let time := cs.drop 11
  match date? (cs.take 10), clock? (time.takeWhile isClockChar),
    offset? (time.dropWhile isClockChar) with
  | some date, some clock, some offset =>
      if ['T', 't', ' '].contains ((cs.drop 10).headD 'x') then
        some (date ++ 'T' :: clock ++ offset)
      else none
  | _, _, _ => none

def moment? (cs : List Char) : Option (List Char) :=
  (date? cs).or ((clock? cs).or (dateTime? cs))

def isWordChar (c : Char) : Bool :=
  (c.toNat < 0x80 && c.isAlphanum) || ['_', '-', '+', '.', ':'].contains c

/-- A bare word: a truth value, a number, or a moment. A blank between a date and a time belongs to
the word. -/
def word? : Reader Toml := fun cs =>
  let word := cs.takeWhile isWordChar
  let rest := cs.dropWhile isWordChar
  let (word, rest) :=
    match rest with
    | ' ' :: after =>
        if (date? word).isSome ∧ (after.head?.map Decimal.isDigit).getD false then
          (word ++ ' ' :: after.takeWhile isWordChar, after.dropWhile isWordChar)
        else (word, rest)
    | _ => (word, rest)
  if word = "true".toList then some (.boolean true, rest)
  else if word = "false".toList then some (.boolean false, rest)
  else
    match moment? word with
    | some plain => some (.moment (String.ofList plain), rest)
    | none => (number? word).map (·, rest)

def itemsIn (value? : Reader Toml) : (fuel : Nat) → (done : List Toml) → Reader Toml
  | 0, _, _ => none
  | fuel + 1, done, cs =>
      match skipLines? cs with
      | none => none
      | some (']' :: rest) => some (.array done.reverse, rest)
      | some cs =>
          match value? cs with
          | none => none
          | some (v, rest) =>
              match skipLines? rest with
              | some (',' :: rest) => itemsIn value? fuel (v :: done) rest
              | some (']' :: rest) => some (.array (v :: done).reverse, rest)
              | _ => none

def assignment? (value? : Reader Toml) : Reader (List String × Toml) := fun cs =>
  (key? cs).bind fun (key, rest) =>
    match rest with
    | '=' :: rest => (value? (skipGap rest)).map fun (v, rest) => ((key, v), rest)
    | _ => none

/-- The tables that dotted keys made inside braces are closed with them. -/
def membersIn (value? : Reader Toml) : (fuel : Nat) → (done : Members) → Reader Toml
  | 0, _, _ => none
  | fuel + 1, done, cs =>
      match assignment? value? cs with
      | none => none
      | some ((key, v), rest) =>
          match assign v key done, skipGap rest with
          | some done, ',' :: rest => membersIn value? fuel done rest
          | some done, '\x7d' :: rest => some (.table .inline done, rest)
          | _, _ => none

def valueIn : (depth : Nat) → Reader Toml
  | depth, cs =>
      match depth, cs with
      | depth + 1, '[' :: rest => itemsIn (valueIn depth) (rest.length + 1) [] rest
      | depth + 1, '\x7b' :: rest =>
          match skipGap rest with
          | '\x7d' :: rest => some (.table .inline [], rest)
          | rest => membersIn (valueIn depth) (rest.length + 1) [] rest
      | _, '"' :: _ => (text? cs).map fun (s, rest) => (.string s, rest)
      | _, '\'' :: _ => (text? cs).map fun (s, rest) => (.string s, rest)
      | _, _ => word? cs

def header? : Reader Statement
  | '[' :: '[' :: cs => (key? cs).bind fun (path, rest) =>
      match rest with
      | ']' :: ']' :: rest => some (.header .item path, rest)
      | _ => none
  | '[' :: cs => (key? cs).bind fun (path, rest) =>
      match rest with
      | ']' :: rest => some (.header .table path, rest)
      | _ => none
  | _ => none

def statement? : Reader Statement := fun cs =>
  match cs with
  | '[' :: _ => header? cs
  | _ => (assignment? (valueIn (nestingBound - 1)) cs).map fun ((key, v), rest) =>
      (.assignment key v, rest)

def statementsIn : (fuel : Nat) → List Char → Option (List Statement)
  | 0, _ => none
  | fuel + 1, cs =>
      match skipLines? cs with
      | none => none
      | some [] => some []
      | some cs =>
          match statement? cs with
          | none => none
          | some (s, rest) =>
              match skipComment? (skipGap rest) with
              | none => none
              | some [] => some [s]
              | some rest =>
                  (lineEnd? rest).bind fun rest => (statementsIn fuel rest).map (s :: ·)

def dropMark : List Char → List Char
  | c :: cs => if c.toNat = 0xFEFF then cs else c :: cs
  | [] => []

def read? (text : String) : Option Members :=
  let cs := dropMark text.toList
  (statementsIn (cs.length + 1) cs).bind build

end GestureGraph.Toml
