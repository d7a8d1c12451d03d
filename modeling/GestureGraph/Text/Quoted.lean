import GestureGraph.Text.Visible

namespace GestureGraph.Text

def codeEscape (c : Char) : List Char :=
  ['\\', 'u', '\x7b'] ++ Nat.toDigits 16 c.toNat ++ ['\x7d']

def escapeChar (shows : Char → Bool) (c : Char) : List Char :=
  if c = '"' then ['\\', '"']
  else if c = '\\' then ['\\', '\\']
  else if c = '\n' then ['\\', 'n']
  else if c = '\r' then ['\\', 'r']
  else if c = '\t' then ['\\', 't']
  else if c.toNat = 0 then ['\\', '0']
  else if shows c then [c]
  else codeEscape c

def escape (shows : Char → Bool) (cs : List Char) : List Char := cs.flatMap (escapeChar shows)

def quotedBy (shows : Char → Bool) (text : String) : String :=
  String.ofList ('"' :: escape shows text.toList ++ ['"'])

def quoted (text : String) : String := quotedBy isVisible text

end GestureGraph.Text
