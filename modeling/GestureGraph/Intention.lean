import GestureGraph.Text.Blank

namespace GestureGraph

def afterMark? : List Char → Option (List Char)
  | ';' :: ';' :: cs => some cs
  | _ :: cs => afterMark? cs
  | [] => none

def lineIntention? (line : List Char) : Option String :=
  match afterMark? line with
  | none => none
  | some comment =>
      let said := Text.trim comment
      if said = [] then none else some (String.ofList said)

def intentionsOf (source : String) : List String :=
  (Text.lines source.toList).filterMap lineIntention?

end GestureGraph
