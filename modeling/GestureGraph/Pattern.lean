import GestureGraph.Pattern.Automaton
import GestureGraph.Pattern.Meaning
import GestureGraph.Pattern.Reader
import GestureGraph.Pattern.Weight

namespace GestureGraph

structure Pattern where
  text : String
  automaton : Pattern.Automaton

namespace Pattern

def Regex.read? (text : String) : Option Regex :=
  ((Tree.read? text).bind (·.meaning? {})).map (·.1) |>.filter (·.totalWeight ≤ weightBound)

def compile? (text : String) : Option Pattern :=
  (Regex.read? text).map fun r => ⟨text, r.toAutomaton⟩

def phrase? (p : Pattern) (text : String) : Option String :=
  (p.automaton.find? text.toList).map fun (start, stop) =>
    String.ofList ((text.toList.drop start).take (stop - start))

end Pattern

end GestureGraph
