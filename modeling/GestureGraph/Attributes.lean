import GestureGraph.Table
import GestureGraph.Value

namespace GestureGraph

abbrev Attributes := Table String Value

namespace Attributes

def intentionKey : String := "intention"

def statedBy : Value → List String
  | .list items => items.filterMap Value.name?
  | v => v.name?.toList

def intentions (attrs : Attributes) : List String :=
  match attrs.get? intentionKey with
  | some v => statedBy v
  | none => []

def withoutIntentions (attrs : Attributes) : Attributes := attrs.erase intentionKey

def reserved : List String := ["created_at", "lifecycle_status"]

def merge (attrs more : Attributes) : Attributes :=
  more.entries.foldl
    (fun attrs (key, v) => if reserved.contains key then attrs else attrs.insert key v) attrs

end Attributes

end GestureGraph
