import GestureGraph.Text.Ranges

namespace GestureGraph.Text

namespace CharSet

/-- Joins ranges that overlap or touch, in a list whose ranges ascend by their first code points. -/
def joinFrom (r : Range) : List Range → CharSet
  | [] => [r]
  | s :: rest =>
      if s.first ≤ r.last + 1 then joinFrom ⟨r.first, max r.last s.last⟩ rest
      else r :: joinFrom s rest

def ordered (ranges : List Range) : CharSet :=
  match ranges.mergeSort fun r s => r.first ≤ s.first with
  | [] => []
  | r :: rest => joinFrom r rest

def union (a b : CharSet) : CharSet := ordered (a ++ b)

def unions (sets : List CharSet) : CharSet := ordered sets.flatten

def inter : CharSet → CharSet → CharSet
  | [], _ => []
  | _, [] => []
  | r :: a, s :: b =>
      let first := max r.first s.first
      let last := min r.last s.last
      let rest := if r.last ≤ s.last then inter a (s :: b) else inter (r :: a) b
      if first ≤ last then ⟨first, last⟩ :: rest else rest
  termination_by a b => a.length + b.length

def scalars : CharSet := [⟨0, 0xD7FF⟩, ⟨0xE000, 0x10FFFF⟩]

def gaps (next : Nat) : CharSet → CharSet
  | [] => [⟨next, 0x10FFFF⟩]
  | r :: rest =>
      if next < r.first then ⟨next, r.first - 1⟩ :: gaps (r.last + 1) rest
      else gaps (r.last + 1) rest

def compl (set : CharSet) : CharSet := (gaps 0 (ordered set)).inter scalars

def diff (a b : CharSet) : CharSet := (ordered a).inter b.compl

def symmDiff (a b : CharSet) : CharSet := (a.diff b).union (b.diff a)

end CharSet

end GestureGraph.Text
