import GestureGraph.Text.Normal.Data

namespace GestureGraph.Text

namespace Normal

def combiningClass (n : Nat) : Nat :=
  ((classRuns.find? (·.range.contains n)).map (·.value)).getD 0

def syllableBase : Nat := 0xAC00
def leadBase : Nat := 0x1100
def vowelBase : Nat := 0x1161
def tailBase : Nat := 0x11A7
def leadCount : Nat := 19
def vowelCount : Nat := 21
def tailCount : Nat := 28

def jamo (n : Nat) : List Nat :=
  let i := n - syllableBase
  let tail := i % tailCount
  let lead := leadBase + i / (vowelCount * tailCount)
  let vowel := vowelBase + i % (vowelCount * tailCount) / tailCount
  if tail = 0 then [lead, vowel] else [lead, vowel, tailBase + tail]

def isSyllable (n : Nat) : Bool :=
  syllableBase ≤ n && n < syllableBase + leadCount * vowelCount * tailCount

def decomposeIn : (fuel : Nat) → Nat → List Nat
  | 0, n => [n]
  | fuel + 1, n =>
      match decompositions.find? (·.source == n) with
      | none => [n]
      | some d => decomposeIn fuel d.first ++ d.second?.toList.flatMap (decomposeIn fuel)

/-- No character nests its decompositions deeper than four. -/
def decompose (n : Nat) : List Nat :=
  if isSyllable n then jamo n else decomposeIn 4 n

def insertMark (n : Nat) : List Nat → List Nat
  | [] => [n]
  | m :: ms =>
      if 0 < combiningClass m ∧ combiningClass m < combiningClass n then m :: insertMark n ms
      else n :: m :: ms

def reorder : List Nat → List Nat
  | [] => []
  | n :: ns => insertMark n (reorder ns)

theorem insertMark_perm (n : Nat) (ns : List Nat) : (insertMark n ns).Perm (n :: ns) := by
  induction ns with
  | nil => simp [insertMark]
  | cons m ms ih =>
      simp only [insertMark]
      split
      · exact (List.Perm.cons m ih).trans (List.Perm.swap n m ms)
      · exact List.Perm.refl _

theorem reorder_perm (ns : List Nat) : (reorder ns).Perm ns := by
  induction ns with
  | nil => exact List.Perm.refl _
  | cons n ns ih => exact (insertMark_perm n _).trans (List.Perm.cons n ih)

def composeJamo? (a b : Nat) : Option Nat :=
  if leadBase ≤ a ∧ a < leadBase + leadCount ∧ vowelBase ≤ b ∧ b < vowelBase + vowelCount then
    some (syllableBase + ((a - leadBase) * vowelCount + (b - vowelBase)) * tailCount)
  else if isSyllable a ∧ (a - syllableBase) % tailCount = 0 ∧ tailBase < b
      ∧ b < tailBase + tailCount then
    some (a + (b - tailBase))
  else none

def composite? (a b : Nat) : Option Nat :=
  (composeJamo? a b).or
    ((decompositions.find? fun d =>
      d.first == a && d.second? == some b && !uncomposed.any (·.contains d.source)).map (·.source))

/-- Joins marks to the last starter. `marks` are those that stay behind it, newest first; a mark is
blocked by one of the same or a higher class. -/
def composeFrom (starter : Nat) (marks : List Nat) : List Nat → List Nat
  | [] => starter :: marks.reverse
  | n :: ns =>
      let blocked := marks.any fun m => combiningClass n ≤ combiningClass m
      match if blocked then none else composite? starter n with
      | some joined => composeFrom joined marks ns
      | none =>
          if combiningClass n = 0 then starter :: marks.reverse ++ composeFrom n [] ns
          else composeFrom starter (n :: marks) ns

def compose : List Nat → List Nat
  | [] => []
  | n :: ns => if combiningClass n = 0 then composeFrom n [] ns else n :: compose ns

end Normal

def composed (cs : List Char) : List Char :=
  if cs.all (·.toNat < 0x300) then cs
  else (Normal.compose (Normal.reorder (cs.flatMap (Normal.decompose ·.toNat)))).map Char.ofNat

theorem composed_of_lt {cs : List Char} (h : ∀ c ∈ cs, c.toNat < 0x300) : composed cs = cs := by
  have : cs.all (·.toNat < 0x300) = true := by simpa using h
  simp [composed, this]

end GestureGraph.Text
