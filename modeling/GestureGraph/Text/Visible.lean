import GestureGraph.Text.Category.Chars

namespace GestureGraph.Text

/-- The spacing marks that extend the character before them all the same. -/
def extendingMarks : CharSet := .ofRows
  ["9BE 9D7 B3E B57 BBE BD7 CC0 CC2 CC7-CC8 CCA-CCB CD5-CD6 D3E D57 DCF DDF 1715 1734 1B35 1B3B",
   "1B3D 1B43-1B44 1BAA 1BF2-1BF3 302E-302F A953 A9C0 111C0 11235 1133E 1134D 11357 113B8 113C2",
   "113C5 113C7-113C9 113CF 114B0 114BD 115AF 116B6 11930 1193D 11F41 16FF0-16FF1 1D165-1D166",
   "1D16D-1D172"]

def fillers : CharSet := .ofRows ["115F-1160 3164 FFA0"]

def hiddenCategories : List Category :=
  [.nonspacingMark, .enclosingMark, .spaceSeparator, .lineSeparator, .paragraphSeparator, .control,
    .format, .privateUse, .unassigned]

def visible : CharSet :=
  (Category.charsOf (Category.all.filter fun category => !hiddenCategories.contains category)).diff
    (extendingMarks.union fillers)

/-- From the blank to the tilde every character shows. Beyond, a table decides that moves with the
version of Unicode: this one, of version 17, hides the four Hangul fillers and shows the two
halfwidth sound marks. What is proved of quoted texts holds for any table. -/
def isVisible (c : Char) : Bool :=
  if 0x20 ≤ c.toNat && c.toNat < 0x7F then true else visible.contains c

end GestureGraph.Text
