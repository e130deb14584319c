import SealedSync.Http.Host.Mapping
import SealedSync.Text.Composition
import SealedSync.Text.Direction
import SealedSync.Text.Joining
import SealedSync.Text.Punycode

/-!
# Host names

A name is a row of labels between dots. Each label is brought into its normal form, in which
characters are replaced by those that they stand for and letters are composed, and is then written
in ASCII, with the sign `xn--` in front of a form of Punycode. A label that carries the sign already
has to be the form of a label in its normal form. Labels with letters beyond ASCII must not begin
with a mark, must hold joiners only where they mean something, and, in a name with letters that run
from right to left, must be consistent in direction.
-/
namespace SealedSync.Http.HostName

def isAscii (text : List Char) : Bool := text.all Punycode.isAscii

/-- The sign of a label in Punycode. -/
def sign : List Char := ['x', 'n', '-', '-']

def isDot (c : Char) : Bool := c == '.'

/-- The text that a text stands for; dots may come in. -/
def normalForm (text : List Char) : Option (List Char) := do
  if isAscii text then return text.map Char.toLower
  return Composition.compose (← text.mapM image).flatten

/-- The most letters of a label that is written in Punycode. -/
def maxLetters : Nat := 1000

/-- The longest form of Punycode that is read. -/
def maxForm : Nat := 2000

/-- A label in its normal form may stand in a name. -/
def isAllowed (label : List Char) : Bool :=
  isAscii label ||
    (!label.head?.any Marks.isMark && Joining.allPlaced [] label && label.length ≤ maxLetters)

/-- The label of a form of Punycode. -/
def readForm (form : List Char) : Option (List Char) := do
  if form.getLast? = some '-' || maxForm < form.length then none
  let label ← Punycode.decode? form
  if !isAscii label && normalForm label = some label then return label
  none

/-- The letters of a label in its normal form. -/
def readLabel (label : List Char) : Option (List Char) := do
  let letters ← if sign.isPrefixOf label then readForm (label.drop 4) else some label
  if isAllowed letters then return letters
  none

/-- The labels of a name. -/
def readLabels (name : List Char) : Option (List (List Char)) := do
  let forms ← (Split.pieces isDot name).mapM normalForm
  let labels ← (forms.flatMap (Split.pieces isDot)).mapM readLabel
  if (labels.any fun label => label.any fun c => (Direction.ofChar c).isFromRight) &&
      !labels.all Direction.isConsistent then none
  return labels

def writeLabel (label : List Char) : List Char :=
  if isAscii label then label else sign ++ Punycode.encode label

/-- A name in ASCII. -/
def toAscii (name : List Char) : Option (List Char) := do
  return List.intercalate ['.'] ((← readLabels name).map writeLabel)

end SealedSync.Http.HostName
