import SealedSync.Text.Hex
import SealedSync.Text.Split

/-!
# Tables of characters

Sets and maps of characters are kept as text. Code points are hexadecimal, and blanks stand between
words. A word of a set is a code point, or the first and the last of a range with a hyphen between
them. In a map, a word that ends in a colon names a code point, and the words after it are the
images of this code point and of the next ones in order; the code points of a longer image are
joined by `+`, and a hyphen passes over a code point without an image.
-/
namespace SealedSync.CodeTable

def words (text : String) : List (List Char) :=
  Split.words (fun c => c == ' ' || c == '\n') text.toList

def number (digits : List Char) : Nat :=
  digits.foldl (fun n c => n * 16 + (Hex.value? c).getD 0) 0

def readRange (word : List Char) : Nat × Nat :=
  match Split.pieces (· == '-') word with
  | [first, last] => (number first, number last)
  | _ => (number word, number word)

/-- The closed ranges of a set. -/
def readSet (text : String) : List (Nat × Nat) := (words text).map readRange

def contains (set : List (Nat × Nat)) (c : Char) : Bool :=
  set.any fun range => range.1 ≤ c.toNat && c.toNat ≤ range.2

def readImage (word : List Char) : List Char :=
  (Split.pieces (· == '+') word).map fun digits => Char.ofNat (number digits)

/-- The entries of a map; `code` is the code point whose image comes next. -/
def readEntries (code : Nat) : List (List Char) → List (Nat × List Char)
  | [] => []
  | word :: rest =>
      if word.getLast? = some ':' then readEntries (number word.dropLast) rest
      else if word = ['-'] then readEntries (code + 1) rest
      else (code, readImage word) :: readEntries (code + 1) rest

def readMap (text : String) : List (Nat × List Char) := readEntries 0 (words text)

def image? (map : List (Nat × List Char)) (c : Char) : Option (List Char) := map.lookup c.toNat

end SealedSync.CodeTable
