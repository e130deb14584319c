/-!
# Cutting text

A text is cut once, before the first character that satisfies a test, or into pieces at every
separator. Neither loses a character other than the separators.
-/
namespace SealedSync.Split

/-- The part of a text before the first character that satisfies a test, and the rest. -/
def before (stop : Char → Bool) (text : List Char) : List Char × List Char :=
  (text.takeWhile fun c => !stop c, text.dropWhile fun c => !stop c)

/-- Pieces of a text between separators; there is always one. -/
def pieces (isSeparator : Char → Bool) : List Char → List (List Char)
  | [] => [[]]
  | c :: rest =>
      match pieces isSeparator rest with
      | head :: tail => if isSeparator c then [] :: head :: tail else (c :: head) :: tail
      | [] => [[c]]

/-- Pieces of a text between pairs of one character. -/
def pairPieces (c : Char) : List Char → List (List Char)
  | a :: b :: rest =>
      if a = c ∧ b = c then [] :: pairPieces c rest
      else
        match pairPieces c (b :: rest) with
        | head :: tail => (a :: head) :: tail
        | [] => [[a]]
  | text => [text]

/-- The pieces that are not empty. -/
def words (isSeparator : Char → Bool) (text : List Char) : List (List Char) :=
  (pieces isSeparator text).filter fun piece => !piece.isEmpty

end SealedSync.Split
