import SealedSync.Text.Hex
import SealedSync.Text.Visible

/-!
# Quoted text in messages

A text is shown between double quotes so that every character of it can be told: a backslash, a
double quote and the common control characters have short escapes, and any other character that is
not visible is shown by its code point.
-/
namespace SealedSync.Quoted

/-- The code point of a character between braces. -/
def codePoint (c : Char) : List Char :=
  '\\' :: 'u' :: '\x7b' :: ((Hex.ofNat c.toNat).toList ++ ['\x7d'])

def escapeChar (c : Char) : List Char :=
  if c = '\x00' then ['\\', '0']
  else if c = '\t' then ['\\', 't']
  else if c = '\r' then ['\\', 'r']
  else if c = '\n' then ['\\', 'n']
  else if c = '"' then ['\\', '"']
  else if c = '\\' then ['\\', '\\']
  else if Visible.isVisible c then [c]
  else codePoint c

def quote (text : String) : String :=
  String.ofList ('"' :: (text.toList.flatMap escapeChar ++ ['"']))

end SealedSync.Quoted
