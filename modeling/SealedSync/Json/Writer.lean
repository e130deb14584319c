import SealedSync.Json.Tree
import SealedSync.Text.Hex

/-!
# Writing JSON

The compact form has no space at all; the indented form puts every item and member on a line of its
own, two spaces deeper than what holds it. In strings only the quote, the backslash and the control
characters below the space are escaped.
-/
namespace SealedSync.Json

def escapeChar (c : Char) : List Char :=
  if c = '"' then ['\\', '"']
  else if c = '\\' then ['\\', '\\']
  else if c = '\x08' then ['\\', 'b']
  else if c = '\x0c' then ['\\', 'f']
  else if c = '\n' then ['\\', 'n']
  else if c = '\r' then ['\\', 'r']
  else if c = '\t' then ['\\', 't']
  else if c.toNat < 0x20 then
    ['\\', 'u', '0', '0', Hex.digit (c.toNat / 16), Hex.digit (c.toNat % 16)]
  else [c]

def quoted (s : String) : List Char := '"' :: (s.toList.flatMap escapeChar ++ ['"'])

/-- The text of a value without items or members. -/
def scalar : Json → List Char
  | .bool true => ['t', 'r', 'u', 'e']
  | .bool false => ['f', 'a', 'l', 's', 'e']
  | .number n => n.text
  | .string content => quoted (content.getD "")
  | _ => ['n', 'u', 'l', 'l']

mutual

def renderChars : Json → List Char
  | .array items => '[' :: items.renderChars
  | .object members => '\x7b' :: members.renderChars
  | value => scalar value

def Items.renderChars : Items → List Char
  | .closed | .cut => [']']
  | .item head .closed => head.renderChars ++ [']']
  | .item head tail => head.renderChars ++ (',' :: tail.renderChars)

def Members.renderChars : Members → List Char
  | .closed | .cut => ['\x7d']
  | .member key value .closed => scalar key ++ (':' :: value.renderChars) ++ ['\x7d']
  | .member key value tail =>
      scalar key ++ (':' :: value.renderChars) ++ (',' :: tail.renderChars)

end

/-- The compact text of a value. -/
def render (value : Json) : String := String.ofList value.renderChars

/-- A line break and the indentation of a level. -/
def newLine (level : Nat) : List Char := '\n' :: List.replicate (2 * level) ' '

mutual

def indentChars (level : Nat) : Json → List Char
  | .array .closed => ['[', ']']
  | .array items => '[' :: items.indentChars level
  | .object .closed => ['\x7b', '\x7d']
  | .object members => '\x7b' :: members.indentChars level
  | value => scalar value

def Items.indentChars (level : Nat) : Items → List Char
  | .closed | .cut => newLine level ++ [']']
  | .item head .closed =>
      newLine (level + 1) ++ head.indentChars (level + 1) ++ newLine level ++ [']']
  | .item head tail =>
      newLine (level + 1) ++ head.indentChars (level + 1) ++ (',' :: tail.indentChars level)

def Members.indentChars (level : Nat) : Members → List Char
  | .closed | .cut => newLine level ++ ['\x7d']
  | .member key value .closed =>
      newLine (level + 1) ++ scalar key ++ (':' :: ' ' :: value.indentChars (level + 1)) ++
        newLine level ++ ['\x7d']
  | .member key value tail =>
      newLine (level + 1) ++ scalar key ++ (':' :: ' ' :: value.indentChars (level + 1)) ++
        (',' :: tail.indentChars level)

end

/-- The indented text of a value. -/
def renderIndented (value : Json) : String := String.ofList (value.indentChars 0)

end SealedSync.Json
