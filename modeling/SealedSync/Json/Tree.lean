import SealedSync.Json.Numeral

/-!
# JSON as far as it goes

A document is read from left to right, and what is read before the text stops being JSON still
counts. So a value may be broken, and a list of items or members may be cut short where the text
breaks off. A string whose escapes or bytes do not form characters is a string without content; this
matters only to those who look at it. Member keys are values as well, since a text may hold another
value where a key belongs.
-/
namespace SealedSync

mutual

inductive Json where
  | null
  | bool (b : Bool)
  | number (n : Json.Numeral)
  | string (content : Option String)
  | array (items : Json.Items)
  | object (members : Json.Members)
  | broken

inductive Json.Items where
  | closed
  | cut
  | item (head : Json) (tail : Json.Items)

inductive Json.Members where
  | closed
  | cut
  | member (key value : Json) (tail : Json.Members)

end

namespace Json

def text (s : String) : Json := .string (some s)

def nat (n : Nat) : Json := .number (.ofNat n)

/-- Numbers without a decimal form are written as null. -/
def float (x : Binary64) : Json := if x.isFinite then .number (.ofFinite x) else .null

def optional {α : Type} (write : α → Json) : Option α → Json
  | none => .null
  | some a => write a

def Items.ofList : List Json → Items
  | [] => .closed
  | v :: rest => .item v (ofList rest)

def Members.ofList : List (String × Json) → Members
  | [] => .closed
  | (key, v) :: rest => .member (text key) v (ofList rest)

def list (items : List Json) : Json := .array (.ofList items)

def fields (members : List (String × Json)) : Json := .object (.ofList members)

def isString : Json → Bool
  | .string _ => true
  | _ => false

mutual

/-- The whole of a value is JSON. The contents of its strings are not looked at. -/
def intact : Json → Bool
  | .null | .bool _ | .number _ | .string _ => true
  | .array items => items.intact
  | .object members => members.intact
  | .broken => false

def Items.intact : Items → Bool
  | .closed => true
  | .cut => false
  | .item head tail => head.intact && tail.intact

def Members.intact : Members → Bool
  | .closed => true
  | .cut => false
  | .member key value tail => key.isString && value.intact && tail.intact

end

end Json

end SealedSync
