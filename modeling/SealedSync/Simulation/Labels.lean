import SealedSync.Crypto.Key
import SealedSync.Time.Instant

/-!
# Labels for random values

Identifiers, keys and times that come from chance or from the clock are shown by labels: identifiers
and keys are numbered in the order in which they come into use.
-/
namespace SealedSync.Simulation

/-- The identifiers and keys in use, in the order of their numbers. -/
structure Labels where
  ids : List String
  keys : List Key

namespace Labels

def empty : Labels := ⟨[], []⟩

def addId (l : Labels) (id : String) : Labels := { l with ids := l.ids ++ [id] }

def addKey (l : Labels) (key : Key) : Labels := { l with keys := l.keys ++ [key] }

/-- The time that the clock shows. -/
def now : Instant := ⟨⟨2001, 9, 9, 1, 46, 40, 987654321⟩, by decide⟩

def numbered {α : Type} (items : List α) : List (α × Nat) := items.zip (List.range' 1 items.length)

/-- Shows labels in the place of the values. -/
def hide (l : Labels) (text : String) : String :=
  let text := (numbered l.ids).foldl (fun t e => t.replace e.1 s!"$id{e.2}") text
  let text := (numbered l.keys).foldl
    (fun t e => (t.replace e.1.toHex s!"$key{e.2}").replace e.1.toBase64 s!"$key{e.2}") text
  text.replace now.text "$now"

/-- Puts identifiers in the place of their labels, the greater numbers first. -/
def reveal (l : Labels) (text : String) : String :=
  (numbered l.ids).reverse.foldl (fun t e => t.replace s!"$id{e.2}" e.1) text

end Labels

end SealedSync.Simulation
