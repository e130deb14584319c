import SealedSync.NameMap

/-!
# Rosters

Members are numbered in the order in which they come, and a member goes by its name until another
one takes that name. A member that has lost its name is still there for those who know its number.
-/
namespace SealedSync.Simulation

structure Roster (α : Type) where
  members : List α
  numbers : NameMap Nat

namespace Roster

variable {α : Type}

def empty : Roster α := ⟨[], .empty⟩

def add (r : Roster α) (name : String) (a : α) : Roster α :=
  ⟨r.members ++ [a], r.numbers.insert name r.members.length⟩

def get? (r : Roster α) (number : Nat) : Option α := r.members[number]?

def set (r : Roster α) (number : Nat) (a : α) : Roster α :=
  { r with members := r.members.set number a }

/-- The member of a name, with its number. -/
def find? (r : Roster α) (name : String) : Option (Nat × α) := do
  let number ← r.numbers.get? name
  return (number, ← r.get? number)

end Roster

end SealedSync.Simulation
