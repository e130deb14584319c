/-!
# Maps from names

A map holds its entries in the order of their names, each name once, so maps that agree on every
name are equal. Names are ordered by their code points, which is the order of their UTF-8 bytes.
-/
namespace SealedSync

/-- Entries in strictly ascending order of their names. -/
def Ascending {α : Type} (entries : List (String × α)) : Prop :=
  entries.Pairwise fun a b => a.1 < b.1

structure NameMap (α : Type) where
  entries : List (String × α)
  ascending : Ascending entries

namespace NameMap

variable {α : Type}

@[ext]
theorem ext {m n : NameMap α} (h : m.entries = n.entries) : m = n := by
  cases m
  cases n
  simp_all

instance [DecidableEq α] : DecidableEq (NameMap α) := fun m n =>
  if h : m.entries = n.entries then isTrue (ext h) else isFalse fun e => h (by rw [e])

instance [Repr α] : Repr (NameMap α) := ⟨fun m n => reprPrec m.entries n⟩

def empty : NameMap α := ⟨[], List.Pairwise.nil⟩

instance : Inhabited (NameMap α) := ⟨empty⟩

/-- Puts an entry in its place, in the stead of one of the same name. -/
def insertEntry (name : String) (a : α) : List (String × α) → List (String × α)
  | [] => [(name, a)]
  | (other, b) :: rest =>
      if name < other then (name, a) :: (other, b) :: rest
      else if name = other then (name, a) :: rest
      else (other, b) :: insertEntry name a rest

theorem mem_insertEntry {name : String} {a : α} {entries : List (String × α)} {e : String × α}
    (h : e ∈ insertEntry name a entries) : e = (name, a) ∨ e ∈ entries := by
  induction entries with
  | nil => simpa [insertEntry] using h
  | cons head rest ih =>
      obtain ⟨other, b⟩ := head
      simp only [insertEntry] at h
      split at h
      · simpa using h
      · split at h
        · rcases List.mem_cons.mp h with h | h
          · exact .inl h
          · exact .inr (List.mem_cons_of_mem _ h)
        · rcases List.mem_cons.mp h with h | h
          · exact .inr (h ▸ List.mem_cons_self)
          · rcases ih h with h | h
            · exact .inl h
            · exact .inr (List.mem_cons_of_mem _ h)

theorem lt_of_not_lt_of_ne {a b : String} (h : ¬a < b) (ne : a ≠ b) : b < a := by
  rcases Decidable.em (b < a) with lt | nlt
  · exact lt
  · exact absurd (String.le_antisymm (String.not_lt.mp nlt) (String.not_lt.mp h)) ne

theorem ascending_insertEntry (name : String) (a : α) {entries : List (String × α)}
    (h : Ascending entries) : Ascending (insertEntry name a entries) := by
  induction entries with
  | nil => simp [insertEntry, Ascending]
  | cons head rest ih =>
      obtain ⟨other, b⟩ := head
      have below := (List.pairwise_cons.mp h).1
      have tail := (List.pairwise_cons.mp h).2
      simp only [insertEntry]
      split
      next lt =>
        refine List.pairwise_cons.mpr ⟨fun e he => ?_, h⟩
        rcases List.mem_cons.mp he with he | he
        · exact he ▸ lt
        · exact String.lt_trans lt (below e he)
      next nlt =>
        split
        next eq => exact List.pairwise_cons.mpr ⟨fun e he => eq ▸ below e he, tail⟩
        next ne =>
          refine List.pairwise_cons.mpr ⟨fun e he => ?_, ih tail⟩
          rcases mem_insertEntry he with he | he
          · exact he ▸ lt_of_not_lt_of_ne nlt ne
          · exact below e he

/-- Sets the value of a name. -/
def insert (m : NameMap α) (name : String) (a : α) : NameMap α :=
  ⟨insertEntry name a m.entries, ascending_insertEntry name a m.ascending⟩

/-- Sets the values of names one after another, so the last value of a name stays. -/
def ofList (entries : List (String × α)) : NameMap α :=
  entries.foldl (fun m e => m.insert e.1 e.2) empty

def get? (m : NameMap α) (name : String) : Option α := m.entries.lookup name

def contains (m : NameMap α) (name : String) : Bool := (m.get? name).isSome

def erase (m : NameMap α) (name : String) : NameMap α :=
  ⟨m.entries.filter fun e => e.1 != name, m.ascending.filter _⟩

def names (m : NameMap α) : List String := m.entries.map (·.1)

def size (m : NameMap α) : Nat := m.entries.length

def isEmpty (m : NameMap α) : Bool := m.entries.isEmpty

end NameMap

end SealedSync
