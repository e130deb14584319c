import SealedSync.Json.Decode

/-!
# Records that are read field by field

Members are read one after another, each into the slot of its field, and members of no field are passed over. So
what is read of a field is what the members of its name say, wherever they stand among the others.
-/
namespace SealedSync.Json

namespace Members

/-- The values of all members of a name. -/
def values (name : String) : Members → List Json
  | .closed | .cut => []
  | .member (.string (some key)) value tail =>
      if key = name then value :: tail.values name else tail.values name
  | .member _ _ tail => tail.values name

/-- Every key is legible, and the list of members is closed. -/
def Named : Members → Prop
  | .closed => True
  | .cut => False
  | .member (.string (some _)) _ tail => tail.Named
  | .member .. => False

end Members

/-- Reads a field from the values of all members of its name. -/
def readValues {α : Type} (name : String) (decode : Decoder α) :
    Option α → List Json → Except DecodeError (Option α)
  | slot, [] => .ok slot
  | slot, value :: rest => do readValues name decode (← readField name slot decode value) rest

section ReadValues

variable {α : Type} {name : String} {decode : Decoder α} {values : List Json}

theorem readValues_filled {a : α} {slot : Option α} :
    readValues name decode (some a) values = .ok slot ↔ values = [] ∧ slot = some a := by
  cases values with
  | nil => simp [readValues, eq_comm]
  | cons value rest => simp [readValues, readField, bind, Except.bind]

/-- A field is read where exactly one member has its name. -/
theorem readValues_eq_some {a : α} :
    readValues name decode none values = .ok (some a) ↔
      ∃ value, values = [value] ∧ decode value = .ok a := by
  cases values with
  | nil => simp [readValues]
  | cons value rest =>
      cases decoded : decode value with
      | error e => simp [readValues, readField, bind, Except.bind, Except.map, decoded]
      | ok b =>
          have first : readValues name decode none (value :: rest) =
              readValues name decode (some b) rest := by
            simp [readValues, readField, bind, Except.bind, Except.map, decoded]
          rw [first, readValues_filled]
          constructor
          · rintro ⟨rfl, same⟩
            exact ⟨value, rfl, decoded.trans (congrArg Except.ok (Option.some.inj same.symm))⟩
          · rintro ⟨v, same, found⟩
            obtain ⟨rfl, rfl⟩ := List.cons.inj same
            exact ⟨rfl, congrArg some (Except.ok.inj (found.symm.trans decoded))⟩

theorem readValues_eq_none :
    readValues name decode none values = .ok none ↔ values = [] := by
  cases values with
  | nil => simp [readValues]
  | cons value rest =>
      cases decoded : decode value with
      | error e => simp [readValues, readField, bind, Except.bind, Except.map, decoded]
      | ok b =>
          have first : readValues name decode none (value :: rest) =
              readValues name decode (some b) rest := by
            simp [readValues, readField, bind, Except.bind, Except.map, decoded]
          rw [first, readValues_filled]
          simp

end ReadValues

/-! ## Records -/

variable {δ : Type}

/-- A field of a record: how its value is decoded and where a draft of the record keeps it. -/
structure Field (δ : Type) where
  {α : Type}
  name : String
  decode : Decoder α
  slot : δ → Option α
  store : δ → Option α → δ

/-- By such steps the members of a record are read. A field goes into its slot and leaves the others as they
are, and whatever is no field is passed over. -/
structure ReadsFields (fields : List (Field δ)) (step : δ → String → Json → Except DecodeError δ) :
    Prop where
  distinct : ∀ f ∈ fields, ∀ g ∈ fields, f.name = g.name → f = g
  takes : ∀ f ∈ fields, ∀ d value,
    step d f.name value = (readField f.name (f.slot d) f.decode value).map (f.store d)
  stores : ∀ f ∈ fields, ∀ d slot, f.slot (f.store d slot) = slot
  keeps : ∀ f ∈ fields, ∀ g ∈ fields, g.name ≠ f.name → ∀ d slot, g.slot (f.store d slot) = g.slot d
  passes : ∀ d name value, (∀ f ∈ fields, name ≠ f.name) →
    step d name value = value.skip.map fun _ => d
  ext : ∀ d e, (∀ f ∈ fields, f.slot d = f.slot e) → d = e

namespace ReadsFields

variable {fields : List (Field δ)} {step : δ → String → Json → Except DecodeError δ}
  (reads : ReadsFields fields step)

include reads

/-- A value of a field fills the slot of the field. -/
theorem fold_member {f : Field δ} (field : f ∈ fields) {d e : δ} {value : Json} {tail : Members}
    (rest : ∀ {d}, tail.fold step d = .ok e ↔ tail.Named ∧
      ∀ g ∈ fields, readValues g.name g.decode (g.slot d) (tail.values g.name) = .ok (g.slot e)) :
    (Members.member (text f.name) value tail).fold step d = .ok e ↔
      (Members.member (text f.name) value tail).Named ∧ ∀ g ∈ fields,
        readValues g.name g.decode (g.slot d)
          ((Members.member (text f.name) value tail).values g.name) = .ok (g.slot e) := by
  simp only [text, Members.fold, Members.Named, Members.values, reads.takes f field]
  cases read : readField f.name (f.slot d) f.decode value with
  | error problem =>
      simp only [Except.map, bind, Except.bind, reduceCtorEq, false_iff, not_and]
      intro _ all
      have own := all f field
      simp [readValues, read, bind, Except.bind] at own
  | ok slot =>
      simp only [Except.map, bind, Except.bind, rest]
      refine and_congr_right fun _ => forall₂_congr fun g other => ?_
      by_cases same : g.name = f.name
      · obtain rfl := reads.distinct g other f field same
        simp [reads.stores _ field, readValues, read, bind, Except.bind]
      · rw [reads.keeps f field g other same, if_neg (Ne.symm same)]

/-- Members are read one after another, and each field from the members of its name. -/
theorem fold_eq_ok {e : δ} : ∀ {members : Members} {d : δ}, members.intact = true →
    (members.fold step d = .ok e ↔ members.Named ∧ ∀ f ∈ fields,
      readValues f.name f.decode (f.slot d) (members.values f.name) = .ok (f.slot e))
  | .closed, d, _ => by
      simp only [Members.fold, Members.Named, Members.values, readValues, Except.ok.injEq, true_and]
      constructor
      · rintro rfl f _
        rfl
      · exact reads.ext d e
  | .cut, _, intact => by simp [Members.intact] at intact
  | .member (.string none) value tail, _, _ => by simp [Members.fold, Members.Named]
  | .member (.string (some name)) value tail, d, intact => by
      have intact : value.intact = true ∧ tail.intact = true := by
        simpa [Members.intact, isString] using intact
      have rest {d : δ} := fold_eq_ok (e := e) (d := d) intact.2
      by_cases known : ∃ f ∈ fields, f.name = name
      · obtain ⟨f, field, rfl⟩ := known
        exact reads.fold_member field rest
      · have other : ∀ f ∈ fields, name ≠ f.name := fun f field same => known ⟨f, field, same.symm⟩
        simp only [Members.fold, Members.Named, Members.values, reads.passes d name value other, skip,
          intact.1, if_true, Except.map, bind, Except.bind, rest]
        refine and_congr_right fun _ => forall₂_congr fun f field => ?_
        rw [if_neg (other f field)]

end ReadsFields

end SealedSync.Json
