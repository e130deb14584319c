import SealedSync.Proofs.Gaps

/-!
# Records and the texts that hold them

A decoder that refuses whatever is not JSON to its end decodes a source exactly if the source holds a value
that it decodes. A record is decoded from an object in which each field stands once among members that are
passed over, or from an array of its fields in order.
-/
namespace SealedSync

namespace Json

/-- The source is JSON, and this value is all that it holds. -/
structure Holds (source : Source) (value : Json) : Prop where
  found : (read source).1 = value
  alone : skipSpace (read source).2 = []
  intact : value.intact = true

/-- A source holds the value that it is a text of. -/
theorem holds_iff {source : Source} {value : Json} : Holds source value ↔ Fills source value := by
  rw [fills_iff]
  exact ⟨fun ⟨found, alone, intact⟩ => ⟨found, alone, intact⟩,
    fun ⟨found, alone, intact⟩ => ⟨found, alone, intact⟩⟩

theorem holds_render {value : Json} (legible : value.Legible) : Holds (.ofText value.render) value :=
  holds_iff.mpr (isText_render legible)

/-- The decoder refuses what is not JSON to its end. -/
def Thorough {α : Type} (decode : Decoder α) : Prop :=
  ∀ {value : Json} {a : α}, decode value = .ok a → value.intact = true

section Thorough

variable {α : Type} {decode : Decoder α} {source : Source} {a : α}

/-- What is decoded from a source is decoded from the value that it holds. -/
theorem decodeSource_eq_ok_iff (thorough : Thorough decode) :
    decodeSource decode source = .ok a ↔ ∃ value, Holds source value ∧ decode value = .ok a := by
  rw [decodeSource_eq_ok]
  constructor
  · rintro ⟨decoded, alone⟩
    exact ⟨_, ⟨rfl, alone, thorough decoded⟩, decoded⟩
  · rintro ⟨_, ⟨rfl, alone, -⟩, decoded⟩
    exact ⟨decoded, alone⟩

/-- What decodes is JSON. -/
theorem Thorough.exists_isText (thorough : Thorough decode) {text : String}
    (decoded : decodeText decode text = .ok a) : ∃ value, IsText text value := by
  obtain ⟨value, holds, -⟩ := (decodeSource_eq_ok_iff thorough).mp decoded
  exact ⟨value, holds_iff.mp holds⟩

theorem thorough_decodeString : Thorough decodeString := by
  intro value s decoded
  obtain rfl := decodeString_eq_ok.mp decoded
  rfl

theorem thorough_decodeNat32 : Thorough decodeNat32 := by
  intro value k decoded
  obtain ⟨n, rfl, -⟩ := decodeNat32_eq_ok.mp decoded
  rfl

theorem thorough_decodeFloat : Thorough decodeFloat := by
  intro value x decoded
  cases value with
  | number n => rfl
  | _ => cases decoded

end Thorough

/-! ## Records in object form -/

theorem intact_of_readField {α : Type} {decode : Decoder α} {name : String} {slot read : Option α}
    {value : Json} (thorough : Thorough decode) (decoded : readField name slot decode value = .ok read) :
    value.intact = true := by
  unfold readField at decoded
  split at decoded
  · cases decoded
  · cases found : decode value with
    | error e =>
        rw [found] at decoded
        cases decoded
    | ok a => exact thorough found

namespace ReadsFields

variable {δ : Type} {fields : List (Field δ)} {step : δ → String → Json → Except DecodeError δ}
  (reads : ReadsFields fields step) (thorough : ∀ f ∈ fields, Thorough f.decode)

include reads thorough

theorem intact_of_step {d e : δ} {name : String} {value : Json} (stepped : step d name value = .ok e) :
    value.intact = true := by
  by_cases known : ∃ f ∈ fields, f.name = name
  · obtain ⟨f, field, rfl⟩ := known
    rw [reads.takes f field] at stepped
    cases read : readField f.name (f.slot d) f.decode value with
    | error problem =>
        rw [read] at stepped
        cases stepped
    | ok slot => exact intact_of_readField (thorough f field) read
  · rw [reads.passes d name value fun f field same => known ⟨f, field, same.symm⟩] at stepped
    cases intact : value.intact with
    | true => rfl
    | false =>
        simp only [skip, intact] at stepped
        cases stepped

/-- Where every field is read to its end, so are the members. -/
theorem intact_of_fold {e : δ} : ∀ {members : Members} {d : δ}, members.fold step d = .ok e →
    members.intact = true
  | .closed, _, _ => rfl
  | .cut, _, folded => by cases folded
  | .member (.string none) _ _, _, folded => by cases folded
  | .member (.string (some name)) value tail, d, folded => by
      obtain ⟨_, stepped, folded⟩ := Except.bind_eq_ok.mp folded
      simp [Members.intact, isString, reads.intact_of_step thorough stepped, intact_of_fold folded]
  | .member .null _ _, _, folded | .member (.bool _) _ _, _, folded
  | .member (.number _) _ _, _, folded | .member (.array _) _ _, _, folded
  | .member (.object _) _ _, _, folded | .member .broken _ _, _, folded => by cases folded

theorem fold_eq_ok_iff {members : Members} {d e : δ} :
    members.fold step d = .ok e ↔ members.Named ∧ members.intact = true ∧ ∀ f ∈ fields,
      readValues f.name f.decode (f.slot d) (members.values f.name) = .ok (f.slot e) := by
  constructor
  · intro folded
    have intact := reads.intact_of_fold thorough folded
    obtain ⟨named, all⟩ := (reads.fold_eq_ok intact).mp folded
    exact ⟨named, intact, all⟩
  · rintro ⟨named, intact, all⟩
    exact (reads.fold_eq_ok intact).mpr ⟨named, all⟩

end ReadsFields

/-! ## Records in array form -/

section Items

variable {α : Type} {decode : Decoder α} {items rest : Items} {a : α}

theorem Items.next_eq_ok {index : Nat} {expected : String} :
    items.next index expected decode = .ok (a, rest) ↔
      ∃ head, items = .item head rest ∧ decode head = .ok a := by
  cases items with
  | closed => simp [next]
  | cut => simp [next]
  | item head tail =>
      simp only [next, Except.bind_eq_ok, pure, Except.pure, Except.ok.injEq, Prod.mk.injEq,
        Items.item.injEq]
      constructor
      · rintro ⟨_, decoded, rfl, rfl⟩
        exact ⟨head, ⟨rfl, rfl⟩, decoded⟩
      · rintro ⟨_, ⟨rfl, rfl⟩, decoded⟩
        exact ⟨a, decoded, rfl, rfl⟩

theorem Items.nextOr_eq_ok {default : α} :
    items.nextOr default decode = .ok (a, rest) ↔
      items = .closed ∧ rest = .closed ∧ a = default ∨
        ∃ head, items = .item head rest ∧ decode head = .ok a := by
  cases items with
  | closed => simp [nextOr, eq_comm, and_comm]
  | cut => simp [nextOr]
  | item head tail =>
      simp only [nextOr, Except.bind_eq_ok, pure, Except.pure, Except.ok.injEq, Prod.mk.injEq,
        Items.item.injEq, reduceCtorEq, false_and, false_or]
      constructor
      · rintro ⟨_, decoded, rfl, rfl⟩
        exact ⟨head, ⟨rfl, rfl⟩, decoded⟩
      · rintro ⟨_, ⟨rfl, rfl⟩, decoded⟩
        exact ⟨a, decoded, rfl, rfl⟩

theorem Items.finish_eq_ok : items.finish = .ok () ↔ items = .closed := by
  cases items <;> simp [finish]

theorem Items.intact_of_finish (finished : items.finish = .ok ()) : items.intact = true := by
  rw [finish_eq_ok.mp finished]
  rfl

theorem Thorough.intact_of_next (thorough : Thorough decode) {index : Nat} {expected : String}
    (found : items.next index expected decode = .ok (a, rest)) (intact : rest.intact = true) :
    items.intact = true := by
  obtain ⟨head, rfl, decoded⟩ := Items.next_eq_ok.mp found
  simp [Items.intact, thorough decoded, intact]

theorem Thorough.intact_of_nextOr (thorough : Thorough decode) {default : α}
    (found : items.nextOr default decode = .ok (a, rest)) (intact : rest.intact = true) :
    items.intact = true := by
  rcases Items.nextOr_eq_ok.mp found with ⟨rfl, -, -⟩ | ⟨head, rfl, decoded⟩
  · rfl
  · simp [Items.intact, thorough decoded, intact]

end Items

end Json

end SealedSync
