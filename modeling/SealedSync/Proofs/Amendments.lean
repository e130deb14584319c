import Mathlib.Data.List.Forall2
import SealedSync.Proofs.BundleDocument

/-!
# Records that others have added to

Another client may write the members of a record in another order, and add members of its own. What an unknown
name stands for is passed over whole, and each field is found wherever it stands. So the record says the same as
before, provided that the names that were added are strings of characters.
-/
namespace SealedSync

/-- What a list says of a name is said by the entries of that name. -/
theorem NameMap.lookup_filter {α : Type} (entries : List (String × α)) (name : String) :
    (entries.filter fun e => e.1 = name).lookup name = entries.lookup name := by
  induction entries with
  | nil => rfl
  | cons head rest ih =>
      by_cases same : head.1 = name
      · rw [List.filter_cons_of_pos (by simpa using same), lookup_cons, lookup_cons, if_pos same.symm,
          if_pos same.symm]
      · rw [List.filter_cons_of_neg (by simpa using same), lookup_cons, if_neg (Ne.symm same), ih]

namespace Json

/-! ## Members in lists -/

/-- A member of an object: the content of its key, if the key has one, and its value. -/
abbrev Entry := Option String × Json

/-- A member under the same name, with a value that has been changed as far as is allowed under it. -/
structure Entry.Changes (within : Option String → Json → Json → Prop) (e e' : Entry) : Prop where
  name : e'.1 = e.1
  value : within e.1 e.2 e'.2

def Members.ofEntries : List Entry → Members
  | [] => .closed
  | (content, value) :: rest => .member (.string content) value (ofEntries rest)

namespace Members

theorem values_ofEntries (name : String) (entries : List Entry) :
    (ofEntries entries).values name = (entries.filter fun e => e.1 = some name).map (·.2) := by
  induction entries with
  | nil => rfl
  | cons head rest ih =>
      obtain ⟨content, value⟩ := head
      cases content with
      | none => simpa [ofEntries, values] using ih
      | some key =>
          simp only [ofEntries, values, ih, List.filter_cons, Option.some.injEq, decide_eq_true_eq]
          split <;> rfl

theorem named_ofEntries {entries : List Entry} :
    (ofEntries entries).Named ↔ ∀ e ∈ entries, e.1.isSome = true := by
  induction entries with
  | nil => simp [ofEntries, Named]
  | cons head rest ih =>
      obtain ⟨content, value⟩ := head
      cases content with
      | none => simp [ofEntries, Named]
      | some key => simpa [ofEntries, Named] using ih

theorem intact_ofEntries {entries : List Entry} :
    (ofEntries entries).intact = true ↔ ∀ e ∈ entries, e.2.intact = true := by
  induction entries with
  | nil => simp [ofEntries, intact]
  | cons head rest ih => simp [ofEntries, intact, isString, ih]

theorem legible_ofEntries {entries : List Entry}
    (legible : ∀ e ∈ entries, e.1.isSome = true ∧ e.2.Legible) : (ofEntries entries).Legible := by
  induction entries with
  | nil => trivial
  | cons head rest ih =>
      obtain ⟨⟨named, first⟩, later⟩ := List.forall_mem_cons.mp legible
      obtain ⟨name, same⟩ := Option.isSome_iff_exists.mp named
      exact ⟨⟨name, congrArg Json.string same⟩, first, ih later⟩

theorem intact_of_mem_values {entries : List Entry} {name : String} {value : Json}
    (intact : (ofEntries entries).intact = true) (member : value ∈ (ofEntries entries).values name) :
    value.intact = true := by
  rw [values_ofEntries] at member
  obtain ⟨e, found, rfl⟩ := List.mem_map.mp member
  exact intact_ofEntries.mp intact e (List.mem_filter.mp found).1

/-- Members that are changed one by one have values under each name that are changed one by one. -/
theorem forall₂_values {within : Option String → Json → Json → Prop} {entries kept : List Entry}
    (changed : List.Forall₂ (Entry.Changes within) entries kept) (name : String) :
    List.Forall₂ (within (some name)) ((ofEntries entries).values name)
      ((ofEntries kept).values name) := by
  induction changed with
  | nil => exact .nil
  | @cons e e' _ _ head _ ih =>
      obtain ⟨content, value⟩ := e
      obtain ⟨content', value'⟩ := e'
      obtain ⟨same, amended⟩ := head
      obtain rfl : content' = content := same
      cases content' with
      | none => exact ih
      | some key =>
          simp only [ofEntries, values]
          split
          · rename_i named
            exact .cons (named ▸ amended) ih
          · exact ih

end Members

/-! ## Amended objects -/

/-- A field is read from its value wherever that stands and as long as it decodes to the same. -/
theorem readValues_of_changed {α : Type} {name : String} {decode : Decoder α} {slot : Option α}
    {related : Json → Json → Prop} {values changed values' : List Json}
    (alike : List.Forall₂ related values changed) (placed : values'.Perm changed)
    (respects : ∀ value ∈ values, ∀ value' ∈ values', ∀ a, related value value' →
      decode value = .ok a → decode value' = .ok a)
    (read : readValues name decode none values = .ok slot) :
    readValues name decode none values' = .ok slot := by
  cases slot with
  | none =>
      rw [readValues_eq_none.mp read, List.forall₂_nil_left_iff] at alike
      exact readValues_eq_none.mpr (List.perm_nil.mp (alike ▸ placed))
  | some a =>
      obtain ⟨value, rfl, decoded⟩ := readValues_eq_some.mp read
      obtain ⟨value', rest, amended, ended, rfl⟩ := List.forall₂_cons_left_iff.mp alike
      obtain rfl := List.forall₂_nil_left_iff.mp ended
      obtain rfl := List.perm_singleton.mp placed
      exact readValues_eq_some.mpr ⟨value', rfl, respects value (List.mem_singleton_self value) value'
        (List.mem_singleton_self value') a amended decoded⟩

/-- An object that others have written to: its members have been changed within, members of unknown names have
been added, and all of them have been put in some order. -/
inductive Amends (known : List String) (admitted : Option String → Prop)
    (within : Option String → Json → Json → Prop) : Json → Json → Prop where
  | object {entries kept added entries' : List Entry}
      (changed : List.Forall₂ (Entry.Changes within) entries kept)
      (unknown : ∀ e ∈ added, admitted e.1 ∧ ∀ name ∈ known, e.1 ≠ some name)
      (placed : entries'.Perm (kept ++ added)) :
      Amends known admitted within (.object (.ofEntries entries)) (.object (.ofEntries entries'))

/-- The values under these names stay. Of other values nothing is asked. -/
def Steady (names : List String) (content : Option String) (value value' : Json) : Prop :=
  ∀ name ∈ names, content = some name → value' = value

/-- The texts are JSON, and their values are so related. -/
def RelatesTexts (related : Json → Json → Prop) (text text' : String) : Prop :=
  ∃ value value', IsText text value ∧ IsText text' value' ∧ related value value'

section Amends

variable {known : List String} {admitted : Option String → Prop}
  {within : Option String → Json → Json → Prop} {entries kept added entries' : List Entry}
  (changed : List.Forall₂ (Entry.Changes within) entries kept)
  (unknown : ∀ e ∈ added, admitted e.1 ∧ ∀ name ∈ known, e.1 ≠ some name)
  (placed : entries'.Perm (kept ++ added))

include changed in
theorem names_of_changed : kept.map (·.1) = entries.map (·.1) := by
  induction changed with
  | nil => rfl
  | cons head _ ih => rw [List.map_cons, List.map_cons, head.name, ih]

include changed unknown placed

/-- The values of a known name are those of before, each changed within. -/
theorem values_of_amended {name : String} (field : name ∈ known) :
    ∃ values, List.Forall₂ (within (some name)) ((Members.ofEntries entries).values name) values ∧
      ((Members.ofEntries entries').values name).Perm values := by
  refine ⟨_, Members.forall₂_values changed name, ?_⟩
  have none_added : (added.filter fun e => e.1 = some name) = [] := by
    simp only [List.filter_eq_nil_iff, decide_eq_true_eq]
    exact fun e member => (unknown e member).2 name field
  have found := (placed.filter fun e => e.1 = some name).map (·.2)
  rw [List.filter_append, none_added, List.append_nil] at found
  rwa [Members.values_ofEntries, Members.values_ofEntries]

theorem named_of_amended (characters : ∀ content, admitted content → content.isSome = true)
    (named : (Members.ofEntries entries).Named) : (Members.ofEntries entries').Named := by
  rw [Members.named_ofEntries] at named ⊢
  intro e member
  rcases List.mem_append.mp (placed.mem_iff.mp member) with old | new
  · have present : e.1 ∈ entries.map (·.1) := names_of_changed changed ▸ List.mem_map_of_mem old
    obtain ⟨before, listed, same⟩ := List.mem_map.mp present
    exact same ▸ named before listed
  · exact characters e.1 (unknown e new).1

variable {δ : Type} {fields : List (Field δ)} {step : δ → String → Json → Except DecodeError δ}

/-- Where every field is read from a changed value as before, the amended members are read as before. -/
theorem ReadsFields.fold_amended (reads : ReadsFields fields step)
    (characters : ∀ content, admitted content → content.isSome = true)
    (listed : ∀ f ∈ fields, f.name ∈ known)
    (respects : ∀ f ∈ fields, ∀ value value' a, within (some f.name) value value' →
      value.intact = true → value'.intact = true → f.decode value = .ok a → f.decode value' = .ok a)
    (intact : (Members.ofEntries entries).intact = true)
    (intact' : (Members.ofEntries entries').intact = true) {d e : δ}
    (fresh : ∀ f ∈ fields, f.slot d = none)
    (folded : (Members.ofEntries entries).fold step d = .ok e) :
    (Members.ofEntries entries').fold step d = .ok e := by
  obtain ⟨named, all⟩ := (reads.fold_eq_ok intact).mp folded
  refine (reads.fold_eq_ok intact').mpr
    ⟨named_of_amended changed unknown placed characters named, fun f field => ?_⟩
  obtain ⟨values, alike, moved⟩ := values_of_amended changed unknown placed (listed f field)
  have found := all f field
  rw [fresh f field] at found ⊢
  refine readValues_of_changed alike moved (fun value old value' new a amended decoded => ?_) found
  exact respects f field value value' a amended (Members.intact_of_mem_values intact old)
    (Members.intact_of_mem_values intact' new) decoded

end Amends

/-- The name is a string of characters. -/
def Spelled (content : Option String) : Prop := content.isSome = true

namespace ReadsFields

variable {α δ : Type} {fields : List (Field δ)} {step : δ → String → Json → Except DecodeError δ}
  (reads : ReadsFields fields step) {decode : Decoder α} {blank : δ} {finish : δ → Except DecodeError α}
  (record : ∀ members, decode (.object members) = members.fold step blank >>= finish)
  (fresh : ∀ f ∈ fields, f.slot blank = none) {known : List String} {admitted : Option String → Prop}
  (listed : ∀ f ∈ fields, f.name ∈ known) (characters : ∀ content, admitted content → Spelled content)
  {value value' : Json} (intact : value.intact = true) (intact' : value'.intact = true) {a : α}

include reads record fresh listed characters intact intact'

theorem decode_amended {within : Option String → Json → Json → Prop}
    (respects : ∀ f ∈ fields, ∀ value value' a, within (some f.name) value value' →
      value.intact = true → value'.intact = true → f.decode value = .ok a → f.decode value' = .ok a)
    (amended : Amends known admitted within value value') (decoded : decode value = .ok a) :
    decode value' = .ok a := by
  obtain ⟨changed, unknown, placed⟩ := amended
  rw [record] at decoded ⊢
  obtain ⟨d, folded, finished⟩ := Except.bind_eq_ok.mp decoded
  exact Except.bind_eq_ok.mpr ⟨d, reads.fold_amended changed unknown placed characters listed respects
    intact intact' fresh folded, finished⟩

/-- A record whose own fields stay is decoded as before. -/
theorem decode_steady (amended : Amends known admitted (Steady known) value value')
    (decoded : decode value = .ok a) : decode value' = .ok a := by
  refine reads.decode_amended record fresh listed characters intact intact' ?_ amended decoded
  intro f field value value' a steady _ _ decoded
  have same : value' = value := steady f.name (listed f field) rfl
  exact same ▸ decoded

end ReadsFields

theorem RelatesTexts.decodeText {α : Type} {related : Json → Json → Prop} {decode : Decoder α}
    (respects : ∀ value value' a, value.intact = true → value'.intact = true → related value value' →
      decode value = .ok a → decode value' = .ok a)
    {text text' : String} (relates : RelatesTexts related text text') {a : α}
    (decoded : Json.decodeText decode text = .ok a) : Json.decodeText decode text' = .ok a := by
  obtain ⟨value, value', written, written', same⟩ := relates
  rw [Json.decodeText, written.decodeSource] at decoded
  rw [Json.decodeText, written'.decodeSource]
  exact respects value value' a written.intact written'.intact same decoded

end Json

/-! ## Engines -/

namespace EngineMetadata

/-- The fields of what is said of an engine. -/
def fields : List (Json.Field Draft) :=
  [⟨"version", Json.decodeNat32, Draft.version, fun d slot => { d with version := slot }⟩,
    ⟨"syncID", Json.decodeString, Draft.syncId, fun d slot => { d with syncId := slot }⟩]

theorem readsFields : Json.ReadsFields fields Draft.read where
  distinct := by simp [fields]
  takes := by
    simp only [fields, List.forall_mem_cons, List.not_mem_nil, false_implies, implies_true, and_true]
    refine ⟨fun d value => ?_, fun d value => ?_⟩
    · cases read : Json.readField "version" d.version Json.decodeNat32 value <;>
        simp [Draft.read, read, bind, Except.bind, Except.map, pure, Except.pure]
    · cases read : Json.readField "syncID" d.syncId Json.decodeString value <;>
        simp [Draft.read, read, bind, Except.bind, Except.map, pure, Except.pure]
  stores := by simp [fields]
  keeps := by simp [fields]
  passes d name value other := by
    simp only [fields, List.forall_mem_cons, List.not_mem_nil, false_implies, implies_true,
      and_true] at other
    unfold Draft.read
    split
    · exact absurd rfl other.1
    · exact absurd rfl other.2
    · cases value.skip <;> rfl
  ext d e same := by
    cases d
    cases e
    simpa [fields] using same

theorem thorough_decode : Json.Thorough decode := by
  intro value e decoded
  cases value with
  | object members =>
      obtain ⟨d, folded, -⟩ := Except.bind_eq_ok.mp decoded
      refine readsFields.intact_of_fold ?_ folded
      simp only [fields, List.forall_mem_cons, List.not_mem_nil, false_implies, implies_true, and_true]
      exact ⟨Json.thorough_decodeNat32, Json.thorough_decodeString⟩
  | array items =>
      obtain ⟨⟨version, rest⟩, first, decoded⟩ := Except.bind_eq_ok.mp decoded
      obtain ⟨⟨syncId, last⟩, second, decoded⟩ := Except.bind_eq_ok.mp decoded
      obtain ⟨_, ended, -⟩ := Except.bind_eq_ok.mp decoded
      exact Json.thorough_decodeNat32.intact_of_next first
        (Json.thorough_decodeString.intact_of_next second (Json.Items.intact_of_finish ended))
  | _ => cases decoded

/-- What is said of an engine is as before, or others have added to it. -/
def Amended (admitted : Option String → Prop) (value value' : Json) : Prop :=
  value' = value ∨
    Json.Amends ["version", "syncID"] admitted (Json.Steady ["version", "syncID"]) value value'

section Amended

variable {admitted : Option String → Prop} (characters : ∀ content, admitted content → Json.Spelled content)

include characters

theorem decode_of_amended {value value' : Json} {e : EngineMetadata} (intact : value.intact = true)
    (intact' : value'.intact = true) (amended : Amended admitted value value')
    (decoded : decode value = .ok e) : decode value' = .ok e := by
  rcases amended with rfl | amended
  · exact decoded
  · exact readsFields.decode_steady (fun _ => rfl) (by simp [fields]) (by simp [fields]) characters intact
      intact' amended decoded

end Amended

end EngineMetadata

namespace GlobalMetadata

/-- What an entry among the engines says, if it says something of an engine. -/
def readEngine (e : Json.Entry) : Option (String × EngineMetadata) := do
  return (← e.1, ← (EngineMetadata.decode e.2).toOption)

theorem readEngine_eq_some {e : Json.Entry} {found : String × EngineMetadata} :
    readEngine e = some found ↔ e.1 = some found.1 ∧ EngineMetadata.decode e.2 = .ok found.2 := by
  obtain ⟨content, value⟩ := e
  obtain ⟨name, said⟩ := found
  cases content with
  | none => simp [readEngine]
  | some key => cases decoded : EngineMetadata.decode value <;> simp [readEngine, decoded, Except.toOption]

/-- Engines are read one after another, each from its entry. -/
theorem fold_addEngine_eq_ok {entries : List Json.Entry} {engines found : NameMap EngineMetadata} :
    (Json.Members.ofEntries entries).fold addEngine engines = .ok found ↔
      (∀ e ∈ entries, (readEngine e).isSome = true) ∧
        found = (entries.filterMap readEngine).foldl (fun m e => m.insert e.1 e.2) engines := by
  induction entries generalizing engines with
  | nil => simpa [Json.Members.ofEntries, Json.Members.fold] using eq_comm
  | cons head rest ih =>
      obtain ⟨content, value⟩ := head
      cases content with
      | none => simp [Json.Members.ofEntries, Json.Members.fold, readEngine]
      | some name =>
          cases decoded : EngineMetadata.decode value with
          | error e =>
              simp [Json.Members.ofEntries, Json.Members.fold, readEngine, addEngine, decoded, bind,
                Except.bind, Except.toOption]
          | ok said =>
              have read : readEngine (some name, value) = some (name, said) :=
                readEngine_eq_some.mpr ⟨rfl, decoded⟩
              have added : addEngine engines name value = .ok (engines.insert name said) := by
                simp [addEngine, decoded, bind, Except.bind, pure, Except.pure]
              simp [Json.Members.ofEntries, Json.Members.fold, added, bind, Except.bind, ih, read]

/-- What is read of a name is what its own entries say. -/
theorem filter_readEngine (entries : List Json.Entry) (name : String) :
    (entries.filterMap readEngine).filter (fun e => e.1 = name) =
      (entries.filter fun e => e.1 = some name).filterMap readEngine := by
  induction entries with
  | nil => rfl
  | cons head rest ih =>
      cases read : readEngine head with
      | none => by_cases same : head.1 = some name <;> simp [read, same, ih]
      | some found =>
          have spelled := (readEngine_eq_some.mp read).1
          by_cases same : found.1 = name <;> simp [read, spelled, same, ih]

/-- The engines of metadata, to which others have added: what is said of each may be amended, and entries of
different names may have changed places. -/
inductive EnginesAmended (admitted : Option String → Prop) : Json → Json → Prop where
  | object {entries kept entries' : List Json.Entry}
      (changed : List.Forall₂ (Json.Entry.Changes fun _ => EngineMetadata.Amended admitted) entries kept)
      (ordered : ∀ content, (entries'.filter fun e => e.1 = content) = kept.filter fun e => e.1 = content) :
      EnginesAmended admitted (.object (.ofEntries entries)) (.object (.ofEntries entries'))

section Amended

variable {admitted : Option String → Prop} (characters : ∀ content, admitted content → Json.Spelled content)

include characters

/-- What is said of engines is read as before from amended entries. -/
theorem readEngine_of_amended {entries kept : List Json.Entry}
    (changed : List.Forall₂ (Json.Entry.Changes fun _ => EngineMetadata.Amended admitted) entries kept)
    (intact : ∀ e ∈ entries, e.2.intact = true) (intact' : ∀ e ∈ kept, e.2.intact = true)
    (read : ∀ e ∈ entries, (readEngine e).isSome = true) :
    kept.map readEngine = entries.map readEngine := by
  induction changed with
  | nil => rfl
  | @cons e e' _ _ head _ ih =>
      rw [List.forall_mem_cons] at intact intact' read
      obtain ⟨found, said⟩ := Option.isSome_iff_exists.mp read.1
      obtain ⟨name, decoded⟩ := readEngine_eq_some.mp said
      have said' : readEngine e' = some found := readEngine_eq_some.mpr ⟨head.name.trans name,
        EngineMetadata.decode_of_amended characters intact.1 intact'.1 head.value decoded⟩
      rw [List.map_cons, List.map_cons, said, said', ih intact.2 intact'.2 read.2]

theorem decodeEngines_of_amended {value value' : Json} {engines : NameMap EngineMetadata}
    (intact : value.intact = true) (intact' : value'.intact = true)
    (amended : EnginesAmended admitted value value') (decoded : decodeEngines value = .ok engines) :
    decodeEngines value' = .ok engines := by
  obtain @⟨entries, kept, entries', changed, ordered⟩ := amended
  obtain ⟨read, rfl⟩ := fold_addEngine_eq_ok.mp decoded
  have moved (e : Json.Entry) : e ∈ entries' ↔ e ∈ kept := by
    have same := congrArg (e ∈ ·) (ordered e.1)
    simpa using same
  have said := readEngine_of_amended characters changed (Json.Members.intact_ofEntries.mp intact)
    (fun e member => Json.Members.intact_ofEntries.mp intact' e ((moved e).mpr member)) read
  refine fold_addEngine_eq_ok.mpr ⟨fun e member => ?_, NameMap.eq_iff_get?.mpr fun name => ?_⟩
  · have listed : readEngine e ∈ entries.map readEngine :=
      said ▸ List.mem_map_of_mem ((moved e).mp member)
    obtain ⟨before, present, same⟩ := List.mem_map.mp listed
    exact same ▸ read before present
  · have before : kept.filterMap readEngine = entries.filterMap readEngine := by
      have same := congrArg (List.filterMap id) said
      rwa [List.filterMap_map, List.filterMap_map] at same
    have own : ((entries.filterMap readEngine).filter fun e => e.1 = name) =
        (entries'.filterMap readEngine).filter fun e => e.1 = name := by
      rw [← before, filter_readEngine, filter_readEngine, ordered]
    rw [NameMap.get?_foldl_insert, NameMap.get?_foldl_insert, ← NameMap.lookup_filter,
      List.filter_reverse, own, ← List.filter_reverse, NameMap.lookup_filter]

end Amended

/-! ## Metadata -/

theorem intact_of_fold {found : NameMap EngineMetadata} : ∀ {members : Json.Members}
    {engines : NameMap EngineMetadata}, members.fold addEngine engines = .ok found →
    members.intact = true
  | .closed, _, _ => rfl
  | .cut, _, folded => by cases folded
  | .member (.string none) _ _, _, folded => by cases folded
  | .member (.string (some name)) value tail, _, folded => by
      obtain ⟨_, added, folded⟩ := Except.bind_eq_ok.mp folded
      obtain ⟨_, said, -⟩ := Except.bind_eq_ok.mp added
      simp [Json.Members.intact, Json.isString, EngineMetadata.thorough_decode said, intact_of_fold folded]
  | .member .null _ _, _, folded | .member (.bool _) _ _, _, folded
  | .member (.number _) _ _, _, folded | .member (.array _) _ _, _, folded
  | .member (.object _) _ _, _, folded | .member .broken _ _, _, folded => by cases folded

theorem thorough_decodeEngines : Json.Thorough decodeEngines := by
  intro value engines decoded
  cases value with
  | object members => exact intact_of_fold decoded
  | _ => cases decoded

theorem thorough_decode : Json.Thorough decode := by
  intro value m decoded
  cases value with
  | object members =>
      obtain ⟨d, folded, -⟩ := Except.bind_eq_ok.mp decoded
      refine readsFields.intact_of_fold ?_ folded
      simp only [fields, List.forall_mem_cons, List.not_mem_nil, false_implies, implies_true, and_true]
      exact ⟨Json.thorough_decodeString, Json.thorough_decodeNat32, thorough_decodeEngines⟩
  | array items =>
      obtain ⟨⟨syncId, rest⟩, first, decoded⟩ := Except.bind_eq_ok.mp decoded
      obtain ⟨⟨version, more⟩, second, decoded⟩ := Except.bind_eq_ok.mp decoded
      obtain ⟨⟨engines, last⟩, third, decoded⟩ := Except.bind_eq_ok.mp decoded
      obtain ⟨_, ended, -⟩ := Except.bind_eq_ok.mp decoded
      exact Json.thorough_decodeString.intact_of_next first (Json.thorough_decodeNat32.intact_of_next second
        (thorough_decodeEngines.intact_of_nextOr third (Json.Items.intact_of_finish ended)))
  | _ => cases decoded

/-- The engines are amended, the epoch and the format stay. -/
structure AmendedWithin (admitted : Option String → Prop) (content : Option String)
    (value value' : Json) : Prop where
  engines : content = some "engines" → EnginesAmended admitted value value'
  others : Json.Steady ["syncID", "storageVersion"] content value value'

theorem AmendedWithin.same {admitted : Option String → Prop} {content : Option String}
    (other : content ≠ some "engines") (value : Json) : AmendedWithin admitted content value value :=
  ⟨fun same => absurd same other, fun _ _ _ => rfl⟩

/-- Metadata to which others have added. -/
def Amended (admitted : Option String → Prop) : Json → Json → Prop :=
  Json.Amends ["syncID", "storageVersion", "engines"] admitted (AmendedWithin admitted)

section Amended

variable {admitted : Option String → Prop} (characters : ∀ content, admitted content → Json.Spelled content)

include characters

theorem decode_of_amended {value value' : Json} {m : GlobalMetadata} (intact : value.intact = true)
    (intact' : value'.intact = true) (amended : Amended admitted value value')
    (decoded : decode value = .ok m) : decode value' = .ok m := by
  refine readsFields.decode_amended (fun _ => rfl) (by simp [fields]) (by simp [fields]) characters intact
    intact' ?_ amended decoded
  simp only [fields, List.forall_mem_cons, List.not_mem_nil, false_implies, implies_true, and_true]
  refine ⟨fun value value' a within _ _ decoded => ?_, fun value value' a within _ _ decoded => ?_,
    fun value value' a within intact intact' decoded => ?_⟩
  · exact within.others "syncID" (by simp) rfl ▸ decoded
  · exact within.others "storageVersion" (by simp) rfl ▸ decoded
  · exact decodeEngines_of_amended characters intact intact' (within.engines rfl) decoded

end Amended

end GlobalMetadata

namespace RemoteRecord

/-- The fields of a record on the server. -/
def fields : List (Json.Field Draft) :=
  [⟨"id", Json.decodeString, Draft.id, fun d slot => { d with id := slot }⟩,
    ⟨"modified", Json.decodeFloat, Draft.modified, fun d slot => { d with modified := slot }⟩,
    ⟨"payload", Json.decodeString, Draft.payload, fun d slot => { d with payload := slot }⟩]

theorem readsFields : Json.ReadsFields fields Draft.read where
  distinct := by simp [fields]
  takes := by
    simp only [fields, List.forall_mem_cons, List.not_mem_nil, false_implies, implies_true, and_true]
    refine ⟨fun d value => ?_, fun d value => ?_, fun d value => ?_⟩
    · cases read : Json.readField "id" d.id Json.decodeString value <;>
        simp [Draft.read, read, bind, Except.bind, Except.map, pure, Except.pure]
    · cases read : Json.readField "modified" d.modified Json.decodeFloat value <;>
        simp [Draft.read, read, bind, Except.bind, Except.map, pure, Except.pure]
    · cases read : Json.readField "payload" d.payload Json.decodeString value <;>
        simp [Draft.read, read, bind, Except.bind, Except.map, pure, Except.pure]
  stores := by simp [fields]
  keeps := by simp [fields]
  passes d name value other := by
    simp only [fields, List.forall_mem_cons, List.not_mem_nil, false_implies, implies_true,
      and_true] at other
    unfold Draft.read
    split
    · exact absurd rfl other.1
    · exact absurd rfl other.2.1
    · exact absurd rfl other.2.2
    · cases value.skip <;> rfl
  ext d e same := by
    cases d
    cases e
    simpa [fields] using same

theorem thorough_decode : Json.Thorough decode := by
  intro value r decoded
  cases value with
  | object members =>
      obtain ⟨d, folded, -⟩ := Except.bind_eq_ok.mp decoded
      refine readsFields.intact_of_fold ?_ folded
      simp only [fields, List.forall_mem_cons, List.not_mem_nil, false_implies, implies_true, and_true]
      exact ⟨Json.thorough_decodeString, Json.thorough_decodeFloat, Json.thorough_decodeString⟩
  | array items =>
      obtain ⟨⟨id, rest⟩, first, decoded⟩ := Except.bind_eq_ok.mp decoded
      obtain ⟨⟨modified, more⟩, second, decoded⟩ := Except.bind_eq_ok.mp decoded
      obtain ⟨⟨payload, last⟩, third, decoded⟩ := Except.bind_eq_ok.mp decoded
      obtain ⟨_, ended, -⟩ := Except.bind_eq_ok.mp decoded
      exact Json.thorough_decodeString.intact_of_next first (Json.thorough_decodeFloat.intact_of_nextOr second
        (Json.thorough_decodeString.intact_of_next third (Json.Items.intact_of_finish ended)))
  | _ => cases decoded

/-- A record to which others have added. -/
def Amended (admitted : Option String → Prop) : Json → Json → Prop :=
  Json.Amends ["id", "modified", "payload"] admitted (Json.Steady ["id", "modified", "payload"])

theorem decode_of_amended {admitted : Option String → Prop}
    (characters : ∀ content, admitted content → Json.Spelled content) {value value' : Json}
    {r : RemoteRecord} (intact : value.intact = true) (intact' : value'.intact = true)
    (amended : Amended admitted value value') (decoded : decode value = .ok r) :
    decode value' = .ok r :=
  readsFields.decode_steady (fun _ => rfl) (by simp [fields]) (by simp [fields]) characters intact
    intact' amended decoded

end RemoteRecord

end SealedSync
