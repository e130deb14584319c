import SealedSync.Proofs.FilePlaces
import SealedSync.Proofs.NewerFormat
import SealedSync.Proofs.StateRoundTrip

/-!
# Bytes that are no text

A source has a gap wherever its bytes are not UTF-8. No part of the syntax is made of gaps, and a string
that holds one has no content. So whatever is read leaves every gap behind, but for the strings that
nobody looks at.
-/
namespace SealedSync

namespace Json

mutual

/-- The value is JSON, and each of its strings has its content. -/
def spelled : Json → Bool
  | .null | .bool _ | .number _ => true
  | .string content => content.isSome
  | .array items => items.spelled
  | .object members => members.spelled
  | .broken => false

def Items.spelled : Items → Bool
  | .closed => true
  | .cut => false
  | .item head tail => head.spelled && tail.spelled

def Members.spelled : Members → Bool
  | .closed => true
  | .cut => false
  | .member key value tail => key.spelled && value.spelled && tail.spelled

end

mutual

theorem unbroken_of_spelled : ∀ {value : Json}, value.spelled = true → value.unbroken = true
  | .null, _ | .bool _, _ | .number _, _ | .string _, _ => rfl
  | .array _, spelled => Items.unbroken_of_spelled spelled
  | .object _, spelled => Members.unbroken_of_spelled spelled

theorem Items.unbroken_of_spelled : ∀ {items : Items}, items.spelled = true → items.unbroken = true
  | .closed, _ => rfl
  | .item _ _, spelled => by
      obtain ⟨head, tail⟩ := Bool.and_eq_true_iff.mp spelled
      exact Bool.and_eq_true_iff.mpr
        ⟨Json.unbroken_of_spelled head, Items.unbroken_of_spelled tail⟩

theorem Members.unbroken_of_spelled : ∀ {members : Members}, members.spelled = true →
    members.unbroken = true
  | .closed, _ => rfl
  | .member _ _ _, spelled => by
      obtain ⟨named, tail⟩ := Bool.and_eq_true_iff.mp spelled
      obtain ⟨-, value⟩ := Bool.and_eq_true_iff.mp named
      exact Bool.and_eq_true_iff.mpr
        ⟨Json.unbroken_of_spelled value, Members.unbroken_of_spelled tail⟩

end

/-! ## Gaps in texts -/

theorem Enclosed.gap_mem {inside : Source} {units : List StringUnit} (enclosed : Enclosed inside units)
    (gap : none ∈ inside) : .gap ∈ units := by
  induction enclosed with
  | nil => cases gap
  | plain _ _ _ _ ih => exact List.mem_cons_of_mem _ (ih (by simpa using gap))
  | short _ _ ih => exact List.mem_cons_of_mem _ (ih (by simpa using gap))
  | code _ _ ih => exact List.mem_cons_of_mem _ (ih (by simpa using gap))
  | gap _ _ => exact List.mem_cons_self

/-- A string with a gap has no content. -/
theorem joinUnits_of_gap {units : List StringUnit} (gap : .gap ∈ units) : joinUnits units = none := by
  induction units using joinUnits.induct with
  | case1 => cases gap
  | case2 c tail ih => simp_all [joinUnits]
  | case3 tail => rw [joinUnits]
  | case4 high low tail isHigh isLow ih => simp_all [joinUnits]
  | case5 high low tail isHigh unpaired => simp [joinUnits, isHigh, unpaired]
  | case6 high low tail isHigh isLow => simp [joinUnits, isHigh, isLow]
  | case7 high low tail notHigh notLow ih =>
      rw [joinUnits, if_neg notHigh, if_neg notLow, ih (by simpa using gap)]
      rfl
  | case8 n tail last surrogate => simp [joinUnits, surrogate]
  | case9 n tail last plain ih => simp_all [joinUnits]

theorem Blank.solid {blank : Source} (space : Blank blank) : none ∉ blank := by
  induction space with
  | nil => simp
  | cons _ _ ih => simpa using ih

mutual

/-- A value has a gap only in a string. -/
theorem Denotes.solid : ∀ {source : Source} {value : Json}, Denotes source value →
    value.spelled = true → none ∉ source
  | _, _, .null, _ | _, _, .yes, _ | _, _, .no, _ => by decide
  | _, _, .number ⟨_, _, _, same⟩, _ => by simp [same]
  | _, _, .string enclosed, spelled => by
      intro gap
      have unread := enclosed.gap_mem (by simpa using gap)
      rw [joinUnits_of_gap unread] at spelled
      cases spelled
  | _, _, .emptyArray space, _ => by simpa using space.solid
  | _, _, .array listed, spelled => by simpa using listed.solid spelled
  | _, _, .emptyObject space, _ => by simpa using space.solid
  | _, _, .object listed, spelled => by simpa using listed.solid spelled

theorem Fills.solid : ∀ {source : Source} {value : Json}, Fills source value →
    value.spelled = true → none ∉ source
  | _, _, .between first denotes last, spelled => by
      simp [first.solid, denotes.solid spelled, last.solid]

theorem Items.Denoted.solid : ∀ {source : Source} {items : Items}, Items.Denoted source items →
    items.spelled = true → none ∉ source
  | _, _, .last fills, spelled => by
      obtain ⟨head, -⟩ := Bool.and_eq_true_iff.mp spelled
      simp [fills.solid head]
  | _, _, .more fills listed, spelled => by
      obtain ⟨head, tail⟩ := Bool.and_eq_true_iff.mp spelled
      simp [fills.solid head, listed.solid tail]

theorem Members.Denoted.solid : ∀ {source : Source} {members : Members},
    Members.Denoted source members → members.spelled = true → none ∉ source
  | _, _, .last named fills, spelled => by
      obtain ⟨member, -⟩ := Bool.and_eq_true_iff.mp spelled
      obtain ⟨key, value⟩ := Bool.and_eq_true_iff.mp member
      simp [named.solid key, fills.solid value]
  | _, _, .more named fills listed, spelled => by
      obtain ⟨member, tail⟩ := Bool.and_eq_true_iff.mp spelled
      obtain ⟨key, value⟩ := Bool.and_eq_true_iff.mp member
      simp [named.solid key, fills.solid value, listed.solid tail]

end

/-! ## Gaps in what is decoded -/

theorem decodeSource_eq_ok {α : Type} {decode : Decoder α} {source : Source} {a : α} :
    decodeSource decode source = .ok a ↔
      decode (read source).1 = .ok a ∧ skipSpace (read source).2 = [] := by
  simp only [decodeSource, Except.bind_eq_ok]
  constructor
  · rintro ⟨b, decoded, finished⟩
    split at finished
    · rename_i nothing
      cases finished
      exact ⟨decoded, List.isEmpty_iff.mp nothing⟩
    · cases finished
  · rintro ⟨decoded, nothing⟩
    exact ⟨a, decoded, by rw [nothing]; rfl⟩

/-- A source with a gap is decoded only where the value has a string without content. -/
theorem not_spelled_of_decodeSource {α : Type} {decode : Decoder α} {source : Source} {a : α}
    (gap : none ∈ source) (decoded : decodeSource decode source = .ok a) :
    (read source).1.spelled = false := by
  obtain ⟨-, alone⟩ := decodeSource_eq_ok.mp decoded
  refine Bool.eq_false_iff.mpr fun spelled => ?_
  exact (fills_read (unbroken_of_spelled spelled) alone).solid spelled gap

end Json

namespace LocalState

theorem spelled_of_decodeOptional {α : Type} {decode : Decoder α} {value : Json} {o : Option α}
    (spells : ∀ a, decode value = .ok a → value.spelled = true)
    (decoded : Json.decodeOptional decode value = .ok o) : value.spelled = true := by
  unfold Json.decodeOptional at decoded
  split at decoded
  · rfl
  · cases found : decode value with
    | error e =>
        rw [found] at decoded
        cases decoded
    | ok a => exact spells a found

theorem spelled_of_decodeString {value : Json} {expected s : String}
    (decoded : Json.decodeStringAs expected value = .ok s) : value.spelled = true := by
  unfold Json.decodeStringAs at decoded
  split at decoded
  · rfl
  · cases decoded

theorem spelled_of_decodeInstant {value : Json} {instant : Instant}
    (decoded : decodeInstant value = .ok instant) : value.spelled = true := by
  obtain ⟨text, decoded, -⟩ := Except.bind_eq_ok.mp decoded
  exact spelled_of_decodeString decoded

/-- The names of the fields. -/
def fieldNames : List String := ["last_sync_id", "index_fingerprint", "last_sync_at"]

theorem spelled_of_readField {α : Type} {name : String} {slot read : Option (Option α)}
    {decode : Decoder α} {value : Json}
    (spells : ∀ a, decode value = .ok a → value.spelled = true)
    (decoded : Json.readField name slot (Json.decodeOptional decode) value = .ok read) :
    value.spelled = true := by
  unfold Json.readField at decoded
  split at decoded
  · cases decoded
  · cases found : Json.decodeOptional decode value with
    | error e =>
        rw [found] at decoded
        cases decoded
    | ok o => exact spelled_of_decodeOptional spells found

/-- A field is looked at. -/
theorem spelled_of_read {d e : Draft} {name : String} {value : Json} (field : name ∈ fieldNames)
    (read : d.read name value = .ok e) : value.spelled = true := by
  simp only [fieldNames, List.mem_cons, List.not_mem_nil, or_false] at field
  rcases field with rfl | rfl | rfl
  · obtain ⟨slot, decoded, -⟩ := Except.bind_eq_ok.mp read
    exact spelled_of_readField (fun _ => spelled_of_decodeString) decoded
  · obtain ⟨slot, decoded, -⟩ := Except.bind_eq_ok.mp read
    exact spelled_of_readField (fun _ => spelled_of_decodeString) decoded
  · obtain ⟨slot, decoded, -⟩ := Except.bind_eq_ok.mp read
    exact spelled_of_readField (fun _ => spelled_of_decodeInstant) decoded

/-- Members are read although one is not spelled: it has the name of no field. -/
theorem overlooked_of_fold : {members : Json.Members} → {d e : Draft} →
    members.fold Draft.read d = .ok e → members.spelled = false →
      ∃ name, name ∉ fieldNames ∧ ∃ value ∈ members.values name, value.spelled = false
  | .closed, _, _, _, unspelled => by cases unspelled
  | .cut, _, _, read, _ => by cases read
  | .member key value tail, d, e, read, unspelled => by
      match key with
      | .string (some name) =>
          obtain ⟨next, first, rest⟩ := Except.bind_eq_ok.mp read
          cases spelled : value.spelled with
          | false =>
              refine ⟨name, fun field => ?_, value, ?_, spelled⟩
              · rw [spelled_of_read field first] at spelled
                cases spelled
              · simp [Json.Members.values]
          | true =>
              have behind : tail.spelled = false := by
                simpa [Json.Members.spelled, Json.spelled, spelled] using unspelled
              obtain ⟨other, unknown, found, member, gap⟩ := overlooked_of_fold rest behind
              refine ⟨other, unknown, found, ?_, gap⟩
              rw [Json.Members.values]
              split
              · exact List.mem_cons_of_mem _ member
              · exact member
      | .string none | .null | .bool _ | .number _ | .array _ | .object _ | .broken => cases read

theorem spelled_of_next {α : Type} {index : Nat} {expected : String} {decode : Decoder α}
    {items rest : Json.Items} {a : α}
    (spells : ∀ value b, decode value = .ok b → value.spelled = true)
    (read : items.next index expected decode = .ok (a, rest)) (behind : rest.spelled = true) :
    items.spelled = true := by
  cases items with
  | closed => cases read
  | cut => cases read
  | item head tail =>
      obtain ⟨b, decoded, same⟩ := Except.bind_eq_ok.mp read
      cases same
      exact Bool.and_eq_true_iff.mpr ⟨spells _ _ decoded, behind⟩

theorem spelled_of_ofItems {items : Json.Items} {state : LocalState}
    (read : ofItems items = .ok state) : items.spelled = true := by
  obtain ⟨⟨_, second⟩, lastSyncId, read⟩ := Except.bind_eq_ok.mp read
  obtain ⟨⟨_, third⟩, indexFingerprint, read⟩ := Except.bind_eq_ok.mp read
  obtain ⟨⟨_, last⟩, lastSyncAt, read⟩ := Except.bind_eq_ok.mp read
  obtain ⟨_, finished, -⟩ := Except.bind_eq_ok.mp read
  have texts (value : Json) (o : Option String)
      (decoded : Json.decodeOptional Json.decodeString value = .ok o) : value.spelled = true :=
    spelled_of_decodeOptional (fun _ => spelled_of_decodeString) decoded
  refine spelled_of_next texts lastSyncId (spelled_of_next texts indexFingerprint
    (spelled_of_next (fun _ _ decoded => ?_) lastSyncAt ?_))
  · exact spelled_of_decodeOptional (fun _ => spelled_of_decodeInstant) decoded
  · cases last with
    | closed => rfl
    | cut => cases finished
    | item head tail => cases finished

/-- The bytes hold an object in which a string has no content, under a name that no field has. -/
def Overlooks (bytes : List UInt8) : Prop :=
  ∃ members, (Json.read (.ofBytes bytes)).1 = .object members ∧
    ∃ name, name ∉ fieldNames ∧ ∃ value ∈ members.values name, value.spelled = false

/-- Bytes that are no text are decoded only if the gap is overlooked. -/
theorem overlooks_of_decoded {bytes : List UInt8} {state : LocalState}
    (gap : none ∈ Utf8.decode bytes) (decoded : Json.decodeBytes decode bytes = .ok state) :
    Overlooks bytes := by
  have unspelled : (Json.read (.ofBytes bytes)).1.spelled = false :=
    Json.not_spelled_of_decodeSource gap decoded
  obtain ⟨read, -⟩ := Json.decodeSource_eq_ok.mp decoded
  unfold Overlooks
  generalize (Json.read (.ofBytes bytes)).1 = value at read unspelled ⊢
  cases value with
  | object members =>
      obtain ⟨d, folded, -⟩ := Except.bind_eq_ok.mp (show ofMembers members = .ok state from read)
      exact ⟨members, rfl, overlooked_of_fold folded unspelled⟩
  | array items =>
      have spelled : items.spelled = true := spelled_of_ofItems read
      rw [Json.spelled, spelled] at unspelled
      cases unspelled
  | null | bool _ | number _ | string _ | broken => cases read

end LocalState

namespace Utf8

theorem decode?_eq_none {bytes : List UInt8} : decode? bytes = none ↔ none ∈ decode bytes := by
  have collected (source : List (Option Char)) : source.mapM id = none ↔ none ∈ source := by
    induction source with
    | nil => simp
    | cons head tail ih =>
        cases head with
        | none => simp
        | some c =>
            have first : (some c :: tail).mapM id = (tail.mapM id).map (c :: ·) := by
              rw [List.mapM_cons]
              cases tail.mapM id with
              | none => rfl
              | some chars => rfl
            simp [first, ih]
  rw [decode?, Option.map_eq_none_iff, collected]

end Utf8

end SealedSync
