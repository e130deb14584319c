import SealedSync.Event
import SealedSync.Proofs.ErrorTexts
import SealedSync.Proofs.RecordRoundTrip

/-!
# What the errors of a sealed bundle disclose

Two documents have the same outline if they differ in the contents of strings alone. Whether a document
holds a bundle, and at which value decoding stops, follows from its outline. But the error tells the line and
the column as well, which depend on the lengths of the strings before, and a string that stands where none
belongs is quoted as a whole; of the first key that is no key the error tells a symbol and its place, or the
length. So the texts of errors, which are logged as well, are not the same for all documents of one outline:
they disclose just this.
-/
namespace SealedSync

namespace Json

mutual

/-- The value without the contents of its strings. -/
def outline : Json → Json
  | .string (some _) => .string (some "")
  | .array items => .array items.outline
  | .object members => .object members.outline
  | value => value

def Items.outline : Items → Items
  | .closed => .closed
  | .cut => .cut
  | .item head tail => .item head.outline tail.outline

/-- The names of members stay. -/
def Members.outline : Members → Members
  | .closed => .closed
  | .cut => .cut
  | .member key value tail => .member key value.outline tail.outline

end

/-- What is read from both differs in the contents of strings alone, and if anything is left after it in
one of them, then in the other as well. -/
def SameOutline (source other : Source) : Prop :=
  (read source).1.outline = (read other).1.outline ∧
    (skipSpace (read source).2).isEmpty = (skipSpace (read other).2).isEmpty

theorem sameOutline_render {value other : Json} (legible : value.Legible) (reads : other.Legible)
    (same : value.outline = other.outline) :
    SameOutline (.ofBytes (Utf8.encode value.render)) (.ofBytes (Utf8.encode other.render)) := by
  have texts (s : String) : Source.ofBytes (Utf8.encode s) = .ofText s := Utf8.decode_encode s
  unfold SameOutline
  rw [texts, texts, read_render legible, read_render reads]
  exact ⟨same, rfl⟩

end Json

/-- The error without the contents of a string that it quotes. -/
def DecodeError.outline : DecodeError → DecodeError
  | .invalidType (.string _) expected => .invalidType (.string "") expected
  | e => e

/-- What is decoded, or the error, each without the contents of strings. -/
def outlined {α β : Type} (blank : α → β) : Except DecodeError α → Except DecodeError β
  | .ok a => .ok (blank a)
  | .error e => .error e.outline

theorem outlined_bind {α β γ δ : Type} {blank : α → β} {clear : γ → δ} {first : Except DecodeError α}
    {first' : Except DecodeError β} {next : α → Except DecodeError γ} {next' : β → Except DecodeError δ}
    (begun : first' = outlined blank first)
    (continued : ∀ a, next' (blank a) = outlined clear (next a)) :
    (first' >>= next') = outlined clear (first >>= next) := by
  subst begun
  cases first with
  | ok a => exact continued a
  | error e => rfl

/-! ## Decoding an outline -/

namespace Json

theorem mismatch_outline (expected : String) (value : Json) :
    value.outline.mismatch expected = (value.mismatch expected).outline := by
  cases value with
  | number n =>
      simp only [outline, mismatch]
      rcases n.value with _ | _ | _ <;> rfl
  | string content => cases content <;> rfl
  | _ => rfl

theorem decodeString_outline (value : Json) :
    decodeString value.outline = outlined (fun _ => "") (decodeString value) := by
  cases value with
  | string content => cases content <;> rfl
  | number n => exact congrArg Except.error (mismatch_outline "a string" (.number n))
  | _ => rfl

mutual

theorem intact_outline : (value : Json) → value.outline.intact = value.intact
  | .null | .bool _ | .number _ | .broken => rfl
  | .string none | .string (some _) => rfl
  | .array items => items.intact_outline
  | .object members => members.intact_outline

theorem Items.intact_outline : (items : Items) → items.outline.intact = items.intact
  | .closed | .cut => rfl
  | .item head tail => by
      show (head.outline.intact && tail.outline.intact) = (head.intact && tail.intact)
      rw [head.intact_outline, tail.intact_outline]

theorem Members.intact_outline : (members : Members) → members.outline.intact = members.intact
  | .closed | .cut => rfl
  | .member key value tail => by
      show (key.isString && value.outline.intact && tail.outline.intact) =
        (key.isString && value.intact && tail.intact)
      rw [value.intact_outline, tail.intact_outline]

end

theorem skip_outline (value : Json) : value.outline.skip = outlined id value.skip := by
  rw [skip, skip, intact_outline]
  split <;> rfl

/-- Members are read alike if each single one is. -/
theorem Members.fold_outline {β : Type} {blank : β → β} {step : β → String → Json → Except DecodeError β}
    (steps : ∀ state name value, step (blank state) name value.outline =
      outlined blank (step state name value)) :
    (members : Members) → (state : β) →
      members.outline.fold step (blank state) = outlined blank (members.fold step state)
  | .closed, _ => rfl
  | .cut, _ => rfl
  | .member key value tail, state => by
      cases key with
      | string content =>
          cases content with
          | none => rfl
          | some name => exact outlined_bind (steps state name value) (fold_outline steps tail)
      | _ => rfl

theorem readField_outline {α : Type} {blank : α → α} {decode : Decoder α} (name : String)
    (slot : Option α) {value : Json} (same : decode value.outline = outlined blank (decode value)) :
    readField name (slot.map blank) decode value.outline =
      outlined (Option.map blank) (readField name slot decode value) := by
  cases slot with
  | some a => rfl
  | none =>
      show (decode value.outline).map some = outlined _ ((decode value).map some)
      rw [same]
      cases decode value <;> rfl

theorem requireField_outline {α : Type} {blank : α → α} (name : String) (slot : Option α) :
    requireField name (slot.map blank) = outlined blank (requireField name slot) := by
  cases slot <;> rfl

/-- What is left of the items after the first field, both without the contents of strings. -/
def blankFirst {α : Type} (blank : α → α) (read : α × Items) : α × Items :=
  (blank read.1, read.2.outline)

theorem Items.next_outline {α : Type} {blank : α → α} {decode : Decoder α}
    (same : ∀ value, decode value.outline = outlined blank (decode value)) (index : Nat)
    (expected : String) (items : Items) :
    items.outline.next index expected decode =
      outlined (blankFirst blank) (items.next index expected decode) := by
  cases items with
  | item head tail => exact outlined_bind (same head) fun a => rfl
  | _ => rfl

theorem Items.nextOr_outline {α : Type} {blank : α → α} {decode : Decoder α}
    (same : ∀ value, decode value.outline = outlined blank (decode value)) {default : α}
    (kept : blank default = default) (items : Items) :
    items.outline.nextOr default decode = outlined (blankFirst blank) (items.nextOr default decode) := by
  cases items with
  | item head tail => exact outlined_bind (same head) fun a => rfl
  | closed =>
      show Except.ok (default, Items.closed) = Except.ok (blank default, Items.closed)
      rw [kept]
  | cut => rfl

theorem Items.finish_outline (items : Items) : items.outline.finish = outlined id items.finish := by
  cases items <;> rfl

/-- What a source holds is decoded alike from its outline. -/
theorem decodeSource_outline {α : Type} {blank : α → α} {decode : Decoder α}
    (same : ∀ value, decode value.outline = outlined blank (decode value)) (source : Source) :
    outlined blank (decodeSource decode source) = (do
      let a ← decode (read source).1.outline
      if (skipSpace (read source).2).isEmpty then return a else throw .notJson) := by
  unfold decodeSource
  generalize read source = found
  obtain ⟨value, rest⟩ := found
  refine (outlined_bind (same value) fun a => ?_).symm
  show (if (skipSpace rest).isEmpty then _ else _) =
    outlined blank (if (skipSpace rest).isEmpty then _ else _)
  split <;> rfl

theorem SameOutline.decoded {α : Type} {blank : α → α} {decode : Decoder α}
    (same : ∀ value, decode value.outline = outlined blank (decode value)) {source other : Source}
    (alike : SameOutline source other) :
    outlined blank (decodeSource decode source) = outlined blank (decodeSource decode other) := by
  rw [decodeSource_outline same, decodeSource_outline same, alike.1, alike.2]

end Json

namespace NameMap

theorem insertEntry_mapEntries {α β : Type} (f : α → β) (name : String) (a : α)
    (entries : List (String × α)) : insertEntry name (f a) (KeyBundle.mapEntries f entries) =
      KeyBundle.mapEntries f (insertEntry name a entries) := by
  induction entries with
  | nil => rfl
  | cons head rest ih =>
      obtain ⟨other, b⟩ := head
      show (if name < other then _ else if name = other then _ else _) =
        KeyBundle.mapEntries f (if name < other then _ else if name = other then _ else _)
      split
      · rfl
      · split
        · rfl
        · exact congrArg (List.cons (other, f b)) ih

/-- The names alone. -/
def blank (m : NameMap String) : NameMap String :=
  ⟨KeyBundle.mapEntries (fun _ => "") m.entries, KeyBundle.ascending_mapEntries _ m.ascending⟩

theorem insert_blank (m : NameMap String) (name text : String) :
    m.blank.insert name "" = (m.insert name text).blank :=
  ext (insertEntry_mapEntries (fun _ => "") name text m.entries)

end NameMap

namespace KeyDocument

/-- The names alone. -/
def blank (d : KeyDocument) : KeyDocument := ⟨"", d.collections.blank⟩

def Draft.blank (d : Draft) : Draft := ⟨d.default.map fun _ => "", d.collections.map NameMap.blank⟩

theorem addCollection_outline (collections : NameMap String) (name : String) (value : Json) :
    addCollection collections.blank name value.outline =
      outlined NameMap.blank (addCollection collections name value) :=
  outlined_bind (Json.decodeString_outline value) fun text =>
    congrArg Except.ok (collections.insert_blank name text)

theorem decodeCollections_outline (value : Json) :
    decodeCollections value.outline = outlined NameMap.blank (decodeCollections value) := by
  cases value with
  | object members => exact Json.Members.fold_outline addCollection_outline members .empty
  | string content => cases content <;> rfl
  | number n => exact congrArg Except.error (Json.mismatch_outline "a map" (.number n))
  | _ => rfl

theorem read_outline (d : Draft) (name : String) (value : Json) :
    d.blank.read name value.outline = outlined Draft.blank (d.read name value) := by
  by_cases isDefault : name = "default"
  · subst isDefault
    exact outlined_bind (Json.readField_outline "default" d.default (Json.decodeString_outline value))
      fun slot => rfl
  · by_cases isCollections : name = "collections"
    · subst isCollections
      exact outlined_bind
        (Json.readField_outline "collections" d.collections (decodeCollections_outline value))
        fun slot => rfl
    · simp only [Draft.read]
      exact outlined_bind (Json.skip_outline value) fun _ => rfl

theorem ofMembers_outline (members : Json.Members) :
    ofMembers members.outline = outlined blank (ofMembers members) := by
  refine outlined_bind (Json.Members.fold_outline read_outline members {}) fun d => ?_
  refine outlined_bind (Json.requireField_outline "default" d.default) fun text => ?_
  cases d with
  | mk default collections => cases collections <;> rfl

theorem ofItems_outline (items : Json.Items) :
    ofItems items.outline = outlined blank (ofItems items) := by
  refine outlined_bind (Json.Items.next_outline Json.decodeString_outline 0 _ items) fun first => ?_
  refine outlined_bind
    (Json.Items.nextOr_outline decodeCollections_outline rfl first.2) fun second => ?_
  exact outlined_bind (Json.Items.finish_outline second.2) fun _ => rfl

/-- Whether a value is a document, and where it stops to be one, follows from its outline. -/
theorem decode_outline (value : Json) : decode value.outline = outlined blank (decode value) := by
  cases value with
  | object members => exact ofMembers_outline members
  | array items => exact ofItems_outline items
  | string content => cases content <;> rfl
  | number n =>
      exact congrArg Except.error (Json.mismatch_outline "struct KeyBundlePayload" (.number n))
  | _ => rfl

end KeyDocument

/-! ## Disclosure -/

/-- What an error tells of a sealed text beyond its outline. If decoding stops, it tells the place, and with
it what is wrong with a text that is no JSON, or a text that stands where none belongs. If the keys of a
document are at fault, it tells the name of the first entry that is no key and what is wrong with that. -/
inductive Disclosure where
  | nothing
  | noJson (remark : Json.Remark)
  | misplaced (text : String) (place : Json.Place)
  | stopped (place : Json.Place)
  | entry (name : String) (complaint : CryptoError)
  deriving DecidableEq

def DecodeError.disclosure (r : Json.Remark) : DecodeError → Disclosure
  | .notJson => .noJson r
  | .invalidType (.string text) _ => .misplaced text r.place
  | _ => .stopped r.place

/-- A string stands where none belongs. -/
def DecodeError.Misplaced (e : DecodeError) : Prop :=
  ∃ text expected, e = .invalidType (.string text) expected

theorem DecodeError.outline_of_not_misplaced {e : DecodeError} (other : ¬e.Misplaced) : e.outline = e := by
  unfold outline
  split
  · exact absurd ⟨_, _, rfl⟩ other
  · rfl

/-- Errors that differ in the contents of strings alone are equal, or in both a string is misplaced. -/
theorem DecodeError.eq_or_misplaced {e f : DecodeError} (alike : e.outline = f.outline) :
    e = f ∨ ∃ text other expected,
      e = .invalidType (.string text) expected ∧ f = .invalidType (.string other) expected := by
  by_cases first : e.Misplaced
  · obtain ⟨text, expected, rfl⟩ := first
    by_cases second : f.Misplaced
    · obtain ⟨other, expects, rfl⟩ := second
      cases alike
      exact .inr ⟨text, other, expected, rfl, rfl⟩
    · rw [outline_of_not_misplaced second] at alike
      exact absurd ⟨_, _, alike.symm⟩ second
  · rw [outline_of_not_misplaced first] at alike
    by_cases second : f.Misplaced
    · obtain ⟨other, expects, rfl⟩ := second
      exact absurd ⟨_, _, alike⟩ first
    · rw [outline_of_not_misplaced second] at alike
      exact .inl alike

/-- What is wrong with a text that is JSON, the decoder says. -/
theorem DecodeError.words_eq_words {e : DecodeError} (json : e ≠ .notJson) (fault cause : String) :
    e.words fault = e.words cause := by
  cases e with
  | notJson => exact absurd rfl json
  | _ => rfl

theorem DecodeError.disclosure_of_not_misplaced {e : DecodeError} (json : e ≠ .notJson)
    (other : ¬e.Misplaced) (r : Json.Remark) : e.disclosure r = .stopped r.place := by
  unfold disclosure
  split
  · exact absurd rfl json
  · exact absurd ⟨_, _, rfl⟩ other
  · rfl

/-- The same error for two texts discloses the same if the reader tells the same of them. -/
theorem DecodeError.disclosure_inj {e : DecodeError} {r s : Json.Remark} :
    e.disclosure r = e.disclosure s ↔ e.words r.fault = e.words s.fault ∧ r.place = s.place := by
  by_cases json : e = .notJson
  · subst json
    show Disclosure.noJson r = .noJson s ↔ r.fault = s.fault ∧ r.place = s.place
    cases r
    cases s
    rw [Disclosure.noJson.injEq, Json.Remark.mk.injEq]
  · rw [words_eq_words json r.fault s.fault, eq_self, true_and]
    by_cases misplaced : e.Misplaced
    · obtain ⟨text, expected, rfl⟩ := misplaced
      show Disclosure.misplaced text r.place = .misplaced text s.place ↔ _
      rw [Disclosure.misplaced.injEq, eq_self, true_and]
    · rw [disclosure_of_not_misplaced json misplaced, disclosure_of_not_misplaced json misplaced,
        Disclosure.stopped.injEq]

theorem DecodeError.remarked_iff {e f : DecodeError} (alike : e.outline = f.outline) (r s : Json.Remark) :
    e.remarked r = f.remarked s ↔ e.disclosure r = f.disclosure s := by
  rw [remarked_inj]
  rcases eq_or_misplaced alike with rfl | ⟨text, other, expected, rfl, rfl⟩
  · exact disclosure_inj.symm
  · show _ ↔ Disclosure.misplaced text r.place = .misplaced other s.place
    rw [Disclosure.misplaced.injEq]
    constructor
    · exact fun ⟨words, places⟩ => ⟨misplaced_inj words, places⟩
    · rintro ⟨rfl, places⟩
      exact ⟨rfl, places⟩

namespace KeyBundle

/-- The texts of a document that are to be keys, in the order in which they are read. -/
def keyTexts (d : KeyDocument) : List (String × String) := ("default", d.default) :: d.collections.entries

/-- The first text that is no key. -/
def firstFault : List (String × String) → Option (String × CryptoError)
  | [] => none
  | (name, text) :: rest =>
      match Key.ofBase64 text with
      | .ok _ => firstFault rest
      | .error complaint => some (name, complaint)

/-- What the error for a sealed text tells of it, if it is no bundle and the reader says so in these
remarks. -/
def disclosed (remarks : List UInt8 → Json.Remark) (bytes : List UInt8) : Disclosure :=
  match Json.decodeBytes KeyDocument.decode bytes with
  | .error e => e.disclosure (remarks bytes)
  | .ok d =>
      match firstFault (keyTexts d) with
      | some (name, complaint) => .entry name complaint
      | none => .nothing

theorem decodeKey_error_eq {name text : String} {complaint : CryptoError}
    (read : Key.ofBase64 text = .error complaint) :
    decodeKey name text = .error (entryError name complaint) := by
  rw [decodeKey, read]
  rfl

theorem decodeKey_ok {name text : String} {key : Key} (read : Key.ofBase64 text = .ok key) :
    decodeKey name text = .ok key := by
  rw [decodeKey, read]

/-- The entry is the first one that is no key, and the error is about it. -/
structure Faulted (entries : List (String × String)) (e : SyncError) (name : String)
    (complaint : CryptoError) : Prop where
  first : firstFault entries = some (name, complaint)
  complains : Key.Complaint complaint
  error : e = entryError name complaint

theorem Faulted.here {name text : String} {complaint : CryptoError} {rest : List (String × String)}
    (read : Key.ofBase64 text = .error complaint) :
    Faulted ((name, text) :: rest) (entryError name complaint) name complaint where
  first := by rw [firstFault, read]
  complains := Key.complaint_of_error read
  error := rfl

theorem Faulted.later {name text other : String} {key : Key} {rest : List (String × String)}
    {e : SyncError} {complaint : CryptoError} (read : Key.ofBase64 text = .ok key)
    (faulted : Faulted rest e other complaint) : Faulted ((name, text) :: rest) e other complaint where
  first := by rw [firstFault, read, faulted.first]
  complains := faulted.complains
  error := faulted.error

theorem decodeOverrides_faulted {keys : NameMap Key} {entries : List (String × String)} {e : SyncError}
    (failed : decodeOverrides keys entries = .error e) :
    ∃ name complaint, Faulted entries e name complaint := by
  induction entries generalizing keys with
  | nil => cases failed
  | cons head rest ih =>
      obtain ⟨name, text⟩ := head
      cases read : Key.ofBase64 text with
      | error complaint =>
          rw [decodeOverrides, decodeKey_error_eq read] at failed
          cases failed
          exact ⟨name, complaint, .here read⟩
      | ok key =>
          rw [decodeOverrides, decodeKey_ok read] at failed
          obtain ⟨other, complaint, faulted⟩ := ih failed
          exact ⟨other, complaint, faulted.later read⟩

theorem ofDocument_faulted {d : KeyDocument} {e : SyncError} (failed : ofDocument d = .error e) :
    ∃ name complaint, Faulted (keyTexts d) e name complaint := by
  cases read : Key.ofBase64 d.default with
  | error complaint =>
      rw [ofDocument, decodeKey_error_eq read] at failed
      cases failed
      exact ⟨"default", complaint, .here read⟩
  | ok key =>
      cases overrides : decodeOverrides .empty d.collections.entries with
      | ok keys =>
          rw [ofDocument, decodeKey_ok read, overrides] at failed
          cases failed
      | error found =>
          rw [ofDocument, decodeKey_ok read, overrides] at failed
          cases failed
          obtain ⟨name, complaint, faulted⟩ := decodeOverrides_faulted overrides
          exact ⟨name, complaint, faulted.later read⟩

theorem line_keysUnusable (e : SyncError) : (Event.keysUnusable e).line =
    "WARN " ++ ("key bundle unusable (" ++ e.message ++ "), fresh start required") := rfl

theorem contentsError_message_iff {words others : String} :
    (contentsError words).message = (contentsError others).message ↔ words = others := by
  show "malformed remote record: " ++ ("key bundle contents: " ++ words) =
    "malformed remote record: " ++ ("key bundle contents: " ++ others) ↔ _
  rw [String.append_right_inj, String.append_right_inj]

/-- How the text under the seal fails to be a bundle. -/
inductive Refused (tell : List UInt8 → DecodeError → String) (bytes : List UInt8) : SyncError → Prop where
  | contents {e : DecodeError} (decoded : Json.decodeBytes KeyDocument.decode bytes = .error e) :
      Refused tell bytes (contentsError (tell bytes e))
  | entry {d : KeyDocument} {name : String} {complaint : CryptoError}
      (decoded : Json.decodeBytes KeyDocument.decode bytes = .ok d) (complains : Key.Complaint complaint)
      (first : firstFault (keyTexts d) = some (name, complaint)) :
      Refused tell bytes (entryError name complaint)

theorem refused_of_error {tell : List UInt8 → DecodeError → String} {payload : String} {key : Key}
    {bytes : List UInt8} {e : SyncError} (opened : openText payload key = .ok bytes)
    (failed : openTelling tell payload key = .error e) : Refused tell bytes e := by
  rw [openTelling_of_ok opened] at failed
  cases decoded : Json.decodeBytes KeyDocument.decode bytes with
  | error found =>
      rw [decoded] at failed
      exact Except.error.inj failed ▸ .contents decoded
  | ok d =>
      rw [decoded] at failed
      obtain ⟨name, complaint, faulted⟩ := ofDocument_faulted failed
      exact faulted.error ▸ .entry decoded faulted.complains faulted.first

/-- What the reader remarks does not decide whether a payload is opened, and with which bundle: only the
reason of a malformed one may be another. -/
theorem openRemarked_ofPayload (remarks : List UInt8 → Json.Remark) (payload : String) (key : Key) :
    openRemarked remarks payload key = ofPayload payload key ∨
      ∃ remarked reason, openRemarked remarks payload key = .error (.malformed remarked) ∧
        ofPayload payload key = .error (.malformed reason) := by
  unfold openRemarked ofPayload
  cases opened : openText payload key with
  | error e =>
      left
      rw [openTelling_of_error opened, openTelling_of_error opened]
  | ok bytes =>
      rw [openTelling_of_ok opened, openTelling_of_ok opened]
      cases Json.decodeBytes KeyDocument.decode bytes with
      | error e => exact .inr ⟨_, _, rfl, rfl⟩
      | ok d => exact .inl rfl

/-- Texts of one outline that are no bundles get the same error if and only if the same is disclosed. -/
theorem Refused.message_iff {remarks : List UInt8 → Json.Remark} {bytes others : List UInt8}
    {e f : SyncError} (alike : Json.SameOutline (.ofBytes bytes) (.ofBytes others))
    (refused : Refused (fun bytes e => e.remarked (remarks bytes)) bytes e)
    (refuses : Refused (fun bytes e => e.remarked (remarks bytes)) others f) :
    e.message = f.message ↔ disclosed remarks bytes = disclosed remarks others := by
  have outlines : outlined KeyDocument.blank (Json.decodeBytes KeyDocument.decode bytes) =
      outlined KeyDocument.blank (Json.decodeBytes KeyDocument.decode others) :=
    alike.decoded KeyDocument.decode_outline
  unfold disclosed
  cases refused with
  | contents decoded =>
      cases refuses with
      | contents decodes =>
          rw [decoded, decodes] at outlines ⊢
          exact contentsError_message_iff.trans (DecodeError.remarked_iff (Except.error.inj outlines) _ _)
      | entry decodes =>
          rw [decoded, decodes] at outlines
          cases outlines
  | entry decoded complains first =>
      cases refuses with
      | contents decodes =>
          rw [decoded, decodes] at outlines
          cases outlines
      | entry decodes protests earliest =>
          simp only [decoded, decodes, first, earliest, Disclosure.entry.injEq]
          constructor
          · exact entryError_inj complains protests
          · rintro ⟨rfl, rfl⟩
            rfl

/-- Two texts are sealed under one key, differ in the contents of strings alone, and neither is a bundle.
Then their errors, and what is logged when a cycle meets them, are the same if and only if the same is
disclosed of them, whatever the reader remarks when it stops. -/
theorem told_iff_disclosed (remarks : List UInt8 → Json.Remark) {key : Key} {payload other : String}
    {bytes others : List UInt8} {e f : SyncError} (opened : openText payload key = .ok bytes)
    (opens : openText other key = .ok others) (alike : Json.SameOutline (.ofBytes bytes) (.ofBytes others))
    (failed : openRemarked remarks payload key = .error e)
    (fails : openRemarked remarks other key = .error f) :
    (e.message = f.message ↔ disclosed remarks bytes = disclosed remarks others) ∧
      ((Event.keysUnusable e).line = (Event.keysUnusable f).line ↔
        disclosed remarks bytes = disclosed remarks others) := by
  have messages := (refused_of_error opened failed).message_iff alike (refused_of_error opens fails)
  refine ⟨messages, ?_⟩
  rw [line_keysUnusable, line_keysUnusable, String.append_right_inj, String.append_left_inj,
    String.append_right_inj]
  exact messages

/-- A document without a default key. -/
def overridesOnly (text : String) : Json := .fields [("collections", .fields [("a", .text text)])]

theorem legible_overridesOnly (text : String) : (overridesOnly text).Legible := by
  refine Json.legible_fields fun member found => ?_
  obtain rfl := List.mem_singleton.mp found
  refine Json.legible_fields fun entry listed => ?_
  obtain rfl := List.mem_singleton.mp listed
  exact Json.legible_text text

theorem decodeBytes_overridesOnly (text : String) :
    Json.decodeBytes KeyDocument.decode (Utf8.encode (overridesOnly text).render) =
      .error (.missingField "default") := by
  rw [Json.decodeBytes_encode, Json.decodeText_render _ (legible_overridesOnly text)]
  rfl

/-- A field is missed at the end of a text of one line. -/
def remarksAtEnd (bytes : List UInt8) : Json.Remark := ⟨"", ⟨1, bytes.length⟩⟩

theorem openRemarked_overridesOnly (key : Key) (nonce : Nonce) (text : String) :
    openRemarked remarksAtEnd (sealText key nonce (overridesOnly text).render) key =
      .error (contentsError ((DecodeError.missingField "default").remarked
        (remarksAtEnd (Utf8.encode (overridesOnly text).render)))) := by
  rw [openRemarked, openTelling_of_ok (openText_sealText key nonce _), decodeBytes_overridesOnly]

/-- Where the default key is missing, the column tells how long the other keys are. -/
theorem keyLength_told : ∃ key nonce e f,
    openRemarked remarksAtEnd (sealText key nonce (overridesOnly "x").render) key = .error e ∧
    openRemarked remarksAtEnd (sealText key nonce (overridesOnly "xy").render) key = .error f ∧
    e.message = "malformed remote record: key bundle contents: missing field `default` at line 1 column 25" ∧
    e.message ≠ f.message ∧ (Event.keysUnusable e).line ≠ (Event.keysUnusable f).line := by
  let key : Key := ⟨List.replicate 32 0, rfl⟩
  let nonce : Nonce := ⟨List.replicate 12 0, rfl⟩
  have failed := openRemarked_overridesOnly key nonce "x"
  have fails := openRemarked_overridesOnly key nonce "xy"
  have differ : ¬disclosed remarksAtEnd (Utf8.encode (overridesOnly "x").render) =
      disclosed remarksAtEnd (Utf8.encode (overridesOnly "xy").render) := by
    simp only [disclosed, decodeBytes_overridesOnly]
    decide
  have told := told_iff_disclosed remarksAtEnd (openText_sealText key nonce _) (openText_sealText key nonce _)
    (Json.sameOutline_render (legible_overridesOnly "x") (legible_overridesOnly "xy") rfl) failed fails
  exact ⟨key, nonce, _, _, failed, fails, by decide, fun same => differ (told.1.mp same),
    fun same => differ (told.2.mp same)⟩

/-- A document with a text in place of the map of collections. -/
def textForCollections (text : String) : Json :=
  .fields [("default", .text "AAAAAAAAAAAAAAAAAAAAAAAAAAAAAAAAAAAAAAAAAAA="), ("collections", .text text)]

theorem legible_textForCollections (text : String) : (textForCollections text).Legible := by
  refine Json.legible_fields fun member found => ?_
  simp only [List.mem_cons, List.not_mem_nil, or_false] at found
  rcases found with rfl | rfl <;> exact Json.legible_text _

/-- Such a text is told as a whole, under whatever key it was sealed. -/
theorem openRemarked_textForCollections (remarks : List UInt8 → Json.Remark) (key : Key) (nonce : Nonce)
    (text : String) :
    openRemarked remarks (sealText key nonce (textForCollections text).render) key =
      .error (contentsError ((DecodeError.invalidType (.string text) "a map").remarked
        (remarks (Utf8.encode (textForCollections text).render)))) := by
  rw [openRemarked, openTelling_of_ok (openText_sealText key nonce _), Json.decodeBytes_encode,
    Json.decodeText_render _ (legible_textForCollections text)]
  rfl

/-- The key of a collection that stands in place of the map of collections is told in the error: not all
documents of one outline get the same, whatever the reader remarks. -/
theorem misplaced_key_told :
    ¬∃ remarks : List UInt8 → Json.Remark,
      ∀ (key : Key) (payload other : String) (bytes others : List UInt8) (e f : SyncError),
        openText payload key = .ok bytes → openText other key = .ok others →
        Json.SameOutline (.ofBytes bytes) (.ofBytes others) →
        openRemarked remarks payload key = .error e → openRemarked remarks other key = .error f →
        e.message = f.message := by
  rintro ⟨remarks, claimed⟩
  have told := claimed ⟨List.replicate 32 0, rfl⟩ _ _ _ _ _ _
    (openText_sealText _ ⟨List.replicate 12 0, rfl⟩ _) (openText_sealText _ ⟨List.replicate 12 0, rfl⟩ _)
    (Json.sameOutline_render
      (legible_textForCollections "xqG5xFy0Ql9fPcj9vDWkse92oc7wcAkMB4B/p8uWRww=")
      (legible_textForCollections "yqG5xFy0Ql9fPcj9vDWkse92oc7wcAkMB4B/p8uWRww=") rfl)
    (openRemarked_textForCollections remarks _ _ _) (openRemarked_textForCollections remarks _ _ _)
  have words := (DecodeError.remarked_inj.mp (contentsError_message_iff.mp told)).1
  have texts := DecodeError.misplaced_inj words
  revert texts
  decide

end KeyBundle

end SealedSync
