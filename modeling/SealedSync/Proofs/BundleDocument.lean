import SealedSync.Proofs.CanonicalKeys
import SealedSync.Proofs.RecordTexts
import SealedSync.Proofs.SealedBundle

/-!
# The texts of envelopes and bundles

Envelopes and bundles are decoded from the texts that are described here by their shape alone: what each
field says, which fields may be missing, and that keys are given by their one text. What such a text says is
what is decoded from it, and nothing else is decoded.
-/
namespace SealedSync

theorem NameMap.get?_of_mem {α : Type} {m : NameMap α} {e : String × α} (member : e ∈ m.entries) :
    m.get? e.1 = some e.2 := by
  obtain ⟨entries, ascending⟩ := m
  show entries.lookup e.1 = some e.2
  induction entries with
  | nil => cases member
  | cons head rest ih =>
      obtain ⟨below, ascending⟩ := List.pairwise_cons.mp ascending
      rw [lookup_cons]
      rcases List.mem_cons.mp member with rfl | later
      · rw [if_pos rfl]
      · have distinct : e.1 ≠ head.1 := by
          intro same
          exact String.lt_irrefl _ (same ▸ below e later)
        rw [if_neg distinct]
        exact ih ascending later

theorem NameMap.lookup_mapEntries {α β : Type} (f : α → β) (entries : List (String × α))
    (name : String) :
    (KeyBundle.mapEntries f entries).lookup name = (entries.lookup name).map f := by
  induction entries with
  | nil => rfl
  | cons head rest ih =>
      have tail : (KeyBundle.mapEntries f (head :: rest)).lookup name =
          if name = head.1 then some (f head.2) else (KeyBundle.mapEntries f rest).lookup name :=
        lookup_cons ..
      rw [tail, lookup_cons, ih]
      split <;> rfl

/-! ## Envelopes -/

namespace Envelope

theorem decodeBytes_eq_ok {value : Json} {bytes : List UInt8} :
    decodeBytes value = .ok bytes ↔ value = .text (Base64.encode bytes) := by
  constructor
  · intro decoded
    obtain ⟨text, string, found⟩ := Except.bind_eq_ok.mp decoded
    obtain rfl := Json.decodeString_eq_ok.mp string
    split at found
    · rename_i read
      cases found
      rw [Base64.decode_eq_ok.mp read]
    · cases found
  · rintro rfl
    exact decodeBytes_text bytes

theorem decodeNonce_eq_ok {value : Json} {nonce : Nonce} :
    decodeNonce value = .ok nonce ↔ value = .text (Base64.encode nonce.val) := by
  constructor
  · intro decoded
    obtain ⟨bytes, read, found⟩ := Except.bind_eq_ok.mp decoded
    obtain rfl := decodeBytes_eq_ok.mp read
    unfold FixedBytes.ofList? at found
    split at found
    · rename_i fits
      split at fits
      · cases fits
        cases found
        rfl
      · cases fits
    · cases found
  · rintro rfl
    exact decodeNonce_text nonce

/-- The fields of sealed data. -/
def fields : List (Json.Field Draft) :=
  [⟨"nonce", decodeNonce, Draft.nonce, fun d slot => { d with nonce := slot }⟩,
    ⟨"ciphertext", decodeBytes, Draft.ciphertext, fun d slot => { d with ciphertext := slot }⟩]

theorem readsFields : Json.ReadsFields fields Draft.read where
  distinct := by simp [fields]
  takes := by
    simp only [fields, List.forall_mem_cons, List.not_mem_nil, false_implies, implies_true, and_true]
    refine ⟨fun d value => ?_, fun d value => ?_⟩
    · show (do return { d with nonce := ← Json.readField "nonce" d.nonce decodeNonce value } :
        Except DecodeError Draft) = _
      cases Json.readField "nonce" d.nonce decodeNonce value <;> rfl
    · show (do return { d with
        ciphertext := ← Json.readField "ciphertext" d.ciphertext decodeBytes value } :
        Except DecodeError Draft) = _
      cases Json.readField "ciphertext" d.ciphertext decodeBytes value <;> rfl
  stores := by simp [fields]
  keeps := by simp [fields]
  passes d name value other := by
    simp only [fields, List.forall_mem_cons, List.not_mem_nil, false_implies, implies_true,
      and_true] at other
    unfold Draft.read
    split
    · exact absurd rfl other.1
    · exact absurd rfl other.2
    · cases value.skip <;> rfl
  ext d e same := by
    cases d
    cases e
    simpa [fields] using same

theorem thorough_fields : ∀ f ∈ fields, Json.Thorough f.decode := by
  simp only [fields, List.forall_mem_cons, List.not_mem_nil, false_implies, implies_true, and_true]
  constructor
  · intro value nonce decoded
    obtain rfl := decodeNonce_eq_ok.mp decoded
    rfl
  · intro value bytes decoded
    obtain rfl := decodeBytes_eq_ok.mp decoded
    rfl

theorem fold_read_iff {members : Json.Members} {d e : Draft} :
    members.fold Draft.read d = .ok e ↔ members.Named ∧ members.intact = true ∧
      Json.readValues "nonce" decodeNonce d.nonce (members.values "nonce") = .ok e.nonce ∧
      Json.readValues "ciphertext" decodeBytes d.ciphertext (members.values "ciphertext") =
        .ok e.ciphertext := by
  rw [readsFields.fold_eq_ok_iff thorough_fields]
  simp [fields]

/-- The texts in which an envelope is written. -/
inductive Written (e : Envelope) : Json → Prop where
  | object {members : Json.Members} (named : members.Named) (intact : members.intact = true)
      (nonce : members.values "nonce" = [.text (Base64.encode e.nonce.val)])
      (ciphertext : members.values "ciphertext" = [.text (Base64.encode e.ciphertext)]) :
      Written e (.object members)
  | array : Written e (.list [.text (Base64.encode e.nonce.val), .text (Base64.encode e.ciphertext)])

theorem ofMembers_eq_ok {members : Json.Members} {e : Envelope} :
    ofMembers members = .ok e ↔ Written e (.object members) := by
  constructor
  · intro decoded
    obtain ⟨⟨n, c⟩, folded, decoded⟩ := Except.bind_eq_ok.mp decoded
    obtain ⟨named, intact, nonce, ciphertext⟩ := fold_read_iff.mp folded
    cases n with
    | none => cases decoded
    | some n =>
        cases c with
        | none => cases decoded
        | some c =>
            cases decoded
            obtain ⟨_, onlyNonce, read⟩ := Json.readValues_eq_some.mp nonce
            obtain rfl := decodeNonce_eq_ok.mp read
            obtain ⟨_, onlyCiphertext, read⟩ := Json.readValues_eq_some.mp ciphertext
            obtain rfl := decodeBytes_eq_ok.mp read
            exact .object named intact onlyNonce onlyCiphertext
  · rintro ⟨named, intact, onlyNonce, onlyCiphertext⟩
    have folded : members.fold Draft.read ⟨none, none⟩ = .ok ⟨some e.nonce, some e.ciphertext⟩ :=
      fold_read_iff.mpr ⟨named, intact,
        Json.readValues_eq_some.mpr ⟨_, onlyNonce, decodeNonce_eq_ok.mpr rfl⟩,
        Json.readValues_eq_some.mpr ⟨_, onlyCiphertext, decodeBytes_eq_ok.mpr rfl⟩⟩
    exact Except.bind_eq_ok.mpr ⟨_, folded, rfl⟩

theorem ofItems_eq_ok {items : Json.Items} {e : Envelope} :
    ofItems items = .ok e ↔ Written e (.array items) := by
  constructor
  · intro decoded
    obtain ⟨⟨nonce, rest⟩, first, decoded⟩ := Except.bind_eq_ok.mp decoded
    obtain ⟨⟨ciphertext, last⟩, second, decoded⟩ := Except.bind_eq_ok.mp decoded
    obtain ⟨_, ended, same⟩ := Except.bind_eq_ok.mp decoded
    cases same
    obtain ⟨_, rfl, readNonce⟩ := Json.Items.next_eq_ok.mp first
    obtain ⟨_, rfl, readCiphertext⟩ := Json.Items.next_eq_ok.mp second
    obtain rfl := Json.Items.finish_eq_ok.mp ended
    obtain rfl := decodeNonce_eq_ok.mp readNonce
    obtain rfl := decodeBytes_eq_ok.mp readCiphertext
    exact .array
  · rintro ⟨⟩
    refine Except.bind_eq_ok.mpr ⟨⟨e.nonce, _⟩, Json.Items.next_eq_ok.mpr ⟨_, rfl, ?_⟩, ?_⟩
    · exact decodeNonce_eq_ok.mpr rfl
    · refine Except.bind_eq_ok.mpr ⟨⟨e.ciphertext, _⟩, Json.Items.next_eq_ok.mpr ⟨_, rfl, ?_⟩, rfl⟩
      exact decodeBytes_eq_ok.mpr rfl

theorem decode_eq_ok {value : Json} {e : Envelope} : decode value = .ok e ↔ Written e value := by
  cases value with
  | object members => exact ofMembers_eq_ok
  | array items => exact ofItems_eq_ok
  | _ =>
      constructor
      · intro impossible
        cases impossible
      · nofun

end Envelope

/-! ## Bundles -/

namespace KeyDocument

/-- The members that give each collection of a list its text, in the order of the list. -/
def listing (given : List (String × String)) : Json :=
  .fields (given.map fun e => (e.1, .text e.2))

theorem fold_addCollection_eq_ok {found : NameMap String} :
    ∀ {members : Json.Members} {collections : NameMap String},
      members.fold addCollection collections = .ok found ↔
        ∃ given : List (String × String), Json.object members = listing given ∧
          found = given.foldl (fun m e => m.insert e.1 e.2) collections
  | .closed, collections => by
      simp only [Json.Members.fold, Except.ok.injEq]
      constructor
      · rintro rfl
        exact ⟨[], rfl, rfl⟩
      · rintro ⟨given, same, rfl⟩
        cases given with
        | nil => rfl
        | cons => cases same
  | .cut, _ => by
      simp only [Json.Members.fold, reduceCtorEq, false_iff]
      rintro ⟨given, same, -⟩
      cases given <;> cases same
  | .member key value tail, collections => by
      have rest {collections : NameMap String} :
          tail.fold addCollection collections = .ok found ↔ _ := fold_addCollection_eq_ok
      constructor
      · intro folded
        cases key with
        | string content =>
            cases content with
            | none => cases folded
            | some name =>
                obtain ⟨next, added, folded⟩ := Except.bind_eq_ok.mp folded
                obtain ⟨text, read, inserted⟩ := Except.bind_eq_ok.mp added
                cases inserted
                obtain rfl := Json.decodeString_eq_ok.mp read
                obtain ⟨given, same, rfl⟩ := rest.mp folded
                obtain rfl := Json.object.inj same
                exact ⟨(name, text) :: given, rfl, rfl⟩
        | _ => cases folded
      · rintro ⟨given, same, rfl⟩
        cases given with
        | nil => cases same
        | cons head given =>
            cases same
            exact rest.mpr ⟨given, rfl, rfl⟩

theorem decodeCollections_eq_ok {value : Json} {collections : NameMap String} :
    decodeCollections value = .ok collections ↔
      ∃ given, value = listing given ∧ collections = NameMap.ofList given := by
  unfold decodeCollections
  split
  · exact fold_addCollection_eq_ok
  · rename_i other
    simp only [reduceCtorEq, false_iff]
    rintro ⟨given, rfl, -⟩
    exact other _ rfl

theorem intact_listing (given : List (String × String)) : (listing given).intact = true := by
  refine Json.intact_of_legible (Json.legible_fields fun member found => ?_)
  obtain ⟨e, -, rfl⟩ := List.mem_map.mp found
  exact Json.legible_text _

/-- The fields of a bundle's document. -/
def fields : List (Json.Field Draft) :=
  [⟨"default", Json.decodeString, Draft.default, fun d slot => { d with default := slot }⟩,
    ⟨"collections", decodeCollections, Draft.collections,
      fun d slot => { d with collections := slot }⟩]

theorem readsFields : Json.ReadsFields fields Draft.read where
  distinct := by simp [fields]
  takes := by
    simp only [fields, List.forall_mem_cons, List.not_mem_nil, false_implies, implies_true, and_true]
    refine ⟨fun d value => ?_, fun d value => ?_⟩
    · show (do return { d with default := ← Json.readField "default" d.default Json.decodeString value } :
        Except DecodeError Draft) = _
      cases Json.readField "default" d.default Json.decodeString value <;> rfl
    · show (do return { d with
        collections := ← Json.readField "collections" d.collections decodeCollections value } :
        Except DecodeError Draft) = _
      cases Json.readField "collections" d.collections decodeCollections value <;> rfl
  stores := by simp [fields]
  keeps := by simp [fields]
  passes d name value other := by
    simp only [fields, List.forall_mem_cons, List.not_mem_nil, false_implies, implies_true,
      and_true] at other
    unfold Draft.read
    split
    · exact absurd rfl other.1
    · exact absurd rfl other.2
    · cases value.skip <;> rfl
  ext d e same := by
    cases d
    cases e
    simpa [fields] using same

theorem thorough_fields : ∀ f ∈ fields, Json.Thorough f.decode := by
  simp only [fields, List.forall_mem_cons, List.not_mem_nil, false_implies, implies_true, and_true]
  constructor
  · exact Json.thorough_decodeString
  · intro value collections decoded
    obtain ⟨given, rfl, -⟩ := decodeCollections_eq_ok.mp decoded
    exact intact_listing given

theorem fold_read_iff {members : Json.Members} {d e : Draft} :
    members.fold Draft.read d = .ok e ↔ members.Named ∧ members.intact = true ∧
      Json.readValues "default" Json.decodeString d.default (members.values "default") =
        .ok e.default ∧
      Json.readValues "collections" decodeCollections d.collections (members.values "collections") =
        .ok e.collections := by
  rw [readsFields.fold_eq_ok_iff thorough_fields]
  simp [fields]

/-- The texts in which a bundle is written: a default text, and a list that may be missing. -/
inductive Written (default : String) : List (String × String) → Json → Prop where
  | object {members : Json.Members} {given : List (String × String)} (named : members.Named)
      (intact : members.intact = true) (onlyDefault : members.values "default" = [.text default])
      (collections : members.values "collections" = [listing given]) :
      Written default given (.object members)
  | bareObject {members : Json.Members} (named : members.Named) (intact : members.intact = true)
      (onlyDefault : members.values "default" = [.text default])
      (missing : members.values "collections" = []) : Written default [] (.object members)
  | array (given : List (String × String)) :
      Written default given (.list [.text default, listing given])
  | bareArray : Written default [] (.list [.text default])

theorem ofMembers_eq_ok {members : Json.Members} {d : KeyDocument} :
    ofMembers members = .ok d ↔
      ∃ given, Written d.default given (.object members) ∧ d.collections = NameMap.ofList given := by
  constructor
  · intro decoded
    obtain ⟨⟨t, c⟩, folded, decoded⟩ := Except.bind_eq_ok.mp decoded
    obtain ⟨named, intact, default, collections⟩ := fold_read_iff.mp folded
    cases t with
    | none => cases decoded
    | some t =>
        cases decoded
        obtain ⟨_, onlyDefault, read⟩ := Json.readValues_eq_some.mp default
        obtain rfl := Json.decodeString_eq_ok.mp read
        cases c with
        | none =>
            exact ⟨[], .bareObject named intact onlyDefault (Json.readValues_eq_none.mp collections), rfl⟩
        | some c =>
            obtain ⟨_, onlyList, read⟩ := Json.readValues_eq_some.mp collections
            obtain ⟨given, rfl, rfl⟩ := decodeCollections_eq_ok.mp read
            exact ⟨given, .object named intact onlyDefault onlyList, rfl⟩
  · obtain ⟨default, collections⟩ := d
    rintro ⟨given, written, rfl⟩
    cases written with
    | object named intact onlyDefault onlyList =>
        have folded : members.fold Draft.read ⟨none, none⟩ =
            .ok ⟨some default, some (NameMap.ofList given)⟩ :=
          fold_read_iff.mpr ⟨named, intact,
            Json.readValues_eq_some.mpr ⟨_, onlyDefault, rfl⟩,
            Json.readValues_eq_some.mpr ⟨_, onlyList, decodeCollections_eq_ok.mpr ⟨given, rfl, rfl⟩⟩⟩
        exact Except.bind_eq_ok.mpr ⟨_, folded, rfl⟩
    | bareObject named intact onlyDefault missing =>
        have folded : members.fold Draft.read ⟨none, none⟩ = .ok ⟨some default, none⟩ :=
          fold_read_iff.mpr ⟨named, intact,
            Json.readValues_eq_some.mpr ⟨_, onlyDefault, rfl⟩, Json.readValues_eq_none.mpr missing⟩
        exact Except.bind_eq_ok.mpr ⟨_, folded, rfl⟩

theorem ofItems_eq_ok {items : Json.Items} {d : KeyDocument} :
    ofItems items = .ok d ↔
      ∃ given, Written d.default given (.array items) ∧ d.collections = NameMap.ofList given := by
  constructor
  · intro decoded
    obtain ⟨⟨default, rest⟩, first, decoded⟩ := Except.bind_eq_ok.mp decoded
    obtain ⟨⟨collections, last⟩, second, decoded⟩ := Except.bind_eq_ok.mp decoded
    obtain ⟨_, ended, same⟩ := Except.bind_eq_ok.mp decoded
    cases same
    obtain ⟨_, rfl, read⟩ := Json.Items.next_eq_ok.mp first
    obtain rfl := Json.decodeString_eq_ok.mp read
    obtain rfl := Json.Items.finish_eq_ok.mp ended
    rcases Json.Items.nextOr_eq_ok.mp second with ⟨rfl, -, rfl⟩ | ⟨_, rfl, read⟩
    · exact ⟨[], .bareArray, rfl⟩
    · obtain ⟨given, rfl, rfl⟩ := decodeCollections_eq_ok.mp read
      exact ⟨given, .array given, rfl⟩
  · obtain ⟨default, collections⟩ := d
    rintro ⟨given, written, rfl⟩
    cases written with
    | array =>
        refine Except.bind_eq_ok.mpr ⟨⟨default, _⟩, Json.Items.next_eq_ok.mpr ⟨_, rfl, rfl⟩, ?_⟩
        refine Except.bind_eq_ok.mpr ⟨⟨NameMap.ofList given, .closed⟩, ?_, rfl⟩
        exact Json.Items.nextOr_eq_ok.mpr
          (.inr ⟨_, rfl, decodeCollections_eq_ok.mpr ⟨given, rfl, rfl⟩⟩)
    | bareArray => rfl

/-- A bundle's document is decoded from the texts in which it is written, and of a collection that is listed
more than once it has the last text. -/
theorem decode_eq_ok {value : Json} {d : KeyDocument} : decode value = .ok d ↔
    ∃ given, Written d.default given value ∧ d.collections = NameMap.ofList given := by
  cases value with
  | object members => exact ofMembers_eq_ok
  | array items => exact ofItems_eq_ok
  | _ =>
      constructor
      · intro impossible
        cases impossible
      · rintro ⟨_, ⟨⟩, -⟩

theorem Written.intact {default : String} {given : List (String × String)} {value : Json}
    (written : Written default given value) : value.intact = true := by
  cases written with
  | object _ intact => exact intact
  | bareObject _ intact => exact intact
  | array =>
      have listed := intact_listing given
      simp [Json.intact, Json.list, Json.Items.ofList, Json.Items.intact, Json.text, listed]
  | bareArray => rfl

theorem decodeBytes_eq_ok {plaintext : List UInt8} {d : KeyDocument} :
    Json.decodeBytes decode plaintext = .ok d ↔ ∃ value given, Json.Holds (.ofBytes plaintext) value ∧
      Written d.default given value ∧ d.collections = NameMap.ofList given := by
  have thorough : Json.Thorough decode := by
    intro value d decoded
    obtain ⟨given, written, -⟩ := decode_eq_ok.mp decoded
    exact written.intact
  rw [Json.decodeBytes, Json.decodeSource_eq_ok_iff thorough]
  simp only [decode_eq_ok, exists_and_left]

end KeyDocument

namespace KeyBundle

theorem decodeKey_eq_ok {label text : String} {key : Key} :
    decodeKey label text = .ok key ↔ text = key.toBase64 := by
  rw [← Key.ofBase64_eq_ok]
  unfold decodeKey
  split
  · rename_i found
    rw [found, Except.ok.injEq, Except.ok.injEq]
  · rename_i found
    rw [found]
    simp only [reduceCtorEq]

theorem decodeOverrides_eq_ok {entries : List (String × String)} {keys found : NameMap Key} :
    decodeOverrides keys entries = .ok found ↔ ∃ given, entries = mapEntries Key.toBase64 given ∧
      found = given.foldl (fun m e => m.insert e.1 e.2) keys := by
  constructor
  · intro decoded
    induction entries generalizing keys with
    | nil =>
        cases decoded
        exact ⟨[], rfl, rfl⟩
    | cons head rest ih =>
        obtain ⟨name, text⟩ := head
        obtain ⟨key, read, later⟩ := Except.bind_eq_ok.mp decoded
        obtain rfl := decodeKey_eq_ok.mp read
        obtain ⟨given, rfl, rfl⟩ := ih later
        exact ⟨(name, key) :: given, rfl, rfl⟩
  · rintro ⟨given, rfl, rfl⟩
    exact decodeOverrides_mapEntries keys given

/-- Of its document alone a bundle is read. -/
theorem ofDocument_eq_ok {d : KeyDocument} {b : KeyBundle} : ofDocument d = .ok b ↔ d = b.document := by
  constructor
  · intro read
    obtain ⟨default, readDefault, read⟩ := Except.bind_eq_ok.mp read
    obtain ⟨overrides, readOverrides, same⟩ := Except.bind_eq_ok.mp read
    cases same
    obtain ⟨given, written, rfl⟩ := decodeOverrides_eq_ok.mp readOverrides
    obtain ⟨text, collections⟩ := d
    obtain rfl := decodeKey_eq_ok.mp readDefault
    -- The texts come in ascending order, and so do their keys.
    have ascending : Ascending given := by
      have same : collections.entries = mapEntries Key.toBase64 given := written
      have texts := collections.ascending
      rw [same] at texts
      exact (List.pairwise_map (f := fun e : String × Key => (e.1, e.2.toBase64))).mp texts
    have kept : given.foldl (fun m e => m.insert e.1 e.2) NameMap.empty = ⟨given, ascending⟩ :=
      NameMap.ofList_entries ⟨given, ascending⟩
    rw [kept, document, KeyDocument.mk.injEq]
    exact ⟨rfl, NameMap.ext written⟩
  · rintro rfl
    exact ofDocument_document b

/-- A document is that of the bundle whose keys have its texts. -/
theorem eq_document_iff {d : KeyDocument} {b : KeyBundle} : d = b.document ↔
    d.default = b.default.toBase64 ∧
      ∀ name, d.collections.get? name = (b.overrides.get? name).map Key.toBase64 := by
  have texts (name : String) :
      b.document.collections.get? name = (b.overrides.get? name).map Key.toBase64 :=
    NameMap.lookup_mapEntries Key.toBase64 b.overrides.entries name
  obtain ⟨default, collections⟩ := d
  rw [show b.document = ⟨b.default.toBase64, b.document.collections⟩ from rfl, KeyDocument.mk.injEq,
    NameMap.eq_iff_get?]
  simp only [texts]

/-- The bytes are a text in which the bundle is written. Of a collection that is listed more than once the
last text counts. -/
def WrittenIn (b : KeyBundle) (plaintext : List UInt8) : Prop :=
  ∃ value given, Json.Holds (.ofBytes plaintext) value ∧
    KeyDocument.Written b.default.toBase64 given value ∧
    ∀ name, given.reverse.lookup name = (b.overrides.get? name).map Key.toBase64

/-- The bytes are a document in which the default and the last text of every collection are the texts of
keys. -/
def HoldKeys (plaintext : List UInt8) : Prop :=
  ∃ value default given, Json.Holds (.ofBytes plaintext) value ∧
    KeyDocument.Written default given value ∧ (∃ key : Key, default = key.toBase64) ∧
    ∀ name text, given.reverse.lookup name = some text → ∃ key : Key, text = key.toBase64

theorem get?_ofList (given : List (String × String)) (name : String) :
    (NameMap.ofList given).get? name = given.reverse.lookup name := by
  rw [NameMap.ofList, NameMap.get?_foldl_insert]
  exact Option.or_none

theorem writtenIn_iff {b : KeyBundle} {plaintext : List UInt8} :
    b.WrittenIn plaintext ↔ Json.decodeBytes KeyDocument.decode plaintext = .ok b.document := by
  rw [KeyDocument.decodeBytes_eq_ok, WrittenIn]
  have texts := (eq_document_iff.mp (Eq.refl b.document)).2
  refine exists_congr fun value => exists_congr fun given => and_congr_right fun _ =>
    and_congr_right fun _ => ?_
  rw [NameMap.eq_iff_get?]
  refine forall_congr' fun name => ?_
  rw [texts, get?_ofList]
  exact eq_comm

theorem exists_mapEntries {entries : List (String × String)}
    (keys : ∀ e ∈ entries, ∃ key : Key, e.2 = key.toBase64) :
    ∃ given, entries = mapEntries Key.toBase64 given := by
  induction entries with
  | nil => exact ⟨[], rfl⟩
  | cons head rest ih =>
      obtain ⟨name, text⟩ := head
      obtain ⟨⟨key, rfl⟩, later⟩ := List.forall_mem_cons.mp keys
      obtain ⟨given, rfl⟩ := ih later
      exact ⟨(name, key) :: given, rfl⟩

/-- Texts of keys are those of a bundle. -/
theorem holdKeys_iff {plaintext : List UInt8} :
    HoldKeys plaintext ↔ ∃ b : KeyBundle, b.WrittenIn plaintext := by
  constructor
  · rintro ⟨value, _, given, holds, written, ⟨key, rfl⟩, keys⟩
    let d : KeyDocument := ⟨key.toBase64, NameMap.ofList given⟩
    have decoded : Json.decodeBytes KeyDocument.decode plaintext = .ok d :=
      KeyDocument.decodeBytes_eq_ok.mpr ⟨value, given, holds, written, rfl⟩
    obtain ⟨entries, texts⟩ := exists_mapEntries fun e (member : e ∈ d.collections.entries) =>
      keys e.1 e.2 (get?_ofList given e.1 ▸ NameMap.get?_of_mem member)
    have read : ofDocument d = .ok ⟨key, entries.foldl (fun m e => m.insert e.1 e.2) .empty⟩ := by
      refine Except.bind_eq_ok.mpr ⟨key, decodeKey_eq_ok.mpr rfl, ?_⟩
      exact Except.bind_eq_ok.mpr ⟨_, decodeOverrides_eq_ok.mpr ⟨entries, texts, rfl⟩, rfl⟩
    exact ⟨_, writtenIn_iff.mpr (ofDocument_eq_ok.mp read ▸ decoded)⟩
  · rintro ⟨b, value, given, holds, written, keys⟩
    refine ⟨value, _, given, holds, written, ⟨b.default, rfl⟩, fun name text found => ?_⟩
    rw [keys] at found
    obtain ⟨key, -, rfl⟩ := Option.map_eq_some_iff.mp found
    exact ⟨key, rfl⟩

end KeyBundle

end SealedSync
