import SealedSync.Proofs.Cancellation
import SealedSync.Proofs.Fields
import SealedSync.Proofs.Storage
import SealedSync.Proofs.WipeDecision

/-!
# Metadata of a newer format

A storage format above the configured one is a reason to stop and to leave the server as it is. The
format is looked at only after the whole record has been decoded, though. A record that this client
cannot decode counts as unusable whatever format it announces, and is answered by a fresh start.
-/
namespace SealedSync

namespace Json

/-- The number that an integer numeral without a sign stands for. -/
def Numeral.natural? (n : Numeral) : Option Nat :=
  if !n.negative && n.fraction.isEmpty && n.exponent.isEmpty then some (Digits.toNat n.whole)
  else none

namespace Members

/-- The format that the members of a metadata record announce, be it once or among others. -/
def Announces (members : Members) (version : Nat) : Prop :=
  ∃ n : Numeral, .number n ∈ members.values "storageVersion" ∧ n.natural? = some version

end Members

/-- The text is JSON, and it is an object. -/
structure IsObjectText (text : String) (members : Members) : Prop where
  found : (read (.ofText text)).1 = .object members
  intact : members.intact = true
  alone : skipSpace (read (.ofText text)).2 = []

theorem IsObjectText.decodeText {α : Type} {text : String} {members : Members}
    (object : IsObjectText text members) (decode : Decoder α) :
    Json.decodeText decode text = decode (.object members) := by
  simp only [Json.decodeText, decodeSource, object.found, object.alone, List.isEmpty_nil, if_true]
  exact bind_pure _

theorem intact_of_legible {value : Json} (legible : value.Legible) : value.intact = true :=
  (denotes_render value legible).intact

theorem isObjectText_render {members : Members} (legible : members.Legible) :
    IsObjectText (Json.object members).render members := by
  have object : (Json.object members).Legible := legible
  have read := read_render object
  exact ⟨congrArg Prod.fst read, intact_of_legible object, by rw [read]; rfl⟩

theorem decodeString_eq_ok {value : Json} {s : String} :
    decodeString value = .ok s ↔ value = text s := by
  unfold decodeString decodeStringAs Json.text
  split
  · simp
  · rename_i other
    simp only [reduceCtorEq, false_iff]
    exact other s

theorem Numeral.value_of_natural {n : Numeral} {k : Nat} (natural : n.natural? = some k)
    (small : k < wordLimit) : n.value = some (.integer k) := by
  unfold natural? at natural
  split at natural
  · rename_i plain
    cases natural
    simp only [Bool.and_eq_true, Bool.not_eq_true'] at plain
    simp [value, plain, small]
  · cases natural

theorem Numeral.natural_of_value {n : Numeral} {i : Int} (read : n.value = some (.integer i))
    (positive : 0 ≤ i) : n.natural? = some i.toNat := by
  unfold value at read
  dsimp only at read
  split at read
  · rename_i plain
    split at read
    · rename_i unsigned
      simp only [Option.some.injEq, Number.integer.injEq] at read
      simp only [Bool.and_eq_true, Bool.not_eq_true'] at plain unsigned
      simp [natural?, plain, unsigned, ← read]
    · split at read
      · rename_i signed
        simp only [Option.some.injEq, Number.integer.injEq] at read
        simp only [Bool.and_eq_true, decide_eq_true_eq] at signed
        omega
      · simp at read
  · simp at read

/-- An integer of thirty-two bits is a numeral without sign, point and exponent. -/
theorem decodeNat32_eq_ok {value : Json} {k : Nat} :
    decodeNat32 value = .ok k ↔
      ∃ n : Numeral, value = .number n ∧ n.natural? = some k ∧ k < Nat.pow 2 32 := by
  constructor
  · intro decoded
    unfold decodeNat32 decodeNat at decoded
    split at decoded
    · rename_i n
      split at decoded
      · rename_i i read
        split at decoded
        · rename_i within
          obtain rfl := Except.ok.inj decoded
          exact ⟨n, rfl, Numeral.natural_of_value read within.1, by omega⟩
        · cases decoded
      · cases decoded
    · cases decoded
  · rintro ⟨n, rfl, natural, small⟩
    have word : k < Numeral.wordLimit := Nat.lt_trans small (by decide)
    have within : (0 : Int) ≤ k ∧ (k : Int) < Nat.pow 2 32 := ⟨by omega, by exact_mod_cast small⟩
    simp only [decodeNat32, decodeNat, Numeral.value_of_natural natural word, if_pos within,
      Int.toNat_natCast]

end Json

namespace GlobalMetadata

open Json (readValues)

/-- The members are metadata as this client knows them; engines may be missing. -/
structure Expected (members : Json.Members) : Prop where
  named : members.Named
  syncId : ∃ id, members.values "syncID" = [.text id]
  storageVersion : ∃ n : Json.Numeral, members.values "storageVersion" = [.number n] ∧
    ∃ version, n.natural? = some version ∧ version < Nat.pow 2 32
  engines : members.values "engines" = [] ∨
    ∃ value engines, members.values "engines" = [value] ∧ decodeEngines value = .ok engines

/-- The fields of metadata. -/
def fields : List (Json.Field Draft) :=
  [⟨"syncID", Json.decodeString, Draft.syncId, fun d slot => { d with syncId := slot }⟩,
    ⟨"storageVersion", Json.decodeNat32, Draft.storageVersion,
      fun d slot => { d with storageVersion := slot }⟩,
    ⟨"engines", decodeEngines, Draft.engines, fun d slot => { d with engines := slot }⟩]

theorem readsFields : Json.ReadsFields fields Draft.read where
  distinct := by simp [fields]
  takes := by
    simp only [fields, List.forall_mem_cons, List.not_mem_nil, false_implies, implies_true, and_true]
    refine ⟨fun d value => ?_, fun d value => ?_, fun d value => ?_⟩
    · cases read : Json.readField "syncID" d.syncId Json.decodeString value <;>
        simp [Draft.read, read, bind, Except.bind, Except.map, pure, Except.pure]
    · cases read : Json.readField "storageVersion" d.storageVersion Json.decodeNat32 value <;>
        simp [Draft.read, read, bind, Except.bind, Except.map, pure, Except.pure]
    · cases read : Json.readField "engines" d.engines decodeEngines value <;>
        simp [Draft.read, read, bind, Except.bind, Except.map, pure, Except.pure]
  stores := by simp [fields]
  keeps := by simp [fields]
  passes d name value other := by
    simp only [fields, List.forall_mem_cons, List.not_mem_nil, false_implies, implies_true,
      and_true] at other
    unfold Draft.read
    split
    · exact absurd rfl other.1
    · exact absurd rfl other.2.1
    · exact absurd rfl other.2.2
    · cases value.skip <;> rfl
  ext d e same := by
    cases d
    cases e
    simpa [fields] using same

/-- Members are read one after another, and each field from the members of its name. -/
theorem fold_read_iff {members : Json.Members} {d e : Draft} (intact : members.intact = true) :
    members.fold Draft.read d = .ok e ↔ members.Named ∧
      readValues "syncID" Json.decodeString d.syncId (members.values "syncID") = .ok e.syncId ∧
      readValues "storageVersion" Json.decodeNat32 d.storageVersion
        (members.values "storageVersion") = .ok e.storageVersion ∧
      readValues "engines" decodeEngines d.engines (members.values "engines") = .ok e.engines := by
  rw [readsFields.fold_eq_ok intact]
  simp [fields]

/-- Of what is decoded the members are as expected, and one of them announces the format. -/
theorem expected_of_decoded {members : Json.Members} {m : GlobalMetadata}
    (intact : members.intact = true) (decoded : ofMembers members = .ok m) :
    Expected members ∧ ∃ n : Json.Numeral, members.values "storageVersion" = [.number n] ∧
      n.natural? = some m.storageVersion ∧ m.storageVersion < Nat.pow 2 32 := by
  simp only [ofMembers, bind, Except.bind] at decoded
  cases folded : members.fold Draft.read {} with
  | error problem => simp [folded] at decoded
  | ok e =>
      obtain ⟨named, id, version, engines⟩ := (fold_read_iff intact).mp folded
      cases foundId : e.syncId with
      | none => simp [folded, foundId, Json.requireField] at decoded
      | some syncId =>
          cases foundVersion : e.storageVersion with
          | none => simp [folded, foundId, foundVersion, Json.requireField] at decoded
          | some storageVersion =>
              simp only [folded, foundId, foundVersion, Json.requireField, pure, Except.pure,
                Except.ok.injEq] at decoded
              obtain rfl := decoded
              rw [foundId] at id
              rw [foundVersion] at version
              obtain ⟨value, onlyId, decodedId⟩ := Json.readValues_eq_some.mp id
              obtain rfl := Json.decodeString_eq_ok.mp decodedId
              obtain ⟨value, onlyVersion, decodedVersion⟩ := Json.readValues_eq_some.mp version
              obtain ⟨n, rfl, natural, small⟩ := Json.decodeNat32_eq_ok.mp decodedVersion
              refine ⟨⟨named, ⟨syncId, onlyId⟩, ⟨n, onlyVersion, storageVersion, natural, small⟩, ?_⟩,
                n, onlyVersion, natural, small⟩
              cases foundEngines : e.engines with
              | none =>
                  rw [foundEngines] at engines
                  exact .inl (Json.readValues_eq_none.mp engines)
              | some known =>
                  rw [foundEngines] at engines
                  obtain ⟨value, only, decoded⟩ := Json.readValues_eq_some.mp engines
                  exact .inr ⟨value, known, only, decoded⟩

theorem Expected.decodes {members : Json.Members} (intact : members.intact = true)
    (expected : Expected members) : ∃ m, ofMembers members = .ok m := by
  obtain ⟨named, ⟨id, onlyId⟩, ⟨n, onlyVersion, version, natural, small⟩, engines⟩ := expected
  have readId : readValues "syncID" Json.decodeString none (members.values "syncID") =
      .ok (some id) :=
    Json.readValues_eq_some.mpr ⟨_, onlyId, Json.decodeString_eq_ok.mpr rfl⟩
  have readVersion : readValues "storageVersion" Json.decodeNat32 none
      (members.values "storageVersion") = .ok (some version) :=
    Json.readValues_eq_some.mpr ⟨_, onlyVersion, Json.decodeNat32_eq_ok.mpr ⟨n, rfl, natural, small⟩⟩
  obtain ⟨slot, readEngines⟩ : ∃ slot, readValues "engines" decodeEngines none
      (members.values "engines") = .ok slot := by
    rcases engines with absent | ⟨value, known, only, decoded⟩
    · exact ⟨none, Json.readValues_eq_none.mpr absent⟩
    · exact ⟨some known, Json.readValues_eq_some.mpr ⟨value, only, decoded⟩⟩
  have folded : members.fold Draft.read {} = .ok ⟨some id, some version, slot⟩ :=
    (fold_read_iff intact).mpr ⟨named, readId, readVersion, readEngines⟩
  exact ⟨⟨id, version, slot.getD .empty⟩, by simp only [ofMembers, folded]; rfl⟩

end GlobalMetadata

namespace Session

open RemoteState

variable {ω : Type}

section Refusal

variable {oracle : Oracle ω} {before after : ω} {exchanges : List (Exchange Session)}
  {p : Profile} {s : Session} {index : CollectionIndex} {record : RemoteRecord}
  {members : Json.Members} {version : Nat}

/-- What a record that is a JSON object and announces a newer format comes to. -/
theorem evaluatedFrom_newer (object : Json.IsObjectText record.payload members)
    (announced : members.Announces version) (newer : p.config.storageVersion < version) :
    let evaluated := evaluatedFrom (metadataFrom p.limit (some (.ok (some record))))
      p.config.storageVersion
    (GlobalMetadata.Expected members ∧
      evaluated = .error (.clientOutdated version p.config.storageVersion)) ∨
    (¬GlobalMetadata.Expected members ∧ ∃ reason, evaluated = .ok (.diverged reason)) := by
  have decoded : Json.decodeText GlobalMetadata.decode record.payload =
      GlobalMetadata.ofMembers members := object.decodeText GlobalMetadata.decode
  have fetched : metadataFrom p.limit (some (.ok (some record))) = decodeMetadata record.payload :=
    rfl
  rw [fetched]
  cases found : GlobalMetadata.ofMembers members with
  | ok m =>
      obtain ⟨expected, n, only, natural, -⟩ :=
        GlobalMetadata.expected_of_decoded object.intact found
      obtain ⟨n', listed, natural'⟩ := announced
      rw [only, List.mem_singleton] at listed
      cases listed
      obtain rfl : m.storageVersion = version := Option.some.inj (natural.symm.trans natural')
      have read : decodeMetadata record.payload = .ok m := by
        simp only [decodeMetadata, decoded, found]
      refine .inl ⟨expected, ?_⟩
      rw [read, evaluatedFrom_ok, if_neg (Nat.ne_of_gt newer), if_neg (Nat.lt_asymm newer)]
  | error problem =>
      refine .inr ⟨fun expected => ?_, ?_⟩
      · obtain ⟨m, decodes⟩ := expected.decodes object.intact
        rw [found] at decodes
        cases decodes
      · have failed : ∃ e, decodeMetadata record.payload = .error e := by
          simp only [decodeMetadata, decoded, found]
          exact ⟨_, rfl⟩
        obtain ⟨e, failed⟩ := failed
        exact evaluatedFrom_eq_diverged.mpr (.inl ⟨e, failed, decodeMetadata_error failed⟩)

/-- The cycle fails because of the format that the server announces, and it writes nothing. -/
def StopsFor (course : Course ω Session CycleReport) (announced configured : Nat) : Prop :=
  course.ending.result = .error (.clientOutdated announced configured) ∧
    ∀ x ∈ course.exchanges, x.request.isWrite = false

theorem StopsFor.not_wipes {course : Course ω Session CycleReport} {announced configured : Nat}
    (stops : StopsFor course announced configured) : ¬Wipes course.exchanges := by
  rintro ⟨x, member, wipe⟩
  have written := Request.isWrite_of_isWipe wipe
  simp [stops.2 x member] at written

/-- The course of a cycle from the reply to its metadata fetch on. -/
theorem takes_sync_listed (idle : s.isSyncing = false)
    (listing : indexFrom p.limit (oracle.reply (indexRequest p.limit) before) = .ok index)
    (listed : index.ListsBookkeeping) {ending : Ending Session CycleReport}
    (taken : (sync p).Takes oracle.alone s before exchanges ending after) :
    ∃ x y rest inner, let world := oracle.next (indexRequest p.limit) before
      exchanges = x :: y :: rest ∧ x.request = indexRequest p.limit ∧
      y.request = metadataRequest p.limit ∧ ending = closed inner ∧
      match evaluatedFrom (metadataFrom p.limit (oracle.reply (metadataRequest p.limit) world))
        p.config.storageVersion with
      | .ok evaluated => (proceed p index evaluated).Takes oracle.alone
          ((s.starting.entering .fetchingState).entering .evaluating)
          (oracle.next (metadataRequest p.limit) world) rest inner after
      | .error e => rest = [] ∧
          inner = .failed e ((s.starting.entering .fetchingState).entering .evaluating) := by
  obtain ⟨inner, run, closing⟩ := (takes_sync idle).mp taken
  obtain ⟨called, rfl, continued⟩ := (takes_runCycle_alone rfl).mp run
  simp only [listing] at continued
  have consistent := CollectionIndex.evaluate_eq_consistent.mpr listed
  obtain ⟨rest, rfl, decided⟩ := (takes_evaluation_consistent consistent).mp continued
  refine ⟨_, _, rest, inner, rfl, rfl, rfl, closing, ?_⟩
  simp only [Oracle.toOracle_alone, Oracle.touch_alone] at decided
  cases evaluated : evaluatedFrom (metadataFrom p.limit
      (oracle.reply (metadataRequest p.limit) (oracle.next (indexRequest p.limit) before)))
      p.config.storageVersion with
  | ok found =>
      simp only [evaluated] at decided
      exact decided
  | error e =>
      simp only [evaluated] at decided
      exact ⟨decided.1, decided.2.1⟩

/-- The server lists its bookkeeping and answers the metadata fetch with a JSON object that announces
a format above the configured one. -/
structure NewerFound (oracle : Oracle ω) (p : Profile) (world : ω) (members : Json.Members)
    (version : Nat) : Prop where
  listing : ∃ index, indexFrom p.limit (oracle.reply (indexRequest p.limit) world) = .ok index ∧
    index.ListsBookkeeping
  found : ∃ record : RemoteRecord, Json.IsObjectText record.payload members ∧
    oracle.reply (metadataRequest p.limit) (oracle.next (indexRequest p.limit) world) =
      some (.ok (some record))
  announced : members.Announces version
  newer : p.config.storageVersion < version

theorem NewerFound.stops (newer : NewerFound oracle p before members version)
    (idle : s.isSyncing = false) (expected : GlobalMetadata.Expected members) :
    StopsFor ((sync p s).course oracle.alone before) version p.config.storageVersion := by
  obtain ⟨⟨index, listing, listed⟩, ⟨record, object, found⟩, announced, newer⟩ := newer
  obtain ⟨x, y, rest, inner, exchanged, first, second, closing, continued⟩ :=
    takes_sync_listed idle listing listed (Run.takes_course _ _ _)
  rcases evaluatedFrom_newer object announced newer with ⟨-, stops⟩ | ⟨unexpected, -⟩
  · simp only [found, stops] at continued
    obtain ⟨rfl, rfl⟩ := continued
    refine ⟨by rw [closing]; rfl, ?_⟩
    simp [exchanged, first, second, Request.isWrite]
  · exact absurd expected unexpected

theorem NewerFound.wipes (newer : NewerFound oracle p before members version)
    (idle : s.isSyncing = false) (unexpected : ¬GlobalMetadata.Expected members) :
    match p.sealingKey with
    | .ok _ => Wipes ((sync p s).course oracle.alone before).exchanges
    | .error e => ((sync p s).course oracle.alone before).ending.result = .error (.crypto e) ∧
        ¬Wipes ((sync p s).course oracle.alone before).exchanges := by
  obtain ⟨⟨index, listing, listed⟩, ⟨record, object, found⟩, announced, newer⟩ := newer
  obtain ⟨x, y, rest, inner, exchanged, first, second, closing, continued⟩ :=
    takes_sync_listed idle listing listed (Run.takes_course _ _ _)
  rcases evaluatedFrom_newer object announced newer with ⟨expected, -⟩ | ⟨-, reason, diverged⟩
  · exact absurd expected unexpected
  simp only [found, diverged] at continued
  have wiping : Wipes ((sync p s).course oracle.alone before).exchanges ↔
      ∃ key, p.sealingKey = .ok key := by
    rw [exchanged, wipes_cons_iff (by rw [first]; rfl), wipes_cons_iff (by rw [second]; rfl),
      wipes_proceed_iff rfl rfl rfl continued]
    simp
  cases sealing : p.sealingKey with
  | ok key => exact wiping.mpr ⟨key, sealing⟩
  | error e =>
      obtain ⟨_, _, -, -, -, ended⟩ := takes_proceed_alone rfl continued
      simp only [sealing] at ended
      exact ⟨by rw [closing, ended.2]; rfl, by simp [wiping, sealing]⟩

/-- Where the server lists its bookkeeping and announces a format above the configured one, the
cycle stops for it and writes nothing if and only if the whole record is as this client knows it.
Any other record is answered by a wipe, unless no sealing key can be derived. -/
theorem stopsFor_newer_iff (oracle : Oracle ω) (p : Profile) (s : Session) (world : ω)
    {members : Json.Members} {version : Nat} (idle : s.isSyncing = false)
    (newer : NewerFound oracle p world members version) :
    let course := (sync p s).course oracle.alone world
    (StopsFor course version p.config.storageVersion ↔ GlobalMetadata.Expected members) ∧
    (Wipes course.exchanges ↔
      ¬GlobalMetadata.Expected members ∧ ∃ key, p.sealingKey = .ok key) := by
  intro course
  by_cases expected : GlobalMetadata.Expected members
  · have stops := newer.stops idle expected
    exact ⟨iff_of_true stops expected, iff_of_false stops.not_wipes fun h => h.1 expected⟩
  · have wipes := newer.wipes idle expected
    cases sealing : p.sealingKey with
    | ok key =>
        simp only [sealing] at wipes
        exact ⟨iff_of_false (fun stops => stops.not_wipes wipes) expected,
          iff_of_true wipes ⟨expected, key, rfl⟩⟩
    | error e =>
        simp only [sealing] at wipes
        have unstopped : ¬StopsFor course version p.config.storageVersion := by
          intro stops
          have result := stops.1.symm.trans wipes.1
          cases result
        exact ⟨iff_of_false unstopped expected, iff_of_false wipes.2 (by simp)⟩

/-- A server that lists its bookkeeping and holds some payload as its metadata. -/
def holding (payload : String) : Oracle Unit :=
  { keylessOracle with
    reply
      | .remote _ (.fetch ..), _ => some (.ok (some (.ofPayload globalRecordId payload)))
      | request, world => keylessOracle.reply request world }

/-- Metadata of format six in which engines are listed without their names. -/
def unnamedEngines : Json.Members :=
  .ofList [("syncID", .text "q"), ("storageVersion", .nat 6), ("engines", .array .closed)]

def unnamedEnginesOracle : Oracle Unit := holding (Json.object unnamedEngines).render

theorem newerFound_unnamedEngines : NewerFound unnamedEnginesOracle keylessProfile () unnamedEngines 6 where
  listing := ⟨_, rfl, rfl, rfl⟩
  found := ⟨.ofPayload globalRecordId _, Json.isObjectText_render
    ⟨⟨_, rfl⟩, Json.legible_text "q", ⟨_, rfl⟩, Json.legible_nat 6, ⟨_, rfl⟩, trivial, trivial⟩, rfl⟩
  announced := ⟨.ofNat 6, .head _, by rfl⟩
  newer := by decide

theorem unnamedEngines_unexpected : ¬GlobalMetadata.Expected unnamedEngines := by
  intro expected
  rcases expected.engines with absent | ⟨value, engines, only, decoded⟩
  · cases absent
  · cases only
    cases decoded

/-- It is not so that a cycle never writes to a server of a newer format. -/
theorem newer_format_wiped :
    ¬∀ (oracle : Oracle Unit) (p : Profile) (s : Session) (members : Json.Members) (version : Nat),
      s.isSyncing = false → NewerFound oracle p () members version →
      StopsFor ((sync p s).course oracle.alone ()) version p.config.storageVersion := by
  intro stops
  have wipes : Wipes ((sync keylessProfile keylessSession).course unnamedEnginesOracle.alone ()).exchanges :=
    newerFound_unnamedEngines.wipes rfl unnamedEngines_unexpected
  exact (stops _ _ _ _ _ rfl newerFound_unnamedEngines).not_wipes wipes

theorem unnamedEngines_stopsFor_iff :
    keylessSession.isSyncing = false ∧
    NewerFound unnamedEnginesOracle keylessProfile () unnamedEngines 6 ∧
    let course := (sync keylessProfile keylessSession).course unnamedEnginesOracle.alone ()
    (StopsFor course 6 keylessProfile.config.storageVersion ↔
      GlobalMetadata.Expected unnamedEngines) ∧
    (Wipes course.exchanges ↔ ¬GlobalMetadata.Expected unnamedEngines ∧
      ∃ key, keylessProfile.sealingKey = .ok key) :=
  ⟨rfl, newerFound_unnamedEngines,
    stopsFor_newer_iff unnamedEnginesOracle keylessProfile keylessSession () rfl
      newerFound_unnamedEngines⟩

end Refusal

end Session

end SealedSync
