import SealedSync.Proofs.HttpReplies
import SealedSync.Proofs.ServerWrites

/-!
# Published records are read back

A fresh start puts two records. Over HTTP each is a JSON text with another JSON text inside a string, and
the keys have a sealed text inside that. Whoever gets the bodies of the two requests back finds the
metadata that the fresh start ended with, and the key that it drew.
-/
namespace SealedSync

variable {ω σ : Type}

theorem Utf8.decodeLossy_encode (text : String) : decodeLossy (encode text) = text := by
  rw [decodeLossy, decode_encode, List.map_map]
  show String.ofList (text.toList.map id) = text
  rw [List.map_id, String.ofList_toList]

namespace Json

/-- The time of a record that has not been stored yet. -/
theorem float_zero : float .zero = .number ⟨false, ['0'], ['0'], []⟩ := rfl

theorem written_zero : Numeral.Written ⟨false, ['0'], ['0'], []⟩ where
  whole := List.forall_mem_singleton.mpr rfl
  whole_ne_nil := by decide
  no_leading_zero := by
    intro c rest same
    cases same
  fraction := List.forall_mem_singleton.mpr rfl
  exponent := fun marked => absurd rfl marked

theorem legible_float_zero : (float .zero).Legible := by
  rw [float_zero]
  exact written_zero

theorem decodeFloat_zero : decodeFloat (float .zero) = .ok .zero := by
  have value : Numeral.value ⟨false, ['0'], ['0'], []⟩ = some (.floating .zero) := by decide +kernel
  rw [float_zero, decodeFloat, value]

end Json

namespace RemoteRecord

theorem legible_toJson (id payload : String) : (ofPayload id payload).toJson.Legible := by
  refine Json.legible_fields fun member found => ?_
  simp only [List.mem_cons, List.not_mem_nil, or_false] at found
  rcases found with rfl | rfl | rfl
  · exact Json.legible_text _
  · simp only [ofPayload]
    exact Json.legible_float_zero
  · exact Json.legible_text _

theorem decode_toJson (id payload : String) :
    decode (ofPayload id payload).toJson = .ok (ofPayload id payload) := by
  have named : Json.readField "id" none Json.decodeString (Json.text id) = .ok (some id) := rfl
  have modified := Json.readField_none "modified" Json.decodeFloat_zero
  have held : Json.readField "payload" none Json.decodeString (Json.text payload) =
      .ok (some payload) := rfl
  show ofMembers (.ofList [("id", _), ("modified", _), ("payload", _)]) = _
  simp only [ofMembers, Json.Members.fold_cons, Json.Members.fold_nil, Draft.read, bind, Except.bind,
    pure, Except.pure, ofPayload, named, modified, held]
  rfl

end RemoteRecord

/-! ## The bodies of requests -/

namespace Http

namespace Backend

theorem successBody_encode (operation : String) {status : Nat} (successful : isSuccess status = true)
    (text : String) : successBody operation ⟨status, Utf8.encode text, true⟩ = .ok text := by
  simp only [successBody, checkStatus, bodyText, successful, if_true, Utf8.decodeLossy_encode]
  rfl

theorem answer_fetch_body {collection id body : String} {reply : HttpReply}
    (sent : successBody (operation (.fetch collection id)) reply = .ok body) :
    answer (.fetch collection id) (.answered reply) = (decodeRecord collection id body).map some := by
  have present : ¬reply.status = 404 := by
    intro missing
    have successful := (successBody_eq_ok sent).1
    rw [missing] at successful
    revert successful
    decide
  show (if reply.status = 404 then _ else _) = _
  rw [if_neg present]
  show (successBody (operation (.fetch collection id)) reply >>= _) = _
  rw [sent]
  show (decodeRecord collection id body >>= fun record => pure (some record)) = _
  cases decodeRecord collection id body <;> rfl

theorem decodeRecord_render (collection id payload : String) :
    decodeRecord collection id (RemoteRecord.ofPayload id payload).toJson.render =
      .ok (.ofPayload id payload) := by
  rw [decodeRecord, Json.decodeText_render _ (RemoteRecord.legible_toJson id payload),
    RemoteRecord.decode_toJson]
  rfl

/-- A record that was put is found with the body of that request; `came` is what comes of a request. -/
def Echoes (b : Backend) (came : HttpRequest → Exchange) : Request → Prop
  | .remote _ (.store collection record) => ∃ status, isSuccess status = true ∧
      came (b.request (.fetch collection record.id)) =
        .answered ⟨status, Utf8.encode (b.request (.store collection record)).body, true⟩
  | _ => True

theorem Echoes.answer {b : Backend} {came : HttpRequest → Exchange} {limit : Duration}
    {collection id payload : String}
    (echoes : b.Echoes came (.remote limit (.store collection (.ofPayload id payload)))) :
    Backend.answer (.fetch collection id) (came (b.request (.fetch collection id))) =
      .ok (some (.ofPayload id payload)) := by
  obtain ⟨status, successful, answered⟩ := echoes
  have sent : came (b.request (.fetch collection id)) = .answered ⟨status,
      Utf8.encode (b.request (.store collection (.ofPayload id payload))).body, true⟩ := answered
  rw [sent, answer_fetch_body (successBody_encode _ successful _)]
  exact congrArg (Except.map some) (decodeRecord_render collection id payload)

end Backend

end Http

/-- Records are read over HTTP; `came` is what comes of a request. -/
def Environment.ReadsOver (env : Environment ω σ) (world : ω) (b : Http.Backend)
    (came : Http.HttpRequest → Http.Exchange) : Prop :=
  ∀ limit collection id, env.reply (.remote limit (.fetch collection id)) world =
    some (Http.Backend.answer (.fetch collection id) (came (b.request (.fetch collection id))))

open Http in
theorem Environment.readsOver_overHttp (env : Environment ω σ) (b : Backend)
    (connect : ω → Url → HttpRequest → Option HttpReply) {inTime : RemoteCall → ω → Bool} {world : ω}
    (prompt : ∀ collection id, inTime (.fetch collection id) world = true) :
    (env.overHttp b connect inTime).ReadsOver world b (Backend.send (connect world)) := by
  intro limit collection id
  exact if_pos (prompt collection id)

/-! ## What a fresh start publishes -/

/-- The key of collections that the exchange draws. -/
def Exchange.drawnKey? : Exchange σ → Option Key
  | ⟨.random .collectionKey, _, bytes, _⟩ => some ⟨bytes⟩
  | _ => none

theorem Exchange.drawnKey_of_ne {x : Exchange σ} (other : x.request ≠ .random .collectionKey) :
    x.drawnKey? = none := by
  unfold drawnKey?
  split
  · exact absurd rfl other
  · rfl

theorem serverWrites_eq_nil {xs : List (Exchange σ)} (others : ∀ x ∈ xs, x.request.isWrite = false) :
    serverWrites xs = [] :=
  List.filter_eq_nil_iff.mpr fun x member => by simp [others x member]

theorem filterMap_drawnKey_eq_nil {xs : List (Exchange σ)}
    (others : ∀ x ∈ xs, x.request ≠ .random .collectionKey) : xs.filterMap Exchange.drawnKey? = [] :=
  List.filterMap_eq_nil_iff.mpr fun x member => Exchange.drawnKey_of_ne (others x member)

namespace FreshStart

/-- A key was drawn and published sealed, and then the metadata of a new epoch. -/
structure Published (c : SyncConfig) (sealingKey drawn : Key) (nonce : Nonce) (m : GlobalMetadata)
    (exchanges : List (Exchange σ)) : Prop where
  draws : exchanges.filterMap Exchange.drawnKey? = [drawn]
  puts : (serverWrites exchanges).map (·.request) =
    [storeRequest c.remoteTimeout cryptoCollection
        (.ofPayload keysRecordId ((KeyBundle.ofDefault drawn).toPayload sealingKey nonce)),
      storeRequest c.remoteTimeout metaCollection (.ofPayload globalRecordId m.toJson.render)]
  fits : m.Fits

variable {env : Environment ω σ} {c : SyncConfig} {key : Key} {s t : σ} {before after : ω}
  {xs : List (Exchange σ)} {m : GlobalMetadata}

/-- A step of publication that is not the last one has put its record. -/
theorem takes_publish_returned {α : Type} {r : RecoveryStep} {limit : Duration}
    {operation collection : String} {record : RemoteRecord} {next : Unit → Program σ α} {value : α}
    (taken : (step r (publish limit operation collection record) >>= next).Takes env s before xs
      (.returned value t) after) :
    ∃ x rest world middle, x.request = storeRequest limit collection record ∧ xs = x :: rest ∧
      (next ()).Takes env middle world rest (.returned value t) after := by
  obtain ⟨rest, rfl, published⟩ := takes_publish_bind.mp taken
  cases confirmed : Program.outcome limit operation
      (env.reply (storeRequest limit collection record) before) with
  | ok modified =>
      simp only [confirmed] at published
      exact ⟨_, rest, _, _, rfl, rfl, published⟩
  | error e =>
      simp only [confirmed] at published
      cases published.2.1

/-- The metadata that are published are those that are returned. -/
theorem publishMetadata_published (fits : c.Fits) {syncId : String}
    (taken : (publishEngines (.ofConfig c) syncId).Takes env s before xs (.returned m t) after) :
    m.Fits ∧ xs.filterMap Exchange.drawnKey? = [] ∧
      (serverWrites xs).map (·.request) =
        [storeRequest c.remoteTimeout metaCollection (.ofPayload globalRecordId m.toJson.render)] := by
  obtain ⟨engines, _, _, draws, _, generating, publishing, rfl⟩ :=
    Program.takes_bind_returned.mp taken
  obtain ⟨drawn, _, _, same, versions, -⟩ := takes_generateEngines generating
  cases same
  obtain ⟨x, _, _, _, put, rfl, told⟩ := takes_publish_returned publishing
  obtain ⟨rfl, same, -⟩ := Program.takes_pure.mp told
  cases same
  refine ⟨⟨fits.storageVersion, fun e member => ?_⟩, ?_, ?_⟩
  · obtain ⟨collection, listed, same⟩ := (versions e member).resolve_left nofun
    exact same ▸ fits.collections collection listed
  · refine filterMap_drawnKey_eq_nil fun y member => ?_
    rcases List.mem_append.mp member with drawing | last
    · rw [drawn y drawing]
      simp
    · rw [List.mem_singleton.mp last, put]
      simp
  · have quiet : serverWrites draws = [] :=
      serverWrites_eq_nil fun y member => by rw [drawn y member]; rfl
    rw [serverWrites_append, quiet, serverWrites_single (by rw [put]; rfl)]
    exact congrArg (fun r => [r]) put

/-- What is published anew is one key, sealed, and the metadata that are returned. -/
theorem publishAnew_published (fits : c.Fits)
    (taken : (publishAnew (.ofConfig c) key).Takes env s before xs (.returned m t) after) :
    ∃ drawn nonce, Published c key drawn nonce m xs := by
  obtain ⟨_, rfl, publishing⟩ := takes_publishAnew.mp taken
  obtain ⟨x, rest, _, _, put, rfl, continued⟩ := takes_publish_returned publishing
  obtain ⟨fit, undrawn, last⟩ := publishMetadata_published fits continued
  have undrawn : (x :: rest).filterMap Exchange.drawnKey? = [] := by
    rw [List.filterMap_cons_none (Exchange.drawnKey_of_ne (by rw [put]; simp)), undrawn]
  have write : serverWrites (x :: rest) = x :: serverWrites rest :=
    List.filter_cons_of_pos (by rw [put]; rfl)
  let drawing := env.next (.random .epochId) before
  let sealing := env.next (.random .collectionKey) drawing
  refine ⟨⟨env.reply (.random .collectionKey) drawing⟩, env.reply (.random .nonce) sealing, ?_, ?_, fit⟩
  · exact congrArg (List.cons _) undrawn
  · show (serverWrites (x :: rest)).map (·.request) = _
    rw [write, List.map_cons, put, last]
    rfl

/-- What is reset locally puts nothing and draws no key. -/
theorem resetLocal_quiet {env : Environment ω Bookkeeping} {book : Bookkeeping} {plan : FreshStartPlan}
    {synchronizers : List Synchronizer} {exchanges : List (Exchange Bookkeeping)}
    {ending : Ending Bookkeeping Unit}
    (taken : (resetLocal plan synchronizers).Takes env book before exchanges ending after) :
    serverWrites exchanges = [] ∧ exchanges.filterMap Exchange.drawnKey? = [] := by
  have kept : (resetLocal plan synchronizers).Keeps (fun _ => True)
      fun r => r.isWrite = false ∧ r ≠ .random .collectionKey := by
    apply keeps_resetLocal
    · intro c
      exact ⟨rfl, by simp⟩
    · intro r file
      refine ⟨Request.isWrite_eq_false_of_isFileWrite file, ?_⟩
      rintro rfl
      cases file
  have allowed := (kept.takes trivial (fun _ _ _ h => h) taken).1
  constructor
  · exact serverWrites_eq_nil fun x member => (allowed x member).2.1.1
  · exact filterMap_drawnKey_eq_nil fun x member => (allowed x member).2.1.2

/-- A fresh start that ends well has wiped the server and published what it returns. -/
theorem perform_published {env : Environment ω Bookkeeping} {book last : Bookkeeping}
    {synchronizers : List Synchronizer} {exchanges : List (Exchange Bookkeeping)} (fits : c.Fits)
    (taken : (perform (.ofConfig c) key synchronizers).Takes env book before exchanges
      (.returned m last) after) :
    ∃ x rest drawn nonce, x.request = wipeRequest c.remoteTimeout ∧ exchanges = x :: rest ∧
      Published c key drawn nonce m rest := by
  rw [perform_eq, Program.takes_note_bind] at taken
  obtain ⟨rest, rfl, renewing⟩ := Program.takes_request_bind.mp taken
  cases wiped : Program.outcome (FreshStartPlan.ofConfig c).limit "server wipe"
      (env.reply (wipeRequest (FreshStartPlan.ofConfig c).limit) before) with
  | error e =>
      rw [wiped, Program.takes_note_bind, Program.takes_fail] at renewing
      cases renewing.2.1
  | ok answer =>
      rw [wiped] at renewing
      simp only at renewing
      rw [republish_eq] at renewing
      obtain ⟨found, _, _, xs, _, publishing, resetting, rfl⟩ :=
        Program.takes_bind_returned.mp renewing
      obtain ⟨_, _, _, ys, _, reset, told, rfl⟩ := Program.takes_bind_returned.mp resetting
      rw [Program.takes_note_bind] at told
      obtain ⟨rfl, same, -⟩ := Program.takes_pure.mp told
      cases same
      obtain ⟨drawn, nonce, published⟩ := publishAnew_published fits publishing
      obtain ⟨unwritten, undrawn⟩ := resetLocal_quiet reset
      refine ⟨_, _, drawn, nonce, rfl, rfl, ?_, ?_, published.fits⟩
      · simp [published.draws, undrawn]
      · simp only [serverWrites_append, unwritten, List.append_nil]
        exact published.puts

open Http RemoteState

section Read

variable {reader : Environment ω σ} {world : ω} {b : Backend} {came : HttpRequest → Http.Exchange}
  {limit : Duration} {id payload : String}

/-- Metadata come back from the body that they were put with. -/
theorem fetchMetadata_echoed (reads : reader.ReadsOver world b came) (fits : m.Fits)
    (echoes : b.Echoes came (storeRequest limit metaCollection (.ofPayload globalRecordId m.toJson.render)))
    (within : Duration) (s : σ) :
    ((fetchMetadata within : Program σ _) s |>.course reader world).ending.result = .ok m := by
  have taken := Run.takes_course reader ((fetchMetadata within : Program σ _) s) world
  have replied := reads within metaCollection globalRecordId
  rw [echoes.answer] at replied
  rw [fetchMetadata_eq] at taken ⊢
  rw [(Program.takes_call.mp taken).2.1, Ending.result_ofExcept, replied, metadataFrom_record]
  exact decodeMetadata_render fits

/-- A bundle comes back from the body that it was put with. -/
theorem fetchBundle_echoed (reads : reader.ReadsOver world b came) {bundle : KeyBundle} {nonce : Nonce}
    (echoes : b.Echoes came
      (storeRequest limit cryptoCollection (.ofPayload keysRecordId (bundle.toPayload key nonce))))
    (within : Duration) (s : σ) :
    ((fetchBundle within key : Program σ _) s |>.course reader world).ending.result = .ok bundle := by
  have taken := Run.takes_course reader ((fetchBundle within key : Program σ _) s) world
  have replied := reads within cryptoCollection keysRecordId
  rw [echoes.answer] at replied
  rw [fetchBundle_eq] at taken ⊢
  rw [(Program.takes_call.mp taken).2.1, Ending.result_ofExcept, replied, bundleFrom_record]
  exact KeyBundle.ofPayload_toPayload bundle key nonce

end Read

/-- Both records of a fresh start are read back as they were put. -/
theorem Published.echoes {drawn : Key} {nonce : Nonce} {b : Backend} {came : HttpRequest → Http.Exchange}
    (published : Published c key drawn nonce m xs) (echoed : ∀ x ∈ xs, b.Echoes came x.request) :
    b.Echoes came (storeRequest c.remoteTimeout cryptoCollection
        (.ofPayload keysRecordId ((KeyBundle.ofDefault drawn).toPayload key nonce))) ∧
      b.Echoes came (storeRequest c.remoteTimeout metaCollection
        (.ofPayload globalRecordId m.toJson.render)) := by
  have all : ∀ r ∈ (serverWrites xs).map (·.request), b.Echoes came r := by
    intro r put
    obtain ⟨x, written, rfl⟩ := List.mem_map.mp put
    exact echoed x (List.mem_filter.mp written).1
  rw [published.puts] at all
  exact ⟨all _ List.mem_cons_self, all _ (List.mem_cons_of_mem _ List.mem_cons_self)⟩

/-- If requests for the two records of a fresh start are answered with the bodies that they were put with,
then both records are read, the metadata are those that the fresh start returned, and the bundle opens and
has the key that was drawn and no other. -/
theorem published_records_read_back {ω' : Type} {env : Environment ω Bookkeeping}
    {synchronizers : List Synchronizer} {book last : Bookkeeping}
    {exchanges : List (SealedSync.Exchange Bookkeeping)} (fits : c.Fits)
    (taken : (perform (.ofConfig c) key synchronizers).Takes env book before exchanges
      (.returned m last) after)
    {reader : Environment ω' σ} {world : ω'} {b : Backend} {came : HttpRequest → Http.Exchange}
    (reads : reader.ReadsOver world b came) (echoed : ∀ x ∈ exchanges, b.Echoes came x.request)
    (limit : Duration) (s : σ) :
    ∃ keys metadata drawn,
      (serverWrites exchanges).map (·.request) =
        Session.foundingRequests c.remoteTimeout keys metadata ∧
      exchanges.filterMap Exchange.drawnKey? = [drawn] ∧
      Backend.answer (.fetch cryptoCollection keysRecordId)
        (came (b.request (.fetch cryptoCollection keysRecordId))) = .ok (some keys) ∧
      Backend.answer (.fetch metaCollection globalRecordId)
        (came (b.request (.fetch metaCollection globalRecordId))) = .ok (some metadata) ∧
      ((fetchMetadata limit : Program σ _) s |>.course reader world).ending.result = .ok m ∧
      ((fetchBundle limit key : Program σ _) s |>.course reader world).ending.result =
        .ok (.ofDefault drawn) := by
  obtain ⟨x, rest, drawn, nonce, wiped, rfl, published⟩ := perform_published fits taken
  obtain ⟨keys, metadata⟩ :=
    published.echoes fun y member => echoed y (List.mem_cons_of_mem x member)
  refine ⟨_, _, drawn, ?_, ?_, keys.answer, metadata.answer,
    fetchMetadata_echoed reads published.fits metadata limit s, fetchBundle_echoed reads keys limit s⟩
  · have write : serverWrites (x :: rest) = x :: serverWrites rest :=
      List.filter_cons_of_pos (by rw [wiped]; rfl)
    rw [write, List.map_cons, wiped, published.puts]
    rfl
  · rw [List.filterMap_cons_none (Exchange.drawnKey_of_ne (by rw [wiped]; simp)), published.draws]

/-! ## Names of every kind -/

open Simulation

/-- A configuration whose names need escapes in either layer, with the greatest version. -/
def oddNames : SyncConfig :=
  { SyncConfig.ofCollections [] with
    collections := [⟨"\"\\\x07", 4294967295⟩, ⟨"ключи 🔑", 1⟩] }

theorem oddNames_fits : oddNames.Fits where
  storageVersion := (by decide : currentStorageVersion < Nat.pow 2 32)
  collections := by decide

/-- The client of an account on the server of this machine. -/
def loopback : Backend := ⟨Backend.rootOf "http://[::1]:8000" "account", "account", "secret"⟩

theorem reachable_loopback : ∀ url ∈ [Backend.recordUrl loopback.root cryptoCollection keysRecordId,
    Backend.recordUrl loopback.root metaCollection globalRecordId],
      (Url.parse url).any (·.withoutUserInfo.isRequestable) = true := by decide +kernel

/-- A network on which each of two records is found with the body that it was put with. -/
def echo (b : Backend) (keys metadata : RemoteRecord) (_ : Memory) (_ : Url) (r : HttpRequest) :
    Option HttpReply :=
  some ⟨200, Utf8.encode (if r.url = (b.request (.store cryptoCollection keys)).url then
    (b.request (.store cryptoCollection keys)).body
    else (b.request (.store metaCollection metadata)).body), true⟩

theorem send_echo {b : Backend} {keys metadata : RemoteRecord} {r : HttpRequest} {body : String} (m : Memory)
    (reachable : (Url.parse r.url).any (·.withoutUserInfo.isRequestable) = true)
    (found : ∀ url, echo b keys metadata m url r = some ⟨200, Utf8.encode body, true⟩) :
    Backend.send (echo b keys metadata m) r = .answered ⟨200, Utf8.encode body, true⟩ := by
  unfold Backend.send
  cases parsed : Url.parse r.url with
  | none =>
      rw [parsed] at reachable
      cases reachable
  | some url =>
      rw [parsed] at reachable
      simp only [if_pos (show url.withoutUserInfo.isRequestable = true from reachable), found]

theorem echoes_of_not_write {b : Backend} {came : HttpRequest → Http.Exchange} {r : Request}
    (other : r.isWrite = false) : b.Echoes came r := by
  cases r with
  | remote limit call =>
      cases call with
      | store collection record => cases other
      | _ => exact trivial
  | _ => exact trivial

theorem echoes_echo {b : Backend} {keys metadata : RemoteRecord} {limit : Duration} (m : Memory)
    (apart : Backend.recordUrl b.root metaCollection metadata.id ≠
      Backend.recordUrl b.root cryptoCollection keys.id)
    (reachable : ∀ url ∈ [Backend.recordUrl b.root cryptoCollection keys.id,
        Backend.recordUrl b.root metaCollection metadata.id],
      (Url.parse url).any (·.withoutUserInfo.isRequestable) = true) :
    ∀ r ∈ Session.foundingRequests limit keys metadata,
      b.Echoes (Backend.send (echo b keys metadata m)) r := by
  intro r listed
  simp only [Session.foundingRequests, List.mem_cons, List.not_mem_nil, or_false] at listed
  rcases listed with rfl | rfl | rfl
  · exact trivial
  · have same : (b.request (.fetch cryptoCollection keys.id)).url =
        (b.request (.store cryptoCollection keys)).url := rfl
    refine ⟨200, rfl, send_echo m (reachable _ List.mem_cons_self) fun url => ?_⟩
    rw [echo, if_pos same]
  · have different : (b.request (.fetch metaCollection metadata.id)).url ≠
        (b.request (.store cryptoCollection keys)).url := apart
    refine ⟨200, rfl, send_echo m (reachable _ (List.mem_cons_of_mem _ List.mem_cons_self)) fun url => ?_⟩
    rw [echo, if_neg different]

theorem oddNames_read_back : ∃ m last exchanges after connect,
    (perform (.ofConfig oddNames) Memory.key []).Takes Memory.oracle.alone ⟨.empty, .empty⟩ Memory.blank
        exchanges (.returned m last) after ∧
      (∀ x ∈ exchanges, loopback.Echoes (Backend.send (connect Memory.blank)) x.request) ∧
      m.engines.names = ["\"\\\x07", "ключи 🔑"] ∧
      ((fetchMetadata oddNames.remoteTimeout : Program Unit _) () |>.course
        (Memory.oracle.alone.overHttp loopback connect fun _ _ => true)
          Memory.blank).ending.result = .ok m ∧
      ∃ drawn, exchanges.filterMap Exchange.drawnKey? = [drawn] ∧
        ((fetchBundle oddNames.remoteTimeout Memory.key : Program Unit _) () |>.course
          (Memory.oracle.alone.overHttp loopback connect fun _ _ => true)
            Memory.blank).ending.result = .ok (.ofDefault drawn) := by
  obtain ⟨m, last, exchanges, after, taken, named⟩ : ∃ m last exchanges after,
      (perform (.ofConfig oddNames) Memory.key []).Takes Memory.oracle.alone ⟨.empty, .empty⟩
        Memory.blank exchanges (.returned m last) after ∧
      m.engines.names = ["\"\\\x07", "ключи 🔑"] := ⟨_, _, _, _, rfl, by decide⟩
  obtain ⟨x, rest, key, nonce, wiped, rfl, published⟩ := perform_published oddNames_fits taken
  let keys : RemoteRecord := .ofPayload keysRecordId ((KeyBundle.ofDefault key).toPayload Memory.key nonce)
  let metadata : RemoteRecord := .ofPayload globalRecordId m.toJson.render
  let connect := echo loopback keys metadata
  have apart : Backend.recordUrl loopback.root metaCollection globalRecordId ≠
      Backend.recordUrl loopback.root cryptoCollection keysRecordId := by decide
  have founding := @echoes_echo loopback keys metadata oddNames.remoteTimeout Memory.blank apart
    reachable_loopback
  have echoed : ∀ y ∈ x :: rest,
      loopback.Echoes (Backend.send (connect Memory.blank)) y.request := by
    intro y member
    rcases List.mem_cons.mp member with rfl | later
    · exact founding _ (wiped ▸ List.mem_cons_self)
    · cases write : y.request.isWrite with
      | false => exact echoes_of_not_write write
      | true =>
          apply founding
          apply List.mem_cons_of_mem
          rw [← published.puts]
          exact List.mem_map_of_mem (List.mem_filter.mpr ⟨later, write⟩)
  have reads : (Memory.oracle.alone.overHttp loopback connect fun _ _ => true).ReadsOver (σ := Unit)
      Memory.blank loopback (Backend.send (connect Memory.blank)) :=
    Environment.readsOver_overHttp _ _ _ fun _ _ => rfl
  obtain ⟨-, -, drawn, -, draws, -, -, fetched, opened⟩ :=
    published_records_read_back oddNames_fits taken reads echoed oddNames.remoteTimeout ()
  exact ⟨m, last, x :: rest, after, connect, taken, echoed, named, fetched, drawn, draws, opened⟩

end FreshStart

end SealedSync
