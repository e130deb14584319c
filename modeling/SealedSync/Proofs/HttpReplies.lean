import SealedSync.Http.Backend
import SealedSync.Proofs.FatalReplies
import SealedSync.Proofs.Memory

/-!
# Replies over HTTP

Over HTTP the status of a reply decides what its call comes to, and only then its body. A request that
is refused ends the cycle: a server that is out of order is neither wiped nor written to on its account.
-/
namespace SealedSync

namespace Http

/-- What came of a request does not answer the call that was made by it. -/
def Exchange.Refuses : RemoteCall → Exchange → Prop
  | .index, .answered reply => isSuccess reply.status = false ∨ reply.isComplete = false
  | .fetch .., .answered reply =>
      reply.status ≠ 404 ∧ (isSuccess reply.status = false ∨ reply.isComplete = false)
  | .store .., .answered reply =>
      isSuccess reply.status = false ∨ reply.isComplete = false ∨
        ∀ time, Binary64.read (Blank.trim (Utf8.decodeLossy reply.body).toList) ≠ .ok time
  | .wipe, .answered reply => reply.status ≠ 404 ∧ isSuccess reply.status = false
  | _, _ => True

/-- The error that a refusal stands for: credentials were not accepted, or the server cannot be
reached. -/
def Exchange.Tells : Exchange → SyncError → Prop
  | .answered reply, e =>
      if reply.status = 401 ∨ reply.status = 403 then ∃ text, e = .authFailed text
      else ∃ text, e = .unreachable text
  | _, e => ∃ text, e = .unreachable text

/-- What a network makes of a request is an answer of the network, or it is no answer. -/
theorem send_cases (connect : Url → HttpRequest → Option HttpReply) (r : HttpRequest) :
    (∃ url reply, connect url r = some reply ∧ Backend.send connect r = .answered reply) ∨
      ∀ reply, Backend.send connect r ≠ .answered reply := by
  unfold Backend.send
  cases Url.parse r.url with
  | none => exact .inr nofun
  | some url =>
      simp only
      split
      · cases answered : connect url.withoutUserInfo r with
        | none => exact .inr nofun
        | some reply => exact .inl ⟨_, reply, answered, rfl⟩
      · exact .inr nofun

theorem Exchange.Tells.not_absentOrMalformed {exchange : Exchange} {e : SyncError}
    (tells : exchange.Tells e) : e.isAbsentOrMalformed = false := by
  cases exchange with
  | answered reply =>
      by_cases denied : reply.status = 401 ∨ reply.status = 403
      · obtain ⟨text, rfl⟩ := (if_pos denied).mp tells
        rfl
      · obtain ⟨text, rfl⟩ := (if_neg denied).mp tells
        rfl
  | _ =>
      obtain ⟨text, rfl⟩ := tells
      rfl

namespace Backend

variable {operation : String} {reply : HttpReply} {exchange : Exchange}

theorem tells_checkStatus (operation : String) (unsuccessful : isSuccess reply.status = false) :
    ∃ e, checkStatus operation reply = .error e ∧ (Exchange.answered reply).Tells e := by
  have failed : ¬isSuccess reply.status = true := Bool.eq_false_iff.mp unsuccessful
  simp only [checkStatus, if_neg failed, Exchange.Tells]
  split
  · exact ⟨_, rfl, _, rfl⟩
  · exact ⟨_, rfl, _, rfl⟩

/-- A body that broke off is as good as none, if there was to be one. -/
theorem tells_successBody (operation : String)
    (refused : isSuccess reply.status = false ∨ reply.isComplete = false) :
    ∃ e, successBody operation reply = .error e ∧ (Exchange.answered reply).Tells e := by
  unfold successBody
  cases successful : isSuccess reply.status with
  | false =>
      obtain ⟨e, failed, tells⟩ := tells_checkStatus operation successful
      rw [failed]
      exact ⟨e, rfl, tells⟩
  | true =>
      have brokenOff : reply.isComplete = false :=
        refused.resolve_left fun failed => Bool.false_ne_true (failed.symm.trans successful)
      have accepted : ¬(reply.status = 401 ∨ reply.status = 403) := by
        rintro (same | same) <;> rw [same] at successful <;> revert successful <;> decide
      simp only [checkStatus, successful, if_true, bodyText, brokenOff, Exchange.Tells, if_neg accepted]
      exact ⟨_, rfl, _, rfl⟩

theorem successBody_eq_ok {body : String} (sent : successBody operation reply = .ok body) :
    isSuccess reply.status = true ∧ reply.isComplete = true ∧ body = Utf8.decodeLossy reply.body := by
  unfold successBody checkStatus bodyText at sent
  cases successful : isSuccess reply.status with
  | false =>
      simp only [successful, Bool.false_eq_true, if_false] at sent
      split at sent <;> cases sent
  | true =>
      simp only [successful, if_true] at sent
      cases complete : reply.isComplete with
      | false => simp only [complete, Bool.false_eq_true, if_false] at sent; cases sent
      | true =>
          simp only [complete, if_true] at sent
          cases sent
          exact ⟨rfl, rfl, rfl⟩

theorem tells_replyOf (operation : String) (lost : ∀ reply, exchange ≠ .answered reply) :
    ∃ e, replyOf operation exchange = .error e ∧ exchange.Tells e := by
  cases exchange with
  | answered reply => exact absurd rfl (lost reply)
  | _ => exact ⟨_, rfl, _, rfl⟩

theorem answer_lost (call : RemoteCall) {e : SyncError}
    (failed : replyOf (Backend.operation call) exchange = .error e) :
    answer call exchange = .error e := by
  cases call <;> simp only [answer, failed] <;> rfl

/-- A write that is not confirmed by a number is not made. -/
theorem answer_store_refused {collection : String} {record : RemoteRecord}
    (refused : (Exchange.answered reply).Refuses (.store collection record)) :
    ∃ e, answer (.store collection record) (.answered reply) = .error e := by
  show ∃ e, (successBody (Backend.operation (.store collection record)) reply >>=
    decodeTime collection record.id) = .error e
  cases sent : successBody (Backend.operation (.store collection record)) reply with
  | error e => exact ⟨e, rfl⟩
  | ok body =>
      obtain ⟨successful, complete, text⟩ := successBody_eq_ok sent
      have unread := (refused.resolve_left (Bool.not_eq_false _ ▸ successful)).resolve_left
        (Bool.not_eq_false _ ▸ complete)
      rw [← text] at unread
      cases number : Binary64.read (Blank.trim body.toList) with
      | ok time => exact absurd number (unread time)
      | error fault =>
          show ∃ e, decodeTime collection record.id body = .error e
          rw [decodeTime, number]
          exact ⟨_, rfl⟩

/-- A call whose request is refused fails, and unless it is a write the refusal is told. -/
theorem refused_fails {call : RemoteCall} (refused : exchange.Refuses call) :
    ∃ e, answer call exchange = .error e ∧
      ((∀ collection record, call ≠ .store collection record) → exchange.Tells e) := by
  by_cases lost : ∀ reply, exchange ≠ .answered reply
  · obtain ⟨e, failed, tells⟩ := tells_replyOf (Backend.operation call) lost
    exact ⟨e, answer_lost call failed, fun _ => tells⟩
  · obtain ⟨reply, rfl⟩ : ∃ reply, exchange = .answered reply := by simpa using lost
    cases call with
    | index =>
        obtain ⟨e, failed, tells⟩ := tells_successBody (Backend.operation .index) refused
        refine ⟨e, ?_, fun _ => tells⟩
        show (successBody (Backend.operation .index) reply >>= decodeIndex) = .error e
        rw [failed]
        rfl
    | fetch collection id =>
        obtain ⟨present, refused⟩ := refused
        obtain ⟨e, failed, tells⟩ :=
          tells_successBody (Backend.operation (.fetch collection id)) refused
        refine ⟨e, ?_, fun _ => tells⟩
        show (if reply.status = 404 then _ else _) = _
        rw [if_neg present]
        show (successBody (Backend.operation (.fetch collection id)) reply >>= _) = _
        rw [failed]
        rfl
    | store collection record =>
        obtain ⟨e, failed⟩ := answer_store_refused refused
        exact ⟨e, failed, fun other => absurd rfl (other collection record)⟩
    | wipe =>
        obtain ⟨present, refused⟩ := refused
        obtain ⟨e, failed, tells⟩ := tells_checkStatus (Backend.operation .wipe) refused
        refine ⟨e, ?_, fun _ => tells⟩
        show (if reply.status = 404 then _ else _) = _
        rw [if_neg present]
        exact failed

end Backend

end Http

open Http in
/-- The environment in which the server is reached over a network. A call that does not come to anything
in time is not waited for. -/
def Environment.overHttp {ω σ : Type} (env : Environment ω σ) (b : Backend)
    (connect : ω → Url → HttpRequest → Option HttpReply) (inTime : RemoteCall → ω → Bool) :
    Environment ω σ where
  reply := fun r w => match r with
    | .remote _ call => if inTime call w then some (b.call (connect w) call) else none
    | .resetClient c => env.reply (.resetClient c) w
    | .synchronize c key => env.reply (.synchronize c key) w
    | .readFile path => env.reply (.readFile path) w
    | .writeFile path bytes => env.reply (.writeFile path bytes) w
    | .renameFile source target => env.reply (.renameFile source target) w
    | .random draw => env.reply (.random draw) w
    | .clock => env.reply .clock w
    | .deriveKey => env.reply .deriveKey w
  next := env.next
  touch := env.touch

section OverHttp

open Http

variable {ω σ : Type} (env : Environment ω σ) (b : Backend)
  (connect : ω → Url → HttpRequest → Option HttpReply) (inTime : RemoteCall → ω → Bool)

@[simp]
theorem Environment.world_overHttp (before : ω) (exchanges : List (Exchange σ)) :
    (env.overHttp b connect inTime).world before exchanges = env.world before exchanges := rfl

theorem Environment.exchange_overHttp (limit : Duration) (call : RemoteCall) (state : σ) (world : ω) :
    (env.overHttp b connect inTime).exchange (.remote limit call) state world =
      ⟨.remote limit call, state, if inTime call world then some (b.call (connect world) call) else none,
        env.touch (.remote limit call) world state⟩ := rfl

end OverHttp

namespace Session

open Http

/-- A call that is refused ends its cycle with what the refusal tells, but a write with the step that it
was made for. -/
def EndsWith : RemoteCall → Http.Exchange → SyncError → Prop
  | .store collection _, _, e => ∃ text, e = .partialFailure (storingStep collection) text
  | _, came, e => came.Tells e

theorem endsWith_causedBy {call : RemoteCall} {came : Http.Exchange} {e : SyncError}
    (tells : (∀ collection record, call ≠ .store collection record) → came.Tells e) :
    EndsWith call came (causedBy e call) := by
  cases call with
  | index => exact tells nofun
  | fetch collection id => exact tells nofun
  | store collection record => exact ⟨e.message, rfl⟩
  | wipe => exact tells nofun

/-- A storage server. -/
def storageNode : Backend := ⟨Backend.rootOf "https://storage.example.net/" "account", "account", "secret"⟩

/-- A network on which everyone is told that the server is out of service. -/
def outOfService : Unit → Url → HttpRequest → Option HttpReply := fun _ _ _ => some ⟨503, [], true⟩

theorem outOfService_refuses (b : Backend) : ∃ came,
    (∀ w, Backend.send (outOfService w) (b.request .index) = came) ∧ came.Refuses .index ∧
      ∀ e, came.Tells e → ∃ text, e = .unreachable text := by
  rcases send_cases (outOfService ()) (b.request .index) with ⟨url, reply, found, same⟩ | lost
  · cases found
    exact ⟨_, fun _ => same, .inl rfl, fun e tells => tells⟩
  · refine ⟨Backend.send (outOfService ()) (b.request .index), fun _ => rfl, ?_⟩
    generalize Backend.send (outOfService ()) (b.request .index) = came at lost
    cases came with
    | answered reply => exact absurd rfl (lost reply)
    | _ => exact ⟨trivial, fun e tells => tells⟩

/-- What a session without a server is answered. -/
def offline : Environment Unit Session :=
  (⟨fun r _ => Simulation.Memory.blank.reply r, fun _ w => w⟩ : Oracle Unit).alone

end Session

end SealedSync
