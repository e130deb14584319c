import SealedSync.Proofs.FatalReplies

/-!
# Under the veil

What is made of a passphrase or of random bytes, and is to stay secret, is the key that seals a bundle, the
keys of collections, the nonce, and the payload in which the bundle is sealed. A veil blots it out of
requests and replies. Two runs are alike if nothing else tells them apart, as long as they are told
the same but for what the veil hides, and each bundle can be opened in the one as it can in the other.
-/
namespace SealedSync

variable {σ τ α β γ δ : Type}

/-! ## The veil -/

/-- A key that tells nothing. -/
def Key.blank : Key := ⟨.fit 32 []⟩

/-- The record of the key bundle without its payload, where it is stored or fetched. -/
def RemoteRecord.veiledAt (collection id : String) (record : RemoteRecord) : RemoteRecord :=
  if collection = cryptoCollection ∧ id = keysRecordId then { record with payload := "" } else record

namespace Request

def veiled : Request → Request
  | .remote limit (.store collection record) =>
      .remote limit (.store collection (record.veiledAt collection record.id))
  | .synchronize s _ => .synchronize s .blank
  | r => r

/-- The reply without what it tells of keys. -/
def veilReply : (r : Request) → r.Reply → r.veiled.Reply
  | .remote _ (.fetch collection id), reply =>
      Option.map (Except.map (Option.map (RemoteRecord.veiledAt collection id))) reply
  | .remote _ (.store ..), reply => reply
  | .remote _ .index, reply => reply
  | .remote _ .wipe, reply => reply
  | .random .collectionKey, _ => .fit 32 []
  | .random .nonce, _ => .fit 12 []
  | .random .epochId, bytes => bytes
  | .random .engineId, bytes => bytes
  | .resetClient _, reply => reply
  | .synchronize .., reply => reply
  | .readFile _, reply => reply
  | .writeFile .., reply => reply
  | .renameFile .., reply => reply
  | .clock, now => now
  | .deriveKey, derived => derived

/-- The veil hides nothing of the replies. -/
def Plain (r : Request) : Prop := Function.Injective r.veilReply

end Request

/-- Requests that are the same under the veil are the same, or both store records, or both hand a key to one
synchronizer. -/
theorem Request.veiled_cases {r q : Request} (same : r.veiled = q.veiled) :
    r = q ∨ (∃ limit collection record second, r = .remote limit (.store collection record) ∧
      q = .remote limit (.store collection second)) ∨
    ∃ s a b, r = .synchronize s a ∧ q = .synchronize s b := by
  cases r with
  | remote limit call =>
      cases q with
      | remote limit' call' => cases call <;> cases call' <;> simp_all [veiled]
      | _ => cases call <;> cases same
  | _ =>
      cases q with
      | remote limit call => cases call <;> cases same
      | _ => simp_all [veiled]

/-- A request and its reply. -/
structure Deal where
  request : Request
  reply : request.Reply

def Exchange.deal (x : Exchange σ) : Deal := ⟨x.request, x.reply⟩

def Deal.veiled (d : Deal) : Deal := ⟨d.request.veiled, d.request.veilReply d.reply⟩

/-- The same account with a key of another passphrase. -/
def Profile.rekeyed (p : Profile) (sealingKey : Except CryptoError Key) : Profile := { p with sealingKey }

/-- Whether the bundle that was fetched can be opened, or else why it cannot. -/
def Deal.opening? (p : Profile) : Deal → Option (Except SyncError Unit)
  | ⟨.remote limit (.fetch collection id), reply⟩ =>
      if collection = cryptoCollection ∧ id = keysRecordId then
        some ((Session.openedFrom p limit reply).map fun _ => ())
      else none
  | _ => none

/-- But for what the veil hides both deals are the same, and so is what comes of opening a bundle. -/
structure Deal.Alike (p : Profile) (other : Except CryptoError Key) (d e : Deal) : Prop where
  veiled : d.veiled = e.veiled
  opening : d.opening? p = e.opening? (p.rekeyed other)

/-- Of replies that are alike the same is seen. -/
theorem Deal.Alike.seen {p : Profile} {other : Except CryptoError Key} {r q : Request} {reply : r.Reply}
    {answer : q.Reply} (alike : Deal.Alike p other ⟨r, reply⟩ ⟨q, answer⟩) :
    HEq (r.veilReply reply) (q.veilReply answer) :=
  (Deal.mk.inj alike.veiled).2

/-- Both results are values that are alike, or both are one error. -/
inductive Likewise (like : α → β → Prop) : Except SyncError α → Except SyncError β → Prop where
  | ok {a : α} {b : β} (same : like a b) : Likewise like (.ok a) (.ok b)
  | error (e : SyncError) : Likewise like (.error e) (.error e)

namespace Likewise

theorem of_eq {first second : Except SyncError α} (same : first = second) : Likewise Eq first second := by
  subst same
  cases first with
  | ok a => exact .ok rfl
  | error e => exact .error e

theorem eq {first second : Except SyncError α} (likewise : Likewise Eq first second) : first = second := by
  cases likewise with
  | ok same => rw [same]
  | error e => rfl

/-- It is enough to know how both end, where the values do not matter. -/
theorem of_outcomes {first : Except SyncError α} {second : Except SyncError β}
    (same : (first.map fun _ => ()) = second.map fun _ => ()) : Likewise (fun _ _ => True) first second := by
  cases first with
  | ok a =>
      cases second with
      | ok b => exact .ok trivial
      | error f => cases same
  | error e =>
      cases second with
      | ok b => cases same
      | error f =>
          cases same
          exact .error e

end Likewise

/-! ## States that are akin -/

/-- Both keyrings have a bundle or none, and they are bound alike. -/
structure Keyring.Akin (k l : Keyring) : Prop where
  epoch : k.epoch = l.epoch
  modified : k.modified = l.modified
  isLoaded : k.isLoaded = l.isLoaded

structure Bookkeeping.Akin (book other : Bookkeeping) : Prop where
  keyring : book.keyring.Akin other.keyring
  localState : book.localState = other.localState

/-- But for the keys that they hold both sessions are the same. -/
structure Session.Akin (s t : Session) : Prop where
  book : s.book.Akin t.book
  keyDerived : s.keyDerived = t.keyDerived
  synchronizers : s.synchronizers = t.synchronizers
  cancelRequested : s.cancelRequested = t.cancelRequested
  cycle : s.cycle = t.cycle
  freshStarts : s.freshStarts = t.freshStarts

/-! ## Runs that are alike -/

/-- Both runs go the same way, between states that are akin and to values that are alike, as long as what
is dealt out to them is alike. -/
inductive Run.Alike (p : Profile) (other : Except CryptoError Key) (kin : σ → σ → Prop)
    (like : α → β → Prop) : Run σ α → Run σ β → Prop where
  | returned {a : α} {b : β} {s t : σ} (values : like a b) (states : kin s t) :
      Alike p other kin like (.returned a s) (.returned b t)
  | failed (e : SyncError) {s t : σ} (states : kin s t) :
      Alike p other kin like (.failed e s) (.failed e t)
  | noted (event : Event) {first : Run σ α} {second : Run σ β} (rest : Alike p other kin like first second) :
      Alike p other kin like (.noted event first) (.noted event second)
  | waiting {r q : Request} {s t : σ} {first : r.Reply → σ → Run σ α} {second : q.Reply → σ → Run σ β}
      (requests : r.veiled = q.veiled) (states : kin s t)
      (rest : ∀ reply answer u v, Deal.Alike p other ⟨r, reply⟩ ⟨q, answer⟩ → kin u v →
        Alike p other kin like (first reply u) (second answer v)) :
      Alike p other kin like (.waiting r s first) (.waiting q t second)

variable {p : Profile} {other : Except CryptoError Key} {kin : σ → σ → Prop} {like : α → β → Prop}
  {likely : γ → δ → Prop}

namespace Run.Alike

theorem bind {first : Run σ α} {second : Run σ β} {next : α → Program σ γ} {later : β → Program σ δ}
    (alike : first.Alike p other kin like second)
    (rest : ∀ a b s t, like a b → kin s t → (next a s).Alike p other kin likely (later b t)) :
    (first.bind next).Alike p other kin likely (second.bind later) := by
  induction alike with
  | returned values states => exact rest _ _ _ _ values states
  | failed e states => exact .failed e states
  | noted event _ ih => exact .noted event ih
  | waiting requests states _ ih => exact .waiting requests states ih

theorem attempt {first : Run σ α} {second : Run σ β} (alike : first.Alike p other kin like second) :
    first.attempt.Alike p other kin (Likewise like) second.attempt := by
  induction alike with
  | returned values states => exact .returned (.ok values) states
  | failed e states => exact .returned (.error e) states
  | noted event _ ih => exact .noted event ih
  | waiting requests states _ ih => exact .waiting requests states ih

/-- Work on parts that are akin is alike, if the wholes are akin as well. -/
theorem zoom {part : τ → σ} {put : σ → τ → τ} {kindred : τ → τ → Prop}
    (parts : ∀ u v, kindred u v → kin (part u) (part v))
    (wholes : ∀ s t u v, kin s t → kindred u v → kindred (put s u) (put t v))
    {first : Run σ α} {second : Run σ β} (alike : first.Alike p other kin like second) {u v : τ}
    (states : kindred u v) :
    (first.zoom part put u).Alike p other kindred like (second.zoom part put v) := by
  induction alike generalizing u v with
  | returned values here => exact .returned values (wholes _ _ _ _ here states)
  | failed e here => exact .failed e (wholes _ _ _ _ here states)
  | noted event _ ih => exact .noted event (ih states)
  | waiting requests here _ ih =>
      refine .waiting requests (wholes _ _ _ _ here states) fun reply answer u v deals states => ?_
      exact ih reply answer _ _ deals (parts u v states) states

end Run.Alike

/-- From states that are akin both programs go alike. -/
def Program.Alike (p : Profile) (other : Except CryptoError Key) (kin : σ → σ → Prop)
    (like : α → β → Prop) (program : Program σ α) (second : Program σ β) : Prop :=
  ∀ s t, kin s t → (program s).Alike p other kin like (second t)

namespace Program.Alike

theorem pure {a : α} {b : β} (values : like a b) :
    (pure a : Program σ α).Alike p other kin like (Pure.pure b) :=
  fun _ _ states => .returned values states

theorem fail (e : SyncError) :
    (Program.fail e : Program σ α).Alike p other kin like (Program.fail e : Program σ β) :=
  fun _ _ states => .failed e states

theorem note (event : Event) : (Program.note event).Alike p other kin Eq (Program.note event) :=
  fun _ _ states => .noted event (.returned rfl states)

theorem ofExcept {first : Except SyncError α} {second : Except SyncError β}
    (likewise : Likewise like first second) :
    (Program.ofExcept first : Program σ α).Alike p other kin like (Program.ofExcept second) := by
  cases likewise with
  | ok values => exact .pure values
  | error e => exact .fail e

theorem modify {f g : σ → σ} (kept : ∀ s t, kin s t → kin (f s) (g t)) :
    (Program.modify f).Alike p other kin Eq (Program.modify g) :=
  fun s t states => .returned rfl (kept s t states)

theorem get : (Program.get : Program σ σ).Alike p other kin kin Program.get :=
  fun _ _ states => .returned states states

theorem bind {first : Program σ α} {second : Program σ β} {next : α → Program σ γ}
    {later : β → Program σ δ} (alike : first.Alike p other kin like second)
    (rest : ∀ a b, like a b → (next a).Alike p other kin likely (later b)) :
    (first >>= next).Alike p other kin likely (second >>= later) :=
  fun s t states => (alike s t states).bind fun a b s t values => rest a b values s t

/-- Where both programs come to one value, they go on alike from this value. -/
theorem bind_same {first second : Program σ α} {next : α → Program σ γ} {later : α → Program σ δ}
    (alike : first.Alike p other kin Eq second)
    (rest : ∀ a, (next a).Alike p other kin likely (later a)) :
    (first >>= next).Alike p other kin likely (second >>= later) :=
  alike.bind fun _ _ same => same ▸ rest _

theorem attempt {program : Program σ α} {second : Program σ β}
    (alike : program.Alike p other kin like second) :
    program.attempt.Alike p other kin (Likewise like) second.attempt :=
  fun s t states => (alike s t states).attempt

theorem request {r q : Request} (requests : r.veiled = q.veiled) :
    (Program.request r : Program σ _).Alike p other kin
      (fun reply answer => Deal.Alike p other ⟨r, reply⟩ ⟨q, answer⟩) (Program.request q) :=
  fun _ _ states => .waiting requests states fun _ _ _ _ deals states => .returned deals states

/-- Where the veil hides nothing, both programs are told the same. -/
theorem request_plain {r : Request} (plain : r.Plain) :
    (Program.request r : Program σ _).Alike p other kin Eq (Program.request r) := by
  intro s t states
  refine .waiting rfl states fun reply answer u v deals states => .returned ?_ states
  exact plain (eq_of_heq deals.seen)

theorem remote_plain {limit : Duration} {operation : String} {call : RemoteCall}
    (plain : (Request.remote limit call).Plain) :
    (Program.remote limit operation call : Program σ _).Alike p other kin Eq
      (Program.remote limit operation call) := by
  rw [Program.remote_eq]
  exact .bind_same (.request_plain plain) fun reply => .ofExcept (.of_eq rfl)

end Program.Alike

/-! ## Courses of runs that are alike -/

variable {ω υ : Type}

/-- What is noted on the way. -/
def Run.notes (env : Environment ω σ) : Run σ α → ω → List Event
  | .returned .., _ => []
  | .failed .., _ => []
  | .noted event rest, world => event :: rest.notes env world
  | .waiting r state resume, world =>
      (resume (env.reply r world) (env.touch r world state)).notes env (env.next r world)

/-- Whenever both ask for the same but for what the veil hides, they are answered alike, and what others do
to their states meanwhile is the same. -/
def AnsweredAlike (p : Profile) (other : Except CryptoError Key) (kin : σ → σ → Prop)
    (xs ys : List (Exchange σ)) : Prop :=
  ∀ (i : Nat) (x y : Exchange σ), xs[i]? = some x → ys[i]? = some y → x.request.veiled = y.request.veiled →
    kin x.asked y.asked → x.deal.Alike p other y.deal ∧ kin x.resumed y.resumed

theorem Run.Takes.deal_eq {oracle : Oracle ω} {run : Run σ α} {before after : ω} {xs : List (Exchange σ)}
    {ending : Ending σ α} (taken : run.Takes oracle.alone before xs ending after) {x : Exchange σ}
    (member : x ∈ xs) : (∃ world, x.deal = ⟨x.request, oracle.reply x.request world⟩) ∧
      x.resumed = x.asked := by
  obtain ⟨state, world, same⟩ := taken.exchange_eq x member
  have resumed : x.resumed = state := congrArg Exchange.resumed same
  have asked : x.asked = state := congrArg Exchange.asked same
  exact ⟨⟨world, congrArg Exchange.deal same⟩, resumed.trans asked.symm⟩

/-- Oracles that always answer alike do so in every course. -/
theorem answeredAlike_alone {oracle : Oracle ω} {second : Oracle υ}
    (told : ∀ r q w v, r.veiled = q.veiled →
      Deal.Alike p other ⟨r, oracle.reply r w⟩ ⟨q, second.reply q v⟩)
    {first : Run σ α} {run : Run σ β} {before after : ω} {before' after' : υ} {xs ys : List (Exchange σ)}
    {ending : Ending σ α} {ending' : Ending σ β} (taken : first.Takes oracle.alone before xs ending after)
    (takes : run.Takes second.alone before' ys ending' after') : AnsweredAlike p other kin xs ys := by
  intro i x y found finds requests states
  obtain ⟨⟨w, dealt⟩, resumed⟩ := taken.deal_eq (List.mem_of_getElem? found)
  obtain ⟨⟨v, deals⟩, resumes⟩ := takes.deal_eq (List.mem_of_getElem? finds)
  rw [dealt, deals, resumed, resumes]
  exact ⟨told _ _ w v requests, states⟩

/-- What has been in common of two worlds remains so, if both are dealt with in the same way but for what
the veil hides. -/
def Lasts (bond : ω → υ → Prop) (oracle : Oracle ω) (second : Oracle υ) : Prop :=
  ∀ r q w v, (Deal.mk r (oracle.reply r w)).veiled = (Deal.mk q (second.reply q v)).veiled → bond w v →
    bond (oracle.next r w) (second.next q v)

/-- Nothing but what the veil hides tells the courses apart. -/
structure Course.Alike (kin : σ → σ → Prop) (like : α → β → Prop) (bond : ω → υ → Prop)
    (c : Course ω σ α) (d : Course υ σ β) : Prop where
  deals : c.exchanges.map (·.deal.veiled) = d.exchanges.map (·.deal.veiled)
  result : Likewise like c.ending.result d.ending.result
  state : kin c.ending.state d.ending.state
  world : bond c.world d.world

/-- Runs that are alike take courses that are alike, and what they note is the same. -/
theorem Run.Alike.courses {env : Environment ω σ} {env' : Environment υ σ} {bond : ω → υ → Prop}
    (lasts : Lasts bond env.toOracle env'.toOracle) {first : Run σ α} {second : Run σ β}
    (alike : first.Alike p other kin like second) {before : ω} {before' : υ} (begun : bond before before')
    (answered : AnsweredAlike p other kin (first.course env before).exchanges
      (second.course env' before').exchanges) :
    Course.Alike kin like bond (first.course env before) (second.course env' before') ∧
      first.notes env before = second.notes env' before' := by
  induction alike generalizing before before' with
  | returned values states => exact ⟨⟨rfl, .ok values, states, begun⟩, rfl⟩
  | failed e states => exact ⟨⟨rfl, .error e, states, begun⟩, rfl⟩
  | noted event rest ih =>
      obtain ⟨courses, notes⟩ := ih begun answered
      exact ⟨courses, congrArg (List.cons event) notes⟩
  | @waiting r q s t _ _ requests states rest ih =>
      obtain ⟨deals, resumed⟩ := answered 0 _ _ rfl rfl requests states
      obtain ⟨courses, notes⟩ := ih (env.reply r before) (env'.reply q before') _ _ deals resumed
        (lasts r q before before' deals.veiled begun) fun i x y => answered (i + 1) x y
      refine ⟨⟨?_, courses.result, courses.state, courses.world⟩, notes⟩
      exact List.cons_eq_cons.mpr ⟨deals.veiled, courses.deals⟩

end SealedSync
