import SealedSync.Proofs.KeyHistory
import SealedSync.Proofs.Recall

/-!
# Two sessions in one world

Two sessions that differ in what their keyrings remember may ask the server for different things: one
has the keys that the other has to fetch. Where looking at the server changes nothing and it answers
with what it holds, a cycle of the one ends like the same cycle of the other all the same.
-/
namespace SealedSync

variable {ω σ α β : Type}

/-! ## Endings that accord -/

/-- Both endings return one value, or both fail with one error. -/
def Ending.Accords (post : α → σ → σ → Prop) (broken : σ → σ → Prop) :
    Ending σ α → Ending σ α → Prop
  | .returned value s, .returned other t => other = value ∧ post value s t
  | .failed error s, .failed other t => other = error ∧ broken s t
  | _, _ => False

/-- Begun in one state of the oracle, both runs leave it in one state and end in accord. -/
def Run.Accords (oracle : Oracle ω) (post : α → ω → σ → σ → Prop) (broken : ω → σ → σ → Prop)
    (first second : Run σ α) (before : ω) : Prop :=
  let c := first.course oracle.alone before
  let d := second.course oracle.alone before
  d.world = c.world ∧ c.ending.Accords (fun value => post value c.world) (broken c.world) d.ending

/-- From two states of which `pre` holds, the program goes in accord. -/
def Program.Accords (oracle : Oracle ω) (pre : ω → σ → σ → Prop) (program : Program σ α)
    (post : α → ω → σ → σ → Prop) (broken : ω → σ → σ → Prop) : Prop :=
  ∀ world s t, pre world s t → Run.Accords oracle post broken (program s) (program t) world

/-- The program goes in accord and keeps what holds of the two states. -/
def Program.Pairs (oracle : Oracle ω) (inv : ω → σ → σ → Prop) (program : Program σ α) : Prop :=
  program.Accords oracle inv (fun _ => inv) inv

namespace Ending.Accords

variable {post weaker : α → σ → σ → Prop} {broken looser : σ → σ → Prop} {first second : Ending σ α}

/-- Endings that accord are both of one kind. -/
theorem cases (accords : first.Accords post broken second) :
    (∃ value s t, first = .returned value s ∧ second = .returned value t ∧ post value s t) ∨
      ∃ e s t, first = .failed e s ∧ second = .failed e t ∧ broken s t := by
  cases first with
  | returned value s =>
      cases second with
      | returned other t =>
          obtain ⟨rfl, holds⟩ := accords
          exact .inl ⟨other, s, t, rfl, rfl, holds⟩
      | failed e t => exact accords.elim
  | failed e s =>
      cases second with
      | returned other t => exact accords.elim
      | failed other t =>
          obtain ⟨rfl, holds⟩ := accords
          exact .inr ⟨other, s, t, rfl, rfl, holds⟩

theorem mono (accords : first.Accords post broken second)
    (returned : ∀ value s t, post value s t → weaker value s t)
    (failed : ∀ s t, broken s t → looser s t) : first.Accords weaker looser second := by
  rcases accords.cases with ⟨value, s, t, rfl, rfl, holds⟩ | ⟨e, s, t, rfl, rfl, holds⟩
  · exact ⟨rfl, returned value s t holds⟩
  · exact ⟨rfl, failed s t holds⟩

theorem result_eq (accords : first.Accords post broken second) : second.result = first.result := by
  rcases accords.cases with ⟨value, s, t, rfl, rfl, -⟩ | ⟨e, s, t, rfl, rfl, -⟩
  · rfl
  · rfl

theorem states {kind : σ → σ → Prop} (accords : first.Accords (fun _ => kind) kind second) :
    kind first.state second.state := by
  rcases accords.cases with ⟨value, s, t, rfl, rfl, holds⟩ | ⟨e, s, t, rfl, rfl, holds⟩
  · exact holds
  · exact holds

end Ending.Accords

namespace Run.Accords

variable {oracle : Oracle ω} {first second : Run σ α} {before : ω} {broken : ω → σ → σ → Prop}

theorem bind {middle : α → ω → σ → σ → Prop} {post : β → ω → σ → σ → Prop} {next : α → Program σ β}
    (accords : Run.Accords oracle middle broken first second before)
    (rest : ∀ value, (next value).Accords oracle (middle value) post broken) :
    Run.Accords oracle post broken (first.bind next) (second.bind next) before := by
  unfold Run.Accords at accords ⊢
  rw [Run.course_bind, Run.course_bind]
  obtain ⟨world, accord⟩ := accords
  dsimp only
  rcases accord.cases with ⟨value, s, t, returned, returned', holds⟩ | ⟨e, s, t, failed, failed', holds⟩
  · simp only [returned, returned', world]
    exact rest value _ s t holds
  · simp only [failed, failed']
    exact ⟨world, rfl, holds⟩

theorem attempt {post : α → ω → σ → σ → Prop} {gone : ω → σ → σ → Prop}
    (accords : Run.Accords oracle post broken first second before) :
    Run.Accords oracle (fun result world s t => match result with
      | .ok value => post value world s t
      | .error _ => broken world s t) gone first.attempt second.attempt before := by
  unfold Run.Accords at accords ⊢
  rw [Run.course_attempt, Run.course_attempt]
  obtain ⟨world, accord⟩ := accords
  refine ⟨world, accord.result_eq, ?_⟩
  dsimp only
  rcases accord.cases with ⟨value, s, t, returned, returned', holds⟩ | ⟨e, s, t, failed, failed', holds⟩
  · rw [returned, returned']
    exact holds
  · rw [failed, failed']
    exact holds

end Run.Accords

namespace Program

variable {oracle : Oracle ω} {pre : ω → σ → σ → Prop} {post : α → ω → σ → σ → Prop}
  {broken : ω → σ → σ → Prop}

namespace Accords

theorem conseq {stronger looser : ω → σ → σ → Prop} {weaker : α → ω → σ → σ → Prop}
    {program : Program σ α} (accords : program.Accords oracle pre post broken)
    (begun : ∀ world s t, stronger world s t → pre world s t)
    (returned : ∀ value world s t, post value world s t → weaker value world s t)
    (failed : ∀ world s t, broken world s t → looser world s t) :
    program.Accords oracle stronger weaker looser := by
  intro world s t holds
  obtain ⟨same, accord⟩ := accords world s t (begun world s t holds)
  exact ⟨same, accord.mono (fun value => returned value _) (failed _)⟩

/-- What does not depend on the states is known before the program begins. -/
theorem given {fact : Prop} {program : Program σ α}
    (accords : fact → program.Accords oracle pre post broken) :
    program.Accords oracle (fun world s t => pre world s t ∧ fact) post broken :=
  fun world s t holds => accords holds.2 world s t holds.1

theorem pure {value : α} (holds : ∀ world s t, pre world s t → post value world s t) :
    (pure value : Program σ α).Accords oracle pre post broken :=
  fun world s t begun => ⟨rfl, rfl, holds world s t begun⟩

theorem fail {error : SyncError} (holds : ∀ world s t, pre world s t → broken world s t) :
    (fail error : Program σ α).Accords oracle pre post broken :=
  fun world s t begun => ⟨rfl, rfl, holds world s t begun⟩

theorem ofExcept {result : Except SyncError α}
    (returned : ∀ value world s t, result = .ok value → pre world s t → post value world s t)
    (failed : ∀ world s t, pre world s t → broken world s t) :
    (ofExcept result).Accords oracle pre post broken := by
  cases result with
  | ok value => exact .pure fun world s t => returned value world s t rfl
  | error e => exact .fail failed

theorem request {r : Request} {post : r.Reply → ω → σ → σ → Prop}
    (holds : ∀ world s t, pre world s t → post (oracle.reply r world) (oracle.next r world) s t) :
    (request r : Program σ r.Reply).Accords oracle pre post broken :=
  fun world s t begun => ⟨rfl, rfl, holds world s t begun⟩

theorem bind {middle : β → ω → σ → σ → Prop} {first : Program σ β} {next : β → Program σ α}
    (accords : first.Accords oracle pre middle broken)
    (rest : ∀ value, (next value).Accords oracle (middle value) post broken) :
    (first >>= next).Accords oracle pre post broken :=
  fun world s t begun => (accords world s t begun).bind rest

theorem note_bind {event : Event} {next : Unit → Program σ α}
    (accords : (next ()).Accords oracle pre post broken) :
    (note event >>= next).Accords oracle pre post broken := accords

theorem modify_bind {middle : ω → σ → σ → Prop} {f : σ → σ} {next : Unit → Program σ α}
    (holds : ∀ world s t, pre world s t → middle world (f s) (f t))
    (rest : (next ()).Accords oracle middle post broken) :
    (Program.modify f >>= next).Accords oracle pre post broken :=
  fun world s t begun => rest world (f s) (f t) (holds world s t begun)

/-- What returns at once is passed by. -/
theorem silent_bind (value : β) {first : Program σ β} {next : β → Program σ α}
    (silent : ∀ world s t, pre world s t → first s = .returned value s ∧ first t = .returned value t)
    (rest : (next value).Accords oracle pre post broken) :
    (first >>= next).Accords oracle pre post broken := by
  intro world s t begun
  obtain ⟨left, right⟩ := silent world s t begun
  show Run.Accords oracle post broken ((first s).bind next) ((first t).bind next) world
  rw [left, right]
  exact rest world s t begun

/-- What is read of the two states is the same. -/
theorem read_bind {γ : Type} (f : σ → γ) (next : γ → Program σ α)
    (same : ∀ world s t, pre world s t → f t = f s)
    (rest : ∀ found, (next found).Accords oracle (fun world s t => pre world s t ∧ f s = found) post
      broken) :
    (get >>= fun s => next (f s)).Accords oracle pre post broken := by
  intro world s t holds
  show Run.Accords oracle post broken (next (f s) s) (next (f t) t) world
  rw [same world s t holds]
  exact rest (f s) world s t ⟨holds, rfl⟩

theorem attempt_bind {first : Program σ β} {next : Except SyncError β → Program σ α}
    {middle : β → ω → σ → σ → Prop} {failed : ω → σ → σ → Prop}
    (accords : first.Accords oracle pre middle failed)
    (returned : ∀ value, (next (.ok value)).Accords oracle (middle value) post broken)
    (caught : ∀ error, (next (.error error)).Accords oracle failed post broken) :
    (first.attempt >>= next).Accords oracle pre post broken := by
  intro world s t holds
  refine Run.Accords.bind (accords world s t holds).attempt fun result => ?_
  cases result with
  | ok value => exact returned value
  | error e => exact caught e

end Accords

/-! ## What two states have in common -/

/-- Requests of one kind leave what holds of two states. -/
def Lasting (oracle : Oracle ω) (allowed : Request → Prop) (inv : ω → σ → σ → Prop) : Prop :=
  ∀ r world s t, allowed r → inv world s t → inv (oracle.next r world) s t

namespace Pairs

variable {inv : ω → σ → σ → Prop} {allowed : Request → Prop}

theorem pure (value : α) : (pure value : Program σ α).Pairs oracle inv :=
  Accords.pure fun _ _ _ holds => holds

theorem fail (e : SyncError) : (fail e : Program σ α).Pairs oracle inv :=
  Accords.fail fun _ _ _ holds => holds

theorem note (event : Event) : (note event : Program σ Unit).Pairs oracle inv :=
  fun _ _ _ holds => ⟨rfl, rfl, holds⟩

theorem ofExcept (result : Except SyncError α) : (ofExcept result : Program σ α).Pairs oracle inv :=
  Accords.ofExcept (fun _ _ _ _ _ holds => holds) fun _ _ _ holds => holds

theorem request {r : Request} (lasting : Lasting oracle allowed inv) (permitted : allowed r) :
    (request r : Program σ r.Reply).Pairs oracle inv :=
  Accords.request fun world s t => lasting r world s t permitted

theorem bind {first : Program σ β} {next : β → Program σ α} (pairs : first.Pairs oracle inv)
    (rest : ∀ value, (next value).Pairs oracle inv) : (first >>= next).Pairs oracle inv :=
  Accords.bind pairs rest

theorem attempt {program : Program σ α} (pairs : program.Pairs oracle inv) :
    program.attempt.Pairs oracle inv := by
  have returned : (program.attempt >>= Pure.pure).Pairs oracle inv :=
    Accords.attempt_bind pairs (fun _ => pure _) fun _ => pure _
  rwa [bind_pure] at returned

theorem remote {limit : Duration} {operation : String} {call : RemoteCall}
    (lasting : Lasting oracle allowed inv) (permitted : allowed (.remote limit call)) :
    (remote limit operation call : Program σ _).Pairs oracle inv := by
  refine bind (request lasting permitted) fun reply => ?_
  match reply with
  | some (.ok answer) => exact pure answer
  | some (.error e) => exact fail e
  | none => exact fail _

end Pairs

end Program

/-! ## The steps that look at no state -/

section Steps

open Program (Lasting)

variable {oracle : Oracle ω} {inv : ω → σ → σ → Prop} {allowed : Request → Prop}
  (lasting : Lasting oracle allowed inv)

include lasting

namespace FreshStart

theorem pairs_generateId {draw : Draw} (drawing : allowed (.random draw)) :
    (generateId draw : Program σ String).Pairs oracle inv :=
  .bind (.request lasting drawing) fun _ => .pure _

theorem pairs_generateEngines (drawing : allowed (.random .engineId))
    (collections : List CollectionConfig) (engines : NameMap EngineMetadata) :
    (generateEngines engines collections : Program σ _).Pairs oracle inv := by
  induction collections generalizing engines with
  | nil => exact .pure engines
  | cons c rest ih => exact .bind (pairs_generateId lasting drawing) fun syncId => ih _

omit lasting in
theorem pairs_step {program : Program σ α} (pairs : program.Pairs oracle inv) (s : RecoveryStep) :
    (step s program).Pairs oracle inv := by
  refine .bind pairs.attempt fun result => ?_
  cases result with
  | ok a => exact .pure a
  | error e => exact .bind (.note _) fun _ => .fail _

theorem pairs_publish {limit : Duration} {collection : String} {record : RemoteRecord}
    (storing : allowed (.remote limit (.store collection record))) (operation : String) :
    (publish limit operation collection record : Program σ Unit).Pairs oracle inv :=
  .bind (.remote lasting storing) fun _ => .note _

theorem pairs_publishAnew (plan : FreshStartPlan) (key : Key)
    (publishing : ∀ r, r.isPublication = true → allowed r) :
    (publishAnew plan key : Program σ _).Pairs oracle inv := by
  refine .bind (pairs_generateId lasting (publishing _ rfl)) fun syncId => .bind (.note _) fun _ => ?_
  refine .bind (.bind (.request lasting (publishing _ rfl)) fun _ => .bind (.note _) fun _ => .pure _)
    fun bundle => ?_
  refine .bind (.bind (.request lasting (publishing _ rfl)) fun nonce => ?_) fun _ => ?_
  · exact pairs_step (pairs_publish lasting (publishing _ rfl) _) _
  · refine .bind (pairs_generateEngines lasting (publishing _ rfl) _ _) fun engines => ?_
    exact .bind (pairs_step (pairs_publish lasting (publishing _ rfl) _) _) fun _ => .pure _

theorem pairs_resetAll (resetting : ∀ c, allowed (.resetClient c)) (synchronizers : List Synchronizer) :
    (resetAll synchronizers : Program σ _).Pairs oracle inv := by
  induction synchronizers with
  | nil => exact .pure _
  | cons c rest ih =>
      refine .bind (.request lasting (resetting c)) fun reply => ?_
      cases reply with
      | ok _ => exact ih
      | error e => exact .bind (.note _) fun _ => .bind ih fun _ => .pure _

end FreshStart

end Steps

end SealedSync
