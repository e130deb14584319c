import SealedSync.Proofs.Execution

/-!
# Assurance

What a program assures does not depend on one oracle. It assures something for all answers of some
kind, where an answer is the reply to a request together with what has become, by the time the program
goes on, of the world and of the program's own state.
-/
namespace SealedSync

/-- Which answers a request may have in which states of the world and of the program. -/
abbrev Answering (ω σ : Type) := (r : Request) → ω → σ → r.Reply → ω → σ → Prop

/-- Which requests a program may make in which states of the world and its own. -/
abbrev Asking (ω σ : Type) := ω → σ → Request → Prop

/-- The ending returns where `post` holds of the value and the state, or fails where `broken` holds. -/
def Ending.Meets {σ α : Type} (post : α → σ → Prop) (broken : σ → Prop) : Ending σ α → Prop
  | .returned value state => post value state
  | .failed _ state => broken state

namespace Run

variable {ω σ α β : Type} {answering : Answering ω σ} {asking : Asking ω σ}

/-- Whatever answers the run gets, it makes only requests that it may make, and what it comes to is as
`post` says. -/
def Assures (answering : Answering ω σ) (asking : Asking ω σ) (post : ω → Ending σ α → Prop) :
    Run σ α → ω → Prop
  | .returned value state, world => post world (.returned value state)
  | .failed error state, world => post world (.failed error state)
  | .noted _ rest, world => rest.Assures answering asking post world
  | .waiting request state resume, world => asking world state request ∧ ∀ reply later resumed,
      answering request world state reply later resumed →
        (resume reply resumed).Assures answering asking post later

theorem Assures.mono {run : Run σ α} {freer : Asking ω σ} {post weaker : ω → Ending σ α → Prop}
    {world : ω} (assures : run.Assures answering asking post world)
    (permits : ∀ world state r, asking world state r → freer world state r)
    (implies : ∀ world ending, post world ending → weaker world ending) :
    run.Assures answering freer weaker world := by
  induction run generalizing world with
  | returned value state => exact implies _ _ assures
  | failed error state => exact implies _ _ assures
  | noted event rest ih => exact ih assures
  | waiting request state resume ih =>
      refine ⟨permits _ _ _ assures.1, ?_⟩
      intro reply later resumed answered
      exact ih reply resumed (assures.2 reply later resumed answered)

theorem Assures.bind {first : Run σ α} {next : α → Program σ β} {world : ω}
    {middle : ω → Ending σ α → Prop} {post : ω → Ending σ β → Prop}
    (assures : first.Assures answering asking middle world)
    (returned : ∀ world value state, middle world (.returned value state) →
      (next value state).Assures answering asking post world)
    (failed : ∀ world error state, middle world (.failed error state) →
      post world (.failed error state)) :
    (first.bind next).Assures answering asking post world := by
  induction first generalizing world with
  | returned value state => exact returned _ value state assures
  | failed error state => exact failed _ error state assures
  | noted event rest ih => exact ih assures
  | waiting request state resume ih =>
      refine ⟨assures.1, ?_⟩
      intro reply later resumed answered
      exact ih reply resumed (assures.2 reply later resumed answered)

theorem Assures.attempt {run : Run σ α} {post : ω → Ending σ (Except SyncError α) → Prop} {world : ω}
    (assures : run.Assures answering asking
      (fun world ending => post world (.returned ending.result ending.state)) world) :
    run.attempt.Assures answering asking post world := by
  induction run generalizing world with
  | returned value state => exact assures
  | failed error state => exact assures
  | noted event rest ih => exact ih assures
  | waiting request state resume ih =>
      refine ⟨assures.1, ?_⟩
      intro reply later resumed answered
      exact ih reply resumed (assures.2 reply later resumed answered)

/-- What a run assures holds of its course, if the answers that it gets are of the kind. -/
theorem Assures.takes {υ : Type} {env : Environment υ σ} {view : υ → ω} {run : Run σ α}
    {post : ω → Ending σ α → Prop} {before after : υ} {exchanges : List (Exchange σ)}
    {ending : Ending σ α} (assures : run.Assures answering asking post (view before))
    (answered : ∀ r w s, answering r (view w) s (env.reply r w) (view (env.next r w)) (env.touch r w s))
    (taken : run.Takes env before exchanges ending after) : post (view after) ending := by
  induction run generalizing before exchanges with
  | returned value state =>
      obtain ⟨-, rfl, rfl⟩ := takes_returned.mp taken
      exact assures
  | failed error state =>
      obtain ⟨-, rfl, rfl⟩ := takes_failed.mp taken
      exact assures
  | noted event rest ih => exact ih assures taken
  | waiting request state resume ih =>
      obtain ⟨rest, -, continued⟩ := takes_waiting.mp taken
      exact ih _ _ (assures.2 _ _ _ (answered request before state)) continued

end Run

namespace Program

variable {ω σ α β : Type} {answering : Answering ω σ} {asking : Asking ω σ}

/-- Begun where `pre` holds, the program returns where `post` holds of its value, or it fails where
`broken` holds. -/
def Assures (answering : Answering ω σ) (asking : Asking ω σ) (pre : ω → σ → Prop)
    (program : Program σ α) (post : α → ω → σ → Prop) (broken : ω → σ → Prop) : Prop :=
  ∀ world state, pre world state → (program state).Assures answering asking
    (fun world ending => ending.Meets (fun value => post value world) (broken world)) world

/-- The program makes only requests that are allowed and keeps what it finds, while it waits and when
it returns or fails. -/
def Sustains (answering : Answering ω σ) (allowed : Request → Prop) (inv : ω → σ → Prop)
    (program : Program σ α) : Prop :=
  program.Assures answering (fun world state r => inv world state ∧ allowed r) inv (fun _ => inv) inv

section Rules

variable {pre : ω → σ → Prop} {post : α → ω → σ → Prop} {broken : ω → σ → Prop}

theorem Assures.conseq {freer : Asking ω σ} {stronger : ω → σ → Prop} {weaker : α → ω → σ → Prop}
    {looser : ω → σ → Prop} {program : Program σ α} (assures : program.Assures answering asking pre post broken)
    (permits : ∀ world state r, asking world state r → freer world state r)
    (begun : ∀ world state, stronger world state → pre world state)
    (returned : ∀ value world state, post value world state → weaker value world state)
    (failed : ∀ world state, broken world state → looser world state) :
    program.Assures answering freer stronger weaker looser := by
  intro world state holds
  refine (assures world state (begun world state holds)).mono permits fun world ending meets => ?_
  cases ending with
  | returned value state => exact returned value world state meets
  | failed error state => exact failed world state meets

/-- What does not depend on the state is known before the program begins. -/
theorem Assures.given {fact : Prop} {program : Program σ α}
    (assures : fact → program.Assures answering asking pre post broken) :
    program.Assures answering asking (fun world state => pre world state ∧ fact) post broken :=
  fun world state holds => assures holds.2 world state holds.1

theorem Assures.pure {value : α} (holds : ∀ world state, pre world state → post value world state) :
    (pure value : Program σ α).Assures answering asking pre post broken := holds

theorem Assures.fail {error : SyncError} (holds : ∀ world state, pre world state → broken world state) :
    (fail error : Program σ α).Assures answering asking pre post broken := holds

theorem Assures.ofExcept {result : Except SyncError α}
    (returned : ∀ value world state, result = .ok value → pre world state → post value world state)
    (failed : ∀ error world state, result = .error error → pre world state → broken world state) :
    (ofExcept result).Assures answering asking pre post broken := by
  cases result with
  | ok value => exact fun world state => returned value world state rfl
  | error error => exact fun world state => failed error world state rfl

theorem Assures.request {r : Request} {post : r.Reply → ω → σ → Prop}
    (permitted : ∀ world state, pre world state → asking world state r)
    (holds : ∀ world state reply later resumed, pre world state →
      answering r world state reply later resumed → post reply later resumed) :
    (request r : Program σ r.Reply).Assures answering asking pre post broken :=
  fun world state begun => ⟨permitted world state begun, fun reply later resumed answered =>
    holds world state reply later resumed begun answered⟩

theorem Assures.bind {middle : β → ω → σ → Prop} {first : Program σ β} {next : β → Program σ α}
    (assures : first.Assures answering asking pre middle broken)
    (rest : ∀ value, (next value).Assures answering asking (middle value) post broken) :
    (first >>= next).Assures answering asking pre post broken := by
  intro world state holds
  refine (assures world state holds).bind ?_ ?_
  · exact fun world value state reached => rest value world state reached
  · exact fun world error state reached => reached

theorem Assures.note_bind {event : Event} {next : Unit → Program σ α}
    (assures : (next ()).Assures answering asking pre post broken) :
    (note event >>= next).Assures answering asking pre post broken := assures

theorem Assures.get_bind {next : σ → Program σ α}
    (assures : ∀ found, (next found).Assures answering asking
      (fun world state => pre world state ∧ state = found) post broken) :
    (get >>= next).Assures answering asking pre post broken :=
  fun world state holds => assures state world state ⟨holds, rfl⟩

theorem Assures.modify_bind {middle : ω → σ → Prop} {f : σ → σ} {next : Unit → Program σ α}
    (holds : ∀ world state, pre world state → middle world (f state))
    (rest : (next ()).Assures answering asking middle post broken) :
    (Program.modify f >>= next).Assures answering asking pre post broken :=
  fun world state begun => rest world (f state) (holds world state begun)

theorem Assures.attempt_bind {first : Program σ β} {next : Except SyncError β → Program σ α}
    {middle : β → ω → σ → Prop} {failed : ω → σ → Prop}
    (assures : first.Assures answering asking pre middle failed)
    (returned : ∀ value, (next (.ok value)).Assures answering asking (middle value) post broken)
    (caught : ∀ error, (next (.error error)).Assures answering asking failed post broken) :
    (first.attempt >>= next).Assures answering asking pre post broken := by
  intro world state holds
  have attempted : (first state).attempt.Assures answering asking (fun world ending =>
      ∃ inner : Ending σ β, ending = .returned inner.result inner.state ∧
        inner.Meets (fun value => middle value world) (failed world)) world :=
    ((assures world state holds).mono (fun _ _ _ permitted => permitted)
      fun world inner meets => ⟨inner, rfl, meets⟩).attempt
  refine attempted.bind ?_ ?_
  · rintro world result state ⟨inner, same, meets⟩
    cases same
    cases inner with
    | returned value last => exact returned value world last meets
    | failed error last => exact caught error world last meets
  · rintro world error state ⟨inner, impossible, -⟩
    cases impossible

/-- What a program assures holds of its course, if the answers that it gets are of the kind. -/
theorem Assures.takes {υ : Type} {env : Environment υ σ} {view : υ → ω} {program : Program σ α}
    {state : σ} {before after : υ} {exchanges : List (Exchange σ)} {ending : Ending σ α}
    (assures : program.Assures answering asking pre post broken) (holds : pre (view before) state)
    (answered : ∀ r w s, answering r (view w) s (env.reply r w) (view (env.next r w)) (env.touch r w s))
    (taken : program.Takes env state before exchanges ending after) :
    ending.Meets (fun value => post value (view after)) (broken (view after)) := by
  have reached := (assures (view before) state holds).takes answered taken
  exact reached

end Rules

/-! ## Invariants -/

/-- No answer breaks the invariant. -/
def Stable (answering : Answering ω σ) (inv : ω → σ → Prop) : Prop :=
  ∀ r world state reply later resumed, inv world state →
    answering r world state reply later resumed → inv later resumed

theorem Stable.and {inv also : ω → σ → Prop} (stable : Stable answering inv)
    (stays : Stable answering also) : Stable answering fun world state =>
      inv world state ∧ also world state :=
  fun r world state reply later resumed holds answered =>
    ⟨stable r world state reply later resumed holds.1 answered,
      stays r world state reply later resumed holds.2 answered⟩

section Sustains

variable {allowed : Request → Prop} {inv : ω → σ → Prop}

theorem Sustains.pure (value : α) : (pure value : Program σ α).Sustains answering allowed inv :=
  Assures.pure fun _ _ holds => holds

theorem Sustains.fail (error : SyncError) :
    (fail error : Program σ α).Sustains answering allowed inv :=
  Assures.fail fun _ _ holds => holds

theorem Sustains.note (event : Event) :
    (note event : Program σ Unit).Sustains answering allowed inv :=
  fun _ _ holds => holds

theorem Sustains.get : (get : Program σ σ).Sustains answering allowed inv := fun _ _ holds => holds

theorem Sustains.modify {f : σ → σ} (kept : ∀ world state, inv world state → inv world (f state)) :
    (modify f).Sustains answering allowed inv := kept

theorem Sustains.ofExcept (result : Except SyncError α) :
    (ofExcept result).Sustains answering allowed inv :=
  Assures.ofExcept (fun _ _ _ _ holds => holds) fun _ _ _ _ holds => holds

theorem Sustains.request {r : Request} (permitted : allowed r) (stable : Stable answering inv) :
    (request r : Program σ r.Reply).Sustains answering allowed inv :=
  Assures.request (fun _ _ holds => ⟨holds, permitted⟩) fun world state reply later resumed =>
    stable r world state reply later resumed

theorem Sustains.bind {first : Program σ β} {next : β → Program σ α}
    (sustains : first.Sustains answering allowed inv)
    (rest : ∀ value, (next value).Sustains answering allowed inv) :
    (first >>= next).Sustains answering allowed inv :=
  Assures.bind sustains rest

theorem Sustains.attempt {program : Program σ α} (sustains : program.Sustains answering allowed inv) :
    program.attempt.Sustains answering allowed inv := by
  have returned : (program.attempt >>= Pure.pure).Sustains answering allowed inv :=
    Assures.attempt_bind sustains (fun value => Sustains.pure _) fun error => Sustains.pure _
  rwa [bind_pure] at returned

/-- Nothing need be known of what a program returns. -/
theorem Sustains.returning {program : Program σ α} (sustains : program.Sustains answering allowed inv) :
    program.Assures answering (fun world state r => inv world state ∧ allowed r) inv
      (fun _ world state => inv world state ∧ True) inv :=
  sustains.conseq (fun _ _ _ asked => asked) (fun _ _ holds => holds)
    (fun _ _ _ holds => ⟨holds, trivial⟩) fun _ _ holds => holds

theorem Sustains.remote {limit : Duration} {operation : String} {call : RemoteCall}
    (permitted : allowed (.remote limit call)) (stable : Stable answering inv) :
    (remote limit operation call : Program σ call.Answer).Sustains answering allowed inv := by
  rw [remote_eq]
  exact .bind (.request permitted stable) fun reply => .ofExcept _

end Sustains

/-! ## Kinds of states -/

/-- The answers that leave the program in a state of one kind. -/
def leaving (kind : σ → Prop) : Answering Unit σ := fun _ _ _ _ _ resumed => kind resumed

theorem stable_leaving (kind : σ → Prop) : Stable (leaving kind) fun _ => kind :=
  fun _ _ _ _ _ _ _ answered => answered

end Program

/-- To keep to a kind of state is to sustain it against whatever leaves the program in it. -/
theorem Run.assures_leaving {σ α : Type} {kind : σ → Prop} {allowed : Request → Prop}
    {run : Run σ α} : run.Assures (Program.leaving kind) (fun _ state r => kind state ∧ allowed r)
      (fun _ ending => ending.Meets (fun _ => kind) kind) () ↔ run.Keeps kind allowed := by
  induction run with
  | returned value state => exact Iff.rfl
  | failed error state => exact Iff.rfl
  | noted event rest ih => exact ih
  | waiting request state resume ih =>
      constructor
      · intro assures
        refine ⟨assures.1.1, assures.1.2, ?_⟩
        intro reply resumed holds
        exact (ih reply resumed).mp (assures.2 reply () resumed holds)
      · intro kept
        refine ⟨⟨kept.1, kept.2.1⟩, ?_⟩
        intro reply _ resumed holds
        exact (ih reply resumed).mpr (kept.2.2 reply resumed holds)

theorem Program.sustains_leaving {σ α : Type} {kind : σ → Prop} {allowed : Request → Prop}
    {program : Program σ α} :
    program.Sustains (leaving kind) allowed (fun _ => kind) ↔ program.Keeps kind allowed := by
  constructor
  · exact fun sustains state holds => Run.assures_leaving.mp (sustains () state holds)
  · exact fun kept _ state holds => Run.assures_leaving.mpr (kept state holds)

theorem Program.Sustains.keeps {σ α : Type} {kind : σ → Prop} {allowed : Request → Prop}
    {program : Program σ α} (sustains : program.Sustains (leaving kind) allowed fun _ => kind) :
    program.Keeps kind allowed :=
  sustains_leaving.mp sustains

theorem Program.Keeps.sustains {σ α : Type} {kind : σ → Prop} {allowed : Request → Prop}
    {program : Program σ α} (kept : program.Keeps kind allowed) :
    program.Sustains (leaving kind) allowed fun _ => kind :=
  sustains_leaving.mpr kept

end SealedSync
