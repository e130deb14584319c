import SealedSync.Proofs.Preparation

/-!
# A cycle phase by phase

What a cycle comes to is told by assertions about the world, the session and all that was exchanged so
far. A fresh start and the commit are what changes the records, so a cycle is known as soon as these two
are: all its other steps go on with what they find.
-/
namespace SealedSync

variable {ω σ α : Type}

/-- The answers that requests of one kind get. -/
def Answering.only (answering : Answering ω σ) (allowed : Request → Prop) : Answering ω σ :=
  fun r world state reply later resumed =>
    allowed r ∧ answering r world state reply later resumed

/-- The answers that an environment gives. Beside its own state the world keeps all that was exchanged. -/
def Environment.answering (env : Environment ω σ) : Answering (ω × List (Exchange σ)) σ :=
  fun r world state reply later resumed =>
    reply = env.reply r world.1 ∧ resumed = env.touch r world.1 state ∧
      later = (env.next r world.1, world.2 ++ [env.exchange r state world.1])

namespace Run

/-- A run that makes only requests of one kind gets only answers to such requests. -/
theorem Assures.unrestricted {answering : Answering ω σ} {asking : Asking ω σ}
    {allowed : Request → Prop} {run : Run σ α} {post : ω → Ending σ α → Prop} {world : ω}
    (assures : run.Assures (answering.only allowed) asking post world)
    (asked : ∀ world state r, asking world state r → allowed r) :
    run.Assures answering asking post world := by
  induction run generalizing world with
  | returned value state => exact assures
  | failed error state => exact assures
  | noted event rest ih => exact ih assures
  | waiting request state resume ih =>
      refine ⟨assures.1, ?_⟩
      intro reply later resumed answered
      have permitted := asked _ _ _ assures.1
      exact ih reply resumed (assures.2 reply later resumed ⟨permitted, answered⟩)

/-- What a run assures against an environment holds at its end, and whenever it asks for something. -/
theorem Assures.exchanged {env : Environment ω σ} {asking : Asking (ω × List (Exchange σ)) σ}
    {run : Run σ α} {post : ω × List (Exchange σ) → Ending σ α → Prop} {before after : ω}
    {past exchanges : List (Exchange σ)} {ending : Ending σ α}
    (assures : run.Assures env.answering asking post (before, past))
    (taken : run.Takes env before exchanges ending after) :
    post (after, past ++ exchanges) ending ∧
      ∀ head x tail, exchanges = head ++ x :: tail →
        asking (env.world before head, past ++ head) x.asked x.request := by
  induction run generalizing before past exchanges with
  | returned value state =>
      obtain ⟨rfl, rfl, rfl⟩ := takes_returned.mp taken
      rw [List.append_nil]
      exact ⟨assures, fun head x tail same => by simp at same⟩
  | failed error state =>
      obtain ⟨rfl, rfl, rfl⟩ := takes_failed.mp taken
      rw [List.append_nil]
      exact ⟨assures, fun head x tail same => by simp at same⟩
  | noted event rest ih => exact ih assures taken
  | waiting request state resume ih =>
      obtain ⟨rest, rfl, continued⟩ := takes_waiting.mp taken
      obtain ⟨last, asked⟩ := ih _ _ (assures.2 _ _ _ ⟨rfl, rfl, rfl⟩) continued
      refine ⟨by simpa using last, fun head x tail same => ?_⟩
      cases head with
      | nil =>
          obtain ⟨rfl, -⟩ := List.cons.inj same
          rw [List.append_nil]
          exact assures.1
      | cons y head =>
          obtain ⟨rfl, later⟩ := List.cons.inj same
          have reached := asked head x tail later
          rw [List.append_assoc] at reached
          exact reached

/-- A part of the state that an invariant does not depend on may change in any way. -/
theorem Keeps.sustains_zoom {τ : Type} {part : τ → σ} {put : σ → τ → τ} {run : Run σ α}
    {answering : Answering ω τ} {allowed : Request → Prop} {inv : ω → τ → Prop}
    (kept : run.Keeps (fun _ => True) allowed) (stable : Program.Stable answering inv)
    (indifferent : ∀ world state whole, inv world whole → inv world (put state whole)) {world : ω}
    {whole : τ} (holds : inv world whole) :
    (run.zoom part put whole).Assures answering (fun world state r => inv world state ∧ allowed r)
      (fun world ending => ending.Meets (fun _ => inv world) (inv world)) world := by
  induction run generalizing world whole with
  | returned value state => exact indifferent _ state whole holds
  | failed error state => exact indifferent _ state whole holds
  | noted event rest ih => exact ih kept holds
  | waiting request state resume ih =>
      have asked := indifferent world state whole holds
      refine ⟨⟨asked, kept.2.1⟩, ?_⟩
      intro reply later resumed answered
      exact ih reply _ (kept.2.2 reply _ trivial) (stable _ _ _ _ _ _ asked answered)

end Run

theorem Program.Assures.unrestricted {answering : Answering ω σ} {asking : Asking ω σ}
    {allowed : Request → Prop} {program : Program σ α} {pre broken : ω → σ → Prop}
    {post : α → ω → σ → Prop}
    (assures : program.Assures (answering.only allowed) asking pre post broken)
    (asked : ∀ world state r, asking world state r → allowed r) :
    program.Assures answering asking pre post broken :=
  fun world state holds => (assures world state holds).unrestricted asked

theorem Program.Assures.exchanged {env : Environment ω σ}
    {asking : Asking (ω × List (Exchange σ)) σ} {program : Program σ α}
    {pre broken : ω × List (Exchange σ) → σ → Prop} {post : α → ω × List (Exchange σ) → σ → Prop}
    {state : σ} {before after : ω} {past exchanges : List (Exchange σ)} {ending : Ending σ α}
    (assures : program.Assures env.answering asking pre post broken)
    (holds : pre (before, past) state)
    (taken : program.Takes env state before exchanges ending after) :
    ending.Meets (fun value => post value (after, past ++ exchanges))
        (broken (after, past ++ exchanges)) ∧
      ∀ head x tail, exchanges = head ++ x :: tail →
        asking (env.world before head, past ++ head) x.asked x.request :=
  (assures (before, past) state holds).exchanged taken

namespace Session

open RemoteState FreshStart Program

/-- An assertion that does not depend on the keys, nor on what a report says apart from fresh starts. -/
structure Steady (inv : ω → Session → Prop) : Prop where
  keyring : ∀ world s k, inv world s → inv world (s.withKeyring k)
  keyed : ∀ world s, inv world s → inv world s.keyed
  report : ∀ world s f, (∀ r, (f r).freshStart = r.freshStart) → inv world s →
    inv world (s.withReport f)

namespace Steady

variable {answering : Answering ω Session} {inv : ω → Session → Prop} {allowed : Request → Prop}
  {p : Profile} (steady : Steady inv)

include steady

theorem entering (world : ω) (s : Session) (state : CycleState) (holds : inv world s) :
    inv world (s.entering state) :=
  steady.report world s _ (fun _ => rfl) holds

theorem sustains_enter (state : CycleState) : (enter state).Sustains answering allowed inv :=
  Session.sustains_enter fun world s => steady.entering world s state

theorem sustains_onKeyring {program : Program Keyring α} (stable : Stable answering inv)
    (kept : program.Keeps (fun _ => True) allowed) :
    (onKeyring program).Sustains answering allowed inv := by
  rw [onKeyring_eq_zoom]
  intro world s holds
  exact (kept s.book.keyring trivial).sustains_zoom stable
    (fun world k s => steady.keyring world s k) holds

end Steady

/-- What holds while a cycle goes on: `early` before it has begun a fresh start, and `inv` in any case.
Answers to requests that are allowed change neither. -/
structure Phases (answering : Answering ω Session) (asking : Asking ω Session)
    (allowed : Request → Prop) (early inv broken : ω → Session → Prop) : Prop where
  stableEarly : Stable (answering.only allowed) early
  stable : Stable (answering.only allowed) inv
  steadyEarly : Steady early
  steady : Steady inv
  harmless : ∀ r, r.isWrite = false → r.isFileWrite = false → allowed r
  permits : ∀ world s r, inv world s → allowed r → asking world s r
  begun : ∀ world s, early world s → inv world s
  unstarted : ∀ world s, inv world s → s.performedFreshStart = false → early world s
  breaks : ∀ world s, inv world s → broken world s

namespace Phases

variable {answering : Answering ω Session} {asking : Asking ω Session} {allowed : Request → Prop}
  {early inv broken : ω → Session → Prop} {p : Profile} {key : Key}
  (phases : Phases answering asking allowed early inv broken)

include phases

theorem of_early {program : Program Session α}
    (sustains : program.Sustains (answering.only allowed) allowed early) :
    program.Assures answering asking early (fun _ => early) broken :=
  (Assures.unrestricted sustains fun _ _ _ asked => asked.2).conseq
    (fun world s r asked => phases.permits world s r (phases.begun world s asked.1) asked.2)
    (fun _ _ holds => holds) (fun _ _ _ holds => holds)
    fun world s holds => phases.breaks world s (phases.begun world s holds)

theorem passing {program : Program Session α}
    (sustains : program.Sustains (answering.only allowed) allowed inv) :
    program.Assures answering asking inv (fun _ => inv) inv :=
  (Assures.unrestricted sustains fun _ _ _ asked => asked.2).conseq
    (fun world s r asked => phases.permits world s r asked.1 asked.2)
    (fun _ _ holds => holds) (fun _ _ _ holds => holds) fun _ _ holds => holds

theorem of_inv {program : Program Session α}
    (sustains : program.Sustains (answering.only allowed) allowed inv) :
    program.Assures answering asking inv (fun _ => inv) broken :=
  (phases.passing sustains).conseq (fun _ _ _ asked => asked) (fun _ _ holds => holds)
    (fun _ _ _ holds => holds) phases.breaks

theorem read (limit : Duration) (call : RemoteCall) (reads : (Request.remote limit call).isWrite = false) :
    allowed (.remote limit call) :=
  phases.harmless _ reads rfl

theorem sustains_refreshKeys : (refreshKeys p).Sustains (answering.only allowed) allowed inv :=
  phases.steady.sustains_onKeyring phases.stable (Keyring.keeps_refresh (phases.read _ _ rfl))

theorem sustains_bindKeys (index : CollectionIndex) (m : GlobalMetadata) :
    (bindKeys index m).Sustains (answering.only allowed) allowed inv := by
  refine .bind sustains_report fun r => .bind ?_ fun _ => .pure _
  refine phases.steady.sustains_onKeyring phases.stable ?_
  intro k _
  rw [Keyring.bind_run]
  split
  · trivial
  · split <;> trivial

variable (fresh : ∀ key reason, (freshStart p key reason).Assures answering asking early
  (fun _ => inv) broken)

include fresh

theorem assures_settleEpoch (evaluated : Evaluated) :
    (settleEpoch p key evaluated).Assures answering asking early (fun _ => inv) broken := by
  cases evaluated with
  | diverged reason => exact fresh key reason
  | current m =>
      have forgetting (world : ω) (s : Session) (holds : early world s) : early world s.forgetting :=
        phases.steadyEarly.keyring world _ _ (phases.steadyEarly.report world s _ (fun _ => rfl) holds)
      have observing : (observeEpoch m).Sustains (answering.only allowed) allowed early :=
        sustains_observeEpoch phases.stableEarly (fun c => phases.harmless (.resetClient c) rfl rfl)
          forgetting m
      exact .bind (phases.of_early observing) fun _ => .pure phases.begun

theorem assures_secureKeys (index : CollectionIndex) (m : GlobalMetadata) :
    (secureKeys p key index m).Assures answering asking inv (fun _ => inv) broken := by
  have enter : (enter .keyRefresh).Assures answering asking inv (fun _ => inv) broken :=
    phases.of_inv (phases.steady.sustains_enter .keyRefresh)
  have binding (m : GlobalMetadata) := phases.of_inv (phases.sustains_bindKeys index m)
  have refreshing := phases.of_inv (phases.sustains_refreshKeys (p := p))
  have attempting := phases.passing (phases.sustains_refreshKeys (p := p))
  rw [secureKeys_eq]
  refine .bind enter fun _ => .bind (binding m) fun _ => ?_
  refine .attempt_bind attempting (fun _ => .pure fun _ _ holds => holds) fun e => ?_
  -- Only a cycle that has not begun a fresh start makes one for want of keys.
  refine .get_bind fun found => ?_
  show (if e.isAbsentOrMalformed && !(found.cycle.getD .start).performedFreshStart then _ else _ :
    Program Session GlobalMetadata).Assures answering asking _ _ _
  split
  · rename_i due
    have unstarted : found.performedFreshStart = false := by
      simp only [Bool.and_eq_true, Bool.not_eq_true'] at due
      exact due.2
    refine .note_bind ?_
    have renewing : (renewKeys p key index).Assures answering asking early (fun _ => inv) broken :=
      .bind (fresh key .unusableKeys) fun m => .bind enter fun _ => .bind (binding m) fun _ =>
        .bind refreshing fun _ => .pure fun _ _ holds => holds
    refine renewing.conseq (fun _ _ _ asked => asked) ?_ (fun _ _ _ holds => holds)
      fun _ _ holds => holds
    rintro world s ⟨holds, rfl⟩
    exact phases.unstarted world s holds unstarted
  · exact .fail fun world s holds => phases.breaks world s holds.1

theorem assures_prepare :
    (prepare p).Assures answering asking early (fun _ => inv) broken := by
  have entering (state : CycleState) := phases.of_early (phases.steadyEarly.sustains_enter state)
  have checking := phases.of_early (sustains_checkpoint (p := p))
  refine .bind (entering _) fun _ => .bind (phases.of_early ?_) fun index => .bind checking fun _ => ?_
  · exact .bind (.remote (phases.read _ _ rfl) phases.stableEarly) fun _ => .bind (.note _) fun _ =>
      .pure _
  refine .bind (entering _) fun _ => .bind (phases.of_early ?_) fun evaluated => ?_
  · exact sustains_evaluateRemote phases.stableEarly (phases.read _ _ rfl) index
  refine .bind (phases.of_early ?_) fun key => .bind checking fun _ => ?_
  · exact sustains_sealingKey phases.stableEarly (phases.harmless _ rfl rfl) phases.steadyEarly.keyed
  refine .bind (phases.assures_settleEpoch fresh evaluated) fun m => ?_
  refine .bind (phases.of_inv sustains_checkpoint) fun _ => ?_
  exact .bind (phases.assures_secureKeys fresh index m) fun m => .pure fun _ _ holds => holds

/-- A cycle comes to what its commit comes to, if its fresh start keeps the assertions. -/
theorem assures_runCycle {post : ω → Session → Prop}
    (commits : ∀ index m, (commit p index m).Assures answering asking inv (fun _ => post) broken) :
    (runCycle p).Assures answering asking early (fun _ => post) broken := by
  have keys (name : String) : (onKeyring (Keyring.keyFor p.keyAccess name)).Assures
      (answering.only allowed) (fun world s r => inv world s ∧ allowed r) inv
      (fun _ world s => inv world s ∧ True) inv :=
    (phases.steady.sustains_onKeyring phases.stable
      (Keyring.keeps_keyFor (phases.read _ _ rfl) name)).returning
  rw [runCycle_eq_prepare]
  refine .bind (phases.assures_prepare fresh) fun found => ?_
  refine .bind (phases.of_inv (sustains_checkKeys keys _)) fun _ => ?_
  refine .bind (phases.of_inv sustains_checkpoint) fun _ => ?_
  refine .bind (phases.of_inv (phases.steady.sustains_enter _)) fun _ => ?_
  refine .get_bind fun s => .bind ?_ fun _ => commits found.1 found.2
  refine Assures.conseq (phases.of_inv (sustains_delegate phases.stable keys ?_ ?_ s.synchronizers))
    (fun _ _ _ asked => asked) (fun _ _ holds => holds.1) (fun _ _ _ holds => holds)
    fun _ _ holds => holds
  · exact fun world s f kept => phases.steady.report world s f fun r => (kept r).1
  · exact fun c key _ => phases.harmless (.synchronize c key) rfl rfl

end Phases

end Session

end SealedSync
