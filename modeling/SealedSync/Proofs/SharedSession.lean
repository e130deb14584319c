import Mathlib.Logic.Function.Basic
import SealedSync.Proofs.Cancellation
import SealedSync.Proofs.Delegation
import SealedSync.Proofs.Preparation

/-!
# Calls on a shared session

Several callers hold one session, and any of them may call at any moment: also while another call
waits, and from inside the request that it waits for. A call runs until it waits for a reply or ends.
The session is busy exactly while one call is waiting, so a second call is turned away before it has
touched anything, and the callers run their cycles one after another.
-/
namespace SealedSync

/-- Where a caller stands with its latest call. -/
inductive CallState where
  | uncalled
  | waiting (request : Request) (resume : request.Reply → Session → Run Session CycleReport)
  | ended (result : Except SyncError CycleReport)

def CallState.Waits : CallState → Prop
  | .waiting .. => True
  | _ => False

/-- What a caller is seen to do. -/
inductive Mark (ι : Type) where
  | asked (caller : ι) (request : Request)
  | ended (caller : ι) (result : Except SyncError CycleReport)

/-- What may happen next: a caller calls, the request of a caller is answered, or something else is
done to the session that leaves a running cycle alone. -/
inductive Action (ι : Type) where
  | call (caller : ι)
  | answer (caller : ι)
  | touch (f : Session → Session) (spares : ∀ s, (f s).cycle = s.cycle)

/-- A session with its callers, and the world that answers them. -/
structure Shared (ι ω : Type) where
  session : Session
  world : ω
  calls : ι → CallState

namespace Shared

open Session RemoteState

variable {ι ω : Type} [DecidableEq ι]

/-- A session that nobody has called yet. -/
def opened (s : Session) (world : ω) : Shared ι ω := ⟨s, world, fun _ => .uncalled⟩

/-- The call of a caller has come to a halt and leaves the session in a state. -/
def halted (shared : Shared ι ω) (c : ι) (call : CallState) (s : Session) : Shared ι ω :=
  ⟨s, shared.world, Function.update shared.calls c call⟩

/-- Lets the call of a caller run until it waits or ends. -/
def advance (c : ι) : Run Session CycleReport → Shared ι ω → Shared ι ω × List (Mark ι)
  | .returned report s, shared => (shared.halted c (.ended (.ok report)) s, [.ended c (.ok report)])
  | .failed e s, shared => (shared.halted c (.ended (.error e)) s, [.ended c (.error e)])
  | .noted _ rest, shared => advance c rest shared
  | .waiting request s resume, shared =>
      (shared.halted c (.waiting request resume) s, [.asked c request])

/-- A caller that waits cannot call, and one that does not wait is not answered. -/
def step (oracle : Oracle ω) (p : Profile) (shared : Shared ι ω) :
    Action ι → Shared ι ω × List (Mark ι)
  | .call c =>
      match shared.calls c with
      | .waiting .. => (shared, [])
      | _ => advance c (sync p shared.session) shared
  | .answer c =>
      match shared.calls c with
      | .waiting request resume =>
          advance c (resume (oracle.reply request shared.world) shared.session)
            { shared with world := oracle.next request shared.world }
      | _ => (shared, [])
  | .touch f _ => ({ shared with session := f shared.session }, [])

/-- What comes of one action after another, and what the callers are seen to do. -/
def run (oracle : Oracle ω) (p : Profile) (shared : Shared ι ω) :
    List (Action ι) → Shared ι ω × List (Mark ι)
  | [] => (shared, [])
  | action :: rest =>
      let next := shared.step oracle p action
      let last := next.1.run oracle p rest
      (last.1, next.2 ++ last.2)

end Shared

namespace Run

open Session

variable {α β : Type}

/-- The run waits in busy sessions and ends in idle ones, as long as others leave the session busy. -/
def Occupies : Run Session α → Prop
  | .returned _ s => s.isSyncing = false
  | .failed _ s => s.isSyncing = false
  | .noted _ rest => rest.Occupies
  | .waiting _ s resume => s.isSyncing = true ∧ ∀ reply t, t.isSyncing = true → (resume reply t).Occupies

theorem Occupies.of_keeps {first : Run Session α} {last : Except SyncError α → Program Session β}
    (kept : first.Keeps (fun s => s.isSyncing = true) fun _ => True)
    (ends : ∀ result s, s.isSyncing = true → (last result s).Occupies) :
    (first.attempt.bind last).Occupies := by
  induction first with
  | returned value s => exact ends _ _ kept
  | failed e s => exact ends _ _ kept
  | noted event rest ih => exact ih kept
  | waiting request s resume ih =>
      exact ⟨kept.1, fun reply t busy => ih reply t (kept.2.2 reply t busy)⟩

end Run

namespace Session

open RemoteState

theorem sync_run_refused {p : Profile} {s : Session} (busy : s.isSyncing = true) :
    sync p s = .noted (.cycleRefused p.account) (.failed .cycleInFlight s) := by
  show (if s.isSyncing then _ else _ : Program Session CycleReport) s = _
  rw [if_pos busy]
  rfl

/-- A cycle begins by asking for the index. -/
theorem sync_run_idle {p : Profile} {s : Session} (idle : s.isSyncing = false) :
    ∃ resume, sync p s = .noted (.entered .start .fetchingState)
      (.waiting (indexRequest p.limit) (s.starting.entering .fetchingState) resume) := by
  show ∃ resume, (if s.isSyncing then _ else _ : Program Session CycleReport) s = _
  rw [if_neg (by simp [idle])]
  exact ⟨_, rfl⟩

/-- A running cycle leaves the session busy. -/
theorem runCycle_stays_busy (p : Profile) :
    (runCycle p).Keeps (fun s => s.isSyncing = true) fun _ => True := by
  have preparatory : Preparatory fun s => s.isSyncing = true := by
    refine ⟨fun _ _ h => h, fun _ h => h, fun s f _ h => ?_, fun s state _ h => ?_, fun _ _ h => h,
      fun _ h => h⟩
    · exact (isSyncing_withReport s).trans h
    · exact (isSyncing_withReport s).trans h
  rw [runCycle_eq_prepare]
  refine .bind (preparatory.keeps_prepare fun _ _ => trivial) fun found => ?_
  exact keeps_conclude (fun name => keeps_onKeyring (Keyring.keeps_keyFor trivial name) fun _ _ h => h)
    (fun s _ _ h => (isSyncing_withReport s).trans h) (fun _ _ => trivial)
    (fun s h => (isSyncing_withReport s).trans h) (fun _ _ h => h) _ _

/-- A call on an idle session occupies it until the call ends. -/
theorem sync_occupies {p : Profile} {s : Session} (idle : s.isSyncing = false) :
    (sync p s).Occupies := by
  show ((if s.isSyncing then _ else _ : Program Session CycleReport) s).Occupies
  rw [if_neg (by simp [idle])]
  show (((runCycle p) s.starting).attempt.bind _).Occupies
  refine .of_keeps (runCycle_stays_busy p s.starting rfl) fun result t _ => ?_
  cases result with
  | ok _ => exact rfl
  | error e => exact rfl

end Session

namespace Shared

open Session RemoteState

variable {ι ω : Type} [DecidableEq ι] {oracle : Oracle ω} {p : Profile} {shared : Shared ι ω} {c d : ι}

/-- At most one call waits, the session is busy exactly while one does, and it stays so until the
call ends. -/
structure Orderly (shared : Shared ι ω) : Prop where
  single : ∀ c d, (shared.calls c).Waits → (shared.calls d).Waits → c = d
  busy : shared.session.isSyncing = true ↔ ∃ c, (shared.calls c).Waits
  occupied : ∀ c request resume, shared.calls c = .waiting request resume →
    ∀ reply s, s.isSyncing = true → (resume reply s).Occupies

omit [DecidableEq ι] in
theorem orderly_opened {s : Session} {world : ω} (idle : s.isSyncing = false) :
    (opened s world : Shared ι ω).Orderly where
  single _ _ waits := waits.elim
  busy := by simp [opened, idle, CallState.Waits]
  occupied _ _ _ waits := by cases waits

theorem orderly_halted {call : CallState} {s : Session}
    (alone : ∀ d, (shared.calls d).Waits → d = c) (busy : s.isSyncing = true ↔ call.Waits)
    (occupied : ∀ request resume, call = .waiting request resume →
      ∀ reply t, t.isSyncing = true → (resume reply t).Occupies) :
    (shared.halted c call s).Orderly := by
  have same : (shared.halted c call s).calls c = call := Function.update_self ..
  have other {d : ι} (apart : d ≠ c) : (shared.halted c call s).calls d = shared.calls d :=
    Function.update_of_ne apart ..
  have waits_only (d : ι) (waits : ((shared.halted c call s).calls d).Waits) : d = c := by
    by_contra apart
    rw [other apart] at waits
    exact apart (alone d waits)
  refine ⟨fun d e first second => (waits_only d first).trans (waits_only e second).symm, ?_, ?_⟩
  · show s.isSyncing = true ↔ _
    rw [busy]
    refine ⟨fun waits => ⟨c, by rwa [same]⟩, ?_⟩
    rintro ⟨d, waits⟩
    obtain rfl := waits_only d waits
    rwa [same] at waits
  · intro d request resume waiting
    have waits : ((shared.halted c call s).calls d).Waits := by
      rw [waiting]
      trivial
    obtain rfl := waits_only d waits
    exact occupied request resume (same.symm.trans waiting)

/-- While nobody else waits, a call that occupies the session goes on to wait, or it ends and frees
the session. -/
theorem orderly_advance (shared : Shared ι ω) {run : Run Session CycleReport} (occupies : run.Occupies)
    (alone : ∀ d, (shared.calls d).Waits → d = c) :
    (advance c run shared).1.Orderly ∧
      ((∃ request, (advance c run shared).2 = [.asked c request] ∧
          ((advance c run shared).1.calls c).Waits) ∨
        ∃ result, (advance c run shared).2 = [.ended c result]) := by
  induction run with
  | noted event rest ih => exact ih occupies
  | returned report s =>
      have idle : s.isSyncing = false := occupies
      exact ⟨orderly_halted alone (by simp [idle, CallState.Waits]) nofun, .inr ⟨_, rfl⟩⟩
  | failed e s =>
      have idle : s.isSyncing = false := occupies
      exact ⟨orderly_halted alone (by simp [idle, CallState.Waits]) nofun, .inr ⟨_, rfl⟩⟩
  | waiting request s resume ih =>
      have waits : ((shared.halted c (.waiting request resume) s).calls c).Waits := by
        simp [halted, CallState.Waits]
      refine ⟨orderly_halted alone (iff_of_true occupies.1 trivial) ?_, .inl ⟨request, rfl, waits⟩⟩
      rintro _ _ ⟨⟩
      exact occupies.2

theorem step_call (resting : ¬(shared.calls c).Waits) :
    shared.step oracle p (.call c) = advance c (sync p shared.session) shared := by
  show (match shared.calls c with
    | .waiting .. => (shared, [])
    | _ => advance c (sync p shared.session) shared) = _
  cases held : shared.calls c with
  | waiting request resume =>
      rw [held] at resting
      exact absurd trivial resting
  | uncalled => rfl
  | ended result => rfl

theorem step_call_waiting (waits : (shared.calls c).Waits) :
    shared.step oracle p (.call c) = (shared, []) := by
  show (match shared.calls c with
    | .waiting .. => (shared, [])
    | _ => advance c (sync p shared.session) shared) = _
  cases held : shared.calls c with
  | waiting request resume => rfl
  | _ =>
      rw [held] at waits
      exact waits.elim

theorem step_answer {request : Request} {resume : request.Reply → Session → Run Session CycleReport}
    (waiting : shared.calls c = .waiting request resume) :
    shared.step oracle p (.answer c) =
      advance c (resume (oracle.reply request shared.world) shared.session)
        { shared with world := oracle.next request shared.world } := by
  show (match shared.calls c with
    | .waiting request resume => _
    | _ => (shared, [])) = _
  rw [waiting]

theorem step_answer_resting (resting : ¬(shared.calls c).Waits) :
    shared.step oracle p (.answer c) = (shared, []) := by
  show (match shared.calls c with
    | .waiting request resume => _
    | _ => (shared, [])) = _
  cases held : shared.calls c with
  | waiting request resume =>
      rw [held] at resting
      exact absurd trivial resting
  | uncalled => rfl
  | ended result => rfl

/-- A call on a busy session is turned away, and nothing else changes. -/
theorem step_call_busy (oracle : Oracle ω) (p : Profile) (busy : shared.session.isSyncing = true)
    (resting : ¬(shared.calls c).Waits) :
    shared.step oracle p (.call c) =
      (shared.halted c (.ended (.error .cycleInFlight)) shared.session,
        [.ended c (.error .cycleInFlight)]) := by
  rw [step_call resting, sync_run_refused busy]
  rfl

/-- What a step can be seen to do: nothing, a request of the one call in progress, the end of that
call, or a call that is turned away. -/
inductive Seen (before after : Shared ι ω) : List (Mark ι) → Prop where
  | nothing (calls : after.calls = before.calls) : Seen before after []
  | asked (c : ι) (request : Request) (alone : ∀ d, (before.calls d).Waits → d = c)
      (waits : (after.calls c).Waits) : Seen before after [.asked c request]
  | ended (c : ι) (result : Except SyncError CycleReport) (waited : (before.calls c).Waits) :
      Seen before after [.ended c result]
  | refused (c : ι) (resting : ¬(before.calls c).Waits)
      (others : ∀ d ≠ c, after.calls d = before.calls d) :
      Seen before after [.ended c (.error .cycleInFlight)]

omit [DecidableEq ι] in
/-- The order depends on the waiting calls, and on whether the session is busy. -/
theorem Orderly.of_same {after : Shared ι ω} (orderly : shared.Orderly)
    (session : after.session.isSyncing = shared.session.isSyncing)
    (calls : ∀ d, (after.calls d).Waits ∨ (shared.calls d).Waits → after.calls d = shared.calls d) :
    after.Orderly := by
  have waits (d : ι) : (after.calls d).Waits ↔ (shared.calls d).Waits :=
    ⟨fun waits => calls d (.inl waits) ▸ waits, fun waits => calls d (.inr waits) ▸ waits⟩
  refine ⟨fun c d first second => ?_, ?_, fun c request resume waiting => ?_⟩
  · exact orderly.single c d ((waits c).mp first) ((waits d).mp second)
  · rw [session, orderly.busy]
    exact exists_congr fun d => (waits d).symm
  · refine orderly.occupied c request resume ((calls c (.inl ?_)).symm.trans waiting)
    rw [waiting]
    trivial

/-- A call on an idle session asks for the index. -/
theorem step_call_idle (oracle : Oracle ω) (p : Profile) (idle : shared.session.isSyncing = false)
    (resting : ¬(shared.calls c).Waits) :
    (shared.step oracle p (.call c)).2 = [.asked c (indexRequest p.limit)] ∧
      ((shared.step oracle p (.call c)).1.calls c).Waits := by
  obtain ⟨resume, begins⟩ := sync_run_idle (p := p) idle
  rw [step_call resting, begins]
  exact ⟨rfl, by simp [advance, halted, CallState.Waits]⟩

theorem call_orderly (oracle : Oracle ω) (p : Profile) (orderly : shared.Orderly) (c : ι) :
    (shared.step oracle p (.call c)).1.Orderly ∧
      Seen shared (shared.step oracle p (.call c)).1 (shared.step oracle p (.call c)).2 := by
  by_cases waits : (shared.calls c).Waits
  · rw [step_call_waiting waits]
    exact ⟨orderly, .nothing rfl⟩
  cases busy : shared.session.isSyncing with
  | true =>
      rw [step_call_busy oracle p busy waits]
      have others (d : ι) (apart : d ≠ c) :
          (shared.halted c (.ended (.error .cycleInFlight)) shared.session).calls d =
            shared.calls d := Function.update_of_ne apart ..
      refine ⟨orderly.of_same rfl fun d waiting => others d ?_, .refused c waits others⟩
      rintro rfl
      exact waiting.elim (by simp [halted, CallState.Waits]) waits
  | false =>
      have free (d : ι) : ¬(shared.calls d).Waits := fun waiting => by
        rw [orderly.busy.mpr ⟨d, waiting⟩] at busy
        cases busy
      have alone (d : ι) (waiting : (shared.calls d).Waits) : d = c := absurd waiting (free d)
      obtain ⟨asks, waiting⟩ := step_call_idle oracle p busy waits
      refine ⟨?_, asks ▸ .asked c _ alone waiting⟩
      rw [step_call waits]
      exact (orderly_advance shared (sync_occupies busy) alone).1

theorem answer_orderly (oracle : Oracle ω) (p : Profile) (orderly : shared.Orderly) (c : ι) :
    (shared.step oracle p (.answer c)).1.Orderly ∧
      Seen shared (shared.step oracle p (.answer c)).1 (shared.step oracle p (.answer c)).2 := by
  by_cases waits : (shared.calls c).Waits
  · have busy := orderly.busy.mpr ⟨c, waits⟩
    have alone (d : ι) (waiting : (shared.calls d).Waits) : d = c := orderly.single d c waiting waits
    cases held : shared.calls c with
    | waiting request resume =>
        have occupies := orderly.occupied c request resume held (oracle.reply request shared.world) _ busy
        rw [step_answer held]
        obtain ⟨ordered, seen⟩ :=
          orderly_advance { shared with world := oracle.next request shared.world } occupies alone
        refine ⟨ordered, ?_⟩
        rcases seen with ⟨asked, marks, still⟩ | ⟨result, marks⟩
        · rw [marks]
          exact .asked c asked alone still
        · rw [marks]
          exact .ended c result waits
    | _ =>
        rw [held] at waits
        exact waits.elim
  · rw [step_answer_resting waits]
    exact ⟨orderly, .nothing rfl⟩

/-- Every step keeps the calls in order. -/
theorem step_orderly (oracle : Oracle ω) (p : Profile) (orderly : shared.Orderly) (action : Action ι) :
    (shared.step oracle p action).1.Orderly ∧
      Seen shared (shared.step oracle p action).1 (shared.step oracle p action).2 := by
  cases action with
  | touch f spares =>
      exact ⟨orderly.of_same (congrArg Option.isSome (spares shared.session)) fun _ _ => rfl,
        .nothing rfl⟩
  | call c => exact call_orderly oracle p orderly c
  | answer c => exact answer_orderly oracle p orderly c

theorem run_cons {action : Action ι} {next : Shared ι ω × List (Mark ι)}
    (stepped : shared.step oracle p action = next) (rest : List (Action ι)) :
    shared.run oracle p (action :: rest) =
      ((next.1.run oracle p rest).1, next.2 ++ (next.1.run oracle p rest).2) := by
  rw [run, stepped]

theorem run_orderly (orderly : shared.Orderly) (actions : List (Action ι)) :
    (shared.run oracle p actions).1.Orderly := by
  induction actions generalizing shared with
  | nil => exact orderly
  | cons action rest ih => exact ih (step_orderly oracle p orderly action).1

/-! ## Cycles do not interleave -/

end Shared

/-- The mark belongs to the cycle of a caller, or it is left by a call that is turned away. -/
def Mark.Within {ι : Type} (c : ι) (mark : Mark ι) : Prop :=
  (∃ request, mark = .asked c request) ∨ ∃ d, mark = .ended d (.error .cycleInFlight)

/-- From a request of a cycle on until the cycle ends, no other cycle leaves a mark. -/
def Undisturbed {ι : Type} (marks : List (Mark ι)) : Prop :=
  ∀ before c request during rest, marks = before ++ .asked c request :: (during ++ rest) →
    (∀ result, .ended c result ∉ during) → ∀ mark ∈ during, mark.Within c

namespace Shared

open Session RemoteState

variable {ι ω : Type} [DecidableEq ι] {oracle : Oracle ω} {p : Profile} {shared : Shared ι ω} {c d : ι}

/-- As long as a call that waits does not end, every mark is within its cycle. -/
theorem marks_within (orderly : shared.Orderly) (waits : (shared.calls c).Waits)
    {actions : List (Action ι)} {during rest : List (Mark ι)}
    (marks : (shared.run oracle p actions).2 = during ++ rest)
    (unended : ∀ result, .ended c result ∉ during) : ∀ mark ∈ during, mark.Within c := by
  induction actions generalizing shared during with
  | nil =>
      obtain ⟨rfl, -⟩ := List.append_eq_nil_iff.mp marks.symm
      simp
  | cons action later ih =>
      obtain ⟨ordered, seen⟩ := step_orderly oracle p orderly action
      have split : (shared.step oracle p action).2 ++
          ((shared.step oracle p action).1.run oracle p later).2 = during ++ rest := marks
      generalize (shared.step oracle p action).2 = first at seen split
      cases seen with
      | nothing calls =>
          have still : ((shared.step oracle p action).1.calls c).Waits := by rwa [calls]
          exact ih ordered still split unended
      | asked d request alone still =>
          obtain rfl := alone c waits
          cases during with
          | nil => simp
          | cons mark during =>
              obtain ⟨rfl, tail⟩ := List.cons.inj split
              have rest := ih ordered still tail fun result member =>
                unended result (List.mem_cons_of_mem _ member)
              exact List.forall_mem_cons.mpr ⟨.inl ⟨request, rfl⟩, rest⟩
      | ended d result waited =>
          obtain rfl := orderly.single c d waits waited
          cases during with
          | nil => simp
          | cons mark during =>
              obtain ⟨rfl, -⟩ := List.cons.inj split
              exact absurd List.mem_cons_self (unended result)
      | refused d resting others =>
          have apart : c ≠ d := by
            rintro rfl
            exact resting waits
          have still : ((shared.step oracle p action).1.calls c).Waits := by rwa [others c apart]
          cases during with
          | nil => simp
          | cons mark during =>
              obtain ⟨rfl, tail⟩ := List.cons.inj split
              have rest := ih ordered still tail fun result member =>
                unended result (List.mem_cons_of_mem _ member)
              exact List.forall_mem_cons.mpr ⟨.inr ⟨d, rfl⟩, rest⟩

/-- The calls that are made one after another leave their marks undisturbed. -/
theorem run_undisturbed (orderly : shared.Orderly) (actions : List (Action ι)) :
    Undisturbed (shared.run oracle p actions).2 := by
  induction actions generalizing shared with
  | nil =>
      intro before c request during rest marks
      simp [run] at marks
  | cons action later ih =>
      obtain ⟨ordered, seen⟩ := step_orderly oracle p orderly action
      intro before c request during rest marks
      have split : (shared.step oracle p action).2 ++
          ((shared.step oracle p action).1.run oracle p later).2 =
            before ++ .asked c request :: (during ++ rest) := marks
      generalize (shared.step oracle p action).2 = first at seen split
      cases seen with
      | nothing calls => exact ih ordered before c request during rest split
      | asked d asked alone still =>
          cases before with
          | nil =>
              obtain ⟨same, tail⟩ := List.cons.inj split
              cases same
              exact marks_within ordered still tail
          | cons mark before =>
              exact ih ordered before c request during rest (List.cons.inj split).2
      | ended d result waited =>
          cases before with
          | nil => cases (List.cons.inj split).1
          | cons mark before =>
              exact ih ordered before c request during rest (List.cons.inj split).2
      | refused d resting others =>
          cases before with
          | nil => cases (List.cons.inj split).1
          | cons mark before =>
              exact ih ordered before c request during rest (List.cons.inj split).2

/-! ## Calls that are turned away -/

/-- The two shared sessions differ at most in what a call that does not wait has come to. -/
structure Agree (c : ι) (left right : Shared ι ω) : Prop where
  session : left.session = right.session
  world : left.world = right.world
  calls : ∀ d ≠ c, left.calls d = right.calls d
  resting : ¬(left.calls c).Waits ∧ ¬(right.calls c).Waits ∨ left.calls c = right.calls c

theorem halted_agree {left right : Shared ι ω} (agree : Agree c left right) (d : ι)
    (call : CallState) (s : Session) : Agree c (left.halted d call s) (right.halted d call s) where
  session := rfl
  world := agree.world
  calls e apart := by
    by_cases same : e = d
    · subst same
      simp [halted]
    · simp [halted, Function.update_of_ne same, agree.calls e apart]
  resting := by
    by_cases same : c = d
    · subst same
      simp [halted]
    · simp only [halted, Function.update_of_ne same]
      exact agree.resting

theorem advance_agree {left right : Shared ι ω} (agree : Agree c left right) (d : ι)
    (run : Run Session CycleReport) :
    (advance d run left).2 = (advance d run right).2 ∧
      Agree c (advance d run left).1 (advance d run right).1 := by
  induction run with
  | returned report s => exact ⟨rfl, halted_agree agree d _ s⟩
  | failed e s => exact ⟨rfl, halted_agree agree d _ s⟩
  | noted event rest ih => exact ih
  | waiting request s resume ih => exact ⟨rfl, halted_agree agree d _ s⟩

omit [DecidableEq ι] in
theorem Agree.calls_eq {left right : Shared ι ω} (agree : Agree c left right)
    (waits : (left.calls d).Waits ∨ (right.calls d).Waits) : left.calls d = right.calls d := by
  by_cases same : d = c
  · subst same
    rcases agree.resting with ⟨first, second⟩ | equal
    · exact (waits.elim first second).elim
    · exact equal
  · exact agree.calls d same

theorem step_agree (oracle : Oracle ω) (p : Profile) {left right : Shared ι ω}
    (agree : Agree c left right) (action : Action ι) :
    (left.step oracle p action).2 = (right.step oracle p action).2 ∧
      Agree c (left.step oracle p action).1 (right.step oracle p action).1 := by
  cases action with
  | touch f spares => exact ⟨rfl, congrArg f agree.session, agree.world, agree.calls, agree.resting⟩
  | call d =>
      by_cases waits : (left.calls d).Waits ∨ (right.calls d).Waits
      · have same := agree.calls_eq waits
        rw [same, or_self] at waits
        rw [step_call_waiting waits, step_call_waiting (same ▸ waits)]
        exact ⟨rfl, agree⟩
      · obtain ⟨first, second⟩ := not_or.mp waits
        rw [step_call first, step_call second, agree.session]
        exact advance_agree agree d _
  | answer d =>
      by_cases waits : (left.calls d).Waits ∨ (right.calls d).Waits
      · have same := agree.calls_eq waits
        cases held : right.calls d with
        | waiting request resume =>
            have replied : Agree c ⟨right.session, oracle.next request right.world, left.calls⟩
                ⟨right.session, oracle.next request right.world, right.calls⟩ :=
              ⟨rfl, rfl, agree.calls, agree.resting⟩
            rw [step_answer held, step_answer (same.trans held), agree.world, agree.session]
            exact advance_agree replied d _
        | uncalled => simp [same, held, CallState.Waits] at waits
        | ended result => simp [same, held, CallState.Waits] at waits
      · obtain ⟨first, second⟩ := not_or.mp waits
        rw [step_answer_resting first, step_answer_resting second]
        exact ⟨rfl, agree⟩

theorem run_agree (oracle : Oracle ω) (p : Profile) {left right : Shared ι ω}
    (agree : Agree c left right) (actions : List (Action ι)) :
    (left.run oracle p actions).2 = (right.run oracle p actions).2 ∧
      Agree c (left.run oracle p actions).1 (right.run oracle p actions).1 := by
  induction actions generalizing left right with
  | nil => exact ⟨rfl, agree⟩
  | cons action rest ih =>
      obtain ⟨first, next⟩ := step_agree oracle p agree action
      obtain ⟨later, last⟩ := ih next
      exact ⟨congrArg₂ (· ++ ·) first later, last⟩

/-! ## A call without interruption -/

/-- A call that is answered and not interrupted takes the course of its run. -/
theorem advance_course (oracle : Oracle ω) (p : Profile) (shared : Shared ι ω) (c : ι)
    (run : Run Session CycleReport) :
    let course := run.course oracle.alone shared.world
    let begun := advance c run shared
    ∃ n, let ended := begun.1.run oracle p (List.replicate n (.answer c))
      begun.2 ++ ended.2 =
        course.exchanges.map (fun x => .asked c x.request) ++ [.ended c course.ending.result] ∧
      ended.1.session = course.ending.state ∧ ended.1.world = course.world := by
  induction run generalizing shared with
  | returned report s => exact ⟨0, rfl, rfl, rfl⟩
  | failed e s => exact ⟨0, rfl, rfl, rfl⟩
  | noted event rest ih => exact ih shared
  | waiting request s resume ih =>
      have waiting : (shared.halted c (.waiting request resume) s).calls c = .waiting request resume :=
        Function.update_self ..
      obtain ⟨n, marks, session, world⟩ := ih (oracle.reply request shared.world) s
        { shared.halted c (.waiting request resume) s with world := oracle.next request shared.world }
      refine ⟨n + 1, ?_⟩
      simp only [List.replicate_succ, advance, run_cons (step_answer waiting)]
      exact ⟨congrArg (Mark.asked c request :: ·) marks, session, world⟩

/-- However often and whenever a session is called by its callers, one cycle is in progress at a
time. Nothing comes between its requests apart from calls that are turned away; such a call changes
nothing for anybody else, whatever happens later; and once no call waits, the next one runs a cycle. -/
theorem one_cycle_at_a_time (oracle : Oracle ω) (p : Profile) {s : Session} (world : ω)
    (idle : s.isSyncing = false) (actions : List (Action ι)) :
    let reached := (opened s world : Shared ι ω).run oracle p actions
    (∀ c d, (reached.1.calls c).Waits → (reached.1.calls d).Waits → c = d) ∧
    Undisturbed reached.2 ∧
    (∀ c, ¬(reached.1.calls c).Waits → (∃ d, (reached.1.calls d).Waits) → ∀ later,
      let made := reached.1.run oracle p (.call c :: later)
      let unmade := reached.1.run oracle p later
      made.2 = .ended c (.error .cycleInFlight) :: unmade.2 ∧
      made.1.session = unmade.1.session ∧ made.1.world = unmade.1.world ∧
      ∀ d ≠ c, made.1.calls d = unmade.1.calls d) ∧
    ((∀ d, ¬(reached.1.calls d).Waits) → ∀ c, ∃ n,
      let course := (sync p reached.1.session).course oracle.alone reached.1.world
      let ran := reached.1.run oracle p (.call c :: List.replicate n (.answer c))
      (∃ x rest, course.exchanges = x :: rest ∧ x.request = indexRequest p.limit) ∧
      ran.2 = course.exchanges.map (fun x => .asked c x.request) ++ [.ended c course.ending.result] ∧
      ran.1.session = course.ending.state ∧ ran.1.world = course.world) := by
  intro reached
  have orderly : reached.1.Orderly := run_orderly (orderly_opened idle) actions
  refine ⟨orderly.single, run_undisturbed (orderly_opened idle) actions, ?_, ?_⟩
  · intro c resting waiting later
    have busy := orderly.busy.mpr waiting
    have refused := step_call_busy oracle p busy resting
    have agree : Agree c (reached.1.halted c (.ended (.error .cycleInFlight)) reached.1.session)
        reached.1 := by
      refine ⟨rfl, rfl, fun d apart => Function.update_of_ne apart .., .inl ⟨?_, resting⟩⟩
      simp [halted, CallState.Waits]
    obtain ⟨marks, same⟩ := run_agree oracle p agree later
    simp only [run_cons refused]
    exact ⟨congrArg _ marks, same.session, same.world, same.calls⟩
  · intro free c
    have idle : reached.1.session.isSyncing = false := by
      rw [Bool.eq_false_iff, ne_eq, orderly.busy]
      exact fun ⟨d, waits⟩ => free d waits
    obtain ⟨n, marks, session, same⟩ := advance_course oracle p reached.1 c (sync p reached.1.session)
    obtain ⟨inner, run, -⟩ := (takes_sync idle).mp
      (Run.takes_course oracle.alone (sync p reached.1.session) reached.1.world)
    obtain ⟨rest, exchanged, -⟩ := takes_runCycle.mp run
    refine ⟨n, ⟨_, rest, exchanged, rfl⟩, ?_⟩
    simp only [run_cons (step_call (free c))]
    exact ⟨marks, session, same⟩

/-- A second caller is turned away while the index is fetched, and the first goes on as before. -/
theorem keyless_second_call_turned_away :
    let reached : Shared Bool Unit × List (Mark Bool) :=
      (opened keylessSession ()).run keylessOracle keylessProfile [.call false]
    let made := reached.1.run keylessOracle keylessProfile [.call true, .answer false]
    let unmade := reached.1.run keylessOracle keylessProfile [.answer false]
    keylessSession.isSyncing = false ∧ made.2 = .ended true (.error .cycleInFlight) :: unmade.2 ∧
      made.1.session = unmade.1.session ∧ made.1.world = unmade.1.world ∧
      ∀ d ≠ true, made.1.calls d = unmade.1.calls d := by
  obtain ⟨-, -, turned, -⟩ := one_cycle_at_a_time keylessOracle keylessProfile ()
    (s := keylessSession) rfl [Action.call false]
  exact ⟨rfl, turned true id ⟨false, trivial⟩ [.answer false]⟩

end Shared

end SealedSync
