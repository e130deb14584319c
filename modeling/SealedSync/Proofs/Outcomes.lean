import Mathlib.Data.List.Nodup
import SealedSync.Proofs.CancelMoments
import SealedSync.Proofs.FatalReplies

/-!
# Outcomes

A cycle that delegates gives each registered synchronizer its turn, whatever became of the ones before,
and fails afterwards only where the state cannot be saved. Outcomes are reported by name. So of
synchronizers that share a name the last one decides what is told, and a failure of an earlier one is
told only if the last one fails in the same way.
-/
namespace SealedSync

/-- The turn of a synchronizer. -/
inductive Turn where
  /-- No key was obtained. -/
  | keyless (c : Synchronizer) (e : SyncError)
  /-- It was let work with a key. -/
  | handed (c : Synchronizer) (key : Key) (reply : Except SyncError Unit)

namespace Turn

def synchronizer : Turn → Synchronizer
  | .keyless c _ | .handed c .. => c

def name (turn : Turn) : String := turn.synchronizer.name

def outcome : Turn → Outcome
  | .keyless _ e => .skipped e.message
  | .handed _ _ (.ok ()) => .synced
  | .handed _ _ (.error e) => .failed e.message

/-- What is asked of the synchronizer. -/
def request? : Turn → Option Request
  | .keyless .. => none
  | .handed c key _ => some (.synchronize c key)

/-- The last turn of a name. -/
def last? (turns : List Turn) (name : String) : Option Turn :=
  (turns.filter (·.name = name)).getLast?

end Turn

/-- What is reported after some more turns. -/
def NameMap.afterTurns (outcomes : NameMap Outcome) (turns : List Turn) : NameMap Outcome :=
  turns.foldl (fun told turn => told.insert turn.name turn.outcome) outcomes

/-- The last turn of a name decides what is told of it. -/
theorem NameMap.get?_afterTurns (outcomes : NameMap Outcome) (turns : List Turn) (name : String) :
    (outcomes.afterTurns turns).get? name =
      ((Turn.last? turns name).map Turn.outcome).or (outcomes.get? name) := by
  induction turns generalizing outcomes with
  | nil => rfl
  | cons turn rest ih =>
      have later : outcomes.afterTurns (turn :: rest) =
        (outcomes.insert turn.name turn.outcome).afterTurns rest := rfl
      rw [later, ih, get?_insert]
      by_cases own : turn.name = name
      · rw [Turn.last?, Turn.last?, List.filter_cons_of_pos (by simpa using own), if_pos own.symm]
        cases found : (rest.filter (·.name = name)).getLast? with
        | none => simp [List.getLast?_eq_none_iff.mp found]
        | some last => simp [List.getLast?_cons, found]
      · rw [Turn.last?, Turn.last?, List.filter_cons_of_neg (by simpa using own), if_neg (Ne.symm own)]

namespace Session

open Program

variable {ω : Type} {env : Environment ω Session} {p : Profile} {s t last : Session}
  {before after : ω} {xs : List (Exchange Session)} {turns : List Turn}

/-- The session once a turn is recorded in the report. -/
def recording (s : Session) (turn : Turn) : Session :=
  s.withReport fun r => { r with outcomes := r.outcomes.insert turn.name turn.outcome }

/-- The turns that synchronizers are given one after another, with all that is exchanged meanwhile. -/
inductive Round (env : Environment ω Session) (p : Profile) :
    Session → ω → List Turn → List (Exchange Session) → Session → ω → Prop where
  | done (s : Session) (w : ω) : Round env p s w [] [] s w
  | keyless {s t last : Session} {w v after : ω} {xs ys : List (Exchange Session)} {turns : List Turn}
      {c : Synchronizer} {e : SyncError}
      (looked : (onKeyring (Keyring.keyFor p.keyAccess c.name)).Takes env s w xs (.failed e t) v)
      (rest : Round env p (t.recording (.keyless c e)) v turns ys last after) :
      Round env p s w (.keyless c e :: turns) (xs ++ ys) last after
  | handed {s t last : Session} {w v after : ω} {xs ys : List (Exchange Session)} {turns : List Turn}
      {c : Synchronizer} {key : Key}
      (looked : (onKeyring (Keyring.keyFor p.keyAccess c.name)).Takes env s w xs (.returned key t) v)
      (rest : Round env p ((env.touch (.synchronize c key) v t).recording
        (.handed c key (env.reply (.synchronize c key) v))) (env.next (.synchronize c key) v)
        turns ys last after) :
      Round env p s w (.handed c key (env.reply (.synchronize c key) v) :: turns)
        (xs ++ env.exchange (.synchronize c key) t v :: ys) last after

/-- One synchronizer is given its turn. -/
theorem takes_delegateOne_bind {c : Synchronizer} {next : Outcome → Program Session Unit}
    {ending : Ending Session Unit}
    (taken : (delegateOne p c >>= next).Takes env s before xs ending after) :
    (∃ e t v ys zs, (onKeyring (Keyring.keyFor p.keyAccess c.name)).Takes env s before ys
        (.failed e t) v ∧ xs = ys ++ zs ∧
      (next (Turn.keyless c e).outcome).Takes env t v zs ending after) ∨
    ∃ key t v ys zs, (onKeyring (Keyring.keyFor p.keyAccess c.name)).Takes env s before ys
        (.returned key t) v ∧ xs = ys ++ env.exchange (.synchronize c key) t v :: zs ∧
      (next (Turn.handed c key (env.reply (.synchronize c key) v)).outcome).Takes env
        (env.touch (.synchronize c key) v t) (env.next (.synchronize c key) v) zs ending after := by
  unfold delegateOne at taken
  rw [bind_assoc, takes_attempt_bind] at taken
  obtain ⟨looked, v, ys, zs, looking, continued, rfl⟩ := taken
  cases looked with
  | failed e t =>
      refine .inl ⟨e, t, v, ys, zs, looking, rfl, ?_⟩
      simp only [Ending.result, Ending.state, bind_assoc] at continued
      rw [takes_note_bind, pure_bind] at continued
      exact continued
  | returned key t =>
      simp only [Ending.result, Ending.state, bind_assoc] at continued
      obtain ⟨rest, rfl, replied⟩ := takes_request_bind.mp continued
      refine .inr ⟨key, t, v, ys, rest, looking, rfl, ?_⟩
      generalize env.reply (.synchronize c key) v = reply at replied ⊢
      match reply with
      | .ok () =>
          rw [pure_bind] at replied
          exact replied
      | .error e =>
          dsimp only at replied
          rw [bind_assoc, takes_note_bind, pure_bind] at replied
          exact replied

/-- Every synchronizer is given its turn, in order. -/
theorem takes_delegate_round {synchronizers : List Synchronizer} {ending : Ending Session Unit}
    (taken : (delegate p synchronizers).Takes env s before xs ending after) :
    ∃ turns last, Round env p s before turns xs last after ∧
      turns.map Turn.synchronizer = synchronizers ∧ ending = .returned () last := by
  induction synchronizers generalizing s before xs with
  | nil =>
      obtain ⟨rfl, rfl, rfl⟩ := takes_pure.mp taken
      exact ⟨[], s, .done s _, rfl, rfl⟩
  | cons c rest ih =>
      rcases takes_delegateOne_bind taken with
        ⟨e, t, v, ys, zs, looked, rfl, others⟩ | ⟨key, t, v, ys, zs, looked, rfl, others⟩
      · obtain ⟨turns, last, round, listed, rfl⟩ := ih (takes_modify_bind.mp others)
        exact ⟨_, last, .keyless looked round, congrArg (c :: ·) listed, rfl⟩
      · obtain ⟨turns, last, round, listed, rfl⟩ := ih (takes_modify_bind.mp others)
        exact ⟨_, last, .handed looked round, congrArg (c :: ·) listed, rfl⟩

/-- Looking up a key lets no synchronizer work. -/
theorem keyFor_lets_none_work {name : String} {ending : Ending Session Key}
    (taken : (onKeyring (Keyring.keyFor p.keyAccess name)).Takes env s before xs ending after) :
    ∀ x ∈ xs, x.request.isSynchronize = false := by
  have kept : (onKeyring (Keyring.keyFor p.keyAccess name)).Keeps (fun _ => True)
      fun r => r.isSynchronize = false :=
    keeps_onKeyring (Keyring.keeps_keyFor (by rfl) name) fun _ _ _ => trivial
  exact fun x member => ((kept.takes trivial (fun _ _ _ _ => trivial) taken).1 x member).2.1

theorem filter_isSynchronize_eq_nil (none : ∀ x ∈ xs, x.request.isSynchronize = false) :
    (xs.map (·.request)).filter Request.isSynchronize = [] := by
  simpa [List.filter_eq_nil_iff] using none

/-- Those who got a key are asked to work, once each and in order, and nobody else is. -/
theorem Round.requests (round : Round env p s before turns xs last after) :
    (xs.map (·.request)).filter Request.isSynchronize = turns.filterMap Turn.request? := by
  induction round with
  | done => rfl
  | keyless looked rest ih =>
      rw [List.map_append, List.filter_append, filter_isSynchronize_eq_nil (keyFor_lets_none_work looked),
        ih]
      rfl
  | handed looked rest ih =>
      rw [List.map_append, List.filter_append, filter_isSynchronize_eq_nil (keyFor_lets_none_work looked),
        List.map_cons, List.filter_cons_of_pos (by rfl), ih]
      rfl

/-- Nothing is told yet in the report of the running cycle. -/
def Untold (s : Session) : Prop := ∃ r, s.cycle = some r ∧ r.outcomes = .empty

theorem untold_withReport {f : CycleReport → CycleReport} (kept : ∀ r, (f r).outcomes = r.outcomes)
    (untold : Untold s) : Untold (s.withReport f) := by
  obtain ⟨r, running, nothing⟩ := untold
  exact ⟨f r, by simp [withReport, running], (kept r).trans nothing⟩

section Bystanding

variable (bystanding : Bystanding env)

include bystanding

theorem keyFor_keeps_report {name : String} {ending : Ending Session Key}
    (taken : (onKeyring (Keyring.keyFor p.keyAccess name)).Takes env s before xs ending after) :
    ending.state.cycle = s.cycle := by
  have kept : (onKeyring (Keyring.keyFor p.keyAccess name)).Keeps (fun u => u.cycle = s.cycle)
      fun _ => True :=
    keeps_onKeyring (Keyring.keeps_keyFor trivial name) fun _ _ same => same
  exact (kept.takes rfl (fun r w u same => (bystanding.cycle r w u).trans same) taken).2

/-- After a round the report holds the outcomes of its turns, and is otherwise as it was. -/
theorem Round.cycle (round : Round env p s before turns xs last after) :
    last.cycle = s.cycle.map fun r => { r with outcomes := r.outcomes.afterTurns turns } := by
  induction round with
  | done s w => exact (congrFun Option.map_id s.cycle).symm
  | keyless looked rest ih =>
      have same : _ = _ := keyFor_keeps_report bystanding looked
      rw [ih, recording, withReport, ← same, Option.map_map]
      rfl
  | handed looked rest ih =>
      have same : _ = _ := keyFor_keeps_report bystanding looked
      rw [ih, recording, withReport, bystanding.cycle, ← same, Option.map_map]
      rfl

/-- Until it delegates, a cycle tells nothing of synchronizers. -/
theorem approach_untold {ending : Ending Session (CollectionIndex × GlobalMetadata)}
    (taken : (approach p).Takes env s.starting before xs ending after) : Untold ending.state := by
  have preparatory : Preparatory Untold := by
    constructor
    case keyring => exact fun _ _ untold => untold
    case records => exact fun _ untold => untold
    case report => exact fun _ _ kept untold => untold_withReport (fun r => (kept r).2) untold
    case entering => exact fun _ _ _ untold => untold_withReport (fun _ => rfl) untold
    case counting => exact fun _ _ untold => untold
    case keyed => exact fun _ untold => untold
  have kept : (approach p).Keeps Untold fun _ => True := preparatory.keeps_approach fun _ _ => trivial
  have others (r : Request) (w : ω) (u : Session) (untold : Untold u) : Untold (env.touch r w u) := by
    rw [Untold, bystanding.cycle]
    exact untold
  exact (kept.takes ⟨_, rfl, rfl⟩ others taken).2

end Bystanding

/-! ## The end of a cycle -/

theorem save_failed {σ : Type} {env : Environment ω σ} {s u : σ} {xs : List (Exchange σ)}
    {file : StateFile} {state : LocalState} {e : SyncError}
    (taken : (StateFile.save file state).Takes env s before xs (.failed e u) after) :
    ∃ text, e = .localState text := by
  cases file with
  | none => cases (takes_pure.mp taken).2.1
  | some path =>
      obtain ⟨rest, -, written⟩ := takes_request_bind.mp taken
      split at written
      · obtain ⟨-, same, -⟩ := takes_fail.mp written
        exact ⟨_, (Ending.failed.inj same).1⟩
      · obtain ⟨rest, -, moved⟩ := takes_request_bind.mp written
        split at moved
        · obtain ⟨-, same, -⟩ := takes_fail.mp moved
          exact ⟨_, (Ending.failed.inj same).1⟩
        · cases (takes_pure.mp moved).2.1

/-- A commit fails only where the state cannot be saved. -/
theorem commit_failed {index : CollectionIndex} {m : GlobalMetadata} {e : SyncError} {u : Session}
    (taken : (commit p index m).Takes env s before xs (.failed e u) after) :
    ∃ text, e = .localState text := by
  obtain ⟨rest, -, saving⟩ := takes_request_bind.mp (takes_report_bind.mp taken)
  obtain ⟨saved, _, _, _, saved', -, recording⟩ := saving.split
  cases saved with
  | failed e' u' =>
      obtain ⟨-, same, -⟩ := recording
      obtain ⟨rfl, -⟩ := Ending.failed.inj same
      exact save_failed saved'
  | returned _ u' =>
      obtain ⟨-, impossible, -⟩ := takes_modify.mp (takes_modify_bind.mp recording)
      cases impossible

/-- A commit lets no synchronizer work and tells nothing new of them. -/
theorem commit_told (bystanding : Bystanding env) {index : CollectionIndex} {m : GlobalMetadata}
    {ending : Ending Session Unit}
    (taken : (commit p index m).Takes env s before xs ending after) :
    (∀ x ∈ xs, x.request.isSynchronize = false) ∧
      ending.state.cycle.map (·.outcomes) = s.cycle.map (·.outcomes) := by
  let kind (u : Session) : Prop := u.cycle.map (·.outcomes) = s.cycle.map (·.outcomes)
  have others (r : Request) (w : ω) (u : Session) (same : kind u) : kind (env.touch r w u) := by
    show Option.map _ (env.touch r w u).cycle = _
    rw [bystanding.cycle]
    exact same
  have saving (r : Request) (file : r.isFileWrite = true) : r.isSynchronize = false := by
    cases r with
    | synchronize c key => cases file
    | _ => rfl
  have naming (u : Session) (same : kind u) :
      kind (u.withReport fun r => { r with syncId := some m.syncId }) := by
    show Option.map _ (u.cycle.map _) = _
    rw [Option.map_map]
    exact same
  have kept : (commit p index m).Keeps kind fun r => r.isSynchronize = false :=
    .bind (.bind .get fun _ => .pure _) fun r => .bind (.request rfl) fun now =>
      .bind (StateFile.sustains_save (stable_leaving kind) saving _ _).keeps fun _ =>
        .bind (.modify fun _ same => same) fun _ => .modify naming
  obtain ⟨exchanged, last⟩ := kept.takes rfl others taken
  exact ⟨fun x member => (exchanged x member).2.1, last⟩

/-- From the first turn on: each synchronizer has its turn, then the cycle commits, and the report holds the
outcomes of the turns. -/
theorem takes_handOver_told (bystanding : Bystanding env) {index : CollectionIndex} {m : GlobalMetadata}
    {ending : Ending Session Unit} (untold : Untold s)
    (taken : (handOver p index m).Takes env s before xs ending after) :
    ∃ turns last v middle rest, xs = middle ++ rest ∧
      Round env p (s.entering .delegating) before turns middle last v ∧
        turns.map Turn.synchronizer = s.synchronizers ∧ (∀ x ∈ rest, x.request.isSynchronize = false) ∧
          ending.state.cycle.map (·.outcomes) = some (NameMap.empty.afterTurns turns) ∧
            ∀ e u, ending = .failed e u → ∃ text, e = .localState text := by
  unfold handOver at taken
  rw [takes_enter_bind, takes_get_bind] at taken
  obtain ⟨_, v, middle, rest, delegating, rfl, committing⟩ := Program.Takes.split taken
  obtain ⟨turns, last, round, listed, rfl⟩ := takes_delegate_round delegating
  obtain ⟨unasked, told⟩ := commit_told bystanding committing
  refine ⟨turns, last, v, middle, rest, rfl, round, listed, unasked, told.trans ?_, ?_⟩
  · obtain ⟨r, running, nothing⟩ := untold
    show last.cycle.map (·.outcomes) = _
    rw [round.cycle bystanding, entering, withReport, running, ← nothing]
    rfl
  · rintro e u rfl
    exact commit_failed committing

theorem closed_failed {inner : Ending Session Unit} {e : SyncError} {u : Session}
    (failed : closed inner = .failed e u) : ∃ v, inner = .failed e v := by
  cases inner with
  | returned _ v => cases failed
  | failed e' v => exact ⟨v, congrArg (Ending.failed · v) (Ending.failed.inj failed).1⟩

/-- The report that is returned tells what stood in it when the cycle ended. -/
theorem closed_returned_told {inner : Ending Session Unit} {outcomes : NameMap Outcome} {r : CycleReport}
    {u : Session} (told : inner.state.cycle.map (·.outcomes) = some outcomes)
    (returned : closed inner = .returned r u) : r.outcomes = outcomes := by
  cases inner with
  | failed e v => cases returned
  | returned _ v =>
      obtain ⟨ended, running, same⟩ := Option.map_eq_some_iff.mp told
      have running : v.cycle = some ended := running
      obtain ⟨rfl, -⟩ := Ending.returned.inj returned
      rw [entering, withReport, running]
      exact same

end Session

/-! ## What is lost -/

/-- What is reported loses nothing of the turns: a failure is told with its text, a missing key too, and
where success is told all of that name have succeeded. -/
structure Lossless (turns : List Turn) (outcomes : NameMap Outcome) : Prop where
  failures : ∀ c key e, .handed c key (.error e) ∈ turns →
    outcomes.get? c.name = some (.failed e.message)
  skips : ∀ c e, .keyless c e ∈ turns → ∃ reason, outcomes.get? c.name = some (.skipped reason)
  successes : ∀ name, outcomes.get? name = some .synced →
    ∀ turn ∈ turns, turn.name = name → turn.outcome = .synced

/-- The outcome of a turn says what there is to say of an earlier one of the same name. -/
def Turn.Covers (last : Turn) : Turn → Prop
  | .keyless .. => ∃ reason, last.outcome = .skipped reason
  | .handed _ _ (.error e) => last.outcome = .failed e.message
  | .handed _ _ (.ok ()) => True

/-- The last turn of each name covers the others. -/
def Turn.Concordant (turns : List Turn) : Prop :=
  ∀ turn ∈ turns, ∀ last, Turn.last? turns turn.name = some last → last.Covers turn

theorem Turn.last?_of_mem {turns : List Turn} {turn : Turn} (member : turn ∈ turns) :
    ∃ last, Turn.last? turns turn.name = some last := by
  have listed : turn ∈ turns.filter (·.name = turn.name) := by simpa using member
  exact Option.isSome_iff_exists.mp (List.getLast?_isSome.mpr (List.ne_nil_of_mem listed))

/-- Nothing is lost where names are not shared. -/
theorem Turn.concordant_of_nodup {turns : List Turn} (distinct : (turns.map Turn.name).Nodup) :
    Turn.Concordant turns := by
  intro turn member last found
  have listed : last ∈ turns ∧ last.name = turn.name := by
    simpa using List.mem_of_getLast? found
  obtain rfl : last = turn := List.inj_on_of_nodup_map distinct listed.1 member listed.2
  match last with
  | .keyless _ e => exact ⟨_, rfl⟩
  | .handed _ _ (.error e) => rfl
  | .handed _ _ (.ok ()) => trivial

/-- Where the last turn of a name decides what is told, nothing is lost just if it covers the others. -/
theorem lossless_iff {turns : List Turn} {outcomes : NameMap Outcome}
    (told : ∀ name, outcomes.get? name = (Turn.last? turns name).map Turn.outcome) :
    Lossless turns outcomes ↔ Turn.Concordant turns := by
  have toldLast {turn last : Turn} (found : Turn.last? turns turn.name = some last) :
      outcomes.get? turn.name = some last.outcome := by rw [told, found]; rfl
  constructor
  · intro lossless turn member last found
    have said := toldLast found
    match turn with
    | .keyless c e =>
        obtain ⟨reason, skipped⟩ := lossless.skips c e member
        exact ⟨reason, Option.some.inj (said.symm.trans skipped)⟩
    | .handed c key (.error e) => exact Option.some.inj (said.symm.trans (lossless.failures c key e member))
    | .handed _ _ (.ok ()) => trivial
  · intro concordant
    constructor
    case failures =>
      intro c key e member
      obtain ⟨last, found⟩ := Turn.last?_of_mem member
      exact (toldLast found).trans (congrArg some (concordant _ member last found))
    case skips =>
      intro c e member
      obtain ⟨last, found⟩ := Turn.last?_of_mem member
      obtain ⟨reason, skipped⟩ := concordant _ member last found
      exact ⟨reason, (toldLast found).trans (congrArg some skipped)⟩
    case successes =>
      rintro name synced turn member rfl
      obtain ⟨last, found⟩ := Turn.last?_of_mem member
      have succeeded : last.outcome = .synced := Option.some.inj ((toldLast found).symm.trans synced)
      have covers := concordant turn member last found
      match turn with
      | .keyless _ e =>
          obtain ⟨reason, skipped⟩ := covers
          cases succeeded.symm.trans skipped
      | .handed _ _ (.error e) => cases succeeded.symm.trans covers
      | .handed _ _ (.ok ()) => rfl

/-! ## Whole cycles -/

namespace Session

open Program

variable {ω : Type} {env : Environment ω Session} {p : Profile} {s : Session} {before after : ω}
  {xs : List (Exchange Session)} {ending : Ending Session CycleReport}

/-- The turns that a cycle gives to the synchronizers that are registered once it has approached them: one
each, in order. -/
structure GivesTurns (env : Environment ω Session) (p : Profile) (s : Session) (before : ω)
    (xs : List (Exchange Session)) (turns : List Turn) : Prop where
  round : ∃ head middle tail found t w last v, xs = head ++ middle ++ tail ∧
    (approach p).Takes env s.starting before head (.returned found t) w ∧
      Round env p (t.entering .delegating) w turns middle last v ∧
        turns.map Turn.synchronizer = t.synchronizers
  /-- Those who got a key are asked to work, once each, and nobody else is. -/
  requests : (xs.map (·.request)).filter Request.isSynchronize = turns.filterMap Turn.request?

/-- A cycle that delegates gives a turn to each synchronizer, fails only where the state cannot be saved,
and otherwise tells of each name what became of the last turn. -/
theorem sync_gives_turns (bystanding : Bystanding env)
    (taken : (sync p).Takes env s before xs ending after) (delegates : Delegates xs) :
    ∃ turns, GivesTurns env p s before xs turns ∧ (∀ e u, ending = .failed e u → ∃ text, e = .localState text) ∧
      ∀ r u, ending = .returned r u →
        ∀ name, r.outcomes.get? name = (Turn.last? turns name).map Turn.outcome := by
  obtain ⟨x, member, late⟩ := delegates
  cases busy : s.isSyncing with
  | true =>
      obtain ⟨rfl, -, -⟩ := (takes_sync_refused busy).mp taken
      cases member
  | false =>
      obtain ⟨inner, run, rfl⟩ := (takes_sync busy).mp taken
      rw [runCycle_eq_approach] at run
      obtain ⟨reached, world, head, tail, approaching, rfl, continued⟩ := run.split
      obtain ⟨prepared, preparing⟩ := approach_preparing bystanding approaching
      have untold := approach_untold bystanding approaching
      cases reached with
      | failed e u =>
          obtain ⟨rfl, -, -⟩ := continued
          rw [List.append_nil] at member
          exact absurd late (prepared x member).1.early
      | returned found t =>
          have handing : (handOver p found.1 found.2).Takes env t world tail inner after := continued
          obtain ⟨turns, last, v, middle, rest, rfl, round, listed, unasked, told, failing⟩ :=
            takes_handOver_told bystanding untold handing
          have early : ∀ x ∈ head, x.request.isSynchronize = false := fun x member =>
            Request.isSynchronize_eq_false_of_not_isLate (prepared x member).2
          refine ⟨turns, ⟨⟨head, middle, rest, found, t, world, last, v, (List.append_assoc ..).symm,
            approaching, round, listed⟩, ?_⟩, ?_, ?_⟩
          · rw [List.map_append, List.filter_append, List.map_append, List.filter_append,
              filter_isSynchronize_eq_nil early, filter_isSynchronize_eq_nil unasked, round.requests,
              List.nil_append, List.append_nil]
          · intro e u failed
            obtain ⟨_, ended⟩ := closed_failed failed
            exact failing _ _ ended
          · intro r u returned name
            rw [closed_returned_told told returned, NameMap.get?_afterTurns]
            exact Option.or_none

/-- Whatever becomes of the synchronizers, a cycle that delegates gives a turn to each, asks those to work
that got a key, and fails only where the state cannot be saved. Its report tells of each name what became
of the last turn, and so it loses nothing if and only if the last turn of each name covers the others. -/
theorem report_lossless_iff (bystanding : Bystanding env)
    (taken : (sync p).Takes env s before xs ending after) (delegates : Delegates xs) :
    ∃ turns, GivesTurns env p s before xs turns ∧ (∀ e u, ending = .failed e u → ∃ text, e = .localState text) ∧
      ((turns.map Turn.name).Nodup → Turn.Concordant turns) ∧
      ∀ r u, ending = .returned r u →
        (∀ name, r.outcomes.get? name = (Turn.last? turns name).map Turn.outcome) ∧
          (Lossless turns r.outcomes ↔ Turn.Concordant turns) := by
  obtain ⟨turns, given, failing, told⟩ := sync_gives_turns bystanding taken delegates
  exact ⟨turns, given, failing, Turn.concordant_of_nodup, fun r u returned =>
    ⟨told r u returned, lossless_iff (told r u returned)⟩⟩

/-! ## A failure that is lost -/

/-- A session that approaches its synchronizers has its keys at hand. -/
theorem approach_loads {found : CollectionIndex × GlobalMetadata} {t : Session}
    (taken : (approach p).Takes env s before xs (.returned found t) after) :
    ∃ bundle, t.book.keyring.bundle = some bundle := by
  obtain ⟨_, u, _, _, _, preparing, checking, -⟩ := takes_bind_returned.mp taken
  obtain ⟨_, v, _, _, _, checked, stopping, -⟩ := takes_bind_returned.mp checking
  obtain ⟨bundle, held⟩ := Option.isSome_iff_exists.mp ((prepare_loads p).returned preparing)
  rw [Program.Takes, checkKeys_run_loaded held, Run.takes_returned] at checked
  obtain ⟨-, same, -⟩ := checked
  cases same
  rw [takes_checkpoint_bind] at stopping
  split at stopping
  · cases stopping.2.1
  · obtain ⟨-, same, -⟩ := takes_pure.mp stopping
    cases same
    exact ⟨bundle, held⟩

/-- Nobody is registered while a session is left alone. -/
theorem approach_alone {oracle : Oracle ω} {ending : Ending Session (CollectionIndex × GlobalMetadata)}
    (taken : (approach p).Takes oracle.alone s before xs ending after) :
    ending.state.synchronizers = s.synchronizers := by
  let kind (u : Session) : Prop := u.synchronizers = s.synchronizers
  have preparatory : Preparatory kind := by constructor <;> intros <;> assumption
  have kept : (approach p).Keeps kind fun _ => True := preparatory.keeps_approach fun _ _ => trivial
  exact (kept.takes rfl (fun _ _ _ same => same) taken).2

/-- With its keys at hand, and left alone, a session has a key for every synchronizer. -/
theorem Round.turns_of_loaded {oracle : Oracle ω} {bundle : KeyBundle} {turns : List Turn}
    {last : Session} (round : Round oracle.alone p s before turns xs last after)
    (held : s.book.keyring.bundle = some bundle) : ∀ turn ∈ turns, ∃ v,
      turn = .handed turn.synchronizer (bundle.keyFor turn.name)
        (oracle.reply (.synchronize turn.synchronizer (bundle.keyFor turn.name)) v) := by
  induction round with
  | done => exact nofun
  | keyless looked rest ih =>
      rw [Program.Takes, keyFor_run_loaded held, Run.takes_returned] at looked
      cases looked.2.1
  | @handed s t _ _ v _ _ _ _ c key looked rest ih =>
      rw [Program.Takes, keyFor_run_loaded held, Run.takes_returned] at looked
      obtain ⟨-, same, -⟩ := looked
      obtain ⟨rfl, rfl⟩ := Ending.returned.inj same
      intro turn member
      rcases List.mem_cons.mp member with rfl | member
      · exact ⟨v, rfl⟩
      · exact ih held turn member

end Session

/-- Some synchronizers fail. -/
def Oracle.failing {ω : Type} (oracle : Oracle ω) (fault? : Synchronizer → Option SyncError) :
    Oracle ω where
  reply r w :=
    match r with
    | .synchronize c key =>
        match fault? c with
        | some e => .error e
        | none => oracle.reply (.synchronize c key) w
    | r => oracle.reply r w
  next := oracle.next

theorem Oracle.faithful_failing {ω : Type} {oracle : Oracle ω} {content : ω → Storage}
    (faithful : oracle.Faithful content) (fault? : Synchronizer → Option SyncError) :
    (oracle.failing fault?).Faithful content :=
  { faithful with }

namespace Session

/-- A cycle of a session that knows no epoch delegates and returns if the server obliges. -/
theorem sync_newcomer {ω : Type} {oracle : Oracle ω} {content : ω → Storage} {p : Profile} {key : Key}
    {s : Session} {before after : ω} {xs : List (Exchange Session)}
    {ending : Ending Session CycleReport} {reason : FreshStartReason}
    (faithful : oracle.Faithful content) (fits : p.config.Fits) (usable : p.sealingKey = .ok key)
    (idle : s.isSyncing = false) (unknown : s.book.localState.lastSyncId = none)
    (diverged : (content before).evaluated p.config.storageVersion = .ok (.diverged reason))
    (taken : (sync p).Takes oracle.alone s before xs ending after) :
    Delegates xs ∧ ∃ r last, ending = .returned r last := by
  obtain ⟨reads, rest, inner, -, ended, -, renewed⟩ :=
    sync_diverged faithful fits usable idle diverged taken
  obtain ⟨r, last, m, closing, settled, -⟩ := renewed.settles rfl
  obtain rfl := ended.trans closing
  refine ⟨?_, r, last, rfl⟩
  have recorded : last.book.localState.lastSyncId = some m.syncId := settled.known
  rcases sync_records (bystanding_alone oracle) idle taken with same | dropped | ⟨a, delegates, -⟩
  · cases unknown.symm.trans (same.symm.trans recorded)
  · cases dropped.symm.trans recorded
  · exact delegates

open Simulation

/-- A new session with two synchronizers of one name. -/
def twins : Session :=
  { ofLocalState .empty with synchronizers := [⟨"tabs", 0⟩, ⟨"tabs", 1⟩] }

/-- The first of them fails. -/
def firstFails : Oracle Memory :=
  Memory.oracle.failing fun c => if c.place = 0 then some (.unreachable "down") else none

def twinsCourse : Course Memory Session CycleReport :=
  (sync Memory.profile twins).course firstFails.alone Memory.blank

theorem twinsCourse_returns :
    Delegates twinsCourse.exchanges ∧ ∃ r last, twinsCourse.ending = .returned r last :=
  sync_newcomer (Oracle.faithful_failing Memory.oracle_faithful _) Memory.profile_fits rfl rfl rfl
    (by rfl : (Memory.storage Memory.blank).evaluated _ = .ok (.diverged .missingMetadata))
    (Run.takes_course firstFails.alone (sync Memory.profile twins) Memory.blank)

/-- The first of them has failed, and of both it is told that they succeeded. -/
theorem twinsCourse_loses : ∃ turns r last,
    GivesTurns firstFails.alone Memory.profile twins Memory.blank twinsCourse.exchanges turns ∧
      twinsCourse.ending = .returned r last ∧ r.outcomes.get? "tabs" = some .synced ∧
        ∃ key, .handed ⟨"tabs", 0⟩ key (.error (.unreachable "down")) ∈ turns := by
  obtain ⟨delegates, r, last, ended⟩ := twinsCourse_returns
  obtain ⟨turns, given, -, told⟩ := sync_gives_turns (bystanding_alone firstFails)
    (Run.takes_course firstFails.alone (sync Memory.profile twins) Memory.blank) delegates
  obtain ⟨_, _, _, _, t, _, _, _, -, approaching, round, listed⟩ := given.round
  obtain ⟨bundle, held⟩ := approach_loads approaching
  have registered : t.synchronizers = twins.synchronizers := approach_alone approaching
  have handed := round.turns_of_loaded held
  rw [registered] at listed
  obtain ⟨first, others, rfl, firstIs, more⟩ := List.map_eq_cons_iff.mp listed
  obtain ⟨second, _, rfl, secondIs, nobody⟩ := List.map_eq_cons_iff.mp more
  obtain rfl := List.map_eq_nil_iff.mp nobody
  obtain ⟨_, firstTurn⟩ := handed first (by simp)
  obtain ⟨_, secondTurn⟩ := handed second (by simp)
  rw [firstIs] at firstTurn
  rw [secondIs] at secondTurn
  refine ⟨_, r, last, given, ended, ?_, bundle.keyFor first.name, ?_⟩
  · rw [told r last ended, firstTurn, secondTurn]
    rfl
  · exact List.mem_cons.mpr (.inl firstTurn.symm)

/-- It is not so that a report loses nothing. -/
theorem shared_name_loses_failure :
    ¬∀ (oracle : Oracle Memory) (p : Profile) (s : Session) (before : Memory) (turns : List Turn)
      (r : CycleReport) (last : Session),
      GivesTurns oracle.alone p s before ((sync p s).course oracle.alone before).exchanges turns →
      ((sync p s).course oracle.alone before).ending = .returned r last → Lossless turns r.outcomes := by
  intro always
  obtain ⟨turns, r, last, given, ended, synced, key, failed⟩ := twinsCourse_loses
  have lossless := always firstFails Memory.profile twins Memory.blank turns r last given ended
  cases synced.symm.trans (lossless.failures _ _ _ failed)

theorem twins_report_lossless_iff : Delegates twinsCourse.exchanges ∧
    ∃ turns, GivesTurns firstFails.alone Memory.profile twins Memory.blank twinsCourse.exchanges turns ∧
      ∃ r last, twinsCourse.ending = .returned r last ∧
        (Lossless turns r.outcomes ↔ Turn.Concordant turns) := by
  obtain ⟨delegates, r, last, ended⟩ := twinsCourse_returns
  obtain ⟨turns, given, -, -, told⟩ := report_lossless_iff (bystanding_alone firstFails)
    (Run.takes_course firstFails.alone (sync Memory.profile twins) Memory.blank) delegates
  exact ⟨delegates, turns, given, r, last, ended, (told r last ended).2⟩

end Session

end SealedSync
