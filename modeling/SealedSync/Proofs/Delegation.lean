import SealedSync.Proofs.Republishing

/-!
# The end of a cycle

Once the keys are at hand, each synchronizer is handed its key in turn, whatever becomes of the
others, and then the epoch is recorded.
-/
namespace SealedSync

namespace Session

variable {ω : Type} {oracle : Oracle ω} {before after : ω} {exchanges : List (Exchange Session)}
  {p : Profile} {s : Session} {bundle : KeyBundle}

theorem keyFor_run_loaded (held : s.book.keyring.bundle = some bundle) (collection : String) :
    onKeyring (Keyring.keyFor p.keyAccess collection) s =
      .returned (bundle.keyFor collection) s := by
  rw [onKeyring_eq_zoom]
  show Run.zoom _ _ s (Keyring.keyFor p.keyAccess collection s.book.keyring) = _
  rw [Keyring.keyFor_run_loaded held]
  rfl

theorem checkKeys_run_loaded (held : s.book.keyring.bundle = some bundle) (names : List String) :
    checkKeys p names s = .returned () s := by
  induction names with
  | nil => rfl
  | cons name rest ih =>
      show (onKeyring (Keyring.keyFor p.keyAccess name) s).bind (fun _ => checkKeys p rest) = _
      rw [keyFor_run_loaded held]
      exact ih

/-- The request that hands a synchronizer its key from a bundle. -/
def delegation (bundle : KeyBundle) (c : Synchronizer) : Request :=
  .synchronize c (bundle.keyFor c.name)

/-- With its keys at hand a synchronizer is asked to work at once. -/
theorem delegateOne_run_loaded (held : s.book.keyring.bundle = some bundle) (c : Synchronizer) :
    delegateOne p c s = .waiting (delegation bundle c) s fun reply s =>
      match reply with
      | .ok () => .returned .synced s
      | .error e => .noted (.synchronizerFailed c.name e) (.returned (.failed e.message) s) := by
  show Run.bind (onKeyring (Keyring.keyFor p.keyAccess c.name) s).attempt _ = _
  rw [keyFor_run_loaded held]
  refine congrArg (Run.waiting (delegation bundle c) s) (funext fun reply => funext fun s => ?_)
  cases reply <;> rfl

theorem takes_delegateOne (held : s.book.keyring.bundle = some bundle) {c : Synchronizer}
    {ending : Ending Session Outcome}
    (taken : (delegateOne p c).Takes oracle.alone s before exchanges ending after) :
    exchanges.map (·.request) = [delegation bundle c] ∧
      ∃ outcome, ending = .returned outcome s := by
  rw [Program.Takes, delegateOne_run_loaded held, Run.takes_waiting] at taken
  obtain ⟨rest, rfl, told⟩ := taken
  simp only [Oracle.toOracle_alone, Oracle.touch_alone] at told
  split at told
  · obtain ⟨rfl, rfl, -⟩ := Run.takes_returned.mp told
    exact ⟨rfl, _, rfl⟩
  · obtain ⟨rfl, rfl, -⟩ := Run.takes_returned.mp (Run.takes_noted.mp told)
    exact ⟨rfl, _, rfl⟩

/-- Every synchronizer is handed its key, in turn, and only outcomes are noted. -/
theorem takes_delegate (held : s.book.keyring.bundle = some bundle)
    {synchronizers : List Synchronizer} {ending : Ending Session Unit}
    (taken : (delegate p synchronizers).Takes oracle.alone s before exchanges ending after) :
    exchanges.map (·.request) = synchronizers.map (delegation bundle) ∧
      ∃ told : NameMap Outcome → NameMap Outcome, ending = .returned () (s.withReport fun r =>
        { r with outcomes := told r.outcomes }) := by
  induction synchronizers generalizing s before exchanges with
  | nil =>
      obtain ⟨rfl, rfl, -⟩ := Program.takes_pure.mp taken
      refine ⟨rfl, id, ?_⟩
      cases s with
      | mk book keyDerived synchronizers cancelRequested cycle freshStarts => cases cycle <;> rfl
  | cons c rest ih =>
      obtain ⟨inner, middle, head, tail, first, rfl, others⟩ := Program.Takes.split taken
      obtain ⟨request, outcome, rfl⟩ := takes_delegateOne held first
      obtain ⟨requests, told, rfl⟩ := ih (s := s.withReport _) held others
      refine ⟨?_, fun outcomes => told (outcomes.insert c.name outcome), ?_⟩
      · rw [List.map_append, request, requests]
        rfl
      · unfold withReport
        simp only [Option.map_map]
        rfl

/-- Why the running cycle began a fresh start, if it did. -/
def freshStartReason (s : Session) : Option FreshStartReason := (s.cycle.getD .start).freshStart

/-- The running cycle saw a new epoch. -/
def sawNewEpoch (s : Session) : Bool := (s.cycle.getD .start).epochChanged

section Report

variable {f : CycleReport → CycleReport}

theorem freshStartReason_withReport (kept : ∀ r, (f r).freshStart = r.freshStart) (s : Session) :
    (s.withReport f).freshStartReason = s.freshStartReason := by
  unfold freshStartReason withReport
  cases s.cycle with
  | none => rfl
  | some r => exact kept r

theorem sawNewEpoch_withReport (kept : ∀ r, (f r).epochChanged = r.epochChanged) (s : Session) :
    (s.withReport f).sawNewEpoch = s.sawNewEpoch := by
  unfold sawNewEpoch withReport
  cases s.cycle with
  | none => rfl
  | some r => exact kept r

end Report

/-- In the last session the cycle has handed out the keys of a bundle and recorded an epoch. -/
structure Delivered (s : Session) (k : Keyring) (m : GlobalMetadata) (bundle : KeyBundle)
    (exchanges : List (Exchange Session)) (last : Session) : Prop where
  handed : ∃ saves, exchanges.map (·.request) =
    s.synchronizers.map (delegation bundle) ++ .clock :: saves ∧ ∀ r ∈ saves, r.isFileWrite = true
  keyring : last.book.keyring = k
  epoch : last.book.localState.lastSyncId = some m.syncId
  freshStart : last.freshStartReason = s.freshStartReason
  epochChanged : last.sawNewEpoch = s.sawNewEpoch
  named : s.isSyncing = true → (last.cycle.getD .start).syncId = some m.syncId

theorem Delivered.stays_local {s last : Session} {k : Keyring} {m : GlobalMetadata}
    {bundle : KeyBundle} {exchanges : List (Exchange Session)}
    (delivered : Delivered s k m bundle exchanges last) :
    ∀ x ∈ exchanges, x.request.isRemote = false := by
  obtain ⟨saves, requests, files⟩ := delivered.handed
  have unasked : ∀ r ∈ s.synchronizers.map (delegation bundle) ++ .clock :: saves,
      r.isRemote = false := by
    intro r listed
    rcases List.mem_append.mp listed with handed | closing
    · obtain ⟨c, -, rfl⟩ := List.mem_map.mp handed
      rfl
    · rcases List.mem_cons.mp closing with rfl | saved
      · rfl
      · exact Request.isRemote_eq_false_of_isFileWrite (files r saved)
  exact Exchange.forall_of_requests requests unasked

/-- Entering a state and changing the keyring make no difference to what is delivered. -/
theorem Delivered.of_entering {s last : Session} {state : CycleState} {keyring k : Keyring}
    {m : GlobalMetadata} {bundle : KeyBundle} {exchanges : List (Exchange Session)}
    (delivered : Delivered ((s.entering state).withKeyring keyring) k m bundle exchanges last) :
    Delivered s k m bundle exchanges last where
  handed := delivered.handed
  keyring := delivered.keyring
  epoch := delivered.epoch
  freshStart := delivered.freshStart.trans (freshStartReason_withReport (by intros; rfl) s)
  epochChanged := delivered.epochChanged.trans (sawNewEpoch_withReport (by intros; rfl) s)
  named := fun running => delivered.named ((isSyncing_withReport s).trans running)

theorem takes_commit (obliging : oracle.Obliging) {index : CollectionIndex} {m : GlobalMetadata}
    {ending : Ending Session Unit}
    (taken : (commit p index m).Takes oracle.alone s before exchanges ending after) :
    (∃ saves, exchanges.map (·.request) = .clock :: saves ∧ ∀ r ∈ saves, r.isFileWrite = true) ∧
      ∃ localState, localState.lastSyncId = some m.syncId ∧ ending = .returned ()
        ((s.withBook { s.book with localState }).withReport fun r =>
          { r with syncId := some m.syncId }) := by
  unfold commit at taken
  rw [takes_report_bind] at taken
  obtain ⟨rest, rfl, saving⟩ := Program.takes_request_bind.mp taken
  obtain ⟨inner, middle, head, tail, saved, rfl, recording⟩ := saving.split
  obtain ⟨files, result, rfl, written⟩ := StateFile.takes_save saved
  obtain rfl := written obliging
  obtain ⟨rfl, rfl, -⟩ := Program.takes_modify.mp (Program.takes_modify_bind.mp recording)
  refine ⟨⟨head.map (·.request), by simp [Environment.exchange], ?_⟩, _, rfl, rfl⟩
  intro r listed
  obtain ⟨x, member, rfl⟩ := List.mem_map.mp listed
  exact files x member

/-- With its keys at hand, and unless it is asked to stop, a cycle hands them out. -/
theorem takes_conclude_loaded {env : Environment ω Session} (wanted : s.cancelRequested = false)
    (held : s.book.keyring.bundle = some bundle) {index : CollectionIndex} {m : GlobalMetadata}
    {ending : Ending Session Unit} :
    (conclude p index m).Takes env s before exchanges ending after ↔
      (delegate p s.synchronizers >>= fun _ => commit p index m).Takes env (s.entering .delegating)
        before exchanges ending after := by
  have passed : ¬s.cancelRequested = true := Bool.eq_false_iff.mp wanted
  have run : (conclude p index m) s = (checkKeys p p.config.collectionNames s).bind _ := rfl
  rw [Program.Takes, run, checkKeys_run_loaded held]
  show (checkpoint p >>= fun _ => _).Takes env s before exchanges ending after ↔ _
  rw [takes_checkpoint_bind, if_neg passed, takes_enter_bind, Program.takes_get_bind]
  rfl

/-- With its keys at hand a cycle hands them out, records the epoch and ends well. -/
theorem takes_conclude (obliging : oracle.Obliging) (wanted : s.cancelRequested = false)
    (held : s.book.keyring.bundle = some bundle) {index : CollectionIndex} {m : GlobalMetadata}
    {ending : Ending Session Unit}
    (taken : (conclude p index m).Takes oracle.alone s before exchanges ending after) :
    ∃ last, ending = .returned () last ∧ Delivered s s.book.keyring m bundle exchanges last := by
  rw [takes_conclude_loaded wanted held] at taken
  obtain ⟨inner, middle, handed, rest, delegating, rfl, committing⟩ := taken.split
  obtain ⟨requests, told, rfl⟩ := takes_delegate (s := s.entering .delegating) held delegating
  obtain ⟨⟨saves, recording, files⟩, localState, epoch, rfl⟩ := takes_commit obliging committing
  refine ⟨_, rfl, ⟨saves, ?_, files⟩, rfl, epoch, ?_, ?_, fun running => ?_⟩
  · rw [List.map_append, requests, recording]
  · exact (freshStartReason_withReport (by intros; rfl) _).trans
      ((freshStartReason_withReport (by intros; rfl) _).trans
        (freshStartReason_withReport (by intros; rfl) _))
  · exact (sawNewEpoch_withReport (by intros; rfl) _).trans
      ((sawNewEpoch_withReport (by intros; rfl) _).trans
        (sawNewEpoch_withReport (by intros; rfl) _))
  · obtain ⟨r, running⟩ := Option.isSome_iff_exists.mp running
    simp [entering, withReport, withBook, running]

end Session

end SealedSync
