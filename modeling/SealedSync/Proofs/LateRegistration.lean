import SealedSync.Proofs.Convergence
import SealedSync.Proofs.Registration

/-!
# Late registration

Whoever registers while a session waits is handed a key if the cycle has not come to hand out keys
yet. One that comes while the keys of another epoch are fetched is too late to be reset, and works in
the epoch all the same.
-/
namespace SealedSync

namespace Session

variable {ω : Type}

/-- The session once a synchronizer is registered. -/
def enlisting (s : Session) (name : String) : Session :=
  { s with synchronizers := s.synchronizers ++ [⟨name, s.synchronizers.length⟩] }

end Session

/-- The oracle together with synchronizers that are registered while the session waits. -/
def Oracle.joinedBy {ω : Type} (oracle : Oracle ω) (joins : Request → ω → List String) :
    Environment ω Session :=
  { oracle with touch := fun request world s => (joins request world).foldl Session.enlisting s }

namespace Session

open RemoteState FreshStart

variable {ω : Type}

theorem bystanding_joinedBy (oracle : Oracle ω) (joins : Request → ω → List String) :
    Bystanding (oracle.joinedBy joins) := by
  have grows (names : List String) (s : Session) :
      (names.foldl enlisting s).book = s.book ∧ (names.foldl enlisting s).cycle = s.cycle ∧
        s.synchronizers <+: (names.foldl enlisting s).synchronizers := by
    induction names generalizing s with
    | nil => exact ⟨rfl, rfl, List.prefix_rfl⟩
    | cons name rest ih =>
        obtain ⟨book, cycle, grown⟩ := ih (s.enlisting name)
        exact ⟨book, cycle, (List.prefix_append _ _).trans grown⟩
  constructor
  · exact fun r w s => congrArg Bookkeeping.localState (grows (joins r w) s).1
  · exact fun r w s => (grows (joins r w) s).2.1
  · exact fun r w s => (grows (joins r w) s).2.2

section Latecomer

variable {env : Environment ω Session} {content : ω → Storage} {p : Profile} {key : Key}
  {s : Session} {m : GlobalMetadata} {bundle : KeyBundle} {before : ω}

/-- The first synchronizer joins while the keys of another epoch are fetched. It is handed its key
although nothing was reset. -/
theorem latecomer_handed (honest : env.toOracle.Honest content) (name : String)
    (joins : ∀ w u, env.touch (bundleRequest p.limit) w u = u.enlisting name)
    (quiet : ∀ r w u, r ≠ bundleRequest p.limit → env.touch r w u = u)
    (usable : p.sealingKey = .ok key) (idle : s.isSyncing = false) (alone : s.synchronizers = [])
    (current : (content before).evaluated p.config.storageVersion = .ok (.current m))
    (opened : (content before).bundle key = .ok bundle)
    (changed : m.epochChanged s.book.localState = true) :
    ∃ head x rest, ((sync p s).course env before).exchanges = head ++ x :: rest ∧
      x.request = delegation bundle ⟨name, 0⟩ ∧ x.asked.sawNewEpoch = true ∧
      ∀ c, ¬ResetIn c head := by
  have taken : (sync p).Takes env s before _ _ _ := Run.takes_course env (sync p s) before
  generalize ((sync p s).course env before).exchanges = exchanges at taken
  obtain ⟨inner, reads, rest, rfl, -, prelude, settling⟩ := takes_sync_undisturbed honest
    (fun r asked w u => quiet r w u (by
      rcases asked with rfl | rfl | rfl <;> simp [metaCollection, cryptoCollection])) idle usable taken
  simp only [current] at settling
  rw [settleEpoch_current_bind] at settling
  obtain ⟨observed, _, resets, rest, observing, rfl, maintaining⟩ := settling.split
  have changed : m.epochChanged s.evaluating.keyed.book.localState = true := changed
  have alone : s.evaluating.keyed.synchronizers = [] := alone
  rw [takes_observeEpoch, if_pos changed, alone] at observing
  obtain ⟨rfl, rfl, rfl⟩ := Program.takes_pure.mp observing
  have wanted : ¬s.evaluating.keyed.forgetting.cancelRequested = true := Bool.false_ne_true
  dsimp only at maintaining
  rw [maintain, takes_checkpoint_bind, if_neg wanted] at maintaining
  obtain ⟨secured, _, fetches, rest, securing, rfl, concluding⟩ := maintaining.split
  let u := s.evaluating.keyed.forgetting.keyBound (content before).index m
  have absent : u.book.keyring.bundle = none := Keyring.bundle_rebind_of_none rfl _ _
  obtain ⟨tail, rfl, fetched⟩ := (takes_secureKeys_absent usable absent).mp securing
  have unwritten : (content (env.world before reads)).SameBookkeeping (content before) :=
    honest.quiet (Exchange.forall_of_requests rfl prelude.isWrite_eq_false)
  simp only [honest.bundleFrom, Storage.bundle_congr unwritten, opened, joins] at fetched
  obtain ⟨rfl, rfl, rfl⟩ := fetched
  let k : Keyring := { (u.enlisting name).book.keyring with bundle := some bundle }
  let t : Session := (u.enlisting name).withKeyring k
  have concluding : (conclude p (content before).index m).Takes env t _ rest inner _ := concluding
  have listed : t.synchronizers = [⟨name, 0⟩] := by
    show s.evaluating.keyed.synchronizers ++ [⟨name, s.evaluating.keyed.synchronizers.length⟩] = _
    rw [alone]
    rfl
  rw [takes_conclude_loaded (s := t) rfl rfl, listed] at concluding
  obtain ⟨_, _, delegated, rest, delegating, rfl, -⟩ := concluding.split
  obtain ⟨_, _, handing, _, handed, rfl, -⟩ := Program.Takes.split delegating
  have held : (t.entering .delegating).book.keyring.bundle = some bundle := rfl
  rw [Program.Takes, delegateOne_run_loaded held, Run.takes_waiting] at handed
  obtain ⟨_, rfl, -⟩ := handed
  refine ⟨reads ++ [env.exchange (bundleRequest p.limit) u (env.world before reads)],
    env.exchange (delegation bundle ⟨name, 0⟩) (t.entering .delegating) _, _,
    (List.append_assoc reads [_] _).symm, rfl, rfl, fun c => not_resetIn_of_requests fun x member same => ?_⟩
  rcases List.mem_append.mp member with read | fetch
  · rcases prelude.cases (List.mem_map_of_mem read) with asked | asked | asked
    all_goals
      cases asked.symm.trans same
  · rw [List.mem_singleton.mp fetch] at same
    cases same

end Latecomer

end Session

namespace Session

open RemoteState FreshStart Simulation

/-- In a cycle that made a fresh start or saw another epoch, a synchronizer that is handed its key has
been reset if and only if it was registered in time. -/
theorem reset_iff_inTime {env : Environment ω Session} (bystanding : Bystanding env) (p : Profile)
    (s : Session) (world : ω) {before rest : List (Exchange Session)} {x : Exchange Session}
    {c : Synchronizer} {key : Key}
    (exchanged : ((sync p s).course env world).exchanges = before ++ x :: rest)
    (handed : x.request = .synchronize c key)
    (anew : x.asked.performedFreshStart = true ∨ x.asked.sawNewEpoch = true) :
    ResetIn c before ↔ InTime p c before := by
  have taken : (sync p).Takes env s world (before ++ x :: rest) _ _ :=
    exchanged ▸ Run.takes_course _ _ _
  cases busy : s.isSyncing with
  | true =>
      have impossible := ((takes_sync_refused busy).mp taken).1
      simp at impossible
  | false =>
      have cut := sync_cut bystanding busy taken
      generalize ((sync p s).course env world).ending = ending at cut
      generalize split : before ++ x :: rest = exchanges at cut
      have handing : x.request.isSynchronize = true := by rw [handed]; rfl
      cases cut with
      | stopped _ e u early preparing =>
          have unhanded := (early x (by simp [← split])).2
          exact absurd (unhanded.symm.trans handing) Bool.false_ne_true
      | handed head tail index m t _ inner early preparing readied concluding =>
          have late : x ∉ head := fun member =>
            Bool.false_ne_true ((early x member).2.symm.trans handing)
          obtain ⟨middle, rfl, rfl⟩ := split_later split late
          have between := conclude_between bystanding concluding
          have passed : ∀ y ∈ middle, y.request.isMilestone = false :=
            fun y member => (between y (List.mem_append_left _ member)).1
          obtain ⟨-, started, seen⟩ := between x (by simp)
          simp only [resetIn_append, inTime_append, not_resetIn_between passed,
            not_inTime_between passed, or_false]
          rcases readied.resets with same | ⟨-, -, unstarted, unseen⟩
          · exact same c
          · rw [started, seen, unstarted, unseen] at anew
            simp at anew

/-- While the keys are fetched, somebody registers a synchronizer. -/
def joinsAtBundle (request : Request) (_ : Memory) : List String :=
  if request = bundleRequest Memory.profile.limit then ["late"] else []

/-- The cycle of a new session that a synchronizer joins late. -/
def latecomerCourse : Course Memory Session CycleReport :=
  (sync Memory.profile (.ofLocalState .empty)).course (Memory.oracle.joinedBy joinsAtBundle)
    (Memory.settled "epoch")

theorem latecomerCourse_exchanges : ∃ before x rest key,
    latecomerCourse.exchanges = before ++ x :: rest ∧ x.request = .synchronize ⟨"late", 0⟩ key ∧
      x.asked.sawNewEpoch = true ∧ ¬ResetIn ⟨"late", 0⟩ before := by
  have quiet (r : Request) (w : Memory) (u : Session) (other : r ≠ bundleRequest Memory.profile.limit) :
      (Memory.oracle.joinedBy joinsAtBundle).touch r w u = u := by
    show (joinsAtBundle r w).foldl enlisting u = u
    rw [joinsAtBundle, if_neg other]
    rfl
  have joins (w : Memory) (u : Session) : (Memory.oracle.joinedBy joinsAtBundle).touch
      (bundleRequest Memory.profile.limit) w u = u.enlisting "late" := by
    show (joinsAtBundle _ w).foldl enlisting u = _
    rw [joinsAtBundle, if_pos rfl]
    rfl
  have sound := Memory.settled_sound "epoch"
  obtain ⟨bundle, opened⟩ := sound.keys
  have changed : (Memory.metadata "epoch").epochChanged (ofLocalState .empty).book.localState = true := by
    decide
  obtain ⟨before, x, rest, exchanged, handed, seen, unreset⟩ := latecomer_handed
    Memory.oracle_faithful.toHonest "late" joins quiet rfl rfl rfl sound.evaluated opened changed
  exact ⟨before, x, rest, _, exchanged, handed, seen, unreset _⟩

/-- It is not so that whoever works in a new epoch has been reset in the same cycle. -/
theorem handed_without_reset :
    ¬∀ (oracle : Oracle Memory) (joins : Request → Memory → List String) (p : Profile) (s : Session)
      (world : Memory) (before rest : List (Exchange Session)) (x : Exchange Session)
      (c : Synchronizer) (key : Key),
      ((sync p s).course (oracle.joinedBy joins) world).exchanges = before ++ x :: rest →
      x.request = .synchronize c key →
      x.asked.performedFreshStart = true ∨ x.asked.sawNewEpoch = true → ResetIn c before := by
  intro always
  obtain ⟨before, x, rest, key, exchanged, handed, seen, unreset⟩ := latecomerCourse_exchanges
  exact unreset (always _ _ _ _ _ before rest x _ key exchanged handed (.inr seen))

theorem latecomer_reset_iff : ∃ before x rest key,
    latecomerCourse.exchanges = before ++ x :: rest ∧ x.request = .synchronize ⟨"late", 0⟩ key ∧
      x.asked.sawNewEpoch = true ∧
      (ResetIn ⟨"late", 0⟩ before ↔ InTime Memory.profile ⟨"late", 0⟩ before) := by
  obtain ⟨before, x, rest, key, exchanged, handed, seen, -⟩ := latecomerCourse_exchanges
  exact ⟨before, x, rest, key, exchanged, handed, seen,
    reset_iff_inTime (bystanding_joinedBy _ _) _ _ _ exchanged handed (.inr seen)⟩

end Session

end SealedSync
