import SealedSync.Proofs.Cancellation
import SealedSync.Proofs.Hastening
import SealedSync.Proofs.ResetDuty
import SealedSync.Proofs.ServerWrites

/-!
# The moments at which a cycle is asked to stop

A cycle that is asked to stop before its synchronizers work stops before they do, at the next boundary
unless it fails before that. Asked later, or while it is idle, a session does all that it would do without
being asked, in this cycle and in every later one.
-/
namespace SealedSync

variable {ω α : Type}

namespace Run

/-- A run goes on as it does against another environment where others do the same to its state. -/
theorem Takes.congr {σ : Type} {env env' : Environment ω σ} (oracle : env'.toOracle = env.toOracle)
    {run : Run σ α} {before after : ω} {exchanges : List (Exchange σ)} {ending : Ending σ α}
    (taken : run.Takes env before exchanges ending after)
    (same : ∀ x ∈ exchanges, ∀ w, env'.touch x.request w x.asked = env.touch x.request w x.asked) :
    run.Takes env' before exchanges ending after := by
  induction run generalizing before exchanges with
  | returned value state => exact takes_returned.mpr (takes_returned.mp taken)
  | failed error state => exact takes_failed.mpr (takes_failed.mp taken)
  | noted event rest ih => exact ih taken same
  | waiting request state resume ih =>
      obtain ⟨tail, rfl, continued⟩ := takes_waiting.mp taken
      have reply : env'.reply request before = env.reply request before := by
        rw [oracle]
      have next : env'.next request before = env.next request before := by
        rw [oracle]
      have touched : env'.touch request before state = env.touch request before state :=
        same _ List.mem_cons_self before
      have exchanged : env'.exchange request state before = env.exchange request state before := by
        rw [Environment.exchange, Environment.exchange, reply, touched]
      refine takes_waiting.mpr ⟨tail, by rw [exchanged], ?_⟩
      rw [reply, next, touched]
      exact ih _ _ continued fun x member => same x (List.mem_cons_of_mem _ member)

end Run

/-- The environment in which sessions are also asked to stop, at moments that are told by the request they
wait for, by the world and by the state of the cycle. A world that counts requests tells any two apart. -/
def Environment.cancelledAt (env : Environment ω Session)
    (moments : Request → ω → CycleState → Bool) : Environment ω Session :=
  { env with
    touch := fun r w s => if moments r w s.state then (env.touch r w s).cancel else env.touch r w s }

namespace Session

open Program RemoteState

variable {env : Environment ω Session} {p : Profile} {s t : Session} {before after : ω}
  {xs : List (Exchange Session)} {few many moments : Request → ω → CycleState → Bool}

/-- Those of some moments at which synchronizers do not work yet. -/
def early (moments : Request → ω → CycleState → Bool) : Request → ω → CycleState → Bool :=
  fun r w state => moments r w state && state != .delegating

theorem early_le (r : Request) (w : ω) (state : CycleState) (asked : early moments r w state = true) :
    moments r w state = true :=
  (Bool.and_eq_true_iff.mp asked).1

/-- Others neither ask a waiting session to stop, nor look whether somebody did. -/
structure Discreet (env : Environment ω Session) : Prop extends Bystanding env where
  unasked : ∀ r w s, (env.touch r w s).cancelRequested = s.cancelRequested
  unheeding : ∀ r w s, env.touch r w s.cancel = (env.touch r w s).cancel

namespace Discreet

variable (discreet : Discreet env)

include discreet

theorem bystanding_cancelledAt (moments : Request → ω → CycleState → Bool) :
    Bystanding (env.cancelledAt moments) where
  localState r w s := by
    show (if moments r w s.state then _ else _ : Session).book.localState = _
    split <;> exact discreet.localState r w s
  cycle r w s := by
    show (if moments r w s.state then _ else _ : Session).cycle = _
    split <;> exact discreet.cycle r w s
  synchronizers r w s := by
    show _ <+: (if moments r w s.state then _ else _ : Session).synchronizers
    split <;> exact discreet.synchronizers r w s

theorem hastened {r : Request} {w : ω} (hastened : Hastened s t) :
    Hastened (env.touch r w s) (env.touch r w t) := by
  rcases hastened with rfl | rfl
  · exact .refl _
  · exact .inr (discreet.unheeding r w s)

/-- More moments hasten a session. -/
theorem hastens (fewer : ∀ r w state, few r w state = true → many r w state = true) :
    Hastens (env.cancelledAt few) (env.cancelledAt many) where
  oracle := rfl
  touch r w s t hastened := by
    have touched : Hastened (env.touch r w s) (env.touch r w t) := discreet.hastened hastened
    have state : t.state = s.state := by rcases hastened with rfl | rfl <;> rfl
    have cancelled : (env.touch r w t).cancel = (env.touch r w s).cancel := by
      rcases touched with same | same
      · rw [same]
      · rw [same]
        rfl
    show Hastened (if few r w s.state then _ else _) (if many r w t.state then _ else _)
    rw [state]
    cases now : few r w s.state with
    | true =>
        rw [if_pos rfl, if_pos (fewer r w s.state now), cancelled]
        exact .refl _
    | false =>
        rw [if_neg Bool.false_ne_true]
        split
        · exact .inr cancelled
        · exact touched
  lasting r w t asked := by
    show (if many r w t.state then _ else _ : Session).cancelRequested = true
    split
    · rfl
    · exact (discreet.unasked r w t).trans asked

theorem hastens_cancelledAt (moments : Request → ω → CycleState → Bool) :
    Hastens env (env.cancelledAt moments) :=
  have never : ∀ r w state, (fun _ _ _ => false : Request → ω → CycleState → Bool) r w state = true →
      moments r w state = true := nofun
  discreet.hastens never

end Discreet

/-! ## The two parts of a cycle -/

theorem approach_returned {found : CollectionIndex × GlobalMetadata}
    (taken : (approach p).Takes env s before xs (.returned found t) after) :
    t.cancelRequested = false := by
  obtain ⟨_, _, _, _, _, -, checking, -⟩ := takes_bind_returned.mp taken
  obtain ⟨_, u, _, _, _, -, stopping, -⟩ := takes_bind_returned.mp checking
  rw [takes_checkpoint_bind] at stopping
  split at stopping
  · cases stopping.2.1
  · rename_i unasked
    obtain ⟨-, same, -⟩ := takes_pure.mp stopping
    cases same
    exact Bool.eq_false_iff.mpr unasked

section Parts

/-- What preparing keeps is kept until synchronizers are let work. -/
theorem Preparatory.keeps_approach {kind : Session → Prop} {allowed : Request → Prop}
    (preparatory : Preparatory kind) (permitted : ∀ r, r.isLate = false → allowed r) :
    (approach p).Keeps kind allowed := by
  have keys (name : String) : (onKeyring (Keyring.keyFor p.keyAccess name)).Keeps kind allowed :=
    preparatory.keeps_onKeyring (Keyring.keeps_keyFor (permitted _ (by rfl)) name)
  exact .bind (preparatory.keeps_prepare permitted) fun found =>
    .bind (keeps_checkKeys keys _) fun _ => .bind keeps_checkpoint fun _ => .pure found

variable (bystanding : Bystanding env)

include bystanding

theorem approach_preparing {ending : Ending Session (CollectionIndex × GlobalMetadata)}
    (taken : (approach p).Takes env s.starting before xs ending after) :
    (∀ x ∈ xs, Preparing s x.asked ∧ x.request.isLate = false) ∧ Preparing s ending.state := by
  have kept : (approach p).Keeps (Preparing s) fun r => r.isLate = false :=
    (preparatory_preparing s).keeps_approach fun _ h => h
  obtain ⟨exchanged, last⟩ := kept.takes (preparing_starting s) (preparing_touch bystanding) taken
  exact ⟨fun x member => ⟨(exchanged x member).1, (exchanged x member).2.1⟩, last⟩

theorem handOver_delegating {index : CollectionIndex} {m : GlobalMetadata}
    {ending : Ending Session Unit} (running : t.isSyncing = true)
    (taken : (handOver p index m).Takes env t before xs ending after) :
    ∀ x ∈ xs, x.asked.state = .delegating := by
  let kind (u : Session) : Prop := u.isSyncing = true ∧ u.state = .delegating
  have others (r : Request) (w : ω) (u : Session) (holds : kind u) : kind (env.touch r w u) :=
    ⟨(bystanding.isSyncing r w u).trans holds.1, (bystanding.state r w u).trans holds.2⟩
  have keys (name : String) : (onKeyring (Keyring.keyFor p.keyAccess name)).Keeps kind fun _ => True :=
    keeps_onKeyring (Keyring.keeps_keyFor trivial name) fun _ _ holds => holds
  have reporting (u : Session) (f : CycleReport → CycleReport)
      (kept : ∀ r, (f r).freshStart = r.freshStart ∧ (f r).states = r.states ∧
        (f r).epochChanged = r.epochChanged) (holds : kind u) : kind (u.withReport f) :=
    ⟨(isSyncing_withReport u).trans holds.1, (state_withReport (fun r => (kept r).2.1) u).trans holds.2⟩
  have commits : (commit p index m).Keeps kind fun _ => True :=
    (sustains_commit (stable_leaving kind) (fun _ => reporting) trivial (fun _ _ => trivial)
      (fun _ _ _ holds => holds) index m).keeps
  have kept : (delegate p t.synchronizers >>= fun _ => commit p index m).Keeps kind fun _ => True :=
    .bind (keeps_delegate keys reporting (fun _ _ => trivial) t.synchronizers) fun _ => commits
  have begun : kind (t.entering .delegating) :=
    ⟨(isSyncing_entering t _).trans running, state_entering running _⟩
  unfold handOver at taken
  rw [takes_enter_bind, takes_get_bind] at taken
  exact fun x member => (((kept.takes begun others taken).1 x member).1).2

end Parts

/-! ## One cycle -/

/-- The second course is the first but for requests to stop. -/
structure Matches (c c' : Course ω Session α) : Prop where
  exchanges : c'.exchanges.map (·.map calm) = c.exchanges.map (·.map calm)
  ending : c'.ending.map calm = c.ending.map calm
  world : c'.world = c.world

theorem Matches.result {c c' : Course ω Session α} (matching : Matches c c') :
    c'.ending.result = c.ending.result := by
  have told (ending : Ending Session α) : ending.result = (ending.map calm).result := by
    cases ending <;> rfl
  rw [told, told c.ending, matching.ending]

theorem Matches.state {c c' : Course ω Session α} (matching : Matches c c') :
    c'.ending.state.calm = c.ending.state.calm := by
  have told (ending : Ending Session α) : ending.state.calm = (ending.map calm).state := by
    cases ending <;> rfl
  rw [told, told c.ending, matching.ending]

theorem calm_closed {inner inner' : Ending Session Unit} (same : inner'.map calm = inner.map calm) :
    (closed inner').map calm = (closed inner).map calm := by
  have told (inner : Ending Session Unit) : (closed inner).map calm = (closed (inner.map calm)).map calm := by
    cases inner <;> rfl
  rw [told inner', told inner, same]

/-- A cycle that was asked to stop in time: it has neither let synchronizers work nor committed, and it
has failed at a boundary between states, or as it does without being asked. -/
structure Halted (env : Environment ω Session) (moments : Request → ω → CycleState → Bool) (p : Profile)
    (s : Session) (before : ω) (course : Course ω Session CycleReport) : Prop where
  unworked : ∀ x ∈ course.exchanges, x.request.isSynchronize = false
  untimed : ∀ x ∈ course.exchanges, x.request ≠ .clock
  uncommitted : course.ending.state.book.localState = s.book.localState ∨
    course.ending.state.book.localState = .empty
  failed : ∃ e u, course.ending = .failed e u.resting ∧
    (runCycle p).Takes (env.cancelledAt moments) s.starting before course.exchanges (.failed e u)
      course.world ∧
    (e = .cancelled u.state ∨ Matches ((sync p s).course env before) course)

section Asked

variable (discreet : Discreet env)

include discreet

/-- A cycle whose approach fails as it is does so without being asked, or at a boundary. -/
theorem approach_failed (idle : s.isSyncing = false) {e : SyncError} {u : Session}
    (taken : (approach p).Takes (env.cancelledAt moments) s.starting before xs (.failed e u) after) :
    e = .cancelled u.state ∨
      Matches ((sync p s).course env before) ⟨.failed e u.resting, after, xs⟩ := by
  have undisturbed := Run.takes_course env (approach p s.starting) before
  have follows := yields_approach p s.starting s.starting (.refl _)
  generalize (approach p s.starting).course env before = course at undisturbed
  obtain ⟨-, ⟨exchanged, ended, world⟩ | ⟨-, v, stopped⟩⟩ := follows.takes (discreet.hastens_cancelledAt moments) undisturbed taken
  · obtain ⟨ending, world', ys⟩ := course
    dsimp only at undisturbed exchanged ended world
    cases ending with
    | returned found v => cases ended
    | failed _ v =>
        obtain ⟨rfl, same⟩ := Ending.failed.inj ended
        have continued : (approach p >>= fun found => handOver p found.1 found.2).Takes env s.starting
            before ys (.failed e v) world' := takes_bind.mpr (.inr ⟨e, v, undisturbed, rfl⟩)
        rw [← runCycle_eq_approach] at continued
        have base : (sync p s).course env before = ⟨.failed e v.resting, world', ys⟩ :=
          (takes_sync idle).mpr ⟨_, continued, rfl⟩
        rw [base]
        exact .inr ⟨exchanged, congrArg (Ending.failed e) (congrArg resting same), world⟩
  · cases stopped
    exact .inl rfl

/-- A cycle that is asked to stop while its synchronizers do not work yet is halted. -/
theorem halted_of_asked {x : Exchange Session}
    (member : x ∈ ((sync p s).course (env.cancelledAt moments) before).exchanges)
    (intime : x.asked.state ≠ .delegating) (asked : x.resumed.cancelRequested = true) :
    Halted env moments p s before ((sync p s).course (env.cancelledAt moments) before) := by
  have bystanding := discreet.bystanding_cancelledAt moments
  have taken := Run.takes_course (env.cancelledAt moments) (sync p s) before
  generalize (sync p s).course (env.cancelledAt moments) before = course at member taken
  obtain ⟨ending, after, xs⟩ := course
  dsimp only at member taken
  cases busy : s.isSyncing with
  | true =>
      obtain ⟨rfl, -, -⟩ := (takes_sync_refused busy).mp taken
      cases member
  | false =>
      obtain ⟨inner, run, rfl⟩ := (takes_sync busy).mp taken
      rw [runCycle_eq_approach] at run
      obtain ⟨reached, world, head, tail, approaching, rfl, continued⟩ := run.split
      obtain ⟨prepared, last⟩ := approach_preparing bystanding approaching
      cases reached with
      | returned found t =>
          -- Synchronizers are let work only by a session that nobody has asked to stop.
          have late := handOver_delegating bystanding last.running continued
          have present : x ∈ head := (List.mem_append.mp member).resolve_right fun later =>
            intime (late x later)
          have follows := yields_approach p s.starting s.starting (.refl _)
          have undisturbed := Run.takes_course env (approach p s.starting) before
          have kept := (follows.takes (discreet.hastens_cancelledAt moments) undisturbed approaching).1
            (.inr ⟨x, present, asked⟩)
          exact absurd (kept.symm.trans (approach_returned approaching)) (by decide)
      | failed e u =>
          obtain ⟨rfl, rfl, rfl⟩ := continued
          rw [List.append_nil]
          rw [← runCycle_eq_approach, List.append_nil] at run
          have unlate (y : Exchange Session) (member : y ∈ head) : y.request.isLate = false :=
            (prepared y member).2
          constructor
          case unworked =>
            exact fun y member => Request.isSynchronize_eq_false_of_not_isLate (unlate y member)
          case untimed =>
            intro y member clock
            have timed := unlate y member
            rw [clock] at timed
            cases timed
          case uncommitted => exact last.localState
          case failed => exact ⟨e, u, rfl, run, approach_failed discreet busy approaching⟩

/-- Until synchronizers work, only the moments before that count. -/
theorem approach_early {ending : Ending Session (CollectionIndex × GlobalMetadata)}
    (taken : (approach p).Takes (env.cancelledAt (early moments)) s.starting before xs ending after) :
    (approach p).Takes (env.cancelledAt moments) s.starting before xs ending after := by
  have intime := (approach_preparing (discreet.bystanding_cancelledAt _) taken).1
  have run : Run.Takes (env.cancelledAt (early moments)) (approach p s.starting) before xs ending
      after := taken
  have oracle : (env.cancelledAt moments).toOracle = (env.cancelledAt (early moments)).toOracle := rfl
  refine run.congr oracle fun x member w => ?_
  have same : early moments x.request w x.asked.state = moments x.request w x.asked.state := by
    simp [early, (intime x member).1.early]
  show (if moments _ _ _ then _ else _) = (if early moments _ _ _ then _ else _)
  rw [same]

/-- Asked to stop once its synchronizers work, a cycle goes as it does without that. -/
theorem runCycle_matches {inner : Ending Session Unit}
    (taken : (runCycle p).Takes (env.cancelledAt (early moments)) s.starting before xs inner after) :
    ∃ ys inner', (runCycle p).Takes (env.cancelledAt moments) s.starting before ys inner' after ∧
      ys.map (·.map calm) = xs.map (·.map calm) ∧ inner'.map calm = inner.map calm := by
  rw [runCycle_eq_approach] at taken ⊢
  obtain ⟨reached, world, head, tail, approaching, rfl, continued⟩ := taken.split
  have approaches := approach_early discreet approaching
  cases reached with
  | failed e u =>
      obtain ⟨rfl, rfl, rfl⟩ := continued
      rw [List.append_nil]
      exact ⟨head, _, takes_bind.mpr (.inr ⟨e, u, approaches, rfl⟩), rfl, rfl⟩
  | returned found u =>
      have follows := yields_handOver p found.1 found.2 u u (.refl u)
      have later := Run.takes_course (env.cancelledAt moments) (handOver p found.1 found.2 u) world
      obtain ⟨-, ⟨exchanged, ended, same⟩ | ⟨impossible, -⟩⟩ :=
        follows.takes (discreet.hastens early_le) continued later
      · rw [same] at later
        refine ⟨_, _, takes_bind.mpr (.inl ⟨found, u, world, head, _, approaches, later, rfl⟩), ?_, ended⟩
        rw [List.map_append, List.map_append, exchanged]
      · exact impossible.elim

/-- A session that is asked to stop when its synchronizers work, or was asked before the cycle, goes through
it as it does without that. -/
theorem sync_matches (same : t.calm = s.calm) (w : ω) :
    Matches ((sync p s).course (env.cancelledAt (early moments)) w)
      ((sync p t).course (env.cancelledAt moments) w) := by
  have syncing : t.isSyncing = s.isSyncing := by
    show t.calm.isSyncing = s.calm.isSyncing
    rw [same]
  have taken := Run.takes_course (env.cancelledAt (early moments)) (sync p s) w
  generalize (sync p s).course (env.cancelledAt (early moments)) w = course at taken ⊢
  obtain ⟨ending, after, xs⟩ := course
  dsimp only at taken
  cases busy : s.isSyncing with
  | true =>
      obtain ⟨rfl, rfl, rfl⟩ := (takes_sync_refused busy).mp taken
      have second : (sync p t).course (env.cancelledAt moments) after =
          ⟨.failed .cycleInFlight t, after, []⟩ :=
        (takes_sync_refused (syncing.trans busy)).mpr ⟨rfl, rfl, rfl⟩
      rw [second]
      exact ⟨rfl, congrArg (Ending.failed _) same, rfl⟩
  | false =>
      obtain ⟨inner, run, rfl⟩ := (takes_sync busy).mp taken
      obtain ⟨ys, inner', run', exchanged, ended⟩ := runCycle_matches discreet run
      have starting : s.starting = t.starting := by
        show s.calm.starting = t.calm.starting
        rw [same]
      rw [starting] at run'
      have second : (sync p t).course (env.cancelledAt moments) w = ⟨closed inner', after, ys⟩ :=
        (takes_sync (syncing.trans busy)).mpr ⟨inner', run', rfl⟩
      rw [second]
      exact ⟨exchanged, calm_closed ended, rfl⟩

end Asked

/-! ## All cycles of a session -/

/-- What becomes of a session and the world in a cycle. -/
def cycled (env : Environment ω Session) (p : Profile) (start : Session × ω) :
    Course ω Session CycleReport :=
  (sync p start.1).course env start.2

/-- The session and the world before the cycle of a number. Others act before each cycle. -/
def history (env : Environment ω Session) (p : Profile) (others : Nat → Session × ω → Session × ω)
    (start : Session × ω) : Nat → Session × ω
  | 0 => others 0 start
  | n + 1 =>
      let course := cycled env p (history env p others start n)
      others (n + 1) (course.ending.state, course.world)

/-- The same session in the same world, but for requests to stop. -/
def SameButAsked (first second : Session × ω) : Prop :=
  second.1.calm = first.1.calm ∧ second.2 = first.2

theorem Matches.left {c c' : Course ω Session CycleReport} (matching : Matches c c') :
    SameButAsked (c.ending.state, c.world) (c'.ending.state, c'.world) :=
  ⟨matching.state, matching.world⟩

/-- The courses of the cycle of a number match in two histories between whose cycles others do the same, but
for requests to stop, and in the second of which such requests are also made while synchronizers work. -/
theorem history_matches (discreet : Discreet env) (moments : Request → ω → CycleState → Bool)
    {others others' : Nat → Session × ω → Session × ω}
    (alike : ∀ n first second, SameButAsked first second →
      SameButAsked (others n first) (others' n second)) (start : Session × ω) (n : Nat) :
    Matches (cycled (env.cancelledAt (early moments)) p
        (history (env.cancelledAt (early moments)) p others start n))
      (cycled (env.cancelledAt moments) p (history (env.cancelledAt moments) p others' start n)) := by
  have matching {first second : Session × ω} (same : SameButAsked first second) :
      Matches (cycled (env.cancelledAt (early moments)) p first)
        (cycled (env.cancelledAt moments) p second) := by
    unfold cycled
    rw [same.2]
    exact sync_matches discreet same.1 first.2
  refine matching ?_
  induction n with
  | zero => exact alike 0 start start ⟨rfl, rfl⟩
  | succ n ih => exact alike (n + 1) _ _ (matching ih).left

theorem discreet_alone (oracle : Oracle ω) : Discreet (oracle.alone : Environment ω Session) where
  toBystanding := bystanding_alone oracle
  unasked _ _ _ := rfl
  unheeding _ _ _ := rfl

/-- A server on which nothing is stored. -/
def vacantOracle : Oracle Unit :=
  { keylessOracle with
    reply
      | .remote _ .index, _ => some (.ok (.ofList []))
      | request, world => keylessOracle.reply request world }

/-- A first cycle that finds nothing on the server and is asked to stop in `evaluating`, where it waits for
nothing but its key. -/
def haltedCourse : Course Unit Session CycleReport :=
  (sync keylessProfile keylessSession).course
    (vacantOracle.alone.cancelledAt fun _ _ state => state == .evaluating) ()

end Session

end SealedSync
