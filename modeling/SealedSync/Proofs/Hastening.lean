import SealedSync.Proofs.Preparation

/-!
# Two runs of which one is asked to stop

A request to stop is looked at between states only. So of two runs that differ in such requests alone,
the second goes the way of the first until it comes to such a boundary, and where it passes none it goes
the same way to the end.
-/
namespace SealedSync.Session

variable {ω α β : Type} {stops : Prop} {asked : Bool} {s t u v : Session}

/-- The session as if nobody had asked it to stop. -/
def calm (s : Session) : Session := { s with cancelRequested := false }

/-- The second session is the first, or the first asked to stop. -/
def Hastened (s t : Session) : Prop := t = s ∨ t = s.cancel

theorem Hastened.refl (s : Session) : Hastened s s := .inl rfl

theorem Hastened.calm_eq (hastened : Hastened s t) : t.calm = s.calm := by
  rcases hastened with rfl | rfl <;> rfl

theorem Hastened.map {f : Session → Session} (same : ∀ s, f s.cancel = (f s).cancel)
    (hastened : Hastened s t) : Hastened (f s) (f t) := by
  rcases hastened with rfl | rfl
  · exact .refl _
  · exact .inr (same s)

/-- The second run goes the way of the first, or it stops where `stops` allows that. What is asked of it
stays asked, beginning with `asked`. -/
inductive Follows (stops : Prop) : Bool → Run Session α → Run Session α → Prop where
  | returned {asked : Bool} {s t : Session} (value : α) (hastened : Hastened s t)
      (lasting : asked = true → t.cancelRequested = true) :
      Follows stops asked (.returned value s) (.returned value t)
  | failed {asked : Bool} {s t : Session} (e : SyncError) (hastened : Hastened s t)
      (lasting : asked = true → t.cancelRequested = true) :
      Follows stops asked (.failed e s) (.failed e t)
  | noted {asked : Bool} {first second : Run Session α} (event : Event)
      (rest : Follows stops asked first second) :
      Follows stops asked (.noted event first) (.noted event second)
  | waiting {asked : Bool} {s t : Session} (r : Request) {first second : r.Reply → Session → Run Session α}
      (hastened : Hastened s t) (lasting : asked = true → t.cancelRequested = true)
      (rest : ∀ reply u v, Hastened u v →
        Follows stops v.cancelRequested (first reply u) (second reply v)) :
      Follows stops asked (.waiting r s first) (.waiting r t second)
  | stopped {asked : Bool} {t : Session} (stop : stops) (first : Run Session α) (event : Event)
      (wanted : t.cancelRequested = true) :
      Follows stops asked first (.noted event (.failed (.cancelled t.state) t))

namespace Follows

theorem of_asked {later : Bool} {first second : Run Session α}
    (follows : Follows stops later first second) (lasting : asked = true → later = true) :
    Follows stops asked first second := by
  induction follows with
  | returned value hastened kept => exact .returned value hastened fun h => kept (lasting h)
  | failed e hastened kept => exact .failed e hastened fun h => kept (lasting h)
  | noted event rest ih => exact .noted event (ih lasting)
  | waiting r hastened kept rest ih => exact .waiting r hastened (fun h => kept (lasting h)) rest
  | stopped stop first event wanted => exact .stopped stop first event wanted

theorem bind {first second : Run Session α} {next : α → Program Session β}
    (follows : Follows stops asked first second)
    (rest : ∀ value s t, Hastened s t → Follows stops t.cancelRequested (next value s) (next value t)) :
    Follows stops asked (first.bind next) (second.bind next) := by
  induction follows with
  | returned value hastened kept => exact (rest value _ _ hastened).of_asked kept
  | failed e hastened kept => exact .failed e hastened kept
  | noted event _ ih => exact .noted event ih
  | waiting r hastened kept _ ih => exact .waiting r hastened kept ih
  | stopped stop first event wanted => exact .stopped stop _ event wanted

theorem attempt {first second : Run Session α} (follows : Follows False asked first second) :
    Follows stops asked first.attempt second.attempt := by
  induction follows with
  | returned value hastened kept => exact .returned _ hastened kept
  | failed e hastened kept => exact .returned _ hastened kept
  | noted event rest ih => exact .noted event ih
  | waiting r hastened kept rest ih => exact .waiting r hastened kept ih
  | stopped stop first event wanted => exact stop.elim

/-- What is done on the bookkeeping alone is the same in both sessions. -/
theorem zoom (run : Run Bookkeeping α) (hastened : Hastened s t)
    (lasting : asked = true → t.cancelRequested = true) :
    Follows stops asked (run.zoom (·.book) (fun book s => { s with book }) s)
      (run.zoom (·.book) (fun book s => { s with book }) t) := by
  have putting (book : Bookkeeping) {s t : Session} (hastened : Hastened s t) :
      Hastened { s with book } { t with book } := by
    rcases hastened with rfl | rfl
    · exact .refl _
    · exact .inr rfl
  induction run generalizing s t asked with
  | returned value book => exact .returned value (putting book hastened) lasting
  | failed e book => exact .failed e (putting book hastened) lasting
  | noted event rest ih => exact .noted event (ih hastened lasting)
  | waiting r book resume ih =>
      refine .waiting r (putting book hastened) lasting fun reply u v hastened => ?_
      have same : v.book = u.book := by rcases hastened with rfl | rfl <;> rfl
      dsimp only
      rw [same]
      exact ih reply u.book hastened fun h => h

end Follows

/-- Asked to stop, a program goes the same way, or it stops where `stops` allows that. -/
def Yields (stops : Prop) (program : Program Session α) : Prop :=
  ∀ s t, Hastened s t → Follows stops t.cancelRequested (program s) (program t)

namespace Yields

theorem pure (value : α) : Yields stops (pure value) :=
  fun _ _ hastened => .returned value hastened fun h => h

theorem fail (e : SyncError) : Yields stops (Program.fail e : Program Session α) :=
  fun _ _ hastened => .failed e hastened fun h => h

theorem note (event : Event) : Yields stops (Program.note event) :=
  fun _ _ hastened => .noted event (.returned () hastened fun h => h)

theorem request (r : Request) : Yields stops (Program.request r) :=
  fun _ _ hastened => .waiting r hastened (fun h => h) fun reply _ _ hastened =>
    .returned reply hastened fun h => h

theorem ofExcept (result : Except SyncError α) : Yields stops (Program.ofExcept result) := by
  cases result with
  | ok value => exact .pure value
  | error e => exact .fail e

theorem modify {f : Session → Session} (same : ∀ s, f s.cancel = (f s).cancel)
    (kept : ∀ s, (f s).cancelRequested = s.cancelRequested) : Yields stops (Program.modify f) :=
  fun _ t hastened => .returned () (hastened.map same) fun h => (kept t).trans h

theorem bind {first : Program Session α} {next : α → Program Session β} (yields : Yields stops first)
    (rest : ∀ value, Yields stops (next value)) : Yields stops (first >>= next) :=
  fun s t hastened => (yields s t hastened).bind rest

theorem attempt {program : Program Session α} (yields : Yields False program) :
    Yields stops program.attempt :=
  fun s t hastened => (yields s t hastened).attempt

/-- What is read of a session and is not the request to stop is the same in both. -/
theorem get_bind {next : Session → Program Session α} (same : ∀ s, next s.cancel = next s)
    (rest : ∀ s, Yields stops (next s)) : Yields stops (Program.get >>= next) := by
  intro s t hastened
  have reached := rest s s t hastened
  rcases hastened with rfl | rfl
  · exact reached
  · show Follows stops _ (next s s) (next s.cancel s.cancel)
    rw [same]
    exact reached

theorem onBook (program : Program Bookkeeping α) : Yields stops (onBook program) := by
  intro s t hastened
  have same : t.book = s.book := by rcases hastened with rfl | rfl <;> rfl
  show Follows stops _ ((program s.book).zoom _ _ s) ((program t.book).zoom _ _ t)
  rw [same]
  exact .zoom (program s.book) hastened fun h => h

theorem onKeyring (program : Program Keyring α) : Yields stops (onKeyring program) := onBook _

theorem remote (limit : Duration) (operation : String) (call : RemoteCall) :
    Yields stops (Program.remote limit operation call) := by
  refine .bind (.request _) fun reply => ?_
  match reply with
  | some (.ok answer) => exact .pure answer
  | some (.error e) => exact .fail e
  | none => exact .fail _

end Yields

/-! ## The steps of a cycle -/

section Steps

variable {p : Profile} {key : Key}

theorem yields_report : Yields stops report := .get_bind (fun _ => rfl) fun _ => .pure _

theorem yields_updateReport (f : CycleReport → CycleReport) : Yields stops (updateReport f) :=
  .modify (fun _ => rfl) fun _ => rfl

theorem yields_enter (state : CycleState) : Yields stops (enter state) :=
  .bind yields_report fun _ => .bind (.note _) fun _ => yields_updateReport _

theorem yields_fetchIndex (limit : Duration) : Yields stops (RemoteState.fetchIndex limit) :=
  .bind (.remote _ _ _) fun _ => .bind (.note _) fun _ => .pure _

theorem yields_fetchMetadata (limit : Duration) : Yields stops (RemoteState.fetchMetadata limit) := by
  refine .bind (.bind (.remote _ _ _) fun found => ?_) fun _ => .ofExcept _
  cases found with
  | some record => exact .pure record
  | none => exact .fail _

theorem yields_evaluateRemote (index : CollectionIndex) : Yields stops (evaluateRemote p index) := by
  unfold evaluateRemote
  split
  · exact .bind (.note _) fun _ => .pure _
  · refine .bind (.attempt (yields_fetchMetadata _)) fun fetched => .bind (.ofExcept _) fun decided => ?_
    split
    · exact .pure _
    · exact .bind (.note _) fun _ => .pure _
    · exact .pure _

theorem yields_sealingKey : Yields stops (sealingKey p) := by
  rw [sealingKey_eq]
  refine .get_bind (fun _ => rfl) fun s => ?_
  split
  · exact .ofExcept _
  · exact .bind (.request _) fun _ => .bind (.ofExcept _) fun key =>
      .bind (.modify (fun _ => rfl) fun _ => rfl) fun _ => .pure key

theorem yields_resetForEpoch (synchronizers : List Synchronizer) :
    Yields stops (resetForEpoch synchronizers) := by
  induction synchronizers with
  | nil => exact .pure ()
  | cons c rest ih =>
      refine .bind (.request _) fun reply => ?_
      cases reply with
      | ok _ => exact ih
      | error e => exact .bind (.note _) fun _ => .fail e

theorem yields_observeEpoch (m : GlobalMetadata) : Yields stops (observeEpoch m) := by
  refine .get_bind (fun _ => rfl) fun s => ?_
  split
  · refine .bind (.note _) fun _ => .bind (yields_updateReport _) fun _ => .bind (.onKeyring _) fun _ => ?_
    exact .get_bind (fun _ => rfl) fun s => yields_resetForEpoch s.synchronizers
  · exact .pure ()

theorem yields_freshStart (reason : FreshStartReason) : Yields stops (freshStart p key reason) := by
  refine .bind (yields_enter _) fun _ => .bind (yields_updateReport _) fun _ => ?_
  refine .bind (.modify (fun _ => rfl) fun _ => rfl) fun _ => .bind (.note _) fun _ => ?_
  exact .get_bind (fun _ => rfl) fun _ => .onBook _

theorem yields_settleEpoch (evaluated : Evaluated) : Yields stops (settleEpoch p key evaluated) := by
  cases evaluated with
  | current m => exact .bind (yields_observeEpoch m) fun _ => .pure m
  | diverged reason => exact yields_freshStart reason

theorem yields_bindKeys (index : CollectionIndex) (m : GlobalMetadata) : Yields stops (bindKeys index m) :=
  .bind yields_report fun _ => .bind (.onKeyring _) fun _ => .pure ()

theorem yields_secureKeys (index : CollectionIndex) (m : GlobalMetadata) :
    Yields stops (secureKeys p key index m) := by
  refine .bind (yields_enter _) fun _ => .bind (yields_bindKeys index m) fun _ => ?_
  refine .bind (.attempt (.onKeyring _)) fun refreshed => ?_
  cases refreshed with
  | ok _ => exact .pure m
  | error e =>
      refine .bind yields_report fun r => ?_
      split
      · exact .bind (.note _) fun _ => .bind (yields_freshStart _) fun m => .bind (yields_enter _) fun _ =>
          .bind (yields_bindKeys index m) fun _ => .bind (.onKeyring _) fun _ => .pure m
      · exact .fail e

theorem yields_checkKeys (names : List String) : Yields stops (checkKeys p names) := by
  induction names with
  | nil => exact .pure ()
  | cons name rest ih => exact .bind (.onKeyring _) fun _ => ih

/-- At a boundary between states the second run stops if it is asked to. -/
theorem yields_checkpoint : Yields True (checkpoint p) := by
  intro s t hastened
  cases wanted : t.cancelRequested with
  | true =>
      have stopping : checkpoint p t =
          .noted (.cycleCancelled p.account t.state) (.failed (.cancelled t.state) t) := by
        show (if t.cancelRequested then _ else _ : Program Session Unit) t = _
        rw [if_pos wanted]
        rfl
      rw [stopping]
      exact .stopped trivial _ _ wanted
  | false =>
      obtain rfl : t = s := hastened.resolve_right fun same => by simp [same, cancel] at wanted
      have passing : checkpoint p t = .returned () t := by
        show (if t.cancelRequested then _ else _ : Program Session Unit) t = _
        rw [if_neg (by simp [wanted])]
        rfl
      rw [passing]
      exact .returned () (.refl t) nofun

theorem yields_delegateOne (c : Synchronizer) : Yields stops (delegateOne p c) := by
  refine .bind (.attempt (.onKeyring _)) fun found => ?_
  cases found with
  | error e => exact .bind (.note _) fun _ => .pure _
  | ok key =>
      refine .bind (.request _) fun reply => ?_
      cases reply with
      | ok _ => exact .pure _
      | error e => exact .bind (.note _) fun _ => .pure _

theorem yields_delegate (synchronizers : List Synchronizer) : Yields stops (delegate p synchronizers) := by
  induction synchronizers with
  | nil => exact .pure ()
  | cons c rest ih =>
      exact .bind (yields_delegateOne c) fun _ => .bind (yields_updateReport _) fun _ => ih

theorem yields_save (file : StateFile) (state : LocalState) :
    Yields stops (StateFile.save file state : Program Session Unit) := by
  cases file with
  | none => exact .pure ()
  | some path =>
      refine .bind (.request _) fun written => ?_
      cases written with
      | error fault => exact .fail _
      | ok _ =>
          refine .bind (.request _) fun renamed => ?_
          cases renamed with
          | error fault => exact .fail _
          | ok _ => exact .pure ()

theorem yields_commit (index : CollectionIndex) (m : GlobalMetadata) : Yields stops (commit p index m) :=
  .bind yields_report fun _ => .bind (.request _) fun _ => .bind (yields_save _ _) fun _ =>
    .bind (.modify (fun _ => rfl) fun _ => rfl) fun _ => yields_updateReport _

end Steps

/-! ## The cycle, cut where a request to stop counts no more -/

/-- What a cycle does until it lets synchronizers work. -/
def approach (p : Profile) : Program Session (CollectionIndex × GlobalMetadata) := do
  let found ← prepare p
  checkKeys p p.config.collectionNames
  checkpoint p
  return found

/-- What a cycle does from then on. -/
def handOver (p : Profile) (index : CollectionIndex) (m : GlobalMetadata) : Program Session Unit := do
  enter .delegating
  let s ← Program.get
  delegate p s.synchronizers
  commit p index m

theorem runCycle_eq_approach (p : Profile) :
    runCycle p = approach p >>= fun found => handOver p found.1 found.2 := by
  simp only [runCycle_eq_prepare, approach, conclude, handOver, bind_assoc, pure_bind]

/-- Before synchronizers work, a cycle that is asked to stop goes the same way until it stops. -/
theorem yields_approach (p : Profile) : Yields True (approach p) := by
  refine .bind (.bind (yields_enter _) fun _ => .bind (yields_fetchIndex _) fun index => ?_) fun found =>
    .bind (yields_checkKeys _) fun _ => .bind yields_checkpoint fun _ => .pure found
  refine .bind yields_checkpoint fun _ => .bind (yields_enter _) fun _ => ?_
  refine .bind (yields_evaluateRemote index) fun evaluated => .bind yields_sealingKey fun key => ?_
  refine .bind yields_checkpoint fun _ => .bind (yields_settleEpoch evaluated) fun m => ?_
  exact .bind yields_checkpoint fun _ => .bind (yields_secureKeys index m) fun _ => .pure _

/-- Once synchronizers work, a cycle that is asked to stop goes the same way to its end. -/
theorem yields_handOver (p : Profile) (index : CollectionIndex) (m : GlobalMetadata) :
    Yields False (handOver p index m) :=
  .bind (yields_enter _) fun _ => .get_bind (fun _ => rfl) fun s =>
    .bind (yields_delegate s.synchronizers) fun _ => yields_commit index m

/-! ## Two courses -/

/-- In the second environment sessions are asked to stop where they are in the first, and maybe where they
are not. -/
structure Hastens (env env' : Environment ω Session) : Prop where
  oracle : env'.toOracle = env.toOracle
  touch : ∀ r w s t, Hastened s t → Hastened (env.touch r w s) (env'.touch r w t)
  lasting : ∀ r w t, t.cancelRequested = true → (env'.touch r w t).cancelRequested = true

/-- What was asked of the second of two runs is asked of it at its end, and it has gone the way of the first
or stopped. -/
theorem Follows.takes {env env' : Environment ω Session} (hastens : Hastens env env')
    {first second : Run Session α} (follows : Follows stops asked first second) {before after after' : ω}
    {xs ys : List (Exchange Session)} {ending ending' : Ending Session α}
    (taken : first.Takes env before xs ending after)
    (taken' : second.Takes env' before ys ending' after') :
    ((asked = true ∨ ∃ y ∈ ys, y.resumed.cancelRequested = true) →
      ending'.state.cancelRequested = true) ∧
    ((ys.map (·.map calm) = xs.map (·.map calm) ∧ ending'.map calm = ending.map calm ∧ after' = after) ∨
      (stops ∧ ∃ t, ending' = .failed (.cancelled t.state) t)) := by
  induction follows generalizing before xs ys with
  | returned value hastened lasting =>
      obtain ⟨rfl, rfl, rfl⟩ := Run.takes_returned.mp taken
      obtain ⟨rfl, rfl, rfl⟩ := Run.takes_returned.mp taken'
      refine ⟨?_, .inl ⟨rfl, ?_, rfl⟩⟩
      · rintro (h | ⟨y, member, -⟩)
        · exact lasting h
        · cases member
      · exact congrArg (Ending.returned value) hastened.calm_eq
  | failed e hastened lasting =>
      obtain ⟨rfl, rfl, rfl⟩ := Run.takes_failed.mp taken
      obtain ⟨rfl, rfl, rfl⟩ := Run.takes_failed.mp taken'
      refine ⟨?_, .inl ⟨rfl, ?_, rfl⟩⟩
      · rintro (h | ⟨y, member, -⟩)
        · exact lasting h
        · cases member
      · exact congrArg (Ending.failed e) hastened.calm_eq
  | noted event rest ih => exact ih taken taken'
  | @waiting _ s t r _ _ hastened lasting rest ih =>
      have reply : env'.reply r before = env.reply r before := by
        rw [hastens.oracle]
      have next : env'.next r before = env.next r before := by
        rw [hastens.oracle]
      have touched := hastens.touch r before s t hastened
      obtain ⟨tail, rfl, continued⟩ := Run.takes_waiting.mp taken
      obtain ⟨tail', rfl, continued'⟩ := Run.takes_waiting.mp taken'
      rw [reply, next] at continued'
      obtain ⟨kept, same⟩ := ih _ _ _ touched continued continued'
      refine ⟨?_, same.imp_left fun ⟨exchanged, ended, world⟩ => ⟨?_, ended, world⟩⟩
      · rintro (h | ⟨y, member, h⟩)
        · exact kept (.inl (hastens.lasting r before t (lasting h)))
        · rcases List.mem_cons.mp member with rfl | member
          · exact kept (.inl h)
          · exact kept (.inr ⟨y, member, h⟩)
      · have first : (env'.exchange r t before).map calm = (env.exchange r s before).map calm := by
          simp only [Environment.exchange, Exchange.map, reply, hastened.calm_eq, touched.calm_eq]
        rw [List.map_cons, List.map_cons, first, exchanged]
  | stopped stop first event wanted =>
      obtain ⟨rfl, rfl, rfl⟩ := Run.takes_failed.mp (Run.takes_noted.mp taken')
      exact ⟨fun _ => wanted, .inr ⟨stop, _, rfl⟩⟩

end SealedSync.Session
