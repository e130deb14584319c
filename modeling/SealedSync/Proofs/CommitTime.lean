import Mathlib.Data.List.Forall2
import SealedSync.Proofs.Disk
import SealedSync.Proofs.Stages
import SealedSync.Proofs.Unanswered

/-!
# Cycles that differ in when they commit

The time is asked for by the commit alone, and it goes nowhere but into the records that are then saved. So in
two environments that answer alike, apart from the time and from answers that fail to come, a cycle goes the
same way, and all that may differ is when its records say that they were made.
-/
namespace SealedSync

open FreshStart (calls)

variable {ω υ σ α β : Type}

/-! ## The same but for the time -/

/-- The records differ at most in when they were made. -/
structure LocalState.SameButTime (l l' : LocalState) : Prop where
  lastSyncId : l'.lastSyncId = l.lastSyncId
  indexFingerprint : l'.indexFingerprint = l.indexFingerprint
  timed : l'.lastSyncAt.isSome = l.lastSyncAt.isSome

theorem LocalState.SameButTime.refl (l : LocalState) : l.SameButTime l := ⟨rfl, rfl, rfl⟩

/-- The requests are the same, or they write records that differ in when they were made. -/
inductive Request.SameButTime : Request → Request → Prop where
  | refl (r : Request) : SameButTime r r
  | written {l l' : LocalState} (path : String) (same : l.SameButTime l') :
      SameButTime (.writeFile path (StateFile.contents l)) (.writeFile path (StateFile.contents l'))

theorem Request.sameButTime_self (requests : List Request) :
    List.Forall₂ Request.SameButTime requests requests :=
  List.forall₂_same.mpr fun r _ => .refl r

/-- The sessions differ at most in when their records were made. -/
def Session.SameButTime (s t : Session) : Prop :=
  ∃ l, s.book.localState.SameButTime l ∧ t = s.withBook { s.book with localState := l }

theorem Session.SameButTime.refl (s : Session) : s.SameButTime s := ⟨_, .refl _, rfl⟩

/-- The courses end alike, with the same result and in the same session, and the same is asked for in them. -/
structure Course.SameButTime (c : Course ω Session α) (d : Course υ Session α) : Prop where
  result : d.ending.result = c.ending.result
  state : c.ending.state.SameButTime d.ending.state
  requests : List.Forall₂ Request.SameButTime (c.exchanges.map (·.request))
    (d.exchanges.map (·.request))

/-- Nothing but a file tells the time, so the server is asked for the same. -/
theorem Course.SameButTime.calls_eq {c : Course ω Session α} {d : Course υ Session α}
    (same : c.SameButTime d) : calls d.exchanges = calls c.exchanges := by
  have filtered {rs rs' : List Request} (alike : List.Forall₂ Request.SameButTime rs rs') :
      rs'.filter Request.isRemote = rs.filter Request.isRemote := by
    induction alike with
    | nil => rfl
    | cons same _ ih =>
        cases same with
        | refl r => rw [List.filter_cons, List.filter_cons, ih]
        | written path same => exact ih
  exact filtered same.requests

/-! ## Mirrored environments -/

namespace Environment

/-- A save fares alike in both worlds whichever time is saved, and so do those who touch the state meanwhile. -/
structure SavesAlike (env : Environment ω σ) (env' : Environment υ σ) (w : ω) (w' : υ) : Prop where
  written : ∀ path l l', LocalState.SameButTime l l' →
    env'.reply (.writeFile path (StateFile.contents l')) w' =
      env.reply (.writeFile path (StateFile.contents l)) w
  whileWritten : ∀ path l l' s, LocalState.SameButTime l l' →
    env'.touch (.writeFile path (StateFile.contents l')) w' s =
      env.touch (.writeFile path (StateFile.contents l)) w s
  renamed : ∀ path l l' source target, LocalState.SameButTime l l' →
    env'.reply (.renameFile source target) (env'.next (.writeFile path (StateFile.contents l')) w') =
      env.reply (.renameFile source target) (env.next (.writeFile path (StateFile.contents l)) w)
  whileRenamed : ∀ path l l' source target s, LocalState.SameButTime l l' →
    env'.touch (.renameFile source target) (env'.next (.writeFile path (StateFile.contents l')) w') s =
      env.touch (.renameFile source target) (env.next (.writeFile path (StateFile.contents l)) w) s

/-- It makes no difference to the environment which time is saved. -/
def Timeless (env : Environment ω σ) : Prop := ∀ w, env.SavesAlike env w w

/-- It makes none where files can always be saved and nobody touches the state meanwhile. -/
theorem timeless_of_obliging {env : Environment ω σ} (obliging : env.toOracle.Obliging)
    (untouched : ∀ r w s, r.isFileWrite = true → env.touch r w s = s) : env.Timeless := by
  intro w
  constructor
  · intro path l l' same
    rw [obliging.written, obliging.written]
  · intro path l l' s same
    rw [untouched _ _ _ rfl, untouched _ _ _ rfl]
  · intro path l l' source target same
    rw [obliging.renamed, obliging.renamed]
  · intro path l l' source target s same
    rw [untouched _ _ _ rfl, untouched _ _ _ rfl]

/-- In related worlds both environments answer alike, apart from the time and from answers that fail to come,
and stay related. -/
structure Mirrors (env : Environment ω σ) (env' : Environment υ σ) (limit : Duration)
    (related : ω → υ → Prop) : Prop where
  replied : ∀ (r : Request) w w', related w w' → r.Within limit →
    r.explain (env'.reply r w') = r.explain (env.reply r w)
  touched : ∀ r w w' s, related w w' → env'.touch r w' s = env.touch r w s
  next : ∀ (r : Request) w w', related w w' → r.Within limit → related (env.next r w) (env'.next r w')
  ticked : ∀ w w', related w w' → related (env.next .clock w) (env'.next .clock w')
  saves : ∀ w w', related w w' → env.SavesAlike env' w w'

end Environment

section Mirrors

variable {env : Environment ω σ} {env' : Environment υ σ} {limit : Duration} {related : ω → υ → Prop}
  {w : ω} {w' : υ}

/-- What does not look at the time goes the same way. -/
theorem Run.Explains.mirrored {run : Run σ α} (explains : run.Explains limit)
    (mirrors : env.Mirrors env' limit related) (begun : related w w') :
    (run.course env w).Parallel related (run.course env' w') := by
  induction run generalizing w w' with
  | returned value state => exact ⟨rfl, begun, rfl⟩
  | failed error state => exact ⟨rfl, begun, rfl⟩
  | noted event rest ih => exact ih explains begun
  | waiting request state resume ih =>
      obtain ⟨within, onward⟩ := explains
      have touched := mirrors.touched request w w' state begun
      -- The run goes on in one way with both replies, since they come to the same once explained.
      have same : resume (env'.reply request w') (env'.touch request w' state) =
          resume (env.reply request w) (env.touch request w state) := by
        rw [touched, ← (onward (env'.reply request w') _).1, mirrors.replied request w w' begun within,
          (onward (env.reply request w) _).1]
      obtain ⟨ending, world, requests⟩ := ih _ _ (onward _ _).2 (mirrors.next request w w' begun within)
      simp only [Run.course, same]
      exact ⟨ending, world, congrArg (request :: ·) requests⟩

/-- Records that differ in when they were made are saved alike. -/
theorem StateFile.save_mirrored (alike : env.SavesAlike env' w w') {l l' : LocalState}
    (same : l.SameButTime l') (file : StateFile) (s : σ) :
    let c := ((save file l : Program σ Unit) s).course env w
    let d := ((save file l' : Program σ Unit) s).course env' w'
    d.ending = c.ending ∧ List.Forall₂ Request.SameButTime (c.exchanges.map (·.request))
      (d.exchanges.map (·.request)) := by
  cases file with
  | none => exact ⟨rfl, .nil⟩
  | some path =>
      simp only [save_eq, Run.course, alike.written _ _ _ same, alike.whileWritten _ _ _ _ same]
      cases env.reply (.writeFile (temporaryPath path) (contents l)) w with
      | error fault => exact ⟨rfl, .cons (.written _ same) .nil⟩
      | ok _ =>
          simp only [replacing, Run.course, alike.renamed _ _ _ _ _ same, alike.whileRenamed _ _ _ _ _ _ same]
          cases env.reply (.renameFile (temporaryPath path) path)
              (env.next (.writeFile (temporaryPath path) (contents l)) w) with
          | error fault => exact ⟨rfl, .cons (.written _ same) (.cons (.refl _) .nil)⟩
          | ok _ => exact ⟨rfl, .cons (.written _ same) (.cons (.refl _) .nil)⟩

end Mirrors

namespace Session

variable {env : Environment ω Session} {env' : Environment υ Session} {p : Profile}
  {related : ω → υ → Prop} {w : ω} {w' : υ}

theorem commit_sameButTime (mirrors : env.Mirrors env' p.limit related) (begun : related w w')
    (index : CollectionIndex) (m : GlobalMetadata) (s : Session) :
    ((commit p index m s).course env w).SameButTime ((commit p index m s).course env' w') := by
  let fingerprint := if (s.cycle.getD .start).performedFreshStart then none else some index.fingerprint
  let next (now : Instant) : LocalState := ⟨some m.syncId, fingerprint, some now⟩
  let recording (now : Instant) : Unit → Program Session Unit := fun _ s => .returned ()
    ((s.withBook { s.book with localState := next now }).withReport fun r =>
      { r with syncId := some m.syncId })
  have run : commit p index m s = .waiting .clock s fun now s =>
      (StateFile.save p.config.statePath (next now) s).bind (recording now) := rfl
  have same (now now' : Instant) : (next now).SameButTime (next now') := ⟨rfl, rfl, rfl⟩
  have saved := StateFile.save_mirrored (mirrors.saves _ _ (mirrors.ticked w w' begun))
    (same (env.reply .clock w) (env'.reply .clock w')) p.config.statePath (env.touch .clock w s)
  obtain ⟨ending, requests⟩ := saved
  rw [run]
  simp only [Run.course, mirrors.touched .clock w w' s begun, Run.course_bind, ending]
  cases ((StateFile.save p.config.statePath (next (env.reply .clock w)) : Program Session Unit)
      (env.touch .clock w s)).course env (env.next .clock w) |>.ending with
  | failed e last => exact ⟨rfl, .refl _, .cons (.refl _) requests⟩
  | returned _ last =>
      refine ⟨rfl, ⟨_, same _ _, rfl⟩, ?_⟩
      simp only [recording, Run.course, List.append_nil]
      exact .cons (.refl .clock) requests

/-- A cycle goes the same way, but for when it commits. -/
theorem runCycle_sameButTime (mirrors : env.Mirrors env' p.limit related) (begun : related w w')
    (s : Session) :
    ((runCycle p s).course env w).SameButTime ((runCycle p s).course env' w') := by
  obtain ⟨ending, world, requests⟩ := (explains_work (p := p) s).mirrored mirrors begun
  rw [runCycle_eq_work]
  show Course.SameButTime (((work p s).bind _).course env w) (((work p s).bind _).course env' w')
  rw [Run.course_bind, Run.course_bind]
  simp only [ending]
  cases ((work p s).course env w).ending with
  | failed e last => exact ⟨rfl, .refl _, requests ▸ Request.sameButTime_self _⟩
  | returned found last =>
      have committed := commit_sameButTime mirrors world found.1 found.2 last
      refine ⟨committed.result, committed.state, ?_⟩
      simp only [List.map_append, requests]
      exact List.rel_append (Request.sameButTime_self _) committed.requests

theorem closed_sameButTime {inner inner' : Ending Session Unit} (result : inner'.result = inner.result)
    (state : inner.state.SameButTime inner'.state) :
    (closed inner').result = (closed inner).result ∧
      (closed inner).state.SameButTime (closed inner').state := by
  obtain ⟨l, same, moved⟩ := state
  cases inner with
  | returned _ s =>
      cases inner' with
      | failed e t => cases result
      | returned _ t =>
          obtain rfl : t = _ := moved
          exact ⟨rfl, l, same, rfl⟩
  | failed e s =>
      cases inner' with
      | returned _ t => cases result
      | failed e' t =>
          cases result
          obtain rfl : t = _ := moved
          exact ⟨rfl, l, same, rfl⟩

theorem sync_sameButTime (mirrors : env.Mirrors env' p.limit related) (begun : related w w')
    (s : Session) : ((sync p s).course env w).SameButTime ((sync p s).course env' w') := by
  rw [course_sync, course_sync]
  split
  · exact ⟨rfl, .refl s, .nil⟩
  · obtain ⟨result, state, requests⟩ := runCycle_sameButTime mirrors begun s.starting
    obtain ⟨result, state⟩ := closed_sameButTime result state
    exact ⟨result, state, requests⟩

end Session

end SealedSync
