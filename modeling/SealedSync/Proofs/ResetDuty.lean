import SealedSync.Proofs.LateRegistration

/-!
# The duty to reset

Between two epochs in which a synchronizer works it is reset. A cycle that notices a new epoch may
fail at any point after that; the duty is then carried on by the recorded identifier, which names the
new epoch only once a cycle in it has reset everything and handed out its keys.
-/
namespace SealedSync

/-- A cycle that has come to hand out keys. -/
def Delegates (exchanges : List (Exchange Session)) : Prop :=
  ∃ x ∈ exchanges, x.asked.state = .delegating

namespace Session

open RemoteState FreshStart

variable {ω : Type} {env : Environment ω Session} {p : Profile} {before after : ω}
  {xs : List (Exchange Session)} {s t : Session} {m : GlobalMetadata} {index : CollectionIndex}

/-- A session in a cycle that has the records it had before, and all the synchronizers. -/
structure Standing (t u : Session) : Prop where
  localState : u.book.localState = t.book.localState
  running : u.isSyncing = true
  synchronizers : t.synchronizers <+: u.synchronizers

/-- A session that is handing out keys. -/
structure Handing (t u : Session) : Prop extends Standing t u where
  delegating : u.state = .delegating

section Bystanders

variable (bystanding : Bystanding env)

include bystanding

theorem standing_touch (r : Request) (w : ω) (u : Session) (standing : Standing t u) :
    Standing t (env.touch r w u) where
  localState := (bystanding.localState r w u).trans standing.localState
  running := (bystanding.isSyncing r w u).trans standing.running
  synchronizers := standing.synchronizers.trans (bystanding.synchronizers r w u)

theorem handing_touch (r : Request) (w : ω) (u : Session) (handing : Handing t u) :
    Handing t (env.touch r w u) where
  toStanding := standing_touch bystanding r w u handing.toStanding
  delegating := (bystanding.state r w u).trans handing.delegating

/-- What becomes of the records when a cycle hands out keys: they stay as they are, or they name the
epoch of the metadata. -/
structure Concluded (t : Session) (m : GlobalMetadata) (exchanges : List (Exchange Session))
    (ending : Ending Session Unit) : Prop where
  handing : ∀ x ∈ exchanges, x.request.isSynchronize = true → x.asked.state = .delegating
  recorded : ending.state.book.localState = t.book.localState ∨
    (Delegates exchanges ∧ ending.state.book.localState.lastSyncId = some m.syncId)
  synchronizers : t.synchronizers <+: ending.state.synchronizers

omit bystanding in
theorem Concluded.of_standing {ending : Ending Session Unit}
    (handing : ∀ x ∈ xs, x.request.isSynchronize = true → x.asked.state = .delegating)
    (standing : Standing t ending.state) : Concluded t m xs ending :=
  ⟨handing, .inl standing.localState, standing.synchronizers⟩

omit bystanding in
theorem Concluded.append {ending : Ending Session Unit} {ys : List (Exchange Session)}
    (concluded : Concluded t m ys ending)
    (handing : ∀ x ∈ xs, x.request.isSynchronize = true → x.asked.state = .delegating) :
    Concluded t m (xs ++ ys) ending where
  handing x member synchronizes := by
    rcases List.mem_append.mp member with member | member
    · exact handing x member synchronizes
    · exact concluded.handing x member synchronizes
  recorded := by
    rcases concluded.recorded with same | ⟨⟨x, member, delegating⟩, named⟩
    · exact .inl same
    · exact .inr ⟨⟨x, List.mem_append_right _ member, delegating⟩, named⟩
  synchronizers := concluded.synchronizers

/-- A commit records the epoch, or it changes nothing. -/
theorem commit_concluded {u : Session} (handing : Handing t u) {ending : Ending Session Unit}
    (taken : (commit p index m).Takes env u before xs ending after) : Concluded t m xs ending := by
  unfold commit at taken
  rw [takes_report_bind] at taken
  obtain ⟨rest, rfl, saving⟩ := Program.takes_request_bind.mp taken
  obtain ⟨inner, _, head, tail, saved, rfl, recording⟩ := saving.split
  have kept (state : LocalState) : (StateFile.save p.config.statePath state : Program Session Unit).Keeps
      (Handing t) fun r => r.isFileWrite = true := StateFile.keeps_save (fun _ h => h) _ _
  obtain ⟨files, last⟩ := (kept _).takes (handing_touch bystanding _ _ _ handing)
    (handing_touch bystanding) saved
  have begun : Delegates (env.exchange .clock u before :: (head ++ tail)) :=
    ⟨_, List.mem_cons_self, handing.delegating⟩
  have unhanded : ∀ x ∈ env.exchange .clock u before :: head,
      x.request.isSynchronize = true → x.asked.state = .delegating := by
    intro x member _
    rcases List.mem_cons.mp member with rfl | member
    · exact handing.delegating
    · exact (files x member).1.delegating
  cases inner with
  | failed e v =>
      obtain ⟨rfl, rfl, rfl⟩ := recording
      rw [List.append_nil]
      exact .of_standing unhanded last.toStanding
  | returned _ v =>
      have recording := Program.takes_modify_bind.mp recording
      obtain ⟨rfl, rfl, -⟩ := Program.takes_modify.mp recording
      rw [List.append_nil] at begun ⊢
      exact ⟨unhanded, .inr ⟨begun, rfl⟩, last.synchronizers⟩

omit bystanding in
theorem standing_entering {u : Session} (standing : Standing t u) :
    Handing t (u.entering .delegating) where
  localState := standing.localState
  running := (isSyncing_entering u _).trans standing.running
  synchronizers := standing.synchronizers
  delegating := state_entering standing.running _

/-- Handing out keys changes the records by a commit at most. -/
theorem conclude_concluded (running : t.isSyncing = true) {ending : Ending Session Unit}
    (taken : (conclude p index m).Takes env t before xs ending after) : Concluded t m xs ending := by
  obtain ⟨inner, _, head, tail, checking, rfl, continued⟩ := taken.split
  have checks : (checkKeys p p.config.collectionNames).Keeps (Standing t)
      fun r => r.isSynchronize = false :=
    keeps_checkKeys (fun name => keeps_onKeyring (Keyring.keeps_keyFor (by rfl) name)
      fun _ _ holds => { holds with }) _
  have begun : Standing t t := ⟨rfl, running, List.prefix_rfl⟩
  obtain ⟨checked, standing⟩ := checks.takes begun (standing_touch bystanding) checking
  have unhanded : ∀ x ∈ head, x.request.isSynchronize = true → x.asked.state = .delegating :=
    fun x member synchronizes =>
      absurd ((checked x member).2.1.symm.trans synchronizes) Bool.false_ne_true
  refine Concluded.append ?_ unhanded
  cases inner with
  | failed e u =>
      obtain ⟨rfl, rfl, rfl⟩ := continued
      exact .of_standing (by simp) standing
  | returned _ u =>
      dsimp only at continued
      rw [takes_checkpoint_bind] at continued
      split at continued
      · obtain ⟨rfl, rfl, rfl⟩ := continued
        exact .of_standing (by simp) standing
      · rw [takes_enter_bind, Program.takes_get_bind] at continued
        obtain ⟨inner, _, handed, tail, delegating, rfl, committing⟩ := continued.split
        have delegates : (delegate p u.synchronizers).Keeps (Handing t) fun _ => True := by
          apply keeps_delegate
          case keys =>
            exact fun name => keeps_onKeyring (Keyring.keeps_keyFor trivial name)
              fun _ _ holds => { holds with }
          case reporting =>
            intro v f kept holds
            exact { holds with
              running := (isSyncing_withReport v).trans holds.running
              delegating := (state_withReport (fun r => (kept r).2.1) v).trans holds.delegating }
          case handing => exact fun _ _ => trivial
        obtain ⟨exchanged, last⟩ := delegates.takes (standing_entering standing)
          (handing_touch bystanding) delegating
        have handing : ∀ x ∈ handed, x.request.isSynchronize = true → x.asked.state = .delegating :=
          fun x member _ => (exchanged x member).1.delegating
        refine Concluded.append ?_ handing
        cases inner with
        | failed e v =>
            obtain ⟨rfl, rfl, rfl⟩ := committing
            exact .of_standing (by simp) last.toStanding
        | returned _ v => exact commit_concluded bystanding last committing

/-! ## One cycle -/

omit bystanding in
/-- A synchronizer that was there when the cycle began is reset, or the epoch is the recorded one. -/
theorem Readied.reset_or_known {c : Synchronizer} (readied : Readied p s m xs t)
    (registered : c ∈ s.synchronizers) :
    ResetIn c xs ∨ s.book.localState.lastSyncId = some m.syncId := by
  rcases readied.resets with same | ⟨-, known, -⟩
  · exact .inl ((same c).mpr (readied.present c registered))
  · exact .inr known

variable (idle : s.isSyncing = false) {ending : Ending Session CycleReport}
  (taken : (sync p).Takes env s before xs ending after)

include idle taken

theorem sync_synchronizers : s.synchronizers <+: ending.state.synchronizers := by
  cases sync_cut bystanding idle taken with
  | stopped _ e u early preparing => exact preparing.synchronizers
  | handed head tail index m t world inner early preparing readied concluding =>
      have grown := (conclude_concluded bystanding preparing.running concluding).synchronizers
      have kept : (closed inner).state.synchronizers = inner.state.synchronizers := by
        cases inner <;> rfl
      rw [kept]
      exact preparing.synchronizers.trans grown

/-- A cycle keeps the recorded identifier or drops it, or it works in an epoch and records that. -/
theorem sync_records :
    ending.state.book.localState.lastSyncId = s.book.localState.lastSyncId ∨
      ending.state.book.localState.lastSyncId = none ∨
      ∃ a, Delegates xs ∧ activeId xs = some a ∧
        ending.state.book.localState.lastSyncId = some a ∧
        ∀ c ∈ s.synchronizers, ResetIn c xs ∨ s.book.localState.lastSyncId = some a := by
  have dropped {u : Session} (preparing : Preparing s u) :
      u.book.localState.lastSyncId = s.book.localState.lastSyncId ∨
        u.book.localState.lastSyncId = none := by
    rcases preparing.localState with same | same <;> rw [same]
    · exact .inl rfl
    · exact .inr rfl
  cases sync_cut bystanding idle taken with
  | stopped _ e u early preparing => exact (dropped preparing).imp_right .inl
  | handed head tail index m t world inner early preparing readied concluding =>
      have concluded := conclude_concluded bystanding preparing.running concluding
      have kept : (closed inner).state.book = inner.state.book := by cases inner <;> rfl
      rw [kept]
      rcases concluded.recorded with same | ⟨⟨x, member, delegating⟩, named⟩
      · rw [same]
        exact (dropped preparing).imp_right .inl
      · have between : ∀ y ∈ tail, y.request.isMilestone = false :=
          fun y later => (conclude_between bystanding concluding y later).1
        refine .inr (.inr ⟨m.syncId, ⟨x, List.mem_append_right _ member, delegating⟩,
          (activeId_append_between between).trans readied.active, named, fun c registered => ?_⟩)
        exact (readied.reset_or_known registered).imp_left fun reset => resetIn_append.mpr (.inl reset)

/-- Before a synchronizer that was there from the beginning is handed its key, it is reset, unless the
epoch is the recorded one. -/
theorem sync_handed {first rest : List (Exchange Session)} {x : Exchange Session} {c : Synchronizer}
    {key : Key} (registered : c ∈ s.synchronizers) (split : xs = first ++ x :: rest)
    (handed : x.request = .synchronize c key) :
    Delegates xs ∧ ∃ a, activeId xs = some a ∧
      (ResetIn c first ∨ s.book.localState.lastSyncId = some a) := by
  have handing : x.request.isSynchronize = true := by rw [handed]; rfl
  cases sync_cut bystanding idle taken with
  | stopped _ e u early preparing =>
      have unhanded := (early x (by simp [split])).2
      exact absurd (unhanded.symm.trans handing) Bool.false_ne_true
  | handed head tail index m t world inner early preparing readied concluding =>
      have late : x ∉ head := fun member =>
        Bool.false_ne_true ((early x member).2.symm.trans handing)
      obtain ⟨middle, rfl, rfl⟩ := split_later split.symm late
      have concluded := conclude_concluded bystanding preparing.running concluding
      have between : ∀ y ∈ middle ++ x :: rest, y.request.isMilestone = false :=
        fun y later => (conclude_between bystanding concluding y later).1
      refine ⟨⟨x, by simp, concluded.handing x (by simp) handing⟩, m.syncId,
        (activeId_append_between between).trans readied.active, ?_⟩
      exact (readied.reset_or_known registered).imp_left fun reset => resetIn_append.mpr (.inl reset)

end Bystanders

/-! ## All cycles -/

section Cycles

variable (env : Environment ω Session) (p : Profile) (s : Nat → Session) (w : Nat → ω)

/-- The course of the cycle of a number, among others. -/
def courseAt (n : Nat) : Course ω Session CycleReport := (sync p (s n)).course env (w n)

/-- Some cycles of one session, up to the last of them. Between them others may do what they may do
while the session waits. -/
structure Succession (last : Nat) : Prop where
  idle : ∀ n ≤ last, (s n).isSyncing = false
  localState : ∀ n < last,
    (s (n + 1)).book.localState = (courseAt env p s w n).ending.state.book.localState
  synchronizers : ∀ n < last,
    (courseAt env p s w n).ending.state.synchronizers <+: (s (n + 1)).synchronizers

/-- A cycle comes to hand out keys in an epoch. -/
def WorksIn (n : Nat) (syncId : String) : Prop :=
  Delegates (courseAt env p s w n).exchanges ∧ activeId (courseAt env p s w n).exchanges = some syncId

/-- No epoch that was left, be it the one that was recorded at first, is worked in again. -/
def NeverReturns (last : Nat) : Prop :=
  ∀ i k old new, i < k → k ≤ last → WorksIn env p s w i old → WorksIn env p s w k new → new ≠ old →
    (s 0).book.localState.lastSyncId ≠ some new ∧ ∀ h < i, ¬WorksIn env p s w h new

end Cycles

theorem taken_courseAt (env : Environment ω Session) (p : Profile) (s : Nat → Session)
    (w : Nat → ω) (n : Nat) : (sync p).Takes env (s n) (w n) (courseAt env p s w n).exchanges
      (courseAt env p s w n).ending (courseAt env p s w n).world :=
  Run.takes_course env (sync p (s n)) (w n)

section Run

variable {env : Environment ω Session} {p : Profile} {s : Nat → Session} {w : Nat → ω} {last : Nat}
  {c : Synchronizer} (bystanding : Bystanding env) (succession : Succession env p s w last)

include bystanding succession

/-- Whoever is registered stays registered. -/
theorem stays_registered (registered : c ∈ (s 0).synchronizers) {n : Nat} (within : n ≤ last) :
    c ∈ (s n).synchronizers := by
  induction n with
  | zero => exact registered
  | succ n ih =>
      have earlier := ih (Nat.le_of_succ_le within)
      have grown := sync_synchronizers bystanding (succession.idle n (Nat.le_of_succ_le within))
        (taken_courseAt env p s w n)
      exact (succession.synchronizers n within).subset (grown.subset earlier)

/-- The record of an epoch outlives a cycle, unless the cycle makes it. -/
theorem recorded_step {n : Nat} (within : n < last) {syncId : String}
    (recorded : (s (n + 1)).book.localState.lastSyncId = some syncId) :
    (s n).book.localState.lastSyncId = some syncId ∨
      (WorksIn env p s w n syncId ∧
        ∀ c ∈ (s n).synchronizers, ResetIn c (courseAt env p s w n).exchanges) := by
  have cycle := sync_records bystanding (succession.idle n (Nat.le_of_lt within))
    (taken_courseAt env p s w n)
  rw [succession.localState n within] at recorded
  rcases cycle with same | dropped | ⟨a, delegates, active, named, resets⟩
  · exact .inl (same.symm.trans recorded)
  · cases dropped.symm.trans recorded
  · obtain rfl : a = syncId := Option.some.inj (named.symm.trans recorded)
    by_cases known : (s n).book.localState.lastSyncId = some a
    · exact .inl known
    · exact .inr ⟨⟨delegates, active⟩, fun c member => (resets c member).resolve_right known⟩

/-- An epoch that is on record was on record from the beginning, or a cycle worked in it. -/
theorem recorded_origin {n : Nat} (within : n ≤ last) {syncId : String}
    (recorded : (s n).book.localState.lastSyncId = some syncId) :
    (s 0).book.localState.lastSyncId = some syncId ∨ ∃ h < n, WorksIn env p s w h syncId := by
  induction n with
  | zero => exact .inl recorded
  | succ n ih =>
      rcases recorded_step bystanding succession within recorded with before | ⟨works, -⟩
      · rcases ih (Nat.le_of_succ_le within) before with initial | ⟨h, earlier, works⟩
        · exact .inl initial
        · exact .inr ⟨h, Nat.lt_succ_of_lt earlier, works⟩
      · exact .inr ⟨n, Nat.lt_succ_self n, works⟩

/-- As long as a synchronizer is not reset, no new epoch comes on record. -/
theorem recorded_before (registered : c ∈ (s 0).synchronizers) {i n : Nat} (later : i ≤ n)
    (within : n ≤ last) {syncId : String}
    (unreset : ∀ j, i ≤ j → j < n → ¬ResetIn c (courseAt env p s w j).exchanges)
    (recorded : (s n).book.localState.lastSyncId = some syncId) :
    (s i).book.localState.lastSyncId = some syncId := by
  induction later with
  | refl => exact recorded
  | @step n later ih =>
      apply ih (Nat.le_of_succ_le within)
      · exact fun j after before => unreset j after (Nat.lt_succ_of_lt before)
      · rcases recorded_step bystanding succession within recorded with before | ⟨-, resets⟩
        · exact before
        · have present := stays_registered bystanding succession registered
            (Nat.le_of_succ_le within)
          exact absurd (resets c present) (unreset n later (Nat.lt_succ_self n))

end Run

/-! ## Two epochs in turn -/

/-- While nobody else is there, nobody disturbs. -/
theorem bystanding_alone (oracle : Oracle ω) : Bystanding oracle.alone where
  localState _ _ _ := rfl
  cycle _ _ _ := rfl
  synchronizers _ _ _ := List.prefix_rfl

/-- What is handed out is handed to every synchronizer. -/
theorem Delivered.hands {s last : Session} {k : Keyring} {bundle : KeyBundle}
    (delivered : Delivered s k m bundle xs last) {c : Synchronizer} (registered : c ∈ s.synchronizers) :
    ∃ x ∈ xs, x.request = delegation bundle c := by
  obtain ⟨saves, requests, -⟩ := delivered.handed
  have listed : delegation bundle c ∈ xs.map (·.request) := by
    rw [requests]
    exact List.mem_append_left _ (List.mem_map_of_mem registered)
  exact List.mem_map.mp listed

/-- With a server that is in order, a cycle works in its epoch and hands every synchronizer its key. -/
theorem sync_works {oracle : Oracle ω} {content : ω → Storage} {key : Key}
    (honest : oracle.Honest content) (obliging : oracle.Obliging) (usable : p.sealingKey = .ok key)
    (idle : s.isSyncing = false) (sound : (content before).Sound p.config.storageVersion key m)
    {ending : Ending Session CycleReport}
    (taken : (sync p).Takes oracle.alone s before xs ending after) :
    ending.state.book.localState.lastSyncId = some m.syncId ∧
      (s.book.localState.lastSyncId ≠ some m.syncId → activeId xs = some m.syncId) ∧
      ∀ c ∈ s.synchronizers, ∃ x ∈ xs, ∃ bundle, x.request = delegation bundle c := by
  have records := sync_records (bystanding_alone oracle) idle taken
  obtain ⟨bundle, opened⟩ := sound.keys
  obtain ⟨inner, reads, rest, rfl, rfl, prelude, continued⟩ :=
    takes_sync_honest honest idle usable taken
  simp only [sound.evaluated] at continued
  obtain ⟨resets, rest, rfl, resetRequests, maintaining⟩ := takes_settleEpoch_current obliging continued
  have wanted : (s.evaluating.keyed.settled m).cancelRequested = false := cancelRequested_settled ..
  have delivers : ∃ last k bundle ys, inner = .returned () last ∧ (∀ y ∈ ys, y ∈ rest) ∧
      Delivered (s.evaluating.keyed.settled m) k m bundle ys last := by
    cases held : ((s.evaluating.keyed.settled m).keyBound (content before).index m).book.keyring.bundle with
    | some cached =>
        obtain ⟨last, same, delivered⟩ := takes_maintain_cached obliging usable wanted held maintaining
        exact ⟨last, _, cached, rest, same, fun _ member => member, delivered⟩
    | none =>
        have read : (content (oracle.world before reads)).SameBookkeeping (content before) :=
          honest.quiet (Exchange.forall_of_requests rfl prelude.isWrite_eq_false)
        have unwritten := (honest.quiet
          (Exchange.forall_of_requests resetRequests isWrite_settleRequests)).trans read
        obtain ⟨last, same, -, x, tail, rfl, -, delivered⟩ := takes_maintain_opened honest obliging
          usable wanted held ((Storage.bundle_congr unwritten key).trans opened) maintaining
        exact ⟨last, _, bundle, tail, same, fun _ => List.mem_cons_of_mem x, delivered⟩
  obtain ⟨last, k, handedOut, ys, rfl, part, delivered⟩ := delivers
  have listed : (s.evaluating.keyed.settled m).synchronizers = s.synchronizers := synchronizers_settled ..
  refine ⟨delivered.epoch, fun unknown => ?_, fun c registered => ?_⟩
  · rcases records with same | dropped | ⟨a, -, active, named, -⟩
    · exact absurd (same.symm.trans delivered.epoch) unknown
    · cases dropped.symm.trans delivered.epoch
    · exact active.trans (named.symm.trans delivered.epoch)
  · obtain ⟨x, member, handed⟩ := delivered.hands (listed.symm ▸ registered)
    have within : x ∈ reads ++ (resets ++ rest) :=
      List.mem_append_right _ (List.mem_append_right _ (part x member))
    exact ⟨x, within, handedOut, handed⟩

/-- Between two epochs in which a synchronizer works it is reset, however many cycles fail in
between and wherever they fail, as long as no epoch returns. -/
theorem reset_between {env : Environment ω Session} {p : Profile} {s : Nat → Session} {w : Nat → ω}
    {last : Nat} (bystanding : Bystanding env) (succession : Succession env p s w last)
    (progress : NeverReturns env p s w last) {c : Synchronizer}
    (registered : c ∈ (s 0).synchronizers) {i n : Nat} (later : i < n) (within : n ≤ last)
    {head tail before after : List (Exchange Session)} {x y : Exchange Session} {old new : Key}
    (worked : (courseAt env p s w i).exchanges = head ++ x :: tail)
    (handedOld : x.request = .synchronize c old)
    (works : (courseAt env p s w n).exchanges = before ++ y :: after)
    (handedNew : y.request = .synchronize c new)
    (changed : activeId (courseAt env p s w n).exchanges ≠
      activeId (courseAt env p s w i).exchanges) :
    (∃ j, i < j ∧ j < n ∧ ResetIn c (courseAt env p s w j).exchanges) ∨ ResetIn c before := by
  have earlier : i ≤ last := Nat.le_trans (Nat.le_of_lt later) within
  obtain ⟨delegated, a, active, -⟩ := sync_handed bystanding (succession.idle i earlier)
    (taken_courseAt env p s w i) (stays_registered bystanding succession registered earlier) worked
    handedOld
  obtain ⟨delegates, b, current, known⟩ := sync_handed bystanding (succession.idle n within)
    (taken_courseAt env p s w n) (stays_registered bystanding succession registered within) works
    handedNew
  have other : b ≠ a := by
    rintro rfl
    exact changed (current.trans active.symm)
  rcases known with reset | recorded
  · exact .inr reset
  · refine .inl (Classical.byContradiction fun unreset => ?_)
    -- Without a reset the record would be as old as cycle `i`, so its epoch would have returned.
    have since : (s (i + 1)).book.localState.lastSyncId = some b :=
      recorded_before bystanding succession registered later within
        (fun j after before reset => unreset ⟨j, after, before, reset⟩) recorded
    obtain ⟨fresh, unworked⟩ := progress i n a b later within ⟨delegated, active⟩
      ⟨delegates, current⟩ other
    rcases recorded_step bystanding succession (Nat.lt_of_lt_of_le later within) since with
      already | ⟨⟨-, named⟩, -⟩
    · rcases recorded_origin bystanding succession earlier already with initial | ⟨h, past, worksIn⟩
      · exact fresh initial
      · exact unworked h past worksIn
    · exact other (Option.some.inj (named.symm.trans active))

/-- The session before each cycle, if it is left alone and the server changes as given. -/
def visiting (oracle : Oracle ω) (p : Profile) (first : Session) (w : Nat → ω) : Nat → Session
  | 0 => first
  | n + 1 => ((sync p (visiting oracle p first w n)).course oracle.alone (w n)).ending.state

theorem succession_visiting (oracle : Oracle ω) (p : Profile) {first : Session} (w : Nat → ω)
    (idle : first.isSyncing = false) (last : Nat) :
    Succession oracle.alone p (visiting oracle p first w) w last where
  localState _ _ := rfl
  synchronizers _ _ := List.prefix_rfl
  idle n _ := by
    induction n with
    | zero => exact idle
    | succ n ih =>
        obtain ⟨inner, -, same⟩ := (takes_sync (ih (by omega))).mp
          (taken_courseAt oracle.alone p (visiting oracle p first w) w n)
        show (courseAt oracle.alone p (visiting oracle p first w) w n).ending.state.isSyncing = false
        rw [same]
        exact isSyncing_closed inner

open Simulation in
/-- A server that another client brings into another epoch after the first cycle. -/
def turnoverServer : Nat → Memory
  | 0 => Memory.settled "first"
  | _ + 1 => Memory.settled "second"

open Simulation in
/-- The cycles of a session with one synchronizer on that server. -/
def turnover : Nat → Course Memory Session CycleReport :=
  courseAt Memory.oracle.alone Memory.profile
    (visiting Memory.oracle Memory.profile ((ofLocalState .empty).enlisting "tabs") turnoverServer)
    turnoverServer

open Simulation in
theorem turnover_reset_between : ∃ head x tail before y after old new,
    (turnover 0).exchanges = head ++ x :: tail ∧ x.request = .synchronize ⟨"tabs", 0⟩ old ∧
      (turnover 1).exchanges = before ++ y :: after ∧ y.request = .synchronize ⟨"tabs", 0⟩ new ∧
      activeId (turnover 1).exchanges ≠ activeId (turnover 0).exchanges ∧
      ((∃ j, 0 < j ∧ j < 1 ∧ ResetIn ⟨"tabs", 0⟩ (turnover j).exchanges) ∨
        ResetIn ⟨"tabs", 0⟩ before) := by
  have bystanding : Bystanding (Memory.oracle.alone : Environment Memory Session) :=
    bystanding_alone Memory.oracle
  have succession := succession_visiting Memory.oracle Memory.profile turnoverServer
    (rfl : ((ofLocalState .empty).enlisting "tabs").isSyncing = false) 1
  have cycle := taken_courseAt Memory.oracle.alone Memory.profile
    (visiting Memory.oracle Memory.profile ((ofLocalState .empty).enlisting "tabs") turnoverServer)
    turnoverServer
  obtain ⟨recorded, active, hands⟩ := sync_works Memory.oracle_faithful.toHonest Memory.oracle_faithful.obliging rfl
    (succession.idle 0 (by omega)) (Memory.settled_sound "first") (cycle 0)
  obtain ⟨-, renewed, handsAnew⟩ := sync_works Memory.oracle_faithful.toHonest Memory.oracle_faithful.obliging rfl
    (succession.idle 1 (by omega)) (Memory.settled_sound "second") (cycle 1)
  have activeFirst : activeId (turnover 0).exchanges = some "first" := active nofun
  have activeSecond : activeId (turnover 1).exchanges = some "second" := by
    apply renewed
    rw [succession.localState 0 (by omega), recorded]
    decide
  have changed : activeId (turnover 1).exchanges ≠ activeId (turnover 0).exchanges := by
    rw [activeFirst, activeSecond]
    decide
  have progress : NeverReturns Memory.oracle.alone Memory.profile
      (visiting Memory.oracle Memory.profile ((ofLocalState .empty).enlisting "tabs") turnoverServer)
      turnoverServer 1 := by
    intro i k old new before within _ _ _
    obtain rfl : i = 0 := by omega
    exact ⟨nofun, nofun⟩
  have registered : (⟨"tabs", 0⟩ : Synchronizer) ∈
      ((ofLocalState .empty).enlisting "tabs").synchronizers := List.mem_cons_self
  have present := stays_registered bystanding succession registered (Nat.le_refl 1)
  obtain ⟨x, member, bundle, handed⟩ := hands _ registered
  obtain ⟨head, tail, split⟩ := List.append_of_mem member
  obtain ⟨y, member, bundleAnew, handedAnew⟩ := handsAnew _ present
  obtain ⟨before, after, splitAnew⟩ := List.append_of_mem member
  exact ⟨head, x, tail, before, y, after, _, _, split, handed, splitAnew, handedAnew, changed,
    reset_between bystanding succession progress registered Nat.zero_lt_one (Nat.le_refl 1) split
      handed splitAnew handedAnew changed⟩

end Session

end SealedSync
