import SealedSync.Proofs.BundleOpening
import SealedSync.Proofs.CancelMoments
import SealedSync.Proofs.FatalReplies

/-!
# A bundle that the key does not open

A bundle under another key may be one that was sealed with another passphrase, and whoever has that passphrase
still needs it. So a cycle that meets it fails, and it is not among the reasons for a wipe: for want of keys
the server is wiped only right after a fetch that finds no bundle, or one that is malformed.
-/
namespace SealedSync

variable {ω σ α β : Type}

/-! ## What directly follows what calls for it -/

namespace Program

/-- An answer is remembered by whether the exchange calls for what may follow it. -/
abbrev remembering (calls : Exchange σ → Prop) : Answering Prop σ :=
  fun r _ s reply called resumed => called = calls ⟨r, s, reply, resumed⟩

/-- Some requests are made only when they have just been called for. -/
abbrev whenCalled (wanted : σ → Request → Prop) : Asking Prop σ :=
  fun called s r => wanted s r → called

end Program

namespace Run

open Program

variable {calls : Exchange σ → Prop} {wanted : σ → Request → Prop}

theorem Assures.follows {run : Run σ α} {post : Prop → Ending σ α → Prop} {called : Prop}
    {env : Environment ω σ} {before after : ω} {head tail : List (Exchange σ)} {x : Exchange σ}
    {ending : Ending σ α} (assures : run.Assures (remembering calls) (whenCalled wanted) post called)
    (taken : run.Takes env before (head ++ x :: tail) ending after)
    (asked : wanted x.asked x.request) :
    head = [] ∧ called ∨ ∃ earlier y, head = earlier ++ [y] ∧ calls y := by
  induction run generalizing called before head with
  | returned value state => simp at taken
  | failed error state => simp at taken
  | noted event rest ih => exact ih assures taken
  | waiting request state resume ih =>
      obtain ⟨rest, same, continued⟩ := takes_waiting.mp taken
      cases head with
      | nil =>
          obtain ⟨rfl, -⟩ := List.cons.inj same
          exact .inl ⟨rfl, assures.1 asked⟩
      | cons y head =>
          obtain ⟨rfl, rfl⟩ := List.cons.inj same
          rcases ih _ _ (assures.2 _ _ _ rfl) continued with ⟨rfl, called⟩ | ⟨earlier, z, rfl, called⟩
          · exact .inr ⟨[], _, rfl, called⟩
          · exact .inr ⟨_ :: earlier, z, rfl, called⟩

end Run

/-- A program that keeps to some requests does so whatever it is answered. -/
theorem Program.Keeps.anyway {program : Program σ α} {allowed : Request → Prop}
    {answering : Answering ω σ} {asking : Asking ω σ}
    (kept : program.Keeps (fun _ => True) allowed)
    (permits : ∀ world s r, allowed r → asking world s r) :
    program.Assures answering asking (fun _ _ => True) (fun _ _ _ => True) fun _ _ => True := by
  intro world s _
  have kept := kept s trivial
  generalize program s = run at kept
  induction run generalizing world with
  | returned value state => trivial
  | failed error state => trivial
  | noted event rest ih => exact ih world kept
  | waiting request state resume ih =>
      refine ⟨permits _ _ _ kept.2.1, fun reply later resumed _ => ?_⟩
      exact ih reply resumed later (kept.2.2 reply resumed trivial)

namespace Session

open Program RemoteState FreshStart

/-- The request is the wipe of a fresh start that is made for want of keys. -/
def wipesForKeys (s : Session) (r : Request) : Prop :=
  r.isWipe = true ∧ s.freshStartReason = some .unusableKeys

section Prompted

variable {p : Profile} {key : Key}

/-- Begun where `pre` holds, the program wipes for want of keys only right after a fetch that finds them
unusable, and it returns where `post` holds. -/
abbrev Prompted (p : Profile) (key : Key) (pre : Prop → Session → Prop) (program : Program Session α)
    (post : α → Prop → Session → Prop) : Prop :=
  program.Assures (remembering (KeysUnusable p key)) (whenCalled wipesForKeys) pre post fun _ _ => True

theorem prompted_of_keeps {program : Program Session α}
    (kept : program.Keeps (fun _ => True) fun r => r.isWipe = false) :
    Prompted p key (fun _ _ => True) program fun _ _ _ => True :=
  kept.anyway fun _ _ _ unwiped wanted => absurd (unwiped.symm.trans wanted.1) Bool.false_ne_true

theorem keeps_enter_unwiping (state : CycleState) :
    (enter state).Keeps (fun _ => True) fun r => r.isWipe = false :=
  (sustains_enter fun _ _ _ => trivial).keeps

theorem index_spares_keys (index : CollectionIndex) :
    index.evaluate ≠ .needsFreshStart .unusableKeys := by
  unfold CollectionIndex.evaluate
  split
  · nofun
  · split <;> nofun

theorem metadata_spare_keys {fetched : Except SyncError GlobalMetadata} {version : Nat}
    {found : Decision × Option GlobalMetadata}
    (evaluated : GlobalMetadata.evaluateFetch fetched version = .ok found) :
    found.1 ≠ .needsFreshStart .unusableKeys := by
  unfold GlobalMetadata.evaluateFetch at evaluated
  split at evaluated
  · unfold GlobalMetadata.evaluate at evaluated
    split at evaluated
    · cases evaluated
      nofun
    · split at evaluated
      · cases evaluated
        nofun
      · cases evaluated
  · split at evaluated
    · cases evaluated
      nofun
    · cases evaluated

/-- What the index and the metadata come to is no reason that lies in the keys. -/
theorem prompted_evaluateRemote (index : CollectionIndex) :
    Prompted p key (fun _ _ => True) (evaluateRemote p index)
      fun evaluated _ _ => True ∧ evaluated ≠ .diverged .unusableKeys := by
  unfold evaluateRemote
  split
  · rename_i reason found
    refine .note_bind (.pure fun _ _ _ => ⟨trivial, ?_⟩)
    rintro ⟨⟩
    exact index_spares_keys index found
  · have fetching : (fetchMetadata p.limit : Program Session _).Keeps (fun _ => True)
        fun r => r.isWipe = false := by
      rw [fetchMetadata_eq]
      exact .bind (.request (by rfl)) fun _ => .ofExcept _
    refine .bind (prompted_of_keeps fetching.attempt) fun fetched => ?_
    have evaluating : Prompted p key (fun _ _ => True)
        (Program.ofExcept (GlobalMetadata.evaluateFetch fetched p.config.storageVersion))
        fun found _ _ => True ∧ found.1 ≠ .needsFreshStart .unusableKeys :=
      .ofExcept (fun found _ _ evaluated _ => ⟨trivial, metadata_spare_keys evaluated⟩)
        fun _ _ _ _ _ => trivial
    refine .bind evaluating fun found => .given fun elsewhere => ?_
    split
    · exact .pure fun _ _ _ => ⟨trivial, nofun⟩
    · rename_i reason _
      refine .note_bind (.pure fun _ _ _ => ⟨trivial, ?_⟩)
      rintro ⟨⟩
      exact elsewhere rfl
    · exact .pure fun _ _ _ => ⟨trivial, nofun⟩

/-- A fresh start for want of keys must have been called for. -/
theorem prompted_freshStart (sealingKey : Key) (reason : FreshStartReason) :
    Prompted p key (fun called _ => reason = .unusableKeys → called) (freshStart p sealingKey reason)
      fun _ _ _ => True := by
  let due : Prop → Session → Prop := fun called _ => reason = .unusableKeys → called
  let named : Prop → Session → Prop := fun called s => s.freshStartReason = some .unusableKeys → called
  have entering : Prompted p key due (enter .freshStart) fun _ => due :=
    (show (enter .freshStart).Sustains _ (fun r => r.isWipe = false) due from
      sustains_enter fun _ _ called => called).conseq
      (fun _ _ _ asked wanted => absurd (asked.2.symm.trans wanted.1) Bool.false_ne_true)
      (fun _ _ called => called) (fun _ _ _ called => called) fun _ _ _ => trivial
  have naming (called : Prop) (s : Session) (begun : due called s) :
      named called (s.withReport fun r => { r with freshStart := some reason }) := by
    intro same
    unfold freshStartReason withReport at same
    cases cycle : s.cycle with
    | none => simp [cycle, CycleReport.start] at same
    | some r => exact begun (by simpa [cycle] using same)
  have counting (called : Prop) (s : Session) (begun : named called s) :
      named called { s with freshStarts := s.freshStarts + 1 } := begun
  have wiping : Prompted p key named (Program.request (wipeRequest (FreshStartPlan.ofConfig p.config).limit))
      fun _ _ _ => True :=
    .request (fun _ _ begun wanted => begun wanted.2) fun _ _ _ _ _ _ _ => trivial
  refine .bind entering fun _ => .modify_bind naming (.modify_bind counting (.note_bind ?_))
  refine .get_bind fun s => ?_
  rw [perform_eq, onBook_bind, onBook_note, onBook_bind, onBook_request]
  refine .note_bind (.bind (wiping.conseq (fun _ _ _ asked => asked) (fun _ _ begun => begun.1)
    (fun _ _ _ _ => trivial) fun _ _ _ => trivial) fun reply => ?_)
  show Prompted p key _ (onBook (match outcome _ "server wipe" reply with
    | .ok _ => _
    | .error e => _)) _
  cases outcome (FreshStartPlan.ofConfig p.config).limit "server wipe" reply with
  | error e => exact prompted_of_keeps (.bind (.note _) fun _ => .fail e)
  | ok _ =>
      have saving (r : Request) (file : r.isFileWrite = true) : r.isWipe = false :=
        Request.isWipe_eq_false_of_not_isRemote (Request.isRemote_eq_false_of_isFileWrite file)
      exact prompted_of_keeps ((keeps_republish (fun _ => rfl)
        (fun _ => Request.isWipe_eq_false_of_isPublication) saving _ _ _).zoom fun _ _ _ => trivial)

theorem unwiping_bindKeys (index : CollectionIndex) (m : GlobalMetadata) :
    (bindKeys index m).Keeps (fun _ => True) fun r => r.isWipe = false :=
  keeps_bindKeys (fun _ _ _ => trivial) index m

theorem prompted_handleKeyFailure (sealingKey : Key) (index : CollectionIndex) (e : SyncError) :
    Prompted p key (fun called _ => e.Unusable → called) (handleKeyFailure p sealingKey index e)
      fun _ _ _ => True := by
  have refreshing : (refreshKeys p).Keeps (fun _ => True) fun r => r.isWipe = false :=
    keeps_onKeyring (Keyring.keeps_refresh (by rfl)) fun _ _ _ => trivial
  have renewing : Prompted p key (fun called _ => FreshStartReason.unusableKeys = .unusableKeys → called)
      (renewKeys p sealingKey index) fun _ _ _ => True := by
    refine .bind (prompted_freshStart sealingKey _) fun m => prompted_of_keeps ?_
    refine .bind (keeps_enter_unwiping _) fun _ => .bind (unwiping_bindKeys index m) fun _ => ?_
    exact .bind refreshing fun _ => .pure m
  intro called s due
  show ((if e.isAbsentOrMalformed && !s.performedFreshStart then _ else _ :
    Program Session GlobalMetadata) s).Assures _ _ _ _
  split
  · rename_i unusable
    exact renewing called s fun _ =>
      due (SyncError.isAbsentOrMalformed_iff.mp (Bool.and_eq_true_iff.mp unusable).1)
  · trivial

theorem prompted_secureKeys (usable : p.sealingKey = .ok key) (sealingKey : Key)
    (index : CollectionIndex) (m : GlobalMetadata) :
    Prompted p key (fun _ _ => True) (secureKeys p sealingKey index m) fun _ _ _ => True := by
  rw [secureKeys_eq]
  refine .bind (prompted_of_keeps (keeps_enter_unwiping _)) fun _ => ?_
  refine .bind (prompted_of_keeps (unwiping_bindKeys index m)) fun _ => ?_
  intro called s _
  show ((refreshKeys p s).attempt.bind _).Assures _ _ _ _
  rcases refreshKeys_cases p s with ⟨same, -⟩ | ⟨e, same, other⟩ | ⟨key', epoch, usable', absent, bound⟩
  · rw [same]
    trivial
  · rw [same]
    refine prompted_handleKeyFailure sealingKey index e called s fun unusable => ?_
    rw [SyncError.isAbsentOrMalformed_iff.mpr unusable] at other
    cases other
  · obtain rfl : key' = key := Except.ok.inj (usable'.symm.trans usable)
    rw [refreshKeys_run_absent usable absent bound]
    refine ⟨fun wanted => absurd wanted.1 Bool.false_ne_true, ?_⟩
    rintro reply _ resumed rfl
    cases found : bundleFrom p.limit key' reply with
    | ok bundle =>
        simp only [found]
        trivial
    | error e =>
        simp only [found]
        exact prompted_handleKeyFailure sealingKey index e _ resumed (.found found)

theorem prompted_runCycle (usable : p.sealingKey = .ok key) :
    Prompted p key (fun _ _ => True) (runCycle p) fun _ _ _ => True := by
  have checking : (checkpoint p).Keeps (fun _ => True) fun r => r.isWipe = false := keeps_checkpoint
  have indexing : (fetchIndex p.limit : Program Session _).Keeps (fun _ => True)
      fun r => r.isWipe = false := by
    rw [fetchIndex_eq]
    exact .bind (.request (by rfl)) fun _ => .bind (.ofExcept _) fun _ => .bind (.note _) fun _ => .pure _
  have sealing : (sealingKey p).Keeps (fun _ => True) fun r => r.isWipe = false :=
    preparatory_true.keeps_sealingKey rfl
  rw [runCycle_eq_prepare]
  refine .bind ?_ fun found => prompted_of_keeps (conclude_never_wipes found.1 found.2)
  refine .bind (prompted_of_keeps (keeps_enter_unwiping _)) fun _ => ?_
  refine .bind (prompted_of_keeps indexing) fun index => .bind (prompted_of_keeps checking) fun _ => ?_
  refine .bind (prompted_of_keeps (keeps_enter_unwiping _)) fun _ => ?_
  refine .bind (prompted_evaluateRemote index) fun evaluated => .given fun elsewhere => ?_
  refine .bind (prompted_of_keeps sealing) fun k => .bind (prompted_of_keeps checking) fun _ => ?_
  have settling : Prompted p key (fun _ _ => True) (settleEpoch p k evaluated) fun _ _ _ => True := by
    cases evaluated with
    | current m =>
        have observing : (observeEpoch m).Keeps (fun _ => True) fun r => r.isWipe = false :=
          (sustains_observeEpoch (stable_leaving _) (fun _ => rfl) (fun _ _ _ => trivial) m).keeps
        exact prompted_of_keeps (.bind observing fun _ => .pure m)
    | diverged reason =>
        exact (prompted_freshStart k reason).conseq (fun _ _ _ asked => asked)
          (fun _ _ _ same => absurd (congrArg Evaluated.diverged same) elsewhere)
          (fun _ _ _ _ => trivial) fun _ _ _ => trivial
  refine .bind settling fun m => .bind (prompted_of_keeps checking) fun _ => ?_
  exact .bind (prompted_secureKeys usable k index m) fun m => .pure fun _ _ _ => trivial

end Prompted

/-! ## Cycles that find a locked bundle -/

/-- A fetch of the key bundle that finds an envelope which the key does not authenticate. -/
inductive FindsLocked (p : Profile) (key : Key) : Exchange Session → Prop where
  | found {asked resumed : Session} {record : RemoteRecord} {e : Envelope}
      (held : e.HeldBy record.payload) (foreign : ¬e.Authentic key) :
      FindsLocked p key ⟨bundleRequest p.limit, asked, some (.ok (some record)), resumed⟩

/-- A cycle wipes for want of keys only right after it finds them unusable, and a locked bundle is followed by
no wipe. If others leave the session its keys it is followed by nothing. -/
structure Spares (env : Environment ω Session) (p : Profile) (key : Key)
    (course : Course ω Session CycleReport) : Prop where
  prompted : ∀ before x rest, course.exchanges = before ++ x :: rest → wipesForKeys x.asked x.request →
    ∃ earlier y, before = earlier ++ [y] ∧ KeysUnusable p key y
  locked : ∀ before x rest, course.exchanges = before ++ x :: rest → FindsLocked p key x →
    ¬Wipes rest ∧ (LeavesKeys env → rest = [] ∧ course.ending = .failed .decryptFailed x.resumed.resting)

section Cycles

variable {env : Environment ω Session} {p : Profile} {key : Key} {s : Session} {before after : ω}
  {head tail : List (Exchange Session)} {x : Exchange Session} {ending : Ending Session CycleReport}

theorem FindsLocked.not_unusable (locked : FindsLocked p key x) : ¬KeysUnusable p key x := by
  cases locked with
  | found held foreign =>
      intro unusable
      cases unusable with
      | found failed unusable =>
          rw [bundleFrom_record, KeyBundle.ofPayload_of_not_authentic held foreign] at failed
          cases failed
          rcases unusable with ⟨_, impossible⟩ | ⟨_, impossible⟩ <;> cases impossible

theorem FindsLocked.fatal (usable : p.sealingKey = .ok key) (locked : FindsLocked p key x) :
    fatal? p x = some .decryptFailed := by
  cases locked with
  | found held foreign =>
      refine (fatal_bundle usable).mpr ⟨?_, rfl⟩
      rw [bundleFrom_record, KeyBundle.ofPayload_of_not_authentic held foreign]

theorem sync_prompted (usable : p.sealingKey = .ok key)
    (taken : (sync p).Takes env s before (head ++ x :: tail) ending after)
    (wiped : wipesForKeys x.asked x.request) :
    ∃ earlier y, head = earlier ++ [y] ∧ KeysUnusable p key y := by
  cases busy : s.isSyncing with
  | true =>
      have impossible := ((takes_sync_refused busy).mp taken).1
      simp at impossible
  | false =>
      obtain ⟨inner, run, -⟩ := (takes_sync busy).mp taken
      have prompted := prompted_runCycle usable False s.starting trivial
      exact (prompted.follows run wiped).resolve_left And.right

theorem takes_cycled (start : Session × ω) :
    (sync p).Takes env start.1 start.2 (cycled env p start).exchanges (cycled env p start).ending
      (cycled env p start).world :=
  Run.takes_course ..

theorem spares_cycle (usable : p.sealingKey = .ok key) (start : Session × ω) :
    Spares env p key (cycled env p start) := by
  have taken : (sync p).Takes env start.1 start.2 _ _ _ := takes_cycled start
  constructor
  · intro before x rest same wiped
    rw [same] at taken
    exact sync_prompted usable taken wiped
  · intro before x rest same locked
    rw [same] at taken
    have fatal := locked.fatal usable
    exact ⟨fatal_unwiped taken fatal, fun leaves => fatal_ends leaves taken fatal⟩

/-- What becomes of a payload is told by what it holds: no envelope, one that the key does not authenticate, or
what an authentic one seals. An envelope that the key does not authenticate never counts as absent or
malformed. So a session whose key is not that of the bundle never wipes for want of keys, in any number of
cycles and whatever happens between them. -/
theorem locked_bundle_spared (usable : p.sealingKey = .ok key) :
    (∀ payload key, KeyBundle.Judged payload key) ∧
    (∀ payload key (e : Envelope), e.HeldBy payload → ¬e.Authentic key → ∀ error,
      KeyBundle.ofPayload payload key = .error error → error.isAbsentOrMalformed = false) ∧
    ∀ (env : Environment ω Session) (others : Nat → Session × ω → Session × ω) (start : Session × ω),
      let exchanges n := (cycled env p (history env p others start n)).exchanges
      (∀ n, Spares env p key (cycled env p (history env p others start n))) ∧
      ((∀ n, ∀ x ∈ exchanges n, x.request = bundleRequest p.limit → FindsLocked p key x) →
        ∀ n, ∀ x ∈ exchanges n, ¬wipesForKeys x.asked x.request) := by
  refine ⟨KeyBundle.judged, ?_, fun env others start => ⟨fun n => spares_cycle usable _, ?_⟩⟩
  · intro payload key e held foreign error failed
    rw [KeyBundle.ofPayload_of_not_authentic held foreign] at failed
    cases failed
    rfl
  · intro locked n x member wiped
    obtain ⟨before, rest, same⟩ := List.append_of_mem member
    obtain ⟨earlier, y, rfl, unusable⟩ := (spares_cycle usable _).prompted before x rest same wiped
    refine FindsLocked.not_unusable (locked n y ?_ unusable.request_eq) unusable
    rw [same]
    simp

/-- The key of a stranger to the account. -/
def strangersKey : Key := ⟨.fit 32 [1]⟩

/-- A bundle that a stranger has sealed. -/
def strangersSeal : Envelope :=
  .encrypt strangersKey (.fit 12 []) (Utf8.encode (KeyBundle.ofDefault strangersKey).plaintext)

theorem strangersSeal_foreign : ¬strangersSeal.Authentic ⟨.fit 32 []⟩ := by
  intro authentic
  have mistagged : strangersSeal.tag ≠
      (Envelope.tagOf ⟨.fit 32 []⟩ strangersSeal.nonce strangersSeal.body).val := by decide +kernel
  exact mistagged authentic.tag_eq

/-- A server with metadata of the current format and the bundle of a stranger. -/
def strangersOracle : Oracle Unit :=
  { keylessOracle with
    reply
      | .remote _ (.fetch collection id), _ =>
          some (.ok (some (.ofPayload id
            (if collection = metaCollection then "[\"a\",5]" else strangersSeal.toJson.render))))
      | request, world => keylessOracle.reply request world }

theorem strangersOracle_bundle : strangersOracle.reply (bundleRequest keylessProfile.limit) () =
    some (.ok (some (.ofPayload keysRecordId strangersSeal.toJson.render))) := by
  have other : ¬cryptoCollection = metaCollection := by decide
  simp only [strangersOracle, if_neg other]

theorem strangers_bundle_spared :
    let course := cycled strangersOracle.alone keylessProfile
      (history strangersOracle.alone keylessProfile (fun _ last => last) (keylessSession, ()) 0)
    keylessProfile.sealingKey = .ok ⟨.fit 32 []⟩ ∧ ∃ before x, course.exchanges = before ++ [x] ∧
      FindsLocked keylessProfile ⟨.fit 32 []⟩ x ∧
      course.ending = .failed .decryptFailed x.resumed.resting ∧
      ∀ y ∈ course.exchanges, y.request = bundleRequest keylessProfile.limit → y = x := by
  intro course
  let key : Key := ⟨.fit 32 []⟩
  let fetches (x : Exchange Session) : Bool := decide (x.request = bundleRequest keylessProfile.limit)
  have usable : keylessProfile.sealingKey = .ok key := rfl
  obtain ⟨-, -, cycles⟩ := @locked_bundle_spared Unit keylessProfile key usable
  have spared : Spares strangersOracle.alone keylessProfile key course :=
    (cycles strangersOracle.alone (fun _ last => last) (keylessSession, ())).1 0
  -- What comes after the fourth exchange is told by the theorem: there the seal need not be evaluated.
  have asked : (course.exchanges.take 4).map fetches = [false, false, false] ++ [true] := by
    decide +kernel
  obtain ⟨before, last, split, others, found⟩ := List.map_eq_append_iff.mp asked
  obtain ⟨x, rfl, bundle⟩ := List.map_eq_singleton_iff.mp found
  have whole : course.exchanges = before ++ x :: course.exchanges.drop 4 := by
    rw [← List.singleton_append, ← List.append_assoc, ← split, List.take_append_drop]
  have taken : (sync keylessProfile).Takes strangersOracle.alone _ _ course.exchanges _ _ := takes_cycled _
  rw [whole] at taken
  have same := Run.Takes.exchange_at taken
  rw [of_decide_eq_true bundle] at same
  have locked : FindsLocked keylessProfile key x := by
    rw [same]
    show FindsLocked _ _ ⟨_, _, strangersOracle.reply (bundleRequest keylessProfile.limit) (), _⟩
    rw [strangersOracle_bundle]
    exact .found (Envelope.heldBy_render strangersSeal) strangersSeal_foreign
  obtain ⟨halted, ended⟩ := (spared.locked before x _ whole locked).2 (onlyCancels_alone _).leavesKeys
  rw [halted] at whole
  refine ⟨usable, before, x, whole, locked, ended, ?_⟩
  intro y member again
  rw [whole] at member
  rcases List.mem_append.mp member with early | late
  · have listed := List.mem_map_of_mem (f := fetches) early
    rw [others, show fetches y = true from decide_eq_true again] at listed
    simp at listed
  · exact List.mem_singleton.mp late

end Cycles

end Session

end SealedSync
