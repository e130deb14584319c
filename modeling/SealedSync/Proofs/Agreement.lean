import SealedSync.Proofs.Convergence
import SealedSync.Proofs.Interleaving

/-!
# Agreement

However the cycles of some clients interleave, one undisturbed cycle of one of them puts the server in
order, and an undisturbed cycle of another finds it so. Both have then recorded the epoch on the server,
and both hold the keys on it.
-/
namespace SealedSync

/-- An epoch with keys that open is in order for everybody. -/
theorem Storage.admissible_of_current {st : Storage} {storageVersion : Nat} {key : Key}
    {m : GlobalMetadata} {bundle : KeyBundle}
    (evaluated : st.evaluated storageVersion = .ok (.current m)) (opened : st.bundle key = .ok bundle) :
    st.Admissible storageVersion key := by
  obtain ⟨-, found, current⟩ := evaluated_eq_current.mp evaluated
  constructor
  · intro other same
    rw [← Except.ok.inj (found.symm.trans same)]
    exact Nat.le_of_eq current
  · intro failed
    cases opened.symm.trans failed

namespace Session

open RemoteState FreshStart Keyring

/-- The epoch and the keys on the server are those that a session has recorded and holds. -/
structure Agrees (storageVersion : Nat) (key : Key) (st : Storage) (m : GlobalMetadata)
    (bundle : KeyBundle) (book : Bookkeeping) : Prop where
  evaluated : st.evaluated storageVersion = .ok (.current m)
  recorded : book.localState.lastSyncId = some m.syncId
  opened : st.bundle key = .ok bundle
  held : book.keyring.bundle = some bundle

theorem Agrees.congr {storageVersion : Nat} {key : Key} {st other : Storage} {m : GlobalMetadata}
    {bundle : KeyBundle} {book : Bookkeeping} (agrees : Agrees storageVersion key other m bundle book)
    (same : st.SameBookkeeping other) : Agrees storageVersion key st m bundle book where
  evaluated := (Storage.evaluated_congr same _).trans agrees.evaluated
  recorded := agrees.recorded
  opened := (Storage.bundle_congr same key).trans agrees.opened
  held := agrees.held

variable {ω : Type} {oracle : Oracle ω} {content : ω → Storage} {before after : ω}
  {exchanges : List (Exchange Session)} {p : Profile} {s : Session} {key : Key} {m : GlobalMetadata}

/-- A fresh start leaves the session with what it has published. -/
theorem Renewed.agrees {st : Storage} {inner : Ending Session Unit}
    (renewed : Renewed p key s st exchanges inner) : ∃ last m bundle, inner = .returned () last ∧
      Agrees p.config.storageVersion key st m bundle last.book := by
  cases renewed with
  | intro reason m k bundle fresh tail last wiped undelegated resets sound supplied =>
      obtain ⟨opened, x, rest, rfl, request, delivered⟩ := supplied
      refine ⟨last, m, bundle, rfl, sound.evaluated, delivered.epoch, opened, ?_⟩
      rw [delivered.keyring]

/-- Where an epoch is found, the session comes to hold the keys of the server, which stays as it is
unless its keys are of no use. -/
theorem Maintained.agrees {st new : Storage} {inner : Ending Session Unit}
    (evaluated : st.evaluated p.config.storageVersion = .ok (.current m))
    (current : ∀ bundle, (s.keyBound st.index m).book.keyring.bundle = some bundle →
      st.bundle key = .ok bundle)
    (opens : st.bundle key ≠ .error .decryptFailed)
    (maintained : Maintained p key st.index s m st new exchanges inner) :
    (∃ last bundle, inner = .returned () last ∧
        Agrees p.config.storageVersion key st m bundle last.book ∧
        last.freshStartReason = s.freshStartReason ∧ ∀ x ∈ exchanges, x.request.isWrite = false) ∨
      (∃ e, st.bundle key = .error e) ∧ ∃ rest, Renewed p key (s.keyBound st.index m) new rest inner := by
  cases maintained with
  | cached bundle exchanges last held delivered =>
      refine .inl ⟨last, bundle, rfl, ⟨evaluated, delivered.epoch, current bundle held, ?_⟩,
        delivered.freshStart, fun x member =>
          Request.isWrite_eq_false_of_not_isRemote (delivered.stays_local x member)⟩
      rw [delivered.keyring]
      exact held
  | fetched bundle exchanges last absent supplied =>
      have quiet := supplied.quiet
      obtain ⟨opened, x, rest, rfl, request, delivered⟩ := supplied
      refine .inl ⟨last, bundle, rfl, ⟨evaluated, delivered.epoch, opened, ?_⟩, delivered.freshStart,
        quiet⟩
      rw [delivered.keyring]
  | locked x last absent request failed => exact absurd failed opens
  | renewed x rest inner e absent request failed unusable renewed =>
      exact .inr ⟨⟨e, failed⟩, rest, renewed⟩

/-- A dated keyring that is bound to the keys on the server holds these keys or none. -/
theorem current_of_dated {st : Storage} {past : List Storage} (usable : p.sealingKey = .ok key)
    (chronicle : Chronicle (st :: past)) (dated : Dated p.keyAccess (st :: past) s.book.keyring)
    (listed : st.index.ListsBookkeeping) (fresh : s.performedFreshStart = false) {bundle : KeyBundle}
    (held : (s.keyBound st.index m).book.keyring.bundle = some bundle) :
    st.bundle key = .ok bundle := by
  obtain ⟨time, timed⟩ : ∃ time, st.keysTime = some time :=
    Option.isSome_iff_exists.mp ((CollectionIndex.contains_eq ..).symm.trans listed.2)
  rw [keyring_keyBound fresh, timed] at held
  obtain ⟨-, since⟩ := dated.rebind chronicle.unrepeated List.suffix_rfl timed m.syncId
  obtain ⟨moment, ⟨earlier, before, after⟩, k, found, opened⟩ := since bundle held
  obtain ⟨rfl, -⟩ := List.cons.inj (before.eq_of_length_le after.length_le)
  obtain rfl : k = key := Except.ok.inj (found.symm.trans usable)
  exact opened

/-- An undisturbed cycle ends well and agrees with the server, which it leaves as it is if it finds an
epoch with its keys. -/
theorem sync_agrees (faithful : oracle.Faithful content) (fits : p.config.Fits)
    (usable : p.sealingKey = .ok key) {past : List Storage}
    (resting : Resting p (content before :: past) s)
    (admissible : (content before).Admissible p.config.storageVersion key)
    {ending : Ending Session CycleReport}
    (taken : (sync p).Takes oracle.alone s before exchanges ending after) :
    ∃ r last m bundle, ending = .returned r last ∧
      Agrees p.config.storageVersion key (content after) m bundle last.book ∧
      ∀ found held, (content before).evaluated p.config.storageVersion = .ok (.current found) →
        (content before).bundle key = .ok held →
        r.freshStart = none ∧ ∀ x ∈ exchanges, x.request.isWrite = false := by
  cases evaluation : (content before).evaluated p.config.storageVersion with
  | error e =>
      obtain ⟨m, found, newer, -⟩ := Storage.evaluated_error evaluation
      exact absurd (admissible.format m found) (Nat.not_le_of_lt newer)
  | ok evaluated =>
      cases evaluated with
      | diverged reason =>
          obtain ⟨reads, rest, inner, rfl, rfl, -, renewed⟩ :=
            sync_diverged faithful fits usable resting.idle evaluation taken
          obtain ⟨last, m, bundle, rfl, agrees⟩ := renewed.agrees
          obtain ⟨r, closing, -⟩ := closed_returned last
          exact ⟨r, last.resting, m, bundle, closing, agrees, nofun⟩
      | current m =>
          obtain ⟨reads, resets, rest, inner, rfl, rfl, prelude, resettings, maintained⟩ :=
            sync_current faithful fits usable resting.idle evaluation taken
          have listed := (Storage.evaluated_eq_current.mp evaluation).1
          have dated : Dated p.keyAccess (content before :: past)
              (s.evaluating.keyed.settled m).book.keyring := by
            unfold settled
            split
            · exact dated_of_unbound rfl
            · exact resting.dated
          rcases maintained.agrees evaluation (fun _ => current_of_dated usable resting.chronicle dated
            listed (performedFreshStart_settled ..)) admissible.opens with
            ⟨last, bundle, rfl, agrees, reason, quiet⟩ | ⟨⟨e, failed⟩, rest, renewed⟩
          · have quiet := quiet_cycle prelude resettings quiet
            have unchanged : (content after).SameBookkeeping (content before) := by
              rw [taken.world_eq]
              exact faithful.quiet quiet
            obtain ⟨r, closing, freshStart, -⟩ := closed_returned last
            have unbegun : (s.evaluating.keyed.settled m).freshStartReason = none := by
              unfold settled
              split <;> rfl
            exact ⟨r, last.resting, m, bundle, closing, agrees.congr unchanged, fun _ _ _ _ =>
              ⟨freshStart.trans (reason.trans unbegun), quiet⟩⟩
          · obtain ⟨last, m, bundle, rfl, agrees⟩ := renewed.agrees
            obtain ⟨r, closing, -⟩ := closed_returned last
            refine ⟨r, last.resting, m, bundle, closing, agrees, fun _ _ _ opened => ?_⟩
            cases opened.symm.trans failed

end Session

namespace Fleet

open Session

variable {ι ω : Type} [DecidableEq ι] {oracle : ι → Oracle ω} {content : ω → Storage}
  {p : ι → Profile} {storageVersion : Nat} {key : Key} {first fleet : Fleet ι ω}

/-! ## Undisturbed cycles -/

/-- What becomes of the server while it serves one client only. -/
def after (oracle : Oracle ω) (content : ω → Storage) (fleet : Fleet ι ω)
    (exchanges : List (Exchange Session)) : Fleet ι ω :=
  exchanges.foldl (fun fleet x => fleet.moved content (oracle.next x.request fleet.world)) fleet

section After

variable {server : Oracle ω}

omit [DecidableEq ι] in
theorem world_after (fleet : Fleet ι ω) (exchanges : List (Exchange Session)) :
    (fleet.after server content exchanges).world = server.world fleet.world exchanges := by
  induction exchanges generalizing fleet with
  | nil => rfl
  | cons x rest ih => exact ih _

omit [DecidableEq ι] in
theorem history_after (fleet : Fleet ι ω) (exchanges : List (Exchange Session)) :
    fleet.history content <:+ (fleet.after server content exchanges).history content := by
  induction exchanges generalizing fleet with
  | nil => exact List.suffix_rfl
  | cons x rest ih =>
      have later := ih (fleet.moved content (server.next x.request fleet.world))
      exact (List.suffix_cons _ _).trans later

omit [DecidableEq ι] in
theorem phase_after (fleet : Fleet ι ω) (exchanges : List (Exchange Session)) :
    (fleet.after server content exchanges).phase = fleet.phase := by
  induction exchanges generalizing fleet with
  | nil => rfl
  | cons x rest ih => exact ih _

omit [DecidableEq ι] in
/-- As long as nothing is written, the keys keep their time. -/
theorem chronicle_after (honest : server.Honest content) {exchanges : List (Exchange Session)}
    (chronicle : Chronicle (fleet.history content))
    (quiet : ∀ x ∈ exchanges, x.request.isWrite = false) :
    Chronicle ((fleet.after server content exchanges).history content) := by
  induction exchanges generalizing fleet with
  | nil => exact chronicle
  | cons x rest ih =>
      apply ih
      · exact .kept chronicle (honest.others x.request fleet.world (quiet x List.mem_cons_self)).keys
      · exact fun y member => quiet y (List.mem_cons_of_mem x member)

/-- It makes no difference to the server what a client is at. -/
theorem after_turn (fleet : Fleet ι ω) (i : ι) (phase : Phase) (exchanges : List (Exchange Session)) :
    (fleet.turn i phase).after server content exchanges =
      (fleet.after server content exchanges).turn i phase := by
  induction exchanges generalizing fleet with
  | nil => rfl
  | cons x rest ih => exact ih (fleet.moved content (server.next x.request fleet.world))

end After

theorem phase_turn (fleet : Fleet ι ω) (i : ι) (phase : Phase) : (fleet.turn i phase).phase i = phase :=
  if_pos rfl

theorem turn_turn (fleet : Fleet ι ω) (i : ι) (phase other : Phase) :
    (fleet.turn i phase).turn i other = fleet.turn i other := by
  refine congrArg (Fleet.mk fleet.world fleet.past) (funext fun j => ?_)
  by_cases same : j = i
  · rw [if_pos same, if_pos same]
  · rw [if_neg same, if_neg same]
    exact if_neg same

theorem Reaches.trans {middle last : Fleet ι ω} (start : Reaches oracle content p first middle)
    (rest : Reaches oracle content p middle last) : Reaches oracle content p first last := by
  induction rest with
  | refl => exact start
  | tail reaches step ih => exact .tail ih step

/-- A client that goes on with its cycle undisturbed is one way for all of them to go on. -/
theorem reaches_undisturbed {i : ι} {run : Run Session CycleReport}
    {exchanges : List (Exchange Session)} {ending : Ending Session CycleReport} {world : ω}
    (found : fleet.phase i = .busy run)
    (taken : run.Takes (oracle i).alone fleet.world exchanges ending world)
    (timely : Chronicle ((fleet.after (oracle i) content exchanges).history content)) :
    Reaches oracle content p fleet
      ((fleet.after (oracle i) content exchanges).turn i (.idle ending.state)) := by
  induction run generalizing fleet exchanges with
  | returned report s =>
      obtain ⟨rfl, rfl, -⟩ := Run.takes_returned.mp taken
      exact .tail (.refl fleet) (.returns i found)
  | failed e s =>
      obtain ⟨rfl, rfl, -⟩ := Run.takes_failed.mp taken
      exact .tail (.refl fleet) (.fails i found)
  | noted event rest ih =>
      have onward := ih (phase_turn fleet i (.busy rest)) (Run.takes_noted.mp taken) (by
        rw [after_turn]
        exact timely)
      rw [after_turn, turn_turn] at onward
      exact Reaches.trans (.tail (.refl fleet) (.notes i found)) onward
  | waiting r s resume ih =>
      obtain ⟨rest, rfl, continued⟩ := Run.takes_waiting.mp taken
      let served := fleet.moved content ((oracle i).next r fleet.world)
      have served_timely : Chronicle (served.history content) :=
        timely.upTo (history_after served rest)
      have onward := ih _ _ (phase_turn served i _) continued (by
        rw [after_turn]
        exact timely)
      rw [after_turn, turn_turn] at onward
      exact Reaches.trans (.tail (.refl fleet) (.serves i found served_timely rfl (.unused _))) onward

/-! ## Two cycles, one after the other -/

/-- Sessions that have been opened on a server that none of them has used yet. -/
structure Opening (content : ω → Storage) (storageVersion : Nat) (key : Key) (fleet : Fleet ι ω) :
    Prop where
  past : fleet.past = []
  admissible : (content fleet.world).Admissible storageVersion key
  sessions : ∀ i, ∃ s, fleet.phase i = .idle s ∧ s.isSyncing = false ∧ s.book.keyring = .empty

omit [DecidableEq ι] in
theorem Opening.sound (opening : Opening content storageVersion key fleet) :
    fleet.Sound content p storageVersion key := by
  have chronicle : Chronicle (fleet.history content) := by
    rw [history, opening.past]
    exact .start _
  constructor
  · exact chronicle
  · exact opening.admissible
  · intro i
    obtain ⟨s, found, idle, empty⟩ := opening.sessions i
    rw [found]
    constructor
    · exact chronicle
    · rw [empty]
      exact Keyring.dated_of_unbound rfl
    · exact idle

/-- Whatever the clients have done in whatever order, once two of them are idle and one runs an
undisturbed cycle and then the other does, both cycles end well, the second makes no fresh start, and
both clients agree with the server on its epoch and its keys. -/
theorem clients_agree (kindred : Kindred oracle content p storageVersion key)
    (opening : Opening content storageVersion key first)
    (reached : Reaches oracle content p first fleet) {a b : ι} {s t : Session}
    (idleA : fleet.phase a = .idle s) (idleB : fleet.phase b = .idle t)
    {xs ys : List (Exchange Session)} {endingA endingB : Ending Session CycleReport}
    {middle after : ω}
    (cycleA : (sync (p a)).Takes (oracle a).alone s fleet.world xs endingA middle)
    (timely : Chronicle ((fleet.after (oracle a) content xs).history content))
    (cycleB : (sync (p b)).Takes (oracle b).alone t middle ys endingB after) :
    ∃ reportA reportB lastA lastB m bundle, endingA = .returned reportA lastA ∧
      endingB = .returned reportB lastB ∧ reportB.freshStart = none ∧
      (content after).metadata = .ok m ∧ (content after).bundle key = .ok bundle ∧
      lastA.book.localState.lastSyncId = some m.syncId ∧
      lastB.book.localState.lastSyncId = some m.syncId ∧
      lastA.book.keyring.bundle = some bundle ∧ lastB.book.keyring.bundle = some bundle := by
  have sound := sound_reaches kindred reached opening.sound
  have restingA := sound.phases a
  have restingB := (sound.phases b).extend (history_after fleet xs) timely
  rw [idleA] at restingA
  rw [idleB] at restingB
  have there : (fleet.after (oracle a) content xs).world = middle :=
    (world_after fleet xs).trans cycleA.world_eq.symm
  rw [history, there] at restingB
  obtain ⟨reportA, lastA, m, bundle, endedA, agreesA, -⟩ := sync_agrees (kindred.faithful a)
    (kindred.fits a) (kindred.usable a) restingA (kindred.format a ▸ sound.admissible) cycleA
  rw [kindred.format a, ← kindred.format b] at agreesA
  -- The first cycle has left an epoch with its keys, so the second finds it.
  have admissible := Storage.admissible_of_current agreesA.evaluated agreesA.opened
  obtain ⟨reportB, lastB, other, held, endedB, agreesB, finds⟩ := sync_agrees (kindred.faithful b)
    (kindred.fits b) (kindred.usable b) restingB admissible cycleB
  obtain ⟨freshStart, quiet⟩ := finds m bundle agreesA.evaluated agreesA.opened
  have unchanged : (content after).SameBookkeeping (content middle) := by
    rw [cycleB.world_eq]
    exact (kindred.faithful b).quiet quiet
  have agrees := agreesA.congr unchanged
  obtain ⟨-, found, -⟩ := Storage.evaluated_eq_current.mp agrees.evaluated
  obtain ⟨-, foundB, -⟩ := Storage.evaluated_eq_current.mp agreesB.evaluated
  obtain rfl : other = m := Except.ok.inj (foundB.symm.trans found)
  obtain rfl : held = bundle := Except.ok.inj (agreesB.opened.symm.trans agrees.opened)
  exact ⟨reportA, reportB, lastA, lastB, other, held, endedA, endedB, freshStart, found,
    agrees.opened, agrees.recorded, agreesB.recorded, agrees.held, agreesB.held⟩

/-! ## Two sessions in an epoch -/

open Simulation

/-- Two new sessions on a server that is in an epoch. -/
def twoSessions : Fleet Bool Memory :=
  ⟨Memory.settled "epoch", [], fun _ => .idle (ofLocalState .empty)⟩

theorem kindred_memory : Kindred (fun _ : Bool => Memory.oracle) Memory.storage
    (fun _ => Memory.profile) Memory.profile.config.storageVersion Memory.key where
  faithful _ := Memory.oracle_faithful
  fits _ := Memory.profile_fits
  usable _ := rfl
  format _ := rfl

theorem opening_twoSessions : Opening Memory.storage Memory.profile.config.storageVersion Memory.key
    twoSessions where
  past := rfl
  admissible := by
    obtain ⟨bundle, opened⟩ := (Memory.settled_sound "epoch").keys
    exact Storage.admissible_of_current (Memory.settled_sound "epoch").evaluated opened
  sessions _ := ⟨_, rfl, rfl, rfl⟩

/-- The cycle of a session on a server in memory. -/
def visit (s : Session) (w : Memory) : Course Memory Session CycleReport :=
  (sync Memory.profile s).course Memory.oracle.alone w

/-- On a server that is in an epoch a cycle ends well and writes nothing. -/
theorem visit_works {s : Session} {w : Memory} {past : List Storage} {m : GlobalMetadata}
    (resting : Resting Memory.profile (w.storage :: past) s)
    (sound : w.storage.Sound Memory.profile.config.storageVersion Memory.key m) :
    (∃ report last, (visit s w).ending = .returned report last) ∧
      ∀ x ∈ (visit s w).exchanges, x.request.isWrite = false := by
  obtain ⟨bundle, opened⟩ := sound.keys
  obtain ⟨report, last, -, -, ended, -, finds⟩ := sync_agrees Memory.oracle_faithful
    Memory.profile_fits rfl resting (Storage.admissible_of_current sound.evaluated opened)
    (Run.takes_course Memory.oracle.alone (sync Memory.profile s) w)
  exact ⟨⟨report, last, ended⟩, (finds m bundle sound.evaluated opened).2⟩

/-- In an epoch a session may run a cycle while the others are idle. -/
theorem reaches_visit {fleet : Fleet Bool Memory} {i : Bool} {s : Session} {m : GlobalMetadata}
    (sound : fleet.Sound Memory.storage (fun _ => Memory.profile)
      Memory.profile.config.storageVersion Memory.key) (found : fleet.phase i = .idle s)
    (settled : fleet.world.storage.Sound Memory.profile.config.storageVersion Memory.key m) :
    ∃ next, Reaches (fun _ => Memory.oracle) Memory.storage (fun _ => Memory.profile) fleet next ∧
      next.world.storage.Sound Memory.profile.config.storageVersion Memory.key m ∧
      next.phase i = .idle (visit s fleet.world).ending.state ∧ ∀ j ≠ i, next.phase j = fleet.phase j := by
  have honest := Memory.oracle_faithful.toHonest
  have resting := sound.phases i
  rw [found] at resting
  have quiet := (visit_works resting settled).2
  have taken := Run.takes_course Memory.oracle.alone (sync Memory.profile s) fleet.world
  let begun := fleet.turn i (.busy (sync Memory.profile s))
  have timely : Chronicle ((begun.after Memory.oracle Memory.storage
      (visit s fleet.world).exchanges).history Memory.storage) :=
    chronicle_after honest sound.chronicle quiet
  refine ⟨_, Reaches.trans (.tail (.refl fleet) (.begins i found))
    (reaches_undisturbed (phase_turn ..) taken timely), ?_, phase_turn .., fun j other => ?_⟩
  · show (begun.after Memory.oracle Memory.storage (visit s fleet.world).exchanges).world.storage.Sound
      Memory.profile.config.storageVersion Memory.key m
    rw [world_after]
    exact settled.congr (honest.quiet quiet)
  · show (if j = i then _ else (begun.after Memory.oracle Memory.storage _).phase j) = _
    rw [if_neg other, phase_after]
    exact if_neg other

theorem twoSessions_agree : ∃ fleet s t, Reaches (fun _ => Memory.oracle) Memory.storage
      (fun _ => Memory.profile) twoSessions fleet ∧
    fleet.phase false = .idle s ∧ fleet.phase true = .idle t ∧
    ∃ (reportA reportB : CycleReport) (lastA lastB : Session) (m : GlobalMetadata) (bundle : KeyBundle),
      (visit s fleet.world).ending = .returned reportA lastA ∧
      (visit t (visit s fleet.world).world).ending = .returned reportB lastB ∧
      reportB.freshStart = none ∧
      (visit t (visit s fleet.world).world).world.storage.metadata = .ok m ∧
      (visit t (visit s fleet.world).world).world.storage.bundle Memory.key = .ok bundle ∧
      lastA.book.localState.lastSyncId = some m.syncId ∧
      lastB.book.localState.lastSyncId = some m.syncId ∧ lastA.book.keyring.bundle = some bundle ∧
      lastB.book.keyring.bundle = some bundle := by
  have opened : twoSessions.Sound Memory.storage (fun _ => Memory.profile)
      Memory.profile.config.storageVersion Memory.key := opening_twoSessions.sound
  have idle : twoSessions.phase true = .idle (ofLocalState .empty) := rfl
  obtain ⟨fleet, reached, settled, experienced, others⟩ :=
    reaches_visit opened idle (Memory.settled_sound "epoch")
  have new : fleet.phase false = .idle (ofLocalState .empty) := others false (by decide)
  have sound := sound_reaches kindred_memory reached opened
  have resting := sound.phases false
  rw [new] at resting
  have timely := chronicle_after Memory.oracle_faithful.toHonest sound.chronicle
    (visit_works resting settled).2
  obtain ⟨reportA, reportB, lastA, lastB, m, bundle, endedA, endedB, agrees⟩ :=
    clients_agree kindred_memory opening_twoSessions reached new experienced
      (Run.takes_course Memory.oracle.alone (sync Memory.profile _) fleet.world) timely
      (Run.takes_course Memory.oracle.alone (sync Memory.profile _) _)
  exact ⟨fleet, _, _, reached, new, experienced, reportA, reportB, lastA, lastB, m, bundle, endedA,
    endedB, agrees⟩

end Fleet

end SealedSync
