import SealedSync.Proofs.Assurance
import SealedSync.Proofs.Chronicle
import SealedSync.Proofs.Preparation

/-!
# Keyrings and the history of the keys

A keyring that is bound to a time holds a bundle from some moment after the keys got that time. This
outlasts whatever the server goes through meanwhile and whoever else asks the keyring for keys. Binding
it to the time that an index gives therefore leaves no bundle in it that is older than the index.
-/
namespace SealedSync

open RemoteState

/-- The server's key bundle opens with a key and holds the bundle. -/
def Storage.Opens (st : Storage) (access : KeyAccess) (bundle : KeyBundle) : Prop :=
  ∃ key, access.sealingKey = .ok key ∧ st.bundle key = .ok bundle

theorem Storage.Opens.congr {st other : Storage} {access : KeyAccess} {bundle : KeyBundle}
    (opens : other.Opens access bundle) (same : Storage.SameIn cryptoCollection st other) :
    st.Opens access bundle := by
  obtain ⟨key, usable, opened⟩ := opens
  exact ⟨key, usable, (same.bundle key).trans opened⟩

/-- A read that succeeds shows what the server holds at the latest moment of a history. -/
def Shown (history : List Storage) : (r : Request) → r.Reply → Prop
  | .remote _ .index, some (.ok index) => history.head?.map (·.index) = some index
  | .remote _ (.fetch collection id), some (.ok record) =>
      history.head?.map (·.records collection id) = some record
  | _, _ => True

theorem indexFrom_shown {limit : Duration} {now : Storage} {earlier : List Storage}
    {reply : (indexRequest limit).Reply} {index : CollectionIndex}
    (shown : Shown (now :: earlier) (indexRequest limit) reply)
    (found : indexFrom limit reply = .ok index) : index = now.index := by
  match reply, shown, found with
  | some (.ok _), shown, rfl => exact (Option.some.inj shown).symm

theorem bundleFrom_shown {limit : Duration} {key : Key} {now : Storage} {earlier : List Storage}
    {reply : (bundleRequest limit).Reply} {bundle : KeyBundle}
    (shown : Shown (now :: earlier) (bundleRequest limit) reply)
    (found : bundleFrom limit key reply = .ok bundle) : now.bundle key = .ok bundle := by
  match reply, shown, found with
  | some (.ok none), _, found => cases found
  | some (.ok (some record)), shown, found =>
      have held : now.records cryptoCollection keysRecordId = some record := Option.some.inj shown
      rw [Storage.bundle, held]
      exact found

namespace Keyring

variable {access : KeyAccess} {past present base : List Storage} {k l : Keyring}

/-! ## Who else asks for keys -/

/-- Where the server answers with keys, it held them at some moment between two. -/
def ShowsBetween (access : KeyAccess) (past present : List Storage) (server : Oracle Unit) : Prop :=
  ∀ key bundle, bundleFrom access.limit key (server.reply (bundleRequest access.limit) ()) = .ok bundle →
    ∃ st, Since past present st ∧ st.bundle key = .ok bundle

/-- What may have become of a keyring once others have asked it for keys, while the server went from
one moment to another. -/
inductive Consulted (access : KeyAccess) (past present : List Storage) : Keyring → Keyring → Prop where
  | unused (k : Keyring) : Consulted access past present k k
  | refreshed {k l : Keyring} (before : Consulted access past present k l) {server : Oracle Unit}
      (shows : ShowsBetween access past present server) {exchanges : List (Exchange Keyring)}
      {ending : Ending Keyring Unit}
      (taken : (refresh access).Takes server.alone l () exchanges ending ()) :
      Consulted access past present k ending.state
  | asked {k l : Keyring} (before : Consulted access past present k l) (collection : String)
      {server : Oracle Unit} (shows : ShowsBetween access past present server)
      {exchanges : List (Exchange Keyring)} {ending : Ending Keyring Key}
      (taken : (keyFor access collection).Takes server.alone l () exchanges ending ()) :
      Consulted access past present k ending.state

/-- The keyring is the same, or it holds a bundle that the server held between two moments. -/
def Refilled (access : KeyAccess) (past present : List Storage) (k l : Keyring) : Prop :=
  l = k ∨ ∃ bundle st, k.epoch ≠ none ∧ Since past present st ∧ st.Opens access bundle ∧
    l = { k with bundle := some bundle }

/-- A refresh finds a bundle, or it fails for want of a key or an epoch, or there is a bundle to fetch. -/
theorem refresh_cases (access : KeyAccess) (k : Keyring) :
    (refresh access k = .returned () k ∧ ∃ bundle, k.bundle = some bundle) ∨
      (∃ e, refresh access k = .failed e k ∧ e.isAbsentOrMalformed = false) ∨
      ∃ key epoch, access.sealingKey = .ok key ∧ k.bundle = none ∧ k.epoch = some epoch := by
  cases usable : access.sealingKey with
  | error e =>
      refine .inr (.inl ⟨.crypto e, ?_, rfl⟩)
      unfold refresh KeyAccess.key
      rw [usable]
      rfl
  | ok key =>
      cases held : k.bundle with
      | some bundle =>
          exact .inl ⟨refresh_run_loaded usable (by simp [isLoaded, held]), bundle, rfl⟩
      | none =>
          cases bound : k.epoch with
          | some epoch => exact .inr (.inr ⟨key, epoch, rfl, rfl, rfl⟩)
          | none =>
              refine .inr (.inl ⟨.notAvailable "key cache is not bound to a sync epoch", ?_, rfl⟩)
              unfold refresh KeyAccess.key
              rw [usable]
              show (if k.isLoaded then pure () else _ : Program Keyring Unit) k = _
              rw [if_neg (by simp [isLoaded, held]), bound]
              rfl

/-- A refresh leaves a keyring as it is, or it fills one that was empty. -/
theorem refresh_ending {server : Oracle Unit} (shows : ShowsBetween access past present server)
    {exchanges : List (Exchange Keyring)} {ending : Ending Keyring Unit}
    (taken : (refresh access).Takes server.alone k () exchanges ending ()) :
    ending.state = k ∨ (k.bundle = none ∧ Refilled access past present k ending.state) := by
  rw [Program.Takes] at taken
  rcases refresh_cases access k with ⟨same, -⟩ | ⟨e, same, -⟩ | ⟨key, epoch, usable, absent, bound⟩
  · rw [same] at taken
    obtain ⟨-, rfl, -⟩ := Run.takes_returned.mp taken
    exact .inl rfl
  · rw [same] at taken
    obtain ⟨-, rfl, -⟩ := Run.takes_failed.mp taken
    exact .inl rfl
  · rw [refresh_run_absent usable absent bound] at taken
    obtain ⟨rest, -, continued⟩ := Run.takes_waiting.mp taken
    simp only [Oracle.toOracle_alone, Oracle.touch_alone] at continued
    split at continued
    · rename_i bundle found
      obtain ⟨-, rfl, -⟩ := Run.takes_returned.mp (Run.takes_noted.mp continued)
      obtain ⟨st, since, opened⟩ := shows key bundle found
      refine .inr ⟨absent, .inr ⟨bundle, st, ?_, since, ⟨key, usable, opened⟩, rfl⟩⟩
      rw [bound]
      exact Option.some_ne_none epoch
    · obtain ⟨-, rfl, -⟩ := Run.takes_failed.mp continued
      exact .inl rfl

/-- Asking for a key refreshes the keyring, and does nothing else to it. -/
theorem keyFor_ending {server : Oracle Unit} (shows : ShowsBetween access past present server)
    {collection : String} {exchanges : List (Exchange Keyring)} {ending : Ending Keyring Key}
    (taken : (keyFor access collection).Takes server.alone k () exchanges ending ()) :
    ending.state = k ∨ (k.bundle = none ∧ Refilled access past present k ending.state) := by
  cases held : k.bundle with
  | some bundle =>
      rw [Program.Takes, keyFor_run_loaded held] at taken
      obtain ⟨-, rfl, -⟩ := Run.takes_returned.mp taken
      exact .inl rfl
  | none =>
      unfold keyFor at taken
      rw [Program.takes_get_bind, held] at taken
      obtain ⟨inner, world, head, tail, refreshing, rfl, asking⟩ := Program.Takes.split taken
      have filled := refresh_ending shows refreshing
      cases inner with
      | failed e last =>
          obtain ⟨-, rfl, -⟩ := asking
          exact filled.imp_right fun found => ⟨rfl, found.2⟩
      | returned _ last =>
          have same : ending.state = last := by
            dsimp only at asking
            rw [Program.takes_get_bind] at asking
            split at asking
            · obtain ⟨-, rfl, -⟩ := Program.takes_pure.mp asking
              rfl
            · obtain ⟨-, rfl, -⟩ := Program.takes_fail.mp asking
              rfl
          rw [same]
          exact filled.imp_right fun found => ⟨rfl, found.2⟩

/-- Others fill a keyring that is empty, and do nothing else to it. -/
theorem Consulted.cases (consulted : Consulted access past present k l) :
    l = k ∨ (k.bundle = none ∧ Refilled access past present k l) := by
  have next {m n : Keyring} (before : m = k ∨ (k.bundle = none ∧ Refilled access past present k m))
      (call : n = m ∨ (m.bundle = none ∧ Refilled access past present m n)) :
      n = k ∨ (k.bundle = none ∧ Refilled access past present k n) := by
    rcases call with rfl | ⟨absent, filled⟩
    · exact before
    · rcases before with rfl | ⟨empty, rfl | ⟨bundle, st, bound, since, opens, rfl⟩⟩
      · exact .inr ⟨absent, filled⟩
      · exact .inr ⟨absent, filled⟩
      · cases absent
  induction consulted with
  | unused => exact .inl rfl
  | refreshed before shows taken ih => exact next ih (refresh_ending shows taken)
  | asked before collection shows taken ih => exact next ih (keyFor_ending shows taken)

theorem Consulted.refilled (consulted : Consulted access past present k l) :
    Refilled access past present k l := by
  rcases consulted.cases with rfl | ⟨-, refilled⟩
  · exact .inl rfl
  · exact refilled

theorem Consulted.extend {later : List Storage} (consulted : Consulted access past present k l)
    (grown : present <:+ later) : Consulted access past later k l := by
  have extend {server : Oracle Unit} (shows : ShowsBetween access past present server) :
      ShowsBetween access past later server := by
    intro key bundle found
    obtain ⟨st, since, opened⟩ := shows key bundle found
    exact ⟨st, since.extend grown, opened⟩
  induction consulted with
  | unused => exact .unused _
  | refreshed before shows taken ih => exact .refreshed ih (extend shows) taken
  | asked before collection shows taken ih => exact .asked ih collection (extend shows) taken

theorem Consulted.keeps_bundle (consulted : Consulted access past present k l) {bundle : KeyBundle}
    (held : k.bundle = some bundle) : l.bundle = some bundle := by
  rcases consulted.cases with rfl | ⟨absent, -⟩
  · exact held
  · cases absent.symm.trans held

/-! ## What a keyring holds -/

/-- The bundle in a keyring, if there is one, the server held at some moment from one on. -/
def HeldSince (access : KeyAccess) (base present : List Storage) (k : Keyring) : Prop :=
  ∀ bundle, k.bundle = some bundle → ∃ st, Since base present st ∧ st.Opens access bundle

/-- A keyring that is bound to a time holds a bundle from a moment after the keys got that time. -/
def Dated (access : KeyAccess) (history : List Storage) (k : Keyring) : Prop :=
  ∀ time, k.modified = some time → ∃ old earlier, old :: earlier <:+ history ∧
    old.keysTime = some time ∧ HeldSince access (old :: earlier) history k

/-- What is said of a keyring outlasts the history and all refills. -/
def Durable (access : KeyAccess) (inv : List Storage → Keyring → Prop) : Prop :=
  ∀ past present k l, past <:+ present → Refilled access past present k l → inv past k → inv present l

theorem Durable.and {inv other : List Storage → Keyring → Prop} (durable : Durable access inv)
    (also : Durable access other) : Durable access fun history k => inv history k ∧ other history k :=
  fun past present k l grown refilled holds =>
    ⟨durable past present k l grown refilled holds.1, also past present k l grown refilled holds.2⟩

theorem durable_after (base : List Storage) : Durable access fun history _ => base <:+ history :=
  fun _ _ _ _ grown _ holds => holds.trans grown

theorem durable_empty : Durable access fun _ k => k = .empty := by
  rintro past present k l - (rfl | ⟨bundle, st, bound, -⟩) rfl
  · rfl
  · exact absurd rfl bound

theorem HeldSince.refilled (held : HeldSince access base past k) (after : base <:+ past)
    (grown : past <:+ present) (refilled : Refilled access past present k l) :
    HeldSince access base present l := by
  intro bundle found
  rcases refilled with rfl | ⟨fetched, st, bound, since, opens, rfl⟩
  · obtain ⟨st, since, opens⟩ := held bundle found
    exact ⟨st, since.extend grown, opens⟩
  · cases found
    exact ⟨st, since.widen after, opens⟩

theorem modified_refilled (refilled : Refilled access past present k l) : l.modified = k.modified := by
  rcases refilled with rfl | ⟨bundle, st, -, -, -, rfl⟩ <;> rfl

theorem durable_dated : Durable access (Dated access) := by
  intro past present k l grown refilled dated time bound
  rw [modified_refilled refilled] at bound
  obtain ⟨old, earlier, moment, timed, held⟩ := dated time bound
  exact ⟨old, earlier, moment.trans grown, timed, held.refilled moment grown refilled⟩

/-- The keyring is dated, and the history has come to a moment. -/
def DatedAfter (access : KeyAccess) (base history : List Storage) (k : Keyring) : Prop :=
  base <:+ history ∧ Dated access history k

/-- The keyring is empty, and the history has come to a moment. -/
def EmptyAfter (base history : List Storage) (k : Keyring) : Prop := base <:+ history ∧ k = .empty

/-- The keyring is dated, and its bundle is from some moment after one. -/
structure CurrentAfter (access : KeyAccess) (base history : List Storage) (k : Keyring) : Prop where
  after : base <:+ history
  dated : Dated access history k
  held : HeldSince access base history k

theorem durable_datedAfter : Durable access (DatedAfter access base) :=
  (durable_after base).and durable_dated

theorem durable_emptyAfter : Durable access (EmptyAfter base) := (durable_after base).and durable_empty

theorem durable_currentAfter : Durable access (CurrentAfter access base) := by
  intro past present k l grown refilled current
  constructor
  · exact current.after.trans grown
  · exact durable_dated past present k l grown refilled current.dated
  · exact current.held.refilled current.after grown refilled

theorem dated_of_unbound (unbound : k.modified = none) : Dated access present k := by
  intro time bound
  cases unbound.symm.trans bound

theorem EmptyAfter.dated (emptied : EmptyAfter base present k) : DatedAfter access base present k := by
  obtain ⟨after, rfl⟩ := emptied
  exact ⟨after, dated_of_unbound rfl⟩

theorem heldSince_of_absent (absent : k.bundle = none) : HeldSince access base present k := by
  intro bundle held
  cases absent.symm.trans held

/-- A keyring that is bound to the time of an index holds no bundle that is older than the index. -/
theorem Dated.rebind {history earlier : List Storage} {now : Storage} {time : Binary64}
    (dated : Dated access history k) (unrepeated : Unrepeated history)
    (moment : now :: earlier <:+ history) (timed : now.keysTime = some time) (syncId : String) :
    Dated access history (k.rebind syncId (some time)) ∧
      HeldSince access (now :: earlier) history (k.rebind syncId (some time)) := by
  unfold Keyring.rebind
  split
  · rename_i bound
    refine ⟨dated, fun bundle held => ?_⟩
    -- The bundle was there after the keys had got the time that they have by the index as well.
    obtain ⟨before, known, same⟩ : ∃ before, k.modified = some before ∧
        before.valueEq time = true := by
      simp only [isBoundTo, Bool.and_eq_true] at bound
      cases known : k.modified with
      | none =>
          rw [known] at bound
          cases bound.2
      | some before =>
          rw [known] at bound
          exact ⟨before, rfl, bound.2⟩
    obtain ⟨old, older, place, given, holds⟩ := dated before known
    obtain ⟨st, ⟨rest, at_st, after⟩, opens⟩ := holds bundle held
    rcases List.suffix_or_suffix_of_suffix at_st moment with early | late
    · have unmodified := (unrepeated.upTo moment).unchanged (after.trans early) given timed same
        ⟨rest, early, after⟩
      exact ⟨now, ⟨earlier, moment, List.suffix_rfl⟩, opens.congr unmodified.symm⟩
    · exact ⟨st, ⟨rest, at_st, late⟩, opens⟩
  · refine ⟨?_, heldSince_of_absent rfl⟩
    intro given same
    cases same
    exact ⟨now, earlier, moment, timed, heldSince_of_absent rfl⟩

end Keyring

end SealedSync
