import SealedSync.Proofs.Storage

/-!
# The history of the keys

The history of a server is the list of what it held, latest first, and a moment of it is a suffix.
Other clients may put keys or wipe at any time, but each put gives the keys a later time than they ever
had. So two moments at which the keys have the same time have the same keys between them.
-/
namespace SealedSync

namespace Binary64

/-- The place of a number among all numbers: those of one sign are ordered as their bits are. -/
def rank (x : Binary64) : Int :=
  if x.isNegative then -(x.bits.toNat % Nat.pow 2 63 : Nat) else (x.bits.toNat % Nat.pow 2 63 : Nat)

/-- The first number is less than the second. -/
def Below (x y : Binary64) : Prop := x.isNaN = false ∧ y.isNaN = false ∧ x.rank < y.rank

instance : DecidableRel Below := fun _ _ => inferInstanceAs (Decidable (_ ∧ _ ∧ _))

theorem rank_of_isZero {x : Binary64} (zero : x.isZero = true) : x.rank = 0 := by
  have magnitude : x.bits.toNat % Nat.pow 2 63 = 0 := by
    simp only [isZero, exponentField, fractionField, Bool.and_eq_true, beq_iff_eq] at zero
    have first : Nat.pow 2 52 = 4503599627370496 := rfl
    have field : Nat.pow 2 11 = 2048 := rfl
    have whole : Nat.pow 2 63 = 9223372036854775808 := rfl
    rw [first, field] at zero
    rw [whole]
    omega
  unfold rank
  split <;> simp [magnitude]

theorem rank_eq_of_valueEq {x y : Binary64} (same : x.valueEq y = true) : x.rank = y.rank := by
  simp only [valueEq, Bool.and_eq_true, Bool.or_eq_true, beq_iff_eq] at same
  rcases same.2 with rfl | ⟨left, right⟩
  · rfl
  · rw [rank_of_isZero left, rank_of_isZero right]

theorem Below.not_valueEq {x y : Binary64} (below : x.Below y) : ¬x.valueEq y = true := by
  intro same
  have equal := rank_eq_of_valueEq same
  have less := below.2.2
  omega

end Binary64

namespace Storage

theorem SameIn.refl (name : String) (st : Storage) : SameIn name st st := ⟨rfl, rfl⟩

theorem SameIn.symm {name : String} {st other : Storage} (same : SameIn name st other) :
    SameIn name other st := ⟨same.1.symm, same.2.symm⟩

theorem SameIn.bundle {st other : Storage} (same : SameIn cryptoCollection st other) (key : Key) :
    st.bundle key = other.bundle key := by
  rw [Storage.bundle, Storage.bundle, same.2]

end Storage

/-- What a server held, latest first. Whatever else happens, its keys stay as they are, or they are put
at a later time than they ever had, or they are wiped. -/
inductive Chronicle : List Storage → Prop where
  | start (st : Storage) : Chronicle [st]
  | kept {st next : Storage} {past : List Storage} (chronicle : Chronicle (st :: past))
      (same : Storage.SameIn cryptoCollection next st) : Chronicle (next :: st :: past)
  | put {st next : Storage} {past : List Storage} (chronicle : Chronicle (st :: past))
      (record : RemoteRecord) (time : Binary64)
      (later : ∀ old ∈ st :: past, ∀ earlier, old.keysTime = some earlier → earlier.Below time)
      (stored : Storage.SameIn cryptoCollection next (st.store cryptoCollection record time)) :
      Chronicle (next :: st :: past)
  | wiped {st next : Storage} {past : List Storage} (chronicle : Chronicle (st :: past))
      (emptied : Storage.SameIn cryptoCollection next .empty) : Chronicle (next :: st :: past)

/-- What a server held, latest first. Whatever becomes of its keys, they never get a time again that they
had; as long as they keep their time, they stay as they are. -/
inductive Unrepeated : List Storage → Prop where
  | start (st : Storage) : Unrepeated [st]
  | kept {st next : Storage} {past : List Storage} (unrepeated : Unrepeated (st :: past))
      (same : Storage.SameIn cryptoCollection next st) : Unrepeated (next :: st :: past)
  | changed {st next : Storage} {past : List Storage} (unrepeated : Unrepeated (st :: past))
      (fresh : ∀ time, next.keysTime = some time → ∀ old ∈ st :: past, ∀ earlier,
        old.keysTime = some earlier → ¬earlier.valueEq time = true) : Unrepeated (next :: st :: past)

/-- At some moment from the latest of the past on the server held what is given. -/
def Since (past present : List Storage) (st : Storage) : Prop :=
  ∃ earlier, st :: earlier <:+ present ∧ past <:+ st :: earlier

namespace Since

variable {past middle present : List Storage} {st : Storage}

theorem extend (since : Since past middle st) (grown : middle <:+ present) : Since past present st := by
  obtain ⟨earlier, moment, after⟩ := since
  exact ⟨earlier, moment.trans grown, after⟩

theorem widen (since : Since middle present st) (grown : past <:+ middle) : Since past present st := by
  obtain ⟨earlier, moment, after⟩ := since
  exact ⟨earlier, moment, grown.trans after⟩

end Since

variable {history past : List Storage} {st now old : Storage} {earlier : List Storage}

/-- What is true of a history as long as moments are taken from it is true of it up to any moment. -/
theorem of_moment {holds : List Storage → Prop}
    (tail : ∀ now st past, holds (now :: st :: past) → holds (st :: past)) (whole : holds history)
    (moment : st :: past <:+ history) : holds (st :: past) := by
  induction history with
  | nil => simp at moment
  | cons now rest ih =>
      rcases List.suffix_cons_iff.mp moment with same | within
      · rwa [same]
      · cases rest with
        | nil => simp at within
        | cons next rest => exact ih (tail now next rest whole) within

namespace Unrepeated

theorem ne_nil (unrepeated : Unrepeated history) : history ≠ [] := by
  cases unrepeated <;> simp

theorem upTo (unrepeated : Unrepeated history) (moment : st :: past <:+ history) :
    Unrepeated (st :: past) := by
  refine of_moment (fun now st past unrepeated => ?_) unrepeated moment
  cases unrepeated with
  | kept unrepeated same => exact unrepeated
  | changed unrepeated fresh => exact unrepeated

/-- As long as the keys keep their time, they stay as they are. -/
theorem unchanged (unrepeated : Unrepeated (now :: past)) (moment : old :: earlier <:+ now :: past)
    {before after : Binary64} (timed : old.keysTime = some before) (listed : now.keysTime = some after)
    (same : before.valueEq after = true) (since : Since (old :: earlier) (now :: past) st) :
    Storage.SameIn cryptoCollection st now := by
  induction past generalizing now after with
  | nil =>
      obtain ⟨_, only, -⟩ := since
      rcases List.suffix_cons_iff.mp only with equal | impossible
      · cases equal
        exact .refl _ _
      · simp at impossible
  | cons next past ih =>
      obtain ⟨rest, place, after⟩ := since
      rcases List.suffix_cons_iff.mp place with equal | within
      · cases equal
        exact .refl _ _
      · have moment : old :: earlier <:+ next :: past := after.trans within
        cases unrepeated with
        | kept unrepeated unmodified =>
            have timed' : next.keysTime = some _ := unmodified.1.symm.trans listed
            exact (ih unrepeated moment timed' same ⟨rest, within, after⟩).trans unmodified.symm
        | changed unrepeated fresh =>
            have member : old ∈ next :: past := moment.subset List.mem_cons_self
            exact absurd same (fresh _ listed old member _ timed)

end Unrepeated

namespace Chronicle

/-- The history up to a moment is a history. -/
theorem upTo (chronicle : Chronicle history) (moment : st :: past <:+ history) :
    Chronicle (st :: past) := by
  refine of_moment (fun now st past chronicle => ?_) chronicle moment
  cases chronicle with
  | kept chronicle same => exact chronicle
  | put chronicle record time later stored => exact chronicle
  | wiped chronicle emptied => exact chronicle

theorem unrepeated (chronicle : Chronicle history) : Unrepeated history := by
  induction chronicle with
  | start st => exact .start st
  | kept chronicle same ih => exact .kept ih same
  | @put st next past chronicle record time later stored ih =>
      have put : next.keysTime = some time := by
        refine stored.1.trans ?_
        rw [Storage.store, CollectionIndex.modified?_insert, if_pos rfl]
      refine .changed ih fun given listed old member earlier timed => ?_
      obtain rfl : time = given := Option.some.inj (put.symm.trans listed)
      exact (later old member earlier timed).not_valueEq
  | wiped chronicle emptied ih =>
      refine .changed ih fun given listed => ?_
      cases emptied.1.symm.trans listed

theorem ne_nil (chronicle : Chronicle history) : history ≠ [] := chronicle.unrepeated.ne_nil

end Chronicle

end SealedSync
