import SealedSync.Proofs.Storage

/-!
# What is sealed of a bundle

A bundle that was sealed is found again with all its keys, whatever the names of its collections are.
The sealed text tells exactly which key each name has: it does not tell when or in which order the keys
were given, and bundles with different keys have different texts.
-/
namespace SealedSync

namespace NameMap

variable {α : Type}

theorem lookup_of_below {name : String} {entries : List (String × α)}
    (below : ∀ e ∈ entries, name < e.1) : entries.lookup name = none := by
  rw [List.lookup_eq_none_iff]
  intro e member
  apply bne_iff_ne.mpr
  rintro rfl
  exact String.lt_irrefl _ (below e member)

theorem lookup_of_lt_head {name : String} {head : String × α} {rest : List (String × α)}
    (ascending : Ascending (head :: rest)) (less : name < head.1) :
    (head :: rest).lookup name = none := by
  apply lookup_of_below
  intro e member
  rcases List.mem_cons.mp member with rfl | later
  · exact less
  · exact String.lt_trans less ((List.pairwise_cons.mp ascending).1 e later)

/-- Entries in order are determined by what is found under each name. -/
theorem entries_eq_of_lookup {entries others : List (String × α)} (ascending : Ascending entries)
    (ascends : Ascending others) (same : ∀ name, entries.lookup name = others.lookup name) :
    entries = others := by
  induction entries generalizing others with
  | nil =>
      cases others with
      | nil => rfl
      | cons second more =>
          obtain ⟨name, a⟩ := second
          exact absurd (same name) (by simp)
  | cons first rest ih =>
      cases others with
      | nil =>
          obtain ⟨name, a⟩ := first
          exact absurd (same name) (by simp)
      | cons second more =>
          obtain ⟨name, a⟩ := first
          obtain ⟨other, b⟩ := second
          have not_before : ¬name < other := fun less => by
            simpa [lookup_of_lt_head ascends less] using same name
          have not_after : ¬other < name := fun less => by
            simpa [lookup_of_lt_head ascending less] using (same other).symm
          obtain rfl : name = other :=
            String.le_antisymm (String.not_lt.mp not_after) (String.not_lt.mp not_before)
          obtain rfl : a = b := by simpa using same name
          have below := List.pairwise_cons.mp ascending
          have beyond := List.pairwise_cons.mp ascends
          have tails : ∀ found, rest.lookup found = more.lookup found := by
            intro found
            by_cases here : found = name
            · rw [here, lookup_of_below below.1, lookup_of_below beyond.1]
            · simpa [lookup_cons, here] using same found
          rw [ih below.2 beyond.2 tails]

theorem eq_iff_get? {m n : NameMap α} : m = n ↔ ∀ name, m.get? name = n.get? name := by
  constructor
  · rintro rfl name
    rfl
  · intro same
    exact ext (entries_eq_of_lookup m.ascending n.ascending same)

/-- Of the values that are given to a name the last one stays. -/
theorem get?_foldl_insert (added : List (String × α)) (m : NameMap α) (name : String) :
    (added.foldl (fun m e => m.insert e.1 e.2) m).get? name =
      (added.reverse.lookup name).or (m.get? name) := by
  induction added generalizing m with
  | nil => rfl
  | cons head rest ih =>
      have step : (List.lookup name [head]).or (m.get? name) = (m.insert head.1 head.2).get? name := by
        rw [get?_insert, lookup_cons]
        split <;> rfl
      rw [List.foldl_cons, ih, List.reverse_cons, List.lookup_append, Option.or_assoc, step]

end NameMap

namespace KeyBundle

/-- Gives collections keys of their own, one after another. -/
def withOverrides (b : KeyBundle) (added : List (String × Key)) : KeyBundle :=
  added.foldl (fun b e => b.withOverride e.1 e.2) b

/-- The key that a collection has of its own after others were given. -/
def lastGiven (b : KeyBundle) (added : List (String × Key)) (collection : String) : Option Key :=
  (added.reverse.lookup collection).or (b.overrides.get? collection)

theorem default_withOverrides (b : KeyBundle) (added : List (String × Key)) :
    (b.withOverrides added).default = b.default := by
  induction added generalizing b with
  | nil => rfl
  | cons head rest ih => exact ih (b.withOverride head.1 head.2)

theorem overrides_withOverrides (b : KeyBundle) (added : List (String × Key)) :
    (b.withOverrides added).overrides = added.foldl (fun m e => m.insert e.1 e.2) b.overrides := by
  induction added generalizing b with
  | nil => rfl
  | cons head rest ih => exact ih (b.withOverride head.1 head.2)

theorem get?_withOverrides (b : KeyBundle) (added : List (String × Key)) (collection : String) :
    (b.withOverrides added).overrides.get? collection = b.lastGiven added collection := by
  rw [overrides_withOverrides, NameMap.get?_foldl_insert, lastGiven]

/-- A text that is sealed stands for one bundle only. -/
theorem plaintext_inj {b other : KeyBundle} : other.plaintext = b.plaintext ↔ other = b := by
  constructor
  · intro same
    let key : Key := b.default
    let nonce : Nonce := .fit 12 []
    have payloads : other.toPayload key nonce = b.toPayload key nonce :=
      congrArg (sealText key nonce) same
    have opened := ofPayload_toPayload other key nonce
    rw [payloads, ofPayload_toPayload b key nonce] at opened
    exact (Except.ok.inj opened).symm
  · rintro rfl
    rfl

theorem eq_iff_keys {b other : KeyBundle} : other = b ↔
    other.default = b.default ∧ ∀ name, other.overrides.get? name = b.overrides.get? name := by
  constructor
  · rintro rfl
    exact ⟨rfl, fun _ => rfl⟩
  · rintro ⟨default, overrides⟩
    cases b
    cases other
    obtain rfl := default
    obtain rfl := NameMap.eq_iff_get?.mpr overrides
    rfl

/-- A sealed bundle is found again with all its keys. What is sealed depends on which key each name has
and on nothing else: of the keys that were given to a collection only the last one is told. -/
theorem sealed_keys (b : KeyBundle) (key : Key) (nonce : Nonce) :
    (∃ found, ofPayload (b.toPayload key nonce) key = .ok found ∧
        found.default = b.default ∧ found.overrides = b.overrides ∧
        ∀ name, found.keyFor name = b.keyFor name ∧ found.hasOverride name = b.hasOverride name) ∧
      (∀ other : KeyBundle, other.plaintext = b.plaintext ↔
        other.default = b.default ∧ ∀ name, other.overrides.get? name = b.overrides.get? name) ∧
      ∀ added again : List (String × Key),
        (b.withOverrides added).plaintext = (b.withOverrides again).plaintext ↔
          ∀ name, b.lastGiven added name = b.lastGiven again name := by
  refine ⟨⟨b, ofPayload_toPayload b key nonce, rfl, rfl, fun _ => ⟨rfl, rfl⟩⟩, ?_, ?_⟩
  · intro other
    exact plaintext_inj.trans eq_iff_keys
  · intro added again
    rw [plaintext_inj, eq_iff_keys, default_withOverrides, default_withOverrides]
    simp only [true_and, get?_withOverrides]

end KeyBundle

end SealedSync
