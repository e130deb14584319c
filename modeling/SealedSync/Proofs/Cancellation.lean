import SealedSync.Proofs.Wiping

/-!
# Cancellation and the wipe

A cancellation is looked at before the epoch is settled, and again before the keys are secured. It is
not looked at between a fetch that finds the keys unusable and the fresh start that follows, so a
cycle that is cancelled by the end of that fetch, and in no other case, still wipes the server.
-/
namespace SealedSync

/-- The oracle together with a handle that asks the session to stop during some of its waits. -/
def Oracle.cancelledBy {ω : Type} (oracle : Oracle ω) (cancels : Request → ω → Bool) :
    Environment ω Session :=
  { oracle with touch := fun request world s => if cancels request world then s.cancel else s }

namespace Session

open RemoteState FreshStart

variable {ω α : Type}

theorem onlyCancels_cancelledBy (oracle : Oracle ω) (cancels : Request → ω → Bool) :
    OnlyCancels (oracle.cancelledBy cancels) := by
  intro request world s
  cases asked : cancels request world with
  | true => exact .inr (if_pos asked)
  | false => exact .inl (if_neg (Bool.eq_false_iff.mp asked))

/-- Where nothing is wiped yet, a fetch that finds the keys unusable is answered by a wipe. -/
def Answered (p : Profile) (key : Key) (exchanges : List (Exchange Session)) : Prop :=
  ∀ before x rest, exchanges = before ++ x :: rest → ¬Wipes before → KeysUnusable p key x →
    Wipes rest

namespace Answered

variable {p : Profile} {key : Key} {x : Exchange Session} {xs ys : List (Exchange Session)}

theorem of_usable (usable : ∀ x ∈ xs, ¬KeysUnusable p key x) : Answered p key xs := by
  rintro before x rest rfl - unusable
  exact absurd unusable (usable x (by simp))

theorem cons (rest : Answered p key xs) (answer : KeysUnusable p key x → Wipes xs) :
    Answered p key (x :: xs) := by
  rintro (_ | ⟨first, before⟩) y tail same unwiped unusable
  · obtain ⟨rfl, rfl⟩ := List.cons.inj same
    exact answer unusable
  · obtain ⟨rfl, rfl⟩ := List.cons.inj same
    exact rest before y tail rfl
      (fun ⟨z, member, wipe⟩ => unwiped ⟨z, List.mem_cons_of_mem _ member, wipe⟩) unusable

theorem of_wipe (wipe : x.request = wipeRequest p.limit) : Answered p key (x :: xs) := by
  rintro (_ | ⟨first, before⟩) y tail same unwiped unusable
  · obtain ⟨rfl, rfl⟩ := List.cons.inj same
    have impossible := unusable.request_eq.symm.trans wipe
    simp at impossible
  · obtain ⟨rfl, rfl⟩ := List.cons.inj same
    exact absurd ⟨x, List.mem_cons_self, by rw [wipe]; rfl⟩ unwiped

theorem append_left (rest : Answered p key ys) (usable : ∀ x ∈ xs, ¬KeysUnusable p key x) :
    Answered p key (xs ++ ys) := by
  induction xs with
  | nil => exact rest
  | cons x xs ih =>
      exact (ih fun y member => usable y (List.mem_cons_of_mem _ member)).cons
        fun unusable => absurd unusable (usable x List.mem_cons_self)

theorem append_right (first : Answered p key xs) (usable : ∀ y ∈ ys, ¬KeysUnusable p key y) :
    Answered p key (xs ++ ys) := by
  rintro before x rest same unwiped unusable
  rcases List.append_eq_append_iff.mp same with ⟨middle, rfl, later⟩ | ⟨middle, rfl, later⟩
  · exact absurd unusable (usable x (by simp [later]))
  · cases middle with
    | nil => exact absurd unusable (usable x (by rw [← List.nil_append ys, ← later]; simp))
    | cons y middle =>
        obtain ⟨rfl, rfl⟩ := List.cons.inj later
        obtain ⟨z, member, wipe⟩ := first before x middle rfl unwiped unusable
        exact ⟨z, List.mem_append_left _ member, wipe⟩

theorem append_of_wipes (first : Answered p key xs) (wiped : Wipes xs) :
    Answered p key (xs ++ ys) := by
  rintro before x rest same unwiped unusable
  rcases List.append_eq_append_iff.mp same with ⟨middle, rfl, -⟩ | ⟨middle, rfl, later⟩
  · obtain ⟨z, member, wipe⟩ := wiped
    exact absurd ⟨z, List.mem_append_left _ member, wipe⟩ unwiped
  · cases middle with
    | nil =>
        obtain ⟨z, member, wipe⟩ := wiped
        exact absurd ⟨z, by simpa using member, wipe⟩ unwiped
    | cons y middle =>
        obtain ⟨rfl, rfl⟩ := List.cons.inj later
        obtain ⟨z, member, wipe⟩ := first before x middle rfl unwiped unusable
        exact ⟨z, List.mem_append_left _ member, wipe⟩

end Answered

theorem keysUnusable_exchange {env : Environment ω Session} {p : Profile} {key : Key} {s : Session}
    {world : ω} :
    KeysUnusable p key (env.exchange (bundleRequest p.limit) s world) ↔
      ∃ e, bundleFrom p.limit key (env.reply (bundleRequest p.limit) world) = .error e ∧
        e.Unusable := by
  constructor
  · intro unusable
    unfold Environment.exchange at unusable
    cases unusable with
    | found failed unusable => exact ⟨_, failed, unusable⟩
  · rintro ⟨e, failed, unusable⟩
    exact .found failed unusable

theorem usable_of_local {p : Profile} {key : Key} {exchanges : List (Exchange Session)}
    (unasked : ∀ x ∈ exchanges, x.request.isRemote = false) :
    ∀ x ∈ exchanges, ¬KeysUnusable p key x := by
  intro x member unusable
  have asked := unasked x member
  rw [unusable.request_eq] at asked
  cases asked

section Stages

variable {env : Environment ω Session} {before after : ω} {exchanges : List (Exchange Session)}
  {p : Profile} {s : Session} {index : CollectionIndex} {m : GlobalMetadata} {key : Key}

theorem conclude_usable (polite : OnlyCancels env) (loaded : s.book.keyring.isLoaded = true)
    {ending : Ending Session Unit}
    (taken : (conclude p index m).Takes env s before exchanges ending after) :
    ∀ x ∈ exchanges, ¬KeysUnusable p key x := by
  have others := polite.keeps (fun s => s.book.keyring.isLoaded = true) fun _ h => h
  exact usable_of_local fun x member =>
    (((conclude_stays_local index m).takes loaded others taken).1 x member).2.1

/-- Securing the keys answers keys that are unusable with a fresh start, and returns with keys. -/
theorem answered_secureKeys (polite : OnlyCancels env) (fresh : s.performedFreshStart = false)
    (busy : s.isSyncing = true)
    (usable : p.sealingKey = .ok key) {ending : Ending Session GlobalMetadata}
    (taken : (secureKeys p key index m).Takes env s before exchanges ending after) :
    Answered p key exchanges ∧
      (Wipes exchanges ∨ ∀ m t, ending = .returned m t → t.book.keyring.isLoaded = true) := by
  have fetched := polite.fresh (bundleRequest p.limit) before (s.keyBound index m)
    (by simpa [keyBound] using fresh)
  cases secured_of_takes usable taken with
  | cached bundle held =>
      refine ⟨.of_usable (by simp), .inr fun m t same => ?_⟩
      cases same
      rw [Keyring.isLoaded, held]
      rfl
  | fetched t bundle fetching absent opened =>
      refine ⟨.of_usable ?_, .inr fun m t same => ?_⟩
      · intro x member unusable
        obtain rfl := List.mem_singleton.mp member
        obtain ⟨e, failed, -⟩ := keysUnusable_exchange.mp unusable
        cases opened.symm.trans failed
      · cases same
        rfl
  | renewed t e rest ending after fetching absent failed unusable unmade renewing =>
      subst fetching
      have running := polite.running (bundleRequest p.limit) before (s.keyBound index m)
        ((isSyncing_keyBound s index m).trans busy)
      obtain ⟨x, tail, rfl, wipe, -⟩ := wipes_once polite running keeps_renewal renewing
      have wiped : x.request.isWipe = true := by rw [wipe]; rfl
      refine ⟨(Answered.of_wipe wipe).cons fun _ => ⟨x, List.mem_cons_self, wiped⟩, .inl ?_⟩
      exact ⟨x, by simp, wiped⟩
  | refused t e fetching absent failed passed =>
      subst fetching
      refine ⟨.of_usable ?_, .inr fun m t same => by cases same⟩
      intro x member unusable
      obtain rfl := List.mem_singleton.mp member
      obtain ⟨e', found, lost⟩ := keysUnusable_exchange.mp unusable
      obtain rfl := Except.error.inj (failed.symm.trans found)
      exact passed ⟨lost, fetched⟩

theorem answered_maintain (polite : OnlyCancels env) (fresh : s.performedFreshStart = false)
    (busy : s.isSyncing = true) (usable : p.sealingKey = .ok key) {ending : Ending Session Unit}
    (taken : (maintain p key index m).Takes env s before exchanges ending after) :
    Answered p key exchanges := by
  rw [maintain, takes_checkpoint_bind] at taken
  split at taken
  · obtain ⟨rfl, -, -⟩ := taken
    exact .of_usable (by simp)
  · obtain ⟨inner, middle, head, tail, secured, rfl, concluded⟩ := taken.split
    obtain ⟨answered, wiped | loaded⟩ := answered_secureKeys polite fresh busy usable secured
    · exact answered.append_of_wipes wiped
    · cases inner with
      | failed e last =>
          obtain ⟨rfl, -, -⟩ := concluded
          simpa using answered
      | returned m last =>
          exact answered.append_right (conclude_usable polite (loaded m last rfl) concluded)

theorem answered_settle (polite : OnlyCancels env) (fresh : s.performedFreshStart = false)
    (busy : s.isSyncing = true) (usable : p.sealingKey = .ok key) {evaluated : Evaluated}
    {ending : Ending Session Unit}
    (taken : (settleEpoch p key evaluated >>= maintain p key index).Takes env s before exchanges
      ending after) : Answered p key exchanges := by
  cases evaluated with
  | diverged reason =>
      obtain ⟨x, rest, rfl, wipe, -⟩ :=
        wipes_once polite busy (fun m => maintain_afresh index m) taken
      exact .of_wipe wipe
  | current m =>
      rw [settleEpoch_current_bind] at taken
      obtain ⟨inner, middle, head, tail, observed, rfl, maintained⟩ := taken.split
      have stays : (observeEpoch m).Keeps
          (fun s => s.isSyncing = true ∧ s.performedFreshStart = false) fun r => r.isRemote = false :=
        observeEpoch_stays_local m fun s holds =>
          ⟨by simpa [isSyncing, forgetting, withKeyring, withReport] using holds.1,
            (performedFreshStart_forgetting s).trans holds.2⟩
      have kept := stays.takes ⟨busy, fresh⟩
        (polite.keeps (fun s => s.isSyncing = true ∧ s.performedFreshStart = false) fun _ h => h)
        observed
      have unasked : ∀ x ∈ head, ¬KeysUnusable p key x :=
        usable_of_local fun x member => (kept.1 x member).2.1
      cases inner with
      | failed e last =>
          obtain ⟨rfl, -, -⟩ := maintained
          simpa using Answered.of_usable unasked
      | returned _ last =>
          exact (answered_maintain polite kept.2.2 kept.2.1 usable maintained).append_left unasked

theorem answered_sync (polite : OnlyCancels env) (usable : p.sealingKey = .ok key)
    {ending : Ending Session CycleReport}
    (taken : (sync p).Takes env s before exchanges ending after) : Answered p key exchanges := by
  obtain ⟨prelude, rest, rfl, reads, continued⟩ := sync_prelude polite taken
  have unasked : ∀ x ∈ prelude, ¬KeysUnusable p key x := by
    intro x member unusable
    rcases reads x member with same | same | same <;>
      simpa [cryptoCollection, metaCollection] using unusable.request_eq.symm.trans same
  rcases continued with rfl | ⟨key', -, _, _, _, _, _, _, sealing, running, fresh, settled⟩
  · simpa using Answered.of_usable unasked
  · obtain rfl : key' = key := by simpa [sealing] using usable
    exact (answered_settle polite fresh running sealing settled).append_left unasked

end Stages

/-- A cycle that is asked to stop before its wipe still wipes if the exchange in progress is the
fetch that finds the keys unusable, and only then. -/
theorem cancelled_wipes_iff (oracle : Oracle ω) (cancels : Request → ω → Bool) (p : Profile)
    (s : Session) (world : ω) {before rest : List (Exchange Session)} {x : Exchange Session}
    (exchanged : ((sync p s).course (oracle.cancelledBy cancels) world).exchanges =
      before ++ x :: rest)
    (unwiped : ∀ y ∈ before ++ [x], y.request.isWipe = false)
    (cancelled : x.resumed.cancelRequested = true) :
    (∃ y ∈ rest, y.request.isWipe = true) ↔ ∃ key, p.sealingKey = .ok key ∧ KeysUnusable p key x := by
  have taken : (sync p).Takes (oracle.cancelledBy cancels) s world (before ++ x :: rest) _ _ :=
    exchanged ▸ Run.takes_course _ _ _
  have polite := onlyCancels_cancelledBy oracle cancels
  constructor
  · rintro ⟨y, member, wipe⟩
    cases sealing : p.sealingKey with
    | error e =>
        exact absurd ⟨y, by simp [member], wipe⟩ (not_wipes_without_key polite sealing taken)
    | ok key =>
        refine ⟨key, rfl, ?_⟩
        have heralded := heralded_sync polite sealing taken
        have precursor : Precursor p key x :=
          (List.pairwise_cons.mp (List.pairwise_append.mp heralded).2.1).1 y member wipe
        cases precursor with
        | keys unusable => exact unusable
        | index found wanted => simp [wanted] at cancelled
        | metadata found wanted => simp [wanted] at cancelled
        | derivation wanted => simp [wanted] at cancelled
        | reset wanted => simp [wanted] at cancelled
  · rintro ⟨key, sealing, unusable⟩
    refine answered_sync polite sealing taken before x rest rfl ?_ unusable
    rintro ⟨y, member, wipe⟩
    simp [unwiped y (List.mem_append_left _ member)] at wipe

theorem keylessTime_valid : CivilTime.Valid ⟨2001, 9, 9, 1, 46, 40, 0⟩ := by decide

/-- A server with metadata of the current format and without a key bundle, which is not wiped in
time. -/
def keylessOracle : Oracle Unit where
  next := fun _ world => world
  reply
    | .remote _ .index, _ =>
        some (.ok (.ofList [(metaCollection, .zero), (cryptoCollection, .zero)]))
    | .remote _ (.fetch collection _), _ =>
        some (.ok (if collection = metaCollection then some (.ofPayload globalRecordId "[\"a\",5]")
          else none))
    | .remote _ (.store ..), _ => none
    | .remote _ .wipe, _ => none
    | .resetClient _, _ => .ok ()
    | .synchronize .., _ => .ok ()
    | .deriveKey, _ => ()
    | .readFile _, _ => .error .notFound
    | .writeFile .., _ => .ok ()
    | .renameFile .., _ => .ok ()
    | .random _, _ => .fit _ []
    | .clock, _ => ⟨⟨2001, 9, 9, 1, 46, 40, 0⟩, keylessTime_valid⟩

def keylessProfile : Profile := ⟨"account", .standard, .ok ⟨.fit 32 []⟩⟩

def keylessSession : Session := .ofLocalState ⟨some "a", none, none⟩

/-- A cycle that is asked to stop while the key bundle is fetched. -/
def keylessCourse : Course Unit Session CycleReport :=
  (sync keylessProfile keylessSession).course
    (keylessOracle.cancelledBy fun request _ => request == bundleRequest keylessProfile.limit) ()

theorem keylessCourse_exchanges : ∃ before x y, keylessCourse.exchanges = before ++ [x, y] ∧
    (∀ z ∈ before ++ [x], z.request.isWipe = false) ∧ x.resumed.cancelRequested = true ∧
    y.request.isWipe = true := by
  have asked : keylessCourse.exchanges.map (fun x => (x.request.isWipe, x.resumed.cancelRequested)) =
      [(false, false), (false, false), (false, false)] ++ [(false, true), (true, true)] := by decide +kernel
  obtain ⟨before, last, split, unwiped, found⟩ := List.map_eq_append_iff.mp asked
  obtain ⟨x, tail, rfl, cancelled, found⟩ := List.map_eq_cons_iff.mp found
  obtain ⟨y, rfl, wipe⟩ := List.map_eq_singleton_iff.mp found
  refine ⟨before, x, y, split, fun z member => ?_, congrArg Prod.snd cancelled, congrArg Prod.fst wipe⟩
  rcases List.mem_append.mp member with early | same
  · have listed := List.mem_map_of_mem (f := fun x => (x.request.isWipe, x.resumed.cancelRequested)) early
    rw [unwiped] at listed
    simp only [List.mem_cons, Prod.mk.injEq, List.not_mem_nil, or_false, or_self] at listed
    exact listed.1
  · rw [List.mem_singleton.mp same]
    exact congrArg Prod.fst cancelled

/-- It is not so that a cycle which is asked to stop before its wipe never wipes. -/
theorem cancelled_before_wipe_yet_wipes :
    ¬∀ (oracle : Oracle Unit) (cancels : Request → Unit → Bool) (p : Profile) (s : Session)
      (before rest : List (Exchange Session)) (x : Exchange Session),
      ((sync p s).course (oracle.cancelledBy cancels) ()).exchanges = before ++ x :: rest →
      (∀ y ∈ before ++ [x], y.request.isWipe = false) → x.resumed.cancelRequested = true →
      ∀ y ∈ rest, y.request.isWipe = false := by
  intro never
  obtain ⟨before, x, y, exchanged, unwiped, cancelled, wipe⟩ := keylessCourse_exchanges
  have unwiped_after := never _ _ _ _ before [y] x exchanged unwiped cancelled y (by simp)
  simp [wipe] at unwiped_after

theorem keyless_cancelled_wipes_iff : ∃ before x y, keylessCourse.exchanges = before ++ [x, y] ∧
    (∀ z ∈ before ++ [x], z.request.isWipe = false) ∧ x.resumed.cancelRequested = true ∧
    ((∃ z ∈ [y], z.request.isWipe = true) ↔
      ∃ key, keylessProfile.sealingKey = .ok key ∧ KeysUnusable keylessProfile key x) := by
  obtain ⟨before, x, y, exchanged, unwiped, cancelled, -⟩ := keylessCourse_exchanges
  exact ⟨before, x, y, exchanged, unwiped, cancelled,
    cancelled_wipes_iff keylessOracle _ keylessProfile keylessSession () exchanged unwiped cancelled⟩
end Session

end SealedSync
