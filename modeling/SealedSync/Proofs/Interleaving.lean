import SealedSync.Proofs.KeyCustody

/-!
# Clients of one account

Some sessions share a server, which takes their requests one at a time and in any order, so that the
parts of their cycles and of their fresh starts interleave. None of them writes anything that another
could not read, and each of them keeps its keyring dated.
-/
namespace SealedSync

open RemoteState FreshStart

/-! ## What the server may hold -/

namespace Storage

variable {st other : Storage} {storageVersion : Nat} {key : Key}

/-- The metadata are not of a newer format, and the keys open if they can be read. -/
structure Admissible (st : Storage) (storageVersion : Nat) (key : Key) : Prop where
  format : ∀ m, st.metadata = .ok m → m.storageVersion ≤ storageVersion
  opens : st.bundle key ≠ .error .decryptFailed

theorem Admissible.congr (admissible : other.Admissible storageVersion key)
    (same : st.SameBookkeeping other) : st.Admissible storageVersion key := by
  constructor
  · rw [metadata_congr same]
    exact admissible.format
  · rw [bundle_congr same]
    exact admissible.opens

theorem admissible_empty : Storage.empty.Admissible storageVersion key := by
  constructor
  · intro m found
    cases found
  · intro failed
    cases failed

theorem Admissible.store_keys (admissible : st.Admissible storageVersion key) (bundle : KeyBundle)
    (nonce : Nonce) (time : Binary64) :
    (st.store cryptoCollection (.ofPayload keysRecordId (bundle.toPayload key nonce))
      time).Admissible storageVersion key := by
  constructor
  · intro m found
    have untouched := sameIn_store (by decide : metaCollection ≠ cryptoCollection) st
      (.ofPayload keysRecordId (bundle.toPayload key nonce)) time
    rw [metadata, untouched.2] at found
    exact admissible.format m found
  · have opened : (st.store cryptoCollection (.ofPayload keysRecordId (bundle.toPayload key nonce))
        time).bundle key = .ok bundle := KeyBundle.ofPayload_toPayload bundle key nonce
    intro failed
    cases opened.symm.trans failed

theorem Admissible.store_metadata (admissible : st.Admissible storageVersion key) {m : GlobalMetadata}
    (fits : m.Fits) (current : m.storageVersion = storageVersion) (time : Binary64) :
    (st.store metaCollection (.ofPayload globalRecordId m.toJson.render) time).Admissible
      storageVersion key := by
  constructor
  · have decoded : (st.store metaCollection (.ofPayload globalRecordId m.toJson.render)
        time).metadata = .ok m := by
      show decodeMetadata m.toJson.render = .ok m
      exact decodeMetadata_render fits
    intro found same
    rw [← Except.ok.inj (decoded.symm.trans same)]
    exact Nat.le_of_eq current
  · have untouched := sameIn_store (by decide : cryptoCollection ≠ metaCollection) st
      (.ofPayload globalRecordId m.toJson.render) time
    rw [Storage.bundle, untouched.2]
    exact admissible.opens

end Storage

namespace Session

variable {ω : Type} {oracle : Oracle ω} {content : ω → Storage} {p : Profile} {key : Key}

/-- What a session may ask for leaves the server with nothing that another could not read. -/
theorem MayAsk.admissible (honest : oracle.Honest content) (fits : p.config.Fits)
    (usable : p.sealingKey = .ok key) {r : Request} (asked : MayAsk p r) {w : ω}
    (admissible : (content w).Admissible p.config.storageVersion key) :
    (content (oracle.next r w)).Admissible p.config.storageVersion key := by
  have reads (unwritten : r.isWrite = false) :
      (content (oracle.next r w)).Admissible p.config.storageVersion key :=
    admissible.congr (honest.others r w unwritten)
  rcases asked with unwritten | rfl | ⟨k, found, publishes⟩
  · exact reads unwritten
  · rcases honest.wipe p.limit w with emptied | ⟨same, -⟩
    · exact Storage.admissible_empty.congr emptied
    · exact admissible.congr same
  · obtain rfl : k = key := Except.ok.inj (found.symm.trans usable)
    cases publishes with
    | draws draw => exact reads rfl
    | keys bundle nonce =>
        rcases honest.store (FreshStartPlan.ofConfig p.config).limit cryptoCollection _ w with
          ⟨time, -, stored⟩ | ⟨same, -⟩
        · exact (admissible.store_keys bundle nonce time).congr stored
        · exact admissible.congr same
    | metadata m current versions =>
        have fitting : m.Fits := by
          constructor
          · rw [current]
            exact fits.storageVersion
          · intro e member
            obtain ⟨c, listed, same⟩ := versions e member
            rw [same]
            exact fits.collections c listed
        rcases honest.store (FreshStartPlan.ofConfig p.config).limit metaCollection _ w with
          ⟨time, -, stored⟩ | ⟨same, -⟩
        · exact (admissible.store_metadata fitting current time).congr stored
        · exact admissible.congr same

end Session

/-! ## Many clients -/

/-- What a client is at: nothing, or some place in a cycle. -/
inductive Phase where
  | idle (s : Session)
  | busy (run : Run Session CycleReport)

/-- The clients of an account, and what their server has held up to now, latest first. -/
structure Fleet (ι ω : Type) where
  world : ω
  past : List Storage
  phase : ι → Phase

namespace Fleet

open Session Keyring

variable {ι ω : Type} [DecidableEq ι]

omit [DecidableEq ι] in
def history (content : ω → Storage) (fleet : Fleet ι ω) : List Storage :=
  content fleet.world :: fleet.past

/-- One of the clients comes to another place. -/
def turn (fleet : Fleet ι ω) (i : ι) (phase : Phase) : Fleet ι ω :=
  { fleet with phase := fun j => if j = i then phase else fleet.phase j }

/-- The server comes to hold something else. -/
def moved (content : ω → Storage) (fleet : Fleet ι ω) (world : ω) : Fleet ι ω :=
  { fleet with world, past := fleet.history content }

/-- One thing happens: an idle client is used or begins a cycle, or a cycle that runs goes on. Each
request is served at once, and it may find that others have used the session meanwhile. -/
inductive Step (oracle : ι → Oracle ω) (content : ω → Storage) (p : ι → Profile) :
    Fleet ι ω → Fleet ι ω → Prop where
  | uses {fleet : Fleet ι ω} (i : ι) {s t : Session} (found : fleet.phase i = .idle s)
      (cycle : t.cycle = s.cycle)
      (consulted : Consulted (p i).keyAccess (fleet.history content) (fleet.history content)
        s.book.keyring t.book.keyring) : Step oracle content p fleet (fleet.turn i (.idle t))
  | begins {fleet : Fleet ι ω} (i : ι) {s : Session} (found : fleet.phase i = .idle s) :
      Step oracle content p fleet (fleet.turn i (.busy (sync (p i) s)))
  | notes {fleet : Fleet ι ω} (i : ι) {event : Event} {rest : Run Session CycleReport}
      (found : fleet.phase i = .busy (.noted event rest)) :
      Step oracle content p fleet (fleet.turn i (.busy rest))
  | serves {fleet : Fleet ι ω} (i : ι) {r : Request} {s t : Session}
      {resume : r.Reply → Session → Run Session CycleReport}
      (found : fleet.phase i = .busy (.waiting r s resume))
      (timely : Chronicle ((fleet.moved content ((oracle i).next r fleet.world)).history content))
      (cycle : t.cycle = s.cycle)
      (consulted : Consulted (p i).keyAccess (fleet.history content)
        ((fleet.moved content ((oracle i).next r fleet.world)).history content)
        s.book.keyring t.book.keyring) :
      Step oracle content p fleet ((fleet.moved content ((oracle i).next r fleet.world)).turn i
        (.busy (resume ((oracle i).reply r fleet.world) t)))
  | returns {fleet : Fleet ι ω} (i : ι) {report : CycleReport} {s : Session}
      (found : fleet.phase i = .busy (.returned report s)) :
      Step oracle content p fleet (fleet.turn i (.idle s))
  | fails {fleet : Fleet ι ω} (i : ι) {e : SyncError} {s : Session}
      (found : fleet.phase i = .busy (.failed e s)) :
      Step oracle content p fleet (fleet.turn i (.idle s))

/-- One thing happens after the other. -/
inductive Reaches (oracle : ι → Oracle ω) (content : ω → Storage) (p : ι → Profile) :
    Fleet ι ω → Fleet ι ω → Prop where
  | refl (fleet : Fleet ι ω) : Reaches oracle content p fleet fleet
  | tail {first middle last : Fleet ι ω} (reaches : Reaches oracle content p first middle)
      (step : Step oracle content p middle last) : Reaches oracle content p first last

end Fleet

/-- Whatever becomes of the server from now on, the client keeps its keyring dated and asks only for
what a session may ask for. -/
def Phase.Sound (p : Profile) (history : List Storage) : Phase → Prop
  | .idle s => Session.Resting p history s
  | .busy run => ∀ later, history <:+ later → Chronicle later →
      run.Assures (Session.Served p) (fun _ _ r => Session.MayAsk p r) (fun history ending =>
        ending.Meets (fun _ => Session.Resting p history) (Session.Resting p history)) later

theorem Phase.Sound.extend {p : Profile} {past present : List Storage} {phase : Phase}
    (sound : phase.Sound p past) (grown : past <:+ present) (chronicle : Chronicle present) :
    phase.Sound p present := by
  cases phase with
  | idle s =>
      constructor
      · exact chronicle
      · exact Keyring.durable_dated past present _ _ grown (.inl rfl) sound.dated
      · exact sound.idle
  | busy run =>
      intro later after lasting
      exact sound later (grown.trans after) lasting

/-- What an honest server answers shows what it holds. -/
theorem Oracle.Honest.shown {ω : Type} {oracle : Oracle ω} {content : ω → Storage}
    (honest : oracle.Honest content) (r : Request) (w : ω) (past : List Storage) :
    Shown (content w :: past) r (oracle.reply r w) := by
  match r with
  | .remote limit .index =>
      rw [honest.index]
      rfl
  | .remote limit (.fetch collection id) =>
      rw [honest.fetch]
      rfl
  | .remote _ (.store ..) | .remote _ .wipe => trivial
  | .resetClient _ | .synchronize .. | .readFile _ | .writeFile .. | .renameFile .. => trivial
  | .random _ | .clock | .deriveKey => trivial

namespace Fleet

open Session Keyring

variable {ι ω : Type} [DecidableEq ι] {oracle : ι → Oracle ω} {content : ω → Storage}
  {p : ι → Profile} {storageVersion : Nat} {key : Key} {fleet next : Fleet ι ω}

/-- The clients are of one account: they have the same key and the same format, and their server is
faithful to each of them. -/
structure Kindred (oracle : ι → Oracle ω) (content : ω → Storage) (p : ι → Profile)
    (storageVersion : Nat) (key : Key) : Prop where
  faithful : ∀ i, (oracle i).Faithful content
  fits : ∀ i, (p i).config.Fits
  usable : ∀ i, (p i).sealingKey = .ok key
  format : ∀ i, (p i).config.storageVersion = storageVersion

/-- What holds at all times. -/
structure Sound (content : ω → Storage) (p : ι → Profile) (storageVersion : Nat) (key : Key)
    (fleet : Fleet ι ω) : Prop where
  chronicle : Chronicle (fleet.history content)
  admissible : (content fleet.world).Admissible storageVersion key
  phases : ∀ i, (fleet.phase i).Sound (p i) (fleet.history content)

omit [DecidableEq ι] in
theorem Sound.of_phase (sound : fleet.Sound content p storageVersion key) {i : ι} {phase : Phase}
    (found : fleet.phase i = phase) : phase.Sound (p i) (fleet.history content) :=
  found ▸ sound.phases i

theorem Sound.turn (sound : fleet.Sound content p storageVersion key) {i : ι} {phase : Phase}
    (turned : phase.Sound (p i) (fleet.history content)) :
    (fleet.turn i phase).Sound content p storageVersion key where
  chronicle := sound.chronicle
  admissible := sound.admissible
  phases j := by
    show (if j = i then phase else fleet.phase j).Sound (p j) (fleet.history content)
    split
    · subst j
      exact turned
    · exact sound.phases j

omit [DecidableEq ι] in
theorem Sound.moved (sound : fleet.Sound content p storageVersion key) {world : ω}
    (timely : Chronicle ((fleet.moved content world).history content))
    (admissible : (content world).Admissible storageVersion key) :
    (fleet.moved content world).Sound content p storageVersion key where
  chronicle := timely
  admissible := admissible
  phases j := (sound.phases j).extend (List.suffix_cons _ _) timely

/-- Whatever happens next, the clients and their server stay sound. -/
theorem sound_step (kindred : Kindred oracle content p storageVersion key)
    (step : Step oracle content p fleet next) (sound : fleet.Sound content p storageVersion key) :
    next.Sound content p storageVersion key := by
  cases step with
  | uses i found cycle consulted =>
      have resting := sound.of_phase found
      refine sound.turn ?_
      constructor
      · exact sound.chronicle
      · exact durable_dated _ _ _ _ List.suffix_rfl consulted.refilled resting.dated
      · exact (congrArg Option.isSome cycle).trans resting.idle
  | begins i found =>
      have resting := sound.of_phase found
      refine sound.turn fun later grown chronicle => ?_
      have rests : Resting (p i) later _ := Phase.Sound.extend resting grown chronicle
      exact upholds_sync later _ rests
  | notes i found =>
      have running := sound.of_phase found
      exact sound.turn running
  | returns i found =>
      have running := sound.of_phase found
      exact sound.turn (running _ List.suffix_rfl sound.chronicle)
  | fails i found =>
      have running := sound.of_phase found
      exact sound.turn (running _ List.suffix_rfl sound.chronicle)
  | @serves i r s t resume found timely cycle consulted =>
      have running := sound.of_phase found
      obtain ⟨asked, onward⟩ := running _ List.suffix_rfl sound.chronicle
      have admissible : (content ((oracle i).next r fleet.world)).Admissible storageVersion key := by
        rw [← kindred.format i]
        refine asked.admissible (kindred.faithful i).toHonest (kindred.fits i) (kindred.usable i) ?_
        rw [kindred.format i]
        exact sound.admissible
      refine (sound.moved timely admissible).turn fun later grown chronicle => ?_
      refine onward _ later t ?_
      constructor
      · exact chronicle
      · exact (List.suffix_cons _ _).trans grown
      · exact (kindred.faithful i).shown r fleet.world fleet.past
      · exact cycle
      · exact consulted.extend grown

/-- Whatever happens from then on, they stay sound. -/
theorem sound_reaches (kindred : Kindred oracle content p storageVersion key)
    (reaches : Reaches oracle content p fleet next)
    (sound : fleet.Sound content p storageVersion key) : next.Sound content p storageVersion key := by
  induction reaches with
  | refl => exact sound
  | tail reaches step ih => exact sound_step kindred step ih

end Fleet

end SealedSync
