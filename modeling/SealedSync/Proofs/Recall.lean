import SealedSync.Proofs.Republishing

/-!
# What the state file recalls

A state is written beside its file, which it then replaces. So whoever begins a session later finds the
old state or the new one, also if writing failed halfway. Only where both names lead to the same file can
a part of a state remain, and no part of the empty state names an epoch.
-/
namespace SealedSync

namespace Json

/-- The members end before their object does. -/
def Members.breakOff : Members → Bool
  | .closed => false
  | .cut => true
  | .member _ _ tail => tail.breakOff

/-- The value is none, or it is an object that ends too early. -/
def breaksOff : Json → Bool
  | .broken => true
  | .object members => members.breakOff
  | _ => false

/-- Members that end too early cannot be read to their end. -/
theorem Members.fold_breakOff {β : Type} {step : β → String → Json → Except DecodeError β} :
    (members : Members) → members.breakOff = true → (state last : β) →
      members.fold step state ≠ .ok last
  | .closed, early, _, _ => by cases early
  | .cut, _, _, _ => by
      intro read
      cases read
  | .member key value tail, early, state, last => by
      intro read
      cases key with
      | string content =>
          cases content with
          | none => cases read
          | some name =>
              rw [fold] at read
              cases stepped : step state name value with
              | error e =>
                  rw [stepped] at read
                  cases read
              | ok next =>
                  rw [stepped] at read
                  exact fold_breakOff tail early next last read
      | _ => cases read

end Json

namespace LocalState

theorem decode_breaksOff {value : Json} (early : value.breaksOff = true) (state : LocalState) :
    decode value ≠ .ok state := by
  intro decoded
  cases value with
  | broken => cases decoded
  | object members =>
      have read : (members.fold Draft.read {} >>= fun d =>
          (pure ⟨d.lastSyncId.join, d.indexFingerprint.join, d.lastSyncAt.join⟩ :
            Except DecodeError LocalState)) = .ok state := decoded
      cases folded : members.fold Draft.read {} with
      | error e =>
          rw [folded] at read
          cases read
      | ok d => exact Json.Members.fold_breakOff members early {} d folded
  | _ => cases early

/-- The state that bytes stand for. -/
def ofBytes (bytes : List UInt8) : LocalState :=
  match Json.decodeBytes decode bytes with
  | .ok state => state
  | .error _ => .empty

/-- The bytes of the empty state. -/
def blankBytes : List UInt8 :=
  ("\x7b\n  \"last_sync_id\": null,\n  \"index_fingerprint\": null,\n  \"last_sync_at\": null\n\x7d".toList).map
    fun c => UInt8.ofNat c.toNat

set_option maxRecDepth 10000 in
theorem contents_empty : StateFile.contents .empty = blankBytes := by
  rw [StateFile.contents, Utf8.encode, Json.renderIndented, String.toList_ofList]
  decide +kernel

set_option maxRecDepth 10000 in
theorem breaksOff_blankBytes : ∀ n < 79,
    (Json.read (Json.Source.ofBytes (blankBytes.take n))).1.breaksOff = true := by decide +kernel

set_option maxRecDepth 10000 in
theorem lastSyncId_blankBytes : (ofBytes blankBytes).lastSyncId = none := by decide +kernel

/-- However much of the empty state arrives, it names no epoch. -/
theorem lastSyncId_ofBytes {part : List UInt8} (arrived : part <+: StateFile.contents .empty) :
    (ofBytes part).lastSyncId = none := by
  rw [contents_empty] at arrived
  rcases Nat.lt_or_ge part.length 79 with short | whole
  · have early := breaksOff_blankBytes part.length short
    rw [← List.prefix_iff_eq_take.mp arrived] at early
    have decoded (state : LocalState) : Json.decodeBytes decode part ≠ .ok state := by
      intro decoded
      unfold Json.decodeBytes Json.decodeSource at decoded
      cases value : decode (Json.read (Json.Source.ofBytes part)).1 with
      | error e =>
          simp only [value] at decoded
          cases decoded
      | ok state => exact decode_breaksOff early state value
    unfold ofBytes
    split
    · rename_i state found
      exact absurd found (decoded state)
    · rfl
  · have length : blankBytes.length ≤ part.length := whole
    rw [arrived.eq_of_length_le length]
    exact lastSyncId_blankBytes

end LocalState

namespace StateFile

/-- The state that a file leads to: that of its contents, or the empty one. -/
def recalled (file : StateFile) (files : String → Option (List UInt8)) : LocalState :=
  match file.bind files with
  | some bytes => .ofBytes bytes
  | none => .empty

theorem recalled_of_found {path : String} {files : String → Option (List UInt8)} {bytes : List UInt8}
    (found : files path = some bytes) : recalled (some path) files = .ofBytes bytes := by
  rw [recalled, Option.bind_some, found]

theorem recalled_of_missing {path : String} {files : String → Option (List UInt8)}
    (missing : files path = none) : recalled (some path) files = .empty := by
  rw [recalled, Option.bind_some, missing]

/-- The file recalls what it did before, or nothing that names an epoch. -/
def RecallsAtMost (file : StateFile) (old new : String → Option (List UInt8)) : Prop :=
  file.recalled new = file.recalled old ∨ (file.recalled new).lastSyncId = none

theorem recallsAtMost_of_eq {file : StateFile} {old new : String → Option (List UInt8)}
    (same : new = old) : file.RecallsAtMost old new :=
  .inl (congrArg file.recalled same)

end StateFile

/-- Files are found as they were left. Of a write that fails a part may arrive, while a file is replaced
by another as a whole. -/
structure Oracle.Files {ω : Type} (oracle : Oracle ω) (files : ω → String → Option (List UInt8)) :
    Prop where
  found : ∀ path bytes w, files w path = some bytes → oracle.reply (.readFile path) w = .ok bytes
  missing : ∀ path w, files w path = none → oracle.reply (.readFile path) w = .error .notFound
  written : ∀ path bytes w, oracle.reply (.writeFile path bytes) w = .ok () →
    files (oracle.next (.writeFile path bytes) w) path = some bytes
  arrived : ∀ path bytes w, files (oracle.next (.writeFile path bytes) w) path = files w path ∨
    ∃ part, part <+: bytes ∧ files (oracle.next (.writeFile path bytes) w) path = some part
  replaced : ∀ source target w,
    files (oracle.next (.renameFile source target) w) target = files w source ∨
      (files (oracle.next (.renameFile source target) w) target = files w target ∧
        oracle.reply (.renameFile source target) w ≠ .ok ())
  others : ∀ r path w, (∀ bytes, r ≠ .writeFile path bytes) → (∀ other, r ≠ .renameFile path other) →
    (∀ other, r ≠ .renameFile other path) → files (oracle.next r w) path = files w path

namespace Oracle.Files

variable {ω σ : Type} {oracle : Oracle ω} {files : ω → String → Option (List UInt8)}
  (keeping : oracle.Files files)

include keeping

/-- Requests that write no file leave all files as they are. -/
theorem quiet {before : ω} {exchanges : List (Exchange σ)}
    (unwritten : ∀ x ∈ exchanges, x.request.isFileWrite = false) :
    files (oracle.world before exchanges) = files before := by
  have kept : ∀ x ∈ exchanges, ∀ w, files w = files before →
      files (oracle.next x.request w) = files before := by
    intro x member w same
    funext path
    have passed := unwritten x member
    rw [← same]
    apply keeping.others
    · intro bytes write
      rw [write] at passed
      cases passed
    · intro other rename
      rw [rename] at passed
      cases passed
    · intro other rename
      rw [rename] at passed
      cases passed
  exact Oracle.world_preserves kept rfl

/-- A load finds what the file recalls, and asks for nothing but its contents. -/
theorem takes_load {file : StateFile} {s : σ} {before after : ω} {exchanges : List (Exchange σ)}
    {ending : Ending σ LocalState}
    (taken : (StateFile.load file).Takes oracle.alone s before exchanges ending after) :
    ending = .returned (file.recalled (files before)) s ∧
      ∀ x ∈ exchanges, x.request.isWrite = false := by
  cases file with
  | none =>
      obtain ⟨rfl, rfl, -⟩ := Program.takes_pure.mp taken
      exact ⟨rfl, by simp⟩
  | some path =>
      obtain ⟨rest, rfl, reading⟩ := Program.takes_request_bind.mp taken
      have asked : ∀ x ∈ [oracle.alone.exchange (.readFile path) s before], x.request.isWrite = false :=
        List.forall_mem_singleton.mpr rfl
      simp only [Oracle.toOracle_alone, Oracle.touch_alone] at reading
      cases held : files before path with
      | none =>
          rw [keeping.missing path before held] at reading
          dsimp only at reading
          rw [Program.takes_note_bind] at reading
          obtain ⟨rfl, rfl, -⟩ := Program.takes_pure.mp reading
          exact ⟨congrArg (Ending.returned · s) (StateFile.recalled_of_missing held).symm, asked⟩
      | some bytes =>
          rw [keeping.found path bytes before held] at reading
          dsimp only at reading
          rw [StateFile.recalled_of_found held, LocalState.ofBytes]
          cases decoded : Json.decodeBytes LocalState.decode bytes with
          | ok state =>
              simp only [decoded] at reading
              obtain ⟨rfl, rfl, -⟩ := Program.takes_pure.mp reading
              exact ⟨rfl, asked⟩
          | error e =>
              simp only [decoded] at reading
              rw [Program.takes_note_bind] at reading
              obtain ⟨rfl, rfl, -⟩ := Program.takes_pure.mp reading
              exact ⟨rfl, asked⟩

/-- Saving the empty state leaves what the file recalled, or nothing that names an epoch. -/
theorem takes_save_empty {file : StateFile} {s : σ} {before after : ω} {exchanges : List (Exchange σ)}
    {ending : Ending σ Unit}
    (taken : (StateFile.save file .empty).Takes oracle.alone s before exchanges ending after) :
    file.RecallsAtMost (files before) (files after) := by
  cases file with
  | none => exact .inl rfl
  | some path =>
      -- What stands under the name of the state file: what stood there, or a part of the empty state.
      have concludes {w : ω} (left : files w path = files before path ∨
          ∃ part, part <+: StateFile.contents .empty ∧ files w path = some part) :
          StateFile.RecallsAtMost (some path) (files before) (files w) := by
        rcases left with same | ⟨part, arrived, found⟩
        · refine .inl ?_
          rw [StateFile.recalled, StateFile.recalled, Option.bind_some, Option.bind_some, same]
        · refine .inr ?_
          rw [StateFile.recalled_of_found found]
          exact LocalState.lastSyncId_ofBytes arrived
      let temporary := StateFile.temporaryPath path
      let middle := oracle.next (.writeFile temporary (StateFile.contents .empty)) before
      have beside : files middle path = files before path ∨
          ∃ part, part <+: StateFile.contents .empty ∧ files middle path = some part := by
        by_cases same : temporary = path
        · rw [← same]
          exact keeping.arrived temporary _ before
        · refine .inl (keeping.others _ path before ?_ ?_ ?_)
          · intro bytes write
            exact same (Request.writeFile.inj write).1
          · intro other rename
            cases rename
          · intro other rename
            cases rename
      apply concludes
      obtain ⟨rest, rfl, writing⟩ := Program.takes_request_bind.mp taken
      simp only [Oracle.toOracle_alone, Oracle.touch_alone] at writing
      split at writing
      · obtain ⟨-, -, rfl⟩ := Program.takes_fail.mp writing
        exact beside
      · rename_i confirmed
        have whole := keeping.written temporary _ before confirmed
        obtain ⟨rest, rfl, replacing⟩ := Program.takes_request_bind.mp writing
        have last : after = oracle.next (.renameFile temporary path) middle := by
          simp only [Oracle.toOracle_alone, Oracle.touch_alone] at replacing
          split at replacing
          · exact (Program.takes_fail.mp replacing).2.2
          · exact (Program.takes_pure.mp replacing).2.2
        rw [last]
        rcases keeping.replaced temporary path middle with replaced | ⟨kept, -⟩
        · exact .inr ⟨_, List.prefix_rfl, replaced.trans whole⟩
        · rw [kept]
          exact beside

end Oracle.Files

namespace Session

variable {ω : Type} {oracle : Oracle ω} {files : ω → String → Option (List UInt8)}

/-- What stays the same in a session that is begun with some credentials. -/
def profile (credentials : Credentials) (config : SyncConfig) : Profile where
  account := credentials.account
  config := config
  sealingKey := (KeyAccess.ofPassphrase credentials.account credentials.passphrase config.kdf
    config.remoteTimeout).sealingKey

/-- With a valid configuration a session begins with what the state file recalls. -/
theorem takes_begin (keeping : oracle.Files files) {credentials : Credentials} {config : SyncConfig}
    {before after : ω} {exchanges : List (Exchange Unit)} {ending : Ending Unit (Profile × Session)}
    (taken : (begin credentials config).Takes oracle.alone () before exchanges ending after) :
    ending = .ofExcept (config.validate.map fun _ =>
        (profile credentials config,
          ofLocalState (StateFile.recalled config.statePath (files before)))) () ∧
      ∀ x ∈ exchanges, x.request.isWrite = false := by
  unfold begin at taken
  cases valid : config.validate with
  | error e =>
      rw [valid] at taken
      obtain ⟨rfl, rfl, -⟩ := Program.takes_fail_bind.mp taken
      exact ⟨rfl, by simp⟩
  | ok _ =>
      simp only [valid, Program.ofExcept, pure_bind] at taken
      obtain ⟨inner, middle, loads, rest, loading, rfl, opening⟩ := taken.split
      obtain ⟨rfl, asked⟩ := keeping.takes_load loading
      dsimp only at opening
      rw [Program.takes_note_bind] at opening
      obtain ⟨rfl, rfl, -⟩ := Program.takes_pure.mp opening
      rw [List.append_nil]
      exact ⟨rfl, asked⟩

end Session

end SealedSync
