import SealedSync.Proofs.Registration

/-!
# The stages of a fresh start

A fresh start makes three calls, and goes on after each only if it was granted. A call that is not
granted ends it with everything local as it was. After the last one everything local is reset, whatever
fails on the way, and what failed is told together.
-/
namespace SealedSync.FreshStart

variable {ω σ : Type}

/-- A call of a fresh start, with its name in messages and the error that is reported if the call fails
with one. -/
structure Stage where
  call : RemoteCall
  operation : String
  report : SyncError → SyncError

def wiping : Stage := ⟨.wipe, "server wipe", id⟩

def publishingKeys (key : Key) (bundle : KeyBundle) (nonce : Nonce) : Stage where
  call := .store cryptoCollection (.ofPayload keysRecordId (bundle.toPayload key nonce))
  operation := "key bundle publish"
  report := fun e => .partialFailure .publishKeys e.message

def publishingMetadata (m : GlobalMetadata) : Stage where
  call := .store metaCollection (.ofPayload globalRecordId m.toJson.render)
  operation := "metadata publish"
  report := fun e => .partialFailure .publishMetadata e.message

/-- The stages that publish a new epoch, in their order. -/
def publications (key : Key) (bundle : KeyBundle) (nonce : Nonce) (m : GlobalMetadata) : List Stage :=
  [publishingKeys key bundle nonce, publishingMetadata m]

/-- The call of a stage is made and comes to a result. -/
def Stage.Comes (stage : Stage) (limit : Duration) (x : Exchange σ)
    (result : Except SyncError stage.call.Answer) : Prop :=
  ∃ asked reply resumed, x = ⟨.remote limit stage.call, asked, reply, resumed⟩ ∧
    Program.outcome limit stage.operation reply = result

/-- Calls are made stage by stage, with random bytes drawn between them, until one is not granted. -/
inductive Conducted (limit : Duration) :
    List Stage → List (Exchange σ) → Except SyncError Unit → Prop where
  | complete : Conducted limit [] [] (.ok ())
  | drawn {stages : List Stage} {x : Exchange σ} {xs : List (Exchange σ)}
      {result : Except SyncError Unit} (draw : ∃ d, x.request = .random d)
      (rest : Conducted limit stages xs result) : Conducted limit stages (x :: xs) result
  | granted {stage : Stage} {stages : List Stage} {x : Exchange σ} {xs : List (Exchange σ)}
      {result : Except SyncError Unit} {answer : stage.call.Answer}
      (comes : stage.Comes limit x (.ok answer)) (rest : Conducted limit stages xs result) :
      Conducted limit (stage :: stages) (x :: xs) result
  | refused {stage : Stage} {stages : List Stage} {x : Exchange σ} {e : SyncError}
      (comes : stage.Comes limit x (.error e)) :
      Conducted limit (stage :: stages) [x] (.error (stage.report e))

/-- The calls among some exchanges. -/
def calls (xs : List (Exchange σ)) : List Request := (xs.map (·.request)).filter Request.isRemote

theorem calls_append (xs ys : List (Exchange σ)) : calls (xs ++ ys) = calls xs ++ calls ys := by
  rw [calls, List.map_append, List.filter_append]
  rfl

theorem calls_eq_nil {xs : List (Exchange σ)} (quiet : ∀ x ∈ xs, x.request.isRemote = false) :
    calls xs = [] := by
  rw [calls, List.filter_eq_nil_iff]
  intro r asked
  obtain ⟨x, member, rfl⟩ := List.mem_map.mp asked
  simp [quiet x member]

namespace Conducted

variable {limit : Duration} {planned : List Stage} {xs : List (Exchange σ)}
  {result : Except SyncError Unit}

theorem draws {ds : List (Exchange σ)} (drawn : ∀ x ∈ ds, ∃ d, x.request = .random d)
    (rest : Conducted limit planned xs result) : Conducted limit planned (ds ++ xs) result := by
  induction ds with
  | nil => exact rest
  | cons x ds ih =>
      obtain ⟨first, others⟩ := List.forall_mem_cons.mp drawn
      exact .drawn first (ih others)

/-- The calls are the first of those that were planned. -/
theorem calls_prefix (conducted : Conducted limit planned xs result) :
    calls xs <+: planned.map fun stage => .remote limit stage.call := by
  induction conducted with
  | complete => exact List.prefix_rfl
  | @drawn stages x xs result draw rest ih =>
      obtain ⟨d, draw⟩ := draw
      have passed : calls (x :: xs) = calls xs := by simp [calls, draw, Request.isRemote]
      rw [passed]
      exact ih
  | @granted stage stages x xs result answer comes rest ih =>
      obtain ⟨asked, reply, resumed, rfl, -⟩ := comes
      have called : calls (⟨.remote limit stage.call, asked, reply, resumed⟩ :: xs) =
          .remote limit stage.call :: calls xs := List.filter_cons_of_pos rfl
      rw [called]
      exact (List.prefix_cons_inj _).mpr ih
  | @refused stage stages x e comes =>
      obtain ⟨asked, reply, resumed, rfl, -⟩ := comes
      exact ⟨stages.map _, rfl⟩

end Conducted

section Takes

variable {oracle : Oracle ω} {before after : ω} {exchanges : List (Exchange σ)} {s : σ}
  {plan : FreshStartPlan} {ending : Ending σ GlobalMetadata}

/-- The last publication, after the draws for the engines. -/
theorem conducted_publishMetadata {syncId : String}
    (taken : (publishEngines plan syncId).Takes oracle.alone s before exchanges ending after) :
    ∃ m result, Conducted plan.limit [publishingMetadata m] exchanges result ∧
      ending = .ofExcept (result.map fun _ => m) s := by
  obtain ⟨inner, middle, draws, tail, generating, rfl, publishing⟩ := taken.split
  obtain ⟨drawn, engines, _, rfl, -, untouched⟩ := takes_generateEngines generating
  obtain rfl := (untouched fun _ _ _ => rfl).symm
  obtain ⟨_, rfl, published⟩ := takes_publish_bind.mp publishing
  simp only [Oracle.toOracle_alone, Oracle.touch_alone] at published
  refine ⟨⟨syncId, plan.storageVersion, engines⟩, ?_⟩
  have draws : ∀ x ∈ draws, ∃ d, x.request = .random d := fun x member => ⟨_, drawn x member⟩
  split at published
  · rename_i confirmed
    obtain ⟨rfl, rfl, -⟩ := Program.takes_pure.mp published
    exact ⟨.ok (), .draws draws (.granted ⟨_, _, _, rfl, confirmed⟩ .complete), rfl⟩
  · rename_i refused
    obtain ⟨rfl, rfl, -⟩ := published
    exact ⟨.error _, .draws draws (.refused ⟨_, _, _, rfl, refused⟩), rfl⟩

/-- The keys are published before anything else. -/
theorem conducted_publishKeys {key : Key} {syncId : String} {bundle : KeyBundle} {nonce : Nonce}
    (taken : (do
      step .publishKeys (publish plan.limit "key bundle publish" cryptoCollection
        (.ofPayload keysRecordId (bundle.toPayload key nonce)))
      publishEngines plan syncId : Program σ GlobalMetadata).Takes oracle.alone s before exchanges ending after) :
    ∃ m result, Conducted plan.limit (publications key bundle nonce m) exchanges result ∧
      ending = .ofExcept (result.map fun _ => m) s := by
  obtain ⟨_, rfl, published⟩ := takes_publish_bind.mp taken
  simp only [Oracle.toOracle_alone, Oracle.touch_alone] at published
  split at published
  · rename_i confirmed
    obtain ⟨m, result, conducted, rfl⟩ := conducted_publishMetadata published
    exact ⟨m, result, .granted ⟨_, _, _, rfl, confirmed⟩ conducted, rfl⟩
  · rename_i refused
    obtain ⟨rfl, rfl, -⟩ := published
    exact ⟨⟨syncId, plan.storageVersion, .empty⟩, .error _, .refused ⟨_, _, _, rfl, refused⟩, rfl⟩

theorem conducted_publishAnew {key : Key}
    (taken : (publishAnew plan key).Takes oracle.alone s before exchanges ending after) :
    ∃ bundle nonce m result,
      Conducted plan.limit (publications key bundle nonce m) exchanges result ∧
      ending = .ofExcept (result.map fun _ => m) s := by
  obtain ⟨_, rfl, publishing⟩ := takes_publishAnew.mp taken
  obtain ⟨m, result, conducted, ended⟩ := conducted_publishKeys publishing
  exact ⟨_, _, m, result, .drawn ⟨_, rfl⟩ (.drawn ⟨_, rfl⟩ (.drawn ⟨_, rfl⟩ conducted)), ended⟩

end Takes

/-! ## The fresh start as a whole -/

/-- All stages of a fresh start, in their order. -/
def stages (key : Key) (bundle : KeyBundle) (nonce : Nonce) (m : GlobalMetadata) : List Stage :=
  wiping :: publications key bundle nonce m

/-- Nothing is told of a reset that succeeded. -/
theorem resetFailure_eq_none {x : Exchange σ} {c : Synchronizer} (asks : x.request = .resetClient c) :
    x.resetFailure = none ↔ x.Resets c := by
  obtain ⟨request, asked, reply, resumed⟩ := x
  obtain rfl : request = .resetClient c := asks
  constructor
  · intro untold
    cases reply with
    | ok done => exact .intro asked resumed
    | error e => cases untold
  · rintro ⟨⟩
    rfl

/-- Nothing failed in a reset if and only if every synchronizer was reset and the save succeeded. -/
theorem failures_eq_nil {synchronizers : List Synchronizer} {resets : List (Exchange σ)}
    {saved : Except SyncError Unit}
    (requests : resets.map (·.request) = synchronizers.map .resetClient) :
    resets.filterMap (·.resetFailure) ++ saveFailures saved = [] ↔
      (∀ x ∈ resets, ∃ c, x.Resets c) ∧ saved = .ok () := by
  have asks (x : Exchange σ) (member : x ∈ resets) : ∃ c, x.request = .resetClient c := by
    have listed := List.mem_map_of_mem (f := (·.request)) member
    rw [requests] at listed
    obtain ⟨c, -, same⟩ := List.mem_map.mp listed
    exact ⟨c, same.symm⟩
  have whole : (∀ x ∈ resets, x.resetFailure = none) ↔ ∀ x ∈ resets, ∃ c, x.Resets c := by
    refine forall₂_congr fun x member => ?_
    obtain ⟨c, asked⟩ := asks x member
    rw [resetFailure_eq_none asked]
    refine ⟨fun reset => ⟨c, reset⟩, fun ⟨other, reset⟩ => ?_⟩
    obtain rfl : c = other := Request.resetClient.inj (asked.symm.trans reset.request_eq)
    exact reset
  have kept : saveFailures saved = [] ↔ saved = .ok () := by
    cases saved <;> simp [saveFailures]
  rw [List.append_eq_nil_iff, List.filterMap_eq_nil_iff, whole, kept]

/-- Everybody is reset once the keys are forgotten, and the empty state is saved once the local state is
empty. -/
structure Resetting (oracle : Oracle ω) (plan : FreshStartPlan) (synchronizers : List Synchronizer)
    (book : Bookkeeping) (before : ω) (resets saves : List (Exchange Bookkeeping))
    (saved : Except SyncError Unit) (after : ω) : Prop where
  requests : resets.map (·.request) = synchronizers.map .resetClient
  forgotten : ∀ x ∈ resets, x.asked = { book with keyring := .empty }
  saving : (StateFile.save plan.file .empty : Program Bookkeeping Unit).Takes oracle.alone
    ⟨.empty, .empty⟩ (oracle.world before resets) saves (.ofExcept saved ⟨.empty, .empty⟩) after

/-- How a fresh start goes on and ends after its calls have come to a result. -/
inductive Conclusion (oracle : Oracle ω) (plan : FreshStartPlan) (synchronizers : List Synchronizer)
    (book : Bookkeeping) (m : GlobalMetadata) (before : ω) : Except SyncError Unit →
      List (Exchange Bookkeeping) → Ending Bookkeeping GlobalMetadata → ω → Prop where
  | broken (e : SyncError) :
      Conclusion oracle plan synchronizers book m before (.error e) [] (.failed e book) before
  | complete {resets saves : List (Exchange Bookkeeping)} {after : ω}
      (resetting : Resetting oracle plan synchronizers book before resets saves (.ok ()) after)
      (succeeded : ∀ x ∈ resets, ∃ c, x.Resets c) :
      Conclusion oracle plan synchronizers book m before (.ok ()) (resets ++ saves)
        (.returned m ⟨.empty, .empty⟩) after
  | incomplete {resets saves : List (Exchange Bookkeeping)} {saved : Except SyncError Unit} {after : ω}
      (resetting : Resetting oracle plan synchronizers book before resets saves saved after)
      (failed : ¬((∀ x ∈ resets, ∃ c, x.Resets c) ∧ saved = .ok ())) :
      Conclusion oracle plan synchronizers book m before (.ok ()) (resets ++ saves)
        (.failed (.partialFailure .resetLocal (String.intercalate "; "
          (resets.filterMap (·.resetFailure) ++ saveFailures saved))) ⟨.empty, .empty⟩) after

variable {oracle : Oracle ω} {before after : ω} {exchanges : List (Exchange Bookkeeping)}
  {ending : Ending Bookkeeping GlobalMetadata} {plan : FreshStartPlan} {key : Key}
  {synchronizers : List Synchronizer} {book : Bookkeeping} {m : GlobalMetadata}

theorem conclusion_resetLocal
    (taken : (do
      resetLocal plan synchronizers
      Program.note (.freshStartComplete m.syncId)
      return m).Takes oracle.alone book before exchanges ending after) :
    Conclusion oracle plan synchronizers book m before (.ok ()) exchanges ending after := by
  obtain ⟨inner, last, head, tail, resetting, rfl, closing⟩ := Program.Takes.split taken
  obtain ⟨resets, saves, saved, rfl, requests, forgotten, saving, rfl, -⟩ :=
    takes_resetLocal resetting
  have resetting : Resetting oracle plan synchronizers book before resets saves saved last :=
    ⟨requests, forgotten, saving⟩
  by_cases none : resets.filterMap (·.resetFailure) ++ saveFailures saved = []
  · rw [none] at closing
    have closing := Program.takes_note_bind.mp closing
    obtain ⟨rfl, rfl, rfl⟩ := Program.takes_pure.mp closing
    obtain ⟨succeeded, rfl⟩ := (failures_eq_nil requests).mp none
    rw [List.append_nil]
    exact .complete resetting succeeded
  · rw [concluded, if_neg (by simpa using none)] at closing
    obtain ⟨rfl, rfl, rfl⟩ := closing
    rw [List.append_nil]
    exact .incomplete resetting fun succeeded => none ((failures_eq_nil requests).mpr succeeded)

/-- While the calls are made everything local stays as it is. -/
theorem asked_publishAnew {called : List (Exchange Bookkeeping)}
    (taken : (publishAnew plan key).Takes oracle.alone book before called ending after) :
    ∀ x ∈ called, x.asked = book := by
  have kept : (publishAnew plan key : Program Bookkeeping _).Keeps (· = book)
      fun r => r.isPublication = true :=
    keeps_publishAnew (fun _ publication => publication) plan key
  exact fun x member => ((kept.takes rfl (fun _ _ _ same => same) taken).1 x member).1

/-- After its calls a fresh start asks the server for nothing. -/
theorem Conclusion.calls_eq_nil {result : Except SyncError Unit}
    (concludes : Conclusion oracle plan synchronizers book m before result exchanges ending after) :
    calls exchanges = [] := by
  have quiet {resets saves : List (Exchange Bookkeeping)} {saved : Except SyncError Unit} {after : ω}
      (resetting : Resetting oracle plan synchronizers book before resets saves saved after) :
      ∀ x ∈ resets ++ saves, x.request.isRemote = false := by
    have reset : ∀ r ∈ synchronizers.map Request.resetClient, r.isRemote = false := by
      intro r listed
      obtain ⟨c, -, rfl⟩ := List.mem_map.mp listed
      rfl
    intro x member
    rcases List.mem_append.mp member with asked | kept
    · exact Exchange.forall_of_requests resetting.requests reset x asked
    · exact Request.isRemote_eq_false_of_isFileWrite
        ((StateFile.takes_save resetting.saving).1 x kept)
  cases concludes with
  | broken e => rfl
  | complete resetting succeeded => exact FreshStart.calls_eq_nil (quiet resetting)
  | incomplete resetting failed => exact FreshStart.calls_eq_nil (quiet resetting)

/-- After the wipe the publications are made, and what follows from their result. -/
theorem conclusion_republish
    (taken : (republish plan key synchronizers).Takes oracle.alone book before exchanges ending
      after) :
    ∃ bundle nonce m called rest result, exchanges = called ++ rest ∧
      Conducted plan.limit (publications key bundle nonce m) called result ∧
      (∀ x ∈ called, x.asked = book) ∧
      Conclusion oracle plan synchronizers book m (oracle.world before called) result rest ending
        after := by
  rw [republish_eq] at taken
  obtain ⟨inner, middle, called, rest, published, rfl, continued⟩ := taken.split
  obtain ⟨bundle, nonce, m, result, conducted, rfl⟩ := conducted_publishAnew published
  obtain rfl := published.world_eq
  refine ⟨bundle, nonce, m, called, rest, result, rfl, conducted, asked_publishAnew published, ?_⟩
  cases result with
  | ok _ => exact conclusion_resetLocal continued
  | error e =>
      obtain ⟨rfl, rfl, rfl⟩ := continued
      exact .broken e

theorem conclusion_perform
    (taken : (perform plan key synchronizers).Takes oracle.alone book before exchanges ending after) :
    ∃ bundle nonce m called rest result, exchanges = called ++ rest ∧
      Conducted plan.limit (stages key bundle nonce m) called result ∧
      (∀ x ∈ called, x.asked = book) ∧
      Conclusion oracle plan synchronizers book m (oracle.world before called) result rest ending
        after := by
  rw [perform_eq, Program.takes_note_bind] at taken
  obtain ⟨tail, rfl, wiped⟩ := Program.takes_request_bind.mp taken
  simp only [Oracle.toOracle_alone, Oracle.touch_alone] at wiped
  split at wiped
  · rename_i granted
    obtain ⟨bundle, nonce, m, called, rest, result, rfl, conducted, untouched, concludes⟩ :=
      conclusion_republish wiped
    exact ⟨bundle, nonce, m, _ :: called, rest, result, rfl,
      .granted ⟨_, _, _, rfl, granted⟩ conducted, List.forall_mem_cons.mpr ⟨rfl, untouched⟩, concludes⟩
  · rename_i e refused
    have failed := Program.takes_note_bind.mp wiped
    obtain ⟨rfl, rfl, rfl⟩ := Program.takes_fail.mp failed
    -- Nothing has been drawn yet, so any bundle and any metadata would have come next.
    exact ⟨.ofDefault key, .fit 12 [], ⟨"", 0, .empty⟩, _, [], .error e, (List.append_nil _).symm,
      .refused ⟨_, _, _, rfl, refused⟩, List.forall_mem_singleton.mpr rfl, .broken e⟩

/-- A fresh start makes its calls in order and stops at the first that is not granted, with that call's
error and everything local as it was. Otherwise everything local is reset, and it returns the metadata
that it has published unless a reset or the save fails. -/
theorem performs_in_stages (oracle : Oracle ω) (plan : FreshStartPlan) (key : Key)
    (synchronizers : List Synchronizer) (book : Bookkeeping) (before : ω) :
    let c := (perform plan key synchronizers book).course oracle.alone before
    ∃ bundle nonce m called rest result, c.exchanges = called ++ rest ∧
      Conducted plan.limit (stages key bundle nonce m) called result ∧
      (∀ x ∈ called, x.asked = book) ∧
      Conclusion oracle plan synchronizers book m (oracle.world before called) result rest c.ending
        c.world ∧
      calls c.exchanges <+:
        (stages key bundle nonce m).map fun stage => .remote plan.limit stage.call := by
  intro c
  obtain ⟨bundle, nonce, m, called, rest, result, parted, conducted, untouched, concludes⟩ :=
    conclusion_perform (Run.takes_course oracle.alone (perform plan key synchronizers book) before)
  refine ⟨bundle, nonce, m, called, rest, result, parted, conducted, untouched, concludes, ?_⟩
  have called_eq : calls c.exchanges = calls called := by
    rw [parted, calls_append, concludes.calls_eq_nil, List.append_nil]
  rw [called_eq]
  exact conducted.calls_prefix

end SealedSync.FreshStart
