import Mathlib.Data.List.Induction
import Mathlib.Logic.Function.Basic
import SealedSync.Proofs.Cancellation
import SealedSync.Proofs.KeyHistory
import SealedSync.Proofs.Memory

/-!
# Calls on a shared keyring

Several callers hold one keyring. A call takes the lock of the keyring for one section after another,
and between two sections of a call any other call may take a section of its own: so between the look
for a key that found none and the refresh, and between the refresh and the second look. A fetch of the
bundle happens within one section. What was done to the keyring is kept in a log, and the log explains
every key that a caller was ever given.
-/
namespace SealedSync

open RemoteState

namespace Keyring

/-- The key of a collection, if the bundle is there. -/
def look (collection : String) : Program Keyring (Option Key) := do
  let k ← Program.get
  return k.bundle.map (·.keyFor collection)

/-- The last section of a call for a key. -/
def lookAgain (collection : String) : Program Keyring Key := do
  match ← look collection with
  | some key => return key
  | none => Program.fail (.notAvailable collection)

/-- Asking for a key where there is no bundle is a refresh and a look at what it left. -/
theorem keyFor_run_absent {access : KeyAccess} {k : Keyring} (absent : k.bundle = none)
    (collection : String) :
    keyFor access collection k = (refresh access k).bind fun _ => lookAgain collection := by
  cases k with
  | mk epoch modified bundle =>
      obtain rfl : bundle = none := absent
      refine congrArg (Run.bind (refresh access ⟨epoch, modified, none⟩))
        (funext fun _ => funext fun l => ?_)
      cases l with
      | mk epoch modified bundle => cases bundle <;> rfl

/-- The time that a keyring is bound to is a number, if it is known. -/
def Numbered (modified : Option Binary64) : Prop :=
  ∀ time, modified = some time → time.isNaN = false

/-- Two times are one: the same number, where the zeros of either sign are one number, or both are
unknown. -/
def OneTime (earlier later : Option Binary64) : Prop :=
  earlier = later ∨ ∃ x y, earlier = some x ∧ later = some y ∧ x.isZero = true ∧ y.isZero = true

theorem oneTime_of_sameTime {earlier later : Option Binary64} (same : sameTime earlier later = true) :
    OneTime earlier later := by
  match earlier, later with
  | none, none => exact .inl rfl
  | some x, some y =>
      simp only [sameTime, Binary64.valueEq, Bool.and_eq_true, Bool.or_eq_true, beq_iff_eq] at same
      rcases same.2 with rfl | ⟨left, right⟩
      · exact .inl rfl
      · exact .inr ⟨x, y, rfl, rfl, left, right⟩
  | none, some _ => exact absurd same Bool.false_ne_true
  | some _, none => exact absurd same Bool.false_ne_true

theorem isNaN_of_isZero {x : Binary64} (zero : x.isZero = true) : x.isNaN = false := by
  simp only [Binary64.isZero, Bool.and_eq_true, beq_iff_eq] at zero
  simp [Binary64.isNaN, zero.1]

theorem OneTime.sameTime {earlier later : Option Binary64} (one : OneTime earlier later)
    (numbered : Numbered earlier) : sameTime earlier later = true := by
  rcases one with rfl | ⟨x, y, rfl, rfl, left, right⟩
  · cases earlier with
    | none => rfl
    | some x =>
        have number := numbered x rfl
        simp [Keyring.sameTime, Binary64.valueEq, number]
  · have first := isNaN_of_isZero left
    have second := isNaN_of_isZero right
    simp [Keyring.sameTime, Binary64.valueEq, first, second, left, right]

end Keyring

namespace SharedKeyring

/-- What a caller may ask of a keyring. -/
inductive Call where
  | bind (syncId : String) (modified : Option Binary64)
  | refresh
  | keyFor (collection : String)
  | invalidate

/-- Where a caller stands: between two sections of a call for a key, or not. -/
inductive Stage where
  | resting
  | missed (collection : String)
  | refreshed (collection : String)
  | answered (collection : String) (result : Except SyncError Key)

/-- What a section does to the keyring: it binds it, forgets everything, makes sure of the bundle after
what it exchanged with the server, finds no key at first, or answers a caller who wants one. -/
inductive Deed where
  | bound (syncId : String) (modified : Option Binary64)
  | invalidated
  | refreshed (exchanges : List (Exchange Keyring)) (result : Except SyncError Unit)
  | missed (collection : String)
  | answered (collection : String) (result : Except SyncError Key)

/-- A section of a call: who called, what was done, and the keyring before and after it. -/
structure Note (ι : Type) where
  caller : ι
  deed : Deed
  before : Keyring
  after : Keyring

/-- A caller begins a call, or it goes on to the next section of the call that it is in. The server is
the one that a fetch in this section meets. -/
inductive Action (ι : Type) where
  | call (caller : ι) (call : Call) (server : Oracle Unit)
  | resume (caller : ι) (server : Oracle Unit)

end SharedKeyring

/-- A keyring with its callers and the log of what they did. -/
structure SharedKeyring (ι : Type) where
  keyring : Keyring
  stages : ι → SharedKeyring.Stage
  log : List (SharedKeyring.Note ι)

namespace SharedKeyring

open Keyring

variable {ι : Type} [DecidableEq ι] {access : KeyAccess}

/-- A keyring that nobody has called yet. -/
def opened : SharedKeyring ι := ⟨.empty, fun _ => .resting, []⟩

/-- One section of a call: the program runs to its end while nobody else uses the keyring. -/
def enter {α : Type} (shared : SharedKeyring ι) (caller : ι) (server : Oracle Unit)
    (program : Program Keyring α) (stage : Except SyncError α → Stage)
    (deed : List (Exchange Keyring) → Except SyncError α → Deed) : SharedKeyring ι :=
  let course := (program shared.keyring).course server.alone ()
  let result := course.ending.result
  ⟨course.ending.state, Function.update shared.stages caller (stage result),
    shared.log ++ [⟨caller, deed course.exchanges result, shared.keyring, course.ending.state⟩]⟩

/-- What a caller is told after the last look for its key. -/
def answer (collection : String) : Except SyncError (Option Key) → Except SyncError Key
  | .ok (some key) => .ok key
  | .ok none => .error (.notAvailable collection)
  | .error e => .error e

/-- After the first look a caller has its answer, unless the bundle was not there. -/
def stageAfterLook (collection : String) : Except SyncError (Option Key) → Stage
  | .ok none => .missed collection
  | found => .answered collection (answer collection found)

def firstLook (collection : String) : Except SyncError (Option Key) → Deed
  | .ok none => .missed collection
  | found => .answered collection (answer collection found)

/-- A failed refresh is the end of a call for a key. -/
def stageAfterRefresh (collection : String) : Except SyncError Unit → Stage
  | .ok _ => .refreshed collection
  | .error e => .answered collection (.error e)

/-- The first section of a call. -/
def begin (access : KeyAccess) (shared : SharedKeyring ι) (caller : ι) (server : Oracle Unit) :
    Call → SharedKeyring ι
  | .bind syncId modified =>
      shared.enter caller server (Keyring.bind syncId modified) (fun _ => .resting)
        fun _ _ => .bound syncId modified
  | .refresh => shared.enter caller server (refresh access) (fun _ => .resting) .refreshed
  | .keyFor collection =>
      shared.enter caller server (look collection) (stageAfterLook collection)
        fun _ found => firstLook collection found
  | .invalidate => shared.enter caller server invalidate (fun _ => .resting) fun _ _ => .invalidated

/-- The next section of a call for a key. -/
def proceed (access : KeyAccess) (shared : SharedKeyring ι) (caller : ι) (server : Oracle Unit) :
    SharedKeyring ι :=
  match shared.stages caller with
  | .missed collection =>
      shared.enter caller server (refresh access) (stageAfterRefresh collection) .refreshed
  | .refreshed collection =>
      shared.enter caller server (look collection)
        (fun found => .answered collection (answer collection found))
        fun _ found => .answered collection (answer collection found)
  | _ => shared

/-- A caller that is in a call begins no other. -/
def step (access : KeyAccess) (shared : SharedKeyring ι) : Action ι → SharedKeyring ι
  | .call caller call server =>
      match shared.stages caller with
      | .missed _ | .refreshed _ => shared
      | _ => shared.begin access caller server call
  | .resume caller server => shared.proceed access caller server

def run (access : KeyAccess) (shared : SharedKeyring ι) (actions : List (Action ι)) :
    SharedKeyring ι :=
  actions.foldl (step access) shared

/-! ## Undisturbed calls -/

variable {shared : SharedKeyring ι} {caller : ι} {server : Oracle Unit}

theorem proceed_answered {collection : String} {result : Except SyncError Key}
    (stage : shared.stages caller = .answered collection result) :
    shared.proceed access caller server = shared := by
  simp only [proceed, stage]

/-- Where a section leaves the keyring and its caller. -/
theorem enter_ends {α : Type} (shared : SharedKeyring ι) (caller : ι) (server : Oracle Unit)
    (program : Program Keyring α) (stage : Except SyncError α → Stage)
    (deed : List (Exchange Keyring) → Except SyncError α → Deed) :
    let ending := ((program shared.keyring).course server.alone ()).ending
    let entered := shared.enter caller server program stage deed
    entered.keyring = ending.state ∧ entered.stages caller = stage ending.result :=
  ⟨rfl, Function.update_self ..⟩

theorem ending_lookAgain (collection : String) (k : Keyring) :
    ((lookAgain collection k).course server.alone ()).ending =
      .ofExcept (answer collection (.ok (k.bundle.map (·.keyFor collection)))) k := by
  cases k with
  | mk epoch modified bundle => cases bundle <;> rfl

/-- A call for a key whose sections are taken one right after the other is the program that asks for
the key. -/
theorem run_keyFor (resting : shared.stages caller = .resting) (collection : String) :
    let ending := ((keyFor access collection shared.keyring).course server.alone ()).ending
    let last := shared.run access
      [.call caller (.keyFor collection) server, .resume caller server, .resume caller server]
    last.keyring = ending.state ∧ last.stages caller = .answered collection ending.result := by
  let looked := shared.enter caller server (look collection) (stageAfterLook collection)
    fun _ found => firstLook collection found
  let refreshed := looked.enter caller server (refresh access) (stageAfterRefresh collection) .refreshed
  let looking := refreshed.enter caller server (look collection)
    (fun found => .answered collection (answer collection found))
    fun _ found => .answered collection (answer collection found)
  have begun : shared.run access
      [.call caller (.keyFor collection) server, .resume caller server, .resume caller server] =
      (looked.proceed access caller server).proceed access caller server := by
    simp only [run, List.foldl, step, resting, SharedKeyring.begin, looked]
  obtain ⟨keyring, stage⟩ : looked.keyring = shared.keyring ∧ looked.stages caller =
      stageAfterLook collection (.ok (shared.keyring.bundle.map (·.keyFor collection))) :=
    shared.enter_ends caller server (look collection) ..
  dsimp only
  rw [begun]
  cases held : shared.keyring.bundle with
  | some bundle =>
      rw [held] at stage
      rw [proceed_answered stage, proceed_answered stage, keyFor_run_loaded held]
      exact ⟨keyring, stage⟩
  | none =>
      rw [held] at stage
      have second : looked.proceed access caller server = refreshed := by
        simp only [proceed, stage, Option.map_none, stageAfterLook, refreshed]
      obtain ⟨left, told⟩ : refreshed.keyring = _ ∧ refreshed.stages caller = _ :=
        looked.enter_ends caller server (refresh access) (stageAfterRefresh collection) .refreshed
      rw [keyFor_run_absent held, Run.course_bind, second]
      rw [keyring] at left told
      cases ends : ((refresh access shared.keyring).course server.alone ()).ending with
      | failed e l =>
          rw [ends] at left told
          rw [proceed_answered told]
          simp only [ends]
          exact ⟨left, told⟩
      | returned value l =>
          rw [ends] at left told
          have last : refreshed.proceed access caller server = looking := by
            simp only [proceed, told, Ending.result, stageAfterRefresh, looking]
          obtain ⟨kept, given⟩ : looking.keyring = refreshed.keyring ∧ looking.stages caller = .answered
              collection (answer collection (.ok (refreshed.keyring.bundle.map (·.keyFor collection)))) :=
            refreshed.enter_ends caller server (look collection) ..
          rw [left] at kept given
          simp only [ends]
          rw [last, ending_lookAgain, Ending.state_ofExcept, Ending.result_ofExcept]
          exact ⟨kept, given⟩

/-! ## The log -/

/-- A keyring may become another by a deed. -/
inductive Leads (access : KeyAccess) : Deed → Keyring → Keyring → Prop
  | rebound {syncId : String} {modified : Option Binary64} {k : Keyring}
      (same : k.isBoundTo syncId modified = true) : Leads access (.bound syncId modified) k k
  | bound {syncId : String} {modified : Option Binary64} {k : Keyring}
      (other : k.isBoundTo syncId modified = false) :
      Leads access (.bound syncId modified) k ⟨some syncId, modified, none⟩
  | invalidated {k : Keyring} : Leads access .invalidated k .empty
  | spared {result : Except SyncError Unit} {k : Keyring} : Leads access (.refreshed [] result) k k
  | fetched {key : Key} {epoch : String} {reply : (bundleRequest access.limit).Reply}
      {bundle : KeyBundle} {k : Keyring} (usable : access.sealingKey = .ok key)
      (absent : k.bundle = none) (bound : k.epoch = some epoch)
      (found : bundleFrom access.limit key reply = .ok bundle) :
      Leads access (.refreshed [⟨bundleRequest access.limit, k, reply, k⟩] (.ok ())) k
        { k with bundle := some bundle }
  | failed {key : Key} {reply : (bundleRequest access.limit).Reply} {e : SyncError} {k : Keyring}
      (usable : access.sealingKey = .ok key) (absent : k.bundle = none)
      (found : bundleFrom access.limit key reply = .error e) :
      Leads access (.refreshed [⟨bundleRequest access.limit, k, reply, k⟩] (.error e)) k k
  | missed {collection : String} {k : Keyring} : Leads access (.missed collection) k k
  | answered {collection : String} {bundle : KeyBundle} {k : Keyring}
      (held : k.bundle = some bundle) :
      Leads access (.answered collection (.ok (bundle.keyFor collection))) k k
  | refused {collection : String} {e : SyncError} {k : Keyring} :
      Leads access (.answered collection (.error e)) k k

theorem leads_bind (syncId : String) (modified : Option Binary64) (k : Keyring) :
    Leads access (.bound syncId modified) k
      ((Keyring.bind syncId modified k).course server.alone ()).ending.state := by
  rw [bind_run]
  cases same : k.isBoundTo syncId modified with
  | true => exact .rebound same
  | false =>
      have renewed : k.rebind syncId modified = ⟨some syncId, modified, none⟩ :=
        if_neg (Bool.eq_false_iff.mp same)
      rw [if_neg Bool.false_ne_true, renewed]
      split <;> exact .bound same

theorem leads_refresh (k : Keyring) :
    let course := (refresh access k).course server.alone ()
    Leads access (.refreshed course.exchanges course.ending.result) k course.ending.state := by
  rcases refresh_cases access k with
    ⟨same, -⟩ | ⟨e, same, -⟩ | ⟨key, epoch, usable, absent, bound⟩
  · rw [same]
    exact .spared
  · rw [same]
    exact .spared
  · rw [refresh_run_absent usable absent bound]
    simp only [Run.course, Environment.exchange, Oracle.touch_alone]
    cases found : bundleFrom access.limit key
        ((server.alone : Environment Unit Keyring).reply (bundleRequest access.limit) ()) with
    | ok bundle => exact .fetched usable absent bound found
    | error e => exact .failed usable absent found

theorem leads_firstLook (collection : String) (k : Keyring) :
    Leads access (firstLook collection (.ok (k.bundle.map (·.keyFor collection)))) k k := by
  cases held : k.bundle with
  | none => exact .missed
  | some bundle => exact .answered held

theorem leads_answer (collection : String) (k : Keyring) :
    Leads access (.answered collection (answer collection (.ok (k.bundle.map (·.keyFor collection)))))
      k k := by
  cases held : k.bundle with
  | none => exact .refused
  | some bundle => exact .answered held

/-- A log of what happened to a keyring on its way to another. -/
def Path (access : KeyAccess) : Keyring → List (Note ι) → Keyring → Prop
  | k, [], l => l = k
  | k, n :: rest, l => n.before = k ∧ Leads access n.deed k n.after ∧ Path access n.after rest l

omit [DecidableEq ι] in
theorem path_append {k l : Keyring} {first rest : List (Note ι)} :
    Path access k (first ++ rest) l ↔ ∃ m, Path access k first m ∧ Path access m rest l := by
  induction first generalizing k with
  | nil => simp [Path]
  | cons n first ih => simp only [List.cons_append, Path, ih, exists_and_left, and_assoc]

def Deed.Numbered : Deed → Prop
  | .bound _ modified => Keyring.Numbered modified
  | _ => True

def Action.Numbered : Action ι → Prop
  | .call _ (.bind _ modified) _ => Keyring.Numbered modified
  | _ => True

/-- The log is a path from the empty keyring, and the times in it are numbers. -/
structure Logged (access : KeyAccess) (shared : SharedKeyring ι) : Prop where
  path : Path access .empty shared.log shared.keyring
  numbered : ∀ n ∈ shared.log, n.deed.Numbered

theorem Logged.enter {α : Type} (logged : Logged access shared) {program : Program Keyring α}
    {stage : Except SyncError α → Stage} {deed : List (Exchange Keyring) → Except SyncError α → Deed}
    (leads : let course := (program shared.keyring).course server.alone ()
      Leads access (deed course.exchanges course.ending.result) shared.keyring course.ending.state)
    (numbered : ∀ exchanges result, (deed exchanges result).Numbered) :
    Logged access (shared.enter caller server program stage deed) where
  path := path_append.mpr ⟨shared.keyring, logged.path, rfl, leads, rfl⟩
  numbered n member := by
    rcases List.mem_append.mp member with earlier | latest
    · exact logged.numbered n earlier
    · obtain rfl := List.mem_singleton.mp latest
      exact numbered _ _

theorem Logged.begin (logged : Logged access shared) {call : Call}
    (numbered : Action.Numbered (.call caller call server)) :
    Logged access (shared.begin access caller server call) := by
  cases call with
  | bind syncId modified =>
      simp only [SharedKeyring.begin]
      exact logged.enter (leads_bind syncId modified _) fun _ _ => numbered
  | refresh =>
      simp only [SharedKeyring.begin]
      exact logged.enter (leads_refresh _) fun _ _ => trivial
  | keyFor collection =>
      simp only [SharedKeyring.begin]
      refine logged.enter (leads_firstLook collection _) fun _ found => ?_
      unfold firstLook
      split <;> trivial
  | invalidate =>
      simp only [SharedKeyring.begin]
      exact logged.enter .invalidated fun _ _ => trivial

/-- One action adds to the log what it does. -/
theorem Logged.step (logged : Logged access shared) {action : Action ι}
    (numbered : action.Numbered) : Logged access (shared.step access action) := by
  cases action with
  | call caller call server =>
      simp only [SharedKeyring.step]
      split
      · exact logged
      · exact logged
      · exact logged.begin numbered
  | resume caller server =>
      simp only [SharedKeyring.step, SharedKeyring.proceed]
      split
      · exact logged.enter (leads_refresh _) fun _ _ => trivial
      · exact logged.enter (leads_answer _ _) fun _ _ => trivial
      · exact logged

theorem Logged.run (logged : Logged access shared) {actions : List (Action ι)}
    (numbered : ∀ action ∈ actions, action.Numbered) :
    Logged access (shared.run access actions) := by
  induction actions generalizing shared with
  | nil => exact logged
  | cons action rest ih =>
      have first := logged.step (numbered action List.mem_cons_self)
      exact ih first fun later member => numbered later (List.mem_cons_of_mem _ member)

/-! ## What a log says -/

/-- The keys get another binding than they have, or none. -/
def Deed.Turns (k : Keyring) : Deed → Prop
  | .bound syncId modified => ¬(k.epoch = some syncId ∧ OneTime k.modified modified)
  | .invalidated => True
  | _ => False

def Note.Turns (n : Note ι) : Prop := n.deed.Turns n.before

/-- The refresh has the reply of the server to one request for the bundle. -/
def Note.Fetches (access : KeyAccess) (n : Note ι) (result : Except SyncError KeyBundle) : Prop :=
  ∃ key reply told, access.sealingKey = .ok key ∧
    n.deed = .refreshed [⟨bundleRequest access.limit, n.before, reply, n.before⟩] told ∧
    bundleFrom access.limit key reply = result

/-- A bundle was fetched under the binding of the keyring, and since then nothing has turned it. -/
structure Supported (access : KeyAccess) (past : List (Note ι)) (k : Keyring) (bundle : KeyBundle) :
    Prop where
  bound : k.epoch ≠ none
  fetched : ∃ head f middle, past = head ++ f :: middle ∧ f.Fetches access (.ok bundle) ∧
    f.before.epoch = k.epoch ∧ f.before.modified = k.modified ∧ ∀ n ∈ middle, ¬n.Turns

omit [DecidableEq ι] in
theorem Supported.later {past : List (Note ι)} {k : Keyring} {bundle : KeyBundle}
    (supported : Supported access past k bundle) {n : Note ι} (quiet : ¬n.Turns) :
    Supported access (past ++ [n]) k bundle := by
  obtain ⟨head, f, middle, rfl, fetches, epoch, modified, still⟩ := supported.fetched
  refine ⟨supported.bound, head, f, middle ++ [n], by simp, fetches, epoch, modified, ?_⟩
  intro m member
  rcases List.mem_append.mp member with earlier | latest
  · exact still m earlier
  · obtain rfl := List.mem_singleton.mp latest
    exact quiet

omit [DecidableEq ι] in
theorem supported_latest {past : List (Note ι)} {k : Keyring} {bundle : KeyBundle} {n : Note ι}
    (fetches : n.Fetches access (.ok bundle)) {epoch : String} (bound : n.before.epoch = some epoch)
    (same : k = { n.before with bundle := some bundle }) : Supported access (past ++ [n]) k bundle := by
  subst same
  constructor
  · exact bound.trans_ne (Option.some_ne_none epoch)
  · exact ⟨past, n, [], rfl, fetches, rfl, rfl, fun m member => absurd member List.not_mem_nil⟩

theorem not_turns_of_isBoundTo {k : Keyring} {syncId : String} {modified : Option Binary64}
    (same : k.isBoundTo syncId modified = true) : ¬(Deed.bound syncId modified).Turns k := by
  simp only [isBoundTo, Bool.and_eq_true, beq_iff_eq] at same
  exact fun turns => turns ⟨same.1, oneTime_of_sameTime same.2⟩

theorem isBoundTo_of_not_turns {k : Keyring} {syncId : String} {modified : Option Binary64}
    (numbered : Numbered k.modified) (quiet : ¬(Deed.bound syncId modified).Turns k) :
    k.isBoundTo syncId modified = true := by
  obtain ⟨epoch, one⟩ := not_not.mp quiet
  simp [isBoundTo, epoch, one.sameTime numbered]

/-- A keyring with a bundle stays as it is until its binding turns. -/
theorem Leads.keeps {deed : Deed} {k l : Keyring} (leads : Leads access deed k l)
    (numbered : Numbered k.modified) (quiet : ¬deed.Turns k) {bundle : KeyBundle}
    (held : k.bundle = some bundle) : l = k := by
  cases leads with
  | bound other => exact absurd (isBoundTo_of_not_turns numbered quiet) (Bool.eq_false_iff.mp other)
  | invalidated => exact absurd trivial quiet
  | fetched usable absent bound found => exact absurd (held.symm.trans absent) (Option.some_ne_none _)
  | rebound | spared | failed | missed | answered | refused => rfl

theorem Leads.numbered {deed : Deed} {k l : Keyring} (leads : Leads access deed k l)
    (deeds : deed.Numbered) (numbered : Numbered k.modified) : Numbered l.modified := by
  cases leads with
  | bound other => exact deeds
  | invalidated => exact nofun
  | rebound | spared | fetched | failed | missed | answered | refused => exact numbered

omit [DecidableEq ι] in
theorem Path.keeps {k l : Keyring} {log : List (Note ι)} (path : Path access k log l)
    (numbered : Numbered k.modified) (quiet : ∀ n ∈ log, ¬n.Turns) {bundle : KeyBundle}
    (held : k.bundle = some bundle) : l = k := by
  induction log generalizing k with
  | nil => exact path
  | cons n rest ih =>
      obtain ⟨rfl, leads, continued⟩ := path
      have same := leads.keeps numbered (quiet n List.mem_cons_self) held
      rw [same] at continued
      exact ih continued numbered (fun m member => quiet m (List.mem_cons_of_mem _ member)) held

omit [DecidableEq ι] in
theorem Path.numbered {k l : Keyring} {log : List (Note ι)} (path : Path access k log l)
    (numbered : Numbered k.modified) (deeds : ∀ n ∈ log, n.deed.Numbered) : Numbered l.modified := by
  induction log generalizing k with
  | nil =>
      obtain rfl := path
      exact numbered
  | cons n rest ih =>
      obtain ⟨-, leads, continued⟩ := path
      have next := leads.numbered (deeds n List.mem_cons_self) numbered
      exact ih continued next fun m member => deeds m (List.mem_cons_of_mem _ member)

omit [DecidableEq ι] in
/-- A bundle that a keyring holds was fetched under the binding that the keyring still has. -/
theorem Path.supported {log : List (Note ι)} {k : Keyring} (path : Path access .empty log k)
    {bundle : KeyBundle} (held : k.bundle = some bundle) : Supported access log k bundle := by
  induction log using List.reverseRecOn generalizing k with
  | nil =>
      obtain rfl := path
      cases held
  | append_singleton past n ih =>
      obtain ⟨m, earlier, same, leads, rfl⟩ := path_append.mp path
      have kept (quiet : ¬n.deed.Turns m) (still : n.after = m) :
          Supported access (past ++ [n]) n.after bundle := by
        rw [still] at held ⊢
        rw [← same] at quiet
        exact (ih earlier held).later quiet
      obtain ⟨caller, deed, before, after⟩ := n
      obtain rfl : before = m := same
      dsimp only at leads held kept ⊢
      cases leads with
      | rebound bound => exact kept (not_turns_of_isBoundTo bound) rfl
      | bound other => cases held
      | invalidated => cases held
      | @fetched key epoch reply _ _ usable absent bound found =>
          obtain rfl := Option.some.inj held
          exact supported_latest ⟨key, reply, .ok (), usable, rfl, found⟩ bound rfl
      | spared | failed | missed | answered | refused => exact kept id rfl

theorem leads_answered {collection : String} {key : Key} {k l : Keyring}
    (leads : Leads access (.answered collection (.ok key)) k l) :
    l = k ∧ ∃ bundle, k.bundle = some bundle ∧ key = bundle.keyFor collection := by
  cases leads with
  | answered held => exact ⟨rfl, _, held, rfl⟩

omit [DecidableEq ι] in
/-- A fetch finds no bundle. It adds one, or leaves the keyring as it is. -/
theorem leads_fetches {n : Note ι} {result : Except SyncError KeyBundle}
    (leads : Leads access n.deed n.before n.after) (fetches : n.Fetches access result) :
    n.before.bundle = none ∧ n.after = { n.before with bundle := result.toOption } := by
  obtain ⟨caller, deed, before, after⟩ := n
  obtain ⟨key, reply, told, usable, same, found⟩ := fetches
  dsimp only at leads same ⊢
  subst same
  cases leads with
  | @fetched other epoch _ bundle _ derived absent bound opened =>
      obtain rfl : key = other := Except.ok.inj (usable.symm.trans derived)
      obtain rfl : .ok bundle = result := opened.symm.trans found
      exact ⟨absent, rfl⟩
  | @failed other _ e _ derived absent refused =>
      obtain rfl : key = other := Except.ok.inj (usable.symm.trans derived)
      obtain rfl : .error e = result := refused.symm.trans found
      exact ⟨absent, congrArg (Keyring.mk before.epoch before.modified) absent⟩

omit [DecidableEq ι] in
theorem fetches_of_leads {n : Note ι} (leads : Leads access n.deed n.before n.after)
    {exchanges : List (Exchange Keyring)} {told : Except SyncError Unit}
    (same : n.deed = .refreshed exchanges told) (asked : exchanges ≠ []) :
    ∃ result, n.Fetches access result := by
  obtain ⟨caller, deed, before, after⟩ := n
  dsimp only at leads same
  subst same
  cases leads with
  | spared => exact absurd rfl asked
  | fetched usable absent bound found => exact ⟨_, _, _, _, usable, rfl, found⟩
  | failed usable absent found => exact ⟨_, _, _, _, usable, rfl, found⟩

omit [DecidableEq ι] in
/-- The log as it was when a note was written. -/
theorem Path.at {past later : List (Note ι)} {n : Note ι} {k l : Keyring}
    (path : Path access k (past ++ n :: later) l) :
    Path access k past n.before ∧ Leads access n.deed n.before n.after ∧ Path access n.after later l := by
  obtain ⟨_, earlier, rfl, leads, continued⟩ := path_append.mp path
  exact ⟨earlier, leads, continued⟩

omit [DecidableEq ι] in
/-- Every note of the log tells of a step that the keyring can take. -/
theorem Path.leads_of_mem {log : List (Note ι)} {n : Note ι} {k l : Keyring}
    (path : Path access k log l) (member : n ∈ log) : Leads access n.deed n.before n.after := by
  obtain ⟨past, later, rfl⟩ := List.append_of_mem member
  exact path.at.2.1

/-- What is true of a shared keyring whatever its callers do. -/
structure Accounted (access : KeyAccess) (shared : SharedKeyring ι) : Prop where
  /-- The log is all that happened to the keyring. -/
  path : Path access .empty shared.log shared.keyring
  /-- A bundle is only held for an epoch. -/
  bound : ∀ bundle, shared.keyring.bundle = some bundle → shared.keyring.epoch ≠ none
  /-- A key that a caller was given is the one of a bundle that was fetched under the binding in force,
  which has not turned since. -/
  justified : ∀ past n later collection key, shared.log = past ++ n :: later →
    n.deed = .answered collection (.ok key) →
    ∃ bundle, Supported access past n.before bundle ∧ key = bundle.keyFor collection
  /-- Between two fetches that succeeded the binding has turned. -/
  single : ∀ head f middle g tail earlier later, shared.log = head ++ f :: (middle ++ g :: tail) →
    f.Fetches access (.ok earlier) → g.Fetches access (.ok later) → ∃ n ∈ middle, n.Turns
  /-- Two keys between which nothing turned are of one bundle. -/
  agreed : ∀ head m middle n tail first second key other,
    shared.log = head ++ m :: (middle ++ n :: tail) → m.deed = .answered first (.ok key) →
    n.deed = .answered second (.ok other) → (∀ x ∈ middle, ¬x.Turns) →
    ∃ bundle, Supported access head m.before bundle ∧ key = bundle.keyFor first ∧
      other = bundle.keyFor second
  /-- What a refresh exchanges with the server is one fetch. -/
  fetches : ∀ n ∈ shared.log, ∀ exchanges told, n.deed = .refreshed exchanges told → exchanges ≠ [] →
    ∃ result, n.Fetches access result
  /-- A fetch that fails leaves the binding as it is and no bundle. -/
  failing : ∀ n ∈ shared.log, ∀ e, n.Fetches access (.error e) →
    n.after.epoch = n.before.epoch ∧ n.after.modified = n.before.modified ∧ n.after.bundle = none

omit [DecidableEq ι] in
/-- The log is a path up to each of its notes, whose time is a number, and from there on. -/
theorem Logged.at (logged : Logged access shared) {past later : List (Note ι)} {n : Note ι}
    (log : shared.log = past ++ n :: later) :
    Path access .empty past n.before ∧ Numbered n.before.modified ∧
      Leads access n.deed n.before n.after ∧ Path access n.after later shared.keyring := by
  have path := logged.path
  have numbered := logged.numbered
  rw [log] at path numbered
  obtain ⟨before, leads, after⟩ := path.at
  have timed : Numbered n.before.modified :=
    before.numbered nofun fun n member => numbered n (List.mem_append_left _ member)
  exact ⟨before, timed, leads, after⟩

omit [DecidableEq ι] in
theorem Logged.accounted (logged : Logged access shared) : Accounted access shared where
  path := logged.path
  bound _ held := (logged.path.supported held).bound
  justified past n later collection key log same := by
    obtain ⟨earlier, -, leads, -⟩ := logged.at log
    rw [same] at leads
    obtain ⟨-, bundle, held, given⟩ := leads_answered leads
    exact ⟨bundle, earlier.supported held, given⟩
  single head f middle g tail earlier later log first second := by
    obtain ⟨-, numbered, leads, after⟩ := logged.at log
    obtain ⟨between, fetching, -⟩ := after.at
    obtain ⟨-, filled⟩ := leads_fetches leads first
    obtain ⟨absent, -⟩ := leads_fetches fetching second
    by_contra none
    have quiet : ∀ n ∈ middle, ¬n.Turns := fun n member turns => none ⟨n, member, turns⟩
    have kept : g.before = f.after :=
      between.keeps (by rw [filled]; exact numbered) quiet (by rw [filled]; rfl)
    rw [kept, filled] at absent
    cases absent
  agreed head m middle n tail first second key other log told again quiet := by
    obtain ⟨before, numbered, leads, after⟩ := logged.at log
    obtain ⟨between, leads', -⟩ := after.at
    rw [told] at leads
    rw [again] at leads'
    obtain ⟨same, bundle, held, given⟩ := leads_answered leads
    obtain ⟨-, bundle', held', given'⟩ := leads_answered leads'
    rw [same] at between
    rw [between.keeps numbered quiet held, held] at held'
    obtain rfl := Option.some.inj held'
    exact ⟨bundle, before.supported held, given, given'⟩
  fetches n member exchanges told same asked :=
    fetches_of_leads (logged.path.leads_of_mem member) same asked
  failing n member e fails := by
    obtain ⟨absent, after⟩ := leads_fetches (logged.path.leads_of_mem member) fails
    rw [after]
    exact ⟨rfl, rfl, rfl⟩

/-- Whatever the callers of a keyring do in whatever order, the keys that they are given are accounted
for. -/
theorem keys_accounted (access : KeyAccess) {actions : List (Action ι)}
    (numbered : ∀ action ∈ actions, action.Numbered) :
    Accounted access (opened.run access actions) := by
  have start : Logged access (opened : SharedKeyring ι) :=
    ⟨rfl, fun n member => absurd member List.not_mem_nil⟩
  exact (start.run numbered).accounted

/-! ## Two readers -/

open Simulation

/-- A server that answers with a sealed bundle. -/
def serving (bundle : KeyBundle) : Oracle Unit :=
  { Session.keylessOracle with
    reply
      | .remote _ (.fetch ..), _ =>
          some (.ok (some (.ofPayload keysRecordId (bundle.toPayload Memory.key (.fit 12 [])))))
      | request, world => Session.keylessOracle.reply request world }

def readersAccess : KeyAccess := ⟨Memory.profile.limit, .ok Memory.key⟩

/-- Both readers look before one of them refreshes; by the time the other does, the server has another
bundle. -/
def readers (first second : KeyBundle) : List (Action Nat) :=
  [.call 0 (.bind "epoch" (some (.ofNat 1))) (serving first),
    .call 1 (.keyFor "tabs") (serving first), .call 2 (.keyFor "forms") (serving second),
    .resume 1 (serving first), .resume 2 (serving second), .resume 2 (serving second),
    .resume 1 (serving first)]

theorem bundleFrom_serving (bundle : KeyBundle) :
    bundleFrom readersAccess.limit Memory.key
      ((serving bundle).reply (bundleRequest readersAccess.limit) ()) = .ok bundle := by
  show bundleFrom readersAccess.limit Memory.key (some (.ok (some _))) = _
  rw [bundleFrom_record]
  exact KeyBundle.ofPayload_toPayload bundle Memory.key (.fit 12 [])

theorem ending_refresh {key : Key} {k : Keyring} {epoch : String} {bundle : KeyBundle}
    (usable : access.sealingKey = .ok key) (absent : k.bundle = none) (bound : k.epoch = some epoch)
    (found : bundleFrom access.limit key (server.reply (bundleRequest access.limit) ()) = .ok bundle) :
    ((refresh access k).course server.alone ()).ending =
      .returned () { k with bundle := some bundle } := by
  have replied : bundleFrom access.limit key
      ((server.alone : Environment Unit Keyring).reply (bundleRequest access.limit) ()) = .ok bundle :=
    found
  rw [refresh_run_absent usable absent bound]
  simp only [Run.course, Oracle.touch_alone, replied]

theorem course_look (collection : String) (k : Keyring) :
    (look collection k).course server.alone () =
      ⟨.returned (k.bundle.map (·.keyFor collection)) k, (), []⟩ := rfl

theorem readers_answered (first second : KeyBundle) :
    let last := (opened : SharedKeyring Nat).run readersAccess (readers first second)
    last.stages 1 = .answered "tabs" (.ok (first.keyFor "tabs")) ∧
      last.stages 2 = .answered "forms" (.ok (first.keyFor "forms")) := by
  have binding : ((Keyring.bind "epoch" (some (.ofNat 1)) .empty).course (serving first).alone ()).ending =
      .returned false ⟨some "epoch", some (.ofNat 1), none⟩ := rfl
  have fetching : ((refresh readersAccess ⟨some "epoch", some (.ofNat 1), none⟩).course
      (serving first).alone ()).ending = .returned () ⟨some "epoch", some (.ofNat 1), some first⟩ :=
    ending_refresh rfl rfl rfl (bundleFrom_serving first)
  have sparing : refresh readersAccess ⟨some "epoch", some (.ofNat 1), some first⟩ =
      .returned () ⟨some "epoch", some (.ofNat 1), some first⟩ :=
    refresh_run_loaded rfl rfl
  simp [run, readers, step, SharedKeyring.begin, opened, enter, proceed, binding, course_look,
    fetching, sparing, Run.course, Ending.state, Ending.result, stageAfterLook, stageAfterRefresh, answer,
    Function.update]

def rotatedBundle : KeyBundle := .ofDefault ⟨.fit 32 [1]⟩

/-- Both readers get keys of the bundle that was fetched, although the server has another by then. -/
theorem readers_accounted :
    let actions := readers (.ofDefault Memory.key) rotatedBundle
    let last := (opened : SharedKeyring Nat).run readersAccess actions
    (∀ action ∈ actions, action.Numbered) ∧ Accounted readersAccess last ∧
      last.stages 1 = .answered "tabs" (.ok Memory.key) ∧
      last.stages 2 = .answered "forms" (.ok Memory.key) := by
  have numbered : ∀ action ∈ readers (.ofDefault Memory.key) rotatedBundle, action.Numbered := by
    simpa [readers, Action.Numbered, Numbered] using Binary64.isNaN_ofNat 1
  exact ⟨numbered, keys_accounted readersAccess numbered,
    readers_answered (.ofDefault Memory.key) rotatedBundle⟩

end SharedKeyring

end SealedSync
