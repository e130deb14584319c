import SealedSync.Proofs.Cancellation
import SealedSync.Proofs.CommitTime

/-!
# Delays

Each call of a cycle has a time limit of its own. While no answer takes longer than that, a cycle does what it
does where answers take no time, however long they take together. The first answer that comes too late ends the
cycle as the error would that names the call and the limit. Only where others have dropped the keys that a
synchronizer is about to get, and they are fetched again for it, does a late answer cost no more than the work
of that synchronizer.
-/
namespace SealedSync

open FreshStart (calls)

variable {ω σ α : Type}

/-! ## Time that passes -/

/-- An answer with the delay comes after the limit. -/
def Duration.exceededBy (limit delay : Duration) : Bool :=
  decide (limit.totalNanoseconds < delay.totalNanoseconds)

/-- A world, how many calls were made in it and how many nanoseconds they took. -/
structure Clocked (ω : Type) where
  world : ω
  calls : Nat
  elapsed : Nat

def Clocked.start (world : ω) : Clocked ω := ⟨world, 0, 0⟩

namespace Environment

/-- The environment in which each call takes some time. Where that is more than its limit, the call comes to
what is given by `late`, and what it does to the world all the same is given by `lost`. The clock is ahead by the
time that calls took. -/
def paced (env : Environment ω σ) (delays : Nat → Duration) (lost : Request → ω → ω)
    (late : (limit : Duration) → (call : RemoteCall) → (Request.remote limit call).Reply)
    (clock : Nat → ω → Instant) : Environment (Clocked ω) σ where
  reply
    | .remote limit call, c =>
        if limit.exceededBy (delays c.calls) then late limit call
        else env.reply (.remote limit call) c.world
    | .clock, c => clock c.elapsed c.world
    | r, c => env.reply r c.world
  next
    | .remote limit call, c =>
        if limit.exceededBy (delays c.calls) then
          ⟨lost (.remote limit call) c.world, c.calls + 1, c.elapsed + limit.totalNanoseconds⟩
        else ⟨env.next (.remote limit call) c.world, c.calls + 1,
          c.elapsed + (delays c.calls).totalNanoseconds⟩
    | r, c => { c with world := env.next r c.world }
  touch r c s := env.touch r c.world s

/-- The environment in which calls take time, and a call that takes longer than its limit gets no answer. -/
def delayed (env : Environment ω σ) (delays : Nat → Duration) (lost : Request → ω → ω)
    (clock : Nat → ω → Instant) : Environment (Clocked ω) σ :=
  env.paced delays lost (fun _ _ => none) clock

/-- The environment in which calls take no time, and the same calls are answered with the error `timeout`. -/
def erring (env : Environment ω σ) (delays : Nat → Duration) (lost : Request → ω → ω) :
    Environment (Clocked ω) σ :=
  env.paced delays lost (fun limit call => some (.error (.timeout call.operation limit)))
    fun _ => env.reply .clock

end Environment

/-- None of the first delays exceeds the limit. -/
def Duration.Covers (limit : Duration) (delays : Nat → Duration) (count : Nat) : Prop :=
  ∀ k < count, limit.exceededBy (delays k) = false

/-- The delays of the first calls, and none after that. -/
def firstDelays (count : Nat) (delays : Nat → Duration) (k : Nat) : Duration :=
  if k < count then delays k else ⟨0, 0⟩

theorem Duration.Covers.firstDelays {limit : Duration} {delays : Nat → Duration} {count : Nat}
    (prompt : limit.Covers delays count) (k : Nat) :
    limit.exceededBy (firstDelays count delays k) = false := by
  unfold SealedSync.firstDelays
  split
  · exact prompt k ‹_›
  · exact decide_eq_false (Nat.not_lt_zero _)

/-! ## Environments in which calls take time -/

section Paced

variable {env : Environment ω σ} {delays : Nat → Duration} {lost : Request → ω → ω} {limit : Duration}
  {late : (limit : Duration) → (call : RemoteCall) → (Request.remote limit call).Reply}
  {clock : Nat → ω → Instant}

theorem Environment.Timeless.paced (timeless : env.Timeless) (w : ω) (c : Clocked ω) (same : c.world = w) :
    env.SavesAlike (env.paced delays lost late clock) w c := by
  subst same
  exact ⟨(timeless c.world).written, (timeless c.world).whileWritten, (timeless c.world).renamed,
    (timeless c.world).whileRenamed⟩

/-- Where every answer comes in time, the world is the same as if answers took no time. -/
theorem mirrors_of_prompt (timeless : env.Timeless) (prompt : ∀ k, limit.exceededBy (delays k) = false) :
    env.Mirrors (env.paced delays lost late clock) limit fun w c => c.world = w where
  replied := by
    rintro r w c rfl within
    cases r with
    | remote l call =>
        obtain rfl : l = limit := within
        simp [Environment.paced, prompt]
    | clock => exact within.elim
    | _ => rfl
  touched := by
    rintro r w c s rfl
    rfl
  next := by
    rintro r w c rfl within
    cases r with
    | remote l call =>
        obtain rfl : l = limit := within
        simp [Environment.paced, prompt]
    | _ => rfl
  ticked := by
    rintro w c rfl
    rfl
  saves := timeless.paced

/-- It makes no difference whether a late answer fails to come or is replaced by the error, nor which time is
told. -/
theorem erring_mirrors_delayed (timeless : env.Timeless) :
    (env.erring delays lost).Mirrors (env.delayed delays lost clock) limit Eq where
  replied := by
    rintro r c _ rfl within
    cases r with
    | remote l call =>
        simp only [Environment.erring, Environment.delayed, Environment.paced]
        split <;> rfl
    | clock => exact within.elim
    | _ => rfl
  touched := by
    rintro r c _ s rfl
    rfl
  next := by
    rintro r c _ rfl within
    rfl
  ticked := by
    rintro c _ rfl
    rfl
  saves := by
    rintro c _ rfl
    exact ⟨(timeless c.world).written, (timeless c.world).whileWritten, (timeless c.world).renamed,
      (timeless c.world).whileRenamed⟩

theorem calls_cons (x : Exchange σ) (xs : List (Exchange σ)) :
    calls (x :: xs) = if x.request.isRemote then x.request :: calls xs else calls xs := by
  simp only [calls, List.map_cons, List.filter_cons]

theorem length_calls_cons (x : Exchange σ) (xs : List (Exchange σ)) :
    (calls (x :: xs)).length = (if x.request.isRemote then 1 else 0) + (calls xs).length := by
  rw [calls_cons]
  split <;> simp [Nat.add_comm]

/-- A request counts as a call or it does not. -/
theorem calls_next (r : Request) (c : Clocked ω) :
    ((env.paced delays lost late clock).next r c).calls = c.calls + if r.isRemote then 1 else 0 := by
  cases r with
  | remote l call =>
      simp only [Environment.paced]
      split <;> rfl
  | _ => rfl

theorem calls_world (c : Clocked ω) (xs : List (Exchange σ)) :
    ((env.paced delays lost late clock).world c xs).calls = c.calls + (calls xs).length := by
  induction xs generalizing c with
  | nil => rfl
  | cons x rest ih =>
      refine (ih _).trans ?_
      rw [calls_next, length_calls_cons, Nat.add_assoc]

variable (env lost late clock) in
/-- Only the delay of the next call matters to the next request. -/
theorem step_paced_congr {delays' : Nat → Duration} {c : Clocked ω} {r : Request}
    (same : r.isRemote = true → delays' c.calls = delays c.calls) :
    (env.paced delays' lost late clock).reply r c = (env.paced delays lost late clock).reply r c ∧
      (env.paced delays' lost late clock).next r c = (env.paced delays lost late clock).next r c := by
  cases r with
  | remote l call =>
      simp only [Environment.paced, same rfl]
      exact ⟨trivial, trivial⟩
  | _ => exact ⟨rfl, rfl⟩

/-- Where the first delays are the same, a run makes the same calls up to the first whose delay may be another,
and it is the same run if it makes no such call. -/
theorem Run.course_paced_fork (run : Run σ α) {delays' : Nat → Duration} (c : Clocked ω) {k : Nat}
    (same : ∀ j < k, delays' (c.calls + j) = delays (c.calls + j)) :
    let first := run.course (env.paced delays lost late clock) c
    let second := run.course (env.paced delays' lost late clock) c
    (calls second.exchanges).take (k + 1) = (calls first.exchanges).take (k + 1) ∧
      ((calls first.exchanges).length ≤ k → second = first) := by
  induction run generalizing c k with
  | returned value state => exact ⟨by simp only [Run.course], fun _ => by simp only [Run.course]⟩
  | failed error state => exact ⟨by simp only [Run.course], fun _ => by simp only [Run.course]⟩
  | noted event rest ih => exact ih c same
  | waiting request state resume ih =>
      have touched (delays : Nat → Duration) : (env.paced delays lost late clock).touch request c state =
          env.touch request c.world state := rfl
      have asked (delays : Nat → Duration) :
          ((env.paced delays lost late clock).exchange request state c).request = request := rfl
      by_cases called : request.isRemote = true
      · cases k with
        | zero => simp [Run.course, calls_cons, asked, called]
        | succ k =>
            have delay : delays' c.calls = delays c.calls := same 0 (Nat.succ_pos k)
            obtain ⟨reply, next⟩ := step_paced_congr env lost late clock fun _ : request.isRemote = true => delay
            have later : ∀ j < k, delays' (((env.paced delays lost late clock).next request c).calls + j) =
                delays (((env.paced delays lost late clock).next request c).calls + j) := by
              intro j within
              rw [calls_next, if_pos called, Nat.add_assoc, Nat.add_comm 1 j]
              exact same (j + 1) (Nat.succ_lt_succ within)
            obtain ⟨sent, whole⟩ := ih ((env.paced delays lost late clock).reply request c)
              (env.touch request c.world state) _ later
            simp only [Run.course, calls_cons, asked, called, touched, reply, next, if_true,
              List.take_succ_cons, List.length_cons, sent, true_and]
            intro short
            simp only [Environment.exchange, touched, reply, whole (Nat.le_of_succ_le_succ short)]
      · have delay (asked : request.isRemote = true) : delays' c.calls = delays c.calls := absurd asked called
        obtain ⟨reply, next⟩ := step_paced_congr env lost late clock delay
        have later : ∀ j < k, delays' (((env.paced delays lost late clock).next request c).calls + j) =
            delays (((env.paced delays lost late clock).next request c).calls + j) := by
          rw [calls_next, if_neg called]
          exact same
        obtain ⟨sent, whole⟩ := ih ((env.paced delays lost late clock).reply request c)
          (env.touch request c.world state) _ later
        simp only [Run.course, calls_cons, asked, called, touched, reply, next, Bool.false_eq_true,
          if_false, sent, true_and]
        intro short
        simp only [Environment.exchange, touched, reply, whole short]

/-- A run whose calls are all among the first is the same whatever the other delays are, and up to the next call it
makes the same calls. -/
theorem Run.course_firstDelays (run : Run σ α) (w : ω) (count : Nat) :
    let first := run.course (env.delayed (firstDelays count delays) lost clock) (.start w)
    let whole := run.course (env.delayed delays lost clock) (.start w)
    (calls whole.exchanges).take (count + 1) = (calls first.exchanges).take (count + 1) ∧
      ((calls first.exchanges).length ≤ count → whole = first) := by
  refine run.course_paced_fork (.start w) fun k within => ?_
  show delays (0 + k) = firstDelays count delays (0 + k)
  rw [Nat.zero_add, firstDelays, if_pos within]

/-- Each call stands somewhere among the exchanges. -/
theorem exists_call {xs : List (Exchange σ)} {k : Nat} (listed : k < (calls xs).length) :
    ∃ head x tail, xs = head ++ x :: tail ∧ x.request.isRemote = true ∧ (calls head).length = k := by
  induction xs generalizing k with
  | nil => exact absurd listed (Nat.not_lt_zero k)
  | cons x rest ih =>
      rw [length_calls_cons] at listed
      by_cases called : x.request.isRemote = true
      · cases k with
        | zero => exact ⟨[], x, rest, rfl, called, rfl⟩
        | succ k =>
            rw [if_pos called] at listed
            obtain ⟨head, y, tail, rfl, asked, count⟩ := ih (k := k) (by omega)
            refine ⟨x :: head, y, tail, rfl, asked, ?_⟩
            rw [length_calls_cons, if_pos called, count, Nat.add_comm]
      · rw [if_neg called, Nat.zero_add] at listed
        obtain ⟨head, y, tail, rfl, asked, count⟩ := ih listed
        refine ⟨x :: head, y, tail, rfl, asked, ?_⟩
        rw [length_calls_cons, if_neg called, count, Nat.zero_add]

theorem calls_take_of_split {head tail : List (Exchange σ)} {x : Exchange σ} {k : Nat}
    (called : x.request.isRemote = true) (count : (calls head).length = k) :
    (calls (head ++ x :: tail)).take (k + 1) = calls head ++ [x.request] := by
  rw [FreshStart.calls_append, calls_cons, if_pos called, List.append_cons]
  exact List.take_left' (by simp [count])

/-- A call whose delay exceeds its limit gets no answer. -/
theorem unanswered_of_exceeded {program : Program σ α} {s : σ} {w : ω} {after : Clocked ω}
    {head tail : List (Exchange σ)} {x : Exchange σ} {ending : Ending σ α} {call : RemoteCall}
    (taken : program.Takes (env.delayed delays lost clock) s (.start w) (head ++ x :: tail) ending after)
    (asked : x.request = .remote limit call)
    (exceeded : limit.exceededBy (delays (calls head).length) = true) :
    x = ⟨.remote limit call, x.asked, none, x.resumed⟩ := by
  have same := Run.Takes.exchange_at taken
  have count : ((env.delayed delays lost clock).world (.start w) head).calls = (calls head).length :=
    (calls_world _ head).trans (Nat.zero_add _)
  have reply : (env.delayed delays lost clock).reply (.remote limit call)
      ((env.delayed delays lost clock).world (.start w) head) = none := by
    simp only [Environment.delayed, Environment.paced] at count ⊢
    rw [count, if_pos exceeded]
  rw [asked, Environment.exchange, reply] at same
  rw [same]

end Paced

namespace Session

variable {env : Environment ω Session} {delays : Nat → Duration} {lost : Request → ω → ω}
  {clock : Nat → ω → Instant} {p : Profile} {s : Session} {w : ω}

/-- It makes no difference to a cycle how long its first calls take, if they take no longer than they may and
the others take no time. -/
theorem prompt_sameButTime (timeless : env.Timeless) (lost : Request → ω → ω) (clock : Nat → ω → Instant)
    (s : Session) (w : ω) {count : Nat} (prompt : p.limit.Covers delays count) :
    ((sync p s).course env w).SameButTime
      ((sync p s).course (env.delayed (firstDelays count delays) lost clock) (.start w)) := by
  have mirrors : env.Mirrors (env.delayed (firstDelays count delays) lost clock) p.limit
      fun w c => c.world = w := mirrors_of_prompt timeless prompt.firstDelays
  exact sync_sameButTime mirrors (show (Clocked.start w).world = w from rfl) s

/-- A cycle whose calls are all answered in time is the cycle in which answers take no time. -/
theorem inTime_sameButTime (timeless : env.Timeless)
    (prompt : p.limit.Covers delays (calls ((sync p s).course env w).exchanges).length) :
    ((sync p s).course env w).SameButTime
      ((sync p s).course (env.delayed delays lost clock) (.start w)) := by
  have same := prompt_sameButTime timeless lost clock s w prompt
  rw [((sync p s).course_firstDelays w _).2 (Nat.le_of_eq (congrArg List.length same.calls_eq))]
  exact same

/-- Up to the first answer that comes too late the same calls are made, and the one that it is late for as well. -/
theorem calls_take_eq (timeless : env.Timeless) {k : Nat} (prompt : p.limit.Covers delays k) :
    (calls ((sync p s).course (env.delayed delays lost clock) (.start w)).exchanges).take (k + 1) =
      (calls ((sync p s).course env w).exchanges).take (k + 1) := by
  have same := prompt_sameButTime timeless lost clock s w prompt
  rw [← same.calls_eq]
  exact ((sync p s).course_firstDelays w k).1

/-- However the answers to its calls are delayed: a cycle whose calls are all answered in time is the one in
which answers take no time, but for when it commits. In any case a cycle is the one in which the calls that take
too long are answered with the error that says so. The first of these is called like any other. It is followed
by no wipe, and it ends the cycle unless it fetches keys that others have dropped while synchronizers worked. -/
theorem sync_delayed (timeless : env.Timeless) (delays : Nat → Duration) (lost : Request → ω → ω)
    (clock : Nat → ω → Instant) (p : Profile) (s : Session) (w : ω) :
    let plain := (sync p s).course env w
    let timed := (sync p s).course (env.delayed delays lost clock) (.start w)
    (p.limit.Covers delays (calls plain.exchanges).length → plain.SameButTime timed) ∧
    ((sync p s).course (env.erring delays lost) (.start w)).SameButTime timed ∧
    ∀ k < (calls plain.exchanges).length, p.limit.Covers delays k →
      p.limit.exceededBy (delays k) = true →
      ∃ head call asked resumed tail,
        timed.exchanges = head ++ ⟨.remote p.limit call, asked, none, resumed⟩ :: tail ∧
        (calls plain.exchanges).take (k + 1) = calls head ++ [.remote p.limit call] ∧
        (calls head).length = k ∧ ¬Wipes tail ∧
        (Expires p.limit call head tail resumed timed.ending ∨ Refetches env p p.limit call head) := by
  intro plain timed
  refine ⟨inTime_sameButTime timeless, sync_sameButTime (erring_mirrors_delayed timeless) rfl s, ?_⟩
  intro k listed prompt exceeded
  have taken : (sync p).Takes (env.delayed delays lost clock) s (.start w) timed.exchanges timed.ending
      timed.world := Run.takes_course _ _ _
  have sent : (calls timed.exchanges).take (k + 1) = (calls plain.exchanges).take (k + 1) :=
    calls_take_eq timeless prompt
  have made : k < (calls timed.exchanges).length := by
    have lengths := congrArg List.length sent
    rw [List.length_take, List.length_take] at lengths
    omega
  obtain ⟨head, x, tail, split, called, count⟩ := exists_call made
  rw [split, calls_take_of_split called count] at sent
  rw [split] at taken ⊢
  obtain ⟨limit, call, asked⟩ : ∃ limit call, x.request = .remote limit call := by
    cases asked : x.request <;> first | exact ⟨_, _, rfl⟩ | (rw [asked] at called; cases called)
  obtain rfl := sync_limits taken (by simp) asked
  have unanswered := unanswered_of_exceeded taken asked (count ▸ exceeded)
  rw [asked] at sent
  rw [unanswered] at taken ⊢
  obtain ⟨unwiped, ends⟩ := unanswered_ends taken
  refine ⟨head, call, x.asked, x.resumed, tail, rfl, sent.symm, count, unwiped, ends.imp_right fun fetch => ?_⟩
  exact ⟨fetch.bundle, fetch.worked, fun leaves => fetch.dropped fun r c => leaves r c.world⟩

/-- The answer to one call takes longer than a cycle waits by default. -/
def slowAt (count k : Nat) : Duration := if k = count then ⟨60, 0⟩ else ⟨20, 0⟩

theorem covers_slowAt (count : Nat) : keylessProfile.limit.Covers (slowAt count) count := by
  intro k within
  rw [slowAt, if_neg (Nat.ne_of_lt within)]
  decide

/-- The metadata come too late, and the cycle ends with them. -/
theorem keyless_delayed :
    let timed := (sync keylessProfile keylessSession).course (keylessOracle.alone.delayed (slowAt 1)
      (fun _ w => w) fun _ => keylessOracle.reply .clock) (.start ())
    (keylessOracle.alone : Environment Unit Session).Timeless ∧
      ∃ head call asked resumed tail,
        timed.exchanges = head ++ ⟨.remote keylessProfile.limit call, asked, none, resumed⟩ :: tail ∧
        (calls head).length = 1 ∧ Expires keylessProfile.limit call head tail resumed timed.ending := by
  intro timed
  have timeless : (keylessOracle.alone : Environment Unit Session).Timeless :=
    Environment.timeless_of_obliging ⟨fun _ _ => rfl, fun _ _ _ => rfl, fun _ _ _ => rfl⟩
      fun _ _ _ _ => rfl
  obtain ⟨-, -, first⟩ := sync_delayed timeless (slowAt 1) (fun _ w => w)
    (fun _ => keylessOracle.reply .clock) keylessProfile keylessSession ()
  obtain ⟨head, call, asked, resumed, tail, split, -, count, -, ends⟩ :=
    first 1 (by decide +kernel) (covers_slowAt 1) (by decide)
  refine ⟨timeless, head, call, asked, resumed, tail, split, count, ends.resolve_right fun fetch => ?_⟩
  exact fetch.dropped (onlyCancels_alone _).leavesKeys

/-- Someone drops the keys whenever a synchronizer works. -/
def droppingKeys : Environment Unit Session :=
  { keylessOracle with
    touch := fun r _ s =>
      if r.isSynchronize then s.withKeyring { s.book.keyring with bundle := none } else s }

/-- A session with the keys of the epoch and three synchronizers. -/
def busySession : Session :=
  ⟨⟨⟨some "a", some .zero, some (.ofDefault ⟨.fit 32 []⟩)⟩, ⟨some "a", none, none⟩⟩, true,
    [⟨"bookmarks", 0⟩, ⟨"history", 1⟩, ⟨"tabs", 2⟩], false, none, 0⟩

theorem timeless_droppingKeys : droppingKeys.Timeless := by
  refine Environment.timeless_of_obliging ⟨fun _ _ => rfl, fun _ _ _ => rfl, fun _ _ _ => rfl⟩ ?_
  refine fun r _ _ saves => if_neg fun works => ?_
  cases r with
  | synchronize c key => cases saves
  | _ => cases works

theorem droppingKeys_calls :
    (calls ((sync keylessProfile busySession).course droppingKeys ()).exchanges).length = 4 := by
  decide +kernel

/-- Two bundles are fetched for two synchronizers, and the first comes too late. -/
theorem droppingKeys_delayed_calls :
    (calls ((sync keylessProfile busySession).course (droppingKeys.delayed (slowAt 2) (fun _ w => w)
      fun _ => droppingKeys.reply .clock) (.start ())).exchanges).length = 4 := by
  decide +kernel

/-- It is not so that a call is the last of its cycle if it is the first whose answer comes too late. -/
theorem late_answer_not_last :
    ¬∀ (env : Environment Unit Session) (delays : Nat → Duration) (lost : Request → Unit → Unit)
      (clock : Nat → Unit → Instant) (p : Profile) (s : Session) (k : Nat), env.Timeless →
      k < (calls ((sync p s).course env ()).exchanges).length → p.limit.Covers delays k →
      p.limit.exceededBy (delays k) = true →
      (calls ((sync p s).course (env.delayed delays lost clock) (.start ())).exchanges).length = k + 1 := by
  intro last
  have ended := last droppingKeys (slowAt 2) (fun _ w => w) (fun _ => droppingKeys.reply .clock)
    keylessProfile busySession 2 timeless_droppingKeys (by rw [droppingKeys_calls]; decide)
    (covers_slowAt 2) (by decide)
  rw [droppingKeys_delayed_calls] at ended
  cases ended

end Session

end SealedSync
