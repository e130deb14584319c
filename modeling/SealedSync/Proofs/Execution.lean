import SealedSync.Session

/-!
# Executions

An oracle answers the requests of a program. It has a state of its own, so an answer may depend on
everything that happened before. While a program waits, its state may also be touched by others; an
oracle alone leaves it as it is. Each program has exactly one course against an environment, and a
course is taken apart along the program it belongs to.
-/
namespace SealedSync

/-- A request and its reply, between the state in which the program began to wait and the one in
which it went on. -/
structure Exchange (σ : Type) where
  request : Request
  asked : σ
  reply : request.Reply
  resumed : σ

/-- What holds of all requests holds of every exchange. -/
theorem Exchange.forall_of_requests {σ : Type} {exchanges : List (Exchange σ)}
    {requests : List Request} {holds : Request → Prop}
    (same : exchanges.map (·.request) = requests) (all : ∀ r ∈ requests, holds r) :
    ∀ x ∈ exchanges, holds x.request := by
  intro x member
  rw [← same] at all
  exact all x.request (List.mem_map_of_mem member)

/-- The exchange as it looks in another state. -/
def Exchange.map {σ τ : Type} (f : σ → τ) (x : Exchange σ) : Exchange τ :=
  ⟨x.request, f x.asked, x.reply, f x.resumed⟩

inductive Ending (σ α : Type) where
  | returned (value : α) (state : σ)
  | failed (error : SyncError) (state : σ)

namespace Ending

variable {σ α : Type}

def result : Ending σ α → Except SyncError α
  | .returned value _ => .ok value
  | .failed error _ => .error error

def state : Ending σ α → σ
  | .returned _ state => state
  | .failed _ state => state

def ofExcept (result : Except SyncError α) (state : σ) : Ending σ α :=
  match result with
  | .ok value => .returned value state
  | .error error => .failed error state

def map {τ : Type} (f : σ → τ) : Ending σ α → Ending τ α
  | .returned value state => .returned value (f state)
  | .failed error state => .failed error (f state)

@[simp]
theorem result_ofExcept (result : Except SyncError α) (state : σ) :
    (ofExcept result state).result = result := by
  cases result <;> rfl

theorem of_returned_eq_ofExcept {result : Except SyncError α} {value : α} {state last : σ}
    (same : returned value last = ofExcept result state) : result = .ok value ∧ last = state := by
  cases result with
  | error error => cases same
  | ok found =>
      cases same
      exact ⟨rfl, rfl⟩

theorem map_ofExcept {τ : Type} (f : σ → τ) (result : Except SyncError α) (state : σ) :
    (ofExcept result state).map f = ofExcept result (f state) := by
  cases result <;> rfl

@[simp]
theorem state_ofExcept (result : Except SyncError α) (state : σ) :
    (ofExcept result state).state = state := by
  cases result <;> rfl

end Ending

structure Oracle (ω : Type) where
  reply : (request : Request) → ω → request.Reply
  next : Request → ω → ω

/-- An oracle together with what others do to the state of a program that waits. -/
structure Environment (ω σ : Type) extends Oracle ω where
  touch : Request → ω → σ → σ

/-- The environment in which nobody else touches the state. -/
def Oracle.alone {ω σ : Type} (oracle : Oracle ω) : Environment ω σ :=
  { oracle with touch := fun _ _ state => state }

@[simp]
theorem Oracle.toOracle_alone {ω σ : Type} (oracle : Oracle ω) :
    (oracle.alone : Environment ω σ).toOracle = oracle := rfl

@[simp]
theorem Oracle.touch_alone {ω σ : Type} (oracle : Oracle ω) (request : Request) (world : ω)
    (state : σ) : oracle.alone.touch request world state = state := rfl

def Environment.exchange {ω σ : Type} (env : Environment ω σ) (request : Request) (state : σ)
    (world : ω) : Exchange σ :=
  ⟨request, state, env.reply request world, env.touch request world state⟩

/-- The state of the oracle after some exchanges. -/
def Oracle.world {ω σ : Type} (oracle : Oracle ω) (before : ω) (exchanges : List (Exchange σ)) : ω :=
  exchanges.foldl (fun world x => oracle.next x.request world) before

theorem Oracle.world_append {ω σ : Type} (oracle : Oracle ω) (before : ω) (head tail : List (Exchange σ)) :
    oracle.world before (head ++ tail) = oracle.world (oracle.world before head) tail :=
  List.foldl_append

/-- What holds at first still holds after exchanges that keep it. -/
theorem Oracle.world_preserves {ω σ : Type} {oracle : Oracle ω} {holds : ω → Prop} {before : ω}
    {exchanges : List (Exchange σ)}
    (kept : ∀ x ∈ exchanges, ∀ world, holds world → holds (oracle.next x.request world))
    (initially : holds before) : holds (oracle.world before exchanges) := by
  induction exchanges generalizing before with
  | nil => exact initially
  | cons x rest ih =>
      have first := kept x List.mem_cons_self before initially
      exact ih (fun y member => kept y (List.mem_cons_of_mem _ member)) first

/-- What becomes of a program: how it ends, in which state it leaves the oracle, and what was
exchanged between them. -/
structure Course (ω σ α : Type) where
  ending : Ending σ α
  world : ω
  exchanges : List (Exchange σ)

/-- The courses end the same, in related worlds, and the same is asked for in them. -/
structure Course.Parallel {ω υ σ α : Type} (related : ω → υ → Prop) (c : Course ω σ α)
    (d : Course υ σ α) : Prop where
  ending : d.ending = c.ending
  world : related c.world d.world
  requests : d.exchanges.map (·.request) = c.exchanges.map (·.request)

namespace Run

variable {ω σ τ α β : Type}

def course (env : Environment ω σ) : Run σ α → ω → Course ω σ α
  | .returned value state, world => ⟨.returned value state, world, []⟩
  | .failed error state, world => ⟨.failed error state, world, []⟩
  | .noted _ rest, world => rest.course env world
  | .waiting request state resume, world =>
      let rest := (resume (env.reply request world) (env.touch request world state)).course env
        (env.next request world)
      ⟨rest.ending, rest.world, env.exchange request state world :: rest.exchanges⟩

/-- A run takes the given exchanges from one state of the oracle to another and ends as given. -/
def Takes (env : Environment ω σ) (run : Run σ α) (before : ω) (exchanges : List (Exchange σ))
    (ending : Ending σ α) (after : ω) : Prop :=
  run.course env before = ⟨ending, after, exchanges⟩

theorem takes_course (env : Environment ω σ) (run : Run σ α) (before : ω) :
    run.Takes env before (run.course env before).exchanges (run.course env before).ending
      (run.course env before).world := rfl

variable {env : Environment ω σ} {before after : ω} {exchanges : List (Exchange σ)}
  {ending : Ending σ α}

@[simp]
theorem takes_returned {value : α} {state : σ} :
    (Run.returned value state).Takes env before exchanges ending after ↔
      exchanges = [] ∧ ending = .returned value state ∧ after = before := by
  simp only [Takes, course, Course.mk.injEq]
  grind

@[simp]
theorem takes_failed {error : SyncError} {state : σ} :
    (Run.failed error state).Takes env before exchanges ending after ↔
      exchanges = [] ∧ ending = .failed error state ∧ after = before := by
  simp only [Takes, course, Course.mk.injEq]
  grind

@[simp]
theorem takes_noted {event : Event} {rest : Run σ α} :
    (Run.noted event rest).Takes env before exchanges ending after ↔
      rest.Takes env before exchanges ending after := Iff.rfl

@[simp]
theorem takes_waiting {request : Request} {state : σ} {resume : request.Reply → σ → Run σ α} :
    (Run.waiting request state resume).Takes env before exchanges ending after ↔
      ∃ rest, exchanges = env.exchange request state before :: rest ∧
        (resume (env.reply request before) (env.touch request before state)).Takes env
          (env.next request before) rest ending after := by
  constructor
  · intro taken
    simp only [Takes, course, Course.mk.injEq] at taken
    exact ⟨_, taken.2.2.symm, by simp only [Takes, ← taken.1, ← taken.2.1]⟩
  · rintro ⟨rest, rfl, taken⟩
    simp only [Takes] at taken
    simp only [Takes, course, taken]

/-- A run that goes on with another either hands its value over or fails before that. -/
theorem takes_bind {first : Run σ α} {next : α → Program σ β} {ending : Ending σ β} :
    (first.bind next).Takes env before exchanges ending after ↔
      (∃ value state middle head tail, first.Takes env before head (.returned value state) middle ∧
        (next value state).Takes env middle tail ending after ∧ exchanges = head ++ tail) ∨
      (∃ error state, first.Takes env before exchanges (.failed error state) after ∧
        ending = .failed error state) := by
  induction first generalizing before exchanges with
  | returned value state =>
      simp only [Run.bind, takes_returned, takes_returned]
      constructor
      · intro taken
        exact .inl ⟨value, state, before, [], exchanges, ⟨rfl, rfl, rfl⟩, taken, rfl⟩
      · rintro (⟨_, _, _, _, _, ⟨rfl, same, rfl⟩, taken, rfl⟩ | ⟨_, _, ⟨_, impossible, _⟩, _⟩)
        · cases same
          exact taken
        · cases impossible
  | failed error state =>
      simp only [Run.bind, takes_failed]
      constructor
      · rintro ⟨rfl, rfl, rfl⟩
        exact .inr ⟨error, state, ⟨rfl, rfl, rfl⟩, rfl⟩
      · rintro (⟨_, _, _, _, _, ⟨_, impossible, _⟩, _, _⟩ | ⟨_, _, ⟨rfl, same, rfl⟩, rfl⟩)
        · cases impossible
        · cases same
          exact ⟨rfl, rfl, rfl⟩
  | noted event rest ih => simpa only [Run.bind, takes_noted] using ih
  | waiting request state resume ih =>
      simp only [Run.bind, takes_waiting, ih]
      constructor
      · rintro ⟨_, rfl, ⟨value, last, middle, head, tail, taken, rest, rfl⟩ | ⟨error, last, taken, rfl⟩⟩
        · exact .inl ⟨value, last, middle, _, tail, ⟨head, rfl, taken⟩, rest, rfl⟩
        · exact .inr ⟨error, last, ⟨_, rfl, taken⟩, rfl⟩
      · rintro (⟨value, last, middle, _, tail, ⟨head, rfl, taken⟩, rest, rfl⟩ |
          ⟨error, last, ⟨rest, rfl, taken⟩, rfl⟩)
        · exact ⟨head ++ tail, rfl, .inl ⟨value, last, middle, head, tail, taken, rest, rfl⟩⟩
        · exact ⟨rest, rfl, .inr ⟨error, last, taken, rfl⟩⟩

theorem takes_attempt {run : Run σ α} {ending : Ending σ (Except SyncError α)} :
    run.attempt.Takes env before exchanges ending after ↔
      ∃ inner, run.Takes env before exchanges inner after ∧
        ending = .returned inner.result inner.state := by
  induction run generalizing before exchanges with
  | returned value state =>
      simp only [Run.attempt, takes_returned]
      constructor
      · rintro ⟨rfl, rfl, rfl⟩
        exact ⟨_, ⟨rfl, rfl, rfl⟩, rfl⟩
      · rintro ⟨_, ⟨rfl, rfl, rfl⟩, rfl⟩
        exact ⟨rfl, rfl, rfl⟩
  | failed error state =>
      simp only [Run.attempt, takes_failed, takes_returned]
      constructor
      · rintro ⟨rfl, rfl, rfl⟩
        exact ⟨_, ⟨rfl, rfl, rfl⟩, rfl⟩
      · rintro ⟨_, ⟨rfl, rfl, rfl⟩, rfl⟩
        exact ⟨rfl, rfl, rfl⟩
  | noted event rest ih => simpa only [Run.attempt, takes_noted] using ih
  | waiting request state resume ih =>
      simp only [Run.attempt, takes_waiting, ih]
      grind

/-- The course of a run that goes on with another. -/
theorem course_bind (env : Environment ω σ) (first : Run σ α) (next : α → Program σ β) (before : ω) :
    (first.bind next).course env before =
      let c := first.course env before
      match c.ending with
      | .returned value state =>
          let rest := (next value state).course env c.world
          ⟨rest.ending, rest.world, c.exchanges ++ rest.exchanges⟩
      | .failed error state => ⟨.failed error state, c.world, c.exchanges⟩ := by
  induction first generalizing before with
  | returned value state => rfl
  | failed error state => rfl
  | noted event rest ih => exact ih before
  | waiting request state resume ih =>
      simp only [Run.bind, course, ih]
      split <;> rfl

/-- Runs that go the same way go on in the same way. -/
theorem parallel_bind {υ : Type} {env : Environment ω σ} {env' : Environment υ σ} {related : ω → υ → Prop}
    {w : ω} {w' : υ} {first : Run σ α} {next : α → Program σ β}
    (parallel : (first.course env w).Parallel related (first.course env' w'))
    (rest : ∀ value state v v', related v v' →
      ((next value state).course env v).Parallel related ((next value state).course env' v')) :
    ((first.bind next).course env w).Parallel related ((first.bind next).course env' w') := by
  obtain ⟨ending, world, requests⟩ := parallel
  rw [course_bind, course_bind]
  simp only [ending]
  cases (first.course env w).ending with
  | failed e last => exact ⟨rfl, world, requests⟩
  | returned value last =>
      obtain ⟨ending, later, further⟩ := rest value last _ _ world
      refine ⟨ending, later, ?_⟩
      simp only [List.map_append, requests, further]

theorem course_attempt (env : Environment ω σ) (run : Run σ α) (before : ω) :
    run.attempt.course env before =
      let c := run.course env before
      ⟨.returned c.ending.result c.ending.state, c.world, c.exchanges⟩ := by
  induction run generalizing before with
  | returned value state => rfl
  | failed error state => rfl
  | noted event rest ih => exact ih before
  | waiting request state resume ih =>
      simp only [Run.attempt, course, ih]

/-- The run waits and ends only in states of one kind and makes only requests of one kind, as long
as others keep to that kind of state while it waits. -/
def Keeps (kind : σ → Prop) (allowed : Request → Prop) : Run σ α → Prop
  | .returned _ state => kind state
  | .failed _ state => kind state
  | .noted _ rest => rest.Keeps kind allowed
  | .waiting request state resume =>
      kind state ∧ allowed request ∧
        ∀ reply state, kind state → (resume reply state).Keeps kind allowed

variable {kind : σ → Prop} {allowed : Request → Prop}

theorem Keeps.bind {first : Run σ α} {next : α → Program σ β}
    (kept : first.Keeps kind allowed)
    (rest : ∀ value state, kind state → (next value state).Keeps kind allowed) :
    (first.bind next).Keeps kind allowed := by
  induction first with
  | returned value state => exact rest value state kept
  | failed error state => exact kept
  | noted event tail ih => exact ih kept
  | waiting request state resume ih =>
      exact ⟨kept.1, kept.2.1, fun reply state holds => ih reply state (kept.2.2 reply state holds)⟩

theorem Keeps.attempt {run : Run σ α} (kept : run.Keeps kind allowed) :
    run.attempt.Keeps kind allowed := by
  induction run with
  | returned value state => exact kept
  | failed error state => exact kept
  | noted event tail ih => exact ih kept
  | waiting request state resume ih =>
      exact ⟨kept.1, kept.2.1, fun reply state holds => ih reply state (kept.2.2 reply state holds)⟩

/-- A part of the state that the kind does not depend on may change in any way. -/
theorem Keeps.zoom {part : τ → σ} {put : σ → τ → τ} {run : Run σ α} {kind : τ → Prop}
    (kept : run.Keeps (fun _ => True) allowed)
    (indifferent : ∀ state whole, kind whole → kind (put state whole)) {whole : τ}
    (holds : kind whole) : (run.zoom part put whole).Keeps kind allowed := by
  induction run generalizing whole with
  | returned value state => exact indifferent state whole holds
  | failed error state => exact indifferent state whole holds
  | noted event tail ih => exact ih kept holds
  | waiting request state resume ih =>
      exact ⟨indifferent state whole holds, kept.2.1,
        fun reply whole holds => ih reply _ (kept.2.2 reply _ trivial) holds⟩

theorem Keeps.takes {run : Run σ α} (kept : run.Keeps kind allowed)
    (others : ∀ request world state, kind state → kind (env.touch request world state))
    (taken : run.Takes env before exchanges ending after) :
    (∀ x ∈ exchanges, kind x.asked ∧ allowed x.request ∧ kind x.resumed) ∧ kind ending.state := by
  induction run generalizing before exchanges with
  | returned value state =>
      obtain ⟨rfl, rfl, rfl⟩ := takes_returned.mp taken
      exact ⟨by simp, kept⟩
  | failed error state =>
      obtain ⟨rfl, rfl, rfl⟩ := takes_failed.mp taken
      exact ⟨by simp, kept⟩
  | noted event rest ih => exact ih kept taken
  | waiting request state resume ih =>
      obtain ⟨rest, rfl, continued⟩ := takes_waiting.mp taken
      have resumed := others request before state kept.1
      obtain ⟨inside, last⟩ := ih _ _ (kept.2.2 _ _ resumed) continued
      refine ⟨fun x member => ?_, last⟩
      rcases List.mem_cons.mp member with rfl | member
      · exact ⟨kept.1, kept.2.1, resumed⟩
      · exact inside x member

theorem Takes.exchange_eq {run : Run σ α} (taken : run.Takes env before exchanges ending after) :
    ∀ x ∈ exchanges, ∃ state world, x = env.exchange x.request state world := by
  induction run generalizing before exchanges with
  | returned value state => simp [(takes_returned.mp taken).1]
  | failed error state => simp [(takes_failed.mp taken).1]
  | noted event rest ih => exact ih taken
  | waiting request state resume ih =>
      obtain ⟨rest, rfl, continued⟩ := takes_waiting.mp taken
      intro x member
      rcases List.mem_cons.mp member with rfl | member
      · exact ⟨state, before, rfl⟩
      · exact ih _ _ continued x member

theorem Takes.world_eq {run : Run σ α} (taken : run.Takes env before exchanges ending after) :
    after = env.world before exchanges := by
  induction run generalizing before exchanges with
  | returned value state =>
      obtain ⟨rfl, rfl, rfl⟩ := takes_returned.mp taken
      rfl
  | failed error state =>
      obtain ⟨rfl, rfl, rfl⟩ := takes_failed.mp taken
      rfl
  | noted event rest ih => exact ih taken
  | waiting request state resume ih =>
      obtain ⟨rest, rfl, continued⟩ := takes_waiting.mp taken
      have later := ih _ _ continued
      exact later

theorem bind_returned (run : Run σ α) : run.bind .returned = run := by
  induction run with
  | returned value state => rfl
  | failed error state => rfl
  | noted event rest ih => simp only [Run.bind, ih]
  | waiting request state resume ih => simp only [Run.bind, ih]

theorem bind_bind {γ : Type} (run : Run σ α) (next : α → Program σ β) (last : β → Program σ γ) :
    (run.bind next).bind last = run.bind fun value state => (next value state).bind last := by
  induction run with
  | returned value state => rfl
  | failed error state => rfl
  | noted event rest ih => simp only [Run.bind, ih]
  | waiting request state resume ih => simp only [Run.bind, ih]

/-- Work on a part of a state splits where the program on the part splits. -/
theorem zoom_bind {part : τ → σ} {put : σ → τ → τ} (part_put : ∀ state whole, part (put state whole) = state)
    (put_put : ∀ state state' whole, put state (put state' whole) = put state whole)
    (first : Run σ α) (next : α → Program σ β) (whole : τ) :
    (first.bind next).zoom part put whole =
      (first.zoom part put whole).bind fun value => Program.zoom part put (next value) := by
  have moved (run : Run σ β) (state : σ) (whole : τ) :
      run.zoom part put (put state whole) = run.zoom part put whole := by
    induction run generalizing whole with
    | returned value state => simp only [Run.zoom, put_put]
    | failed error state => simp only [Run.zoom, put_put]
    | noted event rest ih => simp only [Run.zoom, ih]
    | waiting request state resume ih => simp only [Run.zoom, put_put]
  induction first generalizing whole with
  | returned value state => simp only [Run.bind, Run.zoom, Program.zoom, part_put, moved]
  | failed error state => rfl
  | noted event rest ih => simp only [Run.bind, Run.zoom, ih]
  | waiting request state resume ih => simp only [Run.bind, Run.zoom, ih]

/-- A part of a part is a part. -/
theorem zoom_zoom {υ : Type} {part : τ → σ} {put : σ → τ → τ} {outer : υ → τ} {replace : τ → υ → υ}
    (run : Run σ α) (whole : υ) :
    (run.zoom part put (outer whole)).zoom outer replace whole =
      run.zoom (fun whole => part (outer whole))
        (fun state whole => replace (put state (outer whole)) whole) whole := by
  induction run generalizing whole with
  | returned value state => rfl
  | failed error state => rfl
  | noted event rest ih => simp only [Run.zoom, ih]
  | waiting request state resume ih => simp only [Run.zoom, ih]

/-- A run on a part of a state that nobody else touches is a run on the part alone. -/
theorem takes_zoom {oracle : Oracle ω} {part : τ → σ} {put : σ → τ → τ}
    (part_put : ∀ state whole, part (put state whole) = state)
    (put_put : ∀ state state' whole, put state (put state' whole) = put state whole)
    {run : Run σ α} {whole : τ} {exchanges : List (Exchange τ)} {ending : Ending τ α}
    (taken : (run.zoom part put whole).Takes oracle.alone before exchanges ending after) :
    ∃ called inner, run.Takes oracle.alone before called inner after ∧
      exchanges = called.map (·.map (put · whole)) ∧ ending = inner.map (put · whole) := by
  induction run generalizing before exchanges whole with
  | returned value state =>
      obtain ⟨rfl, rfl, rfl⟩ := takes_returned.mp taken
      exact ⟨[], _, takes_returned.mpr ⟨rfl, rfl, rfl⟩, rfl, rfl⟩
  | failed error state =>
      obtain ⟨rfl, rfl, rfl⟩ := takes_failed.mp taken
      exact ⟨[], _, takes_failed.mpr ⟨rfl, rfl, rfl⟩, rfl, rfl⟩
  | noted event rest ih => exact ih taken
  | waiting request state resume ih =>
      obtain ⟨rest, rfl, continued⟩ := takes_waiting.mp taken
      simp only [Oracle.toOracle_alone, Oracle.touch_alone, part_put] at continued
      obtain ⟨called, inner, run, rfl, rfl⟩ := ih _ _ continued
      refine ⟨_ :: called, inner, takes_waiting.mpr ⟨called, rfl, run⟩, ?_, ?_⟩
      · simp only [put_put]
        rfl
      · simp only [put_put]

end Run

namespace Program

variable {ω σ τ α β : Type}

instance : LawfulMonad (Program σ) := .mk' _
  (fun program => funext fun state => Run.bind_returned (program state))
  (fun _ _ => rfl)
  (fun program next last => funext fun state => Run.bind_bind (program state) next last)

theorem zoom_bind {part : τ → σ} {put : σ → τ → τ} (part_put : ∀ state whole, part (put state whole) = state)
    (put_put : ∀ state state' whole, put state (put state' whole) = put state whole)
    (program : Program σ α) (next : α → Program σ β) :
    (program >>= next).zoom part put = program.zoom part put >>= fun value =>
      (next value).zoom part put :=
  funext fun whole => Run.zoom_bind part_put put_put (program (part whole)) next whole

def Keeps (kind : σ → Prop) (allowed : Request → Prop) (program : Program σ α) : Prop :=
  ∀ state, kind state → (program state).Keeps kind allowed

section Keeps

variable {kind : σ → Prop} {allowed : Request → Prop}

theorem Keeps.pure (value : α) : (pure value : Program σ α).Keeps kind allowed :=
  fun _ holds => holds

theorem Keeps.fail (error : SyncError) : (fail error : Program σ α).Keeps kind allowed :=
  fun _ holds => holds

theorem Keeps.note (event : Event) : (note event : Program σ Unit).Keeps kind allowed :=
  fun _ holds => holds

theorem Keeps.get : (get : Program σ σ).Keeps kind allowed := fun _ holds => holds

theorem Keeps.modify {f : σ → σ} (kept : ∀ state, kind state → kind (f state)) :
    (modify f).Keeps kind allowed := kept

theorem Keeps.ofExcept (result : Except SyncError α) :
    (ofExcept result : Program σ α).Keeps kind allowed := by
  cases result with
  | ok value => exact Keeps.pure value
  | error error => exact Keeps.fail error

theorem Keeps.request {r : Request} (permitted : allowed r) :
    (request r : Program σ r.Reply).Keeps kind allowed :=
  fun _ holds => ⟨holds, permitted, fun _ _ holds => holds⟩

theorem Keeps.bind {first : Program σ α} {next : α → Program σ β} (kept : first.Keeps kind allowed)
    (rest : ∀ value, (next value).Keeps kind allowed) : (first >>= next).Keeps kind allowed :=
  fun state holds => (kept state holds).bind rest

theorem Keeps.attempt {program : Program σ α} (kept : program.Keeps kind allowed) :
    program.attempt.Keeps kind allowed := fun state holds => (kept state holds).attempt

theorem Keeps.zoom {part : τ → σ} {put : σ → τ → τ} {program : Program σ α} {kind : τ → Prop}
    (kept : program.Keeps (fun _ => True) allowed)
    (indifferent : ∀ state whole, kind whole → kind (put state whole)) :
    (program.zoom part put).Keeps kind allowed :=
  fun whole holds => (kept (part whole) trivial).zoom indifferent holds

theorem Keeps.remote {limit : Duration} {operation : String} {call : RemoteCall}
    (permitted : allowed (.remote limit call)) :
    (remote limit operation call : Program σ call.Answer).Keeps kind allowed := by
  refine Keeps.bind (Keeps.request permitted) fun reply => ?_
  match reply with
  | some (.ok answer) => exact Keeps.pure answer
  | some (.error error) => exact Keeps.fail error
  | none => exact Keeps.fail _

end Keeps

/-- A program takes the given exchanges from a state and ends as given. -/
def Takes (env : Environment ω σ) (program : Program σ α) (state : σ) (before : ω)
    (exchanges : List (Exchange σ)) (ending : Ending σ α) (after : ω) : Prop :=
  (program state).Takes env before exchanges ending after

theorem Keeps.takes {kind : σ → Prop} {allowed : Request → Prop} {env : Environment ω σ}
    {program : Program σ α} {state : σ} {before after : ω} {exchanges : List (Exchange σ)}
    {ending : Ending σ α} (kept : program.Keeps kind allowed) (holds : kind state)
    (others : ∀ request world state, kind state → kind (env.touch request world state))
    (taken : program.Takes env state before exchanges ending after) :
    (∀ x ∈ exchanges, kind x.asked ∧ allowed x.request ∧ kind x.resumed) ∧ kind ending.state :=
  (kept state holds).takes others taken

variable {env : Environment ω σ} {before after : ω} {exchanges : List (Exchange σ)} {state : σ}

theorem Takes.exchange_eq {program : Program σ α} {ending : Ending σ α}
    (taken : program.Takes env state before exchanges ending after) :
    ∀ x ∈ exchanges, ∃ state world, x = env.exchange x.request state world :=
  Run.Takes.exchange_eq taken

theorem Takes.world_eq {program : Program σ α} {ending : Ending σ α}
    (taken : program.Takes env state before exchanges ending after) :
    after = env.world before exchanges :=
  Run.Takes.world_eq taken

@[simp]
theorem takes_pure {value : α} {ending : Ending σ α} :
    (pure value : Program σ α).Takes env state before exchanges ending after ↔
      exchanges = [] ∧ ending = .returned value state ∧ after = before :=
  Run.takes_returned

@[simp]
theorem takes_modify {f : σ → σ} {ending : Ending σ Unit} :
    (modify f).Takes env state before exchanges ending after ↔
      exchanges = [] ∧ ending = .returned () (f state) ∧ after = before :=
  Run.takes_returned

@[simp]
theorem takes_fail {error : SyncError} {ending : Ending σ α} :
    (fail error : Program σ α).Takes env state before exchanges ending after ↔
      exchanges = [] ∧ ending = .failed error state ∧ after = before :=
  Run.takes_failed

theorem takes_fail_bind {error : SyncError} {next : α → Program σ β} {ending : Ending σ β} :
    (fail error >>= next).Takes env state before exchanges ending after ↔
      exchanges = [] ∧ ending = .failed error state ∧ after = before :=
  Run.takes_failed

theorem takes_ofExcept {result : Except SyncError α} {ending : Ending σ α} :
    (ofExcept result : Program σ α).Takes env state before exchanges ending after ↔
      exchanges = [] ∧ ending = .ofExcept result state ∧ after = before := by
  cases result with
  | ok value => exact Run.takes_returned
  | error error => exact Run.takes_failed

@[simp]
theorem takes_note_bind {event : Event} {next : Unit → Program σ α} {ending : Ending σ α} :
    (note event >>= next).Takes env state before exchanges ending after ↔
      (next ()).Takes env state before exchanges ending after := Iff.rfl

@[simp]
theorem takes_get_bind {next : σ → Program σ α} {ending : Ending σ α} :
    (get >>= next).Takes env state before exchanges ending after ↔
      (next state).Takes env state before exchanges ending after := Iff.rfl

@[simp]
theorem takes_modify_bind {f : σ → σ} {next : Unit → Program σ α} {ending : Ending σ α} :
    (modify f >>= next).Takes env state before exchanges ending after ↔
      (next ()).Takes env (f state) before exchanges ending after := Iff.rfl

theorem takes_request_bind {r : Request} {next : r.Reply → Program σ α} {ending : Ending σ α} :
    (request r >>= next).Takes env state before exchanges ending after ↔
      ∃ rest, exchanges = env.exchange r state before :: rest ∧
        (next (env.reply r before)).Takes env (env.touch r before state) (env.next r before) rest
          ending after :=
  Run.takes_waiting

theorem takes_bind {first : Program σ α} {next : α → Program σ β} {ending : Ending σ β} :
    (first >>= next).Takes env state before exchanges ending after ↔
      (∃ value middle world head tail,
        first.Takes env state before head (.returned value middle) world ∧
          (next value).Takes env middle world tail ending after ∧ exchanges = head ++ tail) ∨
      (∃ error last, first.Takes env state before exchanges (.failed error last) after ∧
        ending = .failed error last) :=
  Run.takes_bind

/-- The exchanges of a program that goes on with another are those of the first, then those of the
other if the first returns. -/
theorem Takes.split {first : Program σ α} {next : α → Program σ β} {ending : Ending σ β}
    (taken : (first >>= next).Takes env state before exchanges ending after) :
    ∃ inner middle head tail, first.Takes env state before head inner middle ∧
      exchanges = head ++ tail ∧
      match inner with
      | .returned value last => (next value).Takes env last middle tail ending after
      | .failed error last => tail = [] ∧ ending = .failed error last ∧ after = middle := by
  rcases takes_bind.mp taken with ⟨_, _, _, head, tail, run, rest, rfl⟩ | ⟨_, _, run, rfl⟩
  · exact ⟨_, _, head, tail, run, rfl, rest⟩
  · exact ⟨_, _, exchanges, [], run, (List.append_nil _).symm, rfl, rfl, rfl⟩

theorem Takes.join {first : Program σ α} {next : α → Program σ β} {inner : Ending σ α} {middle : ω}
    {head tail : List (Exchange σ)} {ending : Ending σ β}
    (continued : match inner with
      | .returned value last => (next value).Takes env last middle tail ending after
      | .failed error last => tail = [] ∧ ending = .failed error last ∧ after = middle)
    (taken : first.Takes env state before head inner middle) :
    (first >>= next).Takes env state before (head ++ tail) ending after := by
  cases inner with
  | returned value last =>
      exact takes_bind.mpr (.inl ⟨value, last, middle, head, tail, taken, continued, rfl⟩)
  | failed error last =>
      obtain ⟨rfl, rfl, rfl⟩ := continued
      rw [List.append_nil]
      exact takes_bind.mpr (.inr ⟨error, last, taken, rfl⟩)

/-- A program whose course is known goes on where it returns. -/
theorem takes_bind_of_result {first : Program σ α} {next : α → Program σ β} {ending : Ending σ β}
    {called : List (Exchange σ)} {result : Except SyncError α} {last : σ} {world : ω} :
    (∀ exchanges ending after, first.Takes env state before exchanges ending after ↔
      exchanges = called ∧ ending = .ofExcept result last ∧ after = world) →
    ((first >>= next).Takes env state before exchanges ending after ↔
      ∃ rest, exchanges = called ++ rest ∧
        match result with
        | .ok value => (next value).Takes env last world rest ending after
        | .error error => rest = [] ∧ ending = .failed error last ∧ after = world) := by
  intro known
  simp only [takes_bind, known]
  cases result with
  | ok value =>
      constructor
      · rintro (⟨_, _, _, _, tail, ⟨rfl, same, rfl⟩, taken, rfl⟩ | ⟨_, _, ⟨_, impossible, _⟩, _⟩)
        · cases same
          exact ⟨tail, rfl, taken⟩
        · cases impossible
      · rintro ⟨tail, rfl, taken⟩
        exact .inl ⟨_, _, _, _, tail, ⟨rfl, rfl, rfl⟩, taken, rfl⟩
  | error error =>
      constructor
      · rintro (⟨_, _, _, _, _, ⟨_, impossible, _⟩, _, _⟩ | ⟨_, _, ⟨rfl, same, rfl⟩, rfl⟩)
        · cases impossible
        · cases same
          exact ⟨[], by simp, rfl, rfl, rfl⟩
      · rintro ⟨_, rfl, rfl, rfl, rfl⟩
        exact .inr ⟨_, _, ⟨by simp, rfl, rfl⟩, rfl⟩

theorem takes_attempt_bind {program : Program σ α} {next : Except SyncError α → Program σ β}
    {ending : Ending σ β} :
    (program.attempt >>= next).Takes env state before exchanges ending after ↔
      ∃ inner world head tail, program.Takes env state before head inner world ∧
        (next inner.result).Takes env inner.state world tail ending after ∧
        exchanges = head ++ tail := by
  simp only [takes_bind]
  constructor
  · rintro (⟨_, _, world, head, tail, taken, rest, rfl⟩ | ⟨_, _, taken, _⟩)
    · obtain ⟨inner, run, same⟩ := Run.takes_attempt.mp taken
      cases same
      exact ⟨inner, world, head, tail, run, rest, rfl⟩
    · obtain ⟨_, _, same⟩ := Run.takes_attempt.mp taken
      cases same
  · rintro ⟨inner, world, head, tail, taken, rest, rfl⟩
    exact .inl ⟨_, _, world, head, tail, Run.takes_attempt.mpr ⟨inner, taken, rfl⟩, rest, rfl⟩

/-- A request whose reply alone decides how the program ends. -/
theorem takes_call {r : Request} {result : r.Reply → Except SyncError α} {ending : Ending σ α} :
    (request r >>= fun reply => ofExcept (result reply)).Takes env state before exchanges ending
        after ↔
      exchanges = [env.exchange r state before] ∧
        ending = .ofExcept (result (env.reply r before)) (env.touch r before state) ∧
        after = env.next r before := by
  simp only [takes_request_bind, takes_ofExcept]
  constructor
  · rintro ⟨_, rfl, rfl, rfl, rfl⟩
    exact ⟨rfl, rfl, rfl⟩
  · rintro ⟨rfl, rfl, rfl⟩
    exact ⟨[], rfl, rfl, rfl, rfl⟩

/-- A request whose reply, be it a failure, alone decides how the program ends. -/
theorem takes_attempt_call {r : Request} (result : r.Reply → Except SyncError α)
    {next : Except SyncError α → Program σ β} (decided : Except SyncError α → Except SyncError β)
    {ending : Ending σ β}
    (decides : ∀ fetched last world rest,
      (next fetched).Takes env last world rest ending after ↔
        rest = [] ∧ ending = .ofExcept (decided fetched) last ∧ after = world) :
    ((request r >>= fun reply => ofExcept (result reply)).attempt >>= next).Takes env state before
        exchanges ending after ↔
      exchanges = [env.exchange r state before] ∧
        ending = .ofExcept (decided (result (env.reply r before))) (env.touch r before state) ∧
        after = env.next r before := by
  simp only [takes_attempt_bind, takes_call, decides]
  constructor
  · rintro ⟨_, _, _, _, ⟨rfl, rfl, rfl⟩, ⟨rfl, same, rfl⟩, rfl⟩
    exact ⟨rfl, by simpa using same, rfl⟩
  · rintro ⟨rfl, same, rfl⟩
    exact ⟨_, _, _, [], ⟨rfl, rfl, rfl⟩, ⟨rfl, by simpa using same, rfl⟩, rfl⟩

/-- What a remote call comes to, given its reply. -/
def outcome (limit : Duration) (operation : String) :
    Option (Except SyncError α) → Except SyncError α
  | some result => result
  | none => .error (.timeout operation limit)

theorem remote_eq (limit : Duration) (operation : String) (call : RemoteCall) :
    (remote limit operation call : Program σ call.Answer) =
      request (.remote limit call) >>= fun reply => ofExcept (outcome limit operation reply) := by
  funext state
  refine congrArg (Run.waiting (.remote limit call) state) (funext fun reply => ?_)
  match reply with
  | some (.ok _) => rfl
  | some (.error _) => rfl
  | none => rfl

end Program

end SealedSync
