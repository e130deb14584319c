import SealedSync.Event
import SealedSync.Request

/-!
# Programs

A program works on a state and runs until it returns, fails, or waits for the reply to a request.
While it waits its state is open to others, so it resumes with the reply and with the state as it is
by then; between two waits nothing else happens.
-/
namespace SealedSync

inductive Run (σ α : Type) where
  | returned (value : α) (state : σ)
  | failed (error : SyncError) (state : σ)
  | noted (event : Event) (rest : Run σ α)
  | waiting (request : Request) (state : σ) (resume : request.Reply → σ → Run σ α)

def Program (σ α : Type) := σ → Run σ α

namespace Run

variable {σ τ α β : Type}

/-- Goes on with another program where this one returns. -/
def bind : Run σ α → (α → Program σ β) → Run σ β
  | .returned value state, next => next value state
  | .failed error state, _ => .failed error state
  | .noted event rest, next => .noted event (rest.bind next)
  | .waiting request state resume, next =>
      .waiting request state fun reply state => (resume reply state).bind next

/-- Returns the error instead of failing. -/
def attempt : Run σ α → Run σ (Except SyncError α)
  | .returned value state => .returned (.ok value) state
  | .failed error state => .returned (.error error) state
  | .noted event rest => .noted event rest.attempt
  | .waiting request state resume =>
      .waiting request state fun reply state => (resume reply state).attempt

/-- Runs on a part of a larger state. -/
def zoom (part : τ → σ) (put : σ → τ → τ) (whole : τ) : Run σ α → Run τ α
  | .returned value state => .returned value (put state whole)
  | .failed error state => .failed error (put state whole)
  | .noted event rest => .noted event (rest.zoom part put whole)
  | .waiting request state resume =>
      .waiting request (put state whole) fun reply whole =>
        (resume reply (part whole)).zoom part put whole

end Run

namespace Program

variable {σ τ α β : Type}

instance : Monad (Program σ) where
  pure a := fun state => .returned a state
  bind program next := fun state => (program state).bind next

def fail (error : SyncError) : Program σ α := fun state => .failed error state

def note (event : Event) : Program σ Unit := fun state => .noted event (.returned () state)

def request (r : Request) : Program σ r.Reply :=
  fun state => .waiting r state fun reply state => .returned reply state

def get : Program σ σ := fun state => .returned state state

def modify (f : σ → σ) : Program σ Unit := fun state => .returned () (f state)

def attempt (program : Program σ α) : Program σ (Except SyncError α) :=
  fun state => (program state).attempt

def zoom (part : τ → σ) (put : σ → τ → τ) (program : Program σ α) : Program τ α :=
  fun whole => (program (part whole)).zoom part put whole

def ofExcept : Except SyncError α → Program σ α
  | .ok a => pure a
  | .error e => fail e

/-- Makes a remote call under a time limit. -/
def remote (limit : Duration) (operation : String) (call : RemoteCall) :
    Program σ call.Answer := do
  match ← request (.remote limit call) with
  | some (.ok answer) => pure answer
  | some (.error e) => fail e
  | none => fail (.timeout operation limit)

end Program

end SealedSync
