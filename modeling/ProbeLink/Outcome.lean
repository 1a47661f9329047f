import ProbeLink.Bytes
import ProbeLink.Notice

/-!
# ProbeLink.Outcome

**What a call did**: its result, the state it leaves, and everything that happened on the way.

Design points:

* A failed call leaves a state like any other call does, so an outcome always has one. What a later
  call sees after a failure is part of the behaviour.
* The events of a call are its log lines *and* its physical transfers, in one list and in order.
  "Nothing was sent", "sent before the first receive" and "warned" are all statements about it.
* `Run σ α` is a computation over a state `σ`. Sequencing stops at the first error and keeps the
  state and the events up to it.
-/

namespace ProbeLink

/-- What one physical transfer reports: how much moved, or why it failed. A transfer that ran out of
time may have moved something before. -/
inductive Attempt (α : Type)
  | moved (amount : α)
  | timedOut (amount : α)
  | failed (error : IoError)
  deriving Repr, DecidableEq

/-- What a backend reports of a transfer on its connection: an error that only says that nothing moved
in time is a timeout that moved `nothing`. Telling the two apart is up to the backend. Once it has
reported a failure, the kind of the error makes no difference any more. -/
def Attempt.settle {α : Type} (nothing : α) : Attempt α → Attempt α
  | .failed error => if error.stalled then .timedOut nothing else .failed error
  | attempt => attempt

/-- The wording of a transfer that ran out of time. -/
def Attempt.timeoutMessage (transferred : Nat) : String :=
  s!"Transfer timed out after {transferred} bytes."

/-- How much an attempt moved, in time or not. -/
def Attempt.progress {α : Type} : Attempt α → Except IoError α
  | .moved amount => .ok amount
  | .timedOut amount => .ok amount
  | .failed error => .error error

/-- Something that happened during a call. -/
inductive Event
  /-- A physical send was given these bytes. -/
  | sent (offered : Bytes) (attempt : Attempt Nat)
  /-- A physical receive was given room for `capacity` bytes. -/
  | received (capacity : Nat) (attempt : Attempt Bytes)
  /-- A log line was written. -/
  | noted (notice : Notice)
  deriving Repr, DecidableEq

namespace Event

/-- The notice of a log event. -/
def notice? : Event → Option Notice
  | .noted notice => some notice
  | _ => none

/-- Is the event a physical send? -/
def isSend : Event → Bool
  | .sent _ _ => true
  | _ => false

/-- Is the event a physical receive? -/
def isReceive : Event → Bool
  | .received _ _ => true
  | _ => false

/-- Is the event a physical transfer? -/
def isTransfer (event : Event) : Bool := event.isSend || event.isReceive

end Event

/-- The result of a call, the state it leaves and the events on the way. -/
structure Outcome (σ α : Type) where
  result : Except Error α
  state : σ
  events : List Event

namespace Outcome

/-- The same outcome with events put before its own. -/
def after {σ α : Type} (events : List Event) (outcome : Outcome σ α) : Outcome σ α :=
  { outcome with events := events ++ outcome.events }

/-- The same outcome with its value changed. -/
def map {σ α β : Type} (f : α → β) (outcome : Outcome σ α) : Outcome σ β :=
  ⟨outcome.result.map f, outcome.state, outcome.events⟩

/-- The same outcome seen in a larger state. -/
def inState {σ τ α : Type} (f : σ → τ) (outcome : Outcome σ α) : Outcome τ α :=
  ⟨outcome.result, f outcome.state, outcome.events⟩

/-- The notices of a call, in order. -/
def notices {σ α : Type} (outcome : Outcome σ α) : List Notice :=
  outcome.events.filterMap Event.notice?

@[simp] theorem result_after {σ α : Type} (events : List Event) (outcome : Outcome σ α) :
    (outcome.after events).result = outcome.result := rfl

@[simp] theorem state_after {σ α : Type} (events : List Event) (outcome : Outcome σ α) :
    (outcome.after events).state = outcome.state := rfl

@[simp] theorem events_after {σ α : Type} (events : List Event) (outcome : Outcome σ α) :
    (outcome.after events).events = events ++ outcome.events := rfl

@[simp] theorem result_map {σ α β : Type} (f : α → β) (outcome : Outcome σ α) :
    (outcome.map f).result = outcome.result.map f := rfl

@[simp] theorem state_map {σ α β : Type} (f : α → β) (outcome : Outcome σ α) :
    (outcome.map f).state = outcome.state := rfl

@[simp] theorem events_map {σ α β : Type} (f : α → β) (outcome : Outcome σ α) :
    (outcome.map f).events = outcome.events := rfl

end Outcome

/-- A computation over a state that may fail and leaves events behind. -/
def Run (σ α : Type) : Type := σ → Outcome σ α

namespace Run

variable {σ α β : Type}

/-- Does nothing and returns a value. -/
def pure (a : α) : Run σ α := fun s => ⟨.ok a, s, []⟩

/-- Goes on with the value of a run that succeeded; a failure is the end. -/
def bind (run : Run σ α) (next : α → Run σ β) : Run σ β := fun s =>
  match run s with
  | ⟨.ok a, s, events⟩ => (next a s).after events
  | ⟨.error e, s, events⟩ => ⟨.error e, s, events⟩

instance : Monad (Run σ) where
  pure := Run.pure
  bind := Run.bind

/-- Fails. -/
def fail (error : Error) : Run σ α := fun s => ⟨.error error, s, []⟩

/-- Writes a log line. -/
def note (notice : Notice) : Run σ Unit := fun s => ⟨.ok (), s, [.noted notice]⟩

/-- Writes log lines. -/
def noteAll (notices : List Notice) : Run σ Unit := fun s => ⟨.ok (), s, notices.map .noted⟩

/-- Writes a log line and fails. -/
def noteAndFail (notice : Notice) (error : Error) : Run σ α :=
  fun s => ⟨.error error, s, [.noted notice]⟩

theorem pure_apply (a : α) (s : σ) : (Pure.pure a : Run σ α) s = ⟨.ok a, s, []⟩ := rfl

theorem bind_of_ok {run : Run σ α} {s s' : σ} {a : α} {events : List Event}
    (next : α → Run σ β) (h : run s = ⟨.ok a, s', events⟩) :
    (run >>= next) s = (next a s').after events := by
  show Run.bind run next s = _
  rw [Run.bind, h]

theorem bind_of_error {run : Run σ α} {s s' : σ} {e : Error} {events : List Event}
    (next : α → Run σ β) (h : run s = ⟨.error e, s', events⟩) :
    (run >>= next) s = ⟨.error e, s', events⟩ := by
  show Run.bind run next s = _
  rw [Run.bind, h]

/-- A run whose first part succeeds goes on from the state that part leaves. -/
theorem bind_of_result_ok {run : Run σ α} {s : σ} {a : α} (next : α → Run σ β)
    (h : (run s).result = .ok a) :
    (run >>= next) s = (next a (run s).state).after (run s).events :=
  bind_of_ok next (by rw [← h])

/-- A run whose first part fails is over. -/
theorem bind_of_result_error {run : Run σ α} {s : σ} {e : Error} (next : α → Run σ β)
    (h : (run s).result = .error e) :
    (run >>= next) s = ⟨.error e, (run s).state, (run s).events⟩ :=
  bind_of_error next (by rw [← h])

/-- Changing the value of a run changes the value of its outcome. -/
theorem map_apply (f : α → β) (run : Run σ α) (s : σ) : (f <$> run) s = (run s).map f := by
  show Run.bind run (fun a => Run.pure (f a)) s = _
  unfold Run.bind
  rcases h : run s with ⟨result, s', events⟩
  cases result <;> simp [Run.pure, Outcome.after, Outcome.map, Except.map]

theorem bind_pure_self (run : Run σ α) : Run.bind run Run.pure = run := by
  funext s
  unfold Run.bind
  rcases h : run s with ⟨result, s', events⟩
  cases result <;> simp [Run.pure, Outcome.after]

theorem pure_bind' (a : α) (next : α → Run σ β) : Run.bind (Run.pure a) next = next a := by
  funext s
  simp [Run.bind, Run.pure, Outcome.after]

theorem bind_assoc' {γ : Type} (run : Run σ α) (next : α → Run σ β) (last : β → Run σ γ) :
    Run.bind (Run.bind run next) last = Run.bind run fun a => Run.bind (next a) last := by
  funext s
  unfold Run.bind
  rcases h : run s with ⟨result, s', events⟩
  cases result with
  | error e => rfl
  | ok a =>
    rcases h' : next a s' with ⟨result', s'', events'⟩
    cases result' <;> simp [h', Outcome.after]

instance : LawfulMonad (Run σ) :=
  LawfulMonad.mk' _ bind_pure_self pure_bind' bind_assoc'

end Run

end ProbeLink
