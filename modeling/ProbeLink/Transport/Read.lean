import ProbeLink.Transport.Basic

/-!
# ProbeLink.Transport.Read

**Reading** the bytes of an operation.

A call takes what is already in the scratch buffer, and then receives one piece of at most a chunk
after the other. A call that still wants a whole chunk receives straight into its own memory. One
that wants less goes through the scratch buffer, because the device may answer with a full chunk;
what is too early for this call stays there for the next one, and what is too much for the operation
is an overrun, or the surplus for the next operation.

Every received piece is at least one byte of the operation, which is why a read ends: `readLoop`
recurses on the bytes it still wants. A failing read may have taken bytes already, so `readInto`
also says which.
-/

namespace ProbeLink.Transport

variable {β : Type}

/-- What one read call did: the bytes it handed out, and how it ended. -/
structure Delivery (β : Type) where
  copied : Bytes
  outcome : Outcome (Transport β) Unit

namespace Delivery

/-- A delivery with bytes handed out, and events, before its own. -/
def after (copied : Bytes) (events : List Event) (delivery : Delivery β) : Delivery β :=
  ⟨copied ++ delivery.copied, delivery.outcome.after events⟩

end Delivery

/-- Receives one piece through the backend. -/
def receive [Backend β] : Run (Transport β) Bytes := fun t =>
  (Backend.receiveSome t.config.chunkSize t.config.maxTimeouts t.backend).inState fun backend =>
    { t with backend := backend }

/-- Does a call that still wants `length` bytes receive through the scratch buffer? -/
def viaScratch (t : Transport β) (length : Nat) : Bool := length < t.config.chunkSize

/-- The bytes of a piece that belong to the current operation. -/
def accepted (t : Transport β) (piece : Bytes) : Nat := min piece.length t.readRemaining

/-- The bytes of a piece that go to a call that still wants `length` bytes. -/
def taken (t : Transport β) (length : Nat) (piece : Bytes) : Nat := min (t.accepted piece) length

/-- Is a piece too long for the operation, with no way to keep the rest? -/
def overruns (t : Transport β) (length : Nat) (piece : Bytes) : Bool :=
  t.readRemaining < piece.length && (t.config.overrun == .reject || !t.viaScratch length)

/-- The state after a piece arrived in the scratch buffer, if that is where it goes. -/
def arrive (length : Nat) (piece : Bytes) (t : Transport β) : Transport β :=
  if t.viaScratch length then { t with scratch := t.scratch.write 0 piece } else t

/-- The state after a piece was taken in by a call that still wants `length` bytes. -/
def takeIn (length : Nat) (piece : Bytes) (t : Transport β) : Transport β :=
  let counted :=
    { t with
      readRemaining := t.readRemaining - t.accepted piece
      surplus :=
        if t.readRemaining < piece.length then piece.length - t.accepted piece else t.surplus }
  if t.viaScratch length then
    { counted with
      readAvailable := t.accepted piece - t.taken length piece
      readPos := t.taken length piece }
  else counted

/-- What is to be said about a piece that is longer than the operation expects. -/
def overrunEvents (t : Transport β) (piece : Bytes) : List Event :=
  noteIf (t.readRemaining < piece.length) (.overrun t.readRemaining piece.length)

@[simp] theorem readRemaining_arrive (length : Nat) (piece : Bytes) (t : Transport β) :
    (t.arrive length piece).readRemaining = t.readRemaining := by
  unfold arrive; split <;> rfl

@[simp] theorem config_arrive (length : Nat) (piece : Bytes) (t : Transport β) :
    (t.arrive length piece).config = t.config := by
  unfold arrive; split <;> rfl

@[simp] theorem readRemaining_takeIn (length : Nat) (piece : Bytes) (t : Transport β) :
    (t.takeIn length piece).readRemaining = t.readRemaining - t.accepted piece := by
  unfold takeIn; dsimp only; split <;> rfl

@[simp] theorem readRemaining_receive [Backend β] (t : Transport β) :
    (receive t).state.readRemaining = t.readRemaining := rfl

@[simp] theorem config_receive [Backend β] (t : Transport β) :
    (receive t).state.config = t.config := rfl

/-- A received piece holds at least one byte. -/
theorem length_receive_pos [Backend β] {t : Transport β} {piece : Bytes}
    (h : (receive t).result = .ok piece) : 0 < piece.length :=
  have h' : (Backend.receiveSome t.config.chunkSize t.config.maxTimeouts t.backend).result =
    .ok piece := h
  Backend.length_receiveLoop_pos t.config.valid.chunkSize_pos h'

/-- A received piece is at most a chunk. -/
theorem length_receive_le [Backend β] {t : Transport β} {piece : Bytes}
    (h : (receive t).result = .ok piece) : piece.length ≤ t.config.chunkSize :=
  have h' : (Backend.receiveSome t.config.chunkSize t.config.maxTimeouts t.backend).result =
    .ok piece := h
  Backend.length_receiveLoop_le h'

/-- Receives until `length` bytes, all of them still to come from the device, are there. -/
def readLoop [Backend β] (length : Nat) (t : Transport β) (hl : length ≤ t.readRemaining) :
    Delivery β :=
  if h₀ : length = 0 then ⟨[], ⟨.ok (), t, []⟩⟩
  else
    let received := receive t
    match hr : received.result with
    | .error e => ⟨[], ⟨.error e, received.state, received.events⟩⟩
    | .ok piece =>
      let arrived := received.state.arrive length piece
      let events := received.events ++ arrived.overrunEvents piece
      if arrived.overruns length piece then
        ⟨[], ⟨.error (.protocol (.overrun arrived.readRemaining piece.length)), arrived, events⟩⟩
      else
        have hpos : 0 < piece.length := length_receive_pos hr
        have hrem : arrived.readRemaining = t.readRemaining := by
          simp only [arrived, received, readRemaining_arrive, readRemaining_receive]
        (readLoop (length - arrived.taken length piece) (arrived.takeIn length piece) (by
          simp only [readRemaining_takeIn, taken, accepted]
          omega)).after (piece.take (arrived.taken length piece)) events
termination_by length
decreasing_by
  simp only [taken, accepted, readRemaining_arrive, readRemaining_receive]
  omega

/-- Reads `length` bytes of the current read operation, and says which bytes were handed out even if
that fails. -/
def readInto [Backend β] (length : Nat) (t : Transport β) : Delivery β :=
  if 0 < t.writeRemaining then
    ⟨[], ⟨.error (.argument (.writeIncomplete t.writeRemaining)), t,
      [.noted (.readBeforeWrite t.writeRemaining)]⟩⟩
  else if h : t.readExpected < length then
    ⟨[], ⟨.error (.argument (.readLengthExceeded length t.readExpected)), t,
      [.noted (.readLengthExceeded length t.readExpected)]⟩⟩
  else if length ≤ t.readAvailable then
    ⟨t.scratch.read t.readPos length,
      ⟨.ok (), { t with
        readAvailable := t.readAvailable - length
        readPos := t.readPos + length }, []⟩⟩
  else if ha : 0 < t.readAvailable then
    (readLoop (length - t.readAvailable) { t with readAvailable := 0, readPos := 0 } (by
      simp only [readExpected] at h
      simp only
      omega)).after (t.scratch.read t.readPos t.readAvailable) []
  else readLoop length t (by simp only [readExpected] at h; omega)

/-- Reads `length` bytes of the current read operation. -/
def read [Backend β] (length : Nat) : Run (Transport β) Bytes := fun t =>
  let delivery := t.readInto length
  delivery.outcome.map fun _ => delivery.copied

end ProbeLink.Transport
