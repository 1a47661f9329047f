import Mathlib
import ProbeLink.Backend.Script
import ProbeLink.Proofs.Bounds

/-!
# ProbeLink.Proofs.Guarded

**Calls on a machine that stops at the first slip.** Its numbers are words of 64 bits, the scratch
buffer is a block of exactly the configured size, and so is the memory of a read call. A sum that is
no word, a difference below zero, a piece of a block that sticks out of it: each stops the machine,
and so does a round of a read that gets nowhere.

`performGuarded` makes a call on that machine, step by step, with each sum, difference and access
in its place. In every state that a run of calls can reach it does not stop, and does exactly what
`Call.perform` does (`performGuarded_eq`). Why it does not is `InBounds`.
-/

namespace ProbeLink

/-- The numbers of the call are words. -/
def Call.Addressable : Call → Prop
  | .startWrite length => length < UInt64.size
  | .startRead length => length < UInt64.size
  | .startWriteRead writeLength readLength =>
    writeLength < UInt64.size ∧ readLength < UInt64.size
  | .write data => data.length < UInt64.size
  | .read length => length < UInt64.size

namespace Guarded

/-! ### Words and blocks -/

/-- The sum of two words, if it is one. -/
def add (a b : Nat) : Option Nat := if a + b < UInt64.size then some (a + b) else none

/-- The difference of two words, if it is one. -/
def sub (a b : Nat) : Option Nat := if b ≤ a then some (a - b) else none

/-- The first multiple of `unit` from `a` on, if there is one and it is a word. -/
def nextMultiple (a unit : Nat) : Option Nat :=
  if unit = 0 then none
  else if a % unit = 0 then some a
  else add a (unit - a % unit)

/-- The `length` bytes from `start`, if they lie within a block of `size` bytes. -/
def cut (size start length : Nat) : Option Unit :=
  if start + length ≤ size then some () else none

theorem add_eq {a b : Nat} (h : a + b < UInt64.size) : add a b = some (a + b) := if_pos h

theorem sub_eq {a b : Nat} (h : b ≤ a) : sub a b = some (a - b) := if_pos h

theorem cut_eq {size start length : Nat} (h : start + length ≤ size) :
    cut size start length = some () := if_pos h

/-- A number that fits into a whole number of units has its next multiple within them. -/
theorem nextMultiple_eq {a unit size : Nat} (hunit : 0 < unit) (hsize : unit ∣ size)
    (ha : a ≤ size) (hword : size < UInt64.size) :
    nextMultiple a unit = some ((a + unit - 1) / unit * unit) ∧
      a ≤ (a + unit - 1) / unit * unit ∧ (a + unit - 1) / unit * unit ≤ size := by
  obtain ⟨units, rfl⟩ := hsize
  have hsplit : unit * (a / unit) + a % unit = a := Nat.div_add_mod a unit
  have hmod : a % unit < unit := Nat.mod_lt a hunit
  by_cases hzero : a % unit = 0
  · -- A multiple is its own next one.
    have hdiv : (a + unit - 1) / unit = a / unit := by
      rw [Nat.div_eq_iff hunit]
      constructor <;> rw [Nat.mul_comm (a / unit)] <;> omega
    have hround : (a + unit - 1) / unit * unit = a := by
      rw [hdiv, Nat.mul_comm]
      omega
    rw [hround, nextMultiple, if_neg (by omega), if_pos hzero]
    exact ⟨rfl, Nat.le_refl a, ha⟩
  · have hdiv : (a + unit - 1) / unit = a / unit + 1 := by
      rw [Nat.div_eq_iff hunit]
      constructor <;> rw [Nat.add_mul, Nat.mul_comm (a / unit)] <;> omega
    have hround : (a + unit - 1) / unit * unit = a + (unit - a % unit) := by
      rw [hdiv, Nat.add_mul, Nat.mul_comm (a / unit)]
      omega
    -- There is room for one more unit, because the block ends with one.
    have hlt : a / unit < units := by
      refine Nat.lt_of_mul_lt_mul_left (a := unit) ?_
      omega
    have hroom : unit * (a / unit + 1) ≤ unit * units := Nat.mul_le_mul_left unit hlt
    rw [Nat.mul_add, Nat.mul_one] at hroom
    rw [hround, nextMultiple, if_neg (by omega), if_neg hzero, add_eq (by omega)]
    exact ⟨rfl, by omega, by omega⟩

end Guarded

namespace Transport

open Guarded

variable {β : Type}

/-! ### The calls, with guards -/

/-- `resetRead`, with guards. -/
def resetReadGuarded (length : Nat) (t : Transport β) : Option (Transport β) := do
  let surplusPos ← add t.readPos t.readAvailable
  if 0 < t.surplus ∧ t.surplus ≤ length then
    let due ← sub length t.surplus
    return { t with
      readPos := surplusPos
      readAvailable := t.surplus
      readRemaining := due
      surplus := 0 }
  else
    return { t with readRemaining := length, readAvailable := 0, readPos := 0, surplus := 0 }

/-- What a piece leaves beyond the operation, with guards. -/
def surplusGuarded (piece : Bytes) (t : Transport β) : Option Nat :=
  if t.readRemaining < piece.length then sub piece.length t.readRemaining else some t.surplus

/-- Takes a piece in, with guards, for a call that still wants `length` bytes, has `pos` already and
has `room` for all. Gives what the call takes, its next position and what it still wants. -/
def takeInGuarded (room pos length : Nat) (piece : Bytes) (t : Transport β) :
    Option (Nat × Nat × Nat × Transport β) := do
  let accepted := if t.readRemaining < piece.length then t.readRemaining else piece.length
  let surplus ← t.surplusGuarded piece
  if t.viaScratch length then
    let n := min accepted length
    cut room pos n
    cut t.config.bufferSize 0 n
    let available ← sub accepted n
    let next ← add pos n
    let rest ← sub length n
    let due ← sub t.readRemaining accepted
    return (n, next, rest, { t with
      readRemaining := due
      surplus := surplus
      readAvailable := available
      readPos := n })
  else
    let next ← add pos accepted
    let rest ← sub length accepted
    let due ← sub t.readRemaining accepted
    return (accepted, next, rest, { t with readRemaining := due, surplus := surplus })

/-- `stage`, with guards. -/
def stageGuarded (data : Bytes) (t : Transport β) : Option (Transport β) := do
  cut t.config.bufferSize t.writeBuffered data.length
  let remaining ← sub t.writeRemaining data.length
  let buffered ← add t.writeBuffered data.length
  return { t with
    scratch := t.scratch.write t.writeBuffered data
    writeRemaining := remaining
    writeBuffered := buffered }

variable [Backend β]

/-- The whole chunk that a receive is given, of the scratch buffer or of the memory of the call, with
guards. -/
def targetGuarded (room pos length : Nat) (t : Transport β) : Option Unit :=
  if t.viaScratch length then cut t.config.bufferSize 0 t.config.chunkSize
  else cut room pos t.config.chunkSize

/-- `readLoop`, with guards. -/
def readLoopGuarded (room pos length : Nat) (t : Transport β) : Option (Delivery β) :=
  if length = 0 then some ⟨[], ⟨.ok (), t, []⟩⟩
  else
    match t.targetGuarded room pos length with
    | none => none
    | some () =>
      match (receive t).result with
      | .error e => some ⟨[], ⟨.error e, (receive t).state, (receive t).events⟩⟩
      | .ok piece =>
        let arrived := (receive t).state.arrive length piece
        let events := (receive t).events ++ arrived.overrunEvents piece
        if arrived.overruns length piece then
          some ⟨[], ⟨.error (.protocol (.overrun arrived.readRemaining piece.length)), arrived,
            events⟩⟩
        else
          match arrived.takeInGuarded room pos length piece with
          | none => none
          | some (n, next, rest, t') =>
            if rest < length then
              (readLoopGuarded room next rest t').map (·.after (piece.take n) events)
            else none
termination_by length

/-- `readInto`, with guards. -/
def readIntoGuarded (length : Nat) (t : Transport β) : Option (Delivery β) :=
  if 0 < t.writeRemaining then
    some ⟨[], ⟨.error (.argument (.writeIncomplete t.writeRemaining)), t,
      [.noted (.readBeforeWrite t.writeRemaining)]⟩⟩
  else do
    let expected ← add t.readRemaining t.readAvailable
    if expected < length then
      return ⟨[], ⟨.error (.argument (.readLengthExceeded length expected)), t,
        [.noted (.readLengthExceeded length expected)]⟩⟩
    else if length ≤ t.readAvailable then
      cut t.config.bufferSize t.readPos length
      let available ← sub t.readAvailable length
      let pos ← add t.readPos length
      return ⟨t.scratch.read t.readPos length,
        ⟨.ok (), { t with readAvailable := available, readPos := pos }, []⟩⟩
    else if 0 < t.readAvailable then
      cut length 0 t.readAvailable
      cut t.config.bufferSize t.readPos t.readAvailable
      let rest ← sub length t.readAvailable
      let delivery ← readLoopGuarded length t.readAvailable rest
        { t with readAvailable := 0, readPos := 0 }
      return delivery.after (t.scratch.read t.readPos t.readAvailable) []
    else readLoopGuarded length 0 length t

/-- `flush`, with guards. -/
def flushGuarded (data : Bytes) (t : Transport β) : Option (Outcome (Transport β) Unit) :=
  if t.writeBuffered = 0 then some (send data { t with writeRemaining := 0 })
  else do
    let aligned ← nextMultiple t.writeBuffered t.config.chunkSize
    let fill ← sub aligned t.writeBuffered
    cut data.length 0 (min fill data.length)
    let head := data.take fill
    let tail := data.drop fill
    cut t.config.bufferSize t.writeBuffered head.length
    let buffered ← add t.writeBuffered head.length
    cut t.config.bufferSize 0 buffered
    let scratch := t.scratch.write t.writeBuffered head
    let run : Run (Transport β) Unit := do
      send (scratch.read 0 buffered)
      if !tail.isEmpty then send tail
    return run { t with scratch := scratch, writeRemaining := 0, writeBuffered := 0 }

/-- `write`, with guards. -/
def writeGuarded (data : Bytes) (t : Transport β) : Option (Outcome (Transport β) Unit) :=
  if t.writeRemaining < data.length then
    some ⟨.error (.argument (.writeLengthExceeded data.length t.writeRemaining)), t,
      [.noted (.writeLengthExceeded data.length t.writeRemaining)]⟩
  else if data.length < t.writeRemaining then do
    let available ← sub t.config.bufferSize t.writeBuffered
    if available < data.length then
      return ⟨.error (.argument (.bufferTooSmall data.length available)), t,
        [.noted .writeTooLarge]⟩
    else
      let t' ← stageGuarded data t
      return ⟨.ok (), t', []⟩
  else flushGuarded data t

/-- Makes a call, with guards. -/
def performGuarded (call : Call) (t : Transport β) : Option (Outcome (Transport β) Reply) :=
  match call with
  | .startWrite length => some ((startWrite length t).map fun _ => .done)
  | .startRead length =>
    if length = 0 then some ⟨.error (.argument .zeroLength), t, []⟩
    else do
      let t' ← t.abandonWrite.resetReadGuarded length
      return ⟨.ok .done, t', t.abandonWriteEvents ++ t.abandonWrite.resetReadEvents length⟩
  | .startWriteRead writeLength readLength =>
    if writeLength = 0 ∨ readLength = 0 then some ⟨.error (.argument .zeroLength), t, []⟩
    else do
      let t' ← (t.resetWrite writeLength).resetReadGuarded readLength
      return ⟨.ok .done, t',
        t.resetWriteEvents ++ (t.resetWrite writeLength).resetReadEvents readLength⟩
  | .write data => (writeGuarded data t).map (·.map fun _ => .done)
  | .read length =>
    (readIntoGuarded length t).map fun delivery =>
      (delivery.outcome.map fun _ => delivery.copied).map .bytes

/-! ### No call stops -/

variable {declared : Nat} {t : Transport β} {length : Nat}

omit [Backend β] in
theorem resetReadGuarded_eq (length : Nat) (h : InBounds declared t)
    (hmemory : t.config.bufferSize < UInt64.size) :
    t.resetReadGuarded length = some (t.resetRead length) := by
  have hregion := h.region
  have hbuffer := t.config.valid.chunk_le_buffer
  rw [resetReadGuarded, add_eq (by omega), resetRead]
  split
  · next hfits =>
    rw [sub_eq hfits.2]
    rfl
  · rfl

omit [Backend β] in
theorem surplusGuarded_eq (piece : Bytes) (t : Transport β) :
    t.surplusGuarded piece = some (if t.readRemaining < piece.length
      then piece.length - t.accepted piece else t.surplus) := by
  unfold surplusGuarded
  split
  · next hlong =>
    rw [sub_eq (Nat.le_of_lt hlong), accepted, Nat.min_eq_right (Nat.le_of_lt hlong)]
  · rfl

omit [Backend β] in
/-- A piece is taken in without a slip: a call has room for what it takes, and the scratch buffer
for the rest. -/
theorem takeInGuarded_eq {room pos : Nat} {piece : Bytes}
    (hp : piece.length ≤ t.config.chunkSize) (hroom : pos + length ≤ room)
    (hword : room < UInt64.size) :
    t.takeInGuarded room pos length piece = some (t.taken length piece,
      pos + t.taken length piece, length - t.taken length piece, t.takeIn length piece) := by
  have hbuffer := t.config.valid.chunk_le_buffer
  have haccepted : (if t.readRemaining < piece.length then t.readRemaining else piece.length) =
      t.accepted piece := by
    unfold accepted
    split <;> omega
  have hle : t.accepted piece ≤ piece.length := Nat.min_le_left _ _
  have hdue : t.accepted piece ≤ t.readRemaining := Nat.min_le_right _ _
  have htaken : t.taken length piece ≤ length := Nat.min_le_right _ _
  unfold takeInGuarded
  cases hv : t.viaScratch length with
  | false =>
    -- The call still wants a whole chunk, so it takes all that the operation accepts.
    have hall : t.taken length piece = t.accepted piece := by
      have hwhole : ¬length < t.config.chunkSize := by simpa [viaScratch] using hv
      simp only [taken]
      omega
    rw [hall] at htaken ⊢
    simp only [haccepted, surplusGuarded_eq, takeIn, hv, Bool.false_eq_true, if_false,
      sub_eq hdue, sub_eq htaken, add_eq (show pos + t.accepted piece < UInt64.size by omega)]
    rfl
  | true =>
    have htaken' : t.taken length piece ≤ t.accepted piece := Nat.min_le_left _ _
    have hmin : min (t.accepted piece) length = t.taken length piece := rfl
    simp only [haccepted, surplusGuarded_eq, hmin, takeIn, hv, if_true,
      cut_eq (show pos + t.taken length piece ≤ room by omega),
      cut_eq (show 0 + t.taken length piece ≤ t.config.bufferSize by omega),
      sub_eq htaken', sub_eq htaken, sub_eq hdue,
      add_eq (show pos + t.taken length piece < UInt64.size by omega)]
    rfl

omit [Backend β] in
theorem targetGuarded_eq {room pos : Nat} (hroom : pos + length ≤ room) :
    t.targetGuarded room pos length = some () := by
  have hbuffer := t.config.valid.chunk_le_buffer
  unfold targetGuarded
  split
  · exact cut_eq (by omega)
  · next hv =>
    have hwhole : ¬length < t.config.chunkSize := by simpa [viaScratch] using hv
    exact cut_eq (by omega)

/-- **No round of a read stops the machine.** -/
theorem readLoopGuarded_eq (length : Nat) (hl : length ≤ t.readRemaining)
    (h : InBounds declared t) (ha : 0 < length → t.readAvailable = 0) {room pos : Nat}
    (hroom : pos + length ≤ room) (hword : room < UInt64.size) :
    readLoopGuarded room pos length t = some (readLoop length t hl) := by
  -- What a call has and what it still wants fit into its memory, round after round.
  refine readLoop_induction (motive := fun length t delivery => ∀ pos, InBounds declared t →
    (0 < length → t.readAvailable = 0) → pos + length ≤ room →
      readLoopGuarded room pos length t = some delivery)
    ?done ?failed ?refused ?round length t hl pos h ha hroom
  case done =>
    intro t pos _ _ _
    rw [readLoopGuarded, if_pos rfl]
  case failed =>
    intro length t e hpos hl hr pos h ha hroom
    rw [readLoopGuarded, if_neg (by omega), targetGuarded_eq hroom, hr]
  case refused =>
    intro length t piece hpos hl hr hover pos h ha hroom
    rw [readLoopGuarded, if_neg (by omega), targetGuarded_eq hroom, hr]
    simp only [overruns_arrive, hover, if_true, overrunEvents, readRemaining_arrive]
    rfl
  case round =>
    intro length t piece rest hpos hl hr hover ih pos h ha hroom
    have hp : piece.length ≤ t.config.chunkSize := length_receive_le hr
    have hlen : 0 < piece.length := length_receive_pos hr
    have hbounds := h.admitted (ha hpos) hpos hl hr hover
    have hless : length - t.taken length piece < length := by
      simp only [taken, accepted]
      omega
    have htaken : t.taken length piece ≤ length := Nat.min_le_right _ _
    have hnext := ih (pos + t.taken length piece) hbounds
      (h.readAvailable_admitted (ha hpos) hpos hl hr) (by omega)
    have hfits : piece.length ≤ ((receive t).state.arrive length piece).config.chunkSize := by
      simpa using hp
    have htake := takeInGuarded_eq hfits hroom hword
    rw [readLoopGuarded, if_neg (by omega), targetGuarded_eq hroom, hr]
    simp only [overruns_arrive, hover, htake, taken_arrive, if_pos hless, overrunEvents,
      readRemaining_arrive, Bool.false_eq_true, if_false]
    exact congrArg (Option.map _) hnext

theorem readIntoGuarded_eq (length : Nat) (h : InBounds declared t)
    (hdeclared : declared < UInt64.size) (hmemory : t.config.bufferSize < UInt64.size) :
    readIntoGuarded length t = some (t.readInto length) := by
  have hexpected := h.expected
  have hregion := h.region
  have hbuffer := t.config.valid.chunk_le_buffer
  rw [readIntoGuarded, readInto]
  split
  · rfl
  · rw [add_eq (show t.readRemaining + t.readAvailable < UInt64.size by omega)]
    show (if t.readExpected < length then _ else _) = _
    split
    · rfl
    · next hfits =>
      simp only [readExpected] at hfits
      split
      · next hready =>
        rw [cut_eq (by omega), sub_eq hready, add_eq (by omega)]
        rfl
      · split
        · rw [cut_eq (by omega), cut_eq (by omega), sub_eq (by omega)]
          show (readLoopGuarded length t.readAvailable (length - t.readAvailable) _).bind _ = _
          rw [readLoopGuarded_eq _ (by simp only; omega) h.drained (fun _ => rfl) (by omega)
            (by omega)]
          rfl
        · exact readLoopGuarded_eq _ (by omega) h (fun _ => by omega) (by omega) (by omega)

/-- The staged bytes are filled up within the scratch buffer. -/
theorem flushGuarded_eq (data : Bytes) (h : InBounds declared t)
    (hmemory : t.config.bufferSize < UInt64.size) :
    flushGuarded data t = some (flush data t) := by
  rw [flushGuarded, flush]
  split
  · rfl
  · obtain ⟨haligned, hfrom, hto⟩ := nextMultiple_eq t.config.valid.chunkSize_pos
      t.config.valid.chunk_dvd_buffer h.buffered hmemory
    have hhead : t.writeBuffered + (data.take t.fill).length ≤ t.config.bufferSize := by
      simp only [List.length_take, fill]
      omega
    have hfill : (t.writeBuffered + t.config.chunkSize - 1) / t.config.chunkSize *
        t.config.chunkSize - t.writeBuffered = t.fill := rfl
    rw [haligned]
    show (sub _ t.writeBuffered).bind _ = _
    rw [sub_eq hfrom, hfill]
    show (cut data.length 0 (min t.fill data.length)).bind _ = _
    rw [cut_eq (by omega)]
    show (cut t.config.bufferSize t.writeBuffered (data.take t.fill).length).bind _ = _
    rw [cut_eq hhead]
    show (add t.writeBuffered (data.take t.fill).length).bind _ = _
    rw [add_eq (by omega)]
    show (cut t.config.bufferSize 0 (t.writeBuffered + (data.take t.fill).length)).bind _ = _
    rw [cut_eq (by omega)]
    rfl

theorem writeGuarded_eq (data : Bytes) (h : InBounds declared t)
    (hmemory : t.config.bufferSize < UInt64.size) :
    writeGuarded data t = some (write data t) := by
  have hbuffered := h.buffered
  rw [writeGuarded, write]
  split
  · rfl
  · split
    · next hlt =>
      rw [sub_eq hbuffered]
      show (if t.config.bufferSize - t.writeBuffered < data.length then _ else _) =
        some (if t.config.bufferSize - t.writeBuffered < data.length then _ else _)
      split
      · rfl
      · have hstage : stageGuarded data t = some (t.stage data) := by
          rw [stageGuarded, cut_eq (by omega), sub_eq (Nat.le_of_lt hlt), add_eq (by omega)]
          rfl
        rw [hstage]
        rfl
    · exact flushGuarded_eq data h hmemory

/-- **A call in bounds does not stop the machine**, and does what it does without guards. -/
theorem performGuarded_eq (call : Call) (h : InBounds declared t)
    (hdeclared : declared < UInt64.size) (hmemory : t.config.bufferSize < UInt64.size) :
    performGuarded call t = some (call.perform t) := by
  cases call with
  | startWrite length =>
    rw [Call.perform_startWrite]
    rfl
  | startRead length =>
    rw [Call.perform_startRead, performGuarded, startRead]
    split
    · rfl
    · rw [resetReadGuarded_eq length h.abandonWrite (by rwa [config_abandonWrite])]
      rfl
  | startWriteRead writeLength readLength =>
    rw [Call.perform_startWriteRead, performGuarded, startWriteRead]
    split
    · rfl
    · rw [resetReadGuarded_eq readLength (h.resetWrite writeLength) hmemory]
      rfl
  | write data =>
    rw [Call.perform_write, performGuarded, writeGuarded_eq data h hmemory]
    rfl
  | read length =>
    rw [Call.perform_read, performGuarded, readIntoGuarded_eq length h hdeclared hmemory]
    rfl

/-- What calls with numbers that are words declare is a word. -/
theorem declaredRead_lt {calls : List Call} (hcalls : ∀ call ∈ calls, call.Addressable)
    (hdeclared : declared < UInt64.size) : declaredRead calls t declared < UInt64.size := by
  induction calls generalizing t declared with
  | nil => exact hdeclared
  | cons call later ih =>
    obtain ⟨hcall, hlater⟩ := List.forall_mem_cons.1 hcalls
    refine ih hlater ?_
    cases call with
    | startRead length =>
      simp only [Call.declares]
      split
      · exact hcall
      · exact hdeclared
    | startWriteRead writeLength readLength =>
      simp only [Call.declares]
      split
      · exact hcall.2
      · exact hdeclared
    | startWrite length => exact hdeclared
    | write data => exact hdeclared
    | read length => exact hdeclared

/-- **After any run the cursors are in bounds, and no call makes a machine stop** that checks every
sum, every difference and every access. Whatever the backend reports, and however many of the calls
before it failed, a call on that machine is the same call. -/
theorem in_bounds_after_run (config : ValidConfig) (backend : β) (calls : List Call)
    (hmemory : config.bufferSize < UInt64.size) (hcalls : ∀ call ∈ calls, call.Addressable) :
    let t := (fresh config backend).after calls
    t.config = config ∧
      InBounds (declaredRead calls (fresh config backend) 0) t ∧
      ∀ call : Call, performGuarded call t = some (call.perform t) := by
  intro t
  have hfresh : InBounds 0 (fresh config backend) := inBounds_fresh config backend
  have hconfig : t.config = config := config_after calls hfresh.regular
  have hbounds : InBounds (declaredRead calls (fresh config backend) 0) t :=
    inBounds_after calls hfresh
  have hdeclared : declaredRead calls (fresh config backend) 0 < UInt64.size :=
    declaredRead_lt hcalls (by decide)
  refine ⟨hconfig, hbounds, ?_⟩
  intro call
  exact performGuarded_eq call hbounds hdeclared (by rwa [hconfig])

/-- A device that answers three bytes with four, after a timeout, and a write operation in between:
the next read operation takes over what was too much. -/
theorem in_bounds_with_surplus :
    let config : ValidConfig := ⟨⟨4, 8, 1000, 2, .retain⟩, by decide⟩
    let backend : Backend.Script := ⟨[.timedOut [], .moved [1, 2, 3, 4, 5]], [.moved 1]⟩
    let calls : List Call := [.startWrite 2, .write [7, 7], .startRead 3, .read 2, .read 2]
    let t := fresh config backend
    config.bufferSize < UInt64.size ∧ (∀ call ∈ calls, call.Addressable) ∧
      (t.after calls).readPos = 2 ∧ (t.after calls).counters = [0, 0, 0, 1, 1] ∧
      InBounds 3 (t.after calls) ∧
      performGuarded (.startRead 9) (t.after calls) =
        some ((Call.startRead 9).perform (t.after calls)) := by
  intro config backend calls t
  have hmemory : config.bufferSize < UInt64.size := by decide
  have hcalls : ∀ call ∈ calls, call.Addressable := by simp [calls, Call.Addressable, UInt64.size]
  obtain ⟨-, hbounds, hguarded⟩ := in_bounds_after_run config backend calls hmemory hcalls
  refine ⟨hmemory, hcalls, ?_, ?_, hbounds, hguarded (.startRead 9)⟩
  · cbv
  · cbv

/-- The guards do stop where cursors are out of bounds. -/
example : performGuarded (.read 2) { fresh ⟨⟨4, 8, 1000, 2, .retain⟩, by decide⟩
    (⟨[], []⟩ : Backend.Script) with readAvailable := 2, readPos := 7 } = none := by
  cbv

end Transport

end ProbeLink
