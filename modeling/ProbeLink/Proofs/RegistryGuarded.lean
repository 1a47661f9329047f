import ProbeLink.Proofs.Guarded
import ProbeLink.Proofs.Reachable
import ProbeLink.Proofs.RegistryCalls

/-!
# ProbeLink.Proofs.RegistryGuarded

**Calls of the registry on the machine that stops at the first slip.** It builds the request in a
block of 14 bytes, one field after the other. It takes the answer apart by the lengths that the header
announces: each sum and product of them has to be a word, each slice has to lie within what was read,
and a field beyond the end of its message is an error of its own.

No call of the registry stops it, and none meets such a field (`registerGuarded_eq`,
`unregisterGuarded_eq`). The checks of the header are what the lengths rest on: they come before the
first slice, and the rest of the answer is read up to the very end that the slices need
(`answerGuarded_eq`).
-/

namespace ProbeLink

/-- A run on the machine that stops at the first slip. It gives no outcome if the machine stops. -/
def GuardedRun (σ α : Type) : Type := σ → Option (Outcome σ α)

namespace GuardedRun

variable {σ α γ : Type}

/-- Does nothing and returns a value. -/
def pure (a : α) : GuardedRun σ α := fun s => some ⟨.ok a, s, []⟩

/-- Goes on with the value of a run that succeeded. -/
def bind (run : GuardedRun σ α) (next : α → GuardedRun σ γ) : GuardedRun σ γ := fun s =>
  match run s with
  | none => none
  | some ⟨.error e, s, events⟩ => some ⟨.error e, s, events⟩
  | some ⟨.ok a, s, events⟩ => (next a s).map (·.after events)

instance : Monad (GuardedRun σ) where
  pure := GuardedRun.pure
  bind := GuardedRun.bind

/-- A run in which nothing can slip. -/
def ofRun (run : Run σ α) : GuardedRun σ α := fun s => some (run s)

/-- A value that the machine cannot go on without. -/
def need (value : Option α) : GuardedRun σ α := fun s => value.map fun a => ⟨.ok a, s, []⟩

/-- A value that a message may fail to hold. -/
def expect (value : Except ProtocolError α) : GuardedRun σ α := fun s =>
  some ⟨value.mapError .protocol, s, []⟩

theorem bind_of_result_ok {run : GuardedRun σ α} {s : σ} {outcome : Outcome σ α} {a : α}
    (next : α → GuardedRun σ γ) (h : run s = some outcome) (hok : outcome.result = .ok a) :
    (run >>= next) s = (next a outcome.state).map (·.after outcome.events) := by
  show GuardedRun.bind run next s = _
  obtain ⟨result, s', events⟩ := outcome
  cases hok
  rw [GuardedRun.bind, h]

theorem bind_of_result_error {run : GuardedRun σ α} {s : σ} {outcome : Outcome σ α} {e : Error}
    (next : α → GuardedRun σ γ) (h : run s = some outcome) (herror : outcome.result = .error e) :
    (run >>= next) s = some ⟨.error e, outcome.state, outcome.events⟩ := by
  show GuardedRun.bind run next s = _
  obtain ⟨result, s', events⟩ := outcome
  cases herror
  rw [GuardedRun.bind, h]

/-- **One run after the other does not stop if neither does**, the second wherever the first one
leads. -/
theorem bind_eq {guarded : GuardedRun σ α} {run : Run σ α} {guardedNext : α → GuardedRun σ γ}
    {next : α → Run σ γ} {s : σ} (h : guarded s = some (run s))
    (hnext : ∀ a, (run s).result = .ok a →
      guardedNext a (run s).state = some (next a (run s).state)) :
    (guarded >>= guardedNext) s = some ((run >>= next) s) := by
  cases hresult : (run s).result with
  | error e => rw [bind_of_result_error _ h hresult, Run.bind_of_result_error _ hresult]
  | ok a =>
    rw [bind_of_result_ok _ h hresult, Run.bind_of_result_ok _ hresult, hnext a hresult]
    rfl

/-- A run that always gives the same value, and does nothing else, is that value. -/
theorem bind_of_value {run : GuardedRun σ α} {a : α} (h : ∀ s, run s = some ⟨.ok a, s, []⟩)
    (next : α → GuardedRun σ γ) : run >>= next = next a := by
  funext s
  rw [bind_of_result_ok next (h s) rfl]
  exact Option.map_id'

theorem need_bind {value : Option α} {a : α} (h : value = some a) (next : α → GuardedRun σ γ) :
    need value >>= next = next a :=
  bind_of_value (fun _ => congrArg (Option.map _) h) next

theorem expect_bind {value : Except ProtocolError α} {a : α} (h : value = .ok a)
    (next : α → GuardedRun σ γ) : expect value >>= next = next a := by
  subst h
  exact bind_of_value (fun _ => rfl) next

end GuardedRun

namespace Guarded

/-! ### Messages -/

/-- The product of two words, if it is one. -/
def mul (a b : Nat) : Option Nat := if a * b < UInt64.size then some (a * b) else none

/-- The bytes of a slice, if it lies within its message. -/
def slice (start length : Nat) (message : Bytes) : Option Bytes :=
  if start + length ≤ message.length then some (Bytes.slice start length message) else none

/-- The first `count` pieces of a message, each of them `size` bytes long. -/
def pieces (size : Nat) : (count : Nat) → Bytes → List Bytes
  | 0, _ => []
  | count + 1, message => message.take size :: pieces size count (message.drop size)

/-- The whole pieces of a message, unless they have no size. -/
def chunksExact (size : Nat) (message : Bytes) : Option (List Bytes) :=
  if size = 0 then none else some (pieces size (message.length / size) message)

/-- The bytes of a field. It is an error if the message ends before it does. -/
def field (start length : Nat) (message : Bytes) : Except ProtocolError Bytes :=
  if start + length ≤ message.length then .ok (Bytes.slice start length message)
  else .error (.badOffset start)

/-- Puts a byte into a message that has a place for it. -/
def setByte (position : Nat) (byte : UInt8) (message : Bytes) : Option Bytes :=
  if position < message.length then some (message.set position byte) else none

/-- Puts a field into a message. It is an error if the message ends before it does. -/
def setField (start : Nat) (value message : Bytes) : Except ProtocolError Bytes :=
  if start + value.length ≤ message.length then
    .ok (message.take start ++ value ++ message.drop (start + value.length))
  else .error (.badOffset start)

theorem mul_eq {a b : Nat} (h : a * b < UInt64.size) : mul a b = some (a * b) := if_pos h

theorem slice_eq {start length : Nat} {message : Bytes} (h : start + length ≤ message.length) :
    slice start length message = some (Bytes.slice start length message) := if_pos h

theorem field_eq {start length : Nat} {message : Bytes} (h : start + length ≤ message.length) :
    field start length message = .ok (Bytes.slice start length message) := if_pos h

/-- The entries of a table are pieces of it. -/
theorem entries_eq_pieces (count : Nat) (table : Bytes) :
    Registry.Answer.entries count table = pieces Connection.entryLength count table := by
  induction count generalizing table with
  | zero => rfl
  | succ count ih => rw [Registry.Answer.entries, pieces, ih]

theorem length_of_mem_pieces {size count : Nat} {message piece : Bytes}
    (h : count * size ≤ message.length) (hmem : piece ∈ pieces size count message) :
    piece.length = size := by
  induction count generalizing message with
  | zero => cases hmem
  | succ count ih =>
    rw [Nat.succ_mul] at h
    rcases List.mem_cons.1 hmem with rfl | hlater
    · exact List.length_take_of_le (by omega)
    · exact ih (by rw [List.length_drop]; omega) hlater

theorem mapM_eq_ok {α γ ε : Type} {f : α → Except ε γ} {g : α → γ} {items : List α}
    (h : ∀ item ∈ items, f item = .ok (g item)) : items.mapM f = .ok (items.map g) := by
  induction items with
  | nil => rfl
  | cons item later ih =>
    obtain ⟨hitem, hlater⟩ := List.forall_mem_cons.1 h
    rw [List.mapM_cons, hitem, ih hlater]
    rfl

/-- `Connection.decode`, with its fields checked. -/
def decodeEntry (entry : Bytes) : Except ProtocolError Connection := do
  let pid ← field 0 4 entry
  let hid ← field 4 4 entry
  let iid ← field 8 1 entry
  let cid ← field 9 1 entry
  let handle ← field 10 2 entry
  let timestamp ← field 12 4 entry
  return {
    pid := UInt32.ofNat (Bytes.toNat pid)
    hid := IPv4.ofOctets hid
    iid := iid.getD 0 0
    cid := cid.getD 0 0
    handle := UInt16.ofNat (Bytes.toNat handle)
    timestamp := UInt32.ofNat (Bytes.toNat timestamp) }

theorem decodeEntry_eq {entry : Bytes} (h : entry.length = Connection.entryLength) :
    decodeEntry entry = .ok (Connection.decode entry) := by
  have hlength : entry.length = 16 := h
  have hbyte (position : Nat) : (Bytes.slice position 1 entry).getD 0 0 = entry.getD position 0 := by
    simp [Bytes.slice, List.getD_eq_getElem?_getD]
  rw [decodeEntry, field_eq (by omega), field_eq (by omega), field_eq (by omega),
    field_eq (by omega), field_eq (by omega), field_eq (by omega)]
  refine congrArg Except.ok ?_
  rw [hbyte, hbyte]
  rfl

end Guarded

namespace Registry

open Guarded GuardedRun Transport

variable {β : Type}

/-! ### The calls, with guards -/

/-- `request`, with guards. -/
def requestGuarded (command : Command) (c : Connection) : GuardedRun (Transport β) Bytes := do
  let blank : Bytes := List.replicate requestLength 0
  let block ← need (setByte 0 0x09 blank)
  let block ← need (setByte 1 command.code block)
  let block ← expect (setField 2 (Bytes.ofNat 4 c.pid.toNat) block)
  let block ← expect (setField 6 c.hid.octets block)
  let block ← need (setByte 10 c.iid block)
  let block ← need (setByte 11 c.cid block)
  expect (setField 12 (Bytes.ofNat 2 c.handle.toNat) block)

theorem requestGuarded_eq (command : Command) (c : Connection) (t : Transport β) :
    requestGuarded command c t = some ⟨.ok (request command c), t, []⟩ := by
  rfl

/-- Takes the answer apart, with guards. -/
def decodeGuarded (header : Header) (tableLength : Nat) (answer : Bytes) :
    GuardedRun (Transport β) Answer := do
  let table ← need (slice headerLength tableLength answer)
  let entries ← need (chunksExact header.entryLength table)
  let connections ← expect (entries.mapM decodeEntry)
  if 0 < header.infoLength then
    let start ← need (add headerLength tableLength)
    let info ← need (slice start header.infoLength answer)
    return ⟨header.handle, connections, some info⟩
  else return ⟨header.handle, connections, none⟩

/-- `Header.decode`, with its fields checked. -/
def headerGuarded (first : Bytes) : GuardedRun (Transport β) Header := do
  let handle ← expect (field 0 2 first)
  let count ← expect (field 2 2 first)
  let entryLength ← expect (field 4 2 first)
  let infoLength ← expect (field 6 2 first)
  return ⟨UInt16.ofNat (Bytes.toNat handle), Bytes.toNat count, Bytes.toNat entryLength,
    Bytes.toNat infoLength⟩

variable [Backend β]

/-- A call of the transport that gives nothing back, with guards. -/
def callGuarded (call : Call) : GuardedRun (Transport β) Unit := fun t =>
  (performGuarded call t).map (·.map fun _ => ())

/-- `Transport.read`, with guards. -/
def readGuarded (length : Nat) : GuardedRun (Transport β) Bytes := fun t =>
  (readIntoGuarded length t).map fun delivery => delivery.outcome.map fun _ => delivery.copied

/-- `opening`, with guards. -/
def openingGuarded (command : Command) (c : Connection) : GuardedRun (Transport β) Bytes := do
  let request ← requestGuarded command c
  callGuarded (.startWriteRead requestLength firstLength)
  callGuarded (.write request)
  readGuarded firstLength

/-- `readRest`, with guards: the memory of the answer grows to its whole length, and the read call is
given the part of it that is new. -/
def readRestGuarded (length : Nat) : GuardedRun (Transport β) Bytes :=
  if firstLength < length then do
    let rest ← need (sub length firstLength)
    callGuarded (.startRead rest)
    need (cut length firstLength rest)
    readGuarded rest
  else return []

/-- The exchange once the first part of the answer is there, with guards. -/
def answerGuarded (first : Bytes) : GuardedRun (Transport β) Answer := do
  let header ← headerGuarded first
  if maxConnections < header.count then
    ofRun (Run.noteAndFail (.tooManyConnections header.count)
      (.protocol (.tooManyConnections header.count)))
  else if header.entryLength ≠ Connection.entryLength then
    ofRun (Run.noteAndFail (.invalidEntrySize header.entryLength)
      (.protocol (.invalidEntrySize header.entryLength)))
  else
    let tableLength ← need (mul header.count header.entryLength)
    let tableEnd ← need (add headerLength tableLength)
    let length ← need (add tableEnd header.infoLength)
    if maxLength < length then
      ofRun (Run.noteAndFail (.responseTooLarge length) (.protocol (.responseTooLarge length)))
    else
      let rest ← readRestGuarded length
      decodeGuarded header tableLength (first ++ rest)

/-- `exchange`, with guards. -/
def exchangeGuarded (command : Command) (c : Connection) : GuardedRun (Transport β) Answer := do
  let first ← openingGuarded command c
  answerGuarded first

/-- `register`, with guards. -/
def registerGuarded (c : Connection) : GuardedRun (Transport β) Registration := do
  let answer ← exchangeGuarded .register c
  if answer.handle = 0 then ofRun (Run.noteAndFail .invalidHandle (.protocol .invalidHandle))
  else return ⟨assigned c answer, answer.connections, answer.info⟩

/-- `unregister`, with guards. -/
def unregisterGuarded (c : Connection) : GuardedRun (Transport β) Unregistration := do
  let answer ← exchangeGuarded .unregister c
  return ⟨answer.connections, answer.info⟩

/-! ### The header -/

omit [Backend β] in
theorem headerGuarded_eq {first : Bytes} (h : first.length = firstLength) (t : Transport β) :
    headerGuarded first t = some ⟨.ok (Header.decode first), t, []⟩ := by
  have hlength : first.length = 76 := h
  rw [headerGuarded, field_eq (by omega), field_eq (by omega), field_eq (by omega),
    field_eq (by omega)]
  rfl

/-! ### The answer -/

omit [Backend β] in
/-- **An answer as long as its header announces is taken apart without a slip.** -/
theorem decodeGuarded_eq {header : Header} {answer : Bytes}
    (hentry : header.entryLength = Connection.entryLength) (hmax : header.answerLength ≤ maxLength)
    (hlength : header.answerLength ≤ answer.length) (t : Transport β) :
    decodeGuarded header header.tableLength answer t =
      some ⟨.ok (Answer.decode header answer), t, []⟩ := by
  rw [Header.answerLength] at hmax hlength
  have hword : headerLength + header.tableLength < UInt64.size :=
    Nat.lt_of_le_of_lt (Nat.le_trans (Nat.le_add_right _ _) hmax) (by decide)
  have htable : (Bytes.slice headerLength header.tableLength answer).length =
      header.count * Connection.entryLength := by
    rw [Bytes.slice, List.length_take, List.length_drop, Header.tableLength, hentry] at *
    omega
  have hcount : header.count * Connection.entryLength / Connection.entryLength = header.count :=
    Nat.mul_div_cancel _ (by decide)
  have hchunks : chunksExact header.entryLength
      (Bytes.slice headerLength header.tableLength answer) =
        some (Answer.entries header.count
          (Bytes.slice headerLength header.tableLength answer)) := by
    rw [hentry, chunksExact, if_neg (by decide), htable, hcount, entries_eq_pieces]
  have hentries : (Answer.entries header.count
      (Bytes.slice headerLength header.tableLength answer)).mapM decodeEntry =
        .ok ((Answer.entries header.count
          (Bytes.slice headerLength header.tableLength answer)).map Connection.decode) := by
    refine mapM_eq_ok fun entry hmem => decodeEntry_eq ?_
    rw [entries_eq_pieces] at hmem
    exact length_of_mem_pieces (Nat.le_of_eq htable.symm) hmem
  rw [decodeGuarded, need_bind (slice_eq (by omega)), need_bind hchunks, expect_bind hentries]
  unfold Answer.decode
  split
  · rw [need_bind (add_eq hword), need_bind (slice_eq hlength)]
    rfl
  · rfl

omit [Backend β] in
/-- The guards do stop where an answer ends before its table. -/
example (t : Transport β) :
    decodeGuarded ⟨1, 5, 16, 0⟩ 80 (List.replicate firstLength 0) t = none := rfl

/-! ### The calls of the transport -/

variable {declared : Nat} {t : Transport β}

theorem readGuarded_eq (length : Nat) (h : InBounds declared t) (hdeclared : declared < UInt64.size)
    (hmemory : t.config.bufferSize < UInt64.size) :
    readGuarded length t = some (Transport.read length t) := by
  rw [readGuarded, readIntoGuarded_eq length h hdeclared hmemory]
  rfl

theorem callGuarded_startRead (length : Nat) (h : InBounds declared t)
    (hmemory : t.config.bufferSize < UInt64.size) :
    callGuarded (.startRead length) t = some (startRead length t) := by
  rw [callGuarded, performGuarded, startRead]
  split
  · rfl
  · rw [resetReadGuarded_eq length h.abandonWrite (by rwa [config_abandonWrite])]
    rfl

theorem callGuarded_startWriteRead (writeLength readLength : Nat) (h : InBounds declared t)
    (hmemory : t.config.bufferSize < UInt64.size) :
    callGuarded (.startWriteRead writeLength readLength) t =
      some (startWriteRead writeLength readLength t) := by
  rw [callGuarded, performGuarded, startWriteRead]
  split
  · rfl
  · rw [resetReadGuarded_eq readLength (h.resetWrite writeLength) hmemory]
    rfl

theorem callGuarded_write (data : Bytes) (h : InBounds declared t)
    (hmemory : t.config.bufferSize < UInt64.size) :
    callGuarded (.write data) t = some (write data t) := by
  rw [callGuarded, performGuarded, writeGuarded_eq data h hmemory]
  obtain ⟨result, state, events⟩ := write data t
  cases result <;> rfl

/-! ### The parts of an exchange -/

theorem openingGuarded_eq (command : Command) (c : Connection) (h : InBounds declared t)
    (hmemory : t.config.bufferSize < UInt64.size) :
    openingGuarded command c t = some (opening command c t) := by
  have hasked (length : Nat) : InBounds firstLength (t.asked length firstLength) :=
    (h.resetWrite length).resetRead firstLength
  rw [openingGuarded, bind_of_value (requestGuarded_eq command c),
    ← length_request command c]
  refine bind_eq (callGuarded_startWriteRead _ _ h hmemory) fun _ _ => ?_
  have hstate : (startWriteRead (request command c).length firstLength t).state =
      t.asked (request command c).length firstLength :=
    congrArg Outcome.state
      (startWriteRead_of_pos (length_request_pos command c) (by decide) t)
  have hconfig := (awaits_asked (request command c) firstLength t).config
  rw [hstate]
  refine bind_eq (callGuarded_write _ (hasked _) ?_) fun _ _ => ?_
  · rwa [(sameWriteSide_asked _ _ t).config]
  · exact readGuarded_eq _ ((hasked _).write _) (by decide) (by rwa [hconfig])

/-- The rest of the answer has its place in the memory that the answer grows to. -/
theorem readRestGuarded_eq (length : Nat) (h : InBounds declared t) (hlength : length < UInt64.size)
    (hmemory : t.config.bufferSize < UInt64.size) :
    readRestGuarded length t = some (readRest length t) := by
  rw [readRestGuarded, readRest]
  split
  · next hlong =>
    have hcut : cut length firstLength (length - firstLength) = some () := cut_eq (by omega)
    have hbegun : InBounds (length - firstLength) (t.begun (length - firstLength)) :=
      h.abandonWrite.resetRead _
    have hstate := congrArg Outcome.state (startRead_of_pos (Nat.sub_pos_of_lt hlong) t)
    rw [need_bind (sub_eq (Nat.le_of_lt hlong))]
    refine bind_eq (callGuarded_startRead _ h hmemory) fun _ _ => ?_
    rw [need_bind hcut, hstate]
    exact readGuarded_eq _ hbegun (by omega) (by rwa [config_begun])
  · rfl

omit [Backend β] in
/-- The lengths that a header announces are words: its fields have two bytes each, and the table is
known to be small by the time they are added up. -/
theorem announced_eq {header : Header} (hcount : header.count ≤ maxConnections)
    (hentry : header.entryLength = Connection.entryLength)
    (hinfo : header.infoLength < Bytes.words 2) :
    mul header.count header.entryLength = some header.tableLength ∧
      add headerLength header.tableLength = some (headerLength + header.tableLength) ∧
      add (headerLength + header.tableLength) header.infoLength = some header.answerLength := by
  have htable : header.tableLength ≤ maxConnections * Connection.entryLength := by
    rw [Header.tableLength, hentry]
    exact Nat.mul_le_mul_right _ hcount
  have hsmall : headerLength + maxConnections * Connection.entryLength + Bytes.words 2 <
      UInt64.size := by decide
  refine ⟨mul_eq ?_, add_eq ?_, add_eq ?_⟩
  · rw [← Header.tableLength]
    omega
  · omega
  · omega

/-- The exchange once the first part of the answer is there does not stop: every slice lies within
what has been read by then. -/
theorem answerGuarded_eq {first : Bytes} (hlength : first.length = firstLength)
    (h : InBounds declared t) (hmemory : t.config.bufferSize < UInt64.size) :
    answerGuarded first t =
      some ((checkHeader (Header.decode first) >>= fun _ =>
        readRest (Header.decode first).answerLength >>= fun rest =>
        pure (Answer.decode (Header.decode first) (first ++ rest)) : Run (Transport β) Answer) t) := by
  have hinfo : (Header.decode first).infoLength < Bytes.words 2 := Bytes.word_lt_words 6 2 first
  rw [answerGuarded, bind_of_value (headerGuarded_eq hlength)]
  generalize Header.decode first = header at hinfo ⊢
  unfold checkHeader Header.fault?
  by_cases hcount : maxConnections < header.count
  · rw [if_pos hcount, if_pos hcount]
    rfl
  · rw [if_neg hcount, if_neg hcount]
    by_cases hentry : header.entryLength = Connection.entryLength
    · obtain ⟨hmul, hsum, htotal⟩ := announced_eq (Nat.le_of_not_lt hcount) hentry hinfo
      have hnot : ¬header.entryLength ≠ Connection.entryLength := fun hne => hne hentry
      rw [if_neg hnot, if_neg hnot, need_bind hmul, need_bind hsum, need_bind htotal]
      by_cases hlong : maxLength < header.answerLength
      · rw [if_pos hlong, if_pos hlong]
        rfl
      · rw [if_neg hlong, if_neg hlong]
        have hmax : header.answerLength ≤ maxLength := Nat.le_of_not_lt hlong
        have hword : header.answerLength < UInt64.size := Nat.lt_of_le_of_lt hmax (by decide)
        rw [pure_bind]
        refine bind_eq (readRestGuarded_eq _ h hword hmemory) fun rest hrest => ?_
        refine decodeGuarded_eq hentry hmax ?_ _
        rw [List.length_append, hlength, length_of_readRest hrest]
        omega
    · rw [if_pos hentry, if_pos hentry]
      rfl

/-! ### The calls -/

theorem exchangeGuarded_eq (command : Command) (c : Connection) (h : InBounds declared t)
    (hmemory : t.config.bufferSize < UInt64.size) :
    exchangeGuarded command c t = some (exchange command c t) := by
  have hopens := opens_exchange (β := β) (length_request_pos command c)
    (show 0 < firstLength by decide)
  obtain ⟨hconfig, _, hbounds⟩ := hopens.composed.inBounds h
  refine bind_eq (openingGuarded_eq command c h hmemory) fun first hfirst => ?_
  exact answerGuarded_eq (opening_complete hfirst).1 hbounds (by rwa [hconfig])

/-- **Registering does not stop the machine**, whatever the device sends, and does what it does
without guards. -/
theorem registerGuarded_eq (c : Connection) (h : InBounds declared t)
    (hmemory : t.config.bufferSize < UInt64.size) :
    registerGuarded c t = some (register c t) := by
  refine bind_eq (exchangeGuarded_eq .register c h hmemory) fun answer _ => ?_
  split <;> rfl

/-- **Unregistering does not stop the machine** either. -/
theorem unregisterGuarded_eq (c : Connection) (h : InBounds declared t)
    (hmemory : t.config.bufferSize < UInt64.size) :
    unregisterGuarded c t = some (unregister c t) :=
  bind_eq (exchangeGuarded_eq .unregister c h hmemory) fun _ _ => rfl

end Registry

end ProbeLink
