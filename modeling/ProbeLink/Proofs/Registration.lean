import ProbeLink.Proofs.Exchange
import ProbeLink.Proofs.RegistryCalls
import ProbeLink.Proofs.StreamIntake

/-!
# ProbeLink.Proofs.Registration

**Registering over a stream** whose peer has sent the whole answer before any of it is read. The
answer is read in two operations, and the chunks of a stream know nothing of where the first one
ends. So the policy for overruns decides, unless no chunk crosses that point (`Intake.Fits`): if the
answer has no second part, or the first part is a whole number of chunks.

Where it fits, the client gets the registration that the answer encodes, whatever the chunks are.
Where it does not, the first read fails, and with it the registration (`register_stream`).
-/

namespace ProbeLink

open Backend (Stream)

/-! ### A stream -/

namespace Backend.Stream

/-- A send takes everything at once. -/
theorem sendLoop_up {stream : Stream} {data : Bytes} {tries : Nat} (maxTimeouts : Nat)
    (hline : stream.line = .up) (ht : 0 < tries) (hd : data ≠ []) :
    sendLoop maxTimeouts tries data stream =
      ⟨.ok (), { stream with outgoing := stream.outgoing ++ [data] },
        [.sent data (.moved data.length)]⟩ := by
  obtain ⟨tries, rfl⟩ : ∃ n, tries = n + 1 := ⟨tries - 1, by omega⟩
  obtain ⟨byte, rest, rfl⟩ := List.exists_cons_of_ne_nil hd
  have honce : sendOnce stream (byte :: rest) =
      (.moved (byte :: rest).length,
        { stream with outgoing := stream.outgoing ++ [byte :: rest] }) := by
    simp only [sendOnce, hline]
  rw [sendLoop, honce]
  simp [Attempt.progress, sendEvents, sendLoop, Outcome.after]

end Backend.Stream

namespace Transport

variable {t : Transport Stream}

/-- What reading all of an operation comes to if its missing bytes are next on the stream. -/
structure DrawsAll (t : Transport Stream) (outcome : Outcome (Transport Stream) Bytes) : Prop where
  result : outcome.result = .ok (t.ready ++ t.backend.incoming.take t.readRemaining)
  due : outcome.state.readRemaining = 0
  ready : outcome.state.ready = []
  rest : outcome.state.spare ++ outcome.state.backend.incoming =
    t.backend.incoming.drop t.readRemaining
  line : outcome.state.backend.line = .up
  writeSide : SameWriteSide t outcome.state

/-- Reading all of an operation that fits. -/
theorem read_drawsAll (hw : t.writeRemaining = 0) (hline : t.backend.line = .up)
    (hdue : t.readRemaining ≤ t.backend.incoming.length) (hspare : t.spare = [])
    (hfits : Intake.Fits t.config t.readRemaining t.backend.incoming.length) :
    DrawsAll t (read t.readExpected t) := by
  have htidy : t.intake.Tidy := fun h => absurd hspare h
  have hreads := read_reads hw (Nat.le_refl t.readExpected) htidy
  have hdrawn : Intake.Drawn t.intake (t.gathered t.readExpected) := by
    rw [gathered, readExpected_eq]
    exact Intake.gather_of_fits (s := t.intake) hline hdue hspare hfits
  have hlength : (t.gathered t.readExpected).state.ready.length = t.readExpected := by
    have hdue' : t.intake.due ≤ t.intake.backend.incoming.length := hdue
    rw [hdrawn.ready, readExpected_eq, List.length_append, List.length_take,
      Nat.min_eq_left hdue']
  refine ⟨?_, ?_, ?_, ?_, ?_, hreads.writeSide⟩
  · rw [hreads.result, hdrawn.result, List.take_of_length_le (Nat.le_of_eq hlength), hdrawn.ready]
    rfl
  · rw [← due_intake, hreads.intake]
    exact hdrawn.due
  · rw [← ready_intake, hreads.intake]
    exact List.drop_eq_nil_of_le (Nat.le_of_eq hlength)
  · rw [← spare_intake, ← backend_intake, hreads.intake]
    exact hdrawn.rest
  · rw [← backend_intake, hreads.intake]
    exact hdrawn.line

/-- Reading all of an operation that does not fit. -/
theorem read_of_not_fits (hw : t.writeRemaining = 0) (hline : t.backend.line = .up)
    (hdue : t.readRemaining ≤ t.backend.incoming.length) (hspare : t.spare = [])
    (hfits : ¬Intake.Fits t.config t.readRemaining t.backend.incoming.length) :
    (read t.readExpected t).result =
      .error (.protocol (.overrun (t.readRemaining % t.config.chunkSize)
        (min t.config.chunkSize
          (t.backend.incoming.length - t.readRemaining +
            t.readRemaining % t.config.chunkSize)))) := by
  have htidy : t.intake.Tidy := fun h => absurd hspare h
  have hgather := Intake.gather_of_not_fits (s := t.intake) hline hdue hfits
  rw [← readExpected_eq] at hgather
  rw [(read_reads hw (Nat.le_refl t.readExpected) htidy).result, gathered, hgather]
  rfl

/-- An operation that takes over the surplus and needs all the rest of the stream always fits. -/
theorem read_begun_queued {length : Nat} (hline : t.backend.line = .up)
    (hlength : t.surplus + t.backend.incoming.length = length) :
    (read length (t.begun length)).result = .ok (t.spare ++ t.backend.incoming) := by
  -- What was received too early is there already, and exactly the rest is queued.
  have hadopted : t.adopted length = t.spare := if_pos (by omega)
  have hintake := intake_begun length t
  rw [hadopted, length_spare] at hintake
  have hbackend : (t.begun length).backend = t.backend := congrArg Intake.backend hintake
  have hready : (t.begun length).ready = t.spare := congrArg Intake.ready hintake
  have hspare : (t.begun length).spare = [] := congrArg Intake.spare hintake
  have hdue : (t.begun length).readRemaining = t.backend.incoming.length := by
    have hremaining : (t.begun length).readRemaining = length - t.surplus :=
      congrArg Intake.due hintake
    omega
  have hdraws := read_drawsAll (t := t.begun length) (writeRemaining_begun length t)
    (by rw [hbackend]; exact hline) (Nat.le_of_eq (by rw [hdue, hbackend])) hspare
    (.inr (.inl (by rw [hdue, hbackend])))
  have hresult := hdraws.result
  rwa [readExpected_begun, hready, hbackend, hdue, List.take_length] at hresult

/-- The request of an exchange over a stream goes out at once. -/
theorem awaits_stream {request : Bytes} (answerLength : Nat) (hline : t.backend.line = .up)
    (hr : request ≠ []) :
    (write request (t.asked request.length answerLength)).result = .ok () ∧
      (write request (t.asked request.length answerLength)).state.backend =
        { t.backend with outgoing := t.backend.outgoing ++ [request] } := by
  have hbackend : (t.asked request.length answerLength).backend = t.backend :=
    congrArg Intake.backend (intake_asked request.length answerLength t)
  have hsend := Backend.Stream.sendLoop_up
    (t.asked request.length answerLength).config.maxTimeouts hline
    (t.asked request.length answerLength).config.valid.maxTimeouts_pos hr
  rw [← hbackend] at hsend
  rw [write_asked, ← hbackend]
  exact ⟨congrArg Outcome.result hsend, congrArg Outcome.state hsend⟩

end Transport

/-! ### The registry -/

namespace Registry

open Transport

variable {answer : Answer} {t : Transport Stream}

/-- The state in which the first part of the answer is read. -/
def requested (command : Command) (c : Connection) (t : Transport Stream) : Transport Stream :=
  (write (request command c) (t.asked (request command c).length firstLength)).state

/-- In that state the whole answer is still on the stream. -/
structure Answered (answer : Answer) (t t' : Transport Stream) : Prop
    extends Awaits firstLength t t' where
  line : t'.backend.line = .up
  incoming : t'.backend.incoming = answer.encode
  enough : t'.readRemaining ≤ t'.backend.incoming.length

theorem requested_answered (command : Command) (c : Connection) (hline : t.backend.line = .up)
    (hq : t.backend.incoming = answer.encode) : Answered answer t (requested command c t) := by
  have hawaits : Awaits firstLength t (requested command c t) :=
    awaits_asked (request command c) firstLength t
  have hbackend : (requested command c t).backend =
      { t.backend with outgoing := t.backend.outgoing ++ [request command c] } :=
    (awaits_stream firstLength hline (request_ne_nil command c)).2
  have hincoming : (requested command c t).backend.incoming = answer.encode := by
    rw [hbackend]
    exact hq
  refine ⟨hawaits, ?_, hincoming, ?_⟩
  · rw [hbackend]
    exact hline
  · rw [hawaits.readRemaining, hincoming, Answer.length_encode]
    exact Nat.le_max_left _ _

theorem exchange_requested (command : Command) (c : Connection) (hline : t.backend.line = .up)
    (hq : t.backend.incoming = answer.encode) :
    (opening command c t).result =
        (read (requested command c t).readExpected (requested command c t)).result ∧
      (opening command c t).state =
        (read (requested command c t).readExpected (requested command c t)).state := by
  have hanswered := requested_answered command c hline hq
  have hexpected : (requested command c t).readExpected = firstLength := by
    rw [readExpected_eq, ready_intake, hanswered.ready, due_intake, hanswered.readRemaining]
    rfl
  have hsent := (awaits_stream firstLength hline (request_ne_nil command c)).1
  rw [hexpected, opening, exchange_of_sent (length_request_pos command c) (by decide) hsent,
    Outcome.result_after, Outcome.state_after, requested]
  exact ⟨rfl, rfl⟩

/-- The second part of the answer is what follows the first, whether it was received with it or
not. -/
theorem readRest_of_drawn (hline : t.backend.line = .up)
    (hrest : t.spare ++ t.backend.incoming = answer.encode.drop firstLength) :
    (readRest answer.header.answerLength t).result = .ok (answer.encode.drop firstLength) := by
  have hlength := Answer.length_encode answer
  by_cases hlong : firstLength < answer.header.answerLength
  · have htotal : t.surplus + t.backend.incoming.length =
        answer.header.answerLength - firstLength := by
      rw [← length_spare, ← List.length_append, hrest, List.length_drop]
      omega
    rw [readRest_of_gt hlong, Outcome.result_after, read_begun_queued hline htotal, hrest]
  · -- Nothing was queued beyond the first part, so nothing can be left.
    rw [readRest_of_le (Nat.le_of_not_lt hlong), List.drop_eq_nil_of_le (by omega)]

/-- **An answer that fits is read as it was sent.** -/
theorem exchange_of_fits (command : Command) (c : Connection) (hv : answer.Valid)
    (hline : t.backend.line = .up) (hq : t.backend.incoming = answer.encode)
    (hfits : Intake.Fits t.config firstLength answer.encode.length) :
    (exchange command c t).result = .ok answer := by
  have hanswered := requested_answered command c hline hq
  obtain ⟨hresult, hstate⟩ := exchange_requested command c hline hq
  have hdraws := read_drawsAll hanswered.writeRemaining hanswered.line hanswered.enough
    hanswered.spare
    (by rwa [hanswered.config, hanswered.readRemaining, hanswered.incoming])
  have hfirst : (opening command c t).result = .ok (answer.encode.take firstLength) := by
    rw [hresult, hdraws.result, hanswered.ready, hanswered.incoming, hanswered.readRemaining,
      List.nil_append]
  have hrest := hdraws.rest
  have hline' := hdraws.line
  rw [hanswered.incoming, hanswered.readRemaining, ← hstate] at hrest
  rw [← hstate] at hline'
  exact exchange_of_parts hv hfirst (readRest_of_drawn hline' hrest)

/-- One that does not fit is refused before its end is read. -/
theorem exchange_of_not_fits (command : Command) (c : Connection)
    (hline : t.backend.line = .up) (hq : t.backend.incoming = answer.encode)
    (hfits : ¬Intake.Fits t.config firstLength answer.encode.length) :
    (exchange command c t).result =
      .error (.protocol (.overrun (firstLength % t.config.chunkSize)
        (min t.config.chunkSize
          (answer.encode.length - firstLength + firstLength % t.config.chunkSize)))) := by
  have hanswered := requested_answered command c hline hq
  have hread := read_of_not_fits hanswered.writeRemaining hanswered.line hanswered.enough
    hanswered.spare
    (by rwa [hanswered.config, hanswered.readRemaining, hanswered.incoming])
  rw [hanswered.readRemaining, hanswered.config, hanswered.incoming] at hread
  have hfirst := (exchange_requested command c hline hq).1.trans hread
  rw [exchange_of_error hfirst]

/-- **Registering over a stream.** If the policy keeps what is received too early, or the answer has
no second part, or its first part is a whole number of chunks, the client gets the registration that
the answer encodes. Otherwise the chunk that crosses the end of the first part is refused. -/
theorem register_stream (c : Connection) (hv : answer.Valid) (hh : answer.handle ≠ 0)
    (hline : t.backend.line = .up) (hq : t.backend.incoming = answer.encode) :
    (t.config.overrun = .retain ∨ answer.encode.length = firstLength ∨
        t.config.chunkSize ∣ firstLength →
      (register c t).result = .ok (answer.registration c)) ∧
    (¬(t.config.overrun = .retain ∨ answer.encode.length = firstLength ∨
        t.config.chunkSize ∣ firstLength) →
      (register c t).result =
        .error (.protocol (.overrun (firstLength % t.config.chunkSize)
          (min t.config.chunkSize
            (answer.encode.length - firstLength + firstLength % t.config.chunkSize))))) := by
  constructor
  · intro hfits
    exact register_of_exchange c hh (exchange_of_fits .register c hv hline hq hfits)
  · intro hfits
    rw [register, Run.bind_of_result_error _ (exchange_of_not_fits .register c hline hq hfits)]

/-- An answer with six connections has a second part. A client that keeps what it receives too early
gets it in one piece. -/
theorem register_six_connections :
    let answer : Answer :=
      ⟨2, [1, 2, 3, 4, 5, 6].map fun handle => ⟨handle, 0, IPv4.unspecified, 0, 0, 500⟩, none⟩
    let c := Connection.unregistered 1
    let config : ValidConfig :=
      ⟨{ TransportConfig.default with overrun := .retain }, by decide⟩
    let t := fresh config (Stream.connected.deliver answer.encode)
    answer.Valid ∧ answer.handle ≠ 0 ∧ t.backend.line = .up ∧
      t.backend.incoming = answer.encode ∧
      (register c t).result =
        .ok ⟨{ c with handle := 2, timestamp := 500 }, answer.connections, none⟩ := by
  intro answer c config t
  have hv : answer.Valid := ⟨by decide, by decide, by decide⟩
  have hh : answer.handle ≠ 0 := by decide
  have hline : t.backend.line = .up := rfl
  have hq : t.backend.incoming = answer.encode := List.nil_append _
  have hretain : t.config.overrun = .retain := rfl
  have hregistration : answer.registration c =
      ⟨{ c with handle := 2, timestamp := 500 }, answer.connections, none⟩ := by decide
  have hregister := (register_stream c hv hh hline hq).1 (.inl hretain)
  rw [hregistration] at hregister
  exact ⟨hv, hh, hline, hq, hregister⟩

/-- With what probes expect, the same answer in one piece is refused. -/
theorem register_six_connections_refused :
    let answer : Answer :=
      ⟨2, [1, 2, 3, 4, 5, 6].map fun handle => ⟨handle, 0, IPv4.unspecified, 0, 0, 500⟩, none⟩
    let t := fresh ValidConfig.default (Stream.connected.deliver answer.encode)
    answer.Valid ∧ answer.handle ≠ 0 ∧
      (register (Connection.unregistered 1) t).result =
        .error (.protocol (.overrun 76 104)) := by
  intro answer t
  have hv : answer.Valid := ⟨by decide, by decide, by decide⟩
  have hlength : answer.encode.length = 104 := Answer.length_encode answer
  have hfits : ¬Intake.Fits t.config firstLength answer.encode.length := by
    rw [hlength]
    decide
  have hexchange := exchange_of_not_fits .register (Connection.unregistered 1) rfl
    (List.nil_append _) hfits
  rw [hlength] at hexchange
  refine ⟨hv, by decide, ?_⟩
  rw [register, Run.bind_of_result_error _ hexchange]
  rfl

end Registry

end ProbeLink
