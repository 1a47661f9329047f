import ProbeLink.Proofs.Reading
import ProbeLink.Proofs.Writing
import ProbeLink.Transport.Exchange

/-!
# ProbeLink.Proofs.Exchange

**An exchange reads the answer to its own request.** Whatever an earlier call left behind, the
request goes out whole, and once it is out the read side holds nothing but the answer that is due
(`exchange_of_sent`).
-/

namespace ProbeLink.Transport

variable {β : Type} [Backend β] {t : Transport β} {request : Bytes} {answerLength : Nat}

/-- The request of an exchange goes out past the scratch buffer. -/
theorem write_asked (request : Bytes) (answerLength : Nat) (t : Transport β) :
    write request (t.asked request.length answerLength) =
      send request { t.asked request.length answerLength with writeRemaining := 0 } := by
  have hside := sameWriteSide_asked request.length answerLength t
  have hremaining : (t.asked request.length answerLength).writeRemaining = request.length :=
    hside.writeRemaining
  have hbuffered : (t.asked request.length answerLength).writeBuffered = 0 := hside.writeBuffered
  rw [write, if_neg (by omega), if_neg (by omega), flush, if_pos hbuffered]

/-- So it is sent as it would be over the backend that was there before. -/
theorem write_asked_outcome (request : Bytes) (answerLength : Nat) (t : Transport β) :
    let sent := Backend.sendAll t.config.maxTimeouts request t.backend
    let written := write request (t.asked request.length answerLength)
    written.result = sent.result ∧ written.events = sent.events ∧
      written.state.backend = sent.state := by
  rw [write_asked, asked_eq]
  exact ⟨rfl, rfl, rfl⟩

/-- What a transport is like when the request of an exchange has been sent. -/
structure Awaits (answerLength : Nat) (t t' : Transport β) : Prop where
  config : t'.config = t.config
  writeRemaining : t'.writeRemaining = 0
  readRemaining : t'.readRemaining = answerLength
  ready : t'.ready = []
  spare : t'.spare = []

omit [Backend β] in
/-- All of the answer is still to come. -/
theorem Awaits.readExpected {answerLength : Nat} {t t' : Transport β}
    (h : Awaits answerLength t t') : t'.readExpected = answerLength := by
  rw [readExpected_eq, ready_intake, h.ready, due_intake, h.readRemaining]
  exact Nat.zero_add _

omit [Backend β] in
theorem Awaits.tidy {answerLength : Nat} {t t' : Transport β} (h : Awaits answerLength t t') :
    t'.intake.Tidy :=
  fun hne => absurd h.spare hne

theorem awaits_asked (request : Bytes) (answerLength : Nat) (t : Transport β) :
    Awaits answerLength t (write request (t.asked request.length answerLength)).state := by
  have hintake := intake_asked request.length answerLength t
  have hdue : (t.asked request.length answerLength).readRemaining = answerLength :=
    congrArg Intake.due hintake
  have hready : (t.asked request.length answerLength).ready = [] := congrArg Intake.ready hintake
  have hspare : (t.asked request.length answerLength).spare = [] := congrArg Intake.spare hintake
  rw [write_asked]
  exact ⟨(sameWriteSide_asked request.length answerLength t).config, rfl, hdue, hready, hspare⟩

/-- **An exchange whose request is sent reads the answer.** -/
theorem exchange_of_sent (hr : 0 < request.length) (ha : 0 < answerLength)
    (hsent : (write request (t.asked request.length answerLength)).result = .ok ()) :
    exchange request answerLength t =
      (read answerLength (write request (t.asked request.length answerLength)).state).after
        ((startWriteRead request.length answerLength t).events ++
          (write request (t.asked request.length answerLength)).events) := by
  have hstart := startWriteRead_of_pos hr ha t
  have hrest := Run.bind_of_result_ok (fun _ => read answerLength) hsent
  refine (Run.bind_of_ok (fun _ => write request >>= fun _ => read answerLength) hstart).trans ?_
  rw [hrest]
  simp only [Outcome.after, List.append_assoc]

end ProbeLink.Transport
