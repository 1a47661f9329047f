import ProbeLink.Proofs.Pieces
import ProbeLink.Proofs.RegistryCalls

/-!
# ProbeLink.Proofs.RegistryRoundTrip

**A client of the registry gets what the device has encoded**, wherever the answer is cut on its way.
The answer is read in two operations. What was received with the first of them and belongs to the
second is taken over by it, and is never too long for it, because the answer ends there
(`readRest_of_opened`). So the two together return the whole answer (`exchange_of_answered`), and the
codec gives back the table and the information text that went into it (`registry_round_trip`).
-/

namespace ProbeLink

namespace Registry

open Transport

variable {β : Type} [Backend β] {t : Transport β} {answer : Answer} {pieces : List Bytes}

/-! ### The two parts -/

/-- What the second operation of an exchange does when the pieces of the answer make up both. -/
structure GetsRest (answer : Answer) (outcome : Outcome (Transport β) Bytes) : Prop where
  result : outcome.result = .ok (answer.encode.drop firstLength)
  noSend : NoSend outcome.events

/-- **The second part is what is left of the pieces**, received with the first part or not. -/
theorem readRest_of_opened {later : List Bytes} (hsupplies : Backend.Supplies t.config later t.backend)
    (hrest : t.spare ++ later.flatten = answer.encode.drop firstLength) :
    GetsRest answer (readRest answer.header.answerLength t) := by
  have hlength := Answer.length_encode answer
  by_cases hlong : firstLength < answer.header.answerLength
  · -- Exactly the rest is there or to come, so the surplus fits into the operation.
    have htotal : t.surplus + later.flatten.length = answer.header.answerLength - firstLength := by
      rw [← length_spare, ← List.length_append, hrest, List.length_drop]
      omega
    rw [readRest_of_gt hlong]
    generalize answer.header.answerLength - firstLength = length at htotal ⊢
    have hadopted : t.adopted length = t.spare := if_pos (by omega)
    have hintake := intake_begun length t
    rw [hadopted, length_spare] at hintake
    have hbackend : (t.begun length).backend = t.backend := congrArg Intake.backend hintake
    have hready : (t.begun length).ready = t.spare := congrArg Intake.ready hintake
    have hspare : (t.begun length).spare = [] := congrArg Intake.spare hintake
    have hdue : (t.begun length).readRemaining = later.flatten.length := by
      have hremaining : (t.begun length).readRemaining = length - t.surplus :=
        congrArg Intake.due hintake
      omega
    have hsupplies' : Backend.Supplies (t.begun length).config later (t.begun length).backend := by
      rwa [hbackend, config_begun]
    have hcut : CutAt (t.begun length).readRemaining later := by
      rw [hdue]
      exact cutAt_all later
    have hobtains := read_obtains (writeRemaining_begun length t) hsupplies' hspare
      (Nat.le_of_eq hdue) (.inr hcut)
    have hresult := hobtains.result
    rw [readExpected_begun] at hobtains hresult
    rw [hready, hdue, List.take_length, hrest] at hresult
    exact ⟨hresult, noSend_append.2 ⟨(quiet_startRead length t).1, hobtains.noSend⟩⟩
  · rw [readRest_of_le (Nat.le_of_not_lt hlong)]
    refine ⟨?_, noSend_nil⟩
    rw [List.drop_eq_nil_of_le (by omega)]

/-- **An answer in pieces is read as it was sent**, in reply to the request. -/
theorem exchange_of_answered (command : Command) (c : Connection) (hv : answer.Valid)
    (hserved : Served (request command c) pieces t) (hpieces : pieces.flatten = answer.encode)
    (hcut : t.config.overrun = .retain ∨ CutAt firstLength pieces) :
    (exchange command c t).result = .ok answer ∧
      sentBytes (exchange command c t).events = request command c := by
  have henough : firstLength ≤ pieces.flatten.length := by
    rw [hpieces, Answer.length_encode]
    exact Nat.le_max_left _ _
  have hopened : Exchanged (request command c) firstLength pieces t (opening command c t) :=
    exchange_of_served (length_request_pos command c) (by decide) hserved henough hcut
  obtain ⟨later, hsupplies, hrest⟩ := hopened.rest
  rw [← hopened.config] at hsupplies
  have hfirst := hopened.result
  rw [hpieces] at hrest hfirst
  have hsecond : GetsRest answer
      (readRest answer.header.answerLength (opening command c t).state) :=
    readRest_of_opened hsupplies hrest
  refine ⟨exchange_of_parts hv hfirst hsecond.result, ?_⟩
  have hheader := Answer.decode_first hv
  have hfault : (Header.decode (answer.encode.take firstLength)).fault? = none := by
    rw [hheader, Answer.fault?_header hv]
  rw [exchange_of_opened hfirst hfault, hheader, Outcome.events_after, Outcome.events_map,
    sentBytes_append, hopened.sent, sentBytes_eq_nil hsecond.noSend, List.append_nil]

/-! ### The round trip -/

/-- The information text of an answer, as it is read back. -/
def textOf (info : Bytes) : Option Bytes := if info = [] then none else some info

theorem textOf_getD (info : Bytes) : (textOf info).getD [] = info := by
  unfold textOf
  split
  · next h => exact h.symm
  · rfl

/-- The bytes of a request, in their order on the wire. -/
theorem request_eq (command : Command) (c : Connection) :
    request command c = [0x09, command.code] ++ Bytes.ofNat 4 c.pid.toNat ++
      [c.hid.a, c.hid.b, c.hid.c, c.hid.d, c.iid, c.cid] ++ Bytes.ofNat 2 c.handle.toNat := by
  simp only [request, IPv4.octets, List.append_assoc, List.cons_append, List.nil_append]

/-- **A client of the registry gets what the device has encoded.** Let the device take the request,
and answer with any table and any information text that fit, cut into pieces wherever it likes if the
policy keeps what is received too early, and with one cut after the part that always comes if it does
not. Then unregistering returns the table and the text, and registering returns them together with
the connection that they describe. Nothing but the request goes out: the command, the process, the
host's address, two numbers of the client's own, and its handle. -/
theorem registry_round_trip (t : Transport β) (c : Connection) (handle : UInt16)
    (table : List Connection) (info : Bytes) (pieces : List Bytes)
    (hcount : table.length ≤ maxConnections)
    (hlength : headerLength + table.length * Connection.entryLength + info.length ≤ maxLength)
    (hpieces : pieces.flatten = Answer.encode ⟨handle, table, textOf info⟩)
    (hcut : t.config.overrun = .retain ∨ CutAt firstLength pieces) :
    (Served (request .unregister c) pieces t →
      (unregister c t).result = .ok ⟨table, textOf info⟩ ∧
        sentBytes (unregister c t).events = [0x09, 0x65] ++ Bytes.ofNat 4 c.pid.toNat ++
          [c.hid.a, c.hid.b, c.hid.c, c.hid.d, c.iid, c.cid] ++ Bytes.ofNat 2 c.handle.toNat) ∧
    (Served (request .register c) pieces t → handle ≠ 0 →
      ∃ registration, (register c t).result = .ok registration ∧
        registration.connections = table ∧
        registration.info = textOf info ∧
        registration.connection =
          { c with
            handle := handle
            timestamp := ((table.find? fun entry => entry.handle = handle).map
              Connection.timestamp).getD c.timestamp } ∧
        registration.others = table.filter (fun entry => entry.handle ≠ handle) ∧
        sentBytes (register c t).events = [0x09, 0x64] ++ Bytes.ofNat 4 c.pid.toNat ++
          [c.hid.a, c.hid.b, c.hid.c, c.hid.d, c.iid, c.cid] ++ Bytes.ofNat 2 c.handle.toNat) := by
  have hv : Answer.Valid ⟨handle, table, textOf info⟩ := by
    refine ⟨hcount, ?_, ?_⟩
    · rw [Answer.answerLength_header, Answer.text, textOf_getD]
      exact hlength
    · intro hempty
      have hnil := congrArg (Option.getD · []) hempty
      simp only [textOf_getD, Option.getD_some] at hnil
      simp [textOf, hnil] at hempty
  constructor
  · intro hserved
    obtain ⟨hresult, hsent⟩ := exchange_of_answered .unregister c hv hserved hpieces hcut
    rw [unregister_eq, Outcome.result_map, hresult]
    exact ⟨rfl, hsent.trans (request_eq .unregister c)⟩
  · intro hserved hh
    obtain ⟨hresult, hsent⟩ := exchange_of_answered .register c hv hserved hpieces hcut
    rw [register_of_handle hresult hh]
    exact ⟨_, rfl, rfl, rfl, rfl, rfl, hsent.trans (request_eq .register c)⟩

/-- A table of six connections and a text, in pieces of a chunk of 16 bytes: the first part of the
answer ends inside a piece. -/
theorem round_trip_in_chunks :
    let table : List Connection :=
      [1, 2, 3, 4, 5, 6].map fun handle => ⟨handle, 0, IPv4.unspecified, 0, 0, 500⟩
    let info : Bytes := [7, 7, 7]
    let pieces := Answer.entries 7 (Answer.encode ⟨2, table, textOf info⟩)
    let config : ValidConfig := ⟨⟨16, 32, 1000, 2, .retain⟩, by decide⟩
    let t := fresh config (⟨pieces.map .moved, []⟩ : Backend.Script)
    let c : Connection := ⟨6, 0x04030201, ⟨10, 0, 0, 9⟩, 4, 5, 0⟩
    (register c t).result =
        .ok ⟨{ c with handle := 2, timestamp := 500 }, table, some info⟩ ∧
      sentBytes (register c t).events = [0x09, 0x64, 1, 2, 3, 4, 10, 0, 0, 9, 4, 5, 6, 0] ∧
      (unregister c t).result = .ok ⟨table, some info⟩ ∧
      sentBytes (unregister c t).events = [0x09, 0x65, 1, 2, 3, 4, 10, 0, 0, 9, 4, 5, 6, 0] := by
  intro table info pieces config t c
  have hpieces : pieces.flatten = Answer.encode ⟨2, table, textOf info⟩ := by decide +kernel
  have hfit : ∀ piece ∈ pieces, piece ≠ [] ∧ piece.length ≤ config.chunkSize := by decide +kernel
  obtain ⟨hunregister, hregister⟩ := registry_round_trip t c 2 table info pieces (by decide)
    (by decide) hpieces (.inl rfl)
  obtain ⟨hleft, hlast⟩ := hunregister (Backend.Script.served _ hfit)
  obtain ⟨registration, hresult, hconnections, hinfo, hconnection, -, hsent⟩ :=
    hregister (Backend.Script.served _ hfit) (by decide)
  refine ⟨?_, hsent.trans (by decide), hleft, hlast.trans (by decide)⟩
  rw [hresult]
  obtain ⟨connection, connections, text⟩ := registration
  subst hconnections hinfo hconnection
  rfl

end Registry

end ProbeLink
