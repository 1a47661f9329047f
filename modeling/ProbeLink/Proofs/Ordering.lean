import Mathlib
import ProbeLink.Backend.Script
import ProbeLink.Proofs.WriteContent

/-!
# ProbeLink.Proofs.Ordering

**All of a command goes out before any of its answer comes in.** An exchange goes through two
phases. As long as its write half still waits for bytes, calls transfer nothing at all: reads are
refused. One call completes it and sends everything. From then on nothing is sent until the next
operation is started (`InOrder`, `inOrder_trace`).

This holds unless the completing call fails in a transfer. Then the operation is over all the same,
and reads are not refused any more.
-/

namespace ProbeLink

/-- Is the call one of those that start an operation? -/
def Call.isStart : Call → Bool
  | .startWrite _ | .startRead _ | .startWriteRead _ _ => true
  | .write _ | .read _ => false

section Calls

variable {σ : Type}

/-- The call starts nothing: it is not one of those that do, or it is refused. -/
def Continues (call : Call) (outcome : Outcome σ Reply) : Prop :=
  call.isStart = true → outcome.result.isOk = false

/-- The call is not a write call that fails in a transfer. -/
def Delivers (call : Call) (outcome : Outcome σ Reply) : Prop :=
  ∀ data, call = .write data →
    ∀ e, outcome.result = .error e → e.kind ≠ .timeout ∧ e.kind ≠ .io

theorem continues_of_not_start {call : Call} {outcome : Outcome σ Reply}
    (h : call.isStart = false) : Continues call outcome := by
  intro hstart
  rw [h] at hstart
  cases hstart

/-- The data that a call adds to the operation in progress. -/
def Call.contribution (outcome : Outcome σ Reply) : Call → Bytes
  | .write data => if outcome.result.isOk then data else []
  | _ => []

theorem Call.contribution_of_start {call : Call} (outcome : Outcome σ Reply)
    (h : call.isStart = true) : call.contribution outcome = [] := by
  cases call with
  | write data => cases h
  | startWrite _ | startRead _ | startWriteRead _ _ | read _ => rfl

end Calls

namespace Transport

variable {β : Type} [Backend β] {t : Transport β}

/-- What every call of a run does has a property. -/
def Throughout (property : Call → Outcome (Transport β) Reply → Prop) :
    List Call → Transport β → Prop
  | [], _ => True
  | call :: later, t =>
    property call (call.perform t) ∧ Throughout property later (call.perform t).state

/-- The data that the calls of a run add to the operation in progress. -/
def contributed : List Call → Transport β → Bytes
  | [], _ => []
  | call :: later, t =>
    call.contribution (call.perform t) ++ contributed later (call.perform t).state

/-! ### Calls that continue an operation -/

/-- A start call that is refused does nothing. -/
theorem perform_of_refused {call : Call} (hstart : call.isStart = true)
    (hrefused : (call.perform t).result.isOk = false) :
    (call.perform t).state = t ∧ (call.perform t).events = [] := by
  cases call with
  | startWrite length =>
    by_cases h : length = 0
    · rw [Call.perform_startWrite, startWrite, if_pos h]
      exact ⟨rfl, rfl⟩
    · rw [Call.perform_startWrite, startWrite, if_neg h] at hrefused
      cases hrefused
  | startRead length =>
    by_cases h : length = 0
    · rw [Call.perform_startRead, startRead, if_pos h]
      exact ⟨rfl, rfl⟩
    · rw [Call.perform_startRead, startRead, if_neg h] at hrefused
      cases hrefused
  | startWriteRead writeLength readLength =>
    by_cases h : writeLength = 0 ∨ readLength = 0
    · rw [Call.perform_startWriteRead, startWriteRead, if_pos h]
      exact ⟨rfl, rfl⟩
    · rw [Call.perform_startWriteRead, startWriteRead, if_neg h] at hrefused
      cases hrefused
  | write data => cases hstart
  | read length => cases hstart

/-- A call that continues an operation starts none and does nothing, or it reads or writes. -/
theorem continues_cases {call : Call} (h : Continues call (call.perform t)) :
    (call.isStart = true ∧ (call.perform t).state = t ∧ (call.perform t).events = []) ∨
      (∃ length, call = .read length) ∨ ∃ data, call = .write data := by
  have hrefused : call.isStart = true → (call.perform t).state = t ∧ (call.perform t).events = [] :=
    fun hstart => perform_of_refused hstart (h hstart)
  cases call with
  | startWrite length => exact .inl ⟨rfl, hrefused rfl⟩
  | startRead length => exact .inl ⟨rfl, hrefused rfl⟩
  | startWriteRead writeLength readLength => exact .inl ⟨rfl, hrefused rfl⟩
  | read length => exact .inr (.inl ⟨length, rfl⟩)
  | write data => exact .inr (.inr ⟨data, rfl⟩)

/-- A read call sends nothing and leaves the write side alone. -/
theorem read_noSend (length : Nat) (h : Regular t) :
    NoSend (read length t).events ∧ SameWriteSide t (read length t).state := by
  obtain ⟨-, hr⟩ | ⟨-, -, hr⟩ | ⟨-, -, hreads⟩ := read_cases h.tidy length
  · rw [hr]
    exact ⟨(quiet_noted _).1, SameWriteSide.refl t⟩
  · rw [hr]
    exact ⟨(quiet_noted _).1, SameWriteSide.refl t⟩
  · rw [hreads.events]
    exact ⟨Intake.noSend_gather _, hreads.writeSide⟩

/-- Without a write operation, writing nothing does nothing. -/
theorem write_nil (h : Regular t) (hw : t.writeRemaining = 0) : write [] t = ⟨.ok (), t, []⟩ := by
  have hbuffered : t.writeBuffered = 0 := h.writeBuffered_eq_zero hw
  have hsame : ({ t with writeRemaining := 0 } : Transport β) = t := by rw [← hw]
  have heq : ([] : Bytes).length = t.writeRemaining := hw.symm
  rw [write_of_eq heq, flush, if_pos hbuffered, hsame, send, Backend.sendAll, Backend.sendLoop]
  rfl

/-! ### One call -/

/-- An exchange of which `content` has been written still waits for bytes, and this call transfers
nothing. -/
structure Waits (declared : Nat) (content : Bytes) (outcome : Outcome (Transport β) Reply) :
    Prop where
  quiet : Quiet outcome.events
  waits : 0 < outcome.state.writeRemaining
  tracks : Tracks outcome.state ⟨declared, content⟩

/-- This call completes an exchange of which `content` has been written, and sends all of it. -/
structure Completes (declared : Nat) (content : Bytes) (outcome : Outcome (Transport β) Reply) :
    Prop where
  noReceive : NoReceive outcome.events
  sent : sentBytes outcome.events = content
  length : content.length = declared
  ended : outcome.state.writeRemaining = 0

omit [Backend β] in
/-- A call that does nothing leaves an exchange as it is. -/
theorem waits_of_nothing {call : Call} {outcome : Outcome (Transport β) Reply} {declared : Nat}
    {content : Bytes} (ht : Tracks t ⟨declared, content⟩) (hw : 0 < t.writeRemaining)
    (hcontribution : call.contribution outcome = []) (hstate : outcome.state = t)
    (hquiet : Quiet outcome.events) :
    Waits declared (content ++ call.contribution outcome) outcome := by
  rw [hcontribution, List.append_nil]
  refine ⟨hquiet, ?_, ?_⟩
  · rwa [hstate]
  · rwa [hstate]

/-- A write call that does not bring all of the missing bytes is refused, or its bytes are staged. -/
theorem write_waits {data : Bytes} {declared : Nat} {content : Bytes}
    (ht : Tracks t ⟨declared, content⟩) (hw : 0 < t.writeRemaining)
    (hne : data.length ≠ t.writeRemaining) :
    Waits declared (content ++ (Call.write data).contribution ((Call.write data).perform t))
      ((Call.write data).perform t) := by
  have hdeclared : content.length + t.writeRemaining = declared := ht.declared
  have hstaged : t.staged = content := ht.staged
  obtain ⟨-, hcall⟩ | ⟨-, -, hcall⟩ | ⟨hlt, -, hcall⟩ | ⟨heq, -⟩ := write_cases data t
  · refine waits_of_nothing ht hw ?_ ?_ ?_ <;> rw [Call.perform_write, hcall]
    · rfl
    · rfl
    · exact quiet_noted _
  · refine waits_of_nothing ht hw ?_ ?_ ?_ <;> rw [Call.perform_write, hcall]
    · rfl
    · rfl
    · exact quiet_noted _
  · have hperform : (Call.write data).perform t = ⟨.ok .done, t.stage data, []⟩ := by
      rw [Call.perform_write, hcall]
      rfl
    have hcontribution : (Call.write data).contribution ((Call.write data).perform t) = data := by
      rw [hperform]
      rfl
    rw [hcontribution, hperform]
    refine ⟨quiet_nil, ?_, ?_, ?_⟩
    · simp only [stage]
      omega
    · simp only [stage, List.length_append]
      omega
    · rw [staged_stage, hstaged]
  · exact absurd heq hne

/-- A write call that succeeds adds its data. -/
theorem contribution_of_ok {data : Bytes} (hok : (write data t).result = .ok ()) :
    (Call.write data).contribution ((Call.write data).perform t) = data := by
  simp [Call.contribution, hok, Except.map, Except.isOk, Except.toBool]

/-- A write call that brings all of the missing bytes sends everything, unless it fails in a
transfer. -/
theorem write_completes {data : Bytes} {declared : Nat} {content : Bytes}
    (ht : Tracks t ⟨declared, content⟩) (heq : data.length = t.writeRemaining)
    (hdelivers : Delivers (.write data) ((Call.write data).perform t)) :
    Completes declared (content ++ (Call.write data).contribution ((Call.write data).perform t))
      ((Call.write data).perform t) := by
  have hdeclared : content.length + t.writeRemaining = declared := ht.declared
  have hstaged : t.staged = content := ht.staged
  have hsends : Sends (t.staged ++ data) (t.flushed data) (write data t) := by
    rw [write_of_eq heq]
    exact flush_sends data t
  cases hresult : (write data t).result with
  | error e =>
    -- The completing call fails in a transfer or not at all.
    obtain ⟨htimeout, hio⟩ := hdelivers data rfl e
      (by rw [Call.perform_write, Outcome.result_map, hresult]; rfl)
    obtain rfl | ⟨cause, rfl⟩ := hsends.cause e hresult
    · exact absurd rfl htimeout
    · exact absurd rfl hio
  | ok u =>
    rw [contribution_of_ok hresult, Call.perform_write]
    refine ⟨hsends.noReceive, ?_, ?_, ?_⟩
    · rw [Outcome.events_map, ← hstaged, hsends.sentBytes_of_ok hresult]
    · rw [List.length_append]
      omega
    · rw [Outcome.state_map, hsends.state]
      rfl

/-- As long as the write half waits for bytes, every call but the one that completes it adds to it
at most. -/
theorem waits_or_flushes {call : Call} {declared : Nat} {content : Bytes}
    (ht : Tracks t ⟨declared, content⟩) (hw : 0 < t.writeRemaining)
    (hcontinues : Continues call (call.perform t)) :
    Waits declared (content ++ call.contribution (call.perform t)) (call.perform t) ∨
      ∃ data, call = .write data ∧ data.length = t.writeRemaining := by
  obtain ⟨hstart, hstate, hevents⟩ | ⟨length, rfl⟩ | ⟨data, rfl⟩ := continues_cases hcontinues
  · have hcontribution := Call.contribution_of_start (call.perform t) hstart
    exact .inl (waits_of_nothing ht hw hcontribution hstate (by rw [hevents]; exact quiet_nil))
  · left
    refine waits_of_nothing ht hw rfl ?_ ?_ <;>
      rw [Call.perform_read, read_of_incomplete hw length]
    · rfl
    · exact quiet_noted _
  · by_cases heq : data.length = t.writeRemaining
    · exact .inr ⟨data, rfl, heq⟩
    · exact .inl (write_waits ht hw heq)

/-- As long as the write half waits for bytes, a call adds to it or completes it. -/
theorem waits_or_completes {call : Call} {declared : Nat} {content : Bytes}
    (ht : Tracks t ⟨declared, content⟩) (hw : 0 < t.writeRemaining)
    (hcontinues : Continues call (call.perform t)) (hdelivers : Delivers call (call.perform t)) :
    Waits declared (content ++ call.contribution (call.perform t)) (call.perform t) ∨
      Completes declared (content ++ call.contribution (call.perform t)) (call.perform t) := by
  obtain hwaits | ⟨data, rfl, heq⟩ := waits_or_flushes ht hw hcontinues
  · exact .inl hwaits
  · exact .inr (write_completes ht heq hdelivers)

/-- Once the write half is over, a call sends nothing and adds nothing. -/
theorem idle_perform {call : Call} (h : Regular t) (hw : t.writeRemaining = 0)
    (hcontinues : Continues call (call.perform t)) :
    NoSend (call.perform t).events ∧ (call.perform t).state.writeRemaining = 0 ∧
      call.contribution (call.perform t) = [] := by
  obtain ⟨hstart, hstate, hevents⟩ | ⟨length, rfl⟩ | ⟨data, rfl⟩ := continues_cases hcontinues
  · rw [Call.contribution_of_start _ hstart, hstate, hevents]
    exact ⟨noSend_nil, hw, rfl⟩
  · obtain ⟨hsend, hside⟩ := read_noSend length h
    rw [Call.perform_read]
    exact ⟨hsend, hside.writeRemaining.trans hw, rfl⟩
  · rw [Call.perform_write]
    cases data with
    | nil =>
      rw [write_nil h hw]
      exact ⟨noSend_nil, hw, rfl⟩
    | cons byte later =>
      have hgt : t.writeRemaining < (byte :: later).length := by
        rw [hw]
        exact Nat.succ_pos _
      rw [write_of_gt hgt]
      exact ⟨(quiet_noted _).1, hw, rfl⟩

/-! ### Runs -/

theorem throughout_append {property : Call → Outcome (Transport β) Reply → Prop}
    (calls later : List Call) (t : Transport β) :
    Throughout property (calls ++ later) t ↔
      Throughout property calls t ∧ Throughout property later (t.after calls) := by
  induction calls generalizing t with
  | nil => exact ⟨fun h => ⟨trivial, h⟩, fun h => h.2⟩
  | cons call calls ih =>
    rw [List.cons_append, Throughout, Throughout, ih, after_cons, and_assoc]

theorem idle_trace {during : List Call} (h : Regular t) (hw : t.writeRemaining = 0)
    (hcontinues : Throughout Continues during t) :
    NoSend (t.trace during) ∧ contributed during t = [] ∧
      (t.after during).writeRemaining = 0 := by
  induction during generalizing t with
  | nil => exact ⟨noSend_nil, rfl, hw⟩
  | cons call later ih =>
    obtain ⟨hsend, hremaining, hcontribution⟩ := idle_perform h hw hcontinues.1
    obtain ⟨hsends, hcontributed, hafter⟩ := ih (regular_perform call t h) hremaining hcontinues.2
    rw [trace_cons, contributed, hcontribution, hcontributed]
    exact ⟨noSend_append.2 ⟨hsend, hsends⟩, rfl, hafter⟩

/-- The events of an exchange of which `content` has been written: nothing was transferred yet, or
first all of the declared bytes went out and then nothing more. -/
def InOrder (declared : Nat) (content : Bytes) (events : List Event) : Prop :=
  Quiet events ∨
    ∃ out back, events = out ++ back ∧ NoReceive out ∧ NoSend back ∧ sentBytes out = content ∧
      content.length = declared

/-- **All of a command goes out before any of its answer comes in.** -/
theorem inOrder_trace {during : List Call} {declared : Nat} {content : Bytes} (h : Regular t)
    (ht : Tracks t ⟨declared, content⟩) (hw : 0 < t.writeRemaining)
    (hcontinues : Throughout Continues during t) (hdelivers : Throughout Delivers during t) :
    InOrder declared (content ++ contributed during t) (t.trace during) := by
  -- What has been written grows by what each call contributes, until one completes it.
  induction during generalizing t content with
  | nil => exact .inl quiet_nil
  | cons call later ih =>
    have hregular := regular_perform call t h
    rw [trace_cons, contributed, ← List.append_assoc]
    rcases waits_or_completes ht hw hcontinues.1 hdelivers.1 with hwaits | hcompletes
    · rcases ih hregular hwaits.tracks hwaits.waits hcontinues.2 hdelivers.2 with
        hquiet | ⟨out, back, htrace, hreceive, hsend, hsent, hlength⟩
      · exact .inl (quiet_append.2 ⟨hwaits.quiet, hquiet⟩)
      · refine .inr ⟨(call.perform t).events ++ out, back, ?_, ?_, hsend, ?_, hlength⟩
        · rw [htrace, List.append_assoc]
        · exact noReceive_append.2 ⟨hwaits.quiet.2, hreceive⟩
        · rw [sentBytes_append, sentBytes_eq_nil hwaits.quiet.1, List.nil_append, hsent]
    · obtain ⟨hsend, hcontributed, -⟩ := idle_trace hregular hcompletes.ended hcontinues.2
      rw [hcontributed, List.append_nil]
      exact .inr ⟨_, _, rfl, hcompletes.noReceive, hsend, hcompletes.sent, hcompletes.length⟩

/-- Seen from any receive: everything went out before it, and nothing goes out after it. -/
theorem InOrder.at_receive {declared : Nat} {content : Bytes} {before after : List Event}
    {event : Event} (h : InOrder declared content (before ++ event :: after))
    (hevent : event.isReceive = true) :
    sentBytes before = content ∧ content.length = declared ∧ NoSend after := by
  rcases h with hquiet | ⟨out, back, hsplit, hreceive, hsend, hsent, hlength⟩
  · have hnone := hquiet.2 event (List.mem_append_right _ List.mem_cons_self)
    rw [hevent] at hnone
    cases hnone
  · -- The receive is not among the events that receive nothing, so it comes after all of these.
    obtain ⟨rest, hbefore, hback⟩ : ∃ rest, before = out ++ rest ∧ back = rest ++ event :: after := by
      refine (place_of_append hsplit.symm).resolve_left ?_
      rintro ⟨rest, hout⟩
      have hnone := hreceive event (hout ▸ List.mem_append_right _ List.mem_cons_self)
      rw [hevent] at hnone
      cases hnone
    rw [hback] at hsend
    obtain ⟨hrest, hlater⟩ := noSend_append.1 hsend
    refine ⟨?_, hlength, fun event hmem => hlater event (List.mem_cons_of_mem _ hmem)⟩
    rw [hbefore, sentBytes_append, sentBytes_eq_nil hrest, List.append_nil, hsent]

/-- A call that receives something is a read call, made once no operation waits to be written. -/
theorem idle_of_receive {call : Call} (h : Regular t)
    (hreceive : ¬NoReceive (call.perform t).events) :
    t.writeRemaining = 0 ∧ SameWriteSide t (call.perform t).state := by
  cases call with
  | startWrite length => exact absurd (by simpa using (quiet_startWrite length t).2) hreceive
  | startRead length => exact absurd (by simpa using (quiet_startRead length t).2) hreceive
  | startWriteRead writeLength readLength =>
    exact absurd (by simpa using (quiet_startWriteRead writeLength readLength t).2) hreceive
  | write data =>
    exact absurd (by simpa using (write_leavesReadSide data t).noReceive) hreceive
  | read length =>
    rw [Call.perform_read] at hreceive ⊢
    refine ⟨Nat.eq_zero_of_not_pos fun hw => hreceive ?_, (read_noSend length h).2⟩
    rw [read_of_incomplete hw length]
    exact (quiet_noted _).2

/-- **Writing comes before reading.** After any run of calls:

* a read call is refused as long as the operation waits to be written, and then does nothing;
* whatever is received is received with nothing left to be written and nothing staged;
* from the start of an exchange until the next operation is started, unless a write call fails in a
  transfer, every receive comes after all of the declared bytes and before no send. -/
theorem writes_before_reads (config : ValidConfig) (backend : β) (calls : List Call) :
    let t := (fresh config backend).after calls
    (0 < t.writeRemaining → ∀ length,
        (read length t).result = .error (.argument (.writeIncomplete t.writeRemaining)) ∧
          (read length t).state = t ∧ Quiet (read length t).events) ∧
      (∀ call : Call, ¬NoReceive (call.perform t).events →
        t.writeRemaining = 0 ∧ t.writeBuffered = 0 ∧
          (call.perform t).state.writeRemaining = 0 ∧ (call.perform t).state.writeBuffered = 0) ∧
      ∀ writeLength readLength during,
        let started := startWriteRead writeLength readLength t
        started.result = .ok () → Throughout Continues during started.state →
          Throughout Delivers during started.state →
            ∀ before event after, started.state.trace during = before ++ event :: after →
              event.isReceive = true →
                sentBytes before = contributed during started.state ∧
                  (sentBytes before).length = writeLength ∧ NoSend after := by
  intro t
  have hregular : Regular t := regular_after calls (regular_fresh config backend)
  refine ⟨?_, ?_, ?_⟩
  · intro hw length
    rw [read_of_incomplete hw length]
    exact ⟨rfl, rfl, quiet_noted _⟩
  · intro call hreceive
    obtain ⟨hw, hside⟩ := idle_of_receive hregular hreceive
    have hb : t.writeBuffered = 0 := hregular.writeBuffered_eq_zero hw
    exact ⟨hw, hb, hside.writeRemaining.trans hw, hside.writeBuffered.trans hb⟩
  · intro writeLength readLength during started hok hcontinues hdelivers before event after htrace
      hevent
    have htracks := tracks_startWriteRead hok
    have hdeclared : 0 + started.state.writeRemaining = writeLength := htracks.declared
    have hwaits : 0 < started.state.writeRemaining := by
      have := (startWriteRead_ok_iff.1 hok).1
      omega
    have horder := inOrder_trace (regular_startWriteRead hregular) htracks hwaits hcontinues
      hdelivers
    rw [htrace] at horder
    obtain ⟨hsent, hlength, hlater⟩ := horder.at_receive hevent
    exact ⟨hsent, hsent ▸ hlength, hlater⟩

/-- A read call that comes too early is refused; the one after the last write call gets the
answer. -/
theorem writes_before_reads_early :
    let t := fresh ⟨⟨4, 8, 1000, 2, .reject⟩, by decide⟩ (⟨[.moved [9, 9]], []⟩ : Backend.Script)
    let during : List Call := [.write [1, 2], .read 1, .write [3], .read 2]
    let started := (startWriteRead 3 2 t).state
    let before : List Event := [.noted (.readBeforeWrite 1), .sent [1, 2, 3] (.moved 3)]
    Throughout Continues during started ∧ Throughout Delivers during started ∧
      started.trace during = before ++ [.received 4 (.moved [9, 9])] ∧
      sentBytes before = contributed during started ∧ (sentBytes before).length = 3 := by
  intro t during started before
  have hcontinues : Throughout Continues during started :=
    ⟨continues_of_not_start rfl, continues_of_not_start rfl, continues_of_not_start rfl,
      continues_of_not_start rfl, trivial⟩
  have hdelivers : Throughout Delivers during started := by
    refine ⟨?_, ?_, ?_, ?_, trivial⟩ <;> intro data hdata e he <;> cases hdata
    · cases he
    · have hok : ((Call.write [3]).perform (started.after [.write [1, 2], .read 1])).result =
          .ok .done := by cbv
      cases hok.symm.trans he
  have htrace : started.trace during = before ++ [.received 4 (.moved [9, 9])] := by cbv
  obtain ⟨-, -, horder⟩ := writes_before_reads t.config t.backend []
  obtain ⟨hsent, hlength, -⟩ :=
    horder 3 2 during rfl hcontinues hdelivers before _ [] htrace rfl
  exact ⟨hcontinues, hdelivers, htrace, hsent, hlength⟩

end Transport

end ProbeLink
