import Mathlib
import ProbeLink.Backend.Script
import ProbeLink.Proofs.Failures
import ProbeLink.Proofs.Reachable

/-!
# ProbeLink.Proofs.Budget

**How long a call keeps trying.** A call gives up exactly when as many attempts in a row as the tuning
allows have moved nothing, fails exactly at the first failure of the connection before that, and goes
on otherwise (`retry_budget`).

A call is a row of loops: a write sends one or two blocks, a read receives piece after piece. The
loops keep the budget in different ways. Sending renews it with all progress, receiving is over with
the first progress. What they have in common is a matter of the attempts alone: the idle ones at the
end of the row so far and the tries that are left make up the budget (`sendLoop_spends`,
`receiveLoop_spends`). A loop that succeeds leaves no idle ones, so the next begins with a full budget
(`Spends.prepend`).
-/

namespace ProbeLink

/-! ### Attempts -/

namespace Event

/-- The attempt moved nothing, without a failure of the connection. -/
def isIdle : Event → Bool
  | .sent _ (.moved 0) => true
  | .sent _ (.timedOut 0) => true
  | .received _ (.moved []) => true
  | .received _ (.timedOut []) => true
  | _ => false

/-- The failure of the connection that an attempt ended with, whatever its kind. -/
def fault? : Event → Option IoError
  | .sent _ (.failed cause) => some cause
  | .received _ (.failed cause) => some cause
  | _ => none

theorem isIdle_sent (offered : Bytes) (attempt : Attempt Nat) :
    (Event.sent offered attempt).isIdle = match attempt.progress with
      | .ok 0 => true
      | _ => false := by
  rcases attempt with (_ | n) | (_ | n) | cause <;> rfl

theorem isIdle_received (capacity : Nat) (attempt : Attempt Bytes) :
    (Event.received capacity attempt).isIdle = match attempt.progress with
      | .ok [] => true
      | _ => false := by
  rcases attempt with (_ | ⟨byte, rest⟩) | (_ | ⟨byte, rest⟩) | cause <;> rfl

theorem fault?_sent (offered : Bytes) (attempt : Attempt Nat) :
    (Event.sent offered attempt).fault? = match attempt.progress with
      | .error cause => some cause
      | .ok _ => none := by
  cases attempt <;> rfl

theorem fault?_received (capacity : Nat) (attempt : Attempt Bytes) :
    (Event.received capacity attempt).fault? = match attempt.progress with
      | .error cause => some cause
      | .ok _ => none := by
  cases attempt <;> rfl

end Event

/-- The failures of the connection, in order. -/
def faults (attempts : List Event) : List IoError := attempts.filterMap Event.fault?

/-- So many attempts in a row moved nothing. -/
def Stalls (count : Nat) (attempts : List Event) : Prop :=
  ∃ before idle after, attempts = before ++ idle ++ after ∧ idle.length = count ∧
    ∀ event ∈ idle, event.isIdle = true

/-- How many attempts at the end of a row moved nothing. -/
def idleRun (attempts : List Event) : Nat := (attempts.reverse.takeWhile Event.isIdle).length

@[simp] theorem faults_nil : faults [] = [] := rfl

@[simp] theorem faults_append (before after : List Event) :
    faults (before ++ after) = faults before ++ faults after :=
  List.filterMap_append

@[simp] theorem idleRun_nil : idleRun [] = 0 := rfl

theorem idleRun_concat_of_idle {event : Event} (past : List Event) (h : event.isIdle = true) :
    idleRun (past ++ [event]) = idleRun past + 1 := by
  rw [idleRun, List.reverse_append, List.reverse_singleton, List.singleton_append,
    List.takeWhile_cons_of_pos h, List.length_cons, idleRun]

theorem idleRun_concat_of_busy {event : Event} (past : List Event) (h : event.isIdle = false) :
    idleRun (past ++ [event]) = 0 := by
  have hnot : ¬event.isIdle = true := by
    rw [h]
    exact Bool.false_ne_true
  rw [idleRun, List.reverse_append, List.reverse_singleton, List.singleton_append,
    List.takeWhile_cons_of_neg hnot, List.length_nil]

/-- So many attempts in a row moved nothing if they were, at some time, the last of the row. -/
theorem stalls_iff {count : Nat} {attempts : List Event} :
    Stalls count attempts ↔
      ∃ before after, attempts = before ++ after ∧ count ≤ idleRun before := by
  constructor
  · rintro ⟨before, idle, after, rfl, rfl, hidle⟩
    refine ⟨before ++ idle, after, rfl, ?_⟩
    rw [idleRun, List.reverse_append, List.takeWhile_append_of_pos (by simpa using hidle),
      List.length_append, List.length_reverse]
    exact Nat.le_add_right _ _
  · rintro ⟨before, after, rfl, hcount⟩
    -- The last of the row, cut down to the number that is asked for.
    have hrow := List.takeWhile_append_dropWhile (p := Event.isIdle) (l := before.reverse)
    rw [← List.take_append_drop count (before.reverse.takeWhile Event.isIdle),
      List.append_assoc] at hrow
    refine ⟨((before.reverse.takeWhile Event.isIdle).drop count ++
        before.reverse.dropWhile Event.isIdle).reverse,
      ((before.reverse.takeWhile Event.isIdle).take count).reverse, after, ?_, ?_, ?_⟩
    · rw [← List.reverse_append, hrow, List.reverse_reverse]
    · rw [List.length_reverse, List.length_take]
      exact Nat.min_eq_left hcount
    · intro event hmem
      have hin := List.mem_of_mem_take (List.mem_reverse.1 hmem)
      exact List.all_eq_true.1 List.all_takeWhile event hin

/-! ### Rows of attempts -/

/-- After `past`, there was another attempt only as long as fewer than `budget` attempts at the end
of the row had moved nothing and the connection had not failed. -/
def GoesOn (budget : Nat) (past attempts : List Event) : Prop :=
  ∀ before event after, attempts = before ++ event :: after →
    idleRun (past ++ before) < budget ∧ faults before = []

/-- How a call ends, by the number of idle attempts at the end of the row and by the failures of the
connection. -/
inductive Ends {α : Type} (budget : Nat) (direction : Direction) :
    Nat → List IoError → Except Error α → Prop
  | done (value : α) : Ends budget direction 0 [] (.ok value)
  | overran (expected received : Nat) :
    Ends budget direction 0 [] (.error (.protocol (.overrun expected received)))
  | gaveUp : Ends budget direction budget [] (.error (.timeout direction))
  | failed (cause : IoError) : Ends budget direction 0 [cause] (.error (.io direction cause))

section Ends

variable {α γ : Type} {budget idle : Nat} {direction : Direction} {failures : List IoError}
  {result : Except Error α}

/-- The end of a call does not depend on its value. -/
theorem Ends.map (f : α → γ) (h : Ends budget direction idle failures result) :
    Ends budget direction idle failures (result.map f) := by
  cases h with
  | done value => exact .done (f value)
  | overran expected received => exact .overran expected received
  | gaveUp => exact .gaveUp
  | failed cause => exact .failed cause

/-- A part that succeeds has met no failure, and the next begins with a full budget. -/
theorem Ends.of_ok {value : α} (h : Ends budget direction idle failures (.ok value)) :
    idle = 0 ∧ failures = [] := by
  cases h with
  | done value => exact ⟨rfl, rfl⟩

theorem Ends.gaveUp_iff (h : Ends budget direction idle failures result) (hbudget : 0 < budget) :
    result = .error (.timeout direction) ↔ budget ≤ idle := by
  cases h with
  | done value => exact iff_of_false (fun h => nomatch h) (Nat.not_le_of_lt hbudget)
  | overran expected received => exact iff_of_false (fun h => nomatch h) (Nat.not_le_of_lt hbudget)
  | gaveUp => exact iff_of_true rfl (Nat.le_refl _)
  | failed cause => exact iff_of_false (fun h => nomatch h) (Nat.not_le_of_lt hbudget)

theorem Ends.failed_iff (h : Ends budget direction idle failures result) (cause : IoError) :
    result = .error (.io direction cause) ↔ failures = [cause] := by
  cases h with
  | done value => exact iff_of_false (fun h => nomatch h) (fun h => nomatch h)
  | overran expected received => exact iff_of_false (fun h => nomatch h) (fun h => nomatch h)
  | gaveUp => exact iff_of_false (fun h => nomatch h) (fun h => nomatch h)
  | failed cause' => simp

end Ends

/-- A row of attempts that follows `past` goes on while it may, and ends as it must. -/
structure Spends {α : Type} (budget : Nat) (direction : Direction) (past attempts : List Event)
    (result : Except Error α) : Prop where
  goesOn : GoesOn budget past attempts
  ends : Ends budget direction (idleRun (past ++ attempts)) (faults attempts) result

theorem goesOn_nil (budget : Nat) (past : List Event) : GoesOn budget past [] := by
  intro before event after h
  exact absurd h.symm (by simp)

theorem goesOn_one {budget : Nat} {past : List Event} (event : Event)
    (h : idleRun past < budget) : GoesOn budget past [event] := by
  intro before event' after heq
  cases before with
  | nil =>
    rw [List.append_nil]
    exact ⟨h, rfl⟩
  | cons first before => simp at heq

theorem GoesOn.append {budget : Nat} {past attempts later : List Event}
    (h : GoesOn budget past attempts) (hfaults : faults attempts = [])
    (h' : GoesOn budget (past ++ attempts) later) : GoesOn budget past (attempts ++ later) := by
  intro before event after heq
  obtain ⟨rest, hfirst⟩ | ⟨rest, rfl, hlater⟩ := place_of_append heq
  · exact h before event rest hfirst
  · obtain ⟨hidle, hnone⟩ := h' rest event after hlater
    rw [← List.append_assoc, faults_append, hfaults, hnone]
    exact ⟨hidle, rfl⟩

/-- A row that begins with attempts that let the call go on is as good as the rest of it. -/
theorem Spends.prepend {α : Type} {budget : Nat} {direction : Direction}
    {past attempts later : List Event} {result : Except Error α} (hfirst : GoesOn budget past attempts)
    (hfaults : faults attempts = []) (h : Spends budget direction (past ++ attempts) later result) :
    Spends budget direction past (attempts ++ later) result := by
  refine ⟨hfirst.append hfaults h.goesOn, ?_⟩
  rw [faults_append, hfaults, ← List.append_assoc]
  exact h.ends

/-! ### Loops -/

namespace Backend

variable {β : Type} [Backend β]

/-- **Sending spends the budget on attempts in a row that move nothing.** -/
theorem sendLoop_spends {budget tries : Nat} {data : Bytes} {backend : β} (past : List Event)
    (hpast : idleRun past + tries = budget) (hdone : data = [] → idleRun past = 0) :
    Spends budget .send past (transfers (sendLoop budget tries data backend).events)
      (sendLoop budget tries data backend).result := by
  -- The tries that are left and the idle attempts at the end of the row make up the budget. An idle
  -- attempt moves one from the former to the latter, progress sets both back.
  fun_induction sendLoop budget tries data backend generalizing past with
  | case1 tries backend =>
    refine ⟨goesOn_nil _ _, ?_⟩
    rw [show transfers [] = [] from rfl, List.append_nil, hdone rfl]
    exact .done ()
  | case2 byte rest backend =>
    refine ⟨goesOn_nil _ _, ?_⟩
    rw [show transfers [.noted .sendGaveUp] = [] from rfl, List.append_nil, ← hpast]
    exact .gaveUp
  | case3 tries byte rest backend sent cause h =>
    have hidle : (Event.sent (byte :: rest) sent.1).isIdle = false := by simp [Event.isIdle_sent, h]
    have hfault : faults [.sent (byte :: rest) sent.1] = [cause] := by
      simp [faults, Event.fault?_sent, h]
    rw [transfers_sendEvents]
    refine ⟨goesOn_one _ (by omega), ?_⟩
    rw [idleRun_concat_of_busy past hidle, hfault]
    exact .failed cause
  | case4 tries byte rest backend sent h ih =>
    have hidle : (Event.sent (byte :: rest) sent.1).isIdle = true := by simp [Event.isIdle_sent, h]
    have hfault : faults [.sent (byte :: rest) sent.1] = [] := by simp [faults, Event.fault?_sent, h]
    rw [Outcome.events_after, transfers_append, transfers_sendEvents]
    have hmore : byte :: rest ≠ [] := List.cons_ne_nil byte rest
    refine Spends.prepend (goesOn_one _ (by omega)) hfault (ih _ ?_ fun h => absurd h hmore)
    rw [idleRun_concat_of_idle past hidle]
    omega
  | case5 tries byte rest backend sent n h ih =>
    have hidle : (Event.sent (byte :: rest) sent.1).isIdle = false := by simp [Event.isIdle_sent, h]
    have hfault : faults [.sent (byte :: rest) sent.1] = [] := by simp [faults, Event.fault?_sent, h]
    have hnone := idleRun_concat_of_busy past hidle
    rw [Outcome.events_after, transfers_append, transfers_sendEvents]
    refine Spends.prepend (goesOn_one _ (by omega)) hfault (ih _ ?_ fun _ => hnone)
    rw [hnone, Nat.zero_add]

/-- **Receiving a piece spends the budget on attempts in a row that move nothing.** -/
theorem receiveLoop_spends {budget capacity tries : Nat} {backend : β} (past : List Event)
    (hpast : idleRun past + tries = budget) :
    Spends budget .receive past (transfers (receiveLoop capacity tries backend).events)
      (receiveLoop capacity tries backend).result := by
  fun_induction receiveLoop capacity tries backend generalizing past with
  | case1 backend =>
    refine ⟨goesOn_nil _ _, ?_⟩
    rw [show transfers [.noted .receiveGaveUp] = [] from rfl, List.append_nil, ← hpast]
    exact .gaveUp
  | case2 tries backend received cause h =>
    have hidle : (Event.received capacity received.1).isIdle = false := by simp [Event.isIdle_received, h]
    have hfault : faults [.received capacity received.1] = [cause] := by
      simp [faults, Event.fault?_received, h]
    rw [transfers_receiveEvents]
    refine ⟨goesOn_one _ (by omega), ?_⟩
    rw [idleRun_concat_of_busy past hidle, hfault]
    exact .failed cause
  | case3 tries backend received h ih =>
    have hidle : (Event.received capacity received.1).isIdle = true := by simp [Event.isIdle_received, h]
    have hfault : faults [.received capacity received.1] = [] := by simp [faults, Event.fault?_received, h]
    rw [Outcome.events_after, transfers_append, transfers_receiveEvents]
    refine Spends.prepend (goesOn_one _ (by omega)) hfault (ih _ ?_)
    rw [idleRun_concat_of_idle past hidle]
    omega
  | case4 tries backend received byte rest h =>
    have hidle : (Event.received capacity received.1).isIdle = false := by simp [Event.isIdle_received, h]
    have hfault : faults [.received capacity received.1] = [] := by simp [faults, Event.fault?_received, h]
    rw [transfers_receiveEvents]
    refine ⟨goesOn_one _ (by omega), ?_⟩
    rw [idleRun_concat_of_busy past hidle, hfault]
    exact .done _

end Backend

/-! ### Calls -/

/-- **What the attempts of a call have to do with its result.** -/
structure WithinBudget {α : Type} (budget : Nat) (direction : Direction) (attempts : List Event)
    (result : Except Error α) : Prop where
  /-- After a failure of the connection there is no other attempt, nor after as many in a row as the
  budget that moved nothing. -/
  goesOn : ∀ before event after, attempts = before ++ event :: after →
    ¬Stalls budget before ∧ faults before = []
  /-- The call gives up exactly if that many in a row moved nothing. -/
  gaveUp_iff : result = .error (.timeout direction) ↔ Stalls budget attempts
  /-- It fails with a failure of the connection exactly if it met that one. -/
  failed_iff : ∀ cause, result = .error (.io direction cause) ↔ faults attempts = [cause]

/-- A row of attempts from the start of a call is within the budget. -/
theorem Spends.withinBudget {α : Type} {budget : Nat} {direction : Direction}
    {attempts : List Event} {result : Except Error α} (h : Spends budget direction [] attempts result)
    (hbudget : 0 < budget) : WithinBudget budget direction attempts result := by
  have hends : Ends budget direction (idleRun attempts) (faults attempts) result := h.ends
  -- A number of idle attempts that is the budget is at the end of the row or nowhere.
  have hstalls : Stalls budget attempts ↔ budget ≤ idleRun attempts := by
    rw [stalls_iff]
    refine ⟨?_, fun hidle => ⟨attempts, [], (List.append_nil _).symm, hidle⟩⟩
    rintro ⟨before, rest, rfl, hidle⟩
    cases rest with
    | nil => rwa [List.append_nil]
    | cons event after => exact absurd (h.goesOn before event after rfl).1 (Nat.not_lt_of_le hidle)
  refine ⟨?_, ?_, ?_⟩
  · rintro before event after rfl
    refine ⟨?_, (h.goesOn before event after rfl).2⟩
    intro hstalls
    obtain ⟨first, rest, rfl, hidle⟩ := stalls_iff.1 hstalls
    cases rest with
    | nil => exact Nat.not_le_of_lt (h.goesOn first event after (by simp)).1 hidle
    | cons next rest =>
      exact Nat.not_le_of_lt (h.goesOn first next (rest ++ event :: after) (by simp)).1 hidle
  · rw [hstalls]
    exact hends.gaveUp_iff hbudget
  · exact hends.failed_iff

/-- **All pieces of a read are received on one budget.** -/
theorem Intake.gather_spends {β : Type} [Backend β] {config : ValidConfig} {need : Nat}
    {s : Intake β} (past : List Event) (hpast : idleRun past = 0) :
    Spends config.maxTimeouts .receive past (transfers (gather config need s).events)
      (gather config need s).result := by
  have hreceive : ∀ (s : Intake β) (past : List Event), idleRun past = 0 →
      Spends config.maxTimeouts .receive past (transfers (s.receive config).events)
        (s.receive config).result := fun s past hpast =>
    Backend.receiveLoop_spends past (by rw [hpast, Nat.zero_add])
  fun_induction gather config need s generalizing past with
  | case1 s h =>
    refine ⟨goesOn_nil _ _, ?_⟩
    rw [show transfers [] = [] from rfl, List.append_nil, hpast]
    exact .done ()
  | case2 s h e hr =>
    have hfirst := hreceive s past hpast
    rw [hr] at hfirst
    exact ⟨hfirst.goesOn, hfirst.ends.map fun _ => ()⟩
  | case3 s h piece hr href =>
    have hfirst := hreceive s past hpast
    rw [hr] at hfirst
    obtain ⟨hidle, hfaults⟩ := hfirst.ends.of_ok
    rw [transfers_arrival]
    refine ⟨hfirst.goesOn, ?_⟩
    rw [hidle, hfaults]
    exact .overran s.due piece.length
  | case4 s h piece hr href hlt ih =>
    have hfirst := hreceive s past hpast
    rw [hr] at hfirst
    obtain ⟨hidle, hfaults⟩ := hfirst.ends.of_ok
    rw [Outcome.events_after, transfers_append, transfers_arrival]
    exact Spends.prepend hfirst.goesOn hfaults (ih _ hidle)

namespace Transport

variable {β : Type} [Backend β] {t : Transport β}

/-! ### Writing -/

/-- What is left of the block that is being sent, once so many bytes of two blocks have gone out. -/
def blockRest (head tail : Bytes) (done : Nat) : Bytes :=
  if done < head.length then head.drop done else tail.drop (done - head.length)

theorem send_spends (data : Bytes) (t : Transport β) {past : List Event} (hpast : idleRun past = 0) :
    Spends t.config.maxTimeouts .send past (transfers (send data t).events) (send data t).result := by
  have htries : idleRun past + t.config.maxTimeouts = t.config.maxTimeouts := by
    rw [hpast, Nat.zero_add]
  have hspends : Spends t.config.maxTimeouts .send past
      (transfers (Backend.sendAll t.config.maxTimeouts data t.backend).events)
      (Backend.sendAll t.config.maxTimeouts data t.backend).result :=
    Backend.sendLoop_spends past htries fun _ => hpast
  exact hspends

/-- **Both blocks of a write are sent on one budget.** -/
theorem flush_spends (data : Bytes) (t : Transport β) :
    Spends t.config.maxTimeouts .send [] (transfers (flush data t).events)
      (flush data t).result := by
  have hhead := send_spends (t.headBlock data) (t.flushed data) idleRun_nil
  rw [flush_eq]
  cases hresult : (send (t.headBlock data) (t.flushed data)).result with
  | error e =>
    rw [Run.bind_of_result_error _ hresult, ← hresult]
    exact hhead
  | ok u =>
    rw [hresult] at hhead
    obtain ⟨hidle, hfaults⟩ := hhead.ends.of_ok
    have htail := send_spends (t.tailBlock data) (send (t.headBlock data) (t.flushed data)).state
      hidle
    rw [Run.bind_of_result_ok _ hresult, Outcome.events_after, transfers_append]
    exact Spends.prepend hhead.goesOn hfaults htail

theorem send_offers {data : Bytes} {before after : List Event} {offered : Bytes}
    {attempt : Attempt Nat}
    (h : transfers (send data t).events = before ++ .sent offered attempt :: after) :
    offered ≠ [] ∧ offered = data.drop (sentBytes before).length := by
  have h' : transfers (Backend.sendLoop t.config.maxTimeouts t.config.maxTimeouts data
      t.backend).events = before ++ .sent offered attempt :: after := h
  exact Backend.sendLoop_offers before h'

/-- **Each physical send is given what is left of its block**, and there is something left. -/
theorem flush_offers {data : Bytes} {before after : List Event} {event : Event}
    (h : transfers (flush data t).events = before ++ event :: after) :
    let rest := blockRest (t.headBlock data) (t.tailBlock data) (sentBytes before).length
    rest ≠ [] ∧ ∃ attempt, event = .sent rest attempt := by
  have hmem : event ∈ transfers (flush data t).events := by simp [h]
  obtain ⟨offered, attempt, rfl⟩ := sent_of_mem_transfers (flush_sends data t).noReceive hmem
  suffices hrest : offered ≠ [] ∧
      offered = blockRest (t.headBlock data) (t.tailBlock data) (sentBytes before).length from
    ⟨hrest.2 ▸ hrest.1, attempt, by rw [← hrest.2]⟩
  have hhead : ∀ {after : List Event},
      transfers (send (t.headBlock data) (t.flushed data)).events =
        before ++ .sent offered attempt :: after →
      offered ≠ [] ∧
        offered = blockRest (t.headBlock data) (t.tailBlock data) (sentBytes before).length := by
    intro after hfirst
    obtain ⟨hne, heq⟩ := send_offers hfirst
    -- Bytes of the head are left, so fewer than all of it have gone out.
    have hless : (sentBytes before).length < (t.headBlock data).length := by
      rw [heq, ne_eq, List.drop_eq_nil_iff] at hne
      omega
    rw [blockRest, if_pos hless]
    exact ⟨hne, heq⟩
  rw [flush_eq] at h
  obtain ⟨left, hdata, hleft⟩ := (send_sends (t.headBlock data) (t.flushed data)).sent
  cases hresult : (send (t.headBlock data) (t.flushed data)).result with
  | error e =>
    rw [Run.bind_of_result_error _ hresult] at h
    exact hhead h
  | ok u =>
    rw [Run.bind_of_result_ok _ hresult, Outcome.events_after, transfers_append] at h
    obtain ⟨later, hfirst⟩ | ⟨before', rfl, hsecond⟩ := place_of_append h
    · exact hhead hfirst
    · obtain ⟨hne, heq⟩ := send_offers hsecond
      have hall : sentBytes (transfers (send (t.headBlock data) (t.flushed data)).events) =
          t.headBlock data := by
        rw [hleft.2 hresult, List.append_nil] at hdata
        rw [sentBytes_transfers, ← hdata]
      rw [sentBytes_append, hall, List.length_append, blockRest, if_neg (by omega),
        Nat.add_sub_cancel_left]
      exact ⟨hne, heq⟩

/-- What a write call does that completes an operation. -/
structure CompletesWithin (data : Bytes) (t : Transport β) (outcome : Outcome (Transport β) Unit) :
    Prop where
  budget : WithinBudget t.config.maxTimeouts .send (transfers outcome.events) outcome.result
  blocks : t.headBlock data ++ t.tailBlock data = t.staged ++ data
  /-- Each physical send is given what is left of the head or, after it, of the tail. -/
  offers : ∀ before event after, transfers outcome.events = before ++ event :: after →
    let rest := blockRest (t.headBlock data) (t.tailBlock data) (sentBytes before).length
    rest ≠ [] ∧ ∃ attempt, event = .sent rest attempt
  finishes : outcome.result = .ok () ↔ sentBytes outcome.events = t.staged ++ data
  fails : ∀ e, outcome.result = .error e → e = .timeout .send ∨ ∃ cause, e = .io .send cause

theorem write_completesWithin {data : Bytes} (heq : data.length = t.writeRemaining) :
    CompletesWithin data t (write data t) := by
  have hsends := flush_sends data t
  obtain ⟨rest, hbytes, hdone⟩ := hsends.sent
  rw [write_of_eq heq]
  refine ⟨(flush_spends data t).withinBudget t.config.valid.maxTimeouts_pos,
    headBlock_append_tailBlock data t, fun _ _ _ h => flush_offers h, ?_, hsends.cause⟩
  rw [← hdone, hbytes, List.self_eq_append_right]

/-! ### Reading -/

/-- What a read call does that fits into the operation; `copied` is what it handed out. -/
structure ReadsWithin (length : Nat) (t : Transport β) (copied : Bytes)
    (outcome : Outcome (Transport β) Bytes) : Prop where
  budget : WithinBudget t.config.maxTimeouts .receive (transfers outcome.events) outcome.result
  /-- Each physical receive is there for bytes that are missing. -/
  receives : ∀ before event after, transfers outcome.events = before ++ event :: after →
    t.readAvailable + (receivedBytes before).length < length ∧
      ∃ attempt, event = .received t.config.chunkSize attempt
  /-- No received byte is lost, whatever the call ends with but for an overrun. -/
  balances : ¬Overran outcome.result →
    t.owed ++ receivedBytes outcome.events = copied ++ outcome.state.owed
  finishes : ∀ bytes, outcome.result = .ok bytes → bytes = copied ∧ bytes.length = length
  fails : ∀ e, outcome.result = .error e → e = .timeout .receive ∨
    (∃ cause, e = .io .receive cause) ∨ Overran outcome.result

theorem read_readsWithin {length : Nat} (hw : t.writeRemaining = 0) (hl : length ≤ t.readExpected)
    (htidy : t.intake.Tidy) : ReadsWithin length t (t.readInto length).copied (read length t) := by
  have hreads := read_reads hw hl htidy
  have hspends : Spends t.config.maxTimeouts .receive [] (transfers (read length t).events)
      (t.gathered length).result := by
    rw [hreads.events]
    exact Intake.gather_spends [] idleRun_nil
  have hresult : (read length t).result = (t.gathered length).result.map fun _ =>
      (t.gathered length).state.ready.take length := hreads.result
  have hspends' : Spends t.config.maxTimeouts .receive [] (transfers (read length t).events)
      (read length t).result := ⟨hspends.goesOn, hresult ▸ hspends.ends.map _⟩
  refine ⟨hspends'.withinBudget t.config.valid.maxTimeouts_pos, ?_, ?_, ?_, ?_⟩
  · intro before event after h
    have hmem : event ∈ transfers (read length t).events := by simp [h]
    rw [hreads.events] at h
    have hmissing := (Intake.gather_pending h).1
    rw [ready_intake, length_ready] at hmissing
    exact ⟨hmissing, hreads.room hmem⟩
  · intro hnot
    exact (readInto_balances hw hl htidy (mt overran_read_iff.2 hnot)).1
  · intro bytes hok
    exact ⟨copied_of_ok hok, ((hreads.owed hl htidy).1 bytes hok).1⟩
  · intro e he
    obtain rfl | hio | ⟨expected, received, rfl⟩ := hreads.fails he
    · exact .inl rfl
    · exact .inr (.inl hio)
    · exact .inr (.inr ⟨expected, received, he⟩)

/-! ### The budget of a call -/

/-- **A call keeps trying as long as its budget lasts.** Wherever a history of operations has led, a
write call that completes an operation and a read call that fits into one give up exactly when
`maxTimeouts` attempts in a row moved nothing, fail exactly at the first failure of the connection
before that, and go on otherwise: until all bytes are sent, or until there are enough or too many.

Each send is given what is left of the block that is being sent, each receive is there for bytes that
are missing, and all that an attempt moved counts, whether it was in time or not. -/
theorem retry_budget (config : ValidConfig) (backend : β) (history : List Operation) :
    let t := Operation.stateAfter history (fresh config backend)
    t.config = config ∧
      (∀ data, data.length = t.writeRemaining → CompletesWithin data t (write data t)) ∧
      ∀ length, t.writeRemaining = 0 → length ≤ t.readExpected →
        ReadsWithin length t (t.readInto length).copied (read length t) := by
  intro t
  obtain ⟨hconfig, declared, hbounds⟩ := inBounds_stateAfter history (inBounds_fresh config backend)
  exact ⟨hconfig, fun data heq => write_completesWithin heq,
    fun length hw hl => read_readsWithin hw hl hbounds.regular.tidy⟩

/-- With a budget of two, a write in two blocks outlives two attempts that move nothing, as they are
not in a row, and gives up after two that are. A call that meets a failure ends with it, with tries
left and whatever the failure says of itself. -/
theorem retry_budget_two_blocks :
    let config : ValidConfig := ⟨⟨4, 8, 1000, 2, .reject⟩, by decide⟩
    let late : IoError := ⟨.timedOut, "late"⟩
    let device : Backend.Script :=
      ⟨[.timedOut [7], .timedOut [], .failed late],
        [.moved 0, .timedOut 3, .timedOut 0, .moved 9, .moved 0, .timedOut 0]⟩
    let failing : Backend.Script := ⟨[], [.failed late, .moved 2]⟩
    let writing := Operation.stateAfter [.startWrite 6, .write [1, 2]] (fresh config device)
    let reading := Operation.stateAfter [.startRead 3] (fresh config device)
    let broken := Operation.stateAfter [.startWrite 2] (fresh config failing)
    let attempts : List Event := [.sent [1, 2, 3, 4] (.moved 0), .sent [1, 2, 3, 4] (.timedOut 3),
      .sent [4] (.timedOut 0), .sent [4] (.moved 9), .sent [5, 6] (.moved 0),
      .sent [5, 6] (.timedOut 0)]
    transfers (write [3, 4, 5, 6] writing).events = attempts ∧
      (write [3, 4, 5, 6] writing).result = .error (.timeout .send) ∧
      (read 3 reading).result = .error (.io .receive late) ∧
      receivedBytes (read 3 reading).events =
        (reading.readInto 3).copied ++ (read 3 reading).state.owed ∧
      transfers (write [1, 2] broken).events = [.sent [1, 2] (.failed late)] ∧
      (write [1, 2] broken).result = .error (.io .send late) := by
  intro config late device failing writing reading broken attempts
  have hattempts : transfers (write [3, 4, 5, 6] writing).events = attempts := by cbv
  have hfaults : faults (transfers (read 3 reading).events) = [late] := by cbv
  have hbroken : transfers (write [1, 2] broken).events = [.sent [1, 2] (.failed late)] := by cbv
  obtain ⟨-, hwrite, -⟩ := retry_budget config device [.startWrite 6, .write [1, 2]]
  obtain ⟨-, -, hread⟩ := retry_budget config device [.startRead 3]
  obtain ⟨-, hfail, -⟩ := retry_budget config failing [.startWrite 2]
  have hcompletes := hwrite [3, 4, 5, 6] (by cbv)
  have hreads := hread 3 (by cbv) (by cbv)
  have hfails := hfail [1, 2] (by cbv)
  have hstalls : Stalls 2 (transfers (write [3, 4, 5, 6] writing).events) := by
    rw [hattempts]
    exact ⟨attempts.take 4, attempts.drop 4, [], rfl, rfl, by decide⟩
  have hio := (hreads.budget.failed_iff late).2 hfaults
  have hsend := (hfails.budget.failed_iff late).2 (by rw [hbroken]; rfl)
  refine ⟨hattempts, hcompletes.budget.gaveUp_iff.2 hstalls, hio, ?_, hbroken, hsend⟩
  refine hreads.balances ?_
  rintro ⟨expected, received, hover⟩
  cases hio.symm.trans hover

end Transport

end ProbeLink
