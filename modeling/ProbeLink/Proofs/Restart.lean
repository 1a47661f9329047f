import Mathlib
import ProbeLink.Backend.Script
import ProbeLink.Proofs.Alike
import ProbeLink.Proofs.Provenance

/-!
# ProbeLink.Proofs.Restart

**Starting an exchange makes a transport as good as new.** Whatever happened to a transport before,
from the start of an exchange on it answers every operation as a fresh transport over the same
backend does, with the same transfers and the same counters (`restart_as_fresh`). Only the log
lines of the start itself tell what it gave up.

The start sets every counter and every position, so all that is left of the past is what lies in
memory, and no run made of calls looks at that (`alike_asked`, `Composed.blind`).
-/

namespace ProbeLink

namespace Transport

variable {β : Type} {t t' : Transport β}

/-! ### The start of an exchange -/

/-- Once an exchange is started, only memory that nobody looks at tells an old transport from a
fresh one. -/
theorem alike_asked (writeLength readLength : Nat) (t : Transport β) :
    Alike (t.asked writeLength readLength)
      ((fresh t.config t.backend).asked writeLength readLength) := by
  have hbuffered : (t.asked writeLength readLength).writeBuffered = 0 :=
    (sameWriteSide_asked writeLength readLength t).writeBuffered
  have hbuffered' : ((fresh t.config t.backend).asked writeLength readLength).writeBuffered = 0 :=
    (sameWriteSide_asked writeLength readLength _).writeBuffered
  refine ⟨regular_asked writeLength readLength t, ⟨Scratch.empty, ?_⟩, ?_, ?_⟩
  · rw [asked_eq, asked_eq]
    rfl
  · rw [staged_eq_nil hbuffered, staged_eq_nil hbuffered']
  · rw [owed_asked, owed_asked]

/-! ### Runs that match -/

/-- Two outcomes between which a client and a device see no difference, though the log may. -/
structure Matches {α : Type} (o o' : Outcome (Transport β) α) : Prop where
  result : o'.result = o.result
  transfers : transfers o'.events = transfers o.events
  counters : o'.state.counters = o.state.counters
  backend : o'.state.backend = o.state.backend

theorem SameOutcome.matches {α : Type} {o o' : Outcome (Transport β) α} (h : SameOutcome o o') :
    Matches o o' :=
  ⟨h.result, by rw [h.events], h.state.counters, h.state.backend⟩

variable [Backend β]

/-- Alike transports give matching runs. -/
theorem matches_run (operations : List Operation) (h : Alike t t') :
    List.Forall₂ Matches (Operation.run operations t) (Operation.run operations t') := by
  induction operations generalizing t t' with
  | nil => exact .nil
  | cons operation later ih =>
    have hfirst := (Operation.composed_perform operation).blind t t' h
    exact .cons hfirst.matches (ih hfirst.state)

/-! ### Runs that begin with an exchange -/

/-- **A run that opens an exchange does on any transport what it does on a fresh one**, and leaves
the two alike. -/
theorem Opens.as_fresh {α : Type} {run : Run (Transport β) α} (h : Opens run) (t : Transport β) :
    Matches (run t) (run (fresh t.config t.backend)) ∧
      Alike (run t).state (run (fresh t.config t.backend)).state := by
  cases h with
  | @mk writeLength readLength next hw hr hnext =>
    have hquiet : ∀ t : Transport β,
        transfers (startWriteRead writeLength readLength t).events = [] := fun t =>
      transfers_eq_nil (quiet_startWriteRead writeLength readLength t)
    have hsame := (hnext ()).blind _ _ (alike_asked writeLength readLength t)
    rw [Run.bind_of_ok next (startWriteRead_of_pos hw hr t),
      Run.bind_of_ok next (startWriteRead_of_pos hw hr (fresh t.config t.backend))]
    refine ⟨⟨hsame.result, ?_, hsame.state.counters, hsame.state.backend⟩, hsame.state⟩
    rw [Outcome.events_after, Outcome.events_after, transfers_append, transfers_append, hquiet,
      hquiet, hsame.events]

/-- **Starting an exchange makes a transport as good as new.** Whatever happened before, a run that
begins with it gives the results, the transfers and the counters that it gives on a fresh transport
with the same tuning over the same backend. So nothing that is read after that comes from before it:
a read returns a stretch of what has been received since, in order, as long as no write call of the
run puts other bytes in the place of owed ones. -/
theorem restart_as_fresh (t : Transport β) {first : Operation} (hfirst : first.Restarts)
    (later : List Operation) :
    List.Forall₂ Matches (Operation.run (first :: later) t)
        (Operation.run (first :: later) (fresh t.config t.backend)) ∧
      (KeepsOwed later (first.perform t).state →
        ∀ length bytes,
          (read length (Operation.stateAfter (first :: later) t)).result = .ok bytes →
            bytes <:+: receivedBytes ((Operation.run (first :: later) t).flatMap Outcome.events ++
              (read length (Operation.stateAfter (first :: later) t)).events)) := by
  have hopens : Opens (first.perform (β := β)) := Operation.opens_perform first hfirst
  obtain ⟨hmatches, halike⟩ := hopens.as_fresh t
  refine ⟨.cons hmatches (matches_run later halike), ?_⟩
  intro hkeeps length bytes hok
  have hstart := hopens.faithful [] t
  obtain ⟨hregular, hbacked⟩ := backed_stateAfter hstart.regular hstart.backed hkeeps
  have hread := (backed_read length hregular hbacked).2 bytes hok
  rw [Operation.run, List.flatMap_cons, receivedBytes_append, receivedBytes_append]
  exact hread

/-- A transport keeps one byte of an operation and two beyond it. The exchange that is started then
reads its own answer in two calls, and what the client sends between the two leaves the byte alone
that is still owed. -/
theorem restart_after_surplus :
    let t := fresh ⟨⟨4, 8, 1000, 2, .retain⟩, by decide⟩
      (⟨[.moved [1, 2, 3, 4], .moved [8, 9]], []⟩ : Backend.Script)
    let past : List Call := [.startRead 2, .read 1]
    let first := Operation.startWriteRead 1 2
    let later : List Operation := [.write [7], .read 1, .startWrite 1, .write [6]]
    (t.after past).counters = [0, 0, 0, 1, 2] ∧ first.Restarts ∧
      List.Forall₂ Matches (Operation.run (first :: later) (t.after past))
        (Operation.run (first :: later) (fresh (t.after past).config (t.after past).backend)) ∧
      KeepsOwed later (first.perform (t.after past)).state ∧
      (read 1 (Operation.stateAfter (first :: later) (t.after past))).result = .ok [9] ∧
      [9] <:+: receivedBytes ((Operation.run (first :: later) (t.after past)).flatMap
        Outcome.events ++ (read 1 (Operation.stateAfter (first :: later) (t.after past))).events) := by
  intro t past first later
  have hfirst : first.Restarts := ⟨by decide, by decide⟩
  have hread : (read 1 (Operation.stateAfter (first :: later) (t.after past))).result =
      .ok [9] := by cbv
  have hkeeps : KeepsOwed later (first.perform (t.after past)).state := by
    intro before data rest hrest
    -- Two of the calls write, the first and the last.
    rcases before with _ | ⟨a, _ | ⟨b, _ | ⟨c, _ | ⟨d, more⟩⟩⟩⟩
    · obtain ⟨rfl, -⟩ : [7] = data ∧ _ = rest := by simpa [later] using hrest
      cbv
    · simp [later] at hrest
    · simp [later] at hrest
    · obtain ⟨rfl, rfl, rfl, rfl, -⟩ : .write [7] = a ∧ .read 1 = b ∧ .startWrite 1 = c ∧
        [6] = data ∧ [] = rest := by simpa [later] using hrest
      cbv
    · simp [later] at hrest
  obtain ⟨hruns, hbytes⟩ := restart_as_fresh (t.after past) hfirst later
  exact ⟨by cbv, hfirst, hruns, hkeeps, hread, hbytes hkeeps 1 [9] hread⟩

end Transport

end ProbeLink
