import Mathlib
import ProbeLink.Backend.Script
import ProbeLink.Proofs.Reachable

/-!
# ProbeLink.Proofs.Overrun

**When a read fails because the device sent too much.** It does so exactly if the policy says so and
one of its pieces is longer than what is still due at that moment (`overrun_verdict`).

The policy does not matter for a piece that a call takes into its own memory. Such a call still wants
a whole chunk, and what it wants is due, so no piece is too long for it. `ComesTo` lists the rounds of
a read call, and a transfer is given the round that it belongs to by the bytes that were received
before it (`readLoop_comesTo`).
-/

namespace ProbeLink

/-! ### Pieces -/

/-- A transfer brings no more than it has room for. -/
theorem length_receivedBytes_le {capacity : Nat} {events : List Event} {event : Event}
    (hroom : RoomIs capacity events) (hmem : event ∈ events) :
    event.receivedBytes.length ≤ capacity := by
  cases event with
  | sent offered attempt => exact Nat.zero_le _
  | noted notice => exact Nat.zero_le _
  | received room attempt =>
    rw [Event.receivedBytes_received, ← hroom room attempt hmem]
    split
    · exact List.length_take_le _ _
    · exact Nat.zero_le _

namespace Intake

variable {β : Type} [Backend β] {config : ValidConfig} {need : Nat} {s : Intake β}

/-- The transfers of a piece bring its bytes. -/
theorem receivedBytes_receive (config : ValidConfig) (s : Intake β) {piece : Bytes}
    (h : (s.receive config).result = .ok piece) :
    receivedBytes (transfers (s.receive config).events) = piece := by
  rw [receivedBytes_transfers, (receive_events s).2.2, h]

/-- The transfer that brings a piece is the last, and brings all of it. -/
theorem receive_split (config : ValidConfig) (s : Intake β) {before after : List Event}
    {event : Event}
    (h : transfers (s.receive config).events = before ++ event :: after) :
    receivedBytes before = [] ∧
      (event.receivedBytes = [] ∨
        (after = [] ∧ (s.receive config).result = .ok event.receivedBytes)) := by
  have hbefore : receivedBytes before = [] := Backend.receiveLoop_before before h
  refine ⟨hbefore, ?_⟩
  cases after with
  | cons next after =>
    -- There is another transfer after this one, so nothing had arrived up to it.
    have hsplit : transfers (s.receive config).events = (before ++ [event]) ++ next :: after := by
      rw [h, List.append_assoc, List.singleton_append]
    have hnone : receivedBytes (before ++ [event]) = [] :=
      Backend.receiveLoop_before (before ++ [event]) hsplit
    rw [receivedBytes_append, hbefore, List.nil_append] at hnone
    exact .inl (by simpa [receivedBytes] using hnone)
  | nil =>
    have hall : receivedBytes (s.receive config).events = event.receivedBytes := by
      rw [← receivedBytes_transfers, h, receivedBytes_append, hbefore, List.nil_append]
      simp [receivedBytes]
    rw [(receive_events s).2.2] at hall
    cases hr : (s.receive config).result with
    | error e =>
      rw [hr] at hall
      exact .inl hall.symm
    | ok piece =>
      rw [hr] at hall
      have hpiece : piece = event.receivedBytes := hall
      exact .inr ⟨rfl, by rw [hpiece]⟩

theorem receive_brings {piece : Bytes} (hr : (s.receive config).result = .ok piece) :
    ∃ before event, transfers (s.receive config).events = before ++ [event] ∧
      receivedBytes before = [] ∧ event.receivedBytes = piece := by
  have hpiece := receivedBytes_receive config s hr
  have hpos : 0 < piece.length := length_receive_pos hr
  rcases List.eq_nil_or_concat (transfers (s.receive config).events) with hnil | ⟨before, event, h⟩
  · rw [hnil] at hpiece
    rw [← hpiece] at hpos
    exact absurd hpos (Nat.lt_irrefl 0)
  · rw [List.concat_eq_append] at h
    obtain ⟨hbefore, hnone | ⟨-, hok⟩⟩ := receive_split config s h
    · rw [h, receivedBytes_append, hbefore, List.nil_append] at hpiece
      simp only [receivedBytes, List.flatMap_cons, hnone, List.flatMap_nil, List.append_nil] at hpiece
      rw [← hpiece] at hpos
      exact absurd hpos (Nat.lt_irrefl 0)
    · exact ⟨before, event, h, hbefore, Except.ok.inj (hok.symm.trans hr)⟩

/-- Under a policy that keeps what is too much, nothing is refused. -/
theorem not_overran_of_retain (h : config.overrun = .retain) :
    ¬Overran (gather config need s).result := by
  fun_induction gather config need s with
  | case1 s hs =>
    rintro ⟨expected, received, hover⟩
    cases hover
  | case2 s hs e hr =>
    rintro ⟨expected, received, hover⟩
    cases hover
    obtain hfail | ⟨cause, hfail⟩ := Backend.receiveLoop_error hr <;> cases hfail
  | case3 s hs piece hr href =>
    rw [Refuses, h] at href
    exact absurd href.2 (by decide)
  | case4 s hs piece hr href hlt ih => exact ih

/-- **Gathering fails for a piece that is too long exactly if there is one**, at the transfer that
brings it. -/
theorem gather_overrun_iff (h : config.overrun = .reject) {expected received : Nat} :
    (gather config need s).result = .error (.protocol (.overrun expected received)) ↔
      ∃ before event after, transfers (gather config need s).events = before ++ event :: after ∧
        expected + (receivedBytes before).length = s.due ∧ event.receivedBytes.length = received ∧
        expected < received := by
  fun_induction gather config need s with
  | case1 s hs =>
    refine iff_of_false ?_ ?_
    · intro hover
      cases hover
    · rintro ⟨before, event, after, heq, -⟩
      simp [transfers] at heq
  | case2 s hs e hr =>
    refine iff_of_false ?_ ?_
    · intro hover
      cases hover
      obtain hfail | ⟨cause, hfail⟩ := Backend.receiveLoop_error hr <;> cases hfail
    · rintro ⟨before, event, after, heq, -, hreceived, hlong⟩
      obtain ⟨-, hnone | ⟨-, hok⟩⟩ := receive_split config s heq
      · rw [hnone, List.length_nil] at hreceived
        omega
      · cases hr.symm.trans hok
  | case3 s hs piece hr href =>
    rw [transfers_arrival]
    constructor
    · intro hover
      cases hover
      obtain ⟨before, event, heq, hbefore, hpiece⟩ := receive_brings hr
      refine ⟨before, event, [], heq, ?_, congrArg List.length hpiece, href.1⟩
      rw [hbefore, List.length_nil, Nat.add_zero]
    · rintro ⟨before, event, after, heq, hexpected, hreceived, hlong⟩
      obtain ⟨hbefore, hnone | ⟨-, hok⟩⟩ := receive_split config s heq
      · rw [hnone, List.length_nil] at hreceived
        omega
      · obtain rfl : piece = event.receivedBytes := Except.ok.inj (hr.symm.trans hok)
        rw [hbefore, List.length_nil, Nat.add_zero] at hexpected
        rw [hexpected, hreceived]
  | case4 s hs piece hr href hlt ih =>
    have hfits : piece.length ≤ s.due := Nat.le_of_not_lt fun hlong => href ⟨hlong, h⟩
    have hpiece := receivedBytes_receive config s hr
    rw [Outcome.result_after, Outcome.events_after, transfers_append, transfers_arrival, ih]
    constructor
    · rintro ⟨before, event, after, heq, hexpected, hrest⟩
      refine ⟨transfers (s.receive config).events ++ before, event, after, ?_, ?_, hrest⟩
      · rw [heq, List.append_assoc]
      · rw [receivedBytes_append, hpiece, List.length_append]
        simp only [absorb, advance] at hexpected
        omega
    · rintro ⟨before, event, after, heq, hexpected, hreceived, hlong⟩
      obtain ⟨rest, hfirst⟩ | ⟨rest, rfl, hlater⟩ := place_of_append heq
      · -- The piece fits, so its transfer is not the one.
        obtain ⟨hbefore, hnone | ⟨-, hok⟩⟩ := receive_split config s hfirst
        · rw [hnone, List.length_nil] at hreceived
          omega
        · obtain rfl : piece = event.receivedBytes := Except.ok.inj (hr.symm.trans hok)
          rw [hbefore, List.length_nil] at hexpected
          omega
      · refine ⟨rest, event, after, hlater, ?_, hreceived, hlong⟩
        rw [receivedBytes_append, hpiece, List.length_append] at hexpected
        simp only [absorb, advance]
        omega

end Intake

namespace Transport

variable {β : Type} [Backend β] {t : Transport β} {length : Nat}

/-! ### Rounds -/

/-- A read that wants `length` bytes in a state comes to receive for `wanted` bytes in another. In
every round before that one it took a piece. -/
inductive ComesTo : Nat → Transport β → Nat → Transport β → Prop
  | now (length : Nat) (t : Transport β) : ComesTo length t length t
  | later {length wanted : Nat} {t s : Transport β} {piece : Bytes}
    (arrived : (receive t).result = .ok piece) (kept : t.overruns length piece = false)
    (rest : ComesTo (length - t.taken length piece) (t.admitted length piece) wanted s) :
    ComesTo length t wanted s

/-- A transfer of a read that wants `length` bytes in `t`, after it received `done`. -/
structure InRound (length : Nat) (t : Transport β) (done : Bytes) (event : Event) (wanted : Nat)
    (s : Transport β) : Prop where
  comes : ComesTo length t wanted s
  transfer : event ∈ (receive s).events
  /-- Something is wanted, and all of it is due. -/
  pending : 0 < wanted ∧ wanted ≤ s.readRemaining
  wanted : wanted + done.length = length
  due : s.readRemaining + done.length = t.readRemaining
  config : s.config = t.config

/-- **Every transfer of a read belongs to one of its rounds.** -/
theorem readLoop_comesTo (hl : length ≤ t.readRemaining) {before after : List Event}
    {event : Event}
    (h : transfers (readLoop length t hl).outcome.events = before ++ event :: after) :
    ∃ wanted s, InRound length t (receivedBytes before) event wanted s := by
  have hfirst : ∀ {length : Nat} {t : Transport β} {before after : List Event}, 0 < length →
      length ≤ t.readRemaining → transfers (receive t).events = before ++ event :: after →
        InRound length t (receivedBytes before) event length t := by
    intro length t before after hpos hl h
    have hbefore : receivedBytes before = [] :=
      (Intake.receive_split t.config t.intake h).1
    have hmem : event ∈ transfers (receive t).events := by simp [h]
    rw [hbefore]
    exact ⟨.now length t, (List.mem_filter.1 hmem).1, ⟨hpos, hl⟩, rfl, rfl, rfl⟩
  refine readLoop_induction (motive := fun length t delivery => ∀ before,
    transfers delivery.outcome.events = before ++ event :: after →
      ∃ wanted s, InRound length t (receivedBytes before) event wanted s)
    ?done ?failed ?refused ?round length t hl before h
  case done =>
    intro t before h
    simp [transfers] at h
  case failed =>
    intro length t e hpos hl _ before h
    exact ⟨length, t, hfirst hpos hl h⟩
  case refused =>
    intro length t piece hpos hl _ _ before h
    have harrival : transfers (t.intake.arrival t.config piece) = transfers (receive t).events :=
      Intake.transfers_arrival piece t.intake
    exact ⟨length, t, hfirst hpos hl (harrival ▸ h)⟩
  case round =>
    intro length t piece rest hpos hl hr hover ih before h
    have harrival : transfers (t.intake.arrival t.config piece) = transfers (receive t).events :=
      Intake.transfers_arrival piece t.intake
    have hevents : transfers (rest.after (piece.take (t.taken length piece))
        (t.intake.arrival t.config piece)).outcome.events =
          transfers (receive t).events ++ transfers rest.outcome.events := by
      rw [← harrival]
      exact transfers_append _ _
    rw [hevents] at h
    obtain ⟨later, hnow⟩ | ⟨later, rfl, hlater⟩ := place_of_append h
    · exact ⟨length, t, hfirst hpos hl hnow⟩
    · obtain ⟨wanted, s, hround⟩ := ih later hlater
      -- More is wanted after the piece, so the call took all of it.
      have hpiece : receivedBytes (transfers (receive t).events) = piece :=
        Intake.receivedBytes_receive t.config t.intake hr
      have hpending := hround.pending
      have hwanted := hround.wanted
      have hdue := hround.due
      rw [readRemaining_admitted] at hdue
      simp only [taken, accepted] at hwanted hdue
      refine ⟨wanted, s, .later hr hover hround.comes, hround.transfer, hpending, ?_, ?_, ?_⟩
      · rw [receivedBytes_append, hpiece, List.length_append]
        omega
      · rw [receivedBytes_append, hpiece, List.length_append]
        omega
      · exact hround.config.trans (sameWriteSide_admitted t).config

/-- A round that receives into the memory of the call receives no more than is due. -/
theorem InRound.direct {done : Bytes} {event : Event} {wanted : Nat} {s : Transport β}
    (h : InRound length t done event wanted s) (hv : s.viaScratch wanted = false) :
    event.receivedBytes.length ≤ s.readRemaining := by
  have hroom : RoomIs s.config.chunkSize (receive s).events :=
    (Intake.receive_events s.intake).2.1
  have hchunk : event.receivedBytes.length ≤ s.config.chunkSize :=
    length_receivedBytes_le hroom h.transfer
  have hwhole : ¬wanted < s.config.chunkSize := by simpa [viaScratch] using hv
  have hdue := h.pending.2
  omega

/-! ### A call -/

/-- The state in which a read call begins to receive: what lay ready is handed out. -/
def emptied (t : Transport β) : Transport β :=
  if 0 < t.readAvailable then { t with readAvailable := 0, readPos := 0 } else t

omit [Backend β] in
theorem readRemaining_emptied (t : Transport β) : t.emptied.readRemaining = t.readRemaining := by
  unfold emptied
  split <;> rfl

/-- A call that needs more than lies ready receives the rest. -/
theorem readInto_of_more (hw : t.writeRemaining = 0) (hl : length ≤ t.readExpected)
    (hmore : t.readAvailable < length)
    (hrest : length - t.readAvailable ≤ t.emptied.readRemaining) :
    t.readInto length = (readLoop (length - t.readAvailable) t.emptied hrest).after t.ready [] := by
  rcases Nat.eq_zero_or_pos t.readAvailable with hnone | hsome
  · have hsame : t.emptied = t := if_neg (by omega)
    simp only [hsame, hnone, ready_eq_nil hnone, Nat.sub_zero] at hrest ⊢
    rw [readInto_of_none hw hnone (by omega) hrest]
    rfl
  · have hdrained : t.emptied = { t with readAvailable := 0, readPos := 0 } := if_pos hsome
    simp only [hdrained] at hrest ⊢
    exact readInto_of_some hw hl hmore hsome hrest

/-- Every transfer of a read call belongs to one of its rounds. -/
theorem read_inRound {before after : List Event} {event : Event}
    (h : transfers (read length t).events = before ++ event :: after) :
    ∃ wanted s,
      InRound (length - t.readAvailable) t.emptied (receivedBytes before) event wanted s := by
  have hevents : transfers (t.readInto length).outcome.events = before ++ event :: after := h
  by_cases hw : t.writeRemaining = 0
  · by_cases hl : length ≤ t.readExpected
    · by_cases hready : length ≤ t.readAvailable
      · rw [readInto_of_ready hw hready] at hevents
        simp [transfers] at hevents
      · have hrest : length - t.readAvailable ≤ t.emptied.readRemaining := by
          rw [readRemaining_emptied]
          simp only [readExpected] at hl
          omega
        rw [readInto_of_more hw hl (Nat.lt_of_not_le hready) hrest] at hevents
        exact readLoop_comesTo hrest hevents
    · rw [readInto_of_exceeded hw (Nat.lt_of_not_le hl), transfers_eq_nil (quiet_noted _)] at hevents
      simp at hevents
  · rw [readInto_of_incomplete (Nat.pos_of_ne_zero hw), transfers_eq_nil (quiet_noted _)] at hevents
    simp at hevents

/-- A read call is refused and transfers nothing, or it gathers. -/
theorem read_quiet_or_reads (htidy : t.intake.Tidy) (length : Nat) :
    (Quiet (read length t).events ∧ ¬Overran (read length t).result) ∨
      Reads t length (read length t) := by
  obtain ⟨-, hr⟩ | ⟨-, -, hr⟩ | ⟨-, -, hreads⟩ := read_cases htidy length
  · rw [hr]
    refine .inl ⟨quiet_noted _, ?_⟩
    rintro ⟨expected, received, hover⟩
    cases hover
  · rw [hr]
    refine .inl ⟨quiet_noted _, ?_⟩
    rintro ⟨expected, received, hover⟩
    cases hover
  · exact .inr hreads

/-- Every transfer of a read call has room for a chunk. -/
theorem read_room (htidy : t.intake.Tidy) {event : Event}
    (hmem : event ∈ transfers (read length t).events) :
    ∃ attempt, event = .received t.config.chunkSize attempt := by
  obtain ⟨hquiet, -⟩ | hreads := read_quiet_or_reads htidy length
  · rw [transfers_eq_nil hquiet] at hmem
    exact absurd hmem List.not_mem_nil
  · exact hreads.room hmem

theorem read_not_overran (htidy : t.intake.Tidy) (h : t.config.overrun = .retain) :
    ¬Overran (read length t).result := by
  obtain ⟨-, hnot⟩ | hreads := read_quiet_or_reads htidy length
  · exact hnot
  · rintro ⟨expected, received, hover⟩
    have hgather := (hreads.overrun_iff expected received).1 hover
    exact Intake.not_overran_of_retain h ⟨expected, received, hgather⟩

theorem read_overrun_iff (htidy : t.intake.Tidy) (h : t.config.overrun = .reject)
    (expected received : Nat) :
    (read length t).result = .error (.protocol (.overrun expected received)) ↔
      ∃ before event after, transfers (read length t).events = before ++ event :: after ∧
        expected + (receivedBytes before).length = t.readRemaining ∧
        event.receivedBytes.length = received ∧ expected < received := by
  obtain ⟨hquiet, hnot⟩ | hreads := read_quiet_or_reads htidy length
  · refine iff_of_false (fun hover => hnot ⟨expected, received, hover⟩) ?_
    rintro ⟨before, event, after, heq, -⟩
    rw [transfers_eq_nil hquiet] at heq
    simp at heq
  · rw [hreads.overrun_iff, hreads.events]
    exact Intake.gather_overrun_iff h

/-- A read that succeeds returns, or leaves in the scratch buffer, as many bytes as it received and
found there. -/
theorem length_read_balances (htidy : t.intake.Tidy) {bytes : Bytes}
    (hok : (read length t).result = .ok bytes) :
    (receivedBytes (read length t).events).length + (t.readAvailable + t.surplus) =
      bytes.length + ((read length t).state.readAvailable + (read length t).state.surplus) := by
  obtain ⟨-, hr⟩ | ⟨-, -, hr⟩ | ⟨-, hl, hreads⟩ := read_cases htidy length
  · cases (congrArg Outcome.result hr).symm.trans hok
  · cases (congrArg Outcome.result hr).symm.trans hok
  · have hbytes := congrArg List.length ((hreads.owed hl htidy).1 bytes hok).2
    rw [List.length_append, List.length_append, length_owed, length_owed] at hbytes
    omega

/-! ### The verdict -/

/-- **A read fails for bytes that are too many exactly if it must.** Wherever a history of operations
has led, of every read call:

* each of its transfers has room for a chunk and belongs to a round of the call, and one that goes
  straight into the memory of the call brings no more than is due;
* under a policy that keeps what is too much, it never fails for that;
* under one that rejects it, there is no surplus, and the call fails exactly if a transfer brings more
  than is due at that moment, with these two numbers;
* if it succeeds, what it received and what lay in the scratch buffer before is what it returns and
  what lies there after. -/
theorem overrun_verdict (config : ValidConfig) (backend : β) (history : List Operation)
    (length : Nat) :
    let t := Operation.stateAfter history (fresh config backend)
    let outcome := read length t
    (∀ before event after, transfers outcome.events = before ++ event :: after →
      (∃ attempt, event = .received config.chunkSize attempt) ∧
        ∃ wanted s,
          InRound (length - t.readAvailable) t.emptied (receivedBytes before) event wanted s ∧
            (s.viaScratch wanted = false → event.receivedBytes.length ≤ s.readRemaining)) ∧
      (config.overrun = .retain → ¬Overran outcome.result) ∧
      (config.overrun = .reject → t.surplus = 0 ∧ ∀ expected received,
        outcome.result = .error (.protocol (.overrun expected received)) ↔
          ∃ before event after, transfers outcome.events = before ++ event :: after ∧
            expected + (receivedBytes before).length = t.readRemaining ∧
            event.receivedBytes.length = received ∧ expected < received) ∧
      ∀ bytes, outcome.result = .ok bytes →
        (receivedBytes outcome.events).length + (t.readAvailable + t.surplus) =
          bytes.length + (outcome.state.readAvailable + outcome.state.surplus) := by
  intro t outcome
  obtain ⟨hconfig, declared, hbounds⟩ := inBounds_stateAfter history (inBounds_fresh config backend)
  have hsame : t.config = config := hconfig
  have htidy : t.intake.Tidy := hbounds.regular.tidy
  refine ⟨?_, fun hretain => read_not_overran htidy (hsame ▸ hretain), ?_,
    fun bytes hok => length_read_balances htidy hok⟩
  · intro before event after h
    obtain ⟨wanted, s, hround⟩ := read_inRound h
    have hmem : event ∈ transfers (read length t).events := by
      rw [h]
      exact List.mem_append_right _ List.mem_cons_self
    exact ⟨hsame ▸ read_room htidy hmem, wanted, s, hround, hround.direct⟩
  · intro hreject
    have hpolicy : t.config.overrun = .reject := hsame ▸ hreject
    refine ⟨Nat.eq_zero_of_not_pos fun hs => ?_, read_overrun_iff htidy hpolicy⟩
    have hkeeps : t.config.overrun = .retain := (hbounds.beyond hs).2
    cases hpolicy.symm.trans hkeeps

/-- Six bytes are expected and five wanted. The first chunk goes straight to the call; the second goes
through the scratch buffer and is two bytes too long. One policy rejects it with these numbers, the
other keeps the two. -/
theorem overrun_verdict_second_chunk :
    let rejects : ValidConfig := ⟨⟨4, 8, 1000, 2, .reject⟩, by decide⟩
    let keeps : ValidConfig := ⟨⟨4, 8, 1000, 2, .retain⟩, by decide⟩
    let device : Backend.Script := ⟨[.moved [1, 2, 3, 4], .moved [5, 6, 7, 8]], []⟩
    let first : Event := .received 4 (.moved [1, 2, 3, 4])
    let second : Event := .received 4 (.moved [5, 6, 7, 8])
    let t := Operation.stateAfter [.startRead 6] (fresh rejects device)
    let t' := Operation.stateAfter [.startRead 6] (fresh keeps device)
    transfers (read 5 t).events = [first, second] ∧
      (∃ wanted s, InRound (5 - t.readAvailable) t.emptied [] first wanted s ∧
        (s.viaScratch wanted = false → first.receivedBytes.length ≤ s.readRemaining)) ∧
      t.surplus = 0 ∧ (read 5 t).result = .error (.protocol (.overrun 2 4)) ∧
      ¬Overran (read 5 t').result ∧ (read 5 t').result = .ok [1, 2, 3, 4, 5] ∧
      8 + 0 = 5 + ((read 5 t').state.readAvailable + (read 5 t').state.surplus) := by
  intro rejects keeps device first second t t'
  have hevents : transfers (read 5 t).events = [first, second] := by cbv
  have hok : (read 5 t').result = .ok [1, 2, 3, 4, 5] := by cbv
  have hreceived : receivedBytes (read 5 t').events = [1, 2, 3, 4, 5, 6, 7, 8] := by cbv
  obtain ⟨hrounds, -, hreject, -⟩ := overrun_verdict rejects device [.startRead 6] 5
  obtain ⟨-, hretain, -, hbalance⟩ := overrun_verdict keeps device [.startRead 6] 5
  obtain ⟨hnone, hiff⟩ := hreject rfl
  have hover := (hiff 2 4).2 ⟨[first], second, [], hevents, rfl, rfl, by decide⟩
  have hsum := hbalance [1, 2, 3, 4, 5] hok
  rw [hreceived] at hsum
  exact ⟨hevents, (hrounds [] first [second] hevents).2, hnone, hover, hretain rfl, hok, hsum⟩

end Transport

end ProbeLink
