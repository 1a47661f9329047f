import ProbeLink.Proofs.Ordering
import ProbeLink.Proofs.Reachable

/-!
# ProbeLink.Proofs.Misuse

**Who starts an operation too early is warned**, with one exception, and nobody else is
(`start_warns_iff`).

A start call looks at the counters of the operations before it, writes a log line for each that is
not zero, and then sets them. A read operation looks at both sides. A write operation looks at the
write side and at the surplus only, so that a read operation which is still open goes unnoticed
(`unread_answer_not_noticed`).

Nothing is ever staged without a write operation that waits for more, so a warning about staged
bytes never stands alone (`Regular.staged`).
-/

namespace ProbeLink

/-! ### Warnings -/

/-- There is a warning among the events. -/
def Warns (events : List Event) : Prop :=
  ∃ notice, .noted notice ∈ events ∧ notice.level = .warn

theorem not_warns_nil : ¬Warns [] := by
  rintro ⟨notice, hmem, -⟩
  cases hmem

@[simp] theorem warns_append {before after : List Event} :
    Warns (before ++ after) ↔ Warns before ∨ Warns after := by
  constructor
  · rintro ⟨notice, hmem, hlevel⟩
    rcases List.mem_append.1 hmem with hmem | hmem
    · exact .inl ⟨notice, hmem, hlevel⟩
    · exact .inr ⟨notice, hmem, hlevel⟩
  · rintro (⟨notice, hmem, hlevel⟩ | ⟨notice, hmem, hlevel⟩)
    · exact ⟨notice, List.mem_append_left _ hmem, hlevel⟩
    · exact ⟨notice, List.mem_append_right _ hmem, hlevel⟩

namespace Transport

variable {β : Type} {t : Transport β}

theorem warns_noteIf (applies : Bool) (notice : Notice) :
    Warns (noteIf applies notice) ↔ applies = true ∧ notice.level = .warn := by
  cases applies with
  | false => simpa [noteIf] using not_warns_nil
  | true =>
    constructor
    · rintro ⟨other, hmem, hlevel⟩
      obtain rfl : other = notice := by simpa [noteIf] using hmem
      exact ⟨rfl, hlevel⟩
    · rintro ⟨-, hlevel⟩
      exact ⟨notice, List.mem_singleton_self _, hlevel⟩

/-! ### What a start looks at -/

/-- Declaring the write side anew. -/
theorem warns_resetWriteEvents (h : Regular t) :
    Warns t.resetWriteEvents ↔ 0 < t.writeRemaining ∨ 0 < t.surplus := by
  have hstaged := h.staged
  simp only [resetWriteEvents, warns_append, warns_noteIf, Notice.level, and_true,
    decide_eq_true_eq]
  omega

/-- Declaring the read side anew. -/
theorem warns_resetReadEvents (length : Nat) (t : Transport β) :
    Warns (t.resetReadEvents length) ↔ 0 < t.readExpected ∨ length < t.surplus := by
  simp only [resetReadEvents, warns_append, warns_noteIf, Notice.level, and_true,
    decide_eq_true_eq, readExpected]
  omega

theorem warns_abandonWriteEvents (t : Transport β) :
    Warns t.abandonWriteEvents ↔ 0 < t.writeRemaining := by
  simp only [abandonWriteEvents, warns_noteIf, Notice.level, and_true, decide_eq_true_eq]

theorem warns_startWrite {length : Nat} (h : Regular t) (hl : 0 < length) :
    Warns (startWrite length t).events ↔ 0 < t.writeRemaining ∨ 0 < t.surplus := by
  rw [startWrite, if_neg (Nat.ne_of_gt hl)]
  exact warns_resetWriteEvents h

theorem warns_startRead {length : Nat} (hl : 0 < length) (t : Transport β) :
    Warns (startRead length t).events ↔
      0 < t.writeRemaining ∨ 0 < t.readExpected ∨ length < t.surplus := by
  have hexpected : t.abandonWrite.readExpected = t.readExpected := by
    rw [readExpected_eq, readExpected_eq, intake_abandonWrite]
  have hsurplus : t.abandonWrite.surplus = t.surplus := by
    rw [← length_spare, ← length_spare, ← spare_intake, intake_abandonWrite, spare_intake]
  rw [startRead, if_neg (Nat.ne_of_gt hl)]
  simp only [warns_append, warns_abandonWriteEvents, warns_resetReadEvents, hexpected, hsurplus]

theorem warns_startWriteRead {writeLength readLength : Nat} (h : Regular t)
    (hw : 0 < writeLength) (hr : 0 < readLength) :
    Warns (startWriteRead writeLength readLength t).events ↔
      0 < t.writeRemaining ∨ 0 < t.readExpected ∨ 0 < t.surplus := by
  -- The write side is declared first, and takes the surplus with it; it leaves the rest of the read
  -- side for the second look.
  have hexpected : (t.resetWrite writeLength).readExpected = t.readExpected := rfl
  have hsurplus : ¬readLength < (t.resetWrite writeLength).surplus := Nat.not_lt_zero readLength
  rw [startWriteRead, if_neg (by omega)]
  simp only [warns_append, warns_resetWriteEvents h, warns_resetReadEvents, hexpected, hsurplus]
  tauto

end Transport

/-! ### Calls -/

/-- Does a start call give up a surplus? A read operation of its own takes over one that is no longer
than itself. A command gives up any: what came before it cannot answer it. -/
def Call.Discards {β : Type} (t : Transport β) : Call → Prop
  | .startRead length => length < t.surplus
  | .startWrite _ | .startWriteRead _ _ => 0 < t.surplus
  | .write _ | .read _ => False

/-- Is the call the start of a write operation of its own? -/
def Call.isStartWrite : Call → Bool
  | .startWrite _ => true
  | _ => false

namespace Transport

variable {β : Type} [Backend β] {t : Transport β}

/-- A start call that succeeds warns of what it looks at. -/
theorem warns_start {call : Call} (h : Regular t) (hstart : call.isStart = true)
    (hok : (call.perform t).result.isOk = true) :
    Warns (call.perform t).events ↔
      0 < t.writeRemaining ∨ (0 < t.readExpected ∧ call.isStartWrite = false) ∨
        call.Discards t := by
  cases call with
  | startWrite length =>
    have hl : 0 < length := by
      refine Nat.pos_of_ne_zero fun hzero => ?_
      rw [Call.perform_startWrite, startWrite, if_pos hzero] at hok
      cases hok
    rw [Call.perform_startWrite, Outcome.events_map, warns_startWrite h hl]
    simp [Call.isStartWrite, Call.Discards]
  | startRead length =>
    have hl : 0 < length := by
      refine Nat.pos_of_ne_zero fun hzero => ?_
      rw [Call.perform_startRead, startRead, if_pos hzero] at hok
      cases hok
    rw [Call.perform_startRead, Outcome.events_map, warns_startRead hl]
    simp [Call.isStartWrite, Call.Discards]
  | startWriteRead writeLength readLength =>
    have hl : ¬(writeLength = 0 ∨ readLength = 0) := by
      intro hzero
      rw [Call.perform_startWriteRead, startWriteRead, if_pos hzero] at hok
      cases hok
    rw [Call.perform_startWriteRead, Outcome.events_map,
      warns_startWriteRead h (by omega) (by omega)]
    simp [Call.isStartWrite, Call.Discards]
  | write data => cases hstart
  | read length => cases hstart

/-! ### Runs -/

/-- In this run every operation is complete before the next one is started, and no start gives up a
surplus. -/
def Finishing : List Call → Transport β → Prop
  | [], _ => True
  | call :: later, t =>
    (call.isStart = true → (call.perform t).result.isOk = true →
      t.writeRemaining = 0 ∧ t.readExpected = 0 ∧ ¬call.Discards t) ∧
    Finishing later (call.perform t).state

/-- What happens during the start calls of a run. -/
def startTrace : List Call → Transport β → List Event
  | [], _ => []
  | call :: later, t =>
    (if call.isStart then (call.perform t).events else []) ++
      startTrace later (call.perform t).state

/-- A start call that finds everything complete, or that is refused, warns of nothing. -/
theorem not_warns_start {call : Call} (h : Regular t) (hstart : call.isStart = true)
    (hcomplete : (call.perform t).result.isOk = true →
      t.writeRemaining = 0 ∧ t.readExpected = 0 ∧ ¬call.Discards t) :
    ¬Warns (call.perform t).events := by
  cases hok : (call.perform t).result.isOk with
  | false =>
    rw [(perform_of_refused hstart hok).2]
    exact not_warns_nil
  | true =>
    obtain ⟨hwrite, hread, hkeeps⟩ := hcomplete hok
    rw [warns_start h hstart hok]
    rintro (hw | ⟨hr, -⟩ | hd)
    · omega
    · omega
    · exact hkeeps hd

/-- **A run that finishes what it starts is never warned at a start.** -/
theorem not_warns_startTrace {calls : List Call} (h : Regular t) (hf : Finishing calls t) :
    ¬Warns (startTrace calls t) := by
  induction calls generalizing t with
  | nil => exact not_warns_nil
  | cons call later ih =>
    rw [startTrace, warns_append]
    rintro (hwarns | hwarns)
    · split at hwarns
      · next hstart => exact not_warns_start h hstart (hf.1 hstart) hwarns
      · exact not_warns_nil hwarns
    · exact ih (regular_perform call t h) hf.2 hwarns

/-- **Who starts an operation too early is warned, and nobody else is**, with one exception. After
any history, a start call that succeeds warns exactly if it finds the write operation before it
unfinished, if it finds the read operation before it unfinished and is not the start of a write
operation of its own, or if it gives up a surplus. So a run in which every operation is complete
before the next one is started, and no surplus is given up, is never warned at a start. -/
theorem start_warns_iff (config : ValidConfig) (backend : β) (history : List Operation) :
    let t := Operation.stateAfter history (fresh config backend)
    (∀ call : Call, call.isStart = true → (call.perform t).result.isOk = true →
        (Warns (call.perform t).events ↔
          0 < t.writeRemaining ∨ (0 < t.readExpected ∧ call.isStartWrite = false) ∨
            call.Discards t)) ∧
      ∀ calls : List Call, Finishing calls t → ¬Warns (startTrace calls t) := by
  intro t
  obtain ⟨-, _, hbounds⟩ := inBounds_stateAfter history (inBounds_fresh config backend)
  have hregular : Regular t := hbounds.regular
  exact ⟨fun _ hstart hok => warns_start hregular hstart hok,
    fun _ hf => not_warns_startTrace hregular hf⟩

/-- A read operation over a half-written command is warned of; a command that is answered in full
before the next one starts is not. -/
theorem start_warns_of_half_a_command :
    let backend : Backend.Script := ⟨[.moved [9, 9]], []⟩
    let config : ValidConfig := ⟨⟨4, 8, 1000, 2, .reject⟩, by decide⟩
    let half := Operation.stateAfter [.startWriteRead 3 2, .write [1]] (fresh config backend)
    let calls : List Call := [.startWriteRead 1 2, .write [8], .read 2, .startWrite 1]
    (Call.isStart (.startRead 2) = true ∧ ((Call.startRead 2).perform half).result.isOk = true ∧
        half.writeRemaining = 2 ∧ Warns ((Call.startRead 2).perform half).events) ∧
      Finishing calls (fresh config backend) ∧
      ¬Warns (startTrace calls (fresh config backend)) := by
  intro backend config half calls
  obtain ⟨hiff, -⟩ := start_warns_iff config backend [.startWriteRead 3 2, .write [1]]
  obtain ⟨-, hruns⟩ := start_warns_iff config backend []
  have hw : half.writeRemaining = 2 := by cbv
  have hfinishing : Finishing calls (fresh config backend) := by
    refine ⟨?first, ?write, ?read, ?last, trivial⟩
    case first => exact fun _ _ => ⟨rfl, rfl, Nat.lt_irrefl 0⟩
    case write => exact fun hstart => by cases hstart
    case read => exact fun hstart => by cases hstart
    case last =>
      have hsurplus : ((fresh config backend).after (calls.take 3)).surplus = 0 := by cbv
      exact fun _ _ => ⟨by cbv, by cbv, Nat.not_lt_of_ge (Nat.le_of_eq hsurplus)⟩
  refine ⟨⟨rfl, rfl, hw, ?_⟩, hfinishing, hruns calls hfinishing⟩
  exact (hiff (.startRead 2) rfl rfl).2 (.inl (by rw [hw]; decide))

/-- An answer is still expected when a write operation is started, and nobody is told. -/
theorem unread_answer_not_noticed :
    let t := Operation.stateAfter [.startRead 2]
      (fresh ⟨⟨4, 8, 1000, 2, .reject⟩, by decide⟩ (⟨[], []⟩ : Backend.Script))
    let call := Call.startWrite 1
    call.isStart = true ∧ (call.perform t).result = .ok .done ∧ t.readExpected = 2 ∧
      (call.perform t).events = [] ∧
      ¬(Warns (call.perform t).events ↔
        (0 < t.writeRemaining ∨ 0 < t.readExpected) ∨ call.Discards t) := by
  intro t call
  have hexpected : t.readExpected = 2 := by cbv
  have hevents : (call.perform t).events = [] := by cbv
  refine ⟨rfl, by cbv, hexpected, hevents, ?_⟩
  rw [hevents, hexpected]
  exact fun hiff => not_warns_nil (hiff.2 (.inl (.inr (by decide))))

end Transport

end ProbeLink
