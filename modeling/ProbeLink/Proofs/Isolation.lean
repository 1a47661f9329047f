import Mathlib
import ProbeLink.Backend.Script
import ProbeLink.Proofs.History

/-!
# ProbeLink.Proofs.Isolation

**Staged bytes and owed bytes share one buffer.** What a read returns comes from the device only as
long as no write call puts bytes where owed ones lie.

* A write call leaves the owed bytes alone exactly if it spares them: where it puts a byte on an
  owed one, it is the same byte (`owed_write_iff`).
* In a run whose write calls all do, every read returns a stretch of what was received, in order
  (`backed_after`, `backed_read`).
* It is enough that no write operation is started on its own while delivered bytes lie ready
  (`sparing_of_orderly`). The other two ways to start an operation give those bytes up, so only this
  one can lead to a clash.
-/

namespace ProbeLink.Transport

variable {β : Type} {t : Transport β}

/-! ### One write call -/

/-- Where a write call puts a byte on an owed one, it is the same byte. -/
def Spares (data : Bytes) (t : Transport β) : Prop :=
  ∀ i, t.readPos ≤ i → i < t.readPos + (t.readAvailable + t.surplus) →
    t.writeBuffered ≤ i → i < t.writeBuffered + (t.deposit data).length →
      (t.deposit data).getD (i - t.writeBuffered) 0 = t.scratch.get i

/-- A write call spares what it does not reach. -/
theorem spares_of_owed_eq_nil {data : Bytes} (h : t.readAvailable + t.surplus = 0) :
    Spares data t := by
  intro i hlow hhigh
  omega

theorem spares_of_deposit_eq_nil {data : Bytes} (h : t.deposit data = []) : Spares data t := by
  intro i _ _ hlow hhigh
  rw [h, List.length_nil] at hhigh
  omega

/-- While no write operation waits for bytes, a write call puts none into the scratch buffer. -/
theorem deposit_eq_nil {data : Bytes} (h : Regular t) (hw : t.writeRemaining = 0) :
    t.deposit data = [] := by
  have hstaged := h.staged
  unfold deposit
  split
  · rfl
  · rw [if_neg (by omega), if_pos (by omega)]

/-- Nothing is owed to reads while a write operation waits for bytes. -/
def Apart (t : Transport β) : Prop := 0 < t.writeRemaining → t.owed = []

/-- While the two are apart, no write call reaches an owed byte. -/
theorem spares_of_apart {data : Bytes} (h : Regular t) (ha : Apart t) : Spares data t := by
  by_cases hw : t.writeRemaining = 0
  · exact spares_of_deposit_eq_nil (deposit_eq_nil h hw)
  · refine spares_of_owed_eq_nil ?_
    rw [← length_owed, ha (Nat.pos_of_ne_zero hw), List.length_nil]

/-! ### The owed bytes -/

/-- The owed bytes are the last that were received. They may be earlier ones only if the operation
is complete and nothing is left beyond it, as when a new command dropped what followed them. -/
def Backed (received : Bytes) (t : Transport β) : Prop :=
  t.owed <:+ received ∨ (t.owed <:+: received ∧ t.readRemaining = 0 ∧ t.surplus = 0)

theorem backed_of_owed_eq_nil {received : Bytes} (h : t.owed = []) : Backed received t := by
  left
  rw [h]
  exact List.nil_suffix

theorem Backed.part {received : Bytes} (h : Backed received t) : t.owed <:+: received := by
  rcases h with h | ⟨h, -⟩
  · exact h.isInfix
  · exact h

variable {received : Bytes}

/-- A new command drops what lies beyond the operation, and with it the claim to be last. -/
theorem backed_startWrite {length : Nat} (h : Regular t) (hb : Backed received t) :
    Backed received (startWrite length t).state := by
  unfold startWrite
  split
  · exact hb
  · by_cases hs : t.surplus = 0
    · -- Without a surplus nothing is dropped, and the owed bytes are last if they were.
      have hsame : (t.resetWrite length).owed = t.owed := by
        simp only [owed, resetWrite, hs]
      rcases hb with hlast | ⟨hpart, hdue, -⟩
      · left
        rwa [hsame]
      · refine .inr ⟨?_, hdue, rfl⟩
        rwa [hsame]
    · -- A surplus means a complete operation, so no later byte can join what remains of it.
      refine .inr ⟨?_, (tidy_intake_iff t).1 h.tidy (Nat.pos_of_ne_zero hs), rfl⟩
      have howed : (t.resetWrite length).owed = t.ready := rfl
      rw [howed]
      refine List.IsInfix.trans ?_ hb.part
      rw [owed_eq]
      exact (List.prefix_append _ _).isInfix

/-- A plain read operation keeps at most what lies beyond the operation before it. -/
theorem backed_startRead {length : Nat} (hb : Backed received t) :
    Backed received (startRead length t).state := by
  unfold startRead
  split
  · exact hb
  · have howed : (t.begun length).owed = t.adopted length := by
      rw [owed_eq, intake_begun, List.append_nil]
    show Backed received (t.begun length)
    by_cases hadopts : t.adopted length = []
    · exact backed_of_owed_eq_nil (howed.trans hadopts)
    · have hspare : t.adopted length = t.spare := by
        unfold adopted at hadopts ⊢
        split
        · rfl
        · next h => exact absurd (if_neg h) hadopts
      rcases hb with hlast | ⟨-, -, hsurplus⟩
      · left
        rw [howed, hspare]
        refine List.IsSuffix.trans ?_ hlast
        rw [owed_eq]
        exact List.suffix_append _ _
      · -- Owed bytes that are not the last leave nothing beyond the operation to adopt.
        exact absurd (hspare.trans (spare_eq_nil hsurplus)) hadopts

theorem backed_startWriteRead {writeLength readLength : Nat} (hb : Backed received t) :
    Backed received (startWriteRead writeLength readLength t).state := by
  unfold startWriteRead
  split
  · exact hb
  · exact backed_of_owed_eq_nil (owed_asked writeLength readLength t)

/-! ### One call -/

variable [Backend β]

/-- **A write call leaves the owed bytes alone exactly if it spares them.** -/
theorem owed_write_iff (data : Bytes) (t : Transport β) :
    (write data t).state.owed = t.owed ↔ Spares data t := by
  have hleaves := write_leavesReadSide data t
  rw [owed, owed, hleaves.readPos, hleaves.readAvailable, hleaves.surplus,
    Scratch.read_eq_read_iff]
  refine forall_congr' fun i => forall_congr' fun _ => forall_congr' fun _ => ?_
  rw [get_scratch_write, Scratch.get_write]
  split
  · next h => exact ⟨fun hbyte _ _ => hbyte, fun hbyte => hbyte h.1 h.2⟩
  · next h => exact ⟨fun _ hlow hhigh => absurd ⟨hlow, hhigh⟩ h, fun _ => rfl⟩

/-- The first bytes of what was received last lie in it, and the others are the last of it. -/
theorem part_of_last {owed more bytes left : Bytes} (hlast : owed <:+ received)
    (h : owed ++ more = bytes ++ left) :
    left <:+ received ++ more ∧ bytes <:+: received ++ more := by
  obtain ⟨earlier, rfl⟩ := hlast
  rw [List.append_assoc, h]
  exact ⟨(List.suffix_append _ _).trans (List.suffix_append _ _),
    ⟨earlier, left, List.append_assoc _ _ _⟩⟩

/-- Both parts of what was received at some time lie in it. -/
theorem part_of_part {owed bytes left : Bytes} (hpart : owed <:+: received)
    (h : owed = bytes ++ left) : left <:+: received ∧ bytes <:+: received := by
  rw [h] at hpart
  exact ⟨(List.suffix_append _ _).isInfix.trans hpart, (List.prefix_append _ _).isInfix.trans hpart⟩

/-- A read of an operation that is complete receives nothing. -/
theorem Reads.of_complete {need : Nat} {outcome : Outcome (Transport β) Bytes}
    (h : Reads t need outcome) (hdue : t.readRemaining = 0) :
    outcome.events = [] ∧ outcome.state.intake = t.intake.handOut need := by
  have hgathered : t.gathered need = ⟨.ok (), t.intake, []⟩ := Intake.gather_of_due_eq_zero hdue
  rw [h.events, h.intake, hgathered]
  exact ⟨rfl, rfl⟩

/-- A read returns a stretch of what was received, and owes the bytes after it. -/
theorem backed_reads {need : Nat} {outcome : Outcome (Transport β) Bytes} {bytes : Bytes}
    (hb : Backed received t) (h : Reads t need outcome)
    (hbytes : t.owed ++ receivedBytes outcome.events = bytes ++ outcome.state.owed) :
    Backed (received ++ receivedBytes outcome.events) outcome.state ∧
      bytes <:+: received ++ receivedBytes outcome.events := by
  rcases hb with hlast | ⟨hpart, hdue, hsurplus⟩
  · obtain ⟨hleft, htaken⟩ := part_of_last hlast hbytes
    exact ⟨.inl hleft, htaken⟩
  · obtain ⟨hevents, hintake⟩ := h.of_complete hdue
    rw [hevents, receivedBytes_nil, List.append_nil] at hbytes ⊢
    obtain ⟨hleft, htaken⟩ := part_of_part hpart hbytes
    refine ⟨.inr ⟨hleft, (congrArg Intake.due hintake).trans hdue, ?_⟩, htaken⟩
    rw [← length_spare, ← spare_intake, hintake]
    exact (length_spare t).trans hsurplus

/-- **A read call returns a stretch of what was received**, and owes no bytes but such. -/
theorem backed_read (length : Nat) (h : Regular t) (hb : Backed received t) :
    Backed (received ++ receivedBytes (read length t).events) (read length t).state ∧
      ∀ bytes, (read length t).result = .ok bytes →
        bytes <:+: received ++ receivedBytes (read length t).events := by
  have hrefused : ∀ e notice, read length t = ⟨.error e, t, [.noted notice]⟩ →
      Backed (received ++ receivedBytes (read length t).events) (read length t).state ∧
        ∀ bytes, (read length t).result = .ok bytes →
          bytes <:+: received ++ receivedBytes (read length t).events := by
    intro e notice hr
    rw [hr, receivedBytes_eq_nil (quiet_noted notice).2, List.append_nil]
    refine ⟨hb, ?_⟩
    intro bytes hok
    cases hok
  obtain ⟨-, hr⟩ | ⟨-, -, hr⟩ | ⟨-, hl, hreads⟩ := read_cases h.tidy length
  · exact hrefused _ _ hr
  · exact hrefused _ _ hr
  · obtain ⟨hok, herror⟩ := hreads.owed hl h.tidy
    cases hresult : (read length t).result with
    | error e =>
      refine ⟨backed_of_owed_eq_nil (herror e hresult), ?_⟩
      intro bytes hok'
      cases hok'
    | ok bytes =>
      obtain ⟨-, hbytes⟩ := hok bytes hresult
      obtain ⟨hbacked, hpart⟩ := backed_reads hb hreads hbytes
      refine ⟨hbacked, ?_⟩
      intro bytes' hok'
      cases hok'
      exact hpart

/-- A write call that spares the owed bytes changes nothing about them. -/
theorem backed_write {data : Bytes} (hb : Backed received t) (hs : Spares data t) :
    Backed received (write data t).state := by
  have hleaves := write_leavesReadSide data t
  rwa [Backed, (owed_write_iff data t).2 hs, hleaves.readRemaining, hleaves.surplus]

/-- The call puts no other byte in the place of an owed one. -/
def SparedBy (call : Call) (t : Transport β) : Prop :=
  match call with
  | .write data => Spares data t
  | _ => True

omit [Backend β] in
/-- While the two are apart, no call does. -/
theorem sparedBy_of_apart (call : Call) (h : Regular t) (ha : Apart t) : SparedBy call t := by
  cases call with
  | write data => exact spares_of_apart h ha
  | _ => trivial

theorem backed_perform {call : Call} (h : Regular t) (hb : Backed received t)
    (hs : SparedBy call t) :
    Backed (received ++ receivedBytes (call.perform t).events) (call.perform t).state := by
  cases call with
  | startWrite length =>
    have hquiet := receivedBytes_eq_nil (quiet_startWrite length t).2
    simpa [hquiet] using backed_startWrite h hb
  | startRead length =>
    have hquiet := receivedBytes_eq_nil (quiet_startRead length t).2
    simpa [hquiet] using backed_startRead hb
  | startWriteRead writeLength readLength =>
    have hquiet := receivedBytes_eq_nil (quiet_startWriteRead writeLength readLength t).2
    simpa [hquiet] using backed_startWriteRead hb
  | write data =>
    have hquiet := receivedBytes_eq_nil (write_leavesReadSide data t).noReceive
    simpa [hquiet] using backed_write hb hs
  | read length => simpa using (backed_read length h hb).1

/-! ### Runs -/

/-- No call of a run puts another byte in the place of an owed one. -/
def Sparing : List Call → Transport β → Prop
  | [], _ => True
  | call :: later, t => SparedBy call t ∧ Sparing later (call.perform t).state

/-- **A run spares the owed bytes exactly if each of its write calls leaves them as they were.** -/
theorem sparing_iff (calls : List Call) (t : Transport β) :
    Sparing calls t ↔
      ∀ before data later, calls = before ++ .write data :: later →
        (write data (t.after before)).state.owed = (t.after before).owed := by
  induction calls generalizing t with
  | nil =>
    refine iff_of_true trivial ?_
    intro before data later h
    exact absurd h.symm (by simp)
  | cons call calls ih =>
    constructor
    · rintro ⟨hcall, hlater⟩ before data later h
      -- The write call is the first of the run, or one of those after it.
      cases before with
      | nil =>
        obtain ⟨rfl, -⟩ := List.cons.inj h
        exact (owed_write_iff data t).2 hcall
      | cons first before =>
        obtain ⟨rfl, hrest⟩ := List.cons.inj h
        exact (ih _).1 hlater before data later hrest
    · intro h
      refine ⟨?_, (ih _).2 ?_⟩
      · cases call with
        | write data => exact (owed_write_iff data t).1 (h [] data calls rfl)
        | _ => trivial
      · intro before data later hrest
        exact h (call :: before) data later (by rw [hrest, List.cons_append])

theorem backed_after {calls : List Call} (received : Bytes) (h : Regular t)
    (hb : Backed received t) (hs : Sparing calls t) :
    Backed (received ++ receivedBytes (t.trace calls)) (t.after calls) := by
  induction calls generalizing t received with
  | nil => simpa using hb
  | cons call later ih =>
    rw [trace_cons, after_cons, receivedBytes_append, ← List.append_assoc]
    exact ih _ (regular_perform call t h) (backed_perform h hb hs.1) hs.2

/-! ### Orderly runs -/

/-- A write operation is not started on its own while delivered bytes lie ready. -/
def OrderlyCall (call : Call) (t : Transport β) : Prop :=
  match call with
  | .startWrite _ => t.readAvailable = 0
  | _ => True

/-- No call of a run starts a write operation on its own while delivered bytes lie ready. -/
def Orderly : List Call → Transport β → Prop
  | [], _ => True
  | call :: later, t => OrderlyCall call t ∧ Orderly later (call.perform t).state

theorem apart_write {data : Bytes} (ha : Apart t) : Apart (write data t).state := by
  -- A call changes how many bytes are owed as little as it starts an operation: whatever the write
  -- side still waits for after it, it waited for before.
  have hleaves := write_leavesReadSide data t
  have hlength : (write data t).state.owed.length = t.owed.length := by
    rw [length_owed, length_owed, hleaves.readAvailable, hleaves.surplus]
  intro hw
  rw [← List.length_eq_zero_iff, hlength, List.length_eq_zero_iff]
  refine ha ?_
  obtain ⟨-, hcall⟩ | ⟨-, -, hcall⟩ | ⟨hlt, -, hcall⟩ | ⟨-, hsends⟩ := write_cases data t
  · rwa [hcall] at hw
  · rwa [hcall] at hw
  · omega
  · rw [hsends.state] at hw
    exact absurd hw (Nat.lt_irrefl 0)

theorem apart_read {length : Nat} (h : Regular t) (ha : Apart t) :
    Apart (read length t).state := by
  obtain ⟨-, hr⟩ | ⟨-, -, hr⟩ | ⟨hw, -, hreads⟩ := read_cases h.tidy length
  · rwa [hr]
  · rwa [hr]
  · intro hpos
    rw [hreads.writeSide.writeRemaining, hw] at hpos
    exact absurd hpos (Nat.lt_irrefl 0)

theorem apart_perform {call : Call} (h : Regular t) (ha : Apart t)
    (ho : OrderlyCall call t) : Apart (call.perform t).state := by
  cases call with
  | startWrite length =>
    simp only [Call.perform_startWrite, Outcome.state_map, startWrite]
    split
    · exact ha
    · intro _
      rw [owed_eq, intake_resetWrite, List.append_nil]
      exact ready_eq_nil ho
  | startRead length =>
    simp only [Call.perform_startRead, Outcome.state_map, startRead]
    split
    · exact ha
    · intro hpos
      exact absurd hpos (Nat.not_lt_of_ge (Nat.le_of_eq (writeRemaining_begun length t)))
  | startWriteRead writeLength readLength =>
    simp only [Call.perform_startWriteRead, Outcome.state_map, startWriteRead]
    split
    · exact ha
    · exact fun _ => owed_asked writeLength readLength t
  | write data => simpa using apart_write ha
  | read length => simpa using apart_read h ha

theorem sparing_of_orderly {calls : List Call} (h : Regular t) (ha : Apart t)
    (ho : Orderly calls t) : Sparing calls t := by
  induction calls generalizing t with
  | nil => trivial
  | cons call later ih =>
    exact ⟨sparedBy_of_apart call h ha,
      ih (regular_perform call t h) (apart_perform h ha ho.1) ho.2⟩

/-! ### What reads return -/

/-- **Reads return what was received as long as no write call changes an owed byte.** Whether one
does is a matter of where the two lie. None does in a run that starts no write operation on its own
while delivered bytes lie ready. -/
theorem owed_isolated_of_sparing (config : ValidConfig) (backend : β) (calls : List Call) :
    let t := fresh config backend
    (Sparing calls t ↔
        ∀ before data later, calls = before ++ .write data :: later →
          (write data (t.after before)).state.owed = (t.after before).owed) ∧
      (Sparing calls t →
        (t.after calls).owed <:+: receivedBytes (t.trace calls) ∧
          ∀ length bytes, (read length (t.after calls)).result = .ok bytes →
            bytes <:+: receivedBytes (t.trace (calls ++ [.read length]))) ∧
      (Orderly calls t → Sparing calls t) := by
  intro t
  have hregular : Regular t := regular_fresh config backend
  refine ⟨sparing_iff calls t, ?_, ?_⟩
  · intro hs
    have hb : Backed (receivedBytes (t.trace calls)) (t.after calls) :=
      backed_after [] hregular (backed_of_owed_eq_nil rfl) hs
    refine ⟨hb.part, ?_⟩
    intro length bytes hok
    have hread := (backed_read length (regular_after calls hregular) hb).2 bytes hok
    rw [trace_append, trace_cons, trace_nil, List.append_nil, receivedBytes_append,
      Call.perform_read]
    exact hread
  · intro ho
    have hapart : Apart t := fun _ => rfl
    exact sparing_of_orderly hregular hapart ho

/-- An answer is half read when a write operation is started, but no byte of it lies ready. What is
staged meanwhile stays apart from the rest of the answer, which is read to its end. -/
theorem read_returns_received :
    let t := fresh ⟨⟨4, 8, 1000, 2, .reject⟩, by decide⟩
      (⟨[.moved [1, 2, 3, 4], .moved [5, 6]], []⟩ : Backend.Script)
    let calls : List Call := [.startRead 6, .read 4, .startWrite 3, .write [7, 7], .write [7], .read 1]
    (t.after (calls.take 2)).counters = [0, 0, 2, 0, 0] ∧
      (t.after (calls.take 4)).counters = [1, 2, 2, 0, 0] ∧
      Sparing calls t ∧ (read 1 (t.after calls)).result = .ok [6] ∧
      [6] <:+: receivedBytes (t.trace (calls ++ [.read 1])) := by
  intro t calls
  have hhalf : (t.after [.startRead 6, .read 4]).counters = [0, 0, 2, 0, 0] := by cbv
  have hstaged : (t.after [.startRead 6, .read 4, .startWrite 3, .write [7, 7]]).counters =
      [1, 2, 2, 0, 0] := by cbv
  have hlast : (read 1 (t.after calls)).result = .ok [6] := by cbv
  have hnone : (t.after [.startRead 6, .read 4]).readAvailable = 0 := by cbv
  obtain ⟨-, hread, horderly⟩ := owed_isolated_of_sparing t.config t.backend calls
  have hs : Sparing calls t :=
    horderly ⟨trivial, trivial, hnone, trivial, trivial, trivial, trivial⟩
  exact ⟨hhalf, hstaged, hs, hlast, (hread hs).2 1 [6] hlast⟩

/-- An answer is half read when a write operation is started. The bytes that are still owed are
gone: the next read returns the caller's own. -/
theorem read_returns_staged :
    let t := fresh ⟨⟨4, 8, 1000, 2, .reject⟩, by decide⟩
      (⟨[.moved [1, 2, 3, 4]], []⟩ : Backend.Script)
    let calls : List Call := [.startRead 4, .read 1, .startWrite 3, .write [7, 7], .write [7]]
    (t.after (calls.take 3)).owed = [2, 3, 4] ∧
      (t.after calls).owed = [7, 7, 4] ∧
      (read 3 (t.after calls)).result = .ok [7, 7, 4] ∧
      receivedBytes (t.trace (calls ++ [.read 3])) = [1, 2, 3, 4] ∧
      ¬[7, 7, 4] <:+: [1, 2, 3, 4] := by
  refine ⟨?_, ?_, ?_, ?_, by decide⟩
  · cbv
  · cbv
  · cbv
  · cbv

end ProbeLink.Transport
