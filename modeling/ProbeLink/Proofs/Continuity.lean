import ProbeLink.Backend.Script
import ProbeLink.Proofs.Failures
import ProbeLink.Proofs.SplitInvariance

/-!
# ProbeLink.Proofs.Continuity

**Read operations read one stream.** With no command in between, what a device sends goes to the
operations in order. A surplus that fits into the next operation is its beginning, and one that does
not is left out. Nothing else is, and nothing comes twice (`retained_stream`).

The books of one operation balance: the surplus before it and what it receives are what it leaves out,
what it returns, and the surplus after it (`readOperation_balances`). In a row of operations the
surplus after one is that before the next, so the books join.
-/

namespace ProbeLink.Transport

variable {β : Type}

/-! ### The surplus at the start of an operation -/

/-- The surplus that a read operation of `length` bytes leaves out: it is too long for it. -/
def leftOut (length : Nat) (t : Transport β) : Bytes := if length < t.surplus then t.spare else []

/-- A surplus is left out or taken over, as a whole. -/
theorem leftOut_append_adopted (length : Nat) (t : Transport β) :
    t.leftOut length ++ t.adopted length = t.spare := by
  unfold leftOut adopted
  rcases Nat.lt_or_ge length t.surplus with hlong | hfits
  · rw [if_pos hlong, if_neg (Nat.not_le_of_lt hlong), List.append_nil]
  · rw [if_neg (Nat.not_lt_of_le hfits), if_pos hfits, List.nil_append]

variable [Backend β]

/-! ### One operation -/

/-- The books of a read operation that is read completely. -/
structure Balances (length : Nat) (t : Transport β) (bytes : Bytes)
    (outcome : Outcome (Transport β) Bytes) : Prop where
  length_bytes : bytes.length = length
  stream : t.spare ++ receivedBytes outcome.events =
    t.leftOut length ++ bytes ++ outcome.state.spare
  room : RoomIs t.config.chunkSize outcome.events
  config : outcome.state.config = t.config

theorem readOperation_zero (calls : List Nat) (t : Transport β) :
    readOperation 0 calls t = ⟨.error (.argument .zeroLength), t, []⟩ :=
  Run.bind_of_error _ rfl

/-- There is no operation of no bytes. -/
theorem pos_of_readOperation {length : Nat} {calls : List Nat} {t : Transport β} {bytes : Bytes}
    (h : (readOperation length calls t).result = .ok bytes) : 0 < length := by
  refine Nat.pos_of_ne_zero ?_
  rintro rfl
  rw [readOperation_zero] at h
  cases h

/-- **The books of an operation balance.** -/
theorem readOperation_balances {length : Nat} {calls : List Nat} {t : Transport β} {bytes : Bytes}
    (hcalls : calls.sum = length) (hok : (readOperation length calls t).result = .ok bytes) :
    Balances length t bytes (readOperation length calls t) := by
  have hpos := pos_of_readOperation hok
  have hreads := readEach_begun t hcalls
  have hexpected := readExpected_begun length t
  have hquiet := (quiet_startRead length t).2
  rw [readOperation_of_pos t hpos] at hok ⊢
  obtain ⟨hlength, hcomplete⟩ := hreads.complete hexpected hok
  obtain ⟨-, hbytes⟩ :=
    (hreads.owed (Nat.le_of_eq hexpected.symm) (tidy_begun length t)).1 bytes hok
  have hbefore : (t.begun length).owed = t.adopted length := by
    rw [owed_eq, intake_begun, List.append_nil]
  -- Nothing is left of the operation, so what is owed after it is the surplus.
  have hready : (readEach calls (t.begun length)).state.ready = [] := by
    rw [readExpected_eq, ready_intake] at hcomplete
    exact List.length_eq_zero_iff.1 (Nat.eq_zero_of_add_eq_zero_right hcomplete)
  rw [hbefore, owed_eq, ready_intake, spare_intake, hready, List.nil_append] at hbytes
  refine ⟨hlength, ?_, ?_, hreads.writeSide.config.trans (config_begun length t)⟩
  · rw [Outcome.events_after, receivedBytes_append, receivedBytes_eq_nil hquiet, List.nil_append,
      Outcome.state_after, ← leftOut_append_adopted length t, List.append_assoc, hbytes,
      List.append_assoc]
  · refine roomIs_append.2 ⟨roomIs_of_noReceive hquiet, ?_⟩
    rw [hreads.events, ← config_begun length t]
    exact Intake.roomIs_gather _

/-- How a read operation starts, by the length of the surplus. -/
structure Starts (length : Nat) (t : Transport β) : Prop where
  /-- A surplus that fits is there before anything is received. -/
  fits : t.surplus ≤ length → ∀ calls, calls.sum ≤ t.surplus →
    (readEach calls (startRead length t).state).result = .ok (t.spare.take calls.sum) ∧
      NoReceive (readEach calls (startRead length t).state).events
  /-- One that does not is gone, and the first read receives. -/
  tooLong : length < t.surplus → (startRead length t).state.owed = [] ∧
    ∀ need, 0 < need → need ≤ length → ¬NoReceive (read need (startRead length t).state).events

theorem starts {length : Nat} (hpos : 0 < length) (t : Transport β) : Starts length t where
  fits := by
    intro hfits calls hcalls
    have hstate := congrArg Outcome.state (startRead_of_pos hpos t)
    have hadopted : t.adopted length = t.spare := if_pos hfits
    have hready : (t.begun length).intake.ready = t.spare := by
      rw [intake_begun, hadopted]
    have hl : calls.sum ≤ (t.begun length).readExpected := by
      rw [readExpected_begun]
      exact Nat.le_trans hcalls hfits
    have hreads := readEach_reads (writeRemaining_begun length t) hl (tidy_begun length t)
    have hnone : (t.begun length).gathered calls.sum = ⟨.ok (), (t.begun length).intake, []⟩ := by
      refine Intake.gather_of_le ?_
      rwa [hready, length_spare]
    rw [hstate]
    refine ⟨?_, ?_⟩
    · rw [hreads.result, hnone, ← hready]
      rfl
    · rw [hreads.events, hnone]
      exact noReceive_nil
  tooLong := by
    intro hlong
    have hstate := congrArg Outcome.state (startRead_of_pos hpos t)
    have hadopted : t.adopted length = [] := if_neg (Nat.not_le_of_lt hlong)
    have hintake : (t.begun length).intake = ⟨t.backend, length, [], []⟩ := by
      rw [intake_begun, hadopted]
      rfl
    rw [hstate]
    refine ⟨?_, ?_⟩
    · show (t.begun length).owed = []
      rw [owed_eq, hintake]
      rfl
    · intro need hneed hle
      have hl : need ≤ (t.begun length).readExpected := by rwa [readExpected_begun]
      have hreads := read_reads (writeRemaining_begun length t) hl (tidy_begun length t)
      rw [hreads.events, gathered, hintake]
      exact Intake.gather_receives hneed hpos

/-! ### One operation after the other -/

/-- Reads one operation after the other. Each is given by its length and those of its calls. -/
def readOperations : List (Nat × List Nat) → Run (Transport β) (List Bytes)
  | [] => pure []
  | (length, calls) :: later => do
    let first ← readOperation length calls
    let rest ← readOperations later
    return first :: rest

/-- What each of the operations leaves out of the surplus before it. -/
def leftOuts : List (Nat × List Nat) → Transport β → List Bytes
  | [], _ => []
  | (length, calls) :: later, t =>
    t.leftOut length :: leftOuts later (readOperation length calls t).state

theorem readOperations_cons (length : Nat) (calls : List Nat) (later : List (Nat × List Nat)) :
    readOperations (β := β) ((length, calls) :: later) =
      readOperation length calls >>= fun first => (first :: ·) <$> readOperations later := rfl

/-- If all of them succeed, the first does, and those after it do from where it leads. -/
theorem readOperations_ok {length : Nat} {calls : List Nat} {later : List (Nat × List Nat)}
    {t : Transport β} {parts : List Bytes}
    (h : (readOperations ((length, calls) :: later) t).result = .ok parts) :
    ∃ first rest, parts = first :: rest ∧ (readOperation length calls t).result = .ok first ∧
      (readOperations later (readOperation length calls t).state).result = .ok rest ∧
      readOperations ((length, calls) :: later) t =
        ((readOperations later (readOperation length calls t).state).map (first :: ·)).after
          (readOperation length calls t).events := by
  rw [readOperations_cons] at h ⊢
  cases hfirst : (readOperation length calls t).result with
  | error e =>
    rw [Run.bind_of_result_error _ hfirst] at h
    cases h
  | ok first =>
    rw [Run.bind_of_result_ok _ hfirst, Run.map_apply] at h ⊢
    rw [Outcome.result_after, Outcome.result_map] at h
    cases hrest : (readOperations later (readOperation length calls t).state).result with
    | error e =>
      rw [hrest] at h
      cases h
    | ok rest =>
      rw [hrest] at h
      cases h
      exact ⟨first, rest, rfl, rfl, rfl, rfl⟩

/-- In a row that succeeds every operation does, at its place. -/
theorem readOperation_ok {length : Nat} {calls : List Nat} {before later : List (Nat × List Nat)}
    {t : Transport β} {parts : List Bytes}
    (h : (readOperations (before ++ (length, calls) :: later) t).result = .ok parts) :
    ∃ bytes, parts[before.length]? = some bytes ∧
      (readOperation length calls (readOperations before t).state).result = .ok bytes := by
  induction before generalizing t parts with
  | nil =>
    obtain ⟨bytes, rest, rfl, hbytes, -⟩ := readOperations_ok h
    exact ⟨bytes, rfl, hbytes⟩
  | cons op before ih =>
    obtain ⟨first, rest, rfl, hfirst, hrest, -⟩ := readOperations_ok h
    have hstate : (readOperations (op :: before) t).state =
        (readOperations before (readOperation op.1 op.2 t).state).state := by
      rw [readOperations_cons, Run.bind_of_result_ok _ hfirst, Run.map_apply]
      rfl
    obtain ⟨bytes, hpart, hbytes⟩ := ih hrest
    rw [hstate]
    exact ⟨bytes, hpart, hbytes⟩

/-- The books of a row of read operations. -/
structure BalancesAll (ops : List (Nat × List Nat)) (t : Transport β) (parts : List Bytes)
    (outcome : Outcome (Transport β) (List Bytes)) : Prop where
  lengths : parts.map List.length = ops.map Prod.fst
  stream : t.spare ++ receivedBytes outcome.events =
    (List.zipWith (· ++ ·) (leftOuts ops t) parts).flatten ++ outcome.state.spare
  room : RoomIs t.config.chunkSize outcome.events

/-- **The books of operations in a row join.** -/
theorem readOperations_balances {ops : List (Nat × List Nat)} {t : Transport β}
    {parts : List Bytes} (hops : ∀ op ∈ ops, op.2.sum = op.1)
    (hok : (readOperations ops t).result = .ok parts) :
    BalancesAll ops t parts (readOperations ops t) := by
  induction ops generalizing t parts with
  | nil =>
    cases hok
    exact ⟨rfl, List.append_nil _, by simp [readOperations, Run.pure_apply, RoomIs]⟩
  | cons op later ih =>
    obtain ⟨length, calls⟩ := op
    obtain ⟨hcalls, hlater⟩ := List.forall_mem_cons.1 hops
    obtain ⟨first, rest, rfl, hfirst, hrest, hboth⟩ := readOperations_ok hok
    have hone := readOperation_balances hcalls hfirst
    have hall := ih hlater hrest
    have hroom := hall.room
    rw [hone.config] at hroom
    rw [hboth]
    refine ⟨?_, ?_, roomIs_append.2 ⟨hone.room, hroom⟩⟩
    · rw [List.map_cons, List.map_cons, hone.length_bytes, hall.lengths]
    · -- The surplus that the first leaves is the one the others start with.
      rw [leftOuts, List.zipWith_cons_cons, List.flatten_cons, Outcome.events_after,
        Outcome.events_map, Outcome.state_after, Outcome.state_map, receivedBytes_append]
      calc t.spare ++ (receivedBytes (readOperation length calls t).events ++ _)
        _ = t.leftOut length ++ first ++ ((readOperation length calls t).state.spare ++ _) := by
            rw [← List.append_assoc, hone.stream, List.append_assoc]
        _ = _ := by
            rw [hall.stream]
            simp only [List.append_assoc]

/-! ### The stream -/

/-- **Read operations in a row read one stream**, however each of them is cut into calls. If the
first starts without a surplus and none fails, all that is received is what they return, in order,
but for the surpluses that were too long for the operation after them, and for the surplus that is
left in the end. The books balance for each of them: a surplus that fits is there before its operation
receives anything, one that does not is dropped before. Any command drops it as well. -/
theorem retained_stream (t : Transport β) (ops : List (Nat × List Nat)) (parts : List Bytes)
    (hsurplus : t.surplus = 0) (hops : ∀ op ∈ ops, op.2.sum = op.1)
    (hok : (readOperations ops t).result = .ok parts) :
    (parts.map List.length = ops.map Prod.fst ∧
      receivedBytes (readOperations ops t).events =
        (List.zipWith (· ++ ·) (leftOuts ops t) parts).flatten ++
          (readOperations ops t).state.spare ∧
      RoomIs t.config.chunkSize (readOperations ops t).events) ∧
    (∀ before length calls later, ops = before ++ (length, calls) :: later →
      let s := (readOperations before t).state
      Starts length s ∧ ∃ bytes, parts[before.length]? = some bytes ∧
        Balances length s bytes (readOperation length calls s)) ∧
    ∀ s : Transport β,
      (∀ length, (startWrite length s).result = .ok () →
        (startWrite length s).state.surplus = 0) ∧
      ∀ writeLength readLength, (startWriteRead writeLength readLength s).result = .ok () →
        (startWriteRead writeLength readLength s).state.surplus = 0 := by
  have hbalances := readOperations_balances hops hok
  have hstream := hbalances.stream
  rw [spare_eq_nil hsurplus, List.nil_append] at hstream
  refine ⟨⟨hbalances.lengths, hstream, hbalances.room⟩, ?_, ?_⟩
  · rintro before length calls later rfl
    obtain ⟨bytes, hpart, hbytes⟩ := readOperation_ok hok
    have hcalls : calls.sum = length :=
      hops (length, calls) (List.mem_append_right before List.mem_cons_self)
    exact ⟨starts (pos_of_readOperation hbytes) _, bytes, hpart,
      readOperation_balances hcalls hbytes⟩
  · intro s
    constructor
    · intro length hstart
      unfold startWrite at hstart ⊢
      split at hstart
      · cases hstart
      · next hpos =>
        rw [if_neg hpos]
        rfl
    · intro writeLength readLength hstart
      obtain ⟨hw, hr⟩ := startWriteRead_ok_iff.1 hstart
      rw [startWriteRead_of_pos hw hr, asked_eq]

/-- Three operations: the surplus of the first fits into the second, that of the second is too long
for the third. -/
theorem retained_stream_one_left_out :
    let ops : List (Nat × List Nat) := [(2, [1, 1]), (3, [2, 1]), (1, [1])]
    let t := fresh ⟨⟨4, 8, 1000, 2, .retain⟩, by decide⟩
      (⟨[.moved [1, 2, 3, 4], .moved [5, 6, 7], .moved [8, 9]], []⟩ : Backend.Script)
    t.surplus = 0 ∧ (∀ op ∈ ops, op.2.sum = op.1) ∧
      (readOperations ops t).result = .ok [[1, 2], [3, 4, 5], [8]] ∧
      receivedBytes (readOperations ops t).events = [1, 2] ++ [3, 4, 5] ++ ([6, 7] ++ [8]) ++ [9] := by
  intro ops t
  have hsurplus : t.surplus = 0 := rfl
  have hops : ∀ op ∈ ops, op.2.sum = op.1 := by decide
  have hok : (readOperations ops t).result = .ok [[1, 2], [3, 4, 5], [8]] := by
    simp only [ops, t]
    cbv
  obtain ⟨⟨-, hstream, -⟩, -⟩ := retained_stream t ops _ hsurplus hops hok
  have hleftOuts : leftOuts ops t = [[], [], [6, 7]] := by cbv
  have hspare : (readOperations ops t).state.spare = [9] := by
    simp only [ops, t]
    cbv
  refine ⟨hsurplus, hops, hok, ?_⟩
  rw [hstream, hleftOuts, hspare]
  rfl

end ProbeLink.Transport
