import ProbeLink.Backend.Script
import ProbeLink.Proofs.Failures
import ProbeLink.Proofs.Isolation
import ProbeLink.Proofs.Ordering
import ProbeLink.Proofs.Reachable

/-!
# ProbeLink.Proofs.Position

**A read operation keeps its place in the stream**, whatever its calls end with. The stream of an
operation is the surplus that it took over and all that it received since, in calls that succeeded
and in calls that did not. Each call hands out the bytes at the place where the one before it stopped
(`stream_position`).

The place is the declared length without what is still expected. A call that fails half-way has
handed out some bytes and may have received others: the former are not expected any more, and the
latter are owed. So the bytes that were handed out and the owed ones make up the stream after every
call (`Stands`, `stands_perform`, `stands_after`).
-/

namespace ProbeLink

/-- The length of the read operation that a call declares. -/
def Call.readLength? : Call → Option Nat
  | .startRead length => some length
  | .startWriteRead _ length => some length
  | .startWrite _ | .write _ | .read _ => none

/-- The call is not a read that fails for bytes that are too many. -/
def Bounded {σ : Type} (_ : Call) (outcome : Outcome σ Reply) : Prop := ¬Overran outcome.result

namespace Transport

variable {β : Type}

/-- The surplus that becomes the beginning of the operation that a call declares. A command drops
it. -/
def adoptedBy (start : Call) (t : Transport β) : Bytes :=
  match start with
  | .startRead length => t.adopted length
  | _ => []

variable [Backend β] {t : Transport β}

/-- The bytes that a call hands out, whether it succeeds or not. -/
def handedBy (call : Call) (t : Transport β) : Bytes :=
  match call with
  | .read length => (t.readInto length).copied
  | _ => []

/-- The bytes that the calls of a run hand out, in order. -/
def handed : List Call → Transport β → Bytes
  | [], _ => []
  | call :: later, t => handedBy call t ++ handed later (call.perform t).state

theorem handedBy_of_start {call : Call} (t : Transport β) (h : call.isStart = true) :
    handedBy call t = [] := by
  cases call with
  | read length => cases h
  | startWrite _ | startRead _ | startWriteRead _ _ | write _ => rfl

omit [Backend β] in
/-- Where a read operation of `declared` bytes stands. What was handed out and what is owed make up
the stream, and what was not handed out is still expected. -/
structure Stands (declared : Nat) (stream handed : Bytes) (t : Transport β) : Prop where
  stream : stream = handed ++ t.owed
  left : handed.length + t.readExpected = declared

/-! ### One call -/

theorem bounded_read_iff {length : Nat} :
    Bounded (.read length) ((Call.read length).perform t) ↔ ¬Overran (read length t).result := by
  rw [Bounded, Call.perform_read, Outcome.result_map, overran_map]

/-- What a read call hands out is the next of what is owed and received. -/
theorem read_advances {length : Nat} (h : Regular t) (hnot : ¬Overran (read length t).result) :
    t.owed ++ receivedBytes (read length t).events =
        (t.readInto length).copied ++ (read length t).state.owed ∧
      (t.readInto length).copied.length + (read length t).state.readExpected = t.readExpected := by
  by_cases hw : t.writeRemaining = 0
  · by_cases hl : length ≤ t.readExpected
    · exact readInto_balances hw hl h.tidy (mt overran_read_iff.2 hnot)
    · rw [read_of_exceeded hw (Nat.lt_of_not_le hl), readInto_of_exceeded hw (Nat.lt_of_not_le hl),
        receivedBytes_eq_nil (quiet_noted _).2, List.append_nil]
      exact ⟨rfl, Nat.zero_add _⟩
  · have hpos : 0 < t.writeRemaining := Nat.pos_of_ne_zero hw
    rw [read_of_incomplete hpos length, readInto_of_incomplete hpos,
      receivedBytes_eq_nil (quiet_noted _).2, List.append_nil]
    exact ⟨rfl, Nat.zero_add _⟩

/-- **A call keeps the place of a read operation in its stream.** -/
theorem stands_perform {call : Call} {declared : Nat} {stream before : Bytes} (h : Regular t)
    (ha : Apart t) (hcontinues : Continues call (call.perform t))
    (hbounded : Bounded call (call.perform t)) (hs : Stands declared stream before t) :
    Stands declared (stream ++ receivedBytes (call.perform t).events) (before ++ handedBy call t)
        (call.perform t).state ∧ Apart (call.perform t).state := by
  -- Most calls hand out nothing, receive nothing and leave what is owed: only a read moves the place.
  have hsame : handedBy call t = [] → receivedBytes (call.perform t).events = [] →
      (call.perform t).state.owed = t.owed → (call.perform t).state.readExpected = t.readExpected →
        Stands declared (stream ++ receivedBytes (call.perform t).events)
          (before ++ handedBy call t) (call.perform t).state := by
    intro hhanded hreceived howed hexpected
    rw [hhanded, hreceived, List.append_nil, List.append_nil]
    exact ⟨hs.stream.trans (by rw [howed]), by rw [hexpected, hs.left]⟩
  obtain ⟨hstart, hstate, hevents⟩ | ⟨length, rfl⟩ | ⟨data, rfl⟩ := continues_cases hcontinues
  · refine ⟨hsame (handedBy_of_start t hstart) ?_ ?_ ?_, ?_⟩
    · rw [hevents, receivedBytes_nil]
    · rw [hstate]
    · rw [hstate]
    · rwa [hstate]
  · obtain ⟨hbytes, hexpected⟩ := read_advances h (bounded_read_iff.1 hbounded)
    rw [Call.perform_read]
    refine ⟨⟨?_, ?_⟩, apart_read h ha⟩
    · rw [hs.stream, List.append_assoc, Outcome.events_map, hbytes, ← List.append_assoc]
      rfl
    · rw [List.length_append, Nat.add_assoc]
      exact (congrArg (before.length + ·) hexpected).trans hs.left
  · -- The data is staged in the buffer that owed bytes lie in, but apart from them.
    have hleaves := write_leavesReadSide data t
    rw [Call.perform_write] at hsame ⊢
    refine ⟨hsame rfl ?_ ?_ ?_, apart_write ha⟩
    · exact receivedBytes_eq_nil hleaves.noReceive
    · exact (owed_write_iff data t).2 (spares_of_apart h ha)
    · show (write data t).state.readExpected = t.readExpected
      rw [readExpected, readExpected, hleaves.readRemaining, hleaves.readAvailable]

/-! ### Runs -/

/-- **A run keeps the place of a read operation in its stream.** -/
theorem stands_after {calls : List Call} {declared : Nat} {stream before : Bytes} (h : Regular t)
    (ha : Apart t) (hcontinues : Throughout Continues calls t)
    (hbounded : Throughout Bounded calls t) (hs : Stands declared stream before t) :
    Stands declared (stream ++ receivedBytes (t.trace calls)) (before ++ handed calls t)
      (t.after calls) := by
  induction calls generalizing t stream before with
  | nil =>
    rw [trace_nil, receivedBytes_nil, handed, List.append_nil, List.append_nil]
    exact hs
  | cons call later ih =>
    obtain ⟨hstands, hapart⟩ := stands_perform h ha hcontinues.1 hbounded.1 hs
    rw [trace_cons, receivedBytes_append, handed, ← List.append_assoc, ← List.append_assoc]
    exact ih (regular_perform call t h) hapart hcontinues.2 hbounded.2 hstands

omit [Backend β] in
/-- The place in the stream is the declared length without what is still expected. -/
theorem Stands.handed_eq {declared : Nat} {stream handed : Bytes}
    (h : Stands declared stream handed t) (more : Bytes) :
    t.readExpected ≤ declared ∧ handed = (stream ++ more).take (declared - t.readExpected) := by
  have hleft := h.left
  have hplace : declared - t.readExpected = handed.length := by omega
  rw [h.stream, hplace, List.append_assoc, List.take_left]
  exact ⟨by omega, rfl⟩

/-- A read operation starts at the beginning of its stream. -/
theorem stands_start {start : Call} {declared : Nat} (hdeclares : start.readLength? = some declared)
    (hok : (start.perform t).result.isOk = true) :
    Stands declared (adoptedBy start t) [] (start.perform t).state ∧
      Apart (start.perform t).state := by
  cases start with
  | startRead length =>
    obtain rfl : length = declared := Option.some.inj hdeclares
    rw [Call.perform_startRead, startRead] at hok ⊢
    split at hok
    · cases hok
    · next hpos =>
      rw [if_neg hpos]
      have howed : (t.begun length).owed = t.adopted length := by
        rw [owed_eq, intake_begun, List.append_nil]
      have hexpected : (t.begun length).readExpected = length := readExpected_begun length t
      refine ⟨⟨howed.symm, (Nat.zero_add _).trans hexpected⟩, ?_⟩
      intro hw
      exact absurd hw (Nat.not_lt_of_ge (Nat.le_of_eq (writeRemaining_begun length t)))
  | startWriteRead writeLength length =>
    obtain rfl : length = declared := Option.some.inj hdeclares
    rw [Call.perform_startWriteRead, startWriteRead] at hok ⊢
    split at hok
    · cases hok
    · next hpos =>
      rw [if_neg hpos]
      have howed : (t.asked writeLength length).owed = [] := owed_asked writeLength length t
      have hexpected : (t.asked writeLength length).readExpected = length :=
        readExpected_resetRead length (t.resetWrite writeLength)
      exact ⟨⟨howed.symm, (Nat.zero_add _).trans hexpected⟩, fun _ => howed⟩
  | startWrite _ => cases hdeclares
  | write _ => cases hdeclares
  | read _ => cases hdeclares

/-! ### The place of a call -/

/-- What a read call for `length` bytes does in a state in which so many bytes of the stream were
handed out. -/
structure ReadsAt (place : Nat) (stream : Bytes) (length : Nat) (t : Transport β) : Prop where
  /-- If it succeeds it returns the bytes at its place. -/
  returns : ∀ bytes, (read length t).result = .ok bytes →
    length ≤ t.readExpected ∧ bytes.length = length ∧ bytes = Bytes.slice place length stream ∧
      (read length t).state.readExpected = t.readExpected - length
  /-- If it fails, what it handed out are the bytes at its place, and only they are done with. -/
  fails : ∀ e, (read length t).result = .error e →
    (t.readInto length).copied = Bytes.slice place (t.readInto length).copied.length stream ∧
      (t.readInto length).copied.length + (read length t).state.readExpected = t.readExpected
  /-- If it is refused it does nothing. -/
  refused : ∀ e, (read length t).result = .error (.argument e) →
    (t.readInto length).copied = [] ∧ (read length t).state = t ∧ Quiet (read length t).events

/-- The bytes at a place are those that come after as many others. -/
theorem slice_of_append (first part rest : Bytes) :
    Bytes.slice first.length part.length (first ++ (part ++ rest)) = part := by
  rw [Bytes.slice, List.drop_left, List.take_left]

/-- **A read call reads on at its place in the stream.** -/
theorem readsAt_of_stands {declared length : Nat} {stream before : Bytes} (h : Regular t)
    (hnot : ¬Overran (read length t).result) (hs : Stands declared stream before t) (more : Bytes) :
    ReadsAt (declared - t.readExpected) (stream ++ (receivedBytes (read length t).events ++ more))
      length t := by
  obtain ⟨hbytes, hexpected⟩ := read_advances h hnot
  have hplace : declared - t.readExpected = before.length := by
    have := hs.left
    omega
  -- The stream goes on after this call, so what the call left of it is not yet all that comes.
  have hcopied : Bytes.slice (declared - t.readExpected) (t.readInto length).copied.length
      (stream ++ (receivedBytes (read length t).events ++ more)) = (t.readInto length).copied := by
    have hstream : stream ++ (receivedBytes (read length t).events ++ more) =
        before ++ ((t.readInto length).copied ++ ((read length t).state.owed ++ more)) := by
      rw [hs.stream, List.append_assoc, ← List.append_assoc t.owed, hbytes, List.append_assoc]
    rw [hplace, hstream, slice_of_append]
  refine ⟨?_, fun _ _ => ⟨hcopied.symm, hexpected⟩, ?_⟩
  · intro bytes hok
    obtain rfl := copied_of_ok hok
    have hlength : (t.readInto length).copied.length = length := by
      obtain ⟨-, hr⟩ | ⟨-, -, hr⟩ | ⟨-, hl, hreads⟩ := read_cases h.tidy length
      · cases (congrArg Outcome.result hr).symm.trans hok
      · cases (congrArg Outcome.result hr).symm.trans hok
      · exact ((hreads.owed hl h.tidy).1 _ hok).1
    rw [hlength] at hcopied hexpected
    exact ⟨by omega, hlength, hcopied.symm, by omega⟩
  · intro e he
    obtain ⟨hw, hr⟩ | ⟨hw, hl, hr⟩ | ⟨-, -, hreads⟩ := read_cases h.tidy length
    · rw [hr, readInto_of_incomplete hw]
      exact ⟨rfl, rfl, quiet_noted _⟩
    · rw [hr, readInto_of_exceeded hw hl]
      exact ⟨rfl, rfl, quiet_noted _⟩
    · obtain hfail | ⟨cause, hfail⟩ | ⟨expected, received, hfail⟩ := hreads.fails he <;> cases hfail

/-- **A read operation keeps its place in the stream.** Let a read operation be started after
whatever happened to the transport before, and let no call after that start another one or fail for
bytes that are too many. Its stream is the surplus that it took over and all that is received from
then on.

* What its calls hand out, one after the other and whether they succeed or not, is the beginning of
  the stream, as long as it was declared without what is still expected.
* Each read call reads on at that place. -/
theorem stream_position (config : ValidConfig) (backend : β) (history : List Operation)
    (start : Call) (declared : Nat) (calls : List Call) :
    let t := Operation.stateAfter history (fresh config backend)
    let started := (start.perform t).state
    let stream := adoptedBy start t ++ receivedBytes (started.trace calls)
    start.readLength? = some declared → (start.perform t).result.isOk = true →
      Throughout Continues calls started → Throughout Bounded calls started →
        ((started.after calls).readExpected ≤ declared ∧
          handed calls started = stream.take (declared - (started.after calls).readExpected)) ∧
        ∀ before length later, calls = before ++ .read length :: later →
          let s := started.after before
          s.readExpected ≤ declared ∧ ReadsAt (declared - s.readExpected) stream length s := by
  intro t started stream hdeclares hok hcontinues hbounded
  obtain ⟨-, declared', hbounds⟩ := inBounds_stateAfter history (inBounds_fresh config backend)
  obtain ⟨hstart, hapart⟩ := stands_start hdeclares hok
  have hregular : Regular started := regular_perform start t hbounds.regular
  refine ⟨?_, ?_⟩
  · have hend := (stands_after hregular hapart hcontinues hbounded hstart).handed_eq []
    rwa [List.nil_append, List.append_nil] at hend
  · rintro before length later rfl s
    obtain ⟨hcontinues, -⟩ := (throughout_append _ _ _).1 hcontinues
    obtain ⟨hbounded, hcall, -⟩ := (throughout_append _ _ _).1 hbounded
    have hstands : Stands declared (adoptedBy start t ++ receivedBytes (started.trace before))
        ([] ++ handed before started) s := stands_after hregular hapart hcontinues hbounded hstart
    have hnot : ¬Overran (read length s).result := bounded_read_iff.1 hcall
    have hreads := readsAt_of_stands (regular_after before hregular) hnot hstands
      (receivedBytes (((Call.read length).perform s).state.trace later))
    have hstream : stream = adoptedBy start t ++ receivedBytes (started.trace before) ++
        (receivedBytes (read length s).events ++
          receivedBytes (((Call.read length).perform s).state.trace later)) := by
      simp only [stream, trace_append, trace_cons, receivedBytes_append, List.append_assoc]
      rw [Call.perform_read]
      rfl
    refine ⟨(hstands.handed_eq []).1, ?_⟩
    rw [hstream]
    exact hreads

/-- An operation begins with two bytes that were left from the one before. Its first call hands out
three and then gives up; the second goes on with the fourth. -/
theorem stream_position_after_timeout :
    let config : ValidConfig := ⟨⟨4, 8, 1000, 2, .retain⟩, by decide⟩
    let device : Backend.Script := ⟨[.moved [9, 9, 1, 2], .timedOut [3], .timedOut [], .moved [],
      .moved [4, 5, 6]], []⟩
    let t := Operation.stateAfter [.startRead 2, .read 2] (fresh config device)
    let started := (startRead 6 t).state
    let failed := started.after [.read 4]
    let calls : List Call := [.read 4, .read 3]
    let stream := adoptedBy (.startRead 6) t ++ receivedBytes (started.trace calls)
    stream = [1, 2, 3, 4, 5, 6] ∧ handed calls started = stream ∧
      (read 4 started).result = .error (.timeout .receive) ∧
      (started.readInto 4).copied = Bytes.slice 0 3 stream ∧ failed.readExpected = 3 ∧
      (read 3 failed).result = .ok (Bytes.slice 3 3 stream) := by
  intro config device t started failed calls stream
  have hstarted : started = ⟨⟨[.timedOut [3], .timedOut [], .moved [], .moved [4, 5, 6]], []⟩,
      config, ⟨[9, 9, 1, 2]⟩, 0, 0, 4, 2, 2, 0⟩ := by
    simp only [started, t, config, device]
    cbv
  have hfirst : read 4 started = ⟨.error (.timeout .receive),
      ⟨⟨[.moved [4, 5, 6]], []⟩, config, ⟨[3, 9, 1, 2]⟩, 0, 0, 3, 0, 1, 0⟩,
      [.received 4 (.timedOut [3]), .noted (.receiveTimedOut 1), .received 4 (.timedOut []),
        .noted (.receiveTimedOut 0), .received 4 (.moved []), .noted .receiveGaveUp]⟩ := by
    rw [hstarted]
    simp only [config]
    cbv
  have hfailed : failed =
      ⟨⟨[.moved [4, 5, 6]], []⟩, config, ⟨[3, 9, 1, 2]⟩, 0, 0, 3, 0, 1, 0⟩ := by
    simp only [failed, after_cons, after_nil, Call.perform_read, Outcome.state_map]
    rw [hfirst]
  have hsecond : read 3 failed = ⟨.ok [4, 5, 6],
      ⟨⟨[], []⟩, config, ⟨[4, 5, 6, 2]⟩, 0, 0, 0, 0, 3, 0⟩, [.received 4 (.moved [4, 5, 6])]⟩ := by
    rw [hfailed]
    simp only [config]
    cbv
  have hadopted : adoptedBy (.startRead 6) t = [1, 2] := by
    simp only [t, config, device]
    cbv
  have htrace : started.trace calls = (read 4 started).events ++ (read 3 failed).events := by
    simp only [calls, failed, trace_cons, trace_nil, after_cons, after_nil, Call.perform_read,
      Outcome.state_map, Outcome.events_map, List.append_nil]
  have hstream : stream = [1, 2, 3, 4, 5, 6] := by
    simp only [stream]
    rw [hadopted, htrace, hfirst, hsecond]
    rfl
  have hend : (started.after calls).readExpected = 0 := by
    have hafter : started.after calls = (read 3 failed).state := by
      simp only [calls, failed, after_cons, after_nil, Call.perform_read, Outcome.state_map]
    rw [hafter, hsecond]
    rfl
  have hcontinues : Throughout Continues calls started :=
    ⟨continues_of_not_start rfl, continues_of_not_start rfl, trivial⟩
  have hbounded : Throughout Bounded calls started := by
    refine ⟨bounded_read_iff.2 ?_, bounded_read_iff.2 ?_, trivial⟩
    · rw [hfirst]
      rintro ⟨_, _, hover⟩
      cases hover
    · show ¬Overran (read 3 failed).result
      rw [hsecond]
      rintro ⟨_, _, hover⟩
      cases hover
  have hexpected : started.readExpected = 6 := by
    rw [hstarted]
    rfl
  have hleft : failed.readExpected = 3 := by
    rw [hfailed]
    rfl
  have hlength : (started.readInto 4).copied.length = 3 := by
    rw [hstarted]
    simp only [config]
    cbv
  obtain ⟨⟨-, hhanded⟩, hcalls⟩ := stream_position config device [.startRead 2, .read 2]
    (.startRead 6) 6 calls rfl rfl hcontinues hbounded
  have hall : handed calls started = stream.take (6 - (started.after calls).readExpected) := hhanded
  have hfour : ReadsAt (6 - started.readExpected) stream 4 started := (hcalls [] 4 [.read 3] rfl).2
  have hthree : ReadsAt (6 - failed.readExpected) stream 3 failed := (hcalls [.read 4] 3 [] rfl).2
  have hfails := congrArg Outcome.result hfirst
  have hok := congrArg Outcome.result hsecond
  rw [hend, hstream] at hall
  rw [hexpected] at hfour
  rw [hleft] at hthree
  obtain ⟨hcopied, -⟩ := hfour.fails _ hfails
  obtain ⟨-, -, hbytes, -⟩ := hthree.returns _ hok
  rw [hlength] at hcopied
  exact ⟨hstream, hall.trans hstream.symm, hfails, hcopied, hleft, hok.trans (congrArg _ hbytes)⟩

end Transport

end ProbeLink
