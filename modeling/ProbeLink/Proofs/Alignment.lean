import ProbeLink.Backend.Script
import ProbeLink.Proofs.Ordering
import ProbeLink.Proofs.Reachable

/-!
# ProbeLink.Proofs.Alignment

**Only the last transfer of a write operation can be short.** A device that takes whole chunks, or
everything that it is given, gets whole chunks until the operation ends, however the operation was
cut into calls (`sends_in_chunks`).

The pieces that the data of one call goes out in are a function of the data and of what a transfer
takes (`portions`, `sendLoop_portions`). The call that completes an operation sends two blocks, and
unless there is no second one the first is a whole number of chunks. So the pieces of the two, put
together, are as good as those of one (`Aligned.append`, `blocks_append`).
-/

namespace ProbeLink

/-! ### Physical sends -/

/-- What each physical send moved, in order. -/
def sentPieces (events : List Event) : List Bytes :=
  (events.filter Event.isSend).map Event.sentBytes

/-- Every physical send took `takes n` of the `n` bytes that it was given. -/
def Takes (takes : Nat → Nat) (events : List Event) : Prop :=
  ∀ offered attempt, .sent offered attempt ∈ events →
    attempt.progress = .ok (takes offered.length)

theorem sentPieces_append (before after : List Event) :
    sentPieces (before ++ after) = sentPieces before ++ sentPieces after := by
  simp only [sentPieces, List.filter_append, List.map_append]

theorem sentPieces_eq_nil {events : List Event} (h : NoSend events) : sentPieces events = [] := by
  have hnone : events.filter Event.isSend = [] := by
    refine List.filter_eq_nil_iff.2 ?_
    intro event hmem
    rw [h event hmem]
    exact Bool.false_ne_true
  rw [sentPieces, hnone, List.map_nil]

theorem takes_append {takes : Nat → Nat} {before after : List Event} :
    Takes takes (before ++ after) ↔ Takes takes before ∧ Takes takes after := by
  constructor
  · intro h
    exact ⟨fun offered attempt hmem => h offered attempt (List.mem_append_left _ hmem),
      fun offered attempt hmem => h offered attempt (List.mem_append_right _ hmem)⟩
  · rintro ⟨hb, ha⟩ offered attempt hmem
    rcases List.mem_append.1 hmem with hmem | hmem
    · exact hb offered attempt hmem
    · exact ha offered attempt hmem

theorem takes_nil (takes : Nat → Nat) : Takes takes [] := fun _ _ hmem => nomatch hmem

theorem takes_sent {takes : Nat → Nat} {offered : Bytes} {attempt : Attempt Nat}
    {later : List Event} :
    Takes takes (.sent offered attempt :: later) ↔
      attempt.progress = .ok (takes offered.length) ∧ Takes takes later := by
  constructor
  · intro h
    exact ⟨h offered attempt List.mem_cons_self,
      fun offered' attempt' hmem => h offered' attempt' (List.mem_cons_of_mem _ hmem)⟩
  · rintro ⟨hfirst, hlater⟩ offered' attempt' hmem
    rcases List.mem_cons.1 hmem with heq | hmem
    · cases heq
      exact hfirst
    · exact hlater offered' attempt' hmem

/-! ### Pieces -/

/-- The pieces that data goes out in if a transfer takes `takes n` of the `n` bytes that are left,
and at least one. -/
def portions (takes : Nat → Nat) : Bytes → List Bytes
  | [] => []
  | byte :: rest =>
    (byte :: rest.take (takes (rest.length + 1) - 1)) ::
      portions takes (rest.drop (takes (rest.length + 1) - 1))
termination_by data => data.length
decreasing_by
  simp only [List.length_drop, List.length_cons]
  omega

/-- Data cut into consecutive blocks of `size` bytes, of which the last may be shorter. -/
def blocks (size : Nat) (data : Bytes) : List Bytes := portions (min size) data

/-- The pieces make up the content, none of them is empty, and only the last may be other than a
multiple of `size` bytes long. -/
structure Aligned (size : Nat) (content : Bytes) (pieces : List Bytes) : Prop where
  content : pieces.flatten = content
  nonempty : ∀ piece ∈ pieces, piece ≠ []
  whole : ∀ piece ∈ pieces.dropLast, size ∣ piece.length

/-- Transfers that take something, and whole multiples of `size` bytes unless they take all. -/
structure TakesWhole (size : Nat) (takes : Nat → Nat) : Prop where
  pos : ∀ n, 0 < n → 0 < takes n
  whole : ∀ n, n ≤ takes n ∨ size ∣ takes n

theorem takesWhole_min {size limit : Nat} (hpos : 0 < limit) (hdvd : size ∣ limit) :
    TakesWhole size (min limit) where
  pos := fun n hn => Nat.lt_min.2 ⟨hpos, hn⟩
  whole := fun n => by
    rcases Nat.le_total limit n with h | h
    · rw [Nat.min_eq_left h]
      exact .inr hdvd
    · exact .inl (Nat.le_of_eq (Nat.min_eq_right h).symm)

theorem takesWhole_id (size : Nat) : TakesWhole size id where
  pos := fun _ hn => hn
  whole := fun n => .inl (Nat.le_refl n)

theorem portions_nil (takes : Nat → Nat) : portions takes [] = [] := by rw [portions]

/-- All of the data at once is one piece. -/
theorem length_portions_id_le (data : Bytes) : (portions id data).length ≤ 1 := by
  cases data with
  | nil => rw [portions_nil]; exact Nat.zero_le 1
  | cons byte rest =>
    have hrest : rest.drop (id (rest.length + 1) - 1) = [] := List.drop_eq_nil_of_le (Nat.le_refl _)
    rw [portions, hrest, portions_nil]
    exact Nat.le_refl 1

/-- Pieces of whole chunks are aligned. -/
theorem portions_aligned {size : Nat} {takes : Nat → Nat} (h : TakesWhole size takes)
    (data : Bytes) : Aligned size data (portions takes data) := by
  fun_induction portions takes data with
  | case1 => exact ⟨rfl, by simp, by simp⟩
  | case2 byte rest ih =>
    refine ⟨?_, ?_, ?_⟩
    · rw [List.flatten_cons, ih.content, List.cons_append, List.take_append_drop]
    · exact List.forall_mem_cons.2 ⟨List.cons_ne_nil _ _, ih.nonempty⟩
    · -- A transfer that takes all leaves nothing to come after it.
      rcases h.whole (rest.length + 1) with hall | hdvd
      · have hrest : rest.drop (takes (rest.length + 1) - 1) = [] :=
          List.drop_eq_nil_of_le (by omega)
        rw [hrest, portions_nil]
        simp
      · intro piece hmem
        cases hlater : portions takes (rest.drop (takes (rest.length + 1) - 1)) with
        | nil => simp [hlater] at hmem
        | cons next later =>
          rw [hlater, List.dropLast_cons_cons, ← hlater] at hmem
          rcases List.mem_cons.1 hmem with rfl | hmem
          · have hpos := h.pos (rest.length + 1) (Nat.succ_pos _)
            have hsome : rest.drop (takes (rest.length + 1) - 1) ≠ [] := by
              intro hnone
              rw [hnone, portions_nil] at hlater
              cases hlater
            have hless : takes (rest.length + 1) - 1 < rest.length := by
              rw [ne_eq, List.drop_eq_nil_iff] at hsome
              omega
            rwa [List.length_cons, List.length_take, Nat.min_eq_left (Nat.le_of_lt hless),
              Nat.sub_add_cancel hpos]
          · exact ih.whole piece hmem

/-- If the content is whole, so is each of its pieces. -/
theorem Aligned.whole_of_dvd {size : Nat} {content : Bytes} {pieces : List Bytes}
    (h : Aligned size content pieces) (hdvd : size ∣ content.length) :
    ∀ piece ∈ pieces, size ∣ piece.length := by
  rcases List.eq_nil_or_concat pieces with rfl | ⟨before, last, rfl⟩
  · simp
  · have hbefore : ∀ piece ∈ before, size ∣ piece.length := by
      have hwhole := h.whole
      rwa [List.concat_eq_append, List.dropLast_concat] at hwhole
    -- The last piece is what the others leave of a whole number of chunks.
    have hsum : size ∣ before.flatten.length := by
      rw [List.length_flatten]
      exact List.dvd_sum (by simpa using hbefore)
    have hlast : size ∣ last.length := by
      rw [← h.content, List.concat_eq_append, List.flatten_append, List.length_append] at hdvd
      simpa using (Nat.dvd_add_right hsum).1 hdvd
    intro piece hmem
    rcases List.mem_append.1 (List.concat_eq_append ▸ hmem) with hmem | hmem
    · exact hbefore piece hmem
    · rwa [List.mem_singleton.1 hmem]

/-- Pieces of two blocks are aligned if there is no second one or the first is whole. -/
theorem Aligned.append {size : Nat} {head tail : Bytes} {pieces pieces' : List Bytes}
    (h : Aligned size head pieces) (h' : Aligned size tail pieces')
    (hblocks : tail = [] ∨ size ∣ head.length) : Aligned size (head ++ tail) (pieces ++ pieces') := by
  refine ⟨?_, List.forall_mem_append.2 ⟨h.nonempty, h'.nonempty⟩, ?_⟩
  · rw [List.flatten_append, h.content, h'.content]
  · by_cases hnone : pieces' = []
    · rw [hnone, List.append_nil]
      exact h.whole
    · have htail : tail ≠ [] := by
        rintro rfl
        obtain ⟨piece, hmem⟩ := List.exists_mem_of_ne_nil pieces' hnone
        exact h'.nonempty piece hmem (List.flatten_eq_nil_iff.1 h'.content piece hmem)
      rw [List.dropLast_append_of_ne_nil hnone]
      exact List.forall_mem_append.2
        ⟨h.whole_of_dvd (hblocks.resolve_left htail), h'.whole⟩

/-! ### Blocks -/

theorem blocks_nil (size : Nat) : blocks size [] = [] := portions_nil _

/-- The first block, and the blocks of the rest. -/
theorem blocks_of_ne_nil {size : Nat} {data : Bytes} (hsize : 0 < size) (hdata : data ≠ []) :
    blocks size data = data.take size :: blocks size (data.drop size) := by
  obtain ⟨k, rfl⟩ := Nat.exists_eq_succ_of_ne_zero (Nat.ne_of_gt hsize)
  cases data with
  | nil => exact absurd rfl hdata
  | cons byte rest =>
    have htake : rest.take (min k.succ (rest.length + 1) - 1) = rest.take k := by
      rw [List.take_eq_take_iff]
      omega
    have hdrop : rest.drop (min k.succ (rest.length + 1) - 1) = rest.drop k := by
      rw [List.drop_eq_drop_iff]
      omega
    rw [blocks, portions, htake, hdrop]
    rfl

/-- Blocks do not show where whole ones end. -/
theorem blocks_append {size : Nat} {head : Bytes} (tail : Bytes) (hsize : 0 < size)
    (hdvd : size ∣ head.length) :
    blocks size (head ++ tail) = blocks size head ++ blocks size tail := by
  induction hlength : head.length using Nat.strongRecOn generalizing head with
  | ind length ih =>
    by_cases hhead : head = []
    · rw [hhead, blocks_nil, List.nil_append, List.nil_append]
    · have hle : size ≤ head.length := Nat.le_of_dvd (List.length_pos_iff.2 hhead) hdvd
      have hshort : (head.drop size).length < length := by
        rw [List.length_drop]
        omega
      have hrest : size ∣ (head.drop size).length := by
        rw [List.length_drop]
        exact Nat.dvd_sub hdvd (Nat.dvd_refl size)
      have hboth : head ++ tail ≠ [] := List.append_ne_nil_of_left_ne_nil hhead tail
      rw [blocks_of_ne_nil hsize hboth, blocks_of_ne_nil hsize hhead,
        List.take_append_of_le_length hle, List.drop_append_of_le_length hle,
        ih _ hshort hrest rfl, List.cons_append]

/-- The length of the write operation that a call declares. -/
def Call.writeLength? : Call → Option Nat
  | .startWrite length => some length
  | .startWriteRead length _ => some length
  | .startRead _ | .write _ | .read _ => none

/-! ### Sending -/

namespace Backend

variable {β : Type} [Backend β]

theorem sentPieces_sendEvents (offered : Bytes) (attempt : Attempt Nat) :
    sentPieces (sendEvents offered attempt) = [(Event.sent offered attempt).sentBytes] := by
  unfold sendEvents
  split <;> rfl

/-- **A device that takes something every time gets all of the data**, in the pieces that it
takes. -/
theorem sendLoop_portions {takes : Nat → Nat} {maxTimeouts tries : Nat} {data : Bytes}
    {backend : β} (hpos : ∀ n, 0 < n → 0 < takes n) (hmax : 0 < maxTimeouts) (htries : 0 < tries)
    (htakes : Takes takes (sendLoop maxTimeouts tries data backend).events) :
    (sendLoop maxTimeouts tries data backend).result = .ok () ∧
      sentPieces (sendLoop maxTimeouts tries data backend).events = portions takes data := by
  -- Every attempt makes progress, so only the last of the cases can go on.
  fun_induction sendLoop maxTimeouts tries data backend with
  | case1 tries backend => exact ⟨rfl, (portions_nil takes).symm⟩
  | case2 byte rest backend => exact absurd htries (Nat.lt_irrefl 0)
  | case3 tries byte rest backend sent cause h =>
    have htaken := (takes_sent.1 htakes).1
    rw [h] at htaken
    cases htaken
  | case4 tries byte rest backend sent h ih =>
    have htaken := (takes_sent.1 (takes_append.1 htakes).1).1
    rw [h] at htaken
    have hzero : 0 = takes (byte :: rest).length := Except.ok.inj htaken
    exact absurd (hpos (byte :: rest).length (Nat.succ_pos _)) (by omega)
  | case5 tries byte rest backend sent n h ih =>
    obtain ⟨hattempt, hlater⟩ := takes_append.1 htakes
    have htaken := (takes_sent.1 hattempt).1
    rw [h] at htaken
    have hn : n = takes (rest.length + 1) - 1 := by
      have hsucc : n + 1 = takes (byte :: rest).length := Except.ok.inj htaken
      rw [← List.length_cons (a := byte), ← hsucc, Nat.add_sub_cancel]
    obtain ⟨hresult, hpieces⟩ := ih hmax hlater
    refine ⟨hresult, ?_⟩
    rw [Outcome.events_after, sentPieces_append, sentPieces_sendEvents, hpieces, portions, ← hn,
      Event.sentBytes_sent, h]
    rfl

end Backend

namespace Transport

variable {β : Type} [Backend β] {t : Transport β}

theorem send_portions {takes : Nat → Nat} {data : Bytes} (hpos : ∀ n, 0 < n → 0 < takes n)
    (htakes : Takes takes (send data t).events) :
    (send data t).result = .ok () ∧ sentPieces (send data t).events = portions takes data :=
  have htries : 0 < t.config.maxTimeouts := t.config.valid.maxTimeouts_pos
  have htakes' : Takes takes
    (Backend.sendLoop t.config.maxTimeouts t.config.maxTimeouts data t.backend).events := htakes
  Backend.sendLoop_portions hpos htries htries htakes'

/-- The pieces are those of two blocks that make up the content. Unless there is no second one, the
first is a multiple of `size` bytes long. -/
def InTwoBlocks (size : Nat) (takes : Nat → Nat) (content : Bytes) (pieces : List Bytes) : Prop :=
  ∃ head tail, content = head ++ tail ∧ (tail = [] ∨ size ∣ head.length) ∧
    pieces = portions takes head ++ portions takes tail

/-- **The call that completes an operation sends two blocks.** -/
theorem flush_inTwoBlocks {takes : Nat → Nat} {data : Bytes} (hpos : ∀ n, 0 < n → 0 < takes n)
    (htakes : Takes takes (flush data t).events) :
    (flush data t).result = .ok () ∧
      InTwoBlocks t.config.chunkSize takes (t.staged ++ data)
        (sentPieces (flush data t).events) := by
  rw [flush_eq] at htakes ⊢
  cases hhead : (send (t.headBlock data) (t.flushed data)).result with
  | error e =>
    -- The sends of the first block were all there were, and they say that it did not fail.
    rw [Run.bind_of_result_error _ hhead] at htakes
    have hfirst : Takes takes (send (t.headBlock data) (t.flushed data)).events := htakes
    have hok := (send_portions hpos hfirst).1
    rw [hhead] at hok
    cases hok
  | ok u =>
    rw [Run.bind_of_result_ok _ hhead] at htakes ⊢
    obtain ⟨hfirst, hsecond⟩ := takes_append.1 htakes
    obtain ⟨hresult, hpieces'⟩ := send_portions hpos hsecond
    have hpieces := (send_portions hpos hfirst).2
    refine ⟨hresult, t.headBlock data, t.tailBlock data, ?_, tailBlock_eq_nil_or_dvd data t, ?_⟩
    · exact (headBlock_append_tailBlock data t).symm
    · rw [Outcome.events_after, sentPieces_append, hpieces, hpieces']

theorem InTwoBlocks.aligned {size : Nat} {takes : Nat → Nat} {content : Bytes}
    {pieces : List Bytes} (h : InTwoBlocks size takes content pieces)
    (hwhole : TakesWhole size takes) : Aligned size content pieces := by
  obtain ⟨head, tail, rfl, hblocks, rfl⟩ := h
  exact (portions_aligned hwhole head).append (portions_aligned hwhole tail) hblocks

theorem InTwoBlocks.length_le {size : Nat} {content : Bytes} {pieces : List Bytes}
    (h : InTwoBlocks size id content pieces) : pieces.length ≤ 2 := by
  obtain ⟨head, tail, rfl, -, rfl⟩ := h
  have := length_portions_id_le head
  have := length_portions_id_le tail
  rw [List.length_append]
  omega

theorem InTwoBlocks.eq_blocks {size : Nat} {content : Bytes} {pieces : List Bytes}
    (h : InTwoBlocks size (min size) content pieces) (hsize : 0 < size) :
    pieces = blocks size content := by
  obtain ⟨head, tail, rfl, hblocks, rfl⟩ := h
  rcases hblocks with rfl | hdvd
  · rw [portions_nil, List.append_nil, List.append_nil, blocks]
  · exact (blocks_append tail hsize hdvd).symm

/-! ### Operations -/

/-- A write operation of `length` bytes: a call declares it, and the calls after that perform it to
its end. -/
structure Performs (start : Call) (length : Nat) (calls : List Call) (t : Transport β) : Prop where
  declares : start.writeLength? = some length
  accepted : (start.perform t).result.isOk = true
  continues : Throughout Continues calls (start.perform t).state
  ended : ((start.perform t).state.after calls).writeRemaining = 0

/-- A write operation starts with nothing written. -/
theorem tracks_start {start : Call} {length : Nat} (hdeclares : start.writeLength? = some length)
    (hok : (start.perform t).result.isOk = true) :
    0 < length ∧ Tracks (start.perform t).state ⟨length, []⟩ := by
  cases start with
  | startWrite declared =>
    obtain rfl : declared = length := Option.some.inj hdeclares
    rw [Call.perform_startWrite, startWrite] at hok ⊢
    split at hok
    · cases hok
    · next hpos =>
      rw [if_neg hpos]
      exact ⟨Nat.pos_of_ne_zero hpos, tracks_declared rfl rfl⟩
  | startWriteRead declared readLength =>
    obtain rfl : declared = length := Option.some.inj hdeclares
    have hstart : (startWriteRead declared readLength t).result = .ok () := by
      rw [Call.perform_startWriteRead, Outcome.result_map] at hok
      cases hresult : (startWriteRead declared readLength t).result with
      | error e =>
        rw [hresult] at hok
        cases hok
      | ok u => rfl
    rw [Call.perform_startWriteRead, Outcome.state_map]
    exact ⟨(startWriteRead_ok_iff.1 hstart).1, tracks_startWriteRead hstart⟩
  | startRead _ => cases hdeclares
  | write _ => cases hdeclares
  | read _ => cases hdeclares

/-- **The pieces of an operation are those of two blocks**, however it is cut into calls. -/
theorem trace_inTwoBlocks {takes : Nat → Nat} {during : List Call} {declared : Nat}
    {content : Bytes} (hpos : ∀ n, 0 < n → 0 < takes n) (h : Regular t)
    (ht : Tracks t ⟨declared, content⟩) (hw : 0 < t.writeRemaining)
    (hcontinues : Throughout Continues during t) (hdone : (t.after during).writeRemaining = 0)
    (htakes : Takes takes (t.trace during)) :
    (content ++ contributed during t).length = declared ∧
      InTwoBlocks t.config.chunkSize takes (content ++ contributed during t)
        (sentPieces (t.trace during)) := by
  -- What has been written grows by what each call contributes, until one completes it; after that
  -- nothing is sent.
  induction during generalizing t content with
  | nil => exact absurd hdone (Nat.ne_of_gt hw)
  | cons call later ih =>
    have hregular := regular_perform call t h
    rw [trace_cons] at htakes ⊢
    obtain ⟨hcall, hlater⟩ := takes_append.1 htakes
    rw [contributed, ← List.append_assoc, sentPieces_append]
    obtain hwaits | ⟨data, rfl, heq⟩ := waits_or_flushes ht hw hcontinues.1
    · rw [sentPieces_eq_nil hwaits.quiet.1, List.nil_append, ← config_perform call t h]
      exact ih hregular hwaits.tracks hwaits.waits hcontinues.2 hdone hlater
    · rw [Call.perform_write, write_of_eq heq] at hcall
      obtain ⟨hok, hblocks⟩ := flush_inTwoBlocks hpos hcall
      rw [← write_of_eq heq] at hok
      have hended : ((Call.write data).perform t).state.writeRemaining = 0 := by
        rw [Call.perform_write, write_of_eq heq, Outcome.state_map, (flush_sends data t).state]
        rfl
      obtain ⟨hsend, hcontributed, -⟩ := idle_trace hregular hended hcontinues.2
      have hdeclared : content.length + t.writeRemaining = declared := ht.declared
      have hstaged : t.staged = content := ht.staged
      rw [hcontributed, List.append_nil, sentPieces_eq_nil hsend, List.append_nil,
        contribution_of_ok hok, Call.perform_write, write_of_eq heq]
      refine ⟨?_, hstaged ▸ hblocks⟩
      rw [List.length_append]
      omega

/-- **Only the last transfer of a write operation can be short.** Let a write operation be performed
to its end, by whatever calls, after whatever happened to the transport before.

* If each send takes all that it is given up to some number of whole chunks, the sends make up the
  content, none is empty, and all but the last are whole chunks.
* If each send takes everything, the same holds, and there are at most two.
* If each send takes one chunk at most, the sends are the blocks of the content. These depend on the
  content alone, and not on how it was cut into calls. -/
theorem sends_in_chunks (config : ValidConfig) (backend : β) (history : List Operation)
    (start : Call) (length : Nat) (calls : List Call) :
    let t := Operation.stateAfter history (fresh config backend)
    let started := (start.perform t).state
    let content := contributed calls started
    let sends := sentPieces (started.trace calls)
    Performs start length calls t →
      (∀ limit, 0 < limit → config.chunkSize ∣ limit → Takes (min limit) (started.trace calls) →
        content.length = length ∧ Aligned config.chunkSize content sends) ∧
      (Takes id (started.trace calls) →
        content.length = length ∧ Aligned config.chunkSize content sends ∧ sends.length ≤ 2) ∧
      (Takes (min config.chunkSize) (started.trace calls) →
        content.length = length ∧ sends = blocks config.chunkSize content) := by
  intro t started content sends hperforms
  obtain ⟨hconfig, declared, hbounds⟩ := inBounds_stateAfter history (inBounds_fresh config backend)
  obtain ⟨hlength, htracks⟩ := tracks_start hperforms.declares hperforms.accepted
  have hwaits : 0 < started.writeRemaining := by
    have hdeclared : 0 + started.writeRemaining = length := htracks.declared
    omega
  have hsame : started.config = config :=
    (config_perform start t hbounds.regular).trans hconfig
  have hchunk : 0 < config.chunkSize := config.valid.chunkSize_pos
  have hpieces : ∀ takes : Nat → Nat, (∀ n, 0 < n → 0 < takes n) →
      Takes takes (started.trace calls) →
        content.length = length ∧ InTwoBlocks config.chunkSize takes content sends := by
    intro takes hpos htakes
    have hrun := trace_inTwoBlocks hpos (regular_perform start t hbounds.regular) htracks hwaits
      hperforms.continues hperforms.ended htakes
    rwa [List.nil_append, hsame] at hrun
  refine ⟨?_, ?_, ?_⟩
  · intro limit hlimit hdvd htakes
    have hwhole := takesWhole_min hlimit hdvd
    obtain ⟨hall, hblocks⟩ := hpieces (min limit) hwhole.pos htakes
    exact ⟨hall, hblocks.aligned hwhole⟩
  · intro htakes
    have hwhole := takesWhole_id config.chunkSize
    obtain ⟨hall, hblocks⟩ := hpieces id hwhole.pos htakes
    exact ⟨hall, hblocks.aligned hwhole, hblocks.length_le⟩
  · intro htakes
    have hwhole := takesWhole_min hchunk (Nat.dvd_refl config.chunkSize)
    obtain ⟨hall, hblocks⟩ := hpieces (min config.chunkSize) hwhole.pos htakes
    exact ⟨hall, hblocks.eq_blocks hchunk⟩

/-- Ten bytes in two calls, which stage five, and in three, which stage three. A device that takes a
chunk at a time gets the same three sends from both; one that takes everything gets two. -/
theorem sends_in_chunks_two_splits :
    let config : ValidConfig := ⟨⟨4, 8, 1000, 2, .reject⟩, by decide⟩
    let slow : Backend.Script := ⟨[], [.moved 4, .moved 4, .moved 2]⟩
    let quick : Backend.Script := ⟨[], []⟩
    let content : Bytes := [1, 2, 3, 4, 5, 6, 7, 8, 9, 10]
    let two : List Call := [.write [1, 2, 3, 4, 5], .write [6, 7, 8, 9, 10]]
    let three : List Call := [.write [1, 2], .write [3], .write [4, 5, 6, 7, 8, 9, 10]]
    let sends := fun (calls : List Call) (device : Backend.Script) =>
      sentPieces ((startWrite 10 (fresh config device)).state.trace calls)
    sends two slow = [[1, 2, 3, 4], [5, 6, 7, 8], [9, 10]] ∧ Aligned 4 content (sends two slow) ∧
      sends three slow = [[1, 2, 3, 4], [5, 6, 7, 8], [9, 10]] ∧
      sends two quick = [[1, 2, 3, 4, 5, 6, 7, 8], [9, 10]] ∧ (sends two quick).length ≤ 2 := by
  intro config slow quick content two three sends
  have hblocks : blocks 4 content = [[1, 2, 3, 4], [5, 6, 7, 8], [9, 10]] := by cbv
  have htwo : ∀ device : Backend.Script,
      ((startWrite 10 (fresh config device)).state.after two).writeRemaining = 0 →
      Performs (.startWrite 10) 10 two (fresh config device) := fun device hended =>
    ⟨rfl, rfl, ⟨continues_of_not_start rfl, continues_of_not_start rfl, trivial⟩, hended⟩
  have hthree : Performs (.startWrite 10) 10 three (fresh config slow) :=
    ⟨rfl, rfl, ⟨continues_of_not_start rfl, continues_of_not_start rfl,
      continues_of_not_start rfl, trivial⟩, by cbv⟩
  have htakes : Takes (min 4) ((startWrite 10 (fresh config slow)).state.trace two) := by
    have htrace : (startWrite 10 (fresh config slow)).state.trace two =
        [.sent [1, 2, 3, 4, 5, 6, 7, 8] (.moved 4), .sent [5, 6, 7, 8] (.moved 4),
          .sent [9, 10] (.moved 2)] := by cbv
    rw [htrace]
    simp only [takes_sent]
    exact ⟨rfl, rfl, rfl, takes_nil _⟩
  have htakes' : Takes (min 4) ((startWrite 10 (fresh config slow)).state.trace three) := by
    have htrace : (startWrite 10 (fresh config slow)).state.trace three =
        [.sent [1, 2, 3, 4] (.moved 4), .sent [5, 6, 7, 8, 9, 10] (.moved 4),
          .sent [9, 10] (.moved 2)] := by cbv
    rw [htrace]
    simp only [takes_sent]
    exact ⟨rfl, rfl, rfl, takes_nil _⟩
  have hquick : (startWrite 10 (fresh config quick)).state.trace two =
      [.sent [1, 2, 3, 4, 5, 6, 7, 8] (.moved 8), .sent [9, 10] (.moved 2)] := by cbv
  have hall : Takes id ((startWrite 10 (fresh config quick)).state.trace two) := by
    rw [hquick]
    simp only [takes_sent]
    exact ⟨rfl, rfl, takes_nil _⟩
  have hcontent : contributed two (startWrite 10 (fresh config slow)).state = content := by cbv
  have hcontent' : contributed three (startWrite 10 (fresh config slow)).state = content := by cbv
  obtain ⟨hwhole, -, hcut⟩ := sends_in_chunks config slow [] (.startWrite 10) 10 two
    (htwo slow (by cbv))
  obtain ⟨-, -, hcut'⟩ := sends_in_chunks config slow [] (.startWrite 10) 10 three hthree
  obtain ⟨-, hfew, -⟩ := sends_in_chunks config quick [] (.startWrite 10) 10 two
    (htwo quick (by cbv))
  have hsends : sends two slow =
      blocks 4 (contributed two (startWrite 10 (fresh config slow)).state) := (hcut htakes).2
  have hsends' : sends three slow =
      blocks 4 (contributed three (startWrite 10 (fresh config slow)).state) := (hcut' htakes').2
  have haligned : Aligned 4 (contributed two (startWrite 10 (fresh config slow)).state)
      (sends two slow) := (hwhole 4 (by decide) (Nat.dvd_refl 4) htakes).2
  refine ⟨?_, ?_, ?_, ?_, (hfew hall).2.2⟩
  · rw [hsends, hcontent, hblocks]
  · rwa [hcontent] at haligned
  · rw [hsends', hcontent', hblocks]
  · exact congrArg sentPieces hquick

end Transport

end ProbeLink
