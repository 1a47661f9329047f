import ProbeLink.Registry.Wire

/-!
# ProbeLink.Proofs.RegistryCodec

**The answers of the registry read back as they were written.** An answer that a device may give
announces itself in its first eight bytes, so its header is known from the part that always comes
(`decode_first`), and the whole of it gives the answer again, whatever padding follows
(`decode_encode`).
-/

namespace ProbeLink

/-! ### Fields of a message -/

namespace Bytes

/-- A field is read from where it was put. -/
theorem slice_append {start length : Nat} {before field : Bytes} (rest : Bytes)
    (hs : before.length = start) (hl : field.length = length) :
    slice start length (before ++ (field ++ rest)) = field := by
  rw [slice, List.drop_left' hs, List.take_left' hl]

theorem word_append {start width n : Nat} {before : Bytes} (rest : Bytes)
    (hs : before.length = start) (hn : n < words width) :
    word start width (before ++ (ofNat width n ++ rest)) = n := by
  rw [word, slice_append rest hs (length_ofNat width n), toNat_ofNat_of_lt hn]

theorem toNat_lt_words (bytes : Bytes) : toNat bytes < words bytes.length := by
  induction bytes with
  | nil => exact Nat.one_pos
  | cons byte rest ih =>
    have hbyte : byte.toNat < 256 := byte.toNat_lt
    rw [toNat, List.length_cons, words]
    omega

/-- A field has no more values than its width allows, even where the message ends before it. -/
theorem word_lt_words (start width : Nat) (message : Bytes) :
    word start width message < words width := by
  have hmono : ∀ {narrow wide : Nat}, narrow ≤ wide → words narrow ≤ words wide := by
    intro narrow wide h
    induction h with
    | refl => exact Nat.le_refl _
    | step _ ih => exact Nat.le_trans ih (Nat.le_mul_of_pos_left _ (by decide))
  exact Nat.lt_of_lt_of_le (toNat_lt_words _) (hmono (List.length_take_le _ _))

end Bytes

namespace Registry

/-! ### The header -/

/-- A header on the wire. -/
def Header.encode (h : Header) : Bytes :=
  Bytes.ofNat 2 h.handle.toNat ++ Bytes.ofNat 2 h.count ++ Bytes.ofNat 2 h.entryLength ++
    Bytes.ofNat 2 h.infoLength

@[simp] theorem Header.length_encode (h : Header) : h.encode.length = headerLength := by
  simp [encode, headerLength]

/-- A header is read from the start of a message. -/
theorem Header.decode_encode {h : Header} (rest : Bytes) (hc : h.count < Bytes.words 2)
    (he : h.entryLength < Bytes.words 2) (hi : h.infoLength < Bytes.words 2) :
    decode (h.encode ++ rest) = h := by
  have hhandle : Bytes.word 0 2 (h.encode ++ rest) = h.handle.toNat := by
    simp only [encode, List.append_assoc]
    show Bytes.word 0 2 ([] ++ (Bytes.ofNat 2 h.handle.toNat ++ _)) = _
    exact Bytes.word_append _ rfl h.handle.toNat_lt
  have hcount : Bytes.word 2 2 (h.encode ++ rest) = h.count := by
    simp only [encode, List.append_assoc]
    exact Bytes.word_append _ (by simp) hc
  have hentry : Bytes.word 4 2 (h.encode ++ rest) = h.entryLength := by
    simp only [encode, List.append_assoc]
    rw [← List.append_assoc]
    exact Bytes.word_append _ (by simp) he
  have hinfo : Bytes.word 6 2 (h.encode ++ rest) = h.infoLength := by
    simp only [encode, List.append_assoc]
    rw [← List.append_assoc, ← List.append_assoc]
    exact Bytes.word_append _ (by simp) hi
  simp only [decode, hhandle, hcount, hentry, hinfo, UInt16.ofNat_toNat]

/-- A header that breaks no rule. -/
theorem Header.fault?_eq_none {h : Header} (hcount : h.count ≤ maxConnections)
    (hentry : h.entryLength = Connection.entryLength) (hlength : h.answerLength ≤ maxLength) :
    h.fault? = none := by
  rw [fault?, if_neg (Nat.not_lt_of_le hcount), if_neg (fun hne => hne hentry),
    if_neg (Nat.not_lt_of_le hlength)]

/-! ### The answer -/

namespace Answer

/-- The information text, if there is one. -/
def text (answer : Answer) : Bytes := answer.info.getD []

/-- The header that announces an answer. -/
def header (answer : Answer) : Header :=
  ⟨answer.handle, answer.connections.length, Connection.entryLength, answer.text.length⟩

/-- What a device may answer. -/
structure Valid (answer : Answer) : Prop where
  count_le : answer.connections.length ≤ maxConnections
  length_le : answer.header.answerLength ≤ maxLength
  info_ne : answer.info ≠ some []

theorem answerLength_header (answer : Answer) :
    answer.header.answerLength =
      headerLength + answer.connections.length * Connection.entryLength + answer.text.length :=
  rfl

theorem length_table (connections : List Connection) :
    (connections.flatMap Connection.encode).length =
      connections.length * Connection.entryLength := by
  induction connections with
  | nil => rfl
  | cons c later ih =>
    rw [List.flatMap_cons, List.length_append, ih, Connection.length_encode, List.length_cons,
      Nat.succ_mul, Nat.add_comm]

/-- A table is cut into the entries it was made of. -/
theorem entries_table (connections : List Connection) :
    (entries connections.length (connections.flatMap Connection.encode)).map Connection.decode =
      connections := by
  induction connections with
  | nil => rfl
  | cons c later ih =>
    have hlength : c.encode.length = Connection.entryLength := Connection.length_encode c
    rw [List.flatMap_cons, List.length_cons, entries, List.take_left' hlength,
      List.drop_left' hlength, List.map_cons, ih, Connection.decode_encode]

/-- The parts of an answer on the wire. -/
theorem encode_eq (answer : Answer) :
    answer.encode = answer.header.encode ++ (answer.connections.flatMap Connection.encode ++
      (answer.text ++
        List.replicate (firstLength - answer.header.answerLength) 0)) := by
  have hbody : answer.encode = Bytes.padTo firstLength (answer.header.encode ++
      answer.connections.flatMap Connection.encode ++ answer.text) := rfl
  have hlength : (answer.header.encode ++ answer.connections.flatMap Connection.encode ++
      answer.text).length = answer.header.answerLength := by
    rw [List.length_append, List.length_append, Header.length_encode, length_table,
      answerLength_header]
  rw [hbody, Bytes.padTo, hlength]
  simp only [List.append_assoc]

theorem length_encode (answer : Answer) :
    answer.encode.length = max firstLength answer.header.answerLength := by
  rw [encode_eq, List.length_append, List.length_append, List.length_append, Header.length_encode,
    length_table, List.length_replicate, answerLength_header]
  omega

variable {answer : Answer}

theorem fault?_header (hv : answer.Valid) : answer.header.fault? = none :=
  Header.fault?_eq_none hv.count_le rfl hv.length_le

/-- The part of an answer that always comes holds its header. -/
theorem decode_first (hv : answer.Valid) :
    Header.decode (answer.encode.take firstLength) = answer.header := by
  have hcount := hv.count_le
  have hlength := hv.length_le
  rw [answerLength_header] at hlength
  -- Whatever part of the table is cut off, the header comes before it.
  have hsplit : answer.encode.take firstLength = answer.header.encode ++
      (answer.connections.flatMap Connection.encode ++ (answer.text ++
        List.replicate (firstLength - answer.header.answerLength) 0)).take
          (firstLength - headerLength) := by
    rw [encode_eq, List.take_append, Header.length_encode,
      List.take_of_length_le (by rw [Header.length_encode]; decide)]
  rw [hsplit]
  refine Header.decode_encode _ ?_ (show Connection.entryLength < Bytes.words 2 by decide) ?_
  · exact Nat.lt_of_le_of_lt hcount (by decide)
  · exact Nat.lt_of_le_of_lt (Nat.le_trans (Nat.le_add_left _ _) hlength) (by decide)

/-- **A written answer is read back.** -/
theorem decode_encode (hv : answer.Valid) : decode answer.header answer.encode = answer := by
  have htable : Bytes.slice headerLength answer.header.tableLength answer.encode =
      answer.connections.flatMap Connection.encode := by
    rw [encode_eq]
    exact Bytes.slice_append _ (Header.length_encode _) (length_table _)
  have htext : Bytes.slice (headerLength + answer.header.tableLength) answer.header.infoLength
      answer.encode = answer.text := by
    rw [encode_eq, ← List.append_assoc]
    refine Bytes.slice_append _ ?_ rfl
    rw [List.length_append, Header.length_encode, length_table]
    rfl
  -- An information text of length zero would be read back as none, which is why there is none.
  have hinfo : (if 0 < answer.header.infoLength then some answer.text else none) = answer.info := by
    have hne := hv.info_ne
    unfold header text
    cases hinfo : answer.info with
    | none => rfl
    | some info =>
      rw [hinfo] at hne
      refine if_pos (List.length_pos_iff.2 fun h => hne ?_)
      exact congrArg some h
  rw [decode, htable, htext, hinfo]
  have hentries : (entries answer.header.count (answer.connections.flatMap Connection.encode)).map
      Connection.decode = answer.connections := entries_table answer.connections
  rw [hentries]
  rfl

end Answer

end Registry

end ProbeLink
