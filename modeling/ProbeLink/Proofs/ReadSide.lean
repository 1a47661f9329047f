import ProbeLink.Proofs.Intake

/-!
# ProbeLink.Proofs.ReadSide

The **bytes of the read side**, wherever they lie: those that a call can take at once, those that
are left for the next operation, and how many the device still owes (`Transport.intake`).

Starting a read operation is a matter of these bytes alone: a surplus that fits becomes its
beginning (`intake_resetRead`). The operation starts tidy, with nothing left beyond it.
-/

namespace ProbeLink.Transport

variable {β : Type}

/-! ### The view -/

/-- The delivered bytes of the current read operation that no call has taken yet. -/
def ready (t : Transport β) : Bytes := t.scratch.read t.readPos t.readAvailable

/-- The delivered bytes beyond the current read operation. -/
def spare (t : Transport β) : Bytes := t.scratch.read (t.readPos + t.readAvailable) t.surplus

/-- All delivered bytes that no call has taken yet. -/
def owed (t : Transport β) : Bytes := t.scratch.read t.readPos (t.readAvailable + t.surplus)

/-- The read side as bytes. -/
def intake (t : Transport β) : Intake β := ⟨t.backend, t.readRemaining, t.ready, t.spare⟩

@[simp] theorem length_ready (t : Transport β) : t.ready.length = t.readAvailable := by
  simp [ready]

@[simp] theorem length_spare (t : Transport β) : t.spare.length = t.surplus := by
  simp [spare]

@[simp] theorem length_owed (t : Transport β) : t.owed.length = t.readAvailable + t.surplus := by
  simp [owed]

@[simp] theorem backend_intake (t : Transport β) : t.intake.backend = t.backend := rfl

@[simp] theorem due_intake (t : Transport β) : t.intake.due = t.readRemaining := rfl

@[simp] theorem ready_intake (t : Transport β) : t.intake.ready = t.ready := rfl

@[simp] theorem spare_intake (t : Transport β) : t.intake.spare = t.spare := rfl

theorem ready_eq_nil {t : Transport β} (h : t.readAvailable = 0) : t.ready = [] :=
  List.length_eq_zero_iff.1 (by rw [length_ready, h])

theorem spare_eq_nil {t : Transport β} (h : t.surplus = 0) : t.spare = [] :=
  List.length_eq_zero_iff.1 (by rw [length_spare, h])

theorem owed_eq (t : Transport β) : t.owed = t.intake.ready ++ t.intake.spare :=
  Scratch.read_add t.scratch t.readPos t.readAvailable t.surplus

theorem readExpected_eq (t : Transport β) :
    t.readExpected = t.intake.ready.length + t.intake.due := by
  rw [readExpected, ready_intake, length_ready, due_intake, Nat.add_comm]

theorem tidy_intake_iff (t : Transport β) :
    t.intake.Tidy ↔ (0 < t.surplus → t.readRemaining = 0) := by
  rw [Intake.Tidy, spare_intake, due_intake, ← List.length_pos_iff, length_spare]

/-- On a tidy read side nothing lies beyond an operation of which bytes are due. -/
theorem surplus_eq_zero {t : Transport β} (htidy : t.intake.Tidy) (hdue : 0 < t.readRemaining) :
    t.surplus = 0 := by
  have := (tidy_intake_iff t).1 htidy
  omega

/-- What reading leaves alone: the tuning and the write side. -/
structure SameWriteSide (t t' : Transport β) : Prop where
  config : t'.config = t.config
  writeRemaining : t'.writeRemaining = t.writeRemaining
  writeBuffered : t'.writeBuffered = t.writeBuffered

theorem SameWriteSide.refl (t : Transport β) : SameWriteSide t t := ⟨rfl, rfl, rfl⟩

theorem SameWriteSide.trans {t t' t'' : Transport β} (h : SameWriteSide t t')
    (h' : SameWriteSide t' t'') : SameWriteSide t t'' :=
  ⟨h'.config.trans h.config, h'.writeRemaining.trans h.writeRemaining,
    h'.writeBuffered.trans h.writeBuffered⟩

/-- Bytes that already lie ready are taken from the scratch buffer. -/
theorem intake_drain {t : Transport β} {length : Nat} (hl : length ≤ t.readAvailable) :
    ({ t with readAvailable := t.readAvailable - length, readPos := t.readPos + length } :
      Transport β).intake = t.intake.handOut length := by
  ext1
  · rfl
  · rfl
  · exact (Scratch.drop_read t.scratch t.readPos hl).symm
  · simp only [intake, spare, Intake.handOut]
    rw [show t.readPos + length + (t.readAvailable - length) = t.readPos + t.readAvailable by omega]

/-- A call that drains the scratch buffer before it receives starts with these bytes. -/
theorem intake_drained {t : Transport β} (hs : t.surplus = 0) :
    ({ t with readAvailable := 0, readPos := 0 } : Transport β).intake =
      t.intake.handOut t.readAvailable := by
  ext1
  · rfl
  · rfl
  · exact (ready_eq_nil rfl).trans (by simp [Intake.handOut])
  · exact (spare_eq_nil (by exact hs)).trans (spare_eq_nil hs).symm

/-! ### Starting an operation moves nothing -/

theorem quiet_noteIf (applies : Bool) (notice : Notice) : Quiet (noteIf applies notice) := by
  unfold noteIf
  split <;> simp

theorem quiet_resetWriteEvents (t : Transport β) : Quiet t.resetWriteEvents := by
  simp only [resetWriteEvents, quiet_append]
  exact ⟨⟨quiet_noteIf _ _, quiet_noteIf _ _⟩, quiet_noteIf _ _⟩

theorem quiet_resetReadEvents (length : Nat) (t : Transport β) :
    Quiet (t.resetReadEvents length) := by
  simp only [resetReadEvents, quiet_append]
  exact ⟨⟨quiet_noteIf _ _, quiet_noteIf _ _⟩, quiet_noteIf _ _⟩

theorem quiet_startWrite (length : Nat) (t : Transport β) :
    Quiet (startWrite length t).events := by
  unfold startWrite
  split
  · exact quiet_nil
  · exact quiet_resetWriteEvents t

theorem quiet_startRead (length : Nat) (t : Transport β) : Quiet (startRead length t).events := by
  unfold startRead
  split
  · exact quiet_nil
  · exact quiet_append.2 ⟨quiet_noteIf _ _, quiet_resetReadEvents length _⟩

theorem quiet_startWriteRead (writeLength readLength : Nat) (t : Transport β) :
    Quiet (startWriteRead writeLength readLength t).events := by
  unfold startWriteRead
  split
  · exact quiet_nil
  · exact quiet_append.2 ⟨quiet_resetWriteEvents t, quiet_resetReadEvents readLength _⟩

/-! ### The start of an operation -/

/-- A new command drops the surplus and leaves the rest of the read side alone. -/
theorem intake_resetWrite (length : Nat) (t : Transport β) :
    (t.resetWrite length).intake = { t.intake with spare := [] } := rfl

/-- The surplus that a read operation of `length` bytes takes over. -/
def adopted (length : Nat) (t : Transport β) : Bytes := if t.surplus ≤ length then t.spare else []

/-- The state with a read operation of `length` bytes started. -/
def begun (length : Nat) (t : Transport β) : Transport β := t.abandonWrite.resetRead length

theorem length_adopted_le (length : Nat) (t : Transport β) :
    (t.adopted length).length ≤ length := by
  unfold adopted
  split
  · next h => rwa [length_spare]
  · exact Nat.zero_le _

theorem abandonWrite_writeRemaining (t : Transport β) : t.abandonWrite.writeRemaining = 0 := by
  unfold abandonWrite
  split
  · rfl
  · omega

theorem config_abandonWrite (t : Transport β) : t.abandonWrite.config = t.config := by
  unfold abandonWrite
  split <;> rfl

theorem intake_abandonWrite (t : Transport β) : t.abandonWrite.intake = t.intake := by
  unfold abandonWrite
  split <;> rfl

theorem resetRead_sameWriteSide (length : Nat) (t : Transport β) :
    SameWriteSide t (t.resetRead length) := by
  unfold resetRead
  split <;> exact ⟨rfl, rfl, rfl⟩

/-- The bytes at the start of a read operation: a surplus that fits is its beginning, and one that
does not is gone. -/
theorem intake_resetRead (length : Nat) (t : Transport β) :
    (t.resetRead length).intake =
      ⟨t.backend, length - (t.adopted length).length, t.adopted length, []⟩ := by
  -- No surplus at all counts as one that fits; then both sides have nothing lying ready.
  by_cases h : 0 < t.surplus ∧ t.surplus ≤ length
  · have hadopted : t.adopted length = t.spare := if_pos h.2
    rw [resetRead, if_pos h, hadopted, length_spare]
    rfl
  · have hadopted : t.adopted length = [] := by
      unfold adopted
      split
      · exact spare_eq_nil (by omega)
      · rfl
    rw [resetRead, if_neg h, hadopted]
    rfl

theorem tidy_resetRead (length : Nat) (t : Transport β) : (t.resetRead length).intake.Tidy := by
  rw [intake_resetRead]
  exact fun h => absurd rfl h

theorem readExpected_resetRead (length : Nat) (t : Transport β) :
    (t.resetRead length).readExpected = length := by
  have := length_adopted_le length t
  rw [readExpected_eq, intake_resetRead]
  simp only
  omega

theorem config_begun (length : Nat) (t : Transport β) : (t.begun length).config = t.config :=
  (resetRead_sameWriteSide length t.abandonWrite).config.trans (config_abandonWrite t)

theorem intake_begun (length : Nat) (t : Transport β) :
    (t.begun length).intake =
      ⟨t.backend, length - (t.adopted length).length, t.adopted length, []⟩ := by
  have hadopted : t.abandonWrite.adopted length = t.adopted length := by
    unfold adopted abandonWrite
    split <;> rfl
  have hbackend : t.abandonWrite.backend = t.backend := congrArg Intake.backend
    (intake_abandonWrite t)
  rw [begun, intake_resetRead, hadopted, hbackend]

theorem writeRemaining_begun (length : Nat) (t : Transport β) :
    (t.begun length).writeRemaining = 0 :=
  (resetRead_sameWriteSide length t.abandonWrite).writeRemaining.trans
    (abandonWrite_writeRemaining t)

theorem readExpected_begun (length : Nat) (t : Transport β) :
    (t.begun length).readExpected = length :=
  readExpected_resetRead length t.abandonWrite

theorem tidy_begun (length : Nat) (t : Transport β) : (t.begun length).intake.Tidy :=
  tidy_resetRead length t.abandonWrite

theorem startRead_of_pos {length : Nat} (hl : 0 < length) (t : Transport β) :
    startRead length t = ⟨.ok (), t.begun length, (startRead length t).events⟩ := by
  simp only [startRead, if_neg (Nat.ne_of_gt hl)]
  rfl

/-- The state with an exchange started. -/
def asked (writeLength readLength : Nat) (t : Transport β) : Transport β :=
  (t.resetWrite writeLength).resetRead readLength

/-- The start of an exchange sets every counter and every position. -/
theorem asked_eq (writeLength readLength : Nat) (t : Transport β) :
    t.asked writeLength readLength =
      { t with
        writeRemaining := writeLength
        writeBuffered := 0
        readRemaining := readLength
        readAvailable := 0
        readPos := 0
        surplus := 0 } := by
  rw [asked, Transport.resetRead, if_neg fun h => absurd h.1 (Nat.lt_irrefl 0)]
  rfl

theorem startWriteRead_of_pos {writeLength readLength : Nat} (hw : 0 < writeLength)
    (hr : 0 < readLength) (t : Transport β) :
    startWriteRead writeLength readLength t =
      ⟨.ok (), t.asked writeLength readLength,
        (startWriteRead writeLength readLength t).events⟩ := by
  simp only [startWriteRead, if_neg (show ¬(writeLength = 0 ∨ readLength = 0) by omega)]
  rfl

theorem startWriteRead_ok_iff {writeLength readLength : Nat} {t : Transport β} :
    (startWriteRead writeLength readLength t).result = .ok () ↔
      0 < writeLength ∧ 0 < readLength := by
  by_cases h : writeLength = 0 ∨ readLength = 0
  · rw [startWriteRead, if_pos h]
    exact iff_of_false (fun hok => by cases hok) (by omega)
  · rw [startWriteRead, if_neg h]
    exact iff_of_true rfl (by omega)

/-- An exchange starts from nothing: its answer cannot have arrived before it. -/
theorem intake_asked (writeLength readLength : Nat) (t : Transport β) :
    (t.asked writeLength readLength).intake = ⟨t.backend, readLength, [], []⟩ := by
  have hnone : (t.resetWrite writeLength).adopted readLength = [] :=
    (if_pos (Nat.zero_le _)).trans (spare_eq_nil rfl)
  rw [asked, intake_resetRead, hnone]
  rfl

/-- An exchange owes nothing of what came before it. -/
theorem owed_asked (writeLength readLength : Nat) (t : Transport β) :
    (t.asked writeLength readLength).owed = [] := by
  rw [owed_eq, intake_asked]
  rfl

theorem sameWriteSide_asked (writeLength readLength : Nat) (t : Transport β) :
    SameWriteSide (t.resetWrite writeLength) (t.asked writeLength readLength) :=
  resetRead_sameWriteSide readLength (t.resetWrite writeLength)

end ProbeLink.Transport
