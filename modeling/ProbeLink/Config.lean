/-!
# ProbeLink.Config

**Tuning of a transport**: chunk and buffer size, the retry budget, and what happens to bytes that
arrive beyond the end of a read operation.

A configuration may come from a file, so any numbers can stand in it. `TransportConfig.Valid` says
which geometries a transport can work with, `TransportConfig.fault?` finds the first rule a
configuration breaks, and `ValidConfig` is what every transport holds.
-/

namespace ProbeLink

/-- What to do with bytes received beyond the declared length of a read operation. -/
inductive OverrunPolicy
  /-- Fail the read. -/
  | reject
  /-- Keep the surplus for the next read operation. -/
  | retain
  deriving Repr, DecidableEq

/-- The name of a policy in a configuration file. -/
def OverrunPolicy.name : OverrunPolicy → String
  | .reject => "reject"
  | .retain => "retain"

/-- The name of a policy in a description of a configuration. -/
def OverrunPolicy.title : OverrunPolicy → String
  | .reject => "Reject"
  | .retain => "Retain"

/-- How a transport moves data. -/
structure TransportConfig where
  /-- The unit of physical transfers, in bytes. -/
  chunkSize : Nat
  /-- The size of the scratch buffer, in bytes. -/
  bufferSize : Nat
  /-- How long one physical transfer may take, in milliseconds. -/
  timeoutMs : Nat
  /-- How many attempts in a row may move nothing. -/
  maxTimeouts : Nat
  /-- What to do with surplus bytes. -/
  overrun : OverrunPolicy
  deriving Repr, DecidableEq

/-- A rule about the geometry that a configuration breaks. -/
inductive GeometryFault
  | zeroChunk
  | bufferBelowChunk (bufferSize chunkSize : Nat)
  | bufferNotChunks (bufferSize chunkSize : Nat)
  | noAttempts
  deriving Repr, DecidableEq

/-- The wording of a geometry fault. -/
def GeometryFault.message : GeometryFault → String
  | .zeroChunk => "chunk size must not be zero"
  | .bufferBelowChunk bufferSize chunkSize =>
    s!"buffer size ({bufferSize}) must be at least one chunk ({chunkSize})"
  | .bufferNotChunks bufferSize chunkSize =>
    s!"buffer size ({bufferSize}) must be a multiple of the chunk size ({chunkSize})"
  | .noAttempts => "at least one transfer attempt is required"

namespace TransportConfig

/-- What probes expect. -/
def default : TransportConfig where
  chunkSize := 2048
  bufferSize := 2048
  timeoutMs := 1000
  maxTimeouts := 2
  overrun := .reject

/-- A geometry that a transport can work with: the scratch buffer is a positive number of whole
chunks, and there is at least one attempt. -/
structure Valid (c : TransportConfig) : Prop where
  chunkSize_pos : 0 < c.chunkSize
  chunk_le_buffer : c.chunkSize ≤ c.bufferSize
  chunk_dvd_buffer : c.chunkSize ∣ c.bufferSize
  maxTimeouts_pos : 0 < c.maxTimeouts

/-- The first rule that a configuration breaks. -/
def fault? (c : TransportConfig) : Option GeometryFault :=
  if c.chunkSize = 0 then some .zeroChunk
  else if c.bufferSize < c.chunkSize then some (.bufferBelowChunk c.bufferSize c.chunkSize)
  else if c.bufferSize % c.chunkSize ≠ 0 then some (.bufferNotChunks c.bufferSize c.chunkSize)
  else if c.maxTimeouts = 0 then some .noAttempts
  else none

/-- A configuration breaks no rule exactly if its geometry is valid. -/
theorem fault?_eq_none_iff (c : TransportConfig) : c.fault? = none ↔ c.Valid := by
  constructor
  · intro h
    simp only [fault?] at h
    split at h <;> try contradiction
    split at h <;> try contradiction
    split at h <;> try contradiction
    split at h <;> try contradiction
    next h₁ h₂ h₃ h₄ =>
    exact ⟨by omega, by omega, Nat.dvd_of_mod_eq_zero (by omega), by omega⟩
  · intro ⟨h₁, h₂, h₃, h₄⟩
    have h₃ := Nat.mod_eq_zero_of_dvd h₃
    simp only [fault?]
    rw [if_neg (by omega), if_neg (by omega), if_neg (by omega), if_neg (by omega)]

instance (c : TransportConfig) : Decidable c.Valid :=
  decidable_of_iff (c.fault? = none) c.fault?_eq_none_iff

/-- The time one physical transfer may take, as whole seconds and nanoseconds. -/
def timeout (c : TransportConfig) : Nat × Nat :=
  (c.timeoutMs / 1000, c.timeoutMs % 1000 * 1000000)

/-- A one-line description. -/
def describe (c : TransportConfig) : String :=
  s!"TransportConfig \x7b chunk_size: {c.chunkSize}, buffer_size: {c.bufferSize}, " ++
    s!"timeout_ms: {c.timeoutMs}, max_timeouts: {c.maxTimeouts}, " ++
    s!"overrun: {c.overrun.title} \x7d"

end TransportConfig

/-- A configuration with a valid geometry. -/
structure ValidConfig extends TransportConfig where
  valid : toTransportConfig.Valid
  deriving Repr, DecidableEq

namespace ValidConfig

/-- Takes a configuration whose geometry is valid; otherwise names the rule it breaks. -/
def ofConfig (c : TransportConfig) : Except GeometryFault ValidConfig :=
  match h : c.fault? with
  | none => .ok ⟨c, c.fault?_eq_none_iff.1 h⟩
  | some fault => .error fault

/-- What probes expect. -/
def default : ValidConfig where
  toTransportConfig := TransportConfig.default
  valid := by decide

/-- A valid configuration is taken as it is. -/
@[simp] theorem ofConfig_toTransportConfig (c : ValidConfig) :
    ofConfig c.toTransportConfig = .ok c := by
  have h := c.fault?_eq_none_iff.2 c.valid
  unfold ofConfig
  split
  · rfl
  · next fault hf => rw [h] at hf; cases hf

end ValidConfig

end ProbeLink
