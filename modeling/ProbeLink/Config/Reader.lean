import ProbeLink.Config
import ProbeLink.Json.Reader

/-!
# ProbeLink.Config.Reader

**Configurations in JSON.** A configuration is an object in which every field may be missing, or an
array of the fields in their order in which the last ones may be missing; what is missing has its
default. Unknown members are ignored, but a field must not be given twice.

A number is a plain integer of at most 64 bits. An overrun policy is its name, or an object with the
name as its only member and `null` as the value of that.
-/

namespace ProbeLink

/-- The largest number a field may hold. -/
def maxWord : Nat := UInt64.size - 1

/-- Reads a number field. -/
def Json.word? : Json → Option Nat
  | .number spelling => Text.readPlain? maxWord spelling.toList
  | _ => none

namespace OverrunPolicy

/-- The policy with this name. -/
def ofName? (name : String) : Option OverrunPolicy :=
  if name = "reject" then some .reject
  else if name = "retain" then some .retain
  else none

/-- Reads a policy. -/
def ofJson? : Json → Option OverrunPolicy
  | .string (some name) => ofName? name
  | .object [(some name, .null)] => ofName? name
  | _ => none

@[simp] theorem ofName?_name (policy : OverrunPolicy) : ofName? policy.name = some policy := by
  cases policy <;> simp [ofName?, name]

end OverrunPolicy

namespace TransportConfig

/-- Reads one field: its default where it is missing, and nothing where it comes twice. -/
def field? {α : Type} (read : Json → Option α) (missing : α) : List Json → Option α
  | [] => some missing
  | [value] => read value
  | _ => none

/-- Reads the fields from lists that hold the value of each, if it is given. -/
def ofFields? (chunkSize bufferSize timeoutMs maxTimeouts overrun : List Json) :
    Option TransportConfig := do
  let chunkSize ← field? Json.word? default.chunkSize chunkSize
  let bufferSize ← field? Json.word? default.bufferSize bufferSize
  let timeoutMs ← field? Json.word? default.timeoutMs timeoutMs
  let maxTimeouts ← field? Json.word? default.maxTimeouts maxTimeouts
  let overrun ← field? OverrunPolicy.ofJson? default.overrun overrun
  return ⟨chunkSize, bufferSize, timeoutMs, maxTimeouts, overrun⟩

/-- Reads a configuration. -/
def ofJson? : Json → Option TransportConfig
  | .object members =>
    if members.all fun member => member.1.isSome then
      ofFields? (Json.named "chunk_size" members) (Json.named "buffer_size" members)
        (Json.named "timeout_ms" members) (Json.named "max_timeouts" members)
        (Json.named "overrun" members)
    else none
  | .array items =>
    if items.length ≤ 5 then
      ofFields? (items.take 1) ((items.drop 1).take 1) ((items.drop 2).take 1)
        ((items.drop 3).take 1) ((items.drop 4).take 1)
    else none
  | _ => none

/-- Reads a configuration from JSON text. -/
def ofText? (text : String) : Option TransportConfig :=
  (Json.ofText? text).bind ofJson?

end TransportConfig

end ProbeLink
