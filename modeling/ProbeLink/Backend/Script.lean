import ProbeLink.Backend.Basic

/-!
# ProbeLink.Backend.Script

A backend that plays a **script**: what it reports of every physical transfer is written down in
advance. When the script has run out, receives time out empty-handed and sends take everything.
-/

namespace ProbeLink.Backend

/-- Outcomes of transfers still to come. -/
structure Script where
  receives : List (Attempt Bytes)
  sends : List (Attempt Nat)
  deriving Repr, DecidableEq

namespace Script

/-- Adds a receive at the end of the script. -/
def push (script : Script) (receive : Attempt Bytes) : Script :=
  { script with receives := script.receives ++ [receive] }

instance : Backend Script where
  sendOnce script data :=
    match script.sends with
    | [] => (.moved data.length, script)
    | attempt :: later => (attempt, { script with sends := later })
  receiveOnce script _ :=
    match script.receives with
    | [] => (.timedOut [], script)
    | attempt :: later => (attempt, { script with receives := later })
  releaseError? _ := none

end Script

end ProbeLink.Backend
