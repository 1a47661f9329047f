import ProbeLink.Backend.Responder
import ProbeLink.CommandLine

/-!
# ProbeLink.Main

The program. Its argument is the selector of a device, and the device's side of the conversation
comes from standard input: one reply per line, in hexadecimal. It tells what it learns on standard
output, and the reason of a failure on standard error.
-/

namespace ProbeLink

/-- Reads bytes in hexadecimal. -/
def hexBytes? : List Char → Option Bytes
  | [] => some []
  | high :: low :: rest => do
    let high ← Text.hexDigit? high
    let low ← Text.hexDigit? low
    let rest ← hexBytes? rest
    return UInt8.ofNat (high * 16 + low) :: rest
  | [_] => none

/-- Every line that is left on standard input. -/
partial def remainingLines (input : IO.FS.Stream) : IO (List String) := do
  let line ← input.getLine
  if line.isEmpty then return []
  return line :: (← remainingLines input)

/-- A visit to a device that gives these replies. -/
def rehearsal (replies : List Bytes) : CommandLine.Environment Backend.Responder where
  surroundings := Surroundings.none
  processId := 1
  memory := Transport.addressableBytes
  connect _ := .ok (Backend.Responder.connected replies)

end ProbeLink

open ProbeLink in
/-- Runs the command line on the arguments and the replies. -/
def main (arguments : List String) : IO UInt32 := do
  let lines ← remainingLines (← IO.getStdin)
  let replies := lines.filterMap fun line => hexBytes? (Text.trim line.toList)
  let report := CommandLine.run (rehearsal replies) arguments.head?
  for line in report.told do
    IO.println line
  if let some failure := report.failure? then
    IO.eprintln ("Error: " ++ failure.message)
  return UInt32.ofNat report.exitCode
