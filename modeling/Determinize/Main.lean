import Determinize.Command.Run

/-!
The program: it reads its arguments and, where they call for it, its standard input, and writes
the outcome.
-/

namespace Determinize

open Command

/-- All that can still be read from a stream. -/
partial def readAll (stream : IO.FS.Stream) (soFar : ByteArray) : IO ByteArray := do
  let chunk ← stream.read 65536
  if chunk.isEmpty then return soFar
  readAll stream (soFar ++ chunk)

/-- Only a conversion reads its standard input. -/
def readInput (request : Request) : IO (List UInt8) := do
  match request with
  | .perform _ (.convert ..) => return (← readAll (← IO.getStdin) .empty).toList
  | _ => return []

/-- Writes an outcome, telling how long it took to find it. -/
def report (find : Unit → Outcome) : IO UInt32 := do
  let began ← IO.monoNanosNow
  let outcome := find ()
  let finished ← IO.monoNanosNow
  let elapsed := ((finished - began) / 1000).repr
  for notice in outcome.notices do
    IO.eprintln (notice.record elapsed).line
  IO.print outcome.output
  return outcome.exitCode.toUInt32

end Determinize

open Determinize Determinize.Command

def main (arguments : List String) : IO UInt32 := do
  match Request.ofArguments arguments with
  | .error e =>
    IO.eprintln e.message
    return 2
  | .ok request =>
    let input ← readInput request
    report fun _ => request.run input
