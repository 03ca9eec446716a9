/-
  The program: reads the trace that the command line names, replays it and prints the report.
-/
import SegmentHeap.CommandLine

namespace SegmentHeap.CommandLine

/-- How the program is called. -/
def usage : String :=
  "usage: mswasm [--log FILTER] run <trace|-> [--initial-capacity N] [--max-capacity N] "
    ++ "[--max-segment-size N] [--seed N] [--fail-fast] [--log FILTER]\n"
    ++ "       mswasm --version"

/-- The cause of a failure to read a file. -/
def readError : IO.Error → ReadError
  | .noFileOrDirectory _ number details => .refused details number.toNat
  | .inappropriateType _ number details => .refused details number.toNat
  | .permissionDenied _ number details => .refused details number.toNat
  | .invalidArgument _ number details => .refused details number.toNat
  | .resourceExhausted _ number details => .refused details number.toNat
  | .noSuchThing _ number details => .refused details number.toNat
  | .interrupted _ number details => .refused details number.toNat
  | .resourceBusy number details => .refused details number.toNat
  | .hardwareFault number details => .refused details number.toNat
  | .otherError number details => .refused details number.toNat
  | error => .refused (toString error) 0

/-- Reads a stream to its end. -/
partial def readAll (stream : IO.FS.Stream) (bytes : ByteArray) : IO ByteArray := do
  let more ← stream.read 65536
  if more.isEmpty then return bytes
  readAll stream (bytes ++ more)

/-- Reads a trace. -/
def Input.read : Input → IO (Except ReadError String)
  | standardInput => do
    let bytes ← readAll (← IO.getStdin) .empty
    return decode bytes
  | file path => do
    try
      let bytes ← IO.FS.readBinFile path
      return decode bytes
    catch error => return .error (readError error)

/-- The 32-bit numbers in a run of bytes. -/
def drawsOf : List UInt8 → List UInt32
  | a :: b :: c :: d :: rest => UInt32.ofNat (Bytes.toNat [a, b, c, d]) :: drawsOf rest
  | _ => []

/-- The key source of a run: seeded, or as many draws from the host as the trace can use up. -/
def Options.keys (options : Options) (source : Except ReadError String) : IO KeySource := do
  match options.seed, source with
  | some seed, _ => return .seeded seed
  | none, .error _ => return .fixed []
  | none, .ok text =>
    let draws := drawLimit * (Trace.lines text.toList).length
    let bytes ← IO.getRandomBytes (USize.ofNat (4 * draws))
    return .fixed (drawsOf bytes.toList)

/-- Answers a call. -/
def Call.outcome : Call → IO Outcome
  | .version => return versionOutcome
  | .run options => do
    let source ← options.input.read
    return options.run (← options.keys source) source

end SegmentHeap.CommandLine

open SegmentHeap.CommandLine in
def main (args : List String) : IO UInt32 := do
  match parse args with
  | none =>
    IO.eprintln usage
    return 2
  | some call =>
    let outcome ← call.outcome
    IO.print outcome.stdout
    IO.eprint outcome.stderr
    return UInt32.ofNat outcome.code
