import Locking.Workload.Bench
import Locking.Workload.Handover
import Std.Time.Format

/-!
The command line: the benchmarks with their rates, or the demonstration with two sessions.
-/

namespace Locking.CommandLine

def fieldValues (listing name : String) : List String :=
  (listing.splitOn "\n").filterMap fun line =>
    match line.splitOn ":" with
    | field :: value :: more =>
        if field.trimAscii.toString == name then
          some (":".intercalate (value :: more)).trimAscii.toString
        else none
    | _ => none

def printEnvironment : IO Unit := do
  let now ← Std.Time.Timestamp.now
  let moment := Std.Time.PlainDateTime.ofWallTime (now.toWallTime .zero)
  let date := moment.format "uuuu-MM-dd'T'HH:mm:ss.SSSSSSSSS"
  let info ← IO.FS.readFile "/proc/cpuinfo" <|> pure ""
  let first (name : String) : String := (fieldValues info name).headD "unknown"
  let processors := (fieldValues info "processor").length
  let lines :=
    if processors = 0 then Bench.environmentLines date "unknown"
    else
      Bench.environmentLines date (toString processors ++ " * " ++ first "model name") ++
        ["CPU Cache: " ++ first "cache size"]
  lines.forM (fun line => IO.println line)

def measure (workload : Bench.Workload) : IO Unit := do
  let start ← IO.monoNanosNow
  if workload.succeeds then
    let elapsed := max 1 ((← IO.monoNanosNow) - start)
    let rate := (2 * workload.count * 1000000000 + elapsed) / (2 * elapsed)
    IO.println (workload.line (toString rate))
  else throw (IO.userError (workload.name ++ " did not come to its end"))

def benchmarks : IO Unit := do
  printEnvironment
  Bench.argumentLines.forM (fun line => IO.println line)
  IO.println "-------------------------------------------------"
  measure (Bench.oneByOne Bench.keys)
  measure (Bench.sharedReading Bench.keys)
  measure (Bench.exclusiveTurns Bench.keys)
  let seed ← IO.rand 0 4294967295
  measure (Bench.randomTransactions Bench.keys (mkStdGen seed))

end Locking.CommandLine

def main (arguments : List String) : IO UInt32 := do
  match arguments with
  | ["two_sessions"] => Locking.Handover.lines.forM (fun line => IO.println line)
  | _ => Locking.CommandLine.benchmarks
  return 0
