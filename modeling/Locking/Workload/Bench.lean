import Locking.Name.Qualified
import Locking.Workload.Crew

namespace Locking

/-!
Benchmarks of the lock service, and the lines in which their results are told. What the machine and
the clock decide is left open.
-/

namespace Bench

def operations : Nat := 200000

def threads : Nat := 8

def tables : Nat := 32

def options : Ledger.Options := ⟨tables, false⟩

def written : List QualifiedName.Written :=
  (List.range tables).map (fun index =>
    ⟨⟨"bench", false⟩, ⟨"public", false⟩, ⟨"t" ++ toString index, false⟩⟩)

def displayNames : List String :=
  let (names, registry) := QualifiedName.internAll .fresh written
  names.map (·.display registry)

def keys : List Key :=
  let (names, registry) := QualifiedName.internAll .fresh written
  names.map (·.key registry)

/-- The work of a benchmark: what each worker does, and what is counted. -/
structure Workload where
  name : String
  count : Nat
  counted : String
  scripts : List (List Action)

def oneByOne (keys : List Key) : Workload where
  name := "lock_release_seq"
  count := operations
  counted := "ops"
  scripts :=
    [(List.replicate (operations / tables) keys).flatMap (fun keys =>
      keys.flatMap (fun key => [.enter "seq", .lock key .rowModify, .release]))]

def sharedReading (keys : List Key) : Workload where
  name := "shared_access"
  count := operations
  counted := "ops"
  scripts :=
    List.replicate threads
      ((keys.take 1).flatMap (fun key =>
        .enter "shared" ::
          (List.replicate (operations / threads) (.lock key .access) ++ [.release])))

/-- All workers take turns at one table, which only one of them can lock. -/
def exclusiveTurns (keys : List Key) : Workload where
  name := "exclusive_contention"
  count := operations / 10
  counted := "ops"
  scripts :=
    List.replicate threads
      ((keys.take 1).flatMap (fun key =>
        (List.replicate (operations / 10 / threads) key).flatMap (fun key =>
          [.enter "exclusive", .lock key .exclusive, .release])))

/-- Chooses `count` of the items at random, in the order in which they are chosen. -/
def draw {α : Type} (source : StdGen) (items : List α) : Nat → List α × StdGen
  | 0 => ([], source)
  | count + 1 =>
      let (index, source) := randNat source 0 (items.length - 1)
      match items[index]? with
      | none => ([], source)
      | some item =>
          let (others, source) := draw source (items.eraseIdx index) count
          (item :: others, source)

def drawLevel (source : StdGen) : Level × StdGen :=
  let (levels, source) := draw source Level.all 1
  (levels.headD default, source)

def lockAll (source : StdGen) : List Key → List Action × StdGen
  | [] => ([], source)
  | key :: rest =>
      let (level, source) := drawLevel source
      let (actions, source) := lockAll source rest
      (.lock key level :: actions, source)

/-- One to four tables, locked in ascending order, which keeps waits free of cycles. -/
def transaction (keys : List Key) (source : StdGen) (worker round : Nat) :
    List Action × StdGen :=
  let (count, source) := randNat source 1 4
  let (picked, source) := draw source (List.range keys.length) count
  let (locks, source) :=
    lockAll source ((picked.mergeSort (· ≤ ·)).filterMap (fun index => keys[index]?))
  (.enter ("random-" ++ toString worker ++ "-" ++ toString round) :: (locks ++ [.release]), source)

/-- The transactions of one worker, `count` of them from `round` on, after those already `done`. -/
def transactions (keys : List Key) (worker : Nat) (done : List (List Action)) (source : StdGen)
    (round : Nat) : Nat → List Action × StdGen
  | 0 => (done.reverse.flatten, source)
  | count + 1 =>
      let (actions, source) := transaction keys source worker round
      transactions keys worker (actions :: done) source (round + 1) count

def crewTransactions (keys : List Key) (source : StdGen) (worker : Nat) :
    Nat → List (List Action)
  | 0 => []
  | count + 1 =>
      let (script, source) :=
        transactions keys worker [] source 0 (operations / threads / 4)
      script :: crewTransactions keys source (worker + 1) count

def randomTransactions (keys : List Key) (source : StdGen) : Workload where
  name := "random_tables"
  count := operations / 4
  counted := "transactions"
  scripts := crewTransactions keys source 0 threads

namespace Workload

/-- Whether all workers come to an end and leave nothing behind. -/
def succeeds (workload : Workload) : Bool :=
  (Crew.start options workload.scripts).run.hasSucceeded

def line (workload : Workload) (rate : String) : String :=
  workload.name ++ ": " ++ rate ++ " " ++ workload.counted ++ "/s"

def lines (workload : Workload) (rate : String) : List String :=
  if workload.succeeds then [workload.line rate] else []

end Workload

/-- Every worker locks a table of its own and looks what it holds. -/
def lookAround (keys : List Key) : List (List Action) :=
  (keys.take threads).map (fun key =>
    [.enter "session", .lock key .exclusive, .look key, .release])

def threadLines : List String :=
  let crew := (Crew.start options (lookAround keys)).run
  if crew.hasSucceeded then
    (crew.workers.mergeSort (fun first second => first.number ≤ second.number)).flatMap
      (fun worker =>
        (displayNames[worker.number]?.toList.zip worker.seen).map (fun (table, level) =>
          toString worker.number ++ " " ++ table ++ " " ++
            (level.map (·.word)).getD "none"))
  else []

def environmentLines (date cpu : String) : List String :=
  ["tablelock: version 0.1.0", "Date: " ++ date, "CPU: " ++ cpu]

def argumentLines : List String :=
  ["Operations: " ++ toString operations, "Threads: " ++ toString threads,
    "Tables: " ++ toString tables]

end Bench

end Locking
