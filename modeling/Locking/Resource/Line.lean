import Locking.Resource.Basic
import Std.Data.ExtTreeMap

namespace Locking

/-!
The line between a queued request and its caller. It carries a signal once the request is granted,
and is cut when the waiter leaves the queue, for whatever reason.
-/

structure Line where
  /-- Signals sent and not taken yet. -/
  signals : Nat
  /-- The waiter at the other end still exists. -/
  connected : Bool
deriving DecidableEq, Repr

/-- What a caller finds on its line without waiting. -/
inductive Poll where
  | granted
  | empty
  | disconnected
deriving DecidableEq, Repr

/-- What a step did to a waiter. Both end its life, so both cut the line. -/
inductive Notice where
  | granted (ticket : Ticket)
  | dropped (ticket : Ticket)
deriving DecidableEq, Repr

def Notice.ticket : Notice → Ticket
  | .granted ticket => ticket
  | .dropped ticket => ticket

namespace Line

def fresh : Line := ⟨0, true⟩

def signal (line : Line) : Line :=
  ⟨line.signals + 1, false⟩

def cut (line : Line) : Line :=
  { line with connected := false }

def after (line : Line) : Notice → Line
  | .granted _ => line.signal
  | .dropped _ => line.cut

def isReady (line : Line) : Bool :=
  line.signals != 0 || !line.connected

/-- A signal is taken off the line when it is seen. -/
def poll (line : Line) : Poll × Line :=
  match line.signals with
  | signals + 1 => (.granted, { line with signals })
  | 0 => (if line.connected then .empty else .disconnected, line)

@[simp] theorem poll_fresh : fresh.poll = (.empty, fresh) := rfl

@[simp] theorem poll_signal_fresh : fresh.signal.poll = (.granted, fresh.cut) := rfl

@[simp] theorem poll_cut_fresh : fresh.cut.poll = (.disconnected, fresh.cut) := rfl

end Line

end Locking
