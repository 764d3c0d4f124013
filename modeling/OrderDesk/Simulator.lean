import OrderDesk.Metrics
import OrderDesk.Order.Store
import OrderDesk.Subscription

/-!
# The status simulator

A pass moves every open order one step along its lifecycle. The simulator passes on request, and on
its own in loops that pass once every interval until the desk is shut down.
-/

namespace OrderDesk

/-- The simulator: the passes it made, and when each of its loops passes next. -/
structure Simulator where
  interval : Nanos
  ticks : Nat
  lastTickAt : Option Instant
  loops : List Nanos
  /-- One flag for all loops: every start sets it, and every loop that ends clears it. While the
  simulator is started once, it tells whether the loop is under way, unless the start broke off. -/
  isRunning : Bool
  deriving DecidableEq, Repr

/-- What a loop of the simulator did in a turn. -/
inductive SimulatorTurn where
  | rested
  | passed (transitions : List Transition)
  | ended
  deriving DecidableEq, Repr

namespace Simulator

def idle (interval : Nanos) : Simulator :=
  { interval, ticks := 0, lastTickAt := none, loops := [], isRunning := false }

/-- Whether a loop can begin: there is an interval, and the clock reaches the first pass. -/
def CanStart (s : Simulator) (now : Nanos) : Prop :=
  s.interval ≠ 0 ∧ OnClock (now + s.interval)

instance (s : Simulator) (now : Nanos) : Decidable (s.CanStart now) :=
  inferInstanceAs (Decidable (_ ∧ _))

/-- Begins a loop; its first pass comes an interval later. A start that breaks off leaves no loop,
but the flag is set by then. -/
def startLoop (s : Simulator) (now : Nanos) : Simulator :=
  let loops := if s.CanStart now then s.loops ++ [now + s.interval] else s.loops
  { s with loops, isRunning := true }

theorem loops_startLoop {s : Simulator} {now : Nanos} (h : s.CanStart now) :
    (s.startLoop now).loops = s.loops ++ [now + s.interval] :=
  if_pos h

theorem loops_startLoop_of_not {s : Simulator} {now : Nanos} (h : ¬ s.CanStart now) :
    (s.startLoop now).loops = s.loops :=
  if_neg h

/-- Whether the flag says that the simulator runs and no loop is left to clear it. -/
def IsStuck (s : Simulator) : Prop :=
  s.isRunning = true ∧ s.loops = []

instance (s : Simulator) : Decidable s.IsStuck :=
  inferInstanceAs (Decidable (_ ∧ _))

def pass (s : Simulator) (store : OrderStore) (policy : Policy) (wall : Instant) :
    Simulator × OrderStore × List Transition :=
  let (store, transitions) := store.advanceOpen policy wall
  ({ s with ticks := s.ticks + 1, lastTickAt := some wall }, store, transitions)

/-- What a pass leaves to be recorded. -/
def recordings (transitions : List Transition) : List Recording :=
  transitions.map fun t => .count (.statusTransitions t.after)

def setLoop (s : Simulator) (i : Nat) (due : Nanos) : Simulator :=
  { s with loops := s.loops.set i due }

def endLoop (s : Simulator) (i : Nat) : Simulator :=
  { s with loops := s.loops.eraseIdx i, isRunning := false }

end Simulator

end OrderDesk
