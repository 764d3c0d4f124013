import OrderDesk.Binary64.Basic
import OrderDesk.Order.Basic

/-!
# Execution policies

A policy stands in for the venue that executes orders. The fixed policy always decides the same; the
random one fills with a given probability and rejects otherwise.
-/

namespace OrderDesk

namespace Policy

def fixed (decision : Decision) : Policy :=
  fun _ => decision

end Policy

/-- A policy that fills with a fixed probability. -/
structure RandomPolicy where
  fillProbability : Binary64
  deriving DecidableEq, Repr

namespace RandomPolicy

/-- The policy of a probability, cut to `[0, 1]`; one half in place of `nan`. -/
def make (probability : Binary64) : RandomPolicy :=
  ⟨if probability = .nan then .half else probability.clamp .zero .one⟩

instance : Inhabited RandomPolicy := ⟨make .half⟩

def drawLimit : Nat := 0x10000000000000000

/-- A draw fills when it lies below this share of all draws. -/
def threshold (p : RandomPolicy) : Nat :=
  (p.fillProbability.mul (Binary64.ofNat drawLimit)).truncNat drawLimit

def decideOn (p : RandomPolicy) (draw : Nat) : Decision :=
  if draw < p.threshold then .fill else .reject

/-- The decision where the probability leaves no choice: to fill at one, to reject at zero. -/
def certain? (p : RandomPolicy) : Option Decision :=
  match p.fillProbability with
  | .finite _ 0 _ => some .reject
  | q => if q = .one then some .fill else none

end RandomPolicy

end OrderDesk
