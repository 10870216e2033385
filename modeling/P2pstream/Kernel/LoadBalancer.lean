import Mathlib.Logic.Function.Basic

/-! The smooth weighted round robin of the agent and the target balancer. An identifier that the
map of counters does not hold reads as zero.
-/
namespace P2pstream.Kernel.LoadBalancer

def normalizedWeight (weight : Int) : Int :=
  if weight < 1 then 1 else if 1000 < weight then 1000 else weight

structure BackendAgentCandidate where
  agentID : Int
  position : Int
  weight : Int
deriving Inhabited, DecidableEq

structure RouteTargetCandidate where
  targetID : Int
  position : Int
  weight : Int
deriving Inhabited, DecidableEq

/-- The variables of the loop over the candidates. -/
structure Pass (α : Type) where
  smooth : Int → Int
  total : Int
  best : α
  bestSet : Bool

variable {α : Type} [Inhabited α] (id position weight : α → Int)

def consider (pass : Pass α) (candidate : α) : Pass α :=
  let weight := normalizedWeight (weight candidate)
  let current := pass.smooth (id candidate) + weight
  let smooth := Function.update pass.smooth (id candidate) current
  let better := !pass.bestSet || decide (smooth (id pass.best) < current) ||
    (current == smooth (id pass.best) && decide (position candidate < position pass.best))
  ⟨smooth,pass.total + weight,if better then candidate else pass.best,true⟩

def smoothPick (candidates : List α) (smooth : Int → Int) : α × (Int → Int) :=
  let pass := candidates.foldl (consider id position weight) ⟨smooth,0,default,false⟩
  (pass.best,fun i => (if i ∈ candidates.map id then pass.smooth i else 0) - if i = id pass.best then pass.total else 0)

def weightedRoundRobin : List BackendAgentCandidate → (Int → Int) → BackendAgentCandidate × (Int → Int) :=
  smoothPick (·.agentID) (·.position) (·.weight)

def weightedTargetRoundRobin : List RouteTargetCandidate → (Int → Int) → RouteTargetCandidate × (Int → Int) :=
  smoothPick (·.targetID) (·.position) (·.weight)

end P2pstream.Kernel.LoadBalancer
