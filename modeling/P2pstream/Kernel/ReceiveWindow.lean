import Mathlib.Algebra.Order.Floor.Semiring
import Mathlib.Data.Rat.Floor

/-! `observe` of `receive_window_growth.go` and its caller in `growing_conn.go`. Times are in
nanoseconds; the rates are rationals, measured and smoothed in any way.
-/
namespace P2pstream.Kernel.ReceiveWindow

def second : Int := 1000000000

def receiveWindowHeadroom : ℚ := 8

def receiveWindowSchedulingAllowance : Int := 2000000

structure Rates where
  measured (consumed : Nat) (elapsed : Int) : ℚ
  smoothed (old rate : ℚ) : ℚ

def exactRates : Rates where
  measured consumed elapsed := consumed / (elapsed / second)
  smoothed old rate := old + (rate - old) / 4

structure ReceiveWindowGrowth where
  start : Option Int := none
  bytes : Nat := 0
  rate : ℚ := 0
  previous : Nat := 0
  deniedUntil : Option Int := none
  deriving DecidableEq

/-- How an observation left its epoch; only the last two report that it ended. -/
inductive Epoch where
  | continued
  | restarted
  | discarded
  | completed (desired : Nat)
  deriving DecidableEq

def wholeChunks (window : Nat) : Nat := (window + 65535) / 65536 * 65536

def observe (rates : Rates) (g : ReceiveWindowGrowth) (now : Int) (n current maximum : Nat) (rtt : Int) :
    ReceiveWindowGrowth × Nat × Epoch :=
  let restarts := g.start.all (now < ·)
  let g := if restarts then { g with start := some now, bytes := 0, previous := 0, rate := 0 } else g
  let elapsed := now - g.start.getD now
  if elapsed > max second (8 * rtt) then
    ({ g with start := some now, bytes := 0, previous := 0, rate := 0 },current,.discarded)
  else
    let g := { g with bytes := (g.bytes + min n maximum) % 2 ^ 64 }
    if elapsed < max 10000000 rtt then (g,current,if restarts then .restarted else .continued)
    else
      let consumed := g.bytes
      let g := { g with start := some now, bytes := 0 }
      if rtt ≤ 0 ∨ g.deniedUntil.any (now < ·) then ({ g with previous := 0, rate := 0 },current,.discarded)
      else
        let rate := rates.measured consumed elapsed
        let smooth := if g.rate = 0 then rate else rates.smoothed g.rate rate
        let horizon := max rtt receiveWindowSchedulingAllowance
        let target := min (maximum : ℚ) (receiveWindowHeadroom * min rate smooth * (horizon / second))
        let desired := ⌊target⌋₊
        let prior := g.previous
        let g := { g with rate := smooth, previous := desired }
        let threshold := current * 5 / 4
        if desired ≤ threshold ∨ prior ≤ threshold then (g,current,.completed desired)
        else
          let next := min (min desired prior) (min (current * 2) maximum)
          (g,min (wholeChunks next) maximum,.completed desired)

structure GrowingConn where
  maximum : Nat
  growth : ReceiveWindowGrowth

/-- A useful read with what the stream and the owner of the credit answer. -/
structure Read where
  now : Int
  n : Nat
  rtt : Int
  current : Nat
  receiveClosed : Bool
  legacy : Bool
  closing : Bool
  granted : Bool

structure Observation where
  current : Nat
  proposal : Nat
  epoch : Epoch
  deriving DecidableEq

def GrowingConn.new (maximum : Nat) (now : Int) : GrowingConn := ⟨maximum,{ start := some now }⟩

def GrowingConn.growMeasured (rates : Rates) (c : GrowingConn) (r : Read) : Option (GrowingConn × List Observation) :=
  if r.receiveClosed ∨ r.legacy ∨ r.closing ∨ c.maximum ≤ r.current then some (c,[])
  else
    let (growth,next,epoch) := observe rates c.growth r.now r.n r.current c.maximum r.rtt
    let denied := r.current < next ∧ ¬ r.granted
    let growth := if denied then { growth with deniedUntil := some (r.now + second) } else growth
    some ({ c with growth },[⟨r.current,next,epoch⟩])

end P2pstream.Kernel.ReceiveWindow
