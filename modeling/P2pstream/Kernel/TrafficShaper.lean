import Mathlib.Data.Rat.Floor
import P2pstream.Library.Tables
import P2pstream.Library.Transitions

/-! One bucket of the traffic shaper, `public_traffic_shaper.go`, and the waiters on it. Times
are nanoseconds; the `float64` amounts are exact rationals. A waiter reads the clock before it
takes the bucket's lock, so the lock may see times out of order.
-/
namespace P2pstream.Kernel.TrafficShaper
open Library

def second : Int := 1000000000
def millisecond : Int := 1000000

structure ByteTokenBucket where
  rateBytesPerSecond : ℚ
  burstBytes : ℚ
  tokens : ℚ
  lastRefill : Int
  lastUsed : Int
  deriving DecidableEq

def newByteTokenBucket (rateBytesPerSecond burstBytes now : Int) : Option ByteTokenBucket :=
  if rateBytesPerSecond ≤ 0 then none
  else
    let burstBytes := if burstBytes ≤ 0 then rateBytesPerSecond else burstBytes
    some {
      rateBytesPerSecond
      burstBytes
      tokens := burstBytes
      lastRefill := now
      lastUsed := now }

namespace ByteTokenBucket

def refillLocked (b : ByteTokenBucket) (now : Int) : ByteTokenBucket :=
  if now < b.lastRefill then { b with lastRefill := now }
  else
    let elapsed : ℚ := (now - b.lastRefill) / second
    if elapsed ≤ 0 then b
    else { b with tokens := min (b.tokens + elapsed * b.rateBytesPerSecond) b.burstBytes, lastRefill := now }

/-- The locked section of `waitForSpend`; with too few tokens it says how long to sleep. -/
def trySpend (b : ByteTokenBucket) (now : Int) (bytes : ℚ) : ByteTokenBucket × Option Int :=
  let b := b.refillLocked now
  if bytes ≤ b.tokens then ({ b with tokens := b.tokens - bytes, lastUsed := now },none)
  else (b,some (max millisecond (Rat.ceil ((bytes - b.tokens) / b.rateBytesPerSecond * second))))

def refund (b : ByteTokenBucket) (bytes : Int) : ByteTokenBucket :=
  if bytes ≤ 0 then b else { b with tokens := min (b.tokens + bytes) b.burstBytes }

def spend (b : ByteTokenBucket) (remaining : ℚ) : ℚ :=
  if 0 < b.burstBytes ∧ b.burstBytes < remaining then b.burstBytes else remaining

end ByteTokenBucket

/-- `shapedByteReservation`. -/
structure Reservation where
  reserved : Int
  exempted : Int
  charged : Int
  deriving DecidableEq

/-- What `reserveShapedBytes` is about to charge. -/
def Reservation.of (exemptRemaining bytes : Int) : Reservation :=
  let exempted := if 0 < exemptRemaining then min bytes exemptRemaining else 0
  { reserved := bytes, exempted, charged := bytes - exempted }

/-- The bytes `reconcile` gives back. -/
def Reservation.unused (r : Reservation) (transferred : Int) : Int :=
  let transferred := min (max transferred 0) r.reserved
  r.charged - (transferred - min transferred r.exempted)

/-- A call of `wait`, with the time it captured for its next section. -/
structure Waiter where
  reservation : Reservation
  remaining : ℚ
  captured : Option Int := none
  deriving DecidableEq

structure Shaper where
  clock : Int
  bucket : ByteTokenBucket
  waiters : Table Nat Waiter
  nextWaiter : Nat

/-- A refund shows what the bucket took back of it, up to its burst. -/
inductive Event where
  | granted (waiter : Nat) (bytes : ℚ)
  | refunded (waiter : Nat) (bytes : Int) (taken : ℚ)
  deriving DecidableEq

inductive Input where
  | tick (elapsed : Nat)
  | reserve (exemptRemaining bytes : Int)
  | capture (waiter : Nat)
  | lock (waiter : Nat)
  | cancel (waiter : Nat)
  | reconcile (waiter : Nat) (transferred : Int)
  deriving DecidableEq

namespace Shaper

def initial (rateBytesPerSecond burstBytes now : Int) : Option Shaper :=
  (newByteTokenBucket rateBytesPerSecond burstBytes now).map fun bucket =>
    { clock := now, bucket, waiters := ∅, nextWaiter := 0 }

def setWaiter (s : Shaper) (waiter : Nat) (w : Waiter) : Shaper := { s with waiters := s.waiters.insert waiter w }

/-- A section of a waiter: its part is granted, or it sleeps and reads the clock again. -/
def lock (s : Shaper) (waiter : Nat) (w : Waiter) (now : Int) : Shaper × List Event :=
  let bytes := s.bucket.spend w.remaining
  match s.bucket.trySpend now bytes with
  | (bucket,some _) => ({ s with bucket }.setWaiter waiter { w with captured := none },[])
  | (bucket,none) =>
    ({ s with bucket }.setWaiter waiter { w with captured := none, remaining := w.remaining - bytes },
      [.granted waiter bytes])

def step (s : Shaper) : Input → Option (Shaper × List Event)
  | .tick elapsed => some ({ s with clock := s.clock + elapsed },[])
  | .reserve exemptRemaining bytes =>
    if 0 < bytes then
      let reservation := Reservation.of exemptRemaining bytes
      some ({ s.setWaiter s.nextWaiter { reservation, remaining := reservation.charged } with
        nextWaiter := s.nextWaiter + 1 },[])
    else some (s,[])
  | .capture waiter => do
    let w ← s.waiters.lookup waiter
    guard (0 < w.remaining)
    pure (s.setWaiter waiter { w with captured := some s.clock },[])
  | .lock waiter => do
    let w ← s.waiters.lookup waiter
    guard (0 < w.remaining)
    let now ← w.captured
    pure (s.lock waiter w now)
  | .cancel waiter => some ({ s with waiters := s.waiters.erase waiter },[])
  | .reconcile waiter transferred => do
    let w ← s.waiters.lookup waiter
    guard (w.remaining ≤ 0)
    let bytes := w.reservation.unused transferred
    pure ({ s with bucket := s.bucket.refund bytes, waiters := s.waiters.erase waiter },
      if 0 < bytes then [.refunded waiter bytes ((s.bucket.refund bytes).tokens - s.bucket.tokens)] else [])

end Shaper

end P2pstream.Kernel.TrafficShaper
