import P2pstream.Kernel.TrafficShaper

/-! `Write` of a shaped upgraded connection, `public_traffic_shaper.go`. The other users of its
bucket leave the bucket anything but another rate or burst; the connection below answers each
chunk as it likes.
-/
namespace P2pstream.Kernel.ShapedWriter
open TrafficShaper

def maxShapingChunkBytes : Int := 32 * 1024

def chunkLimit (b : ByteTokenBucket) : Int :=
  if b.burstBytes ≤ 0 then maxShapingChunkBytes else min (max b.burstBytes.ceil 1) maxShapingChunkBytes

/-- Where a call stands, with the bytes left to write and those written. -/
inductive Phase where
  | idle
  | head (left written : Int)
  | waiting (left written : Int) (reservation : Reservation) (remaining : ℚ)
  | reserved (left written : Int) (reservation : Reservation)
  deriving DecidableEq

structure Writer where
  writeBucket : Option ByteTokenBucket
  writeExemptRemaining : Int
  phase : Phase
  deriving DecidableEq

inductive Event where
  | spent (bytes : ℚ)
  | refunded (bytes : Int)
  | accepted (bytes : Int)
  | returned (written : Int)
  deriving DecidableEq

inductive Input where
  | others (tokens : ℚ) (lastRefill lastUsed : Int)
  | write (length : Nat)
  | reserve
  | lock (now : Int) (cancelled : Bool)
  | wrote (n : Int) (failed : Bool)

namespace Writer

def initial (rateBytesPerSecond burstBytes now exemptBytes : Int) : Writer :=
  { writeBucket := newByteTokenBucket rateBytesPerSecond burstBytes now
    writeExemptRemaining := max exemptBytes 0
    phase := .idle }

/-- The head of the loop of `wait`, and the end of `reserveShapedBytes` after it. -/
def wait (s : Writer) (left written : Int) (r : Reservation) (remaining : ℚ) : Writer :=
  if 0 < remaining then { s with phase := .waiting left written r remaining }
  else { s with writeExemptRemaining := s.writeExemptRemaining - r.exempted, phase := .reserved left written r }

def reconcile (s : Writer) (r : Reservation) (transferred : Int) : Writer × List Event :=
  match s.writeBucket with
  | none => (s,[])
  | some b =>
    if r.reserved ≤ 0 then (s,[])
    else
      let unused := r.unused transferred
      ({ s with
        writeBucket := b.refund unused
        writeExemptRemaining := s.writeExemptRemaining + (r.exempted - min (min (max transferred 0) r.reserved) r.exempted) },
        if 0 < unused then [.refunded unused] else [])

def step (s : Writer) : Input → Option (Writer × List Event)
  | .others tokens lastRefill lastUsed =>
    some ({ s with writeBucket := s.writeBucket.map ({ · with tokens, lastRefill, lastUsed }) },[])
  | .write length =>
    match s.phase with
    | .idle => some ({ s with phase := .head length 0 },[])
    | _ => none
  | .reserve =>
    match s.phase with
    | .head left written =>
      if left ≤ 0 then some ({ s with phase := .idle },[.returned written])
      else
        match s.writeBucket with
        | none => some ({ s with phase := .reserved left written { reserved := left, exempted := 0, charged := 0 } },[])
        | some b =>
          let r := Reservation.of s.writeExemptRemaining (min left (chunkLimit b))
          some (s.wait left written r r.charged,[])
    | _ => none
  | .lock now cancelled =>
    match s.phase,s.writeBucket with
    | .waiting left written r remaining,some b =>
      let bytes := b.spend remaining
      match b.trySpend now bytes with
      | (b,none) => some ({ s with writeBucket := b }.wait left written r (remaining - bytes),[.spent bytes])
      | (b,some _) =>
        -- the sleep ends, or the context does and with it the call
        if cancelled then some ({ s with writeBucket := b, phase := .idle },[.returned written])
        else some ({ s with writeBucket := b },[])
    | _,_ => none
  | .wrote n failed =>
    match s.phase with
    | .reserved left written r =>
      -- a count outside the chunk is an error, with nothing taken as accepted
      let transferred := if 0 ≤ n ∧ n ≤ r.reserved then n else 0
      let (s,events) := s.reconcile r transferred
      if failed || transferred = 0 then
        some ({ s with phase := .idle },.accepted transferred :: .returned (written + transferred) :: events)
      else some ({ s with phase := .head (left - transferred) (written + transferred) },.accepted transferred :: events)
    | _ => none

end Writer

end P2pstream.Kernel.ShapedWriter
