import Mathlib.Algebra.Order.Ring.Rat

/-! Executable model of the adaptive admission controller in
`internal/sysmetrics/memory_pressure.go`. Operating-system samples, the clock
and the rounded float percentages are inputs; counters are exact integers with
the source's explicit saturation at `MaxInt64`.
-/
namespace P2pstream.Kernel.AdaptiveMemory

/-- `math.MaxInt64`, and `math.MaxInt` on the 64-bit targets. -/
def maxInt64 : Int := 9223372036854775807

inductive Level where
  | unknown | healthy | soft | critical
  deriving DecidableEq

/-- One enforceable memory constraint; `limitBytes` is an `int64`. -/
structure MemoryUsage where
  usedBytes : Int
  limitBytes : Int
  limit_le : limitBytes ≤ maxInt64
  deriving DecidableEq

instance : Inhabited MemoryUsage := ⟨0,0,by decide⟩

def MemoryUsage.valid (usage : MemoryUsage) : Bool := 0 ≤ usage.usedBytes && 0 < usage.limitBytes

structure FileDescriptorUsage where
  used : Int
  limit : Int
  limit_le : limit ≤ maxInt64
  deriving DecidableEq

instance : Inhabited FileDescriptorUsage := ⟨0,0,by decide⟩

def FileDescriptorUsage.valid (usage : FileDescriptorUsage) : Bool := 0 ≤ usage.used && 0 < usage.limit

/-- `AdaptiveAdmissionRole`; `unspecified` is the empty string of a zero snapshot. -/
inductive Role where
  | unspecified | agentStream | serverStream
  deriving DecidableEq

structure Config where
  softLimitPercent : Int
  hardLimitPercent : Int
  recoveryPercent : Int
  sampleInterval : Int
  estimatedBytesPerAdmission : Int
  admissionRole : Role
  fileDescriptorsPerAdmission : Int
  maxSampleStaleness : Int
  deriving DecidableEq

/-- `AdaptiveServerStreamOverheadBytes`. -/
def minimumServerStreamAdmissionBytes : Int := 256 * 1024

def minimumAgentStreamAdmissionBytes : Int := minimumServerStreamAdmissionBytes + 4 * (16 * 1024)

inductive ConfigError where
  | recoveryPercent | softLimitPercent | hardLimitPercent | sampleInterval | admissionRole
  | negativeDescriptors | agentDescriptors | serverDescriptors | agentBytes | serverBytes
  | maxSampleStaleness
  deriving DecidableEq

def Config.validate (c : Config) : Option ConfigError :=
  if c.recoveryPercent < 1 ∨ c.recoveryPercent ≥ c.softLimitPercent then some .recoveryPercent
  else if c.softLimitPercent < 1 ∨ c.softLimitPercent ≥ c.hardLimitPercent then some .softLimitPercent
  else if c.hardLimitPercent > 99 then some .hardLimitPercent
  else if c.sampleInterval ≤ 0 then some .sampleInterval
  else if c.admissionRole ≠ .agentStream ∧ c.admissionRole ≠ .serverStream then some .admissionRole
  else if c.fileDescriptorsPerAdmission < 0 then some .negativeDescriptors
  else if c.admissionRole = .agentStream ∧ c.fileDescriptorsPerAdmission < 2 then some .agentDescriptors
  else if c.admissionRole = .serverStream ∧ c.fileDescriptorsPerAdmission ≠ 0 then some .serverDescriptors
  else if c.admissionRole = .agentStream ∧
      c.estimatedBytesPerAdmission < minimumAgentStreamAdmissionBytes then some .agentBytes
  else if c.admissionRole = .serverStream ∧
      c.estimatedBytesPerAdmission < minimumServerStreamAdmissionBytes then some .serverBytes
  else if c.maxSampleStaleness ≤ 0 then some .maxSampleStaleness
  else none

inductive PressureReason where
  | none | memory | fileDescriptors | sensor
  deriving DecidableEq

/-- `AdaptiveMemorySnapshot`. The zero time is `none`. -/
structure Snapshot where
  generation : Nat := 0
  usage : MemoryUsage := default
  level : Level := .unknown
  admissionLimit : Int := 0
  memoryAdmissionLimit : Int := 0
  fdAdmissionLimit : Int := 0
  maximum : Int := 0
  rejectNew : Bool := false
  sampledAt : Option Int := none
  nextSampleAt : Option Int := none
  sampleError : Option String := none
  headroomToHardByte : Int := 0
  reservedStreamByte : Int := 0
  streamChargeByte : Int := 0
  streamChargeFD : Int := 0
  admissionRole : Role := .unspecified
  fdUsed : Int := 0
  fdLimit : Int := 0
  fdHeadroomToHard : Int := 0
  reservedStreamFD : Int := 0
  pressureReason : PressureReason := .none
  lastGoodSampleAt : Option Int := none
  deriving DecidableEq

def slotsFor (amount charge : Int) : Int :=
  amount / charge + if amount % charge ≠ 0 then 1 else 0

/-- The slots left in one resource dimension, or `none` when external owners overdraw it. -/
def withoutExternal (limit amount charge : Int) : Option Int :=
  if slotsFor amount charge > limit then none else some (limit - slotsFor amount charge)

def Snapshot.memoryLimit (s : Snapshot) : Int :=
  if s.memoryAdmissionLimit = 0 ∧ s.fdAdmissionLimit = 0 then s.admissionLimit else s.memoryAdmissionLimit

def Snapshot.descriptorLimit (s : Snapshot) : Int :=
  if s.memoryAdmissionLimit = 0 ∧ s.fdAdmissionLimit = 0 then s.admissionLimit else s.fdAdmissionLimit

def Snapshot.memoryLeft (s : Snapshot) (bytes : Int) : Option Int :=
  if s.streamChargeByte > 0 ∧ bytes > 0 then withoutExternal s.memoryLimit bytes s.streamChargeByte
  else some s.memoryLimit

def Snapshot.descriptorCharge (s : Snapshot) : Int :=
  if s.admissionRole = .unspecified ∧ s.streamChargeFD = 0 then 2 else s.streamChargeFD

/-- Logical server streams own no descriptors: external owners are then held
against the measured headroom directly. -/
def Snapshot.descriptorsLeft (s : Snapshot) (fds : Int) : Option Int :=
  if fds > 0 then
    if s.descriptorCharge = 0 then
      if s.fdLimit > 0 ∧ fds > s.fdHeadroomToHard then none else some s.descriptorLimit
    else withoutExternal s.descriptorLimit fds s.descriptorCharge
  else some s.descriptorLimit

/-- `AdmissionLimitWithExternal`. A negative result means the external owners
alone overdraw the envelope. -/
def Snapshot.admissionLimitWithExternal (s : Snapshot) (bytes fds : Int) : Int :=
  match s.memoryLeft bytes,s.descriptorsLeft fds with
  | some memory,some descriptors =>
    let limit := min memory descriptors
    max 0 (if s.maximum > 0 then min limit s.maximum else limit)
  | _,_ => -1

/-- `AdaptiveMemoryController`. `NewAdaptiveMemoryController` refuses a
configuration that does not validate; `fdSampler` says whether the sampler also
measures descriptors. -/
structure Controller where
  config : Config
  accepted : config.validate = none
  fdSampler : Bool
  level : Level := .unknown
  snapshot : Snapshot := {}
  nextSampleAt : Option Int := none
  generation : Nat := 0
  lastGood : Snapshot := {}

/-- What one sampling call reads: the clock, the operating system's answers and
the rounded `float64` percentage of each used/limit pair. -/
structure Sample where
  now : Int
  usages : Except String (List MemoryUsage)
  descriptors : Except String FileDescriptorUsage
  percent : Int → Int → ℚ

def MemoryUsage.percent (input : Sample) (usage : MemoryUsage) : ℚ :=
  if usage.valid then input.percent usage.usedBytes usage.limitBytes else 0

def FileDescriptorUsage.percent (input : Sample) (usage : FileDescriptorUsage) : ℚ :=
  if usage.valid then input.percent usage.used usage.limit else 0

def percentageOf (value percent : Int) : Int := (value / 100) * percent + (value % 100) * percent / 100

def saturatingMultiply (left right : Int) : Int :=
  if left ≤ 0 ∨ right ≤ 0 then 0 else if left > maxInt64 / right then maxInt64 else left * right

/-- `time.Time.Before` against a time that may be zero. -/
def before (now : Int) (moment : Option Int) : Bool :=
  match moment with
  | none => false
  | some t => now < t

def Controller.descriptorReading (c : Controller) (input : Sample) : Except String FileDescriptorUsage :=
  if c.fdSampler then
    match input.descriptors with
    | .error error => .error error
    | .ok measured => if measured.valid then .ok measured else .error "file descriptor usage is unavailable"
  else .ok default

def Controller.readings (c : Controller) (input : Sample) :
    Except String (MemoryUsage × List MemoryUsage × FileDescriptorUsage) :=
  match input.usages,c.descriptorReading input with
  | .error error,_ => .error error
  | .ok _,.error error => .error error
  | .ok usages,.ok descriptors =>
    if usages.any (fun usage => !usage.valid) then .error "memory usage constraint is invalid"
    else match usages with
      | [] => .error "memory usage is unavailable"
      | first :: rest => .ok (first,rest,descriptors)

/-- The highest percentage selects the reported usage; the smallest absolute
headroom over all constraints is kept. -/
def tightest (input : Sample) (hardPercent : Int) (first : MemoryUsage) (rest : List MemoryUsage) :
    MemoryUsage × ℚ × Int :=
  (first :: rest).foldl (fun (selected,highest,headroom) usage =>
    let worse := usage.percent input > highest
    (if worse then usage else selected,if worse then usage.percent input else highest,
      min headroom (max 0 (percentageOf usage.limitBytes hardPercent - usage.usedBytes))))
    (first,first.percent input,maxInt64)

/-- Hysteresis keeps a previously pressed controller soft until recovery. -/
def nextLevel (c : Config) (level : Level) (pressurePercent : ℚ) : Level :=
  if pressurePercent ≥ c.hardLimitPercent then .critical
  else if pressurePercent ≥ c.softLimitPercent then .soft
  else if level ≠ .unknown ∧ level ≠ .healthy ∧ pressurePercent ≥ c.recoveryPercent then .soft
  else .healthy

/-- Admissions beyond `inUse` that the unreserved headroom still covers. -/
def additionalAdmissions (headroom inUse charge : Int) : Int :=
  max 0 (headroom - saturatingMultiply inUse charge) / charge

def Controller.header (c : Controller) (now maximum : Int) : Snapshot where
  generation := c.generation + 1
  maximum := maximum
  sampledAt := some now
  nextSampleAt := some (now + c.config.sampleInterval)
  streamChargeByte := c.config.estimatedBytesPerAdmission
  streamChargeFD := c.config.fileDescriptorsPerAdmission
  admissionRole := c.config.admissionRole

/-- Whether the last complete sample is recent enough to be shown again. -/
def Controller.lastGoodUsable (c : Controller) (now maximum : Int) : Bool :=
  match c.lastGood.sampledAt with
  | none => false
  | some sampled => c.lastGood.maximum = maximum && now - sampled ≤ c.config.maxSampleStaleness

/-- A failed sample keeps existing work and fails closed for new streams; the
last good values are only retained for diagnosis. -/
def Controller.failedSnapshot (c : Controller) (now maximum inUse : Int) (error : String) : Snapshot :=
  { (if c.lastGoodUsable now maximum then c.lastGood else c.header now maximum) with
    generation := c.generation + 1
    sampledAt := some now
    nextSampleAt := some (now + c.config.sampleInterval)
    sampleError := some error
    level := .unknown
    pressureReason := .sensor
    admissionLimit := inUse
    rejectNew := true
    memoryAdmissionLimit := inUse
    fdAdmissionLimit := inUse }

def Controller.freshSnapshot (c : Controller) (input : Sample) (maximum inUse : Int)
    (first : MemoryUsage) (rest : List MemoryUsage) (fd : FileDescriptorUsage) : Snapshot :=
  let (selected,memoryPercent,headroom) := tightest input c.config.hardLimitPercent first rest
  let fdHeadroom := max 0 (percentageOf fd.limit c.config.hardLimitPercent - fd.used)
  let fdWorse := fd.valid ∧ fd.percent input > memoryPercent
  let memoryAdditional := additionalAdmissions headroom inUse c.config.estimatedBytesPerAdmission
  let fdBound := fd.valid ∧ c.config.fileDescriptorsPerAdmission > 0
  let fdAdditional := additionalAdmissions fdHeadroom inUse c.config.fileDescriptorsPerAdmission
  let additional := max 0 (min (if fdBound then min memoryAdditional fdAdditional else memoryAdditional)
    (maximum - inUse))
  let memoryCritical := memoryPercent ≥ c.config.hardLimitPercent
  let fdCritical := fd.valid ∧ fd.percent input ≥ c.config.hardLimitPercent
  let critical := memoryCritical ∨ (fdCritical ∧ c.config.fileDescriptorsPerAdmission > 0)
  { c.header input.now maximum with
    usage := selected
    headroomToHardByte := headroom
    fdUsed := fd.used
    fdLimit := fd.limit
    fdHeadroomToHard := if fd.valid then fdHeadroom else 0
    pressureReason := if fdWorse then .fileDescriptors else .memory
    level := nextLevel c.config c.level (if fdWorse then fd.percent input else memoryPercent)
    lastGoodSampleAt := some input.now
    reservedStreamByte := saturatingMultiply inUse c.config.estimatedBytesPerAdmission
    reservedStreamFD := if fdBound then saturatingMultiply inUse c.config.fileDescriptorsPerAdmission else 0
    admissionLimit := if critical then inUse else inUse + additional
    memoryAdmissionLimit := if critical then inUse else inUse + min memoryAdditional (maxInt64 - inUse)
    fdAdmissionLimit := if critical then inUse
      else if fdBound then inUse + min fdAdditional (maxInt64 - inUse) else maxInt64
    rejectNew := critical }

/-- `snapshotAt`, called by `Snapshot` (`force = false`) and `ForceRefresh`. -/
def Controller.snapshotAt (c : Controller) (input : Sample) (maximum inUse : Int) (force : Bool) :
    Controller × Snapshot :=
  let maximum := max 1 maximum
  let inUse := min (max 0 inUse) maximum
  if !force ∧ c.snapshot.sampledAt.isSome ∧ before input.now c.nextSampleAt ∧ c.snapshot.maximum = maximum then
    (c,c.snapshot)
  else match c.readings input with
    | .ok (first,rest,fd) =>
      let snapshot := c.freshSnapshot input maximum inUse first rest fd
      ({ c with level := snapshot.level, snapshot, nextSampleAt := snapshot.nextSampleAt,
                generation := c.generation + 1, lastGood := snapshot },snapshot)
    | .error error =>
      let snapshot := c.failedSnapshot input.now maximum inUse error
      ({ c with level := .unknown, snapshot, nextSampleAt := snapshot.nextSampleAt,
                generation := c.generation + 1 },snapshot)

end P2pstream.Kernel.AdaptiveMemory
