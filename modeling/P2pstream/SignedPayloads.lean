import P2pstream.Library.Checks
import P2pstream.Kernel.SignedPayloads

/-! Signed payloads are unambiguous. The bytes of a record determine its method and
values, and the bytes of a signed message determine the message and its kind.
-/
namespace P2pstream.SignedPayloads
open Library.Encoding hiding Bytes
open Kernel.SignedPayloads
open Kernel.AgentUpdates (AssignmentAction AssignmentAuthorization Bytes ResultKind RootActionReceipt
  maxInt64)

def Short (value : Bytes) : Prop := value.length < 2 ^ 32

theorem record_injective {method other : Bytes} {values others : List Bytes} (short : Short method)
    (brief : Short other) (shorts : ∀ value ∈ values, Short value) (briefs : ∀ value ∈ others, Short value)
    (same : record method values = record other others) : method = other ∧ values = others := by
  have bodies : fields 4 (method :: values) = fields 4 (other :: others) := List.append_cancel_left same
  have lists := fields_injective (by omega) (by simpa [Short] using And.intro short shorts)
    (by simpa [Short] using And.intro brief briefs) bodies
  exact List.cons.inj lists

/-- Every integer field of the messages is at most 64 bits wide, signed or not. -/
def Word (value : Int) : Prop := -(2 ^ 63) ≤ value ∧ value < 2 ^ 64

def rawValues : Message → List Bytes
  | .check value => [value.agentPublicID]
  | .report value =>
    [value.agentPublicID,value.manifestSHA256,value.binarySHA256,value.runningVersion,value.runningCommit,
      value.failureCode,value.failureDetail,hex value.activationNonce,hex value.activatorSignature]
  | .activation value =>
    [value.agentPublicID,hex value.nonce,value.manifestSHA256,value.targetVersion,value.targetCommit,value.os,
      value.arch,value.artifactName,value.artifactSHA256]
  | _ => []

def integers : Message → List Int
  | .check value => [value.counter]
  | .report value =>
    [value.counter,value.assignmentID,value.generation,value.state,value.activationCounter]
  | .activation value =>
    [value.assignmentID,value.generation,value.counter,value.releaseSequence,value.securityEpoch,value.artifactSize]
  | .assignmentAuthorization value => [value.assignmentID,value.campaignID,value.generation]
  | .enrollmentReceipt _ => []
  | .rootActionReceipt value => [value.assignmentID,value.campaignID,value.generation]

/-- The message is a value of its Go type, with unvalidated values under `2^32` bytes. -/
def Representable (message : Message) : Prop :=
  (∀ value ∈ rawValues message, Short value) ∧ ∀ value ∈ integers message, Word value

def method : Message → Bytes
  | .check _ => text "updater-check"
  | .report _ => text "updater-report"
  | .activation _ => text "root-activation"
  | .assignmentAuthorization _ => text "management-assignment-authorization"
  | .enrollmentReceipt _ => text "management-enrollment-receipt"
  | .rootActionReceipt _ => text "root-action-receipt"

def values : Message → List Bytes
  | .check value => checkValues value
  | .report value => reportValues value
  | .activation value => activationValues value
  | .assignmentAuthorization value => assignmentAuthorizationValues value
  | .enrollmentReceipt value => enrollmentReceiptValues value
  | .rootActionReceipt value => rootActionReceiptValues value

theorem short_of_le {value : Bytes} {bound : Nat} (small : bound < 2 ^ 32) (le : value.length ≤ bound) :
    Short value := lt_of_le_of_lt le small

theorem short_formatInt {value : Int} (word : Word value) : Short (formatInt value) := by
  obtain ⟨_,_⟩ := word
  have digits : value.natAbs < 10 ^ 20 := by omega
  exact short_of_le (by omega) (length_formatInt_le (by omega) digits)

theorem short_positive {value : Int} (ok : positive value) : Short (formatInt value) := by
  apply short_formatInt
  simp only [positive,Bool.and_eq_true,decide_eq_true_eq] at ok
  have bound : maxInt64 < 2 ^ 64 := by decide
  exact ⟨by omega,by omega⟩

theorem short_unixMillis {value : Int} (ok : validUnixMillis value) : Short (formatInt value) := by
  apply short_formatInt
  simp only [validUnixMillis,Bool.and_eq_true,decide_eq_true_eq] at ok
  exact ⟨by omega,by omega⟩

variable {value : String} {semverIsValid : String → Bool}

theorem short_hexPattern {size : Nat} (small : size < 2 ^ 32) (ok : hexPattern size value) : Short (text value) := by
  simp only [hexPattern,Bool.and_eq_true,decide_eq_true_eq] at ok
  exact short_of_le small ok.1.le

theorem short_digest (ok : hexDigestPattern value) : Short (text value) := short_hexPattern (by omega) ok

theorem short_commit (ok : hexCommitPattern value) : Short (text value) := short_hexPattern (by omega) ok

theorem short_name {first rest : UInt8 → Bool} {limit : Nat} (small : limit + 1 < 2 ^ 32)
    (ok : namePattern first rest limit value) : Short (text value) := by
  apply short_of_le small
  unfold namePattern at ok
  split at ok
  next => contradiction
  next byte bytes split =>
    simp only [Bool.and_eq_true,decide_eq_true_eq] at ok
    rw [split,List.length_cons]
    omega

theorem short_agentPublicID (ok : agentPublicIDPattern value) : Short (text value) := short_name (by omega) ok

theorem short_platform (ok : platformPattern value) : Short (text value) := short_name (by omega) ok

theorem short_artifactName (ok : artifactNamePattern value) : Short (text value) := short_name (by omega) ok

theorem short_repository (ok : pinnedRepositoryPattern value) : Short (text value) := by
  have bound : 201 < 2 ^ 32 := by omega
  apply short_of_le bound
  have parts := congrArg List.length (List.takeWhile_append_dropWhile (p := (!slash ·)) (l := text value))
  simp only [pinnedRepositoryPattern,Bool.and_eq_true] at ok
  obtain ⟨owner,name⟩ := ok
  split at name
  next => contradiction
  next separator rest split =>
    rw [split] at parts
    simp only [repositoryPart,Bool.and_eq_true,decide_eq_true_eq] at owner name
    simp only [List.length_append,List.length_cons] at parts
    omega

theorem short_version (ok : validVersion semverIsValid value) : Short (text value) := by
  simp only [validVersion,Bool.and_eq_true,decide_eq_true_eq] at ok
  exact short_of_le (by omega) ((length_text value).le.trans ok.1)

theorem short_nonce {value : Bytes} (ok : value.length = 32) : Short (hex value) := by
  simp [Short,ok]

theorem short_action (action : AssignmentAction) : Short (text (actionText action)) := by
  cases action <;> exact short_of_le (by decide) (length_text_le _)

theorem short_resultKind (kind : ResultKind) : Short (text (resultKindText kind)) := by
  cases kind <;> exact short_of_le (by decide) (length_text_le _)

theorem short_artifact {os arch name : String} {size : Int} {digest : String}
    (ok : validateArtifact os arch name size digest) :
    Short (text os) ∧ Short (text arch) ∧ Short (text name) ∧ Short (formatInt size) ∧ Short (text digest) := by
  simp only [validateArtifact,Bool.and_eq_true,decide_eq_true_eq] at ok
  obtain ⟨⟨⟨⟨⟨system,machine⟩,file⟩,_⟩,_⟩,sum⟩ := ok
  exact ⟨short_platform system,short_platform machine,short_artifactName file,
    short_formatInt ⟨by omega,by omega⟩,short_digest sum⟩

theorem short_interval {start finish maximum : Int} (ok : validateInterval start finish maximum) :
    Short (formatInt start) ∧ Short (formatInt finish) := by
  simp only [validateInterval,Bool.and_eq_true] at ok
  exact ⟨short_unixMillis ok.1.1.1,short_unixMillis ok.1.1.2⟩

theorem short_result {value : RootActionReceipt} (ok : validateResult semverIsValid value) :
    Short (text value.resultManifestSHA256) ∧ Short (text value.resultVersion) ∧ Short (text value.resultCommit) ∧
      Short (formatInt value.resultReleaseSequence) ∧ Short (formatInt value.resultSecurityEpoch) := by
  unfold validateResult at ok
  split at ok
  · simp only [Bool.and_eq_true] at ok
    obtain ⟨⟨⟨⟨manifest,version⟩,commit⟩,sequence⟩,epoch⟩ := ok
    exact ⟨short_digest manifest,short_version version,short_commit commit,short_positive sequence,short_positive epoch⟩
  · simp only [Bool.and_eq_true,decide_eq_true_eq] at ok
    obtain ⟨⟨⟨⟨⟨-,manifest⟩,sequence⟩,epoch⟩,version⟩,commit⟩ := ok
    rw [manifest,sequence,epoch]
    have zero : Word 0 := ⟨by omega,by omega⟩
    exact ⟨short_of_le (by decide) (length_text_le _),short_version version,short_commit commit,
      short_formatInt zero,short_formatInt zero⟩

theorem authorization_short {value : AssignmentAuthorization}
    (words : ∀ number ∈ integers (.assignmentAuthorization value), Word number)
    (ok : validateAssignmentAuthorization semverIsValid value) :
    ∀ item ∈ assignmentAuthorizationValues value, Short item := by
  simp only [integers,List.forall_mem_cons] at words
  obtain ⟨assignment,campaign,generation,-⟩ := words
  simp only [validateAssignmentAuthorization,Bool.and_eq_true,decide_eq_true_eq] at ok
  obtain ⟨⟨⟨⟨⟨⟨⟨⟨⟨⟨⟨⟨⟨⟨⟨agent,-⟩,-⟩,-⟩,sequence⟩,nonce⟩,interval⟩,authority⟩,epoch⟩,server⟩,manifest⟩,
    version⟩,commit⟩,release⟩,security⟩,artifact⟩ := ok
  obtain ⟨os,arch,name,size,digest⟩ := short_artifact artifact
  obtain ⟨issued,expires⟩ := short_interval interval
  simp only [assignmentAuthorizationValues,List.forall_mem_cons]
  exact ⟨short_agentPublicID agent,short_formatInt assignment,short_formatInt campaign,short_formatInt generation,
    short_action _,short_positive sequence,short_nonce nonce,issued,expires,short_digest authority,
    short_positive epoch,short_version server,short_digest manifest,short_version version,short_commit commit,
    short_positive release,short_positive security,os,arch,name,size,digest,by simp⟩

theorem enrollment_short {value : EnrollmentReceipt} (ok : validateEnrollmentReceipt semverIsValid value) :
    ∀ item ∈ enrollmentReceiptValues value, Short item := by
  simp only [validateEnrollmentReceipt,Bool.and_eq_true] at ok
  obtain ⟨⟨⟨⟨⟨⟨⟨⟨⟨⟨⟨⟨⟨⟨⟨agent,updater⟩,updaterSum⟩,activator⟩,activatorSum⟩,-⟩,-⟩,-⟩,os⟩,arch⟩,version⟩,
    repository⟩,authority⟩,epoch⟩,generation⟩,interval⟩ := ok
  obtain ⟨enrolled,expires⟩ := short_interval interval
  simp only [enrollmentReceiptValues,List.forall_mem_cons]
  exact ⟨short_agentPublicID agent,short_digest updater,short_digest updaterSum,short_digest activator,
    short_digest activatorSum,short_platform os,short_platform arch,short_version version,
    short_repository repository,short_digest authority,short_positive epoch,enrolled,expires,
    short_positive generation,by simp⟩

theorem receipt_short {value : RootActionReceipt} (words : ∀ number ∈ integers (.rootActionReceipt value), Word number)
    (ok : validateRootActionReceipt semverIsValid value) :
    ∀ item ∈ rootActionReceiptValues value, Short item := by
  simp only [integers,List.forall_mem_cons] at words
  obtain ⟨assignment,campaign,generation,-⟩ := words
  simp only [validateRootActionReceipt,Bool.and_eq_true,decide_eq_true_eq] at ok
  obtain ⟨⟨⟨⟨⟨⟨⟨⟨⟨⟨⟨⟨⟨agent,-⟩,-⟩,-⟩,sequence⟩,nonce⟩,authorization⟩,authority⟩,epoch⟩,activator⟩,counter⟩,
    completed⟩,result⟩,artifact⟩ := ok
  obtain ⟨manifest,version,commit,release,security⟩ := short_result result
  obtain ⟨os,arch,name,size,digest⟩ := short_artifact artifact
  simp only [rootActionReceiptValues,List.forall_mem_cons]
  exact ⟨short_agentPublicID agent,short_formatInt assignment,short_formatInt campaign,short_formatInt generation,
    short_action _,short_positive sequence,short_digest authorization,short_nonce nonce,short_digest authority,
    short_positive epoch,short_digest activator,short_positive counter,short_unixMillis completed,
    short_resultKind _,manifest,version,commit,release,security,os,arch,name,size,digest,by simp⟩

theorem payload_record {message : Message} {payload : Bytes} (representable : Representable message)
    (ok : message.payload semverIsValid = some payload) :
    payload = record (method message) (values message) ∧ ∀ value ∈ values message, Short value := by
  obtain ⟨raw,numbers⟩ := representable
  cases message with
  | check =>
    simp only [rawValues,integers,List.forall_mem_cons] at raw numbers
    refine ⟨(Option.some.inj ok).symm,?_⟩
    simp only [values,checkValues,List.forall_mem_cons]
    exact ⟨raw.1,short_formatInt numbers.1,by simp⟩
  | report =>
    simp only [rawValues,integers,List.forall_mem_cons] at raw numbers
    refine ⟨(Option.some.inj ok).symm,?_⟩
    obtain ⟨agent,manifest,binary,version,commit,code,detail,nonce,signature,-⟩ := raw
    obtain ⟨counter,assignment,generation,state,activation,-⟩ := numbers
    simp only [values,reportValues,List.forall_mem_cons]
    exact ⟨agent,short_formatInt counter,short_formatInt assignment,short_formatInt generation,
      short_formatInt state,manifest,binary,version,commit,code,detail,short_formatInt activation,nonce,
      signature,by simp⟩
  | activation =>
    simp only [rawValues,integers,List.forall_mem_cons] at raw numbers
    refine ⟨(Option.some.inj ok).symm,?_⟩
    obtain ⟨agent,nonce,manifest,version,commit,os,arch,name,digest,-⟩ := raw
    obtain ⟨assignment,generation,counter,sequence,epoch,size,-⟩ := numbers
    simp only [values,activationValues,List.forall_mem_cons]
    exact ⟨agent,short_formatInt assignment,short_formatInt generation,short_formatInt counter,nonce,manifest,
      version,commit,short_formatInt sequence,short_formatInt epoch,os,arch,name,short_formatInt size,digest,
      by simp⟩
  | assignmentAuthorization =>
    simp only [Message.payload,assignmentAuthorizationPayload,Library.Checks.bind_some,Library.Checks.guard_some,Option.pure_def,
      Option.some.injEq] at ok
    exact ⟨ok.2.symm,authorization_short numbers ok.1⟩
  | enrollmentReceipt =>
    simp only [Message.payload,enrollmentReceiptPayload,Library.Checks.bind_some,Library.Checks.guard_some,Option.pure_def,
      Option.some.injEq] at ok
    exact ⟨ok.2.symm,enrollment_short ok.1⟩
  | rootActionReceipt =>
    simp only [Message.payload,rootActionReceiptPayload,Library.Checks.bind_some,Library.Checks.guard_some,Option.pure_def,
      Option.some.injEq] at ok
    exact ⟨ok.2.symm,receipt_short numbers ok.1⟩

theorem actionText_inj {left right : AssignmentAction} : actionText left = actionText right ↔ left = right := by
  cases left <;> cases right <;> decide

theorem resultKindText_inj {left right : ResultKind} : resultKindText left = resultKindText right ↔ left = right := by
  cases left <;> cases right <;> decide

theorem short_method (message : Message) : Short (method message) := by
  cases message <;> exact short_of_le (by decide) (length_text_le _)

theorem kind_of_method {left right : Message} (same : method left = method right) : left.ctorIdx = right.ctorIdx := by
  cases left <;> cases right <;> first | rfl | exact absurd (text_injective same) (by decide)

theorem message_of_values {left right : Message} (methods : method left = method right)
    (lists : values left = values right) : left = right := by
  have kinds := kind_of_method methods
  cases left <;> cases right <;> simp only [Message.ctorIdx] at kinds
  all_goals try contradiction
  case check.check left right =>
    cases left
    cases right
    simpa [values,checkValues] using lists
  case report.report left right =>
    cases left
    cases right
    simpa [values,reportValues] using lists
  case activation.activation left right =>
    cases left
    cases right
    simpa [values,activationValues] using lists
  case assignmentAuthorization.assignmentAuthorization left right =>
    cases left
    cases right
    simpa [values,assignmentAuthorizationValues,actionText_inj] using lists
  case enrollmentReceipt.enrollmentReceipt left right =>
    cases left
    cases right
    simpa [values,enrollmentReceiptValues] using lists
  case rootActionReceipt.rootActionReceipt left right =>
    cases left
    cases right
    simpa [values,rootActionReceiptValues,actionText_inj,resultKindText_inj] using lists

/-- The bytes of a record determine its method and values, and the bytes of an
accepted signed message determine the message: no two messages, of one kind or of
two, share a payload. -/
theorem signed_payloads_unambiguous (semverIsValid : String → Bool) :
    (∀ (method other : Bytes) (values others : List Bytes), Short method → Short other →
        (∀ value ∈ values, Short value) → (∀ value ∈ others, Short value) →
        record method values = record other others → method = other ∧ values = others) ∧
      ∀ (left right : Message) (payload : Bytes), Representable left → Representable right →
        left.payload semverIsValid = some payload → right.payload semverIsValid = some payload → left = right := by
  refine ⟨fun method other values others short brief shorts briefs same =>
    record_injective short brief shorts briefs same,?_⟩
  intro left right _ leftFits rightFits leftOk rightOk
  obtain ⟨leftRecord,leftShort⟩ := payload_record leftFits leftOk
  obtain ⟨rightRecord,rightShort⟩ := payload_record rightFits rightOk
  obtain ⟨methods,lists⟩ := record_injective (short_method left) (short_method right) leftShort rightShort
    (leftRecord.symm.trans rightRecord)
  exact message_of_values methods lists

def labCheck : Message := .check ⟨text "agent",7⟩

theorem signed_payloads_unambiguous_check : ∃ payload, labCheck.payload (fun _ => true) = some payload ∧
    ∀ other, Representable other → other.payload (fun _ => true) = some payload → other = labCheck := by
  have representable : Representable labCheck := by
    constructor
    · simp only [labCheck,rawValues,List.forall_mem_cons]
      exact ⟨by unfold Short; decide +kernel,by simp⟩
    · simp only [labCheck,integers,List.forall_mem_cons]
      exact ⟨by unfold Word; decide,by simp⟩
  exact ⟨_,rfl,fun other fits ok => (signed_payloads_unambiguous _).2 other labCheck _ fits representable ok rfl⟩

end P2pstream.SignedPayloads
