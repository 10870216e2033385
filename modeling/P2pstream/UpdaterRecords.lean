import P2pstream.Library.Checks
import P2pstream.Semantics.Updater

/-! Facts about the records alone: commands stay signed as time passes, receipts stay
verified, and which receipts can be issued.
-/
namespace P2pstream.UpdaterRecords
open Library.Encoding hiding Bytes
open Library Kernel.SignedPayloads Kernel.Updater
open Kernel.AgentUpdates (AssignmentAction AssignmentAuthorization Bytes RootActionReceipt SignedReceipt
  maxInt64 maxSigningClockSkew millisecond minute unixMilli)
open Semantics.Updater

variable {t : Trust}

variable {now counter : Int} {a : AssignmentAuthorization} {payload : P2pstream.Kernel.AgentUpdates.Bytes}
  {action : AssignmentAction} {digest version serverVersion : String} {receipt : SignedReceipt}
  {authorization : AuthorizationRecord} {slot : SlotMetadata} {release : VerifiedRelease}

theorem unixMilli_mono {later : Int} (le : now ≤ later) : unixMilli now ≤ unixMilli later := Int.ediv_le_ediv (by decide) le

theorem unixMilli_millis (millis : Int) : unixMilli (millis * millisecond) = millis := Int.mul_ediv_cancel _ (by decide)

theorem unixMilli_skew (now : Int) : unixMilli now ≤ unixMilli (now + maxSigningClockSkew) :=
  unixMilli_mono (by simp [maxSigningClockSkew,minute,millisecond])

theorem payload_eq_some : assignmentAuthorizationPayload t.semverIsValid a = some payload ↔
      validateAssignmentAuthorization t.semverIsValid a ∧
        record (text "management-assignment-authorization") (assignmentAuthorizationValues a) = payload := by
  simp only [assignmentAuthorizationPayload,Checks.bind_some,Checks.guard_some,Checks.pure_some]

theorem valid_interval (valid : validateAssignmentAuthorization t.semverIsValid a) :
    validateInterval a.issuedAtUnixMillis a.expiresAtUnixMillis maxLifetimeMillis ∧
      positive a.commandSequence := by
  simp only [validateAssignmentAuthorization,Bool.and_eq_true] at valid
  tauto

/-- A command is verified at a time and above a floor when it was signed, that time is
within its validity and the sequence is above the floor. -/
theorem verified_iff {record : AuthorizationRecord} {last : Int} :
    verifyAssignmentAuthorizationRecord t record action now last ↔ Signed t action record ∧
      record.authorization.issuedAtUnixMillis ≤ unixMilli (now + maxSigningClockSkew) ∧
      unixMilli now < record.authorization.expiresAtUnixMillis ∧
      last < record.authorization.commandSequence := by
  unfold Signed verifyAssignmentAuthorizationRecord verifyAssignmentAuthorization
  cases found : assignmentAuthorizationPayload t.semverIsValid record.authorization with
  | none => simp
  | some =>
    obtain ⟨interval,sequence⟩ := valid_interval (payload_eq_some.mp found).1
    simp only [validateInterval,positive,Bool.and_eq_true,decide_eq_true_eq] at interval sequence
    have issued := unixMilli_skew (record.authorization.issuedAtUnixMillis * millisecond)
    rw [unixMilli_millis] at issued
    simp only [Bool.and_eq_true,decide_eq_true_eq,unixMilli_millis]
    tauto

theorem text_hexText (data : P2pstream.Kernel.AgentUpdates.Bytes) : text (hexText data) = hex data := by
  have small : ∀ byte ∈ hex data, byte.toNat < 103 := by
    intro byte mem
    obtain ⟨nibble,rfl⟩ := mem_hex mem
    exact (hexDigit_ascii nibble).2.1
  have char : ∀ byte ∈ hex data, (Char.ofNat byte.toNat).toNat = byte.toNat := by
    intro byte mem
    have bound := small byte mem
    have valid : byte.toNat.isValidChar := .inl (by omega)
    rw [Char.ofNat,dif_pos valid]
    exact UInt32.toNat_ofNatLT
  unfold hexText
  rw [text_ofList,List.map_map]
  · conv_rhs => rw [← List.map_id (hex data)]
    apply List.map_congr_left
    intro byte mem
    simp [char byte mem]
  · intro _ mem
    obtain ⟨byte,found,rfl⟩ := List.mem_map.mp mem
    rw [char byte found]
    exact (small byte found).trans (by decide)

theorem digestText_pattern (data : P2pstream.Kernel.AgentUpdates.Bytes) : hexDigestPattern (digestText t data) := by
  unfold hexDigestPattern hexPattern digestText
  rw [text_hexText]
  simp only [length_hex,t.sha256_length,Bool.and_eq_true,decide_eq_true_eq,List.all_eq_true]
  refine ⟨trivial,fun byte mem => ?_⟩
  obtain ⟨nibble,rfl⟩ := mem_hex mem
  obtain ⟨_,_,_⟩ := hexDigit_ascii nibble
  simp [lowerHex,digit,within]
  omega

theorem digest_pattern (found : authorizationDigest t a = some digest) : hexDigestPattern digest := by
  obtain ⟨payload,_,rfl⟩ := Option.map_eq_some_iff.mp found
  exact digestText_pattern payload

theorem receiptPayload_eq_some {value : RootActionReceipt} : rootActionReceiptPayload t.semverIsValid value = some payload ↔
      validateRootActionReceipt t.semverIsValid value ∧
        record (text "root-action-receipt") (rootActionReceiptValues value) = payload := by
  simp only [rootActionReceiptPayload,Checks.bind_some,Checks.guard_some,Checks.pure_some]

def Attests (t : Trust) (receipt : SignedReceipt) (authorization : AuthorizationRecord) : Prop :=
  verifyRootActionReceiptRecord t receipt authorization (receipt.value.rootActionCounter - 1)
    (receipt.value.completedAtUnixMillis * millisecond) = true

theorem receipt_iff {previous : Int} :
    verifyRootActionReceiptRecord t receipt authorization previous now ↔ Attests t receipt authorization ∧
      receipt.value.completedAtUnixMillis ≤ unixMilli (now + maxSigningClockSkew) ∧
      previous < receipt.value.rootActionCounter := by
  have completed := unixMilli_skew (receipt.value.completedAtUnixMillis * millisecond)
  rw [unixMilli_millis] at completed
  have below : receipt.value.rootActionCounter - 1 < receipt.value.rootActionCounter := by omega
  unfold Attests verifyRootActionReceiptRecord verifyRootActionReceipt
  cases digest : authorizationDigest t authorization.authorization with
  | none => simp
  | some =>
    cases payload : rootActionReceiptPayload t.semverIsValid receipt.value with
    | none => simp
    | some =>
      simp only [Bool.and_eq_true,decide_eq_true_eq]
      tauto

theorem attests_valid
    (attests : Attests t receipt authorization) : validateRootActionReceipt t.semverIsValid receipt.value := by
  unfold Attests verifyRootActionReceiptRecord at attests
  simp only [Bool.and_eq_true,decide_eq_true_eq] at attests
  exact (receiptPayload_eq_some.mp attests.1).1

theorem signed_action {record : AuthorizationRecord} (signed : Signed t action record) :
    record.authorization.action = action := by
  unfold Signed verifyAssignmentAuthorizationRecord verifyAssignmentAuthorization at signed
  cases payload : assignmentAuthorizationPayload t.semverIsValid record.authorization with
  | none => simp [payload] at signed
  | some =>
    simp only [payload,Bool.and_eq_true,decide_eq_true_eq] at signed
    tauto

theorem signed_valid {record : AuthorizationRecord} (signed : Signed t action record) :
    validateAssignmentAuthorization t.semverIsValid record.authorization := by
  unfold Signed verifyAssignmentAuthorizationRecord at signed
  simp only [Bool.and_eq_true,decide_eq_true_eq] at signed
  exact (payload_eq_some.mp signed.1.1.1).1

structure Signable (t : Trust) (authorization : AuthorizationRecord) (digest : String) (slot : SlotMetadata) : Prop where
  signed : Signed t authorization.authorization.action authorization
  digested : authorizationDigest t authorization.authorization = some digest
  attestable : Attestable t slot
  kind : slot.resultKind = .bootstrap → authorization.authorization.action = .rollback

theorem validVersion_of_release (valid : validRelease t version) : validVersion t.semverIsValid version := by
  simp only [validRelease,Bool.and_eq_true,decide_eq_true_eq] at valid
  simp only [validVersion,Bool.and_eq_true,decide_eq_true_eq]
  exact ⟨by omega,valid.1.2⟩

section

variable (able : Signable t authorization digest slot)
include able

theorem result_valid (counter now : Int) :
    validateResult t.semverIsValid (rootActionReceipt t authorization.authorization digest slot counter now) := by
  obtain ⟨valid,_,sequence,epoch⟩ := able.attestable
  have kind := able.kind
  unfold validateSlotMetadata at valid
  unfold validateResult rootActionReceipt
  cases found : slot.resultKind with
  | release =>
    simp only [found,Bool.and_eq_true,decide_eq_true_eq,ne_eq,decide_not,Bool.not_eq_true',decide_eq_false_iff_not] at valid
    obtain ⟨_,⟨⟨⟨⟨⟨release,commit⟩,manifest⟩,build⟩,buildCommit⟩,numbered⟩,epochs⟩ := valid
    simp only [positive,Bool.and_eq_true,decide_eq_true_eq,build,buildCommit]
    exact ⟨⟨⟨⟨manifest,validVersion_of_release release⟩,commit⟩,by omega,sequence.2⟩,by omega,epoch.2⟩
  | bootstrap =>
    simp only [found,Bool.and_eq_true,decide_eq_true_eq] at valid
    obtain ⟨_,⟨⟨⟨⟨⟨_,manifest⟩,numbered⟩,epochs⟩,_⟩,build⟩,commit⟩ := valid
    simp only [Bool.and_eq_true,decide_eq_true_eq]
    exact ⟨⟨⟨⟨⟨kind found,manifest⟩,numbered⟩,epochs⟩,validVersion_of_release build⟩,commit⟩

theorem receipt_valid (least : 0 ≤ counter) (most : counter < maxInt64)
    (clock : validUnixMillis (unixMilli now)) : validateRootActionReceipt t.semverIsValid
      (rootActionReceipt t authorization.authorization digest slot (counter + 1) now) := by
  have command := signed_valid able.signed
  have pattern := digest_pattern able.digested
  have key := digestText_pattern (t := t) t.activatorPublicKey
  have counted : positive (counter + 1) := by
    simp only [positive,Bool.and_eq_true,decide_eq_true_eq]
    omega
  have result := result_valid able (counter + 1) now
  have artifact := able.attestable.artifact
  simp only [validateAssignmentAuthorization,Bool.and_eq_true,decide_eq_true_eq] at command
  simp only [validateRootActionReceipt,Bool.and_eq_true,decide_eq_true_eq]
  tauto

theorem issue {completed : Int} (least : 0 ≤ counter)
    (most : counter < maxInt64) (clock : validUnixMillis (unixMilli completed)) (later : completed ≤ now) :
    ∃ payload, rootActionReceiptPayload t.semverIsValid
        (rootActionReceipt t authorization.authorization digest slot (counter + 1) completed) = some payload ∧
      verifyRootActionReceiptRecord t
        ⟨rootActionReceipt t authorization.authorization digest slot (counter + 1) completed,payload,t.sign payload⟩
        authorization counter now := by
  have valid := receipt_valid able least most clock
  have found := receiptPayload_eq_some.mpr ⟨valid,rfl⟩
  refine ⟨_,found,?_⟩
  have command := signed_valid able.signed
  have pattern := digest_pattern able.digested
  have passed : unixMilli completed ≤ unixMilli (now + maxSigningClockSkew) :=
    (unixMilli_skew completed).trans (unixMilli_mono (by omega))
  unfold verifyRootActionReceiptRecord verifyRootActionReceipt verifyKeyAndSignature
  simp only [found,able.digested]
  simp only [validateAssignmentAuthorization,positive,Bool.and_eq_true,decide_eq_true_eq] at command
  simp [rootActionReceipt,t.activatorPublicKey_length,t.sign_length,t.verify_sign,pattern,passed]
  have epoch : authorization.authorization.authorityEpoch ≠ 0 := by omega
  tauto

end

theorem platform_valid : platformPattern operatingSystem ∧ platformPattern t.architecture.name ∧
    operatingSystem ≠ "" ∧ t.architecture.name ≠ "" := by
  cases t.architecture <;> decide

theorem artifactName_ne {name : String} (valid : artifactNamePattern name) : name ≠ "" := by
  rintro rfl
  exact absurd valid (by decide)

theorem validSlotTarget_of_release (valid : validRelease t version) : validSlotTarget t version := by
  simp [validSlotTarget,valid]

theorem release_attestable (kind : slot.resultKind = .release)
    (target : slot.target = slot.version) (build : slot.buildVersion = slot.version)
    (buildCommit : slot.buildCommit = slot.commit) (os : slot.os = operatingSystem) (arch : slot.arch = t.architecture.name)
    (version : validRelease t slot.version) (commit : hexCommitPattern slot.commit)
    (manifest : hexDigestPattern slot.manifestSHA256) (sequence : positive slot.releaseSequence)
    (epoch : positive slot.securityEpoch)
    (artifact : validateArtifact slot.os slot.arch slot.artifactName slot.artifactSize slot.artifactSHA256) :
    Attestable t slot := by
  obtain ⟨_,_,_,_⟩ := platform_valid
  simp only [positive,Bool.and_eq_true,decide_eq_true_eq] at sequence epoch
  refine ⟨?_,artifact,⟨by omega,sequence.2⟩,⟨by omega,epoch.2⟩⟩
  simp only [validateArtifact,Bool.and_eq_true,decide_eq_true_eq] at artifact
  obtain ⟨⟨⟨⟨_,name⟩,_⟩,_⟩,_⟩ := artifact
  have named := artifactName_ne name
  have target' := target ▸ validSlotTarget_of_release version
  unfold validateSlotMetadata
  simp only [kind,Bool.and_eq_true,decide_eq_true_eq,os,arch]
  have numbered : slot.releaseSequence ≠ 0 := by omega
  have counted : slot.securityEpoch ≠ 0 := by omega
  tauto

theorem releaseSlot_attestable
    (valid : validateAssignmentAuthorization t.semverIsValid a) (checked : validateRelease t release)
    (same : authorizationMatchesRelease t a release serverVersion) :
    Attestable t (releaseSlotMetadata t release) := by
  simp only [validateAssignmentAuthorization,Bool.and_eq_true,decide_eq_true_eq] at valid
  simp only [validateRelease,Bool.and_eq_true,decide_eq_true_eq] at checked
  simp only [authorizationMatchesRelease,Bool.and_eq_true,decide_eq_true_eq] at same
  obtain ⟨⟨⟨_,sequence⟩,epoch⟩,artifact⟩ := valid
  obtain ⟨⟨⟨⟨⟨⟨⟨⟨⟨⟨_,_⟩,_⟩,_⟩,sequenceSame⟩,epochSame⟩,os⟩,arch⟩,name⟩,size⟩,sha⟩ := same
  obtain ⟨⟨⟨⟨⟨⟨⟨version,commit⟩,manifest⟩,_⟩,_⟩,_⟩,_⟩,_⟩ := checked
  rw [os,arch,name,size,sha] at artifact
  rw [sequenceSame] at sequence
  rw [epochSame] at epoch
  exact release_attestable rfl rfl rfl rfl rfl rfl version commit manifest sequence epoch artifact

theorem activatedSlot_attestable {journal : ActivationJournal} (written : Written t journal)
    (attests : Attests t receipt journal.authorization) (kind : receipt.value.resultKind = .release) :
    Attestable t (activatedSlot t journal receipt.value) := by
  have command := signed_valid written.signed
  have valid := attests_valid attests
  obtain ⟨os,arch,_,_⟩ := platform_valid
  simp only [validateAssignmentAuthorization,Bool.and_eq_true,decide_eq_true_eq] at command
  simp only [validateRootActionReceipt,validateResult,kind,Bool.and_eq_true,decide_eq_true_eq] at valid
  obtain ⟨⟨⟨_,sequence⟩,epoch⟩,_⟩ := command
  obtain ⟨⟨_,⟨⟨⟨manifest,_⟩,commit⟩,_⟩,_⟩,artifact⟩ := valid
  simp only [validateArtifact,Bool.and_eq_true,decide_eq_true_eq] at artifact
  rw [written.sequence] at sequence
  rw [written.securityEpoch] at epoch
  refine release_attestable rfl written.candidate rfl rfl rfl rfl written.valid commit manifest sequence epoch ?_
  simp only [validateArtifact,Bool.and_eq_true,decide_eq_true_eq]
  exact ⟨⟨⟨⟨⟨os,arch⟩,artifact.1.1.1.2⟩,artifact.1.1.2⟩,artifact.1.2⟩,artifact.2⟩

theorem bootstrapSlot_attestable {target buildVersion buildCommit : String} {file : Executable}
    (valid : validateSlotMetadata t (bootstrapSlot t target file buildVersion buildCommit))
    (size : file.size ≤ maxArtifactSize) :
    Attestable t (bootstrapSlot t target file buildVersion buildCommit) := by
  have named : artifactNamePattern (bootstrapArtifactName t) := by
    unfold bootstrapArtifactName
    cases t.architecture <;> decide
  obtain ⟨os,arch,_,_⟩ := platform_valid
  have zero : (0 : Int) ≤ 0 ∧ (0 : Int) ≤ maxInt64 := by decide
  refine ⟨valid,?_,zero,zero⟩
  simp only [validateSlotMetadata,bootstrapSlot,Bool.and_eq_true] at valid
  simp only [validateArtifact,bootstrapSlot,Bool.and_eq_true]
  exact ⟨⟨⟨⟨⟨os,arch⟩,named⟩,valid.1.1.2⟩,decide_eq_true size⟩,valid.1.2⟩

theorem version_ne (valid : validRelease t version) : version ≠ "" := by
  rintro rfl
  have empty : releasePattern "" = false := by decide
  simp [validRelease,empty] at valid

theorem validRelease_of_channel {channel : String} (valid : validForChannel t version channel) :
    validRelease t version := by
  unfold validForChannel at valid
  split_ifs at valid
  · exact (Bool.and_eq_true .. ▸ valid).1
  · exact (Bool.and_eq_true .. ▸ valid).1

theorem verifyRelease_advances {data : P2pstream.Kernel.AgentUpdates.Bytes} {floor : Floor}
    (verified : verifyRelease t data floor serverVersion now = some release)
    (manifest : String) : stable t release.minimumSafeVersion ∧ FloorLE t floor {
      sequence := release.sequence
      securityEpoch := release.securityEpoch
      minimumSafeVersion := release.minimumSafeVersion
      version := release.version
      manifestSHA256 := manifest } := by
  simp only [verifyRelease,Checks.bind_some,Checks.guard_some,Checks.pure_some] at verified
  obtain ⟨content,_,valid,_,_,newer,epoch,minimum,_,version,_,_,_,_,_,rfl⟩ := verified
  simp only [validateManifest,Bool.and_eq_true,decide_eq_true_eq] at valid
  have safe : stable t content.minimumSafeVersion := by tauto
  have channel : validForChannel t content.version content.channel := by tauto
  have safeRelease : validRelease t content.minimumSafeVersion := (Bool.and_eq_true .. ▸ safe).1
  refine ⟨safe,⟨?_,epoch,?_,?_⟩⟩
  · rcases newer with newer | retry
    · exact newer.le
    · exact retry.2.1.ge
  · rcases minimum with empty | ⟨_,above⟩
    · exact .inr (.inl empty)
    · exact .inr (.inr ⟨version_ne safeRelease,above⟩)
  · rcases version with above | retry
    · exact .inr (.inr ⟨version_ne (validRelease_of_channel channel),above.le⟩)
    · exact .inl retry.2.2.1.symm

end P2pstream.UpdaterRecords
