import OpenInfra.Chain.Writes

namespace OpenInfra
open Frame

variable {A Ledger : Type} [LinearOrder A] {E : Env A Ledger}
  {s : Chain E} {round : Nat}

namespace OpenInfraLease

theorem createLease_writes :
    Yields (createLease s o leaseId provider resourceHash duration) (Writes [.lease] s) := by
  unfold createLease
  repeat refine .bind fun _ _ => ?_
  exact .ok (((Writes.refl s).setLease (by decide) _).deposit _ (.head _))

theorem updateLeaseState_writes :
    Yields (updateLeaseState s o leaseId newState) (Writes [.lease] s) := by
  unfold updateLeaseState
  repeat refine .bind fun _ _ => ?_
  exact .ok (((Writes.refl s).setLease (by decide) _).deposit _ (.head _))

end OpenInfraLease

namespace Reputation

theorem submitScore_writes : Yields (submitScore s o provider delta) (Writes [.reputation] s) := by
  unfold submitScore
  repeat refine .bind fun _ _ => ?_
  exact .ok ((((Writes.refl s).setReputation (by decide) _).setReputation (by decide) _).deposit _
    (.head _))

theorem updateVector_writes :
    Yields (updateVector s o provider compute storage network availability reliability)
      (Writes [.reputation] s) := by
  unfold updateVector
  repeat refine .bind fun _ _ => ?_
  exact .ok ((((Writes.refl s).setReputation (by decide) _).setReputation (by decide) _).deposit _
    (.head _))

theorem recordAvailability_writes :
    Yields (recordAvailability s o provider availabilityBps sampleCount)
      (Writes [.reputation] s) := by
  unfold recordAvailability
  repeat refine .bind fun _ _ => ?_
  exact .ok ((((Writes.refl s).setReputation (by decide) _).setReputation (by decide) _).deposit _
    (.head _))

theorem setDimensionScore_writes :
    Yields (setDimensionScore s provider dimension scoreBps) (Writes [.reputation] s) := by
  unfold setDimensionScore
  repeat refine .bind fun _ _ => ?_
  refine .ok (.deposit ?_ _ (.head _))
  split
  · exact ((Writes.refl s).setReputation (by decide) _).setReputation (by decide) _
  · exact (Writes.refl s).setReputation (by decide) _

theorem setDimensionScore_validator
    (h : setDimensionScore s provider dimension scoreBps = .ok t) : t.validator = s.validator :=
  (setDimensionScore_writes t h).same .validator (by decide)

end Reputation

namespace Rewards

theorem calculateReward_writes :
    Yields (calculateReward s o leaseId provider resourceUnits duration reputation
      availabilityPercent) (Writes [.rewards] s) := by
  unfold calculateReward
  repeat refine .bind fun _ _ => ?_
  exact .ok ((((Writes.refl s).setRewards (by decide) _).setRewards (by decide) _).deposit _
    (.head _))

theorem claimReward_writes : Yields (claimReward s o) (Writes [.rewards] s) := by
  unfold claimReward
  repeat refine .bind fun _ _ => ?_
  exact .ok (((Writes.refl s).setRewards (by decide) _).deposit _ (.head _))

theorem accruePoints_writes : Yields (accruePoints s account points) (Writes [.rewards] s) := by
  unfold accruePoints
  split
  · exact .ok (.refl s)
  · refine .bind fun _ _ => ?_
    exact .ok (((Writes.refl s).setRewards (by decide) _).deposit _ (.head _))

end Rewards

namespace ProviderRegistry

theorem doRegisterProvider_writes :
    Yields (doRegisterProvider s owner key) (Writes [.registry] s) := by
  unfold doRegisterProvider
  repeat refine .bind fun _ _ => ?_
  exact .ok ((((Writes.refl s).setRegistry (by decide) _).setRegistry (by decide) _).deposit _
    (.head _))

theorem setStatus_writes : Yields (setStatus s o provider status) (Writes [.registry] s) := by
  unfold setStatus
  repeat refine .bind fun _ _ => ?_
  exact .ok (((Writes.refl s).setRegistry (by decide) _).deposit _ (.head _))

theorem bondStake_writes : Yields (bondStake s o amount) (Writes [.registry, .balances] s) := by
  unfold bondStake
  repeat refine .bind fun _ _ => ?_
  exact .ok ((((Writes.refl s).setLedger (by decide) _).setRegistry (by decide) _).deposit _
    (.head _))

theorem requestUnbond_writes : Yields (requestUnbond s o) (Writes [.registry] s) := by
  unfold requestUnbond
  repeat refine .bind fun _ _ => ?_
  exact .ok (((Writes.refl s).setRegistry (by decide) _).deposit _ (.head _))

theorem withdrawUnbonded_writes :
    Yields (withdrawUnbonded s o) (Writes [.registry, .balances] s) := by
  unfold withdrawUnbonded
  repeat refine .bind fun _ _ => ?_
  exact .ok ((((Writes.refl s).setLedger (by decide) _).setRegistry (by decide) _).deposit _
    (.head _))

theorem suspendProvider_writes : Writes [.registry] s (suspendProvider s provider) := by
  unfold suspendProvider
  split
  · exact ((Writes.refl s).setRegistry (by decide) _).deposit _ (.head _)
  · exact .refl s

theorem slashBond_writes : Writes [.registry, .balances] s (slashBond s provider requested).1 := by
  unfold slashBond
  split
  · exact .refl s
  have hl (ledger : Ledger) : Writes [.registry, .balances] s { s with ledger } :=
    (Writes.refl s).setLedger (by decide) _
  dsimp only
  split
  · exact hl _
  split
  · exact ((hl _).setRegistry (by decide) _).trans (suspendProvider_writes.mono (by decide))
  · exact (hl _).setRegistry (by decide) _

end ProviderRegistry

namespace NetworkValidator

theorem joinActiveSet_writes : Yields (joinActiveSet s who) (Writes [.validator] s) := by
  unfold joinActiveSet
  split
  · exact .ok (.refl s)
  · refine .bind fun _ _ => ?_
    exact .ok ((Writes.refl s).setValidator (by decide) _)

theorem registerValidator_writes :
    Yields (registerValidator s o stake) (Writes [.validator, .balances] s) := by
  unfold registerValidator
  iterate 5 refine .bind fun _ _ => ?_
  refine .bind fun t ht => .bind fun ledger _ => ?_
  have hw := (joinActiveSet_writes t ht).mono (by decide : _ ⊆ [Pallet.validator, .balances])
  exact .ok (((hw.setLedger (by decide) _).setValidator (by decide) _).deposit _ (.head _))

theorem requestExit_writes : Yields (requestExit s o) (Writes [.validator] s) := by
  unfold requestExit
  repeat refine .bind fun _ _ => ?_
  exact .ok ((((Writes.refl s).setValidator (by decide) _).setValidator (by decide) _).deposit _
    (.head _))

theorem withdrawUnbonded_writes :
    Yields (withdrawUnbonded s o) (Writes [.validator, .balances] s) := by
  unfold withdrawUnbonded
  repeat refine .bind fun _ _ => ?_
  exact .ok (((((Writes.refl s).setLedger (by decide) _).setValidator (by decide) _).setValidator
    (by decide) _).deposit _ (.head _))

theorem suspend_writes : Yields (suspend s o validator) (Writes [.validator] s) := by
  unfold suspend
  repeat refine .bind fun _ _ => ?_
  exact .ok ((((Writes.refl s).setValidator (by decide) _).setValidator (by decide) _).deposit _
    (.head _))

theorem reinstate_writes : Yields (reinstate s o validator) (Writes [.validator] s) := by
  unfold reinstate
  iterate 3 refine .bind fun _ _ => ?_
  refine .bind fun t ht => ?_
  have hw := ((Writes.refl s).setValidator (by decide) _).trans (joinActiveSet_writes t ht)
  exact .ok (hw.deposit _ (.head _))

theorem submitEvidence_writes :
    Yields (submitEvidence s o provider round dimension scoreBps sampleCount payloadHash)
      (Writes [.validator] s) := by
  unfold submitEvidence
  repeat refine .bind fun _ _ => ?_
  exact .ok (((Writes.refl s).setValidator (by decide) _).deposit _ (.head _))

theorem accrueAll_writes (accepted : List (Submission A)) :
    Yields (accrueAll points s accepted) (Writes [.rewards] s) := by
  unfold accrueAll
  induction accepted generalizing s with
  | nil => exact .ok (.refl s)
  | cons entry rest ih =>
    rw [List.foldlM_cons]
    exact .bind fun t ht u hu => (Rewards.accruePoints_writes t ht).trans (ih u hu)

theorem accrueAll_validator
    (ht : Reputation.setDimensionScore s provider dimension scoreBps = .ok t)
    (hu : accrueAll points t accepted = .ok u) : u.validator = s.validator :=
  Eq.trans ((accrueAll_writes _ u hu).same .validator (by decide))
    (Reputation.setDimensionScore_validator ht)

theorem closeRound_writes :
    Yields (closeRound s o provider round dimension)
      (Writes [.validator, .reputation, .rewards] s) := by
  unfold closeRound
  iterate 4 refine .bind fun _ _ => ?_
  refine .bind fun t ht => .bind fun u hu => ?_
  have hw := ((((Writes.refl s).setValidator (by decide) _).setValidator (by decide) _).setValidator
    (by decide) _).trans ((Reputation.setDimensionScore_writes t ht).mono
      (by decide : _ ⊆ [Pallet.validator, .reputation, .rewards]))
  exact .ok ((hw.trans ((accrueAll_writes _ u hu).mono (by decide))).deposit _ (.head _))

theorem disputeRound_writes :
    Yields (disputeRound s o provider round dimension) (Writes [.validator, .reputation] s) := by
  unfold disputeRound
  iterate 5 refine .bind fun _ _ => ?_
  refine .bind fun t ht => ?_
  have hw := (Reputation.setDimensionScore_writes t ht).mono
    (by decide : _ ⊆ [Pallet.validator, .reputation])
  exact .ok ((hw.setValidator (by decide) _).deposit _ (.head _))

theorem slashSubmitter_writes :
    Writes [.validator, .balances] s (slashSubmitter key s validator) := by
  unfold slashSubmitter
  split
  · exact .refl s
  have hl (ledger : Ledger) : Writes [.validator, .balances] s { s with ledger } :=
    (Writes.refl s).setLedger (by decide) _
  dsimp only
  split
  · exact hl _
  refine .deposit ?_ _ (.head _)
  split
  · exact ((hl _).setValidator (by decide) _).setValidator (by decide) _
  · exact (hl _).setValidator (by decide) _

theorem slashAll_writes (validators : List A) :
    Writes [.validator, .balances] s (validators.foldl (slashSubmitter key) s) := by
  induction validators generalizing s with
  | nil => exact .refl s
  | cons validator rest ih => exact slashSubmitter_writes.trans ih

theorem resolveDispute_writes :
    Yields (resolveDispute s o provider round dimension uphold)
      (Writes [.validator, .reputation, .balances] s) := by
  unfold resolveDispute
  iterate 3 refine .bind fun _ _ => ?_
  split
  · have hw : Writes [.validator, .reputation, .balances] s
        (slashRoundSubmitters s ⟨provider, round, dimension⟩) :=
      (slashAll_writes _).mono (by decide)
    exact .ok ((hw.setValidator (by decide) _).deposit _ (.head _))
  · refine .bind fun t ht => ?_
    have hw := (Reputation.setDimensionScore_writes t ht).mono
      (by decide : _ ⊆ [Pallet.validator, .reputation, .balances])
    exact .ok ((hw.setValidator (by decide) _).deposit _ (.head _))

end NetworkValidator

namespace ProviderSlashing

theorem recordBreach_writes :
    Yields (recordBreach s o provider dimension firstRound) (Writes [.slashing] s) := by
  unfold recordBreach
  repeat refine .bind fun _ _ => ?_
  exact .ok (((Writes.refl s).setSlashing (by decide) _).deposit _ (.head _))

theorem appealSlash_writes :
    Yields (appealSlash s o provider dimension) (Writes [.slashing] s) := by
  unfold appealSlash
  repeat refine .bind fun _ _ => ?_
  exact .ok (((Writes.refl s).setSlashing (by decide) _).deposit _ (.head _))

theorem doExecuteSlash_writes :
    Writes [.slashing, .registry, .balances] s (doExecuteSlash s provider dimension firstRound) :=
  (ProviderRegistry.slashBond_writes.mono (by decide)).deposit _ (.head _)

theorem resolveSlashAppeal_writes :
    Yields (resolveSlashAppeal s o provider dimension uphold)
      (Writes [.slashing, .registry, .balances] s) := by
  unfold resolveSlashAppeal
  repeat refine .bind fun _ _ => ?_
  refine .ok (.deposit (.setSlashing ?_ (by decide) _) _ (.head _))
  split
  · exact (Writes.refl s).setSlashing (by decide) _
  · exact ((Writes.refl s).setSlashing (by decide) _).trans doExecuteSlash_writes

theorem executeSlash_writes :
    Yields (executeSlash s o provider dimension) (Writes [.slashing, .registry, .balances] s) := by
  unfold executeSlash
  repeat refine .bind fun _ _ => ?_
  exact .ok ((((Writes.refl s).setSlashing (by decide) _).trans doExecuteSlash_writes).setSlashing
    (by decide) _)

end ProviderSlashing

namespace Escrow

theorem collectFee_writes :
    Yields (collectFee s leaseId payer feeAmount treasuryAccount)
      (Writes [.escrow, .balances] s) := by
  unfold collectFee
  split
  · exact .ok (.refl s)
  · repeat refine .bind fun _ _ => ?_
    exact .ok (((Writes.refl s).setLedger (by decide) _).deposit _ (.head _))

theorem payOut_writes :
    Yields (payOut s leaseId escrow amount) (fun r => Writes [.escrow, .balances] s r.1) := by
  unfold payOut
  refine .bind fun (_, _, _) _ => .bind fun ledger _ => .bind fun t ht => ?_
  exact .ok (((Writes.refl s).setLedger (by decide) ledger).trans (collectFee_writes t ht))

theorem fundEscrow_writes :
    Yields (fundEscrow s o leaseId provider maxCharge price meteringSchemaVersion)
      (Writes [.escrow, .balances] s) := by
  unfold fundEscrow
  repeat refine .bind fun _ _ => ?_
  exact .ok (((((Writes.refl s).setLedger (by decide) _).setEscrow (by decide) _).setEscrow
    (by decide) _).deposit _ (.head _))

theorem completeAndPayout_writes :
    Yields (completeAndPayout s o leaseId evidence) (Writes [.escrow, .balances] s) := by
  unfold completeAndPayout
  iterate 7 refine .bind fun _ _ => ?_
  refine .bind fun (t, _) ht => .bind fun ledger _ => ?_
  have hw := (payOut_writes _ ht).setLedger (by decide) ledger
  exact .ok (((hw.setEscrow (by decide) _).setEscrow (by decide) _).deposit _ (.head _))

theorem refundEscrow_writes :
    Yields (refundEscrow s o leaseId) (Writes [.escrow, .balances] s) := by
  unfold refundEscrow
  repeat refine .bind fun _ _ => ?_
  exact .ok (((((Writes.refl s).setLedger (by decide) _).setEscrow (by decide) _).setEscrow
    (by decide) _).deposit _ (.head _))

theorem disputeEscrow_writes :
    Yields (disputeEscrow s o leaseId reasonHash) (Writes [.escrow] s) := by
  unfold disputeEscrow
  repeat refine .bind fun _ _ => ?_
  exact .ok (((Writes.refl s).setEscrow (by decide) _).deposit _ (.head _))

theorem payFromShortReserve_writes :
    Yields (payFromShortReserve s escrow incremental)
      (fun r => Writes [.escrow, .balances] s r.1) := by
  unfold payFromShortReserve
  refine .bind fun (ledger, unmoved) _ => ?_
  dsimp only
  split
  · exact .ok ((Writes.refl s).setLedger (by decide) _)
  · exact .ok ((Writes.refl s).setLedger (by decide) _)

theorem payProvider_writes :
    Yields (payProvider s leaseId escrow amount) (fun r => Writes [.escrow, .balances] s r.1) := by
  unfold payProvider
  iterate 2 refine .bind fun _ _ => ?_
  dsimp only
  split
  · exact .ok (.refl s)
  split
  · exact payFromShortReserve_writes
  · refine .bind fun (t, _) ht => .bind fun ledger _ => ?_
    exact .ok ((payOut_writes _ ht).setLedger (by decide) ledger)

theorem refundPayer_writes :
    Yields (refundPayer s escrow) (fun r => Writes [.escrow, .balances, .reputation] s r.1) := by
  unfold refundPayer
  refine .bind fun t ht => ?_
  have hw := (Reputation.setDimensionScore_writes t ht).mono
    (by decide : _ ⊆ [Pallet.escrow, .balances, .reputation])
  split
  · exact .ok hw
  · exact .ok (hw.setLedger (by decide) _)

theorem settleOutcome_writes (outcome : DisputeOutcome) :
    Yields (settleOutcome s leaseId escrow outcome)
      (fun r => Writes [.escrow, .balances, .reputation] s r.1) := by
  cases outcome with
  | payProvider amount => exact fun r hr => (payProvider_writes r hr).mono (by decide)
  | refundPayer => exact refundPayer_writes

theorem decrementPayerOpenCount_writes : Writes [.escrow] s (decrementPayerOpenCount s payer) :=
  (Writes.refl s).setEscrow (by decide) _

theorem recordResolution_writes :
    Writes [.escrow] s (recordResolution s leaseId escrow outcome r) := by
  have hd : Writes [.escrow] s
      (if escrow.settledAt.isNone then decrementPayerOpenCount s escrow.payer else s) := by
    split
    · exact decrementPayerOpenCount_writes
    · exact .refl s
  unfold recordResolution
  dsimp only
  split
  · exact (hd.setEscrow (by decide) _).deposit _ (.head _)
  · exact ((hd.setEscrow (by decide) _).deposit _ (.head _)).deposit _ (.head _)

theorem resolveDispute_writes :
    Yields (resolveDispute s o leaseId outcome)
      (Writes [.escrow, .balances, .reputation] s) := by
  unfold resolveDispute
  iterate 4 refine .bind fun _ _ => ?_
  refine .bind fun (t, r) ht => ?_
  exact .ok ((settleOutcome_writes outcome _ ht).trans (recordResolution_writes.mono (by decide)))

theorem setPaused_writes : Yields (setPaused s o paused) (Writes [.escrow] s) := by
  unfold setPaused
  refine .bind fun _ _ => ?_
  exact .ok (((Writes.refl s).setEscrow (by decide) _).deposit _ (.head _))

theorem setFeeBasisPoints_writes : Yields (setFeeBasisPoints s o newBps) (Writes [.escrow] s) := by
  unfold setFeeBasisPoints
  repeat refine .bind fun _ _ => ?_
  exact .ok (((Writes.refl s).setEscrow (by decide) _).deposit _ (.head _))

theorem setTreasuryAccount_writes :
    Yields (setTreasuryAccount s o newAccount) (Writes [.escrow] s) := by
  unfold setTreasuryAccount
  refine .bind fun _ _ => ?_
  exact .ok (((Writes.refl s).setEscrow (by decide) _).deposit _ (.head _))

theorem recordStream_writes :
    Writes [.escrow] s (recordStream s leaseId escrow evidence periodCharge) := by
  have hd (p : Prop) [Decidable p] (a : A) :
      Writes [.escrow] s (if p then decrementPayerOpenCount s a else s) := by
    split
    · exact decrementPayerOpenCount_writes
    · exact .refl s
  unfold recordStream
  dsimp only
  split
  · exact (((hd _ _).setEscrow (by decide) _).deposit _ (.head _)).deposit _ (.head _)
  · exact ((hd _ _).setEscrow (by decide) _).deposit _ (.head _)

theorem streamSettle_writes :
    Yields (streamSettle s o leaseId evidence) (Writes [.escrow, .balances] s) := by
  unfold streamSettle
  iterate 6 refine .bind fun _ _ => ?_
  refine .bind fun (t, _) ht => ?_
  exact .ok ((payOut_writes _ ht).trans (recordStream_writes.mono (by decide)))

end Escrow

def Call.writes : Call A → List Pallet
  | .createLease .. | .updateLeaseState .. => [.lease]
  | .submitScore .. | .updateVector .. | .recordAvailability .. => [.reputation]
  | .calculateReward .. | .claimReward => [.rewards]
  | .registerProvider .. | .registerProviderFor .. | .setStatus .. | .requestUnbond =>
    [.registry]
  | .bondStake .. | .withdrawBond => [.registry, .balances]
  | .requestExit | .suspend .. | .reinstate .. | .submitEvidence .. => [.validator]
  | .registerValidator .. | .withdrawStake => [.validator, .balances]
  | .closeRound .. => [.validator, .reputation, .rewards]
  | .disputeRound .. => [.validator, .reputation]
  | .resolveRoundDispute .. => [.validator, .reputation, .balances]
  | .recordBreach .. | .appealSlash .. => [.slashing]
  | .resolveSlashAppeal .. | .executeSlash .. => [.slashing, .registry, .balances]
  | .fundEscrow .. | .completeAndPayout .. | .refundEscrow .. | .streamSettle .. =>
    [.escrow, .balances]
  | .disputeEscrow .. | .setPaused .. | .setFeeBasisPoints .. | .setTreasuryAccount .. =>
    [.escrow]
  | .resolveEscrowDispute .. => [.escrow, .balances, .reputation]

/-- A call writes to the pallets it names only. -/
theorem dispatch_writes (c : Call A) : Yields (dispatch s o c) (Writes c.writes s) := by
  cases c with
  | createLease => exact OpenInfraLease.createLease_writes
  | updateLeaseState => exact OpenInfraLease.updateLeaseState_writes
  | submitScore => exact Reputation.submitScore_writes
  | updateVector => exact Reputation.updateVector_writes
  | recordAvailability => exact Reputation.recordAvailability_writes
  | calculateReward => exact Rewards.calculateReward_writes
  | claimReward => exact Rewards.claimReward_writes
  | registerProvider => exact .bind fun _ _ => ProviderRegistry.doRegisterProvider_writes
  | registerProviderFor => exact .bind fun _ _ => ProviderRegistry.doRegisterProvider_writes
  | setStatus => exact ProviderRegistry.setStatus_writes
  | bondStake => exact ProviderRegistry.bondStake_writes
  | requestUnbond => exact ProviderRegistry.requestUnbond_writes
  | withdrawBond => exact ProviderRegistry.withdrawUnbonded_writes
  | registerValidator => exact NetworkValidator.registerValidator_writes
  | requestExit => exact NetworkValidator.requestExit_writes
  | withdrawStake => exact NetworkValidator.withdrawUnbonded_writes
  | suspend => exact NetworkValidator.suspend_writes
  | reinstate => exact NetworkValidator.reinstate_writes
  | submitEvidence => exact NetworkValidator.submitEvidence_writes
  | closeRound => exact NetworkValidator.closeRound_writes
  | disputeRound => exact NetworkValidator.disputeRound_writes
  | resolveRoundDispute => exact NetworkValidator.resolveDispute_writes
  | recordBreach => exact ProviderSlashing.recordBreach_writes
  | appealSlash => exact ProviderSlashing.appealSlash_writes
  | resolveSlashAppeal => exact ProviderSlashing.resolveSlashAppeal_writes
  | executeSlash => exact ProviderSlashing.executeSlash_writes
  | fundEscrow => exact Escrow.fundEscrow_writes
  | completeAndPayout => exact Escrow.completeAndPayout_writes
  | refundEscrow => exact Escrow.refundEscrow_writes
  | disputeEscrow => exact Escrow.disputeEscrow_writes
  | resolveEscrowDispute => exact Escrow.resolveDispute_writes
  | setPaused => exact Escrow.setPaused_writes
  | setFeeBasisPoints => exact Escrow.setFeeBasisPoints_writes
  | setTreasuryAccount => exact Escrow.setTreasuryAccount_writes
  | streamSettle => exact Escrow.streamSettle_writes

def Action.writes : Action A → List Pallet
  | .call _ c => c.writes
  | .blocks _ => []

theorem step_same (s : Chain E) (a : Action A) (p : Pallet) (h : p ∉ a.writes) :
    SameAt s (step s a) p := by
  cases a with
  | call o c => exact ((dispatch_writes c).commit (.refl s)).same p h
  | blocks count => cases p <;> rfl

theorem step_blockNumber (h : s.blockNumber ≤ maxValue 32) (a : Action A) :
    s.blockNumber ≤ (step s a).blockNumber ∧ (step s a).blockNumber ≤ maxValue 32 := by
  cases a with
  | call o c =>
    have hnow : (step s (.call o c)).blockNumber = s.blockNumber :=
      ((dispatch_writes c).commit (.refl s)).blockNumber
    rw [hnow]
    exact ⟨le_rfl, h⟩
  | blocks count => exact ⟨le_saturatingAdd h, saturatingAdd_le _ _ _⟩

theorem run_same (acts : List (Action A)) (p : Pallet) (h : ∀ a ∈ acts, p ∉ a.writes)
    (s : Chain E) : SameAt s (run step s acts) p := by
  induction acts generalizing s with
  | nil => cases p <;> rfl
  | cons a acts ih =>
    exact (step_same s a p (h a (.head _))).trans (ih (fun b hb => h b (.tail _ hb)) _)

end OpenInfra
