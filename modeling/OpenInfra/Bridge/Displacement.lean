import OpenInfra.Bridge.Pool

namespace OpenInfra.Bridge
open Frame List

inductive Phase where
  | unread
  | ready (nonce : Nat) (acknowledged : List Bytes)

def Phase.submitted (x : Extrinsic) : Phase → Phase
  | .ready nonce acknowledged => .ready (nonce + 1) (x.call :: acknowledged)
  | .unread => .unread

def Phase.next (phase : Phase) : (q : Query) → Reply q → Phase
  | .finalizedAccountNonce, .ok nonce => .ready nonce []
  | .submitExtrinsic x, .ok true => phase.submitted x
  | _, _ => phase

def Evidences (key : EvidenceKey) (call : Bytes) : Prop :=
  ∃ scoreBps sampleCount payloadHash,
    call = encodeSubmitEvidenceCall key scoreBps sampleCount payloadHash

def Allowed (phase : Phase) : Query → Prop
  | .submitExtrinsic x => ∃ acknowledged, phase = .ready x.nonce acknowledged
  | .markDone key call =>
    Evidences key call ∧ ∃ nonce acknowledged, phase = .ready nonce acknowledged ∧
      call ∈ acknowledged
  | _ => True

@[reducible] def conduct : Protocol Query Reply where
  State := Phase
  allows := Allowed
  expects _ _ := True
  next := Phase.next

abbrev Keeps (phase : Phase) (p : Handler) : Prop := p.Follows conduct (fun _ _ => True) phase

namespace Keeps

theorem ret (a : Except Failure Unit) : Keeps phase (pure a) := trivial

theorem ask {q : Query} {k : Reply q → Handler} (h : Allowed phase q)
    (hk : ∀ r, Keeps (phase.next q r) (k r)) : Keeps phase (Program.ask q >>= k) :=
  ⟨h, fun r _ => hk r⟩

theorem orFail {k : A → Handler} (hk : ∀ a, Keeps phase (k a)) (x : Except Failure A) :
    Keeps phase (orFail x k) := by
  cases x with
  | error e => exact Keeps.ret _
  | ok a => exact hk a

theorem checkVersion (hk : Keeps phase k) : Keeps phase (checkVersion k) := by
  refine Keeps.ask trivial ?_
  intro r
  apply Keeps.orFail
  intro version
  split
  · exact Keeps.ret _
  · exact hk

theorem withGenesis (hk : Keeps phase k) : Keeps phase (withGenesis k) :=
  Keeps.ask trivial fun r => Keeps.orFail (fun _ => hk) r

theorem withLease (hk : ∀ found, Keeps phase (k found)) : Keeps phase (withLease leaseID k) :=
  Keeps.ask trivial fun r => Keeps.orFail hk r

theorem withProvider (hk : ∀ status, Keeps phase (k status)) :
    Keeps phase (withProvider provider k) := Keeps.ask trivial fun r => Keeps.orFail hk r

theorem withNonce (hk : ∀ nonce, Keeps (.ready nonce []) (k nonce)) :
    Keeps phase (withNonce k) := by
  refine Keeps.ask trivial ?_
  intro r
  cases r with
  | error e => exact Keeps.ret _
  | ok nonce => exact hk nonce

theorem submitAttempts (hk : Keeps (.ready (nonce + 1) (call :: acknowledged)) k)
    (remaining tip : Nat) :
    Keeps (.ready nonce acknowledged) (submitAttempts call nonce remaining tip k) := by
  induction remaining generalizing tip with
  | zero =>
    unfold Bridge.submitAttempts
    refine Keeps.ask ⟨acknowledged, rfl⟩ ?_
    rintro (e | _ | _)
    · dsimp only
      split <;> exact Keeps.ret _
    · exact Keeps.ret _
    · exact hk
  | succ remaining ih =>
    unfold Bridge.submitAttempts
    refine Keeps.ask ⟨acknowledged, rfl⟩ ?_
    rintro (e | _ | _)
    · dsimp only
      split
      · exact Keeps.ret _
      · exact ih _
    · exact Keeps.ret _
    · exact hk

theorem submitSigned (hk : Keeps (.ready (nonce + 1) (call :: acknowledged)) k) :
    Keeps (.ready nonce acknowledged) (submitSigned call nonce k) := Keeps.submitAttempts hk _ _

theorem submitSteps (hk : ∀ nonce acknowledged, Keeps (.ready nonce acknowledged) k)
    (calls : List Bytes) : Keeps (.ready nonce acknowledged) (submitSteps k calls nonce) := by
  induction calls generalizing nonce acknowledged with
  | nil => exact hk nonce acknowledged
  | cons call calls ih => exact Keeps.submitSigned ih

theorem submitDirect (hk : ∀ nonce, Keeps (.ready (nonce + 1) [call]) k) :
    Keeps phase (submitDirect call k) :=
  .checkVersion (.withGenesis (.withNonce fun nonce => .submitSigned (hk nonce)))

theorem submitSudo (call : Bytes) : Keeps phase (submitSudo call) :=
  .checkVersion (.withGenesis (.withNonce fun _ => .submitSigned (.ret _)))

theorem waitForFinalizedStatus (hk : Keeps phase k) (polls : Nat) :
    Keeps phase (waitForFinalizedStatus provider expected k polls) := by
  induction polls with
  | zero => exact Keeps.ret _
  | succ polls ih =>
    apply Keeps.withProvider
    intro status
    split
    · exact hk
    · exact Keeps.ask trivial fun _ => ih

theorem ensureActive (provider : Account) (polls : Nat) :
    Keeps phase (ensureActive provider polls) := by
  apply Keeps.checkVersion
  apply Keeps.withGenesis
  apply Keeps.withProvider
  intro status
  dsimp only
  split
  · exact Keeps.ret _
  split
  · exact Keeps.ret _
  apply Keeps.withNonce
  intro nonce
  apply Keeps.submitSteps
  intro nonce acknowledged
  exact Keeps.waitForFinalizedStatus (Keeps.withProvider fun _ => Keeps.ret _) polls

theorem waitForLeaseActive (polls : Nat) :
    Keeps phase (waitForLeaseActive account leaseID provider resourceHash duration polls) := by
  induction polls with
  | zero => exact Keeps.ret _
  | succ polls ih =>
    apply Keeps.withLease
    rintro (_ | lease)
    · exact Keeps.ask trivial fun _ => ih
    · refine Keeps.orFail (fun _ => ?_) _
      split
      · exact Keeps.ret _
      · exact Keeps.ask trivial fun _ => ih

theorem ensureLeaseActive (leaseID : LeaseId) (provider resourceHash : Account)
    (duration polls : Nat) :
    Keeps phase (ensureLeaseActive account leaseID provider resourceHash duration polls) := by
  refine Keeps.orFail (fun _ => ?_) _
  apply Keeps.checkVersion
  apply Keeps.withGenesis
  apply Keeps.withLease
  rintro (_ | lease)
  · exact Keeps.withNonce fun _ => Keeps.submitSteps (fun _ _ => Keeps.waitForLeaseActive polls) _
  · refine Keeps.orFail (fun _ => ?_) _
    split
    · exact Keeps.withNonce fun _ =>
        Keeps.submitSteps (fun _ _ => Keeps.waitForLeaseActive polls) _
    · exact Keeps.ret _

theorem waitForLeaseCompleted (polls : Nat) :
    Keeps phase (waitForLeaseCompleted leaseID expected polls) := by
  induction polls with
  | zero => exact Keeps.ret _
  | succ polls ih =>
    apply Keeps.withLease
    rintro (_ | lease)
    · exact Keeps.ret _
    · dsimp only
      split
      · exact Keeps.ret _
      split
      · exact Keeps.ret _
      split
      · exact Keeps.ret _
      · exact Keeps.ask trivial fun _ => ih

theorem ensureLeaseCompleted (leaseID : LeaseId) (polls : Nat) :
    Keeps phase (ensureLeaseCompleted account leaseID polls) := by
  apply Keeps.checkVersion
  refine Keeps.withLease fun _ => Keeps.orFail (fun _ => ?_) _
  split
  · exact Keeps.withGenesis
      (Keeps.withNonce fun _ => Keeps.submitSigned (Keeps.waitForLeaseCompleted polls))
  · exact Keeps.ret _

theorem challengeAndSubmit (key : EvidenceKey) : Keeps phase (challengeAndSubmit key) := by
  refine Keeps.ask trivial ?_
  intro result
  cases result with
  | scored scoreBps sampleCount payloadHash =>
    apply Keeps.submitDirect
    intro nonce
    refine Keeps.ask ⟨⟨_, _, _, rfl⟩, _, _, rfl, mem_cons_self⟩ fun _ => Keeps.ret _
  | backingOff => exact Keeps.ret _
  | failed => exact Keeps.ret _
  | unscored => exact Keeps.ret _

theorem handler (account : Account) (c : Call) : Keeps phase (handler account c) := by
  cases c with
  | submitDirect call => exact Keeps.submitDirect fun _ => Keeps.ret _
  | submitSudo call => exact Keeps.submitSudo call
  | ensureActive provider polls => exact Keeps.ensureActive provider polls
  | ensureLeaseActive leaseID provider resourceHash duration polls =>
    exact Keeps.ensureLeaseActive leaseID provider resourceHash duration polls
  | ensureLeaseCompleted leaseID polls => exact Keeps.ensureLeaseCompleted leaseID polls
  | challengeAndSubmit key => exact Keeps.challengeAndSubmit key

end Keeps

def Extrinsic.SameCall (x y : Extrinsic) : Prop := y.nonce = x.nonce ∧ y.call = x.call

namespace World

/-- What is acknowledged is pending, and later included. -/
structure Undisplaced (w : World) : Prop where
  pending : ∀ x ∈ w.acknowledged, w.bestNonce ≤ x.nonce → ∃ y ∈ w.pool, x.SameCall y
  included : ∀ x ∈ w.acknowledged, x.nonce < w.bestNonce → ∃ y ∈ w.included, x.SameCall y
  evidenced : ∀ d ∈ w.done, ∃ x ∈ w.acknowledged, Evidences d.1 x.call

structure Held (w : World) : Prop where
  single : w.pool.Pairwise fun x y => x.nonce ≠ y.nonce
  pending : ∀ x ∈ w.acknowledged, w.bestNonce ≤ x.nonce → x ∈ w.pool
  included : ∀ x ∈ w.acknowledged, x.nonce < w.bestNonce → x ∈ w.included
  evidenced : ∀ d ∈ w.done, ∃ x ∈ w.acknowledged, Evidences d.1 x.call

variable {w w' : World}

theorem Held.undisplaced (h : w.Held) : w.Undisplaced where
  pending x hx hn := ⟨x, h.pending x hx hn, rfl, rfl⟩
  included x hx hn := ⟨x, h.included x hx hn, rfl, rfl⟩
  evidenced := h.evidenced

def Known (w : World) : Phase → Prop
  | .unread => True
  | .ready nonce calls =>
    (∀ x ∈ w.acknowledged, w.bestNonce ≤ x.nonce → x.nonce < nonce) ∧
      ∀ call ∈ calls, ∃ x ∈ w.acknowledged, x.call = call

def Settled (w : World) : Prop := ∀ x ∈ w.acknowledged, x ∉ w.pool

instance (w : World) : Decidable w.Settled := inferInstanceAs (Decidable (∀ x ∈ _, _))

theorem mem_drop : x ∈ w.drop nonce ↔ x ∈ w.pool ∧ x.nonce ≠ nonce := by
  unfold drop
  rw [mem_filter, decide_eq_true_iff]

theorem pending_eq_some (h : w.pending nonce = some x) : x ∈ w.pool ∧ x.nonce = nonce := by
  unfold pending at h
  have hx := find?_some h
  exact ⟨mem_of_find?_eq_some h, of_decide_eq_true hx⟩

theorem submit_eq_ok (h : w.submit x = .ok ((), w')) :
    w.bestNonce ≤ x.nonce ∧ w' = { w with pool := w.drop x.nonce ++ [x] } := by
  unfold submit at h
  split at h
  · cases h
  rename_i hn
  refine ⟨Nat.le_of_not_lt hn, ?_⟩
  split at h
  · cases h
    rfl
  · split at h
    · cases h
      rfl
    · cases h

theorem Held.submit (h : w.Held) (hknown : w.Known (.ready x.nonce calls))
    (hx : w.submit x = .ok ((), w')) : w'.Held ∧ w'.Known (.ready x.nonce calls) := by
  obtain ⟨hn, rfl⟩ := submit_eq_ok hx
  refine ⟨⟨?_, ?_, h.included, h.evidenced⟩, hknown⟩
  · refine pairwise_append.2 ⟨h.single.filter _, pairwise_singleton _ _, ?_⟩
    intro y hy z hz
    rw [mem_singleton.1 hz]
    exact (mem_drop.1 hy).2
  · intro y hy hbest
    refine mem_append_left _ (mem_drop.2 ⟨h.pending y hy hbest, ?_⟩)
    exact Nat.ne_of_lt (hknown.1 y hy hbest)

theorem Held.acknowledge (h : w.Held) (hknown : w.Known (.ready x.nonce calls))
    (hx : w.submit x = .ok ((), w')) :
    Held { w' with acknowledged := w'.acknowledged ++ [x] } ∧
      Known { w' with acknowledged := w'.acknowledged ++ [x] }
        (.ready (x.nonce + 1) (x.call :: calls)) := by
  obtain ⟨hheld, hknown'⟩ := h.submit hknown hx
  obtain ⟨hn, rfl⟩ := submit_eq_ok hx
  refine ⟨⟨hheld.single, ?_, ?_, ?_⟩, ?_, ?_⟩
  · intro y hy hbest
    obtain hy | hy := mem_append.1 hy
    · exact hheld.pending y hy hbest
    · exact mem_append_right _ hy
  · intro y hy hbest
    obtain hy | hy := mem_append.1 hy
    · exact hheld.included y hy hbest
    · rw [mem_singleton.1 hy] at hbest
      exact absurd hbest (Nat.not_lt_of_le hn)
  · intro d hd
    obtain ⟨y, hy, he⟩ := hheld.evidenced d hd
    exact ⟨y, mem_append_left _ hy, he⟩
  · intro y hy hbest
    obtain hy | hy := mem_append.1 hy
    · exact Nat.lt_succ_of_lt (hknown'.1 y hy hbest)
    · rw [mem_singleton.1 hy]
      exact Nat.lt_succ_self _
  · intro call hcall
    obtain rfl | hcall := mem_cons.1 hcall
    · exact ⟨x, mem_append_right _ (mem_singleton_self x), rfl⟩
    · obtain ⟨y, hy, he⟩ := hknown'.2 call hcall
      exact ⟨y, mem_append_left _ hy, he⟩

theorem Held.includeNext (h : w.Held) : w.includeNext.Held := by
  unfold World.includeNext
  split
  · exact h
  rename_i x hx
  obtain ⟨hmem, hnonce⟩ := pending_eq_some hx
  refine ⟨h.single.filter _, ?_, ?_, h.evidenced⟩
  · intro y hy hbest
    exact mem_drop.2 ⟨h.pending y hy (Nat.le_of_succ_le hbest), Nat.ne_of_gt hbest⟩
  · intro y hy hbest
    obtain hlt | heq := Nat.lt_succ_iff_lt_or_eq.1 hbest
    · exact mem_append_left _ (h.included y hy hlt)
    · have hpool := h.pending y hy (Nat.le_of_eq heq.symm)
      have hyx : y = x := by
        by_contra hne
        have : Std.Symm fun x y : Extrinsic => x.nonce ≠ y.nonce := ⟨fun _ _ => Ne.symm⟩
        exact h.single.forall hpool hmem hne (heq.trans hnonce.symm)
      exact mem_append_right _ (mem_singleton.2 hyx)

theorem Known.includeNext (h : w.Known phase) : w.includeNext.Known phase := by
  cases phase with
  | unread => trivial
  | ready nonce calls =>
    unfold World.includeNext
    split
    · exact h
    · exact ⟨fun x hx hbest => h.1 x hx (Nat.le_of_succ_le hbest), h.2⟩

theorem Held.finalize (h : w.Held) (nonce : Nat) : (w.finalize nonce).Held := by
  unfold World.finalize
  split
  · exact ⟨h.single, h.pending, h.included, h.evidenced⟩
  · exact h

theorem Known.finalize (h : w.Known phase) (nonce : Nat) : (w.finalize nonce).Known phase := by
  unfold World.finalize
  split
  · cases phase <;> exact h
  · exact h

theorem Held.settled (h : w.Held) (hsettled : w.Settled) (nonce : Nat) :
    w.Known (.ready nonce []) :=
  ⟨fun x hx hbest => absurd (h.pending x hx hbest) (hsettled x hx), forall_mem_nil _⟩

theorem Held.answer (h : w.Held) (hknown : w.Known phase) (q : Query)
    (hq : Allowed phase q) (hread : q = .finalizedAccountNonce → w.Settled) (env : Env) :
    (World.answer env w () q).2.Held ∧
      (World.answer env w () q).2.Known (phase.next q (World.answer env w () q).1) := by
  cases q with
  | runtimeVersion => exact ⟨h, hknown⟩
  | genesisHash => exact ⟨h, hknown⟩
  | finalizedLease leaseID => exact ⟨h, hknown⟩
  | finalizedProvider provider => exact ⟨h, hknown⟩
  | wait => exact ⟨h, hknown⟩
  | challenge key => exact ⟨h, hknown⟩
  | finalizedAccountNonce =>
    obtain ⟨link, _⟩ := env
    cases link with
    | up => exact ⟨h, h.settled (hread rfl) _⟩
    | down => exact ⟨h, hknown⟩
    | lost => exact ⟨h, hknown⟩
  | submitExtrinsic x =>
    obtain ⟨calls, rfl⟩ := hq
    obtain ⟨link, expectedHash, _⟩ := env
    cases hx : w.submit x with
    | error e =>
      dsimp only [World.answer]
      rw [hx]
      cases link <;> exact ⟨h, hknown⟩
    | ok r =>
      obtain ⟨⟨⟩, w'⟩ := r
      dsimp only [World.answer]
      rw [hx]
      cases link with
      | up =>
        cases expectedHash with
        | true => exact h.acknowledge hknown hx
        | false => exact h.submit hknown hx
      | down => exact ⟨h, hknown⟩
      | lost => exact h.submit hknown hx
  | markDone key call =>
    obtain ⟨hevidences, nonce, calls, rfl, hcall⟩ := hq
    obtain ⟨x, hx, hxcall⟩ := hknown.2 call hcall
    refine ⟨⟨h.single, h.pending, h.included, ?_⟩, hknown⟩
    intro d hd
    obtain hd | hd := mem_append.1 hd
    · exact h.evidenced d hd
    · rw [mem_singleton.1 hd]
      exact ⟨x, hx, hxcall ▸ hevidences⟩

end World

@[reducible] def rules : Rules World Unit Query Reply (Except Failure Unit) where
  protocol _ := conduct
  known w _ phase := w.Known phase
  ends _ _ _ := True

structure State.Orderly (s : State) : Prop where
  held : s.world.Held
  alone : s.tasks.length ≤ 1
  obey : s.Obey rules

/-- Nonces are read only once nothing acknowledged is pending. -/
def ReadsSettled (s : State) : Event → Prop
  | .proceed _ => s.request 0 = some ((), .finalizedAccountNonce) → s.world.Settled
  | _ => True

instance : (s : State) → (e : Event) → Decidable (ReadsSettled s e)
  | _, .proceed _ => inferInstanceAs (Decidable (_ → _))
  | _, .call _ => .isTrue trivial
  | _, .cancel => .isTrue trivial
  | _, .includeNext => .isTrue trivial
  | _, .finalize _ => .isTrue trivial

theorem State.Orderly.init (nonce : Nat) : (State.init nonce).Orderly where
  held := ⟨.nil, forall_mem_nil _, forall_mem_nil _, forall_mem_nil _⟩
  alone := Nat.zero_le 1
  obey := forall_mem_nil _

theorem State.Orderly.proceed (h : s.Orderly) (env : Env)
    (hread : ReadsSettled s (.proceed env)) : State.Orderly (s.proceed (World.answer env) 0) := by
  have hanswer : ∀ q phase, s.request 0 = some ((), q) → s.world.Known phase →
      Allowed phase q → _ := fun q phase hr hknown hq =>
    h.held.answer hknown q hq (fun he => hread (he ▸ hr)) env
  refine ⟨?_, ?_, ?_⟩
  · apply Workers.proceed_world h.held
    intro key q hr
    obtain ⟨phase, hknown, hq⟩ := h.obey.allows hr
    exact (hanswer q phase hr hknown hq).1
  · have hkeys := congrArg length (Workers.keys_proceed (World.answer env) s 0)
    unfold Workers.keys at hkeys
    rw [length_map, length_map] at hkeys
    exact hkeys ▸ h.alone
  · refine h.obey.proceed ?_ ?_
    · intro key q phase hr hknown hq
      exact ⟨trivial, (hanswer q phase hr hknown hq).2⟩
    · intro key q hr t ht
      have hlen : (s.tasks.eraseIdx 0).length = 0 := by
        rw [length_eraseIdx]
        split <;> have := h.alone <;> omega
      rw [eq_nil_of_length_eq_zero hlen] at ht
      exact absurd ht not_mem_nil

theorem State.Orderly.step (h : s.Orderly) (e : Event) (hread : ReadsSettled s e) :
    State.Orderly (step account s e) := by
  cases e with
  | call c =>
    unfold Bridge.step
    dsimp only
    split
    · refine ⟨h.held, Nat.le_refl 1, ?_⟩
      intro t ht
      rw [mem_singleton.1 ht]
      exact ⟨Phase.unread, trivial, Keeps.handler account c⟩
    · exact h
  | proceed env => exact h.proceed env hread
  | cancel =>
    refine ⟨h.held, ?_, h.obey.cancel 0⟩
    exact (length_eraseIdx_le _ _).trans h.alone
  | includeNext =>
    exact ⟨h.held.includeNext, h.alone, h.obey.world fun _ _ hknown => hknown.includeNext⟩
  | finalize nonce =>
    exact ⟨h.held.finalize nonce, h.alone, h.obey.world fun _ _ hknown => hknown.finalize nonce⟩

/-- Nothing is displaced if nonces are read settled. -/
theorem acknowledged_undisplaced (account : Account) (nonce : Nat) (events : List Event)
    (h : Along (step account) ReadsSettled (.init nonce) events) :
    Throughout (step account) (fun s => s.world.Undisplaced) (.init nonce) events :=
  (h.throughout (.init nonce) fun _ e hs he => State.Orderly.step hs e he).mono
    fun _ hs => hs.held.undisplaced

def sampleEnv : Env where
  link := .up
  expectedHash := true
  version := .ok ⟨supportedSpecVersion, supportedTransactionVersion⟩
  genesis := .ok ()
  lease := .ok none
  provider := .ok none
  challenge := .scored 10000 1 0

def sampleKey (provider : Account) : EvidenceKey := ⟨provider, 7, .compute⟩

def evidenceFor (provider : Account) (requests : Nat) : List Event :=
  .call (.challengeAndSubmit (sampleKey provider)) :: List.replicate requests (.proceed sampleEnv)

def evidenceCall (provider : Account) : Bytes :=
  encodeSubmitEvidenceCall (sampleKey provider) 10000 1 0

theorem acknowledged_undisplaced_two_keys :
    Along (step 0) ReadsSettled (.init 0)
        (evidenceFor 1 6 ++ [.includeNext, .finalize 1] ++ evidenceFor 2 6) ∧
      Throughout (step 0) (fun s => s.world.Undisplaced) (.init 0)
        (evidenceFor 1 6 ++ [.includeNext, .finalize 1] ++ evidenceFor 2 6) := by
  have h : Along (step 0) ReadsSettled (.init 0)
      (evidenceFor 1 6 ++ [.includeNext, .finalize 1] ++ evidenceFor 2 6) := by decide +kernel
  exact ⟨h, acknowledged_undisplaced 0 0 _ h⟩

theorem evidence_displaced :
    (run (step 0) (.init 0) (evidenceFor 1 6 ++ evidenceFor 2 7)).world =
        { pool := [⟨0, 1, evidenceCall 2⟩]
          included := []
          bestNonce := 0
          finalizedNonce := 0
          acknowledged := [⟨0, 0, evidenceCall 1⟩, ⟨0, 1, evidenceCall 2⟩]
          done := [(sampleKey 1, evidenceCall 1), (sampleKey 2, evidenceCall 2)] } ∧
      ¬ Throughout (step 0) (fun s => s.world.Undisplaced) (.init 0)
        (evidenceFor 1 6 ++ evidenceFor 2 7) := by
  have hworld : (run (step 0) (.init 0) (evidenceFor 1 6 ++ evidenceFor 2 7)).world =
      ⟨[⟨0, 1, evidenceCall 2⟩], [], 0, 0, [⟨0, 0, evidenceCall 1⟩, ⟨0, 1, evidenceCall 2⟩],
        [(sampleKey 1, evidenceCall 1), (sampleKey 2, evidenceCall 2)]⟩ := by decide +kernel
  refine ⟨hworld, ?_⟩
  intro h
  have hlast : World.Undisplaced _ := h.last
  rw [hworld] at hlast
  obtain ⟨y, hy, -, hcall⟩ := hlast.pending _ mem_cons_self (Nat.le_refl 0)
  rw [mem_singleton.1 hy] at hcall
  exact absurd hcall (by decide +kernel)

end OpenInfra.Bridge
