import Mathlib.Data.List.Lex
import OpenInfra.Frame.Bytes
import OpenInfra.Frame.LittleEndian
import OpenInfra.Frame.Slices
import OpenInfra.Rounds.Committee

namespace OpenInfra.Bridge
open Frame List

abbrev PublicKey := ByteVec 32

def uint64 (bytes : List UInt8) : UInt64 :=
  bytes.foldr (fun byte acc => acc <<< 8 ||| byte.toUInt64) 0

def rem? (a n : Nat) : Option Nat := if n = 0 then none else some (a % n)

def committeeSeed (sum256 : List UInt8 → PublicKey) (provider : PublicKey) (round : UInt64)
    (nth : UInt32) : PublicKey :=
  let input := provider.toList
  let input := input ++ littleEndian 8 round.toNat
  let input := input ++ littleEndian 4 nth.toNat
  sum256 input

def collectCandidates (provider : PublicKey) (activeValidators : Slice) :
    Nat → Nat → Arrays PublicKey → Slice → Option (Slice × Arrays PublicKey)
  | 0, _, h, candidates => some (candidates, h)
  | remaining + 1, i, h, candidates => do
    let candidate ← activeValidators.get? h i
    if candidate ≠ provider then
      let (candidates, h) := candidates.append h [candidate]
      collectCandidates provider activeValidators remaining (i + 1) h candidates
    else collectCandidates provider activeValidators remaining (i + 1) h candidates

def drawMembers (sum256 : List UInt8 → PublicKey) (provider : PublicKey) (round : UInt64) :
    Nat → Nat → Arrays PublicKey → Slice → Slice → Option (Slice × Arrays PublicKey)
  | 0, _, h, _, committee => some (committee, h)
  | wanted + 1, nth, h, candidates, committee => do
    let seed := committeeSeed sum256 provider round (UInt32.ofNat nth)
    let index ← rem? (uint64 (seed.toList.take 8)).toNat candidates.length
    let member ← candidates.get? h index
    let (committee, h) := committee.append h [member]
    let head ← candidates.sub? 0 index
    let tail ← candidates.sub? (index + 1) candidates.length
    let (candidates, h) := head.append h (tail.toList h)
    drawMembers sum256 provider round wanted (nth + 1) h candidates committee

/-- `Committee`, over the memory that holds `activeValidators`; `none` is a panic. -/
def committee (sum256 : List UInt8 → PublicKey) (h : Arrays PublicKey) (provider : PublicKey)
    (round : UInt64) (activeValidators : Slice) (targetCommitteeSize : UInt32) :
    Option (Slice × Arrays PublicKey) := do
  let zero := List.Vector.replicate 32 0
  let (candidates, h) := Slice.make h zero 0 activeValidators.length
  let (candidates, h) ← collectCandidates provider activeValidators activeValidators.length 0 h
    candidates
  let wanted := targetCommitteeSize.toNat
  let wanted := if candidates.length < wanted then candidates.length else wanted
  let (committee, h) := Slice.make h zero 0 wanted
  drawMembers sum256 provider round wanted 0 h candidates committee

def isAssigned (sum256 : List UInt8 → PublicKey) (h : Arrays PublicKey)
    (validator provider : PublicKey) (round : UInt64) (activeValidators : Slice)
    (targetCommitteeSize : UInt32) : Option (Bool × Arrays PublicKey) := do
  let (members, h) ← committee sum256 h provider round activeValidators targetCommitteeSize
  some ((members.toList h).any (· = validator), h)

theorem littleEndian_eq (width n : Nat) : littleEndian width n = toLeBytes width n := by
  induction width with
  | zero => rfl
  | succ width ih =>
    rw [littleEndian, bigEndian_succ, reverse_cons, ← littleEndian, ih, toLeBytes, toLeBytes,
      range_succ, map_append]
    congr 2
    rw [← UInt8.toNat_inj, UInt8.toNat_ofNat', UInt8.toNat_ofNat', Nat.mod_mod]

theorem uint64_toNat (bytes : List UInt8) : (uint64 bytes).toNat = fromLeBytes bytes % 2 ^ 64 := by
  induction bytes with
  | nil => rfl
  | cons byte bytes ih =>
    have hbyte : byte.toNat < 256 := byte.toNat_lt
    have hstep : uint64 (byte :: bytes) = uint64 bytes <<< 8 ||| byte.toUInt64 := rfl
    have hshift : (uint64 bytes <<< 8).toNat = (fromLeBytes bytes % 2 ^ 56) <<< 8 := by
      rw [UInt64.toNat_shiftLeft, ih, Nat.shiftLeft_eq, Nat.shiftLeft_eq]
      change fromLeBytes bytes % 2 ^ 64 * 2 ^ 8 % 2 ^ 64 = _
      omega
    rw [hstep, UInt64.toNat_or, hshift, UInt8.toNat_toUInt64,
      ← Nat.shiftLeft_add_eq_or_of_lt (i := 8) hbyte, Nat.shiftLeft_eq, fromLeBytes_cons]
    omega

theorem uint64_spec (bytes : List UInt8) (h : bytes.length ≤ 8) :
    (uint64 bytes).toNat = fromLeBytes bytes ∧ fromLeBytes bytes < 256 ^ bytes.length := by
  have hlt := fromLeBytes_lt bytes
  have hpow : 256 ^ bytes.length ≤ 256 ^ 8 := Nat.pow_le_pow_right (by decide) h
  exact ⟨(uint64_toNat bytes).trans (Nat.mod_eq_of_lt (hlt.trans_le hpow)), hlt⟩

theorem collectCandidates_spec (provider : PublicKey) {h₀ h : Arrays PublicKey}
    {active candidates : Slice} {set picked : List PublicKey} (remaining i : Nat)
    (hactive : active.Holds h set) (hcandidates : candidates.Holds h picked)
    (hne : active.array ≠ candidates.array) (hold : h₀ <+: h)
    (hnew : h₀.length ≤ candidates.array) (hlen : i + remaining = set.length)
    (hroom : picked.length + remaining ≤ candidates.capacity) :
    ∃ candidates' h', collectCandidates provider active remaining i h candidates =
        some (candidates', h') ∧
      candidates'.Holds h' (picked ++ (set.drop i).filter (· ≠ provider)) ∧
      candidates'.array = candidates.array ∧ h₀ <+: h' ∧ h'.length = h.length := by
  induction remaining generalizing i h candidates picked with
  | zero =>
    refine ⟨candidates, h, rfl, ?_, rfl, hold, rfl⟩
    rw [Nat.add_zero] at hlen
    rw [drop_of_length_le hlen.ge, filter_nil, append_nil]
    exact hcandidates
  | succ remaining ih =>
    have hi : i < set.length := by omega
    have hread : active.get? h i = some set[i] := by
      rw [hactive.get?, getElem?_eq_getElem hi]
    rw [collectCandidates, hread, Option.bind_eq_bind, Option.bind_some,
      drop_eq_getElem_cons hi]
    by_cases hp : set[i] = provider
    · rw [if_neg (not_not.2 hp), filter_cons_of_neg (by simpa using hp)]
      exact ih (i + 1) hactive hcandidates hne hold hnew (by omega) (by omega)
    · rw [if_pos hp, filter_cons_of_pos (by simpa using hp)]
      have hfits : candidates.length + [set[i]].length ≤ candidates.capacity := by
        rw [hcandidates.length, length_singleton]
        omega
      have hroom' : (picked ++ [set[i]]).length + remaining ≤ candidates.capacity := by
        rw [length_append, length_singleton]
        omega
      rw [Slice.append_eq hfits]
      obtain ⟨candidates', h', hrun, hholds, harray, hold', hlength⟩ := ih (i + 1)
        (hactive.written_of_ne hne _) (hcandidates.written hfits) hne
        (Slice.written_frame hold hnew _) hnew (by omega) hroom'
      rw [append_assoc] at hholds
      exact ⟨candidates', h', hrun, hholds, harray, hold', hlength.trans (Slice.written_length ..)⟩

theorem committeeSeed_eq {E : OpenInfra.Env PublicKey Ledger}
    (hencode : ∀ a, E.host.encodeAccount a = a.toList) (provider : PublicKey) (round : UInt64)
    {nth : Nat} (hnth : nth < 2 ^ 32) :
    (uint64 ((committeeSeed E.host.blake2_256 provider round (UInt32.ofNat nth)).toList.take
      8)).toNat = NetworkValidator.committeeSeed E provider round.toNat nth := by
  have htake (seed : PublicKey) : (seed.toList.take 8).length ≤ 8 := length_take_le _ _
  rw [(uint64_spec _ (htake _)).1, committeeSeed, NetworkValidator.committeeSeed, hencode,
    littleEndian_eq, littleEndian_eq, UInt32.toNat_ofNat_of_lt' hnth]

theorem drawMembers_spec {seed : Nat → Nat} {sum256 : List UInt8 → PublicKey} {provider : PublicKey}
    {round : UInt64} {h₀ h : Arrays PublicKey} {candidates committee : Slice}
    {left drawn : List PublicKey} (wanted nth : Nat)
    (hseed : ∀ k < nth + wanted, (uint64 ((committeeSeed sum256 provider round
      (UInt32.ofNat k)).toList.take 8)).toNat = seed k)
    (hcandidates : candidates.Holds h left) (hcommittee : committee.Holds h drawn)
    (hne : candidates.array ≠ committee.array) (hold : h₀ <+: h)
    (hnew : h₀.length ≤ candidates.array) (hnew' : h₀.length ≤ committee.array)
    (hwanted : wanted ≤ left.length) (hroom : drawn.length + wanted ≤ committee.capacity) :
    ∃ committee' h', drawMembers sum256 provider round wanted nth h candidates committee =
        some (committee', h') ∧
      committee'.Holds h' (drawn ++ NetworkValidator.draw seed wanted nth left) ∧ h₀ <+: h' := by
  induction wanted generalizing nth h candidates committee left drawn with
  | zero =>
    refine ⟨committee, h, rfl, ?_, hold⟩
    rw [NetworkValidator.draw, append_nil]
    exact hcommittee
  | succ wanted ih =>
    have hpos : 0 < left.length := Nat.lt_of_lt_of_le (Nat.succ_pos _) hwanted
    have hindex : seed nth % left.length < left.length := Nat.mod_lt _ hpos
    have hread : candidates.get? h (seed nth % left.length) =
        some left[seed nth % left.length] := by
      rw [hcandidates.get?, getElem?_eq_getElem hindex]
    rw [drawMembers, NetworkValidator.draw]
    dsimp only
    rw [hseed nth (by omega), hcandidates.length, rem?, if_neg hpos.ne',
      getElem?_eq_getElem hindex]
    simp only [Option.bind_eq_bind, Option.bind_some, hread]
    generalize seed nth % left.length = index at hindex ⊢
    have hfits : committee.length + [left[index]].length ≤ committee.capacity := by
      rw [hcommittee.length, length_singleton]
      omega
    have hcandidates' := hcandidates.written_of_ne hne [left[index]]
    obtain ⟨head, hhead, hheadArray, hheadCapacity, hheadHolds⟩ :=
      hcandidates'.sub? (Nat.zero_le index) hindex.le
    obtain ⟨tail, htail, _, _, htailHolds⟩ := hcandidates'.sub? hindex (Nat.le_refl left.length)
    rw [hhead, htail, Slice.append_eq hfits]
    simp only [Option.bind_some]
    rw [htailHolds.toList]
    rw [drop_zero] at hheadHolds
    rw [take_length] at htailHolds ⊢
    have hfits' : head.length + (left.drop (index + 1)).length ≤ head.capacity := by
      have hcapacity := hcandidates.length_le
      rw [hcandidates.length] at hcapacity
      rw [hheadHolds.length, hheadCapacity, length_take, length_drop]
      omega
    have herase : left.take index ++ left.drop (index + 1) = left.eraseIdx index :=
      (eraseIdx_eq_take_drop_succ ..).symm
    rw [Slice.append_eq hfits']
    have hnext := hheadHolds.written hfits'
    rw [herase] at hnext
    have hne' : committee.array ≠ head.array := hheadArray ▸ hne.symm
    have hdrawn := (hcommittee.written hfits).written_of_ne hne' (left.drop (index + 1))
    have hframe := Slice.written_frame (Slice.written_frame hold hnew' [left[index]])
      (hheadArray ▸ hnew) (left.drop (index + 1))
    have hleft : wanted ≤ (left.eraseIdx index).length := by
      rw [length_eraseIdx_of_lt hindex]
      omega
    have hroom' : (drawn ++ [left[index]]).length + wanted ≤ committee.capacity := by
      rw [length_append, length_singleton]
      omega
    obtain ⟨committee', h', hrun, hholds, hold'⟩ := ih (nth + 1) (fun k hk => hseed k (by omega))
      hnext hdrawn hne'.symm hframe (hheadArray ▸ hnew) hnew' hleft hroom'
    rw [append_assoc] at hholds
    exact ⟨committee', h', hrun, hholds, hold'⟩

section
variable {Ledger : Type} [LinearOrder PublicKey] {E : OpenInfra.Env PublicKey Ledger}

theorem committee_spec (hencode : ∀ a, E.host.encodeAccount a = a.toList) (s : Chain E)
    (provider : PublicKey) (round : UInt64) {target : UInt32}
    (htarget : E.config.validatorTargetCommitteeSize = target.toNat) {h : Arrays PublicKey}
    {active : Slice} (hactive : active.Holds h s.validator.activeValidatorSet.toList) :
    ∃ members h', committee E.host.blake2_256 h provider round active target =
        some (members, h') ∧
      members.toList h' = NetworkValidator.committee s provider round.toNat ∧ h <+: h' := by
  obtain ⟨_, _, hget, _⟩ := id hactive
  have hin : active.array < h.length := (List.getElem?_eq_some_iff.1 hget).1
  have hlen := hactive.length
  obtain ⟨candidates, h₁, hcollect, hcandidates, harray, hold, hlength⟩ :=
    collectCandidates_spec provider active.length 0
      (hactive.make (List.Vector.replicate 32 0) 0 active.length)
      (Slice.make_holds h (List.Vector.replicate 32 0) active.length) hin.ne
      (prefix_append h _) (Nat.le_refl h.length) (by omega) (Nat.zero_add _).le
  have hfirst : candidates.array = h.length := harray
  have hsecond : h₁.length = h.length + 1 := hlength.trans length_append
  have hpicked : candidates.Holds h₁ (NetworkValidator.candidates s provider) := by
    convert hcandidates using 1
    rw [nil_append, drop_zero]
    exact filter_congr fun x _ => by congr
  have hwanted : (if candidates.length < target.toNat then candidates.length else target.toNat) =
      min E.config.validatorTargetCommitteeSize
        (NetworkValidator.candidates s provider).length := by
    rw [htarget, hpicked.length, Nat.min_comm, Nat.min_def]
    split <;> split <;> omega
  have hsmall : min E.config.validatorTargetCommitteeSize
      (NetworkValidator.candidates s provider).length < 2 ^ 32 := by
    rw [htarget]
    exact (Nat.min_le_left _ _).trans_lt target.toNat_lt
  obtain ⟨members, h', hdraw, hmembers, hold'⟩ := drawMembers_spec
    (min E.config.validatorTargetCommitteeSize (NetworkValidator.candidates s provider).length) 0
    (fun k hk => committeeSeed_eq hencode provider round (by omega))
    (hpicked.make (List.Vector.replicate 32 0) 0 _)
    (Slice.make_holds h₁ (List.Vector.replicate 32 0) _)
    (Nat.ne_of_lt (by omega : candidates.array < h₁.length))
    (hold.trans (prefix_append h₁ _)) hfirst.ge hold.length_le (Nat.min_le_right _ _)
    (Nat.zero_add _).le
  refine ⟨members, h', ?_, hmembers.toList, hold'⟩
  unfold committee
  dsimp only
  rw [hcollect]
  simp only [Option.bind_eq_bind, Option.bind_some]
  rw [hwanted]
  exact hdraw

/-- The control plane foretells the committee of every round. -/
theorem committee_predicted (hencode : ∀ a, E.host.encodeAccount a = a.toList) (s : Chain E)
    (hset : s.validator.activeValidatorSet.toList.Nodup) (provider : PublicKey) (round : UInt64)
    (target : UInt32) (htarget : E.config.validatorTargetCommitteeSize = target.toNat)
    (h : Arrays PublicKey) (active : Slice)
    (hactive : active.Holds h s.validator.activeValidatorSet.toList) :
    let expected := NetworkValidator.committee s provider round.toNat
    (∃ members h', committee E.host.blake2_256 h provider round active target =
        some (members, h') ∧ members.toList h' = expected ∧ h <+: h') ∧
      (∀ validator, ∃ h', isAssigned E.host.blake2_256 h validator provider round active target =
        some (NetworkValidator.isAssigned s provider round.toNat validator, h') ∧ h <+: h') ∧
      expected.Nodup ∧ provider ∉ expected ∧
      expected.length = min target.toNat (NetworkValidator.candidates s provider).length := by
  intro expected
  obtain ⟨members, h', hrun, hmembers, hold⟩ :=
    committee_spec hencode s provider round htarget hactive
  refine ⟨⟨members, h', hrun, hmembers, hold⟩, fun validator => ⟨h', ?_, hold⟩,
    NetworkValidator.committee_nodup hset provider round.toNat,
    NetworkValidator.provider_notMem_committee s provider round.toNat, ?_⟩
  · have hany : (members.toList h').any (· = validator) =
        NetworkValidator.isAssigned s provider round.toNat validator := by
      rw [hmembers, NetworkValidator.isAssigned, Bool.eq_iff_iff, any_eq_true]
      simp only [decide_eq_true_eq, exists_eq_right]
    rw [isAssigned, hrun, Option.bind_eq_bind, Option.bind_some]
    exact congrArg (fun b => some (b, h')) hany
  · rw [← htarget]
    exact NetworkValidator.committee_length s provider round.toNat

end

@[reducible] def accountOrder : LinearOrder PublicKey :=
  LinearOrder.lift' (fun account => account.toList.map UInt8.toNat) fun _ _ h =>
    Subtype.val_injective (List.map_injective_iff.2 (fun _ _ => UInt8.toNat_inj.1) h)

def accountEnv : OpenInfra.Env PublicKey (Balances PublicKey) :=
  OpenInfra.Env.runtime
    { (Host.constant : Host PublicKey) with encodeAccount := List.Vector.toList }

def account (n : UInt8) : PublicKey := List.Vector.replicate 32 n

def threeActive : Chain accountEnv :=
  NetworkValidator.putActiveSet (genesis accountEnv ⟨fun _ => 0, fun _ => 0⟩)
    ⟨[account 1, account 2, account 3], by decide⟩

theorem committee_predicted_three :
    (∃ members h', committee accountEnv.host.blake2_256 [[account 1, account 2, account 3]]
        (account 2) 7 ⟨0, 0, 3, 3⟩ 5 = some (members, h') ∧
      members.toList h' = @NetworkValidator.committee _ _ accountOrder _ threeActive (account 2) 7 ∧
      [[account 1, account 2, account 3]] <+: h') ∧
    (@NetworkValidator.committee _ _ accountOrder _ threeActive (account 2) 7).length = 2 :=
  have h := @committee_predicted _ accountOrder accountEnv (fun _ => rfl) threeActive (by decide)
    (account 2) 7 5 rfl [[account 1, account 2, account 3]] ⟨0, 0, 3, 3⟩
    ⟨[], [], rfl, rfl, rfl, rfl⟩
  ⟨h.1, by decide +kernel⟩

end OpenInfra.Bridge
