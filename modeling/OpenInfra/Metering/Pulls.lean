import OpenInfra.Metering.Service

namespace OpenInfra.Metering
open Frame List Function
open ControlPlane (Time)

structure MeteringPeriod where
  sequence : UInt64
  periodStart : UInt64
  periodEnd : UInt64

/-- The leases of an Agent, its last sequences, and its key. -/
structure Meter where
  leaseId : String → Option String
  cursor : String → Option (UInt64 × UInt64)
  sign : Bytes → Bytes

def nextStart (now : UInt64) (overflow : E) :
    Option (UInt64 × UInt64) → Except E (UInt64 × UInt64)
  | some (sequence, periodStart) => do
    let nextSequence ← okOr (Frame.checkedAdd 64 sequence.toNat 1) overflow
    .ok (.ofNat nextSequence, periodStart)
  | none => .ok (1, now)

/-- The window after a cursor. -/
def nextPeriod (now maxPeriodSeconds : UInt64) (overflow : E) (cursor : Option (UInt64 × UInt64)) :
    Except E MeteringPeriod := do
  let (nextSequence, periodStart) ← nextStart now overflow cursor
  let bound := UInt64.ofNat (saturatingAdd 64 periodStart.toNat maxPeriodSeconds.toNat)
  .ok ⟨nextSequence, periodStart, max (min now bound) periodStart⟩

namespace Meter

def maxChallengeId : Nat := 128

def maxPeriodSeconds : UInt64 := 3600

def schemaVersion : UInt32 := 1

def advance (m : Meter) (workloadId : String) (sequence periodEnd : UInt64) : Meter :=
  { m with cursor := Function.update m.cursor workloadId (some (sequence, periodEnd)) }

def nextMeteringPeriod (m : Meter) (workloadId : String) (now maxPeriodSeconds : UInt64) :
    Except String (MeteringPeriod × Meter) := do
  let period ← nextPeriod now maxPeriodSeconds
    ("metering sequence overflow for workload " ++ workloadId) (m.cursor workloadId)
  .ok (period, m.advance workloadId period.sequence period.periodEnd)

def clock (t : Time) : UInt64 := .ofNat (t / 1000)

def usageSummary (workloadId leaseId : String) (period : MeteringPeriod) : MeteringSummary where
  workloadId := workloadId
  leaseId := leaseId
  sequence := period.sequence
  periodStart := period.periodStart
  periodEnd := period.periodEnd
  meteringSchemaVersion := schemaVersion
  cpuCoreSeconds := 0
  ramMbSeconds := 0
  storageGbSeconds := 0
  networkEgressMb := 0
  networkIngressMb := 0
  gpuSeconds := 0

def getUsageSummary (m : Meter) (workloadId : String) (t : Time) :
    Except String (GetUsageSummaryResponse × Meter) := do
  ensure (workloadId ≠ "" ∧ workloadId.utf8ByteSize ≤ maxChallengeId)
    "workload_id is empty or too long"
  let leaseId ← okOr (m.leaseId workloadId) ("workload " ++ workloadId ++ " was not found")
  let (period, m) ← m.nextMeteringPeriod workloadId (clock t) maxPeriodSeconds
  let summary := usageSummary workloadId leaseId period
  .ok (⟨some summary, m.sign (signedBytes summary)⟩, m)

structure Fresh (m : Meter) (workloadId : String) : Prop where
  named : workloadId ≠ "" ∧ workloadId.utf8ByteSize ≤ maxChallengeId
  leased : ∃ leaseId ∈ m.leaseId workloadId, leaseId ≠ ""
  unread : m.cursor workloadId = none

end Meter

def Query.looksUpKey : Query → Bool
  | .providerPublicKey _ => true
  | _ => false

def passesChecks (submission : Handler) (now : Time) : Bool :=
  match submission with
  | .call .now k => (k now).next.any Query.looksUpKey
  | _ => false

def billed (lib : Library) (providerID workloadId : String) :
    Meter → List Time → Option (List MeteringSummary)
  | _, [] => some []
  | m, t :: ts => do
    let (response, m) ← (m.getUsageSummary workloadId t).toOption
    let summary ← response.summary
    if passesChecks (recordUsage lib providerID (some response)) t then
      return summary :: (← billed lib providerID workloadId m ts)
    else none

def Tiles (start stop : UInt64) : List MeteringSummary → Prop
  | [] => start = stop
  | summary :: rest => summary.periodStart = start ∧ Tiles summary.periodEnd stop rest

/-- Pulls are no further apart than an hour for each, and five minutes. -/
def Paced (pulls : List Nat) : Prop :=
  ∀ i j, i < j → ∀ s ∈ pulls[i]?, ∀ t ∈ pulls[j]?,
    t ≤ 1000 * (s / 1000 + 3600 * (j - i)) + 300000

def CaughtUp (pulls : List Nat) : Prop :=
  ∀ i, ∀ s ∈ pulls[i]?, ∀ t ∈ pulls.getLast?, t / 1000 ≤ s / 1000 + 3600 * (pulls.length - 1 - i)

def reach (start : Nat) (pulls : List Nat) : Nat :=
  pulls.foldl (fun start t => min (t / 1000) (start + 3600)) start

def Kept (start : Nat) : List Nat → Prop
  | [] => True
  | t :: ts => t ≤ 1000 * (start + 3600) + 300000 ∧ Kept (min (t / 1000) (start + 3600)) ts

section
variable {start : Nat} {ts : List Nat}

theorem kept_min (a b : Nat) (ts : List Nat) : Kept (min a b) ts ↔ Kept a ts ∧ Kept b ts := by
  induction ts generalizing a b with
  | nil => exact ⟨fun _ => ⟨trivial, trivial⟩, fun _ => trivial⟩
  | cons t ts ih =>
    unfold Kept
    rw [ih, ih, ih, ← Nat.add_min_add_right, ih]
    constructor
    · rintro ⟨hle, ht, ha, hb⟩
      exact ⟨⟨by omega, ht, ha⟩, by omega, ht, hb⟩
    · rintro ⟨⟨hle, ht, ha⟩, hle', _, hb⟩
      exact ⟨by omega, ht, ha, hb⟩

def PacedFrom (start : Nat) (pulls : List Nat) : Prop :=
  ∀ j, ∀ t ∈ pulls[j]?, t ≤ 1000 * (start + 3600 * (j + 1)) + 300000

theorem pacedFrom_cons : PacedFrom start (t :: ts) ↔
    t ≤ 1000 * (start + 3600) + 300000 ∧ PacedFrom (start + 3600) ts := by
  constructor
  · intro h
    refine ⟨by have := h 0 t rfl; omega, fun j t' ht' => ?_⟩
    have hlater := h (j + 1) t' ht'
    linarith
  · rintro ⟨hfirst, hrest⟩ j t' ht'
    cases j with
    | zero =>
      cases ht'
      omega
    | succ j =>
      have hlater := hrest j t' ht'
      linarith

theorem paced_cons : Paced (t :: ts) ↔ PacedFrom (t / 1000) ts ∧ Paced ts := by
  constructor
  · intro h
    refine ⟨fun j t' ht' => ?_, fun i j hij s hs t' ht' => ?_⟩
    · have := h 0 (j + 1) (Nat.succ_pos j) t rfl t' ht'
      omega
    · have := h (i + 1) (j + 1) (Nat.succ_lt_succ hij) s hs t' ht'
      omega
  · rintro ⟨hfirst, hrest⟩ i j hij s hs t' ht'
    obtain ⟨j, rfl⟩ : ∃ k, j = k + 1 := ⟨j - 1, by omega⟩
    cases i with
    | zero =>
      cases hs
      have := hfirst j t' ht'
      omega
    | succ i =>
      have := hrest i j (Nat.lt_of_succ_lt_succ hij) s hs t' ht'
      omega

theorem kept_iff (start : Nat) (ts : List Nat) : Kept start ts ↔ PacedFrom start ts ∧ Paced ts := by
  induction ts generalizing start with
  | nil => exact ⟨fun _ => ⟨nofun, nofun⟩, fun _ => trivial⟩
  | cons t ts ih =>
    rw [Kept, kept_min, ih, ih, pacedFrom_cons, paced_cons]
    constructor
    · rintro ⟨hfirst, ⟨hfrom, hrest⟩, hlater, _⟩
      exact ⟨⟨hfirst, hlater⟩, hfrom, hrest⟩
    · rintro ⟨⟨hfirst, hlater⟩, hfrom, hrest⟩
      exact ⟨hfirst, ⟨hfrom, hrest⟩, hlater, hrest⟩

theorem reach_cons (start : Nat) (t : Nat) (ts : List Nat) :
    reach start (t :: ts) = reach (min (t / 1000) (start + 3600)) ts := rfl

theorem le_reach (start : Nat) (ts : List Nat) : x ≤ reach start ts ↔
    x ≤ start + 3600 * ts.length ∧
      ∀ i, ∀ s ∈ ts[i]?, x ≤ s / 1000 + 3600 * (ts.length - 1 - i) := by
  induction ts generalizing start with
  | nil => exact ⟨fun h => ⟨h, nofun⟩, fun h => h.1⟩
  | cons t ts ih =>
    rw [reach_cons, ih, length_cons]
    constructor
    · rintro ⟨hfirst, hrest⟩
      refine ⟨by omega, fun i s hs => ?_⟩
      cases i with
      | zero =>
        cases hs
        omega
      | succ i =>
        have := hrest i s hs
        omega
    · rintro ⟨hfirst, hrest⟩
      have := hrest 0 t rfl
      refine ⟨by omega, fun i s hs => ?_⟩
      have := hrest (i + 1) s hs
      omega

theorem reach_le (hne : last ∈ ts.getLast?) : reach start ts ≤ last / 1000 := by
  obtain ⟨init, rfl⟩ := getLast?_eq_some_iff.1 hne
  unfold reach
  rw [foldl_append]
  exact Nat.min_le_left _ _

theorem caughtUp_iff (hlast : last ∈ (t :: ts).getLast?) :
    CaughtUp (t :: ts) ↔ reach (t / 1000) ts = last / 1000 := by
  have hle : reach (t / 1000) ts ≤ last / 1000 := by
    cases ts with
    | nil =>
      cases hlast
      exact le_rfl
    | cons t' ts => exact reach_le (by rwa [getLast?_cons_cons] at hlast)
  have hcaught : CaughtUp (t :: ts) ↔ last / 1000 ≤ reach (t / 1000) ts := by
    rw [le_reach]
    constructor
    · intro h
      refine ⟨h 0 t rfl last hlast, fun i s hs => ?_⟩
      have := h (i + 1) s hs last hlast
      rw [length_cons] at this
      omega
    · rintro ⟨hfirst, hrest⟩ i s hs last' hlast'
      cases Option.some.inj (hlast.symm.trans hlast')
      rw [length_cons]
      cases i with
      | zero =>
        cases hs
        exact hfirst
      | succ i =>
        have := hrest i s hs
        omega
  rw [hcaught]
  exact ⟨fun h => le_antisymm hle h, fun h => h.ge⟩

end

section
variable {m : Meter} {w leaseId : String} {sequence start now : Nat}

theorem min_bound (hstart : start ≤ now) (hnow : now < 2 ^ 63) :
    max (min (UInt64.ofNat now) (UInt64.ofNat (saturatingAdd 64 (UInt64.ofNat start).toNat 3600)))
      (UInt64.ofNat start) = UInt64.ofNat (min now (start + 3600)) := by
  have hto {n : Nat} (hn : n < 2 ^ 64) : (UInt64.ofNat n).toNat = n := UInt64.toNat_ofNat_of_lt' hn
  rw [hto (by omega), saturatingAdd_of_le (by unfold maxValue; omega)]
  have hle {a b : Nat} (ha : a < 2 ^ 64) (hb : b < 2 ^ 64) :
      UInt64.ofNat a ≤ UInt64.ofNat b ↔ a ≤ b := by
    rw [UInt64.le_iff_toNat_le, hto ha, hto hb]
  have hmin : min (UInt64.ofNat now) (.ofNat (start + 3600)) = .ofNat (min now (start + 3600)) := by
    change (if UInt64.ofNat now ≤ .ofNat (start + 3600) then _ else _) = _
    split
    · rw [Nat.min_eq_left ((hle (by omega) (by omega)).1 ‹_›)]
    · rename_i hlt
      rw [hle (by omega) (by omega)] at hlt
      rw [Nat.min_eq_right (by omega)]
  rw [hmin]
  change (if UInt64.ofNat (min now (start + 3600)) ≤ .ofNat start then _ else _) = _
  split
  · rename_i hend
    rw [hle (by omega) (by omega)] at hend
    exact congrArg UInt64.ofNat (by omega)
  · rfl

structure Meter.At (m : Meter) (w : String) (sequence start : Nat) : Prop where
  named : w ≠ "" ∧ w.utf8ByteSize ≤ maxChallengeId
  leased : ∃ leaseId ∈ m.leaseId w, leaseId ≠ ""
  cursor : m.cursor w = some (.ofNat sequence, .ofNat start)

namespace Meter

theorem nextMeteringPeriod_eq (h : m.cursor w = some (.ofNat sequence, .ofNat start))
    (hs : sequence + 1 < 2 ^ 64) (hstart : start ≤ now) (hnow : now < 2 ^ 63) :
    m.nextMeteringPeriod w (.ofNat now) maxPeriodSeconds =
      .ok (⟨.ofNat (sequence + 1), .ofNat start, .ofNat (min now (start + 3600))⟩,
        m.advance w (.ofNat (sequence + 1)) (.ofNat (min now (start + 3600)))) := by
  have hadd : Frame.checkedAdd 64 (UInt64.ofNat sequence).toNat 1 = some (sequence + 1) := by
    rw [UInt64.toNat_ofNat_of_lt' (Nat.lt_of_succ_lt hs), checkedAdd_eq_some]
    exact ⟨by unfold maxValue; omega, rfl⟩
  unfold nextMeteringPeriod nextPeriod nextStart
  rw [h]
  dsimp only
  rw [hadd, ← min_bound hstart hnow]
  rfl

theorem nextMeteringPeriod_overflow (h : m.cursor w = some (.ofNat (2 ^ 64 - 1), periodStart))
    (now : UInt64) : ∃ e, m.nextMeteringPeriod w now maxPeriodSeconds = .error e := by
  unfold nextMeteringPeriod
  rw [h]
  exact ⟨_, rfl⟩

theorem At.advance (h : m.At w sequence start) (sequence' start' : Nat) :
    (m.advance w (.ofNat sequence') (.ofNat start')).At w sequence' start' :=
  ⟨h.named, h.leased, update_self ..⟩

theorem getUsageSummary_eq (hnamed : w ≠ "" ∧ w.utf8ByteSize ≤ maxChallengeId)
    (hlease : m.leaseId w = some leaseId) (t : Time) :
    m.getUsageSummary w t = m.nextMeteringPeriod w (clock t) maxPeriodSeconds >>= fun x =>
      .ok (⟨some (usageSummary w leaseId x.1), x.2.sign (signedBytes (usageSummary w leaseId x.1))⟩,
        x.2) := by
  have hensure : ensure (w ≠ "" ∧ w.utf8ByteSize ≤ maxChallengeId)
      "workload_id is empty or too long" = .ok () := if_pos hnamed
  unfold getUsageSummary
  rw [hensure, hlease]
  rfl

end Meter

theorem passesChecks_iff (lib : Library) (providerID : String)
    (signature : Bytes) (t : Time) (hbounds : validateBounds summary = .ok ())
    (hversion : knownSchemaVersions.contains summary.meteringSchemaVersion) :
    passesChecks (recordUsage lib providerID (some ⟨some summary, signature⟩)) t ↔
      ¬ (1000 * unix summary.periodEnd < (t : Int) - maxMeteringClockSkew ∨
        (t : Int) + maxMeteringClockSkew < 1000 * unix summary.periodEnd) := by
  change passesChecks (recordSummary lib providerID summary signature) t ↔ _
  unfold recordSummary
  rw [hbounds]
  dsimp only
  rw [if_neg (not_not.2 hversion)]
  by_cases hskew : 1000 * unix summary.periodEnd < (t : Int) - maxMeteringClockSkew ∨
      (t : Int) + maxMeteringClockSkew < 1000 * unix summary.periodEnd
  · refine iff_of_false (fun hpass => ?_) (not_not.2 hskew)
    change (Program.next (if _ then _ else _)).any Query.looksUpKey = true at hpass
    rw [if_pos hskew] at hpass
    cases hpass
  · refine iff_of_true ?_ hskew
    change (Program.next (if _ then _ else _)).any Query.looksUpKey = true
    rw [if_neg hskew]
    rfl

theorem unix_ofNat (hn : n < 2 ^ 63) : unix (.ofNat n) = n := by
  unfold unix
  rw [UInt64.toInt64_ofNat', Int64.toInt_ofNat_of_lt hn]

theorem validateBounds_usageSummary (hw : w ≠ "") (hlease : leaseId ≠ "")
    (hs : sequence + 1 < 2 ^ 64) (hstart : start ≤ stop) (hlength : stop ≤ start + 3600)
    (hstop : stop < 2 ^ 64) :
    validateBounds (Meter.usageSummary w leaseId
      ⟨.ofNat (sequence + 1), .ofNat start, .ofNat stop⟩) = .ok () := by
  have hto {n : Nat} (hn : n < 2 ^ 64) : (UInt64.ofNat n).toNat = n := UInt64.toNat_ofNat_of_lt' hn
  have hsequence : UInt64.ofNat (sequence + 1) ≠ 0 := by
    intro h
    have := congrArg UInt64.toNat h
    rw [hto hs] at this
    cases this
  have horder : UInt64.ofNat start ≤ UInt64.ofNat stop := by
    rw [UInt64.le_iff_toNat_le, hto (by omega), hto hstop]
    exact hstart
  have hshort : UInt64.ofNat stop - UInt64.ofNat start ≤ maxMeteringPeriodSeconds := by
    rw [UInt64.le_iff_toNat_le, UInt64.toNat_sub_of_le _ _ horder, hto hstop,
      hto (hstart.trans_lt hstop)]
    change stop - start ≤ 3600
    omega
  unfold validateBounds Meter.usageSummary
  simp only [ensure, hw, hlease, hsequence, horder, hshort, ne_eq, not_false_eq_true, if_true]
  rfl

variable {t : Nat} {ts : List Nat}

theorem passesChecks_usageSummary (lib : Library) (providerID : String) (signature : Bytes)
    (hw : w ≠ "") (hlease : leaseId ≠ "") (hs : sequence + 1 < 2 ^ 64)
    (hstart : start ≤ t / 1000) (ht : t / 1000 < 2 ^ 63) :
    passesChecks (recordUsage lib providerID (some ⟨some (Meter.usageSummary w leaseId
        ⟨.ofNat (sequence + 1), .ofNat start, .ofNat (min (t / 1000) (start + 3600))⟩),
          signature⟩)) t ↔
      t ≤ 1000 * (start + 3600) + 300000 := by
  rw [passesChecks_iff _ _ _ _ ?_ rfl]
  · change ¬ (1000 * unix (.ofNat (min (t / 1000) (start + 3600))) < (t : Int) - 300000 ∨
      (t : Int) + 300000 < 1000 * unix (.ofNat (min (t / 1000) (start + 3600)))) ↔ _
    rw [unix_ofNat (by omega)]
    omega
  · exact validateBounds_usageSummary hw hlease hs (by omega) (by omega) (by omega)

theorem billed_cons (lib : Library) (providerID : String) (h : m.At w sequence start)
    (hs : sequence + 1 < 2 ^ 64) (hstart : start ≤ t / 1000) (ht : t / 1000 < 2 ^ 63)
    (ts : List Nat) : ∃ summary : MeteringSummary,
      summary.periodStart = .ofNat start ∧
      summary.periodEnd = .ofNat (min (t / 1000) (start + 3600)) ∧
      billed lib providerID w m (t :: ts) =
        if t ≤ 1000 * (start + 3600) + 300000 then
          (billed lib providerID w (m.advance w (.ofNat (sequence + 1))
            (.ofNat (min (t / 1000) (start + 3600)))) ts).map (summary :: ·)
        else none := by
  obtain ⟨leaseId, hlease, hne⟩ := h.leased
  refine ⟨Meter.usageSummary w leaseId
    ⟨.ofNat (sequence + 1), .ofNat start, .ofNat (min (t / 1000) (start + 3600))⟩, rfl, rfl, ?_⟩
  have hpull := Meter.getUsageSummary_eq h.named hlease t
  have hnext : m.nextMeteringPeriod w (Meter.clock t) Meter.maxPeriodSeconds = _ :=
    Meter.nextMeteringPeriod_eq h.cursor hs hstart ht
  rw [hnext] at hpull
  rw [billed, hpull]
  change (if passesChecks (recordUsage lib providerID (some ⟨some (Meter.usageSummary w leaseId
    ⟨.ofNat (sequence + 1), .ofNat start, .ofNat (min (t / 1000) (start + 3600))⟩), _⟩)) t then _
    else _) = _
  refine if_congr ?_ ?_ rfl
  · exact passesChecks_usageSummary lib providerID _ h.named.1 hne hs hstart ht
  · cases billed lib providerID w _ ts with
    | none => rfl
    | some summaries => rfl

theorem billed_fresh (lib : Library) (providerID : String) (h : m.Fresh w) (t : Nat)
    (ts : List Nat) :
    billed lib providerID w m (t :: ts) =
      billed lib providerID w (m.advance w (.ofNat 0) (.ofNat (t / 1000))) (t :: ts) := by
  obtain ⟨leaseId, hlease, _⟩ := h.leased
  have hnext : m.nextMeteringPeriod w (Meter.clock t) Meter.maxPeriodSeconds =
      (m.advance w (.ofNat 0) (.ofNat (t / 1000))).nextMeteringPeriod w (Meter.clock t)
        Meter.maxPeriodSeconds := by
    have hcursor : (m.advance w (.ofNat 0) (.ofNat (t / 1000))).cursor w =
        some (.ofNat 0, .ofNat (t / 1000)) := update_self ..
    have hagain (sequence stop : UInt64) :
        (m.advance w (.ofNat 0) (.ofNat (t / 1000))).advance w sequence stop =
          m.advance w sequence stop :=
      congrArg (Meter.mk m.leaseId · m.sign) (update_idem ..)
    unfold Meter.nextMeteringPeriod
    rw [h.unread, hcursor]
    simp only [hagain]
    rfl
  have hpull : m.getUsageSummary w t =
      (m.advance w (.ofNat 0) (.ofNat (t / 1000))).getUsageSummary w t := by
    have hadvanced : (m.advance w (.ofNat 0) (.ofNat (t / 1000))).leaseId w = some leaseId := hlease
    rw [Meter.getUsageSummary_eq h.named hlease, Meter.getUsageSummary_eq h.named hadvanced, hnext]
  rw [billed, billed, hpull]

theorem billed_overflow (lib : Library) (providerID : String)
    (h : m.At w (2 ^ 64 - 1) start) (t : Nat) (ts : List Nat) :
    billed lib providerID w m (t :: ts) = none := by
  obtain ⟨leaseId, hlease, _⟩ := h.leased
  obtain ⟨e, he⟩ := Meter.nextMeteringPeriod_overflow h.cursor (Meter.clock t)
  rw [billed, Meter.getUsageSummary_eq h.named hlease, he]
  rfl

theorem pairwise_start (hinc : (t :: ts).Pairwise (· ≤ ·)) :
    ∀ t' ∈ ts, min (t / 1000) (start + 3600) ≤ t' / 1000 := by
  intro t' ht'
  have hle := (pairwise_cons.1 hinc).1 t' ht'
  omega

theorem billed_of_kept (lib : Library) (providerID : String)
    (h : m.At w sequence start) (hinc : ts.Pairwise (· ≤ ·)) (hstart : ∀ t ∈ ts, start ≤ t / 1000)
    (hclock : ∀ t ∈ ts, t / 1000 < 2 ^ 63) (hkept : Kept start ts)
    (hlength : sequence + ts.length < 2 ^ 64) :
    ∃ summaries ∈ billed lib providerID w m ts,
      ∀ stop, Tiles (.ofNat start) stop summaries ↔ stop = .ofNat (reach start ts) := by
  induction ts generalizing m sequence start with
  | nil => exact ⟨[], rfl, fun stop => eq_comm⟩
  | cons t ts ih =>
    rw [length_cons] at hlength
    obtain ⟨summary, hfrom, hto, heq⟩ := billed_cons lib providerID h (by omega)
      (hstart t (mem_cons_self ..)) (hclock t (mem_cons_self ..)) ts
    rw [heq, if_pos hkept.1]
    obtain ⟨rest, hrest, htiles⟩ := ih (h.advance (sequence + 1) _) hinc.of_cons
      (pairwise_start hinc) (fun t' ht' => hclock t' (mem_cons_of_mem _ ht')) hkept.2
      (by omega)
    refine ⟨summary :: rest, Option.map_eq_some_iff.2 ⟨rest, hrest, rfl⟩, fun stop => ?_⟩
    rw [Tiles, hto, htiles, reach_cons]
    exact and_iff_right hfrom

theorem kept_of_billed (lib : Library) (providerID : String)
    (h : m.At w sequence start) (hs : sequence < 2 ^ 64) (hinc : ts.Pairwise (· ≤ ·))
    (hstart : ∀ t ∈ ts, start ≤ t / 1000) (hclock : ∀ t ∈ ts, t / 1000 < 2 ^ 63)
    (hsome : (billed lib providerID w m ts).isSome) :
    Kept start ts ∧ sequence + ts.length < 2 ^ 64 := by
  induction ts generalizing m sequence start with
  | nil => exact ⟨trivial, hs⟩
  | cons t ts ih =>
    by_cases hlast : sequence + 1 < 2 ^ 64
    · obtain ⟨summary, _, _, heq⟩ := billed_cons lib providerID h hlast
        (hstart t (mem_cons_self ..)) (hclock t (mem_cons_self ..)) ts
      rw [heq] at hsome
      split at hsome
      · rename_i hle
        rw [Option.isSome_map] at hsome
        obtain ⟨hkept, hlength⟩ := ih (h.advance ..) hlast hinc.of_cons (pairwise_start hinc)
          (fun t' ht' => hclock t' (mem_cons_of_mem _ ht')) hsome
        rw [length_cons]
        exact ⟨⟨hle, hkept⟩, by omega⟩
      · cases hsome
    · obtain rfl : sequence = 2 ^ 64 - 1 := by omega
      rw [billed_overflow lib providerID h] at hsome
      cases hsome

end

/-- All pulls are billed exactly if they are at most so far apart. -/
theorem usage_billable_iff (lib : Library) (providerID : String) {m : Meter} {w : String}
    (hm : m.Fresh w) (pulls : List Time) (hinc : pulls.Pairwise (· ≤ ·))
    (hclock : ∀ t ∈ pulls, t / 1000 < 2 ^ 63) :
    ((billed lib providerID w m pulls).isSome ↔ Paced pulls ∧ pulls.length < 2 ^ 64) ∧
      ((∃ summaries ∈ billed lib providerID w m pulls, ∀ first ∈ pulls.head?,
          ∀ last ∈ pulls.getLast?, Tiles (Meter.clock first) (Meter.clock last) summaries) ↔
        Paced pulls ∧ CaughtUp pulls ∧ pulls.length < 2 ^ 64) := by
  cases pulls with
  | nil =>
    have hpaced : Paced [] := nofun
    have hcaught : CaughtUp [] := nofun
    exact ⟨iff_of_true rfl ⟨hpaced, by decide⟩,
      iff_of_true ⟨[], rfl, nofun⟩ ⟨hpaced, hcaught, by decide⟩⟩
  | cons t ts =>
    rw [billed_fresh lib providerID hm]
    have hat : (m.advance w (.ofNat 0) (.ofNat (t / 1000))).At w 0 (t / 1000) :=
      ⟨hm.named, hm.leased, update_self ..⟩
    have hfirst (t' : Nat) (ht' : t' ∈ t :: ts) : t / 1000 ≤ t' / 1000 := by
      obtain rfl | ht' := mem_cons.1 ht'
      · exact le_rfl
      · exact Nat.div_le_div_right ((pairwise_cons.1 hinc).1 t' ht')
    have hkept : Kept (t / 1000) (t :: ts) ↔ Paced (t :: ts) := by
      rw [paced_cons, ← kept_iff, Kept, Nat.min_eq_left (by omega)]
      exact and_iff_right (by omega)
    have hsome (h : (billed lib providerID w (m.advance w (.ofNat 0) (.ofNat (t / 1000)))
        (t :: ts)).isSome) : Paced (t :: ts) ∧ (t :: ts).length < 2 ^ 64 := by
      have hall := kept_of_billed lib providerID hat (by decide) hinc hfirst hclock h
      rwa [hkept, Nat.zero_add] at hall
    have htiles (hpaced : Paced (t :: ts)) (hlength : (t :: ts).length < 2 ^ 64) :=
      billed_of_kept lib providerID hat hinc hfirst hclock (hkept.2 hpaced)
        (by rwa [Nat.zero_add])
    obtain ⟨last, hlast⟩ : ∃ last, last ∈ (t :: ts).getLast? :=
      ⟨_, getLast?_eq_some_getLast (cons_ne_nil t ts)⟩
    have hstop : Meter.clock last = .ofNat (reach (t / 1000) (t :: ts)) ↔ CaughtUp (t :: ts) := by
      have hclock := hclock last (mem_of_getLast? hlast)
      have hle : reach (t / 1000) (t :: ts) ≤ last / 1000 := reach_le hlast
      have hreach : reach (t / 1000) (t :: ts) = reach (t / 1000) ts := by
        rw [reach_cons, Nat.min_eq_left (by omega)]
      rw [caughtUp_iff hlast, ← hreach]
      constructor
      · intro h
        have h := congrArg UInt64.toNat h
        rw [Meter.clock, UInt64.toNat_ofNat_of_lt' (hclock.trans (by decide)),
          UInt64.toNat_ofNat_of_lt' (hle.trans_lt (hclock.trans (by decide)))] at h
        exact h.symm
      · intro h
        rw [h]
        rfl
    constructor
    · refine ⟨hsome, fun ⟨hpaced, hlength⟩ => ?_⟩
      obtain ⟨summaries, hbilled, _⟩ := htiles hpaced hlength
      exact Option.isSome_iff_exists.2 ⟨summaries, hbilled⟩
    · constructor
      · rintro ⟨summaries, hbilled, hall⟩
        obtain ⟨hpaced, hlength⟩ := hsome (Option.isSome_iff_exists.2 ⟨summaries, hbilled⟩)
        obtain ⟨summaries', hbilled', htiles⟩ := htiles hpaced hlength
        cases Option.some.inj (hbilled.symm.trans hbilled')
        exact ⟨hpaced, hstop.1 ((htiles _).1 (hall t rfl last hlast)), hlength⟩
      · rintro ⟨hpaced, hcaught, hlength⟩
        obtain ⟨summaries, hbilled, htiles⟩ := htiles hpaced hlength
        refine ⟨summaries, hbilled, fun first hfirst last' hlast' => ?_⟩
        cases hfirst
        cases Option.some.inj (hlast.symm.trans hlast')
        exact (htiles _).2 (hstop.2 hcaught)

def sampleMeter : Meter := ⟨fun _ => some "1", fun _ => none, id⟩

theorem sampleMeter_fresh : sampleMeter.Fresh (uuidText 7) :=
  ⟨by decide +kernel, ⟨"1", rfl, by decide⟩, rfl⟩

theorem usage_billable_late_pull :
    ∃ summaries ∈ billed sampleLibrary "provider" (uuidText 7) sampleMeter
        [1000000, 4660000, 5000000],
      Tiles 1000 5000 summaries := by
  have hiff := (usage_billable_iff sampleLibrary "provider" sampleMeter_fresh
    [1000000, 4660000, 5000000] (by decide) (by decide)).2
  have hpaced : Paced [1000000, 4660000, 5000000] := by
    simp only [paced_cons, pacedFrom_cons]
    exact ⟨⟨by decide, by decide, nofun⟩, ⟨by decide, nofun⟩, nofun, nofun⟩
  have hcaught : CaughtUp [1000000, 4660000, 5000000] := (caughtUp_iff rfl).2 rfl
  obtain ⟨summaries, hbilled, htiles⟩ := hiff.2 ⟨hpaced, hcaught, by decide⟩
  exact ⟨summaries, hbilled, htiles 1000000 rfl 5000000 rfl⟩

theorem usage_not_billable :
    billed sampleLibrary "provider" (uuidText 7) sampleMeter [1000000, 4960000] = none := by
  decide +kernel

end OpenInfra.Metering
