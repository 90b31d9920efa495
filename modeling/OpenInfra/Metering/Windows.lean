import OpenInfra.Frame.Run
import OpenInfra.Frame.Workers
import OpenInfra.Metering.Pulls

namespace OpenInfra.Metering.Windows
open Frame List Function

inductive LocalStateError where
  | storage
  | corruptMeteringCursor (workloadId : String)
  | meteringSequenceOverflow (workloadId : String)
  deriving DecidableEq

def encodeMeteringCursor (nextSequence periodStart : UInt64) : Bytes :=
  bigEndian 8 nextSequence.toNat ++ bigEndian 8 periodStart.toNat

def decodeMeteringCursor (workloadId : String) (bytes : Bytes) :
    Except LocalStateError (UInt64 × UInt64) :=
  if bytes.length ≠ 16 then .error (.corruptMeteringCursor workloadId)
  else .ok (.ofNat (fromBigEndian (bytes.take 8)), .ofNat (fromBigEndian (bytes.drop 8)))

structure Request where
  workloadId : String
  now : UInt64
  maxPeriodSeconds : UInt64
  deriving DecidableEq

def Request.cursor (request : Request) :
    Option Bytes → Except LocalStateError (Option (UInt64 × UInt64))
  | some bytes => (decodeMeteringCursor request.workloadId bytes).map some
  | none => .ok none

/-- The window that one turn of the loop tries to reserve. -/
def Request.window (request : Request) (current : Option Bytes) :
    Except LocalStateError MeteringPeriod := do
  let cursor ← request.cursor current
  nextPeriod request.now request.maxPeriodSeconds (.meteringSequenceOverflow request.workloadId)
    cursor

structure Reservation where
  request : Request
  window : MeteringPeriod

namespace Reservation

def cursor (r : Reservation) : Bytes := encodeMeteringCursor r.window.sequence r.window.periodEnd

def key (r : Reservation) : String × UInt64 := (r.request.workloadId, r.window.sequence)

structure Bounded (r : Reservation) : Prop where
  ordered : r.window.periodStart ≤ r.window.periodEnd
  short : r.window.periodEnd.toNat - r.window.periodStart.toNat ≤ r.request.maxPeriodSeconds.toNat
  past : r.window.periodEnd ≤ max r.window.periodStart r.request.now

end Reservation

/-- The values a key has had, and how many of them a crash cannot undo. -/
structure Cell where
  values : List (Bytes × Reservation)
  flushed : Nat

abbrev Tree := String → Cell

namespace Tree

def empty : Tree := fun _ => ⟨[], 0⟩

def get (t : Tree) (key : String) : Option Bytes := (t key).values.getLast?.map (·.1)

/-- The windows that the successful swaps of a key have reserved, in their order. -/
def reserved (t : Tree) (key : String) : List Reservation := (t key).values.map (·.2)

def write (t : Tree) (r : Reservation) : Tree :=
  Function.update t r.request.workloadId
    { t r.request.workloadId with
      values := (t r.request.workloadId).values ++ [(r.cursor, r)] }

def compareAndSwap (t : Tree) (old : Option Bytes) (r : Reservation) : Bool × Tree :=
  if t.get r.request.workloadId = old then (true, t.write r) else (false, t)

def flush (t : Tree) : Tree := fun key => { t key with flushed := (t key).values.length }

/-- A crash undoes any number of swaps that are not flushed. -/
def reopen (t : Tree) (kept : String → Nat) : Tree := fun key =>
  let values := (t key).values.take (max (t key).flushed (kept key))
  ⟨values, values.length⟩

end Tree

inductive Phase where
  | get
  | compareAndSwap (current : Option Bytes) (window : MeteringPeriod)
  | flush (window : MeteringPeriod)
  | done (result : Except LocalStateError MeteringPeriod)

structure Call where
  request : Request
  phase : Phase

namespace Call

def proceed (call : Call) (t : Tree) (link : Link) : Call × Tree :=
  match call.phase with
  | .get =>
    match link.deliver t LocalStateError.storage (.ok (t.get call.request.workloadId, t)) with
    | (.error e, t) => ({ call with phase := .done (.error e) }, t)
    | (.ok current, t) =>
      match call.request.window current with
      | .error e => ({ call with phase := .done (.error e) }, t)
      | .ok window => ({ call with phase := .compareAndSwap current window }, t)
  | .compareAndSwap current window =>
    match link.deliver t LocalStateError.storage
        (.ok (t.compareAndSwap current ⟨call.request, window⟩)) with
    | (.error e, t) => ({ call with phase := .done (.error e) }, t)
    | (.ok true, t) => ({ call with phase := .flush window }, t)
    | (.ok false, t) => ({ call with phase := .get }, t)
  | .flush window =>
    match link.deliver t LocalStateError.storage (.ok ((), t.flush)) with
    | (.error e, t) => ({ call with phase := .done (.error e) }, t)
    | (.ok (), t) => ({ call with phase := .done (.ok window) }, t)
  | .done _ => (call, t)

def returned (call : Call) : List Reservation :=
  match call.phase with
  | .done (.ok window) => [⟨call.request, window⟩]
  | _ => []

end Call

structure State where
  tree : Tree
  calls : List Call
  past : List Reservation

inductive Event where
  | call (request : Request)
  | proceed (i : Nat) (link : Link)
  | restart (kept : String → Nat)

namespace State

def init : State := ⟨.empty, [], []⟩

def returned (s : State) : List Reservation := s.past ++ s.calls.flatMap Call.returned

end State

def step (s : State) : Event → State
  | .call request => { s with calls := s.calls ++ [⟨request, .get⟩] }
  | .proceed i link =>
    match s.calls[i]? with
    | none => s
    | some call =>
      { s with tree := (call.proceed s.tree link).2
               calls := s.calls.set i (call.proceed s.tree link).1 }
  | .restart kept => ⟨s.tree.reopen kept, [], s.returned⟩

theorem decode_encode (workloadId : String) (sequence periodEnd : UInt64) :
    decodeMeteringCursor workloadId (encodeMeteringCursor sequence periodEnd) =
      .ok (sequence, periodEnd) := by
  have hlength : (bigEndian 8 sequence.toNat).length = 8 := bigEndian_length _ _
  have hread (n : UInt64) : UInt64.ofNat (fromBigEndian (bigEndian 8 n.toNat)) = n := by
    have hn : n.toNat < 256 ^ 8 := n.toNat_lt
    rw [fromBigEndian_bigEndian, Nat.mod_eq_of_lt hn, UInt64.ofNat_toNat]
  rw [decodeMeteringCursor, if_neg, encodeMeteringCursor, take_left' hlength,
    drop_left' hlength, hread, hread]
  rw [encodeMeteringCursor, length_append, bigEndian_length, bigEndian_length]
  decide

section
variable {request : Request} {window : MeteringPeriod}

theorem toNat_max (a b : UInt64) : (max a b).toNat = max a.toNat b.toNat := by
  simp only [max, UInt64.le_iff_toNat_le]
  split <;> rfl

theorem toNat_min (a b : UInt64) : (min a b).toNat = min a.toNat b.toNat := by
  simp only [min, UInt64.le_iff_toNat_le]
  split <;> rfl

theorem window_bounded {current : Option Bytes} (h : request.window current = .ok window) :
    Reservation.Bounded ⟨request, window⟩ := by
  obtain ⟨_, _, h⟩ := bind_eq_ok.1 h
  obtain ⟨⟨sequence, start⟩, _, h⟩ := bind_eq_ok.1 h
  cases h
  have hbound := Nat.mod_le (saturatingAdd 64 start.toNat request.maxPeriodSeconds.toNat) (2 ^ 64)
  have hsum : saturatingAdd 64 start.toNat request.maxPeriodSeconds.toNat ≤
    start.toNat + request.maxPeriodSeconds.toNat := Nat.min_le_left _ _
  constructor
  · simp only [UInt64.le_iff_toNat_le, toNat_max]
    omega
  · simp only [toNat_max, toNat_min, UInt64.toNat_ofNat']
    omega
  · simp only [UInt64.le_iff_toNat_le, toNat_max, toNat_min]
    omega

theorem window_none (h : request.window none = .ok window) : window.sequence = 1 := by
  cases h
  rfl

theorem window_some {sequence periodEnd : UInt64}
    (h : request.window (some (encodeMeteringCursor sequence periodEnd)) = .ok window) :
    window.sequence.toNat = sequence.toNat + 1 ∧ window.periodStart = periodEnd := by
  obtain ⟨_, hdecode, h⟩ := bind_eq_ok.1 h
  rw [Request.cursor, decode_encode] at hdecode
  cases hdecode
  obtain ⟨_, hnext, h⟩ := bind_eq_ok.1 h
  obtain ⟨_, hadd, hnext⟩ := bind_eq_ok.1 hnext
  obtain ⟨hmax, rfl⟩ := checkedAdd_eq_some.1 (okOr_eq_ok.1 hadd)
  cases hnext
  cases h
  exact ⟨UInt64.toNat_ofNat_of_lt' (Nat.lt_of_le_sub_one (by decide) hmax), rfl⟩

end

structure Tiled (rs : List Reservation) : Prop where
  numbered : ∀ (i : Nat) r, rs[i]? = some r → r.window.sequence.toNat = i + 1
  contiguous : ∀ (i : Nat) r r', rs[i]? = some r → rs[i + 1]? = some r' →
    r'.window.periodStart = r.window.periodEnd
  bounded : ∀ r ∈ rs, r.Bounded

namespace Tiled
variable {rs : List Reservation} {r : Reservation}

theorem nil : Tiled [] where
  numbered _ _ h := nomatch h
  contiguous _ _ _ h := nomatch h
  bounded := nofun

theorem take (h : Tiled rs) (n : Nat) : Tiled (rs.take n) := by
  have hget : ∀ (i : Nat) r, (rs.take n)[i]? = some r → rs[i]? = some r := by
    intro i r hr
    rw [getElem?_take] at hr
    exact (Option.ite_none_right_eq_some.1 hr).2
  constructor
  · intro i r hr
    exact h.numbered i r (hget i r hr)
  · intro i r r' hr hr'
    exact h.contiguous i r r' (hget i r hr) (hget (i + 1) r' hr')
  · intro r hr
    exact h.bounded r (mem_of_mem_take hr)

theorem append (h : Tiled rs) (hr : r.Bounded) (hsequence : r.window.sequence.toNat = rs.length + 1)
    (hstart : ∀ last ∈ rs.getLast?, r.window.periodStart = last.window.periodEnd) :
    Tiled (rs ++ [r]) := by
  constructor
  · intro i x hx
    obtain hx | ⟨rfl, rfl⟩ := getElem?_append_singleton hx
    · exact h.numbered i x hx
    · exact hsequence
  · intro i x x' hx hx'
    obtain hx' | ⟨hi, rfl⟩ := getElem?_append_singleton hx'
    · have hi := (List.getElem?_eq_some_iff.1 hx').1
      rw [getElem?_append_left (by omega)] at hx
      exact h.contiguous i x x' hx hx'
    · rw [getElem?_append_left (by omega)] at hx
      apply hstart
      rw [getLast?_eq_getElem?, ← hi, Nat.add_sub_cancel]
      exact hx
  · intro x hx
    rcases mem_append.1 hx with hx | hx
    · exact h.bounded x hx
    · cases mem_singleton.1 hx
      exact hr

theorem sequence_le (h : Tiled rs) (hr : r ∈ rs) : r.window.sequence.toNat ≤ rs.length := by
  obtain ⟨i, hi⟩ := mem_iff_getElem?.1 hr
  rw [h.numbered i r hi]
  exact (List.getElem?_eq_some_iff.1 hi).1

theorem mem_take (h : Tiled rs) (hr : r ∈ rs) (hn : r.window.sequence.toNat ≤ n) :
    r ∈ rs.take n := by
  obtain ⟨i, hi⟩ := mem_iff_getElem?.1 hr
  rw [h.numbered i r hi] at hn
  apply mem_of_getElem?
  rw [getElem?_take_of_lt hn, hi]

end Tiled

structure Cell.Sound (c : Cell) : Prop where
  flushed : c.flushed ≤ c.values.length
  cursors : ∀ v ∈ c.values, v.1 = v.2.cursor
  tiled : Tiled (c.values.map (·.2))

section
variable {t : Tree} {workloadId : String} {request : Request} {window : MeteringPeriod}

theorem window_follows (h : (t workloadId).Sound)
    (hwindow : request.window (t.get workloadId) = .ok window) :
    window.sequence.toNat = (t.reserved workloadId).length + 1 ∧
      ∀ last ∈ (t.reserved workloadId).getLast?,
        window.periodStart = last.window.periodEnd := by
  unfold Tree.get at hwindow
  unfold Tree.reserved
  rw [getLast?_map, length_map]
  rcases hlast : (t workloadId).values.getLast? with _ | ⟨value, last⟩
  · rw [hlast] at hwindow
    rw [getLast?_eq_none_iff.1 hlast, window_none hwindow]
    exact ⟨rfl, nofun⟩
  · have hmem := mem_of_getLast? hlast
    rw [hlast, Option.map_some, h.cursors _ hmem] at hwindow
    obtain ⟨hsequence, hstart⟩ := window_some hwindow
    constructor
    · rw [hsequence, h.tiled.numbered ((t workloadId).values.length - 1) last]
      · have := length_pos_of_mem hmem
        omega
      · rw [getElem?_map, ← getLast?_eq_getElem?, hlast]
        rfl
    · rintro _ ⟨⟩
      exact hstart

theorem reserved_write (t : Tree) (r : Reservation) (w : String) :
    (t.write r).reserved w =
      if w = r.request.workloadId then t.reserved w ++ [r] else t.reserved w := by
  unfold Tree.write Tree.reserved
  rw [update_apply]
  split
  · rename_i h
    rw [h, map_append]
    rfl
  · rfl

theorem mem_reserved_write {r r' : Reservation} (h : r ∈ t.reserved workloadId) :
    r ∈ (t.write r').reserved workloadId := by
  rw [reserved_write]
  split
  · exact mem_append_left _ h
  · exact h

theorem flushed_write (t : Tree) (r : Reservation) (w : String) :
    (t.write r w).flushed = (t w).flushed := by
  unfold Tree.write
  rw [update_apply]
  split
  · rename_i h
    rw [h]
  · rfl

theorem sound_write (h : ∀ w, (t w).Sound) (hwindow :
    request.window (t.get request.workloadId) = .ok window) (w : String) :
    (t.write ⟨request, window⟩ w).Sound := by
  have htiled := (h request.workloadId).tiled.append (window_bounded hwindow)
    (window_follows (h _) hwindow).1 (window_follows (h _) hwindow).2
  unfold Tree.write
  rw [update_apply]
  split
  · refine ⟨?_, ?_, ?_⟩
    · rw [length_append]
      exact (h request.workloadId).flushed.trans (Nat.le_add_right _ _)
    · intro v hv
      rcases mem_append.1 hv with hv | hv
      · exact (h request.workloadId).cursors v hv
      · cases mem_singleton.1 hv
        rfl
    · rw [map_append]
      exact htiled
  · exact h w

theorem sound_flush (h : (t workloadId).Sound) : (t.flush workloadId).Sound :=
  ⟨le_rfl, h.cursors, h.tiled⟩

theorem reserved_reopen (t : Tree) (kept : String → Nat) (w : String) :
    (t.reopen kept).reserved w = (t.reserved w).take (max (t w).flushed (kept w)) := map_take

theorem sound_reopen (h : (t workloadId).Sound) (kept : String → Nat) :
    (t.reopen kept workloadId).Sound := by
  refine ⟨le_rfl, fun v hv => h.cursors v (mem_of_mem_take hv), ?_⟩
  rw [Tree.reopen, map_take]
  exact h.tiled.take _

end

namespace Call

def held (call : Call) : List Reservation :=
  match call.phase with
  | .flush window | .done (.ok window) => [⟨call.request, window⟩]
  | _ => []

theorem returned_sublist (call : Call) : call.returned.Sublist call.held := by
  unfold returned held
  split
  · rename_i hphase
    rw [hphase]
  · exact nil_sublist _

inductive Advances (t : Tree) (call : Call) : Call → Tree → Prop where
  | stay : Advances t call call t
  | read (hwindow : call.request.window current = .ok window) :
      Advances t call { call with phase := .compareAndSwap current window } t
  | retry : Advances t call { call with phase := .get } t
  | fail (e : LocalStateError) : Advances t call { call with phase := .done (.error e) } t
  | swap (hphase : call.phase = .compareAndSwap (t.get call.request.workloadId) window) :
      Advances t call { call with phase := .flush window } (t.write ⟨call.request, window⟩)
  | swapLost (hphase : call.phase = .compareAndSwap (t.get call.request.workloadId) window)
      (e : LocalStateError) :
      Advances t call { call with phase := .done (.error e) } (t.write ⟨call.request, window⟩)
  | flush (hphase : call.phase = .flush window) :
      Advances t call { call with phase := .done (.ok window) } t.flush
  | flushLost (hphase : call.phase = .flush window) (e : LocalStateError) :
      Advances t call { call with phase := .done (.error e) } t.flush

theorem advances (call : Call) (t : Tree) (link : Link) :
    Advances t call (call.proceed t link).1 (call.proceed t link).2 := by
  unfold proceed
  split
  · cases link with
    | up =>
      simp only [Link.deliver]
      split
      · exact .fail _
      · exact .read ‹_›
    | down => exact .fail _
    | lost => exact .fail _
  · rename_i current window hphase
    by_cases hget : t.get call.request.workloadId = current
    · subst hget
      have hswap : t.compareAndSwap (t.get call.request.workloadId) ⟨call.request, window⟩ =
        (true, t.write ⟨call.request, window⟩) := if_pos rfl
      rw [hswap]
      cases link with
      | up => exact .swap hphase
      | down => exact .fail _
      | lost => exact .swapLost hphase _
    · have hswap : t.compareAndSwap current ⟨call.request, window⟩ = (false, t) := if_neg hget
      rw [hswap]
      cases link with
      | up => exact .retry
      | down => exact .fail _
      | lost => exact .fail _
  · rename_i window hphase
    cases link with
    | up => exact .flush hphase
    | down => exact .fail _
    | lost => exact .flushLost hphase _
  · exact .stay

end Call

namespace State

def held (s : State) : List Reservation := s.past ++ s.calls.flatMap Call.held

theorem returned_sublist (s : State) : s.returned.Sublist s.held := by
  apply List.Sublist.append_left
  induction s.calls with
  | nil => exact List.Sublist.refl _
  | cons call calls ih => exact call.returned_sublist.append ih

theorem held_set {s : State} (h : s.calls[i]? = some call) :
    ∃ rest : List Reservation, s.held.Perm (call.held ++ rest) ∧
      ∀ call' t, State.held ⟨t, s.calls.set i call', s.past⟩ |>.Perm (call'.held ++ rest) := by
  obtain ⟨hi, rfl⟩ := List.getElem?_eq_some_iff.1 h
  refine ⟨s.past ++ (s.calls.eraseIdx i).flatMap Call.held, ?_, ?_⟩
  · have hperm := (getElem_cons_eraseIdx_perm hi).symm.flatMap_right Call.held
    refine ((List.Perm.refl s.past).append hperm).trans ?_
    exact perm_append_comm_assoc _ _ _
  · intro call' t
    have hperm := (set_perm_cons_eraseIdx hi call').flatMap_right Call.held
    refine ((List.Perm.refl s.past).append hperm).trans ?_
    exact perm_append_comm_assoc _ _ _

theorem mem_returned_set {s : State} (h : r ∈ returned ⟨t, s.calls.set i call', s.past⟩) :
    r ∈ s.returned ∨ r ∈ call'.returned := by
  rcases mem_append.1 h with h | h
  · exact .inl (mem_append_left _ h)
  · obtain ⟨call, hcall, hr⟩ := mem_flatMap.1 h
    rcases mem_or_eq_of_mem_set hcall with hcall | rfl
    · exact .inl (mem_append_right _ (mem_flatMap.2 ⟨call, hcall, hr⟩))
    · exact .inr hr

end State

/-- Windows are in order, held once, and outlive a crash if returned. -/
structure Sound (s : State) : Prop where
  cells : ∀ w, (s.tree w).Sound
  computed : ∀ call ∈ s.calls, ∀ current window, call.phase = .compareAndSwap current window →
    call.request.window current = .ok window
  reserved : ∀ r ∈ s.held, r ∈ s.tree.reserved r.request.workloadId
  distinct : (s.held.map Reservation.key).Nodup
  durable : ∀ r ∈ s.returned, r.window.sequence.toNat ≤ (s.tree r.request.workloadId).flushed

namespace Sound
variable {s : State} {call call' : Call} {t : Tree} {window : MeteringPeriod}

theorem init : Sound .init where
  cells _ := ⟨le_rfl, nofun, .nil⟩
  computed := nofun
  reserved := nofun
  distinct := nodup_nil
  durable := nofun

theorem fresh (h : Sound s)
    (hwindow : call.request.window (s.tree.get call.request.workloadId) = .ok window) :
    ∀ r ∈ s.held, r.key ≠ Reservation.key ⟨call.request, window⟩ := by
  intro r hr hkey
  obtain ⟨hw, hsequence⟩ := Prod.mk.inj hkey
  have hle := (h.cells _).tiled.sequence_le (h.reserved r hr)
  have hnext := (window_follows (h.cells _) hwindow).1
  rw [hw, hsequence, hnext] at hle
  exact Nat.not_succ_le_self _ hle

theorem update (h : Sound s) (hi : s.calls[i]? = some call) (hcells : ∀ w, (t w).Sound)
    (hkept : ∀ w, ∀ r ∈ s.tree.reserved w, r ∈ t.reserved w)
    (hflushed : ∀ w, (s.tree w).flushed ≤ (t w).flushed)
    (hcomputed : ∀ current window, call'.phase = .compareAndSwap current window →
      call'.request.window current = .ok window)
    (hheld : call'.held.Sublist call.held ∨ call.held = [] ∧ ∃ r, call'.held = [r] ∧
      r ∈ t.reserved r.request.workloadId ∧ ∀ r' ∈ s.held, r'.key ≠ r.key)
    (hdurable : ∀ r ∈ call'.returned, r ∈ call.returned ∨
      r.window.sequence.toNat ≤ (t r.request.workloadId).flushed) :
    Sound ⟨t, s.calls.set i call', s.past⟩ := by
  obtain ⟨rest, hbefore, hafter⟩ := State.held_set hi
  have hafter := hafter call' t
  have hnodup := (hbefore.map Reservation.key).nodup_iff.1 h.distinct
  refine ⟨hcells, ?_, ?_, ?_, ?_⟩
  · intro x hx
    rcases mem_or_eq_of_mem_set hx with hx | rfl
    · exact h.computed x hx
    · exact hcomputed
  · intro r hr
    rcases mem_append.1 (hafter.mem_iff.1 hr) with hr | hr
    · rcases hheld with hsub | ⟨_, r', hr', hmem, _⟩
      · exact hkept _ r (h.reserved r (hbefore.mem_iff.2 (mem_append_left _ (hsub.subset hr))))
      · rw [hr'] at hr
        cases mem_singleton.1 hr
        exact hmem
    · exact hkept _ r (h.reserved r (hbefore.mem_iff.2 (mem_append_right _ hr)))
  · rw [(hafter.map Reservation.key).nodup_iff]
    rcases hheld with hsub | ⟨hnone, r, hr, _, hfresh⟩
    · exact hnodup.sublist ((hsub.append_right rest).map _)
    · rw [hnone, nil_append] at hnodup
      rw [hr, singleton_append, map_cons, nodup_cons]
      refine ⟨?_, hnodup⟩
      intro hmem
      obtain ⟨r', hr', hkey⟩ := mem_map.1 hmem
      exact hfresh r' (hbefore.mem_iff.2 (mem_append_right _ hr')) hkey
  · intro r hr
    have hold : ∀ r ∈ s.returned,
        r.window.sequence.toNat ≤ (t r.request.workloadId).flushed :=
      fun r hr => (h.durable r hr).trans (hflushed _)
    rcases State.mem_returned_set hr with hr | hr
    · exact hold r hr
    · rcases hdurable r hr with hr | hr
      · exact hold r (mem_append_right _ (mem_flatMap.2
          ⟨call, mem_of_getElem? hi, hr⟩))
      · exact hr

theorem advance (h : Sound s) (hi : s.calls[i]? = some call)
    (hadvance : Call.Advances s.tree call call' t) : Sound ⟨t, s.calls.set i call', s.past⟩ := by
  have hmem := mem_of_getElem? hi
  cases hadvance with
  | stay =>
    exact h.update hi h.cells (fun _ _ hr => hr) (fun _ => le_rfl) (h.computed call hmem)
      (.inl (List.Sublist.refl _)) fun _ hr => .inl hr
  | read hwindow =>
    refine h.update hi h.cells (fun _ _ hr => hr) (fun _ => le_rfl) ?_
      (.inl (nil_sublist _)) nofun
    rintro _ _ ⟨⟩
    exact hwindow
  | retry =>
    exact h.update hi h.cells (fun _ _ hr => hr) (fun _ => le_rfl) nofun
      (.inl (nil_sublist _)) nofun
  | fail e =>
    exact h.update hi h.cells (fun _ _ hr => hr) (fun _ => le_rfl) nofun
      (.inl (nil_sublist _)) nofun
  | swap hphase =>
    have hwindow := h.computed call hmem _ _ hphase
    refine h.update hi (sound_write h.cells hwindow) (fun _ _ => mem_reserved_write)
      (fun w => (flushed_write _ _ w).ge) nofun (.inr ⟨?_, _, rfl, ?_, h.fresh hwindow⟩) nofun
    · rw [Call.held, hphase]
    · rw [reserved_write, if_pos rfl]
      exact mem_append_right _ (mem_singleton_self _)
  | swapLost hphase e =>
    exact h.update hi (sound_write h.cells (h.computed call hmem _ _ hphase))
      (fun _ _ => mem_reserved_write) (fun w => (flushed_write _ _ w).ge) nofun
      (.inl (nil_sublist _)) nofun
  | @flush window hphase =>
    have hheld : call.held = [⟨call.request, window⟩] := by
      rw [Call.held, hphase]
    refine h.update hi (fun w => sound_flush (h.cells w)) (fun _ _ hr => hr)
      (fun w => (h.cells w).flushed) nofun (.inl (by rw [hheld]; exact List.Sublist.refl _)) ?_
    intro r hr
    have hr' : r ∈ s.held :=
      mem_append_right _ (mem_flatMap.2 ⟨call, hmem, hheld ▸ hr⟩)
    have hle := (h.cells _).tiled.sequence_le (h.reserved r hr')
    rw [length_map] at hle
    exact .inr hle
  | flushLost hphase e =>
    exact h.update hi (fun w => sound_flush (h.cells w)) (fun _ _ hr => hr)
      (fun w => (h.cells w).flushed) nofun (.inl (nil_sublist _)) nofun

theorem arrive (h : Sound s) (request : Request) :
    Sound { s with calls := s.calls ++ [⟨request, .get⟩] } := by
  have hheld : State.held { s with calls := s.calls ++ [⟨request, .get⟩] } = s.held := by
    rw [State.held, flatMap_append]
    exact congrArg _ (append_nil _)
  have hreturned : State.returned { s with calls := s.calls ++ [⟨request, .get⟩] } =
      s.returned := by
    rw [State.returned, flatMap_append]
    exact congrArg _ (append_nil _)
  refine ⟨h.cells, ?_, hheld ▸ h.reserved, hheld ▸ h.distinct, hreturned ▸ h.durable⟩
  intro x hx
  rcases mem_append.1 hx with hx | hx
  · exact h.computed x hx
  · cases mem_singleton.1 hx
    exact nofun

theorem restart (h : Sound s) (kept : String → Nat) :
    Sound ⟨s.tree.reopen kept, [], s.returned⟩ := by
  have hheld : State.held ⟨s.tree.reopen kept, [], s.returned⟩ = s.returned := append_nil _
  have hreturned : State.returned ⟨s.tree.reopen kept, [], s.returned⟩ = s.returned :=
    append_nil _
  have hreserved : ∀ r ∈ s.returned,
      r ∈ (s.tree.reopen kept).reserved r.request.workloadId := by
    intro r hr
    rw [reserved_reopen]
    exact (h.cells _).tiled.mem_take (h.reserved r (s.returned_sublist.subset hr))
      ((h.durable r hr).trans (Nat.le_max_left _ _))
  refine ⟨fun w => sound_reopen (h.cells w) kept, nofun, ?_, ?_, ?_⟩
  · rw [hheld]
    exact hreserved
  · rw [hheld]
    exact h.distinct.sublist (s.returned_sublist.map _)
  · rw [hreturned]
    intro r hr
    have hle := (sound_reopen (h.cells _) kept).tiled.sequence_le (hreserved r hr)
    rw [length_map] at hle
    exact hle

theorem step (h : Sound s) (event : Event) : Sound (Windows.step s event) := by
  cases event with
  | call request => exact h.arrive request
  | proceed i link =>
    unfold Windows.step
    dsimp only
    split
    · exact h
    · rename_i call hi
      exact h.advance hi (call.advances s.tree link)
  | restart kept => exact h.restart kept

end Sound

def State.view (s : State) (w : String) :
    List Reservation × Option Bytes × List Call × List Reservation :=
  (s.tree.reserved w, s.tree.get w, s.calls.filter (·.request.workloadId = w),
    s.returned.filter (·.request.workloadId = w))

def Event.elsewhere (s : State) (w : String) : Event → Prop
  | .call request => request.workloadId ≠ w
  | .proceed i _ => ∀ call ∈ s.calls[i]?, call.request.workloadId ≠ w
  | .restart _ => False

theorem filter_set {l : List α} {p : α → Bool} (h : l[i]? = some a) (ha : ¬ p a) (hb : ¬ p b) :
    (l.set i b).filter p = l.filter p := by
  induction l generalizing i with
  | nil => rfl
  | cons x l ih =>
    cases i with
    | zero =>
      cases h
      rw [set_cons_zero, filter_cons_of_neg hb, filter_cons_of_neg ha]
    | succ i => rw [set_cons_succ, filter_cons, filter_cons, ih h]

theorem Call.request_of_mem_returned {call : Call} (h : r ∈ call.returned) :
    r.request = call.request := by
  unfold returned at h
  split at h
  · cases mem_singleton.1 h
    rfl
  · cases h

theorem filter_returned (calls : List Call) (w : String) :
    (calls.flatMap Call.returned).filter (·.request.workloadId = w) =
      (calls.filter (·.request.workloadId = w)).flatMap Call.returned := by
  induction calls with
  | nil => rfl
  | cons call calls ih =>
    rw [flatMap_cons, filter_append, ih, filter_cons]
    split
    · rename_i hw
      rw [flatMap_cons, filter_eq_self.2]
      intro r hr
      rw [Call.request_of_mem_returned hr]
      exact hw
    · rename_i hw
      rw [filter_eq_nil_iff.2, nil_append]
      intro r hr
      rw [Call.request_of_mem_returned hr]
      exact hw

section
variable {s : State} {call call' : Call} {t t' : Tree} {w : String}

theorem write_elsewhere {r : Reservation} (hw : r.request.workloadId ≠ w) : t.write r w = t w :=
  update_of_ne (Ne.symm hw) _ _

namespace Call.Advances

theorem request (h : Advances t call call' t') : call'.request = call.request := by
  cases h <;> rfl

theorem elsewhere (h : Advances t call call' t') (hw : call.request.workloadId ≠ w) :
    (t' w).values = (t w).values := by
  cases h with
  | stay | read _ | retry | fail _ | flush _ | flushLost _ _ => rfl
  | swap _ => rw [write_elsewhere hw]
  | swapLost _ _ => rw [write_elsewhere hw]

end Call.Advances

theorem view_congr {s' : State} (hvalues : (s'.tree w).values = (s.tree w).values)
    (hcalls : s'.calls.filter (·.request.workloadId = w) =
      s.calls.filter (·.request.workloadId = w)) (hpast : s'.past = s.past) :
    s'.view w = s.view w := by
  unfold State.view Tree.reserved Tree.get State.returned
  rw [hvalues, filter_append, filter_append, filter_returned, filter_returned, hcalls,
    hpast]

theorem view_step {event : Event} (h : event.elsewhere s w) : (step s event).view w = s.view w := by
  cases event with
  | call request =>
    have hne : request.workloadId ≠ w := h
    refine view_congr rfl ?_ rfl
    rw [step, filter_append, filter_cons_of_neg (by simpa using hne), filter_nil,
      append_nil]
  | proceed i link =>
    unfold step
    dsimp only
    split
    · rfl
    · rename_i call hi
      have hadvance := call.advances s.tree link
      have hcall := h call hi
      refine view_congr (hadvance.elsewhere hcall) (filter_set hi ?_ ?_) rfl
      · simpa using hcall
      · simpa [hadvance.request] using hcall
  | restart kept => exact h.elim

end

/-- Windows tile, under every interleaving of calls and restarts. -/
theorem windows_tile (events : List Event) :
    let s := run step State.init events
    (∀ w, Tiled (s.tree.reserved w)) ∧
    (∀ r ∈ s.returned, r ∈ s.tree.reserved r.request.workloadId) ∧
    (s.returned.map Reservation.key).Nodup ∧
    ∀ w event, event.elsewhere s w → (step s event).view w = s.view w := by
  intro s
  have h : Sound s := (Along.true _ events).invariant .init fun _ event hs _ => hs.step event
  refine ⟨fun w => (h.cells w).tiled, ?_, ?_, fun w event => view_step⟩
  · intro r hr
    exact h.reserved r (s.returned_sublist.subset hr)
  · exact h.distinct.sublist (s.returned_sublist.map _)

end OpenInfra.Metering.Windows
