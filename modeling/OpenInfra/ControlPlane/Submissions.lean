import OpenInfra.ControlPlane.Ledger
import OpenInfra.Frame.Workers

namespace OpenInfra.ControlPlane
open Frame List

/-- The database may read several spellings of one `uuid`. -/
structure UuidText where
  parse : String → Option Uuid
  text : Uuid → String
  parse_text : ∀ u, parse (text u) = some u
  text_ne : ∀ u, text u ≠ ""

structure TextWorkload where
  workloadID : String
  requestID : String
  ownerID : String
  projectID : String
  requestHash : BitVec 256
  definition : ByteArray
  image : String
  vmImageSha256 : String
  state : WorkloadState
  createdAt : Time
  updatedAt : Time
  reserved : Resources
  deriving DecidableEq

def TextWorkload.Same (stored candidate : TextWorkload) : Prop :=
  stored.requestHash = candidate.requestHash ∧ stored.workloadID = candidate.workloadID ∧
    stored.ownerID = candidate.ownerID ∧ stored.projectID = candidate.projectID ∧
    stored.definition = candidate.definition ∧ stored.image = candidate.image ∧
    stored.vmImageSha256 = candidate.vmImageSha256

instance (stored candidate : TextWorkload) : Decidable (stored.Same candidate) :=
  inferInstanceAs (Decidable (_ ∧ _ ∧ _ ∧ _ ∧ _ ∧ _ ∧ _))

def TextWorkload.withIDs (candidate : TextWorkload) (workloadID requestID ownerID : Uuid)
    (projectID : Option Uuid) : Workload :=
  { workloadID, requestID, ownerID, projectID
    requestHash := candidate.requestHash, definition := candidate.definition
    image := candidate.image, vmImageSha256 := candidate.vmImageSha256
    state := candidate.state, createdAt := candidate.createdAt, updatedAt := candidate.updatedAt
    reserved := candidate.reserved
    providerID := none, leaseID := none, resourceHash := none, containerID := none
    attemptCount := 0, nextAttemptAt := none, workerID := none, workerLeaseUntil := none
    errorCode := none, lastError := none, stopRequestID := none, stopRequestedAt := none
    version := 1 }

namespace UuidText
variable (ids : UuidText)

def nullableID (id : String) : Option (Option Uuid) :=
  if id = "" then some none else (ids.parse id).map some

def textOrEmpty : Option Uuid → String
  | none => ""
  | some id => ids.text id

def row (candidate : TextWorkload) : Option Workload := do
  let workloadID ← ids.parse candidate.workloadID
  let requestID ← ids.parse candidate.requestID
  let ownerID ← ids.parse candidate.ownerID
  let projectID ← ids.nullableID candidate.projectID
  some (candidate.withIDs workloadID requestID ownerID projectID)

def scanWorkload (r : Workload) : TextWorkload where
  workloadID := ids.text r.workloadID
  requestID := ids.text r.requestID
  ownerID := ids.text r.ownerID
  projectID := ids.textOrEmpty r.projectID
  requestHash := r.requestHash
  definition := r.definition
  image := r.image
  vmImageSha256 := r.vmImageSha256
  state := r.state
  createdAt := r.createdAt
  updatedAt := r.updatedAt
  reserved := r.reserved

end UuidText

def Store.insertWorkload (s : Store) (r : Workload) : Except StoreError (Bool × Store) := do
  let t ← s.write r.inserted
  if s.row r.workloadID = none ∧ s.byRequestID r.requestID = none then .ok (true, t)
  else .ok (false, s)

/-- A statement that is lost, or violates a constraint. -/
inductive StatementError where
  | unavailable
  | rejected
  deriving DecidableEq

inductive SubmitError where
  | conflict
  | database (e : StatementError)
  deriving DecidableEq

inductive SubmitQuery where
  | insertWorkload (candidate : TextWorkload)
  | byRequestID (requestID : String)

@[reducible] def SubmitRow : SubmitQuery → Type
  | .insertWorkload _ => Bool
  | .byRequestID _ => Option TextWorkload

@[reducible] def SubmitReply (q : SubmitQuery) : Type := Except StatementError (SubmitRow q)

abbrev SubmitCall := Program SubmitQuery SubmitReply (Except SubmitError TextWorkload)

def createOrGet (candidate : TextWorkload) : SubmitCall := do
  match ← Program.ask (SubmitQuery.insertWorkload candidate) with
  | .error e => pure (.error (.database e))
  | .ok true => pure (.ok candidate)
  | .ok false =>
    match ← Program.ask (SubmitQuery.byRequestID candidate.requestID) with
    | .error e => pure (.error (.database e))
    | .ok none => pure (.error .conflict)
    | .ok (some stored) =>
      if stored.Same candidate then pure (.ok stored) else pure (.error .conflict)

namespace UuidText

def insertWorkload (ids : UuidText) (s : Plane) (candidate : TextWorkload) :
    Except StatementError (Bool × Plane) := do
  let r ← okOr (ids.row candidate) .rejected
  match s.store.insertWorkload r with
  | .error _ => .error .rejected
  | .ok (inserted, t) => .ok (inserted, { s with store := t })

def byRequestID (ids : UuidText) (s : Plane) (requestID : String) :
    Except StatementError (Option TextWorkload × Plane) := do
  let q ← okOr (ids.parse requestID) .rejected
  .ok ((s.store.byRequestID q).map ids.scanWorkload, s)

def perform (ids : UuidText) (s : Plane) :
    (q : SubmitQuery) → Except StatementError (SubmitRow q × Plane)
  | .insertWorkload candidate => ids.insertWorkload s candidate
  | .byRequestID requestID => ids.byRequestID s requestID

end UuidText

def UuidText.answer (ids : UuidText) (link : Link) :
    Answers Plane TextWorkload SubmitQuery SubmitReply :=
  fun s _ q => link.deliver s .unavailable (ids.perform s q)

def UuidText.submitAlone (ids : UuidText) (candidate : TextWorkload) (s : Plane) :
    Except SubmitError TextWorkload × Plane :=
  (createOrGet candidate).exec (fun q s => ids.answer .up s candidate q) s

abbrev Submissions :=
  Workers Plane TextWorkload SubmitQuery SubmitReply (Except SubmitError TextWorkload)

namespace Submissions

def init : Submissions := ⟨.init, []⟩

inductive Event where
  | submit (candidate : TextWorkload)
  | proceed (call : Nat) (link : Link)
  | act (a : Action)

def step (ids : UuidText) (s : Submissions) : Event → Submissions
  | .submit candidate => s.start candidate (createOrGet candidate)
  | .proceed call link => s.proceed (ids.answer link) call
  | .act a => { s with world := ControlPlane.step s.world a }

def Accepted (s : Submissions) (candidate returned : TextWorkload) : Prop :=
  (candidate, .ret (.ok returned)) ∈ s.tasks

end Submissions

def TextWorkload.again (candidate : TextWorkload) (createdAt updatedAt : Time) : TextWorkload :=
  { candidate with createdAt, updatedAt }

/-- The ids are written as the database prints them. -/
structure UuidText.Canonical (ids : UuidText) (candidate : TextWorkload) : Prop where
  workloadID : ∃ u, ids.text u = candidate.workloadID
  ownerID : ∃ u, ids.text u = candidate.ownerID
  projectID : ∃ id, ids.textOrEmpty id = candidate.projectID

def Workload.Holds (x r : Workload) : Prop := x.requestID = r.requestID ∧ x.SameRequest r

def Workload.Clashes (x r : Workload) : Prop :=
  x.workloadID = r.workloadID ∨ x.requestID = r.requestID

structure Submissions.Idempotent (ids : UuidText) (s : Submissions) : Prop where
  once : s.world.store.workloads.rows.Pairwise fun x y =>
    x.requestID ≠ y.requestID ∧ x.workloadID ≠ y.workloadID
  own : ∀ c w, s.Accepted c w →
    w.Same c ∧ ∃ r, ids.row c = some r ∧ ∃ x ∈ s.world.store.workloads.rows, x.Holds r
  alone : ∀ c w createdAt updatedAt, s.Accepted c w →
    ∃ w', ids.submitAlone (c.again createdAt updatedAt) s.world = (.ok w', s.world) ∧ w'.Same w
  again : ∀ c w createdAt updatedAt i p, s.Accepted c w →
    s.tasks[i]? = some (c.again createdAt updatedAt, p) →
      p ≠ .ret (.error .conflict) ∧ (∀ w', p = .ret (.ok w') → w'.Same w) ∧
        ∀ link, (step ids s (.proceed i link)).world = s.world
  apart : ∀ c w c' w', s.Accepted c w → s.Accepted c' w' →
    (ids.parse c.requestID = ids.parse c'.requestID ∨
      ids.parse c.workloadID = ids.parse c'.workloadID) → c.Same c'

namespace TextWorkload.Same
variable {a b c : TextWorkload}

theorem refl (a : TextWorkload) : a.Same a := ⟨rfl, rfl, rfl, rfl, rfl, rfl, rfl⟩

theorem symm (h : a.Same b) : b.Same a := by
  obtain ⟨h₁, h₂, h₃, h₄, h₅, h₆, h₇⟩ := h
  exact ⟨h₁.symm, h₂.symm, h₃.symm, h₄.symm, h₅.symm, h₆.symm, h₇.symm⟩

theorem trans (h : a.Same b) (h' : b.Same c) : a.Same c := by
  obtain ⟨h₁, h₂, h₃, h₄, h₅, h₆, h₇⟩ := h
  obtain ⟨k₁, k₂, k₃, k₄, k₅, k₆, k₇⟩ := h'
  exact ⟨h₁.trans k₁, h₂.trans k₂, h₃.trans k₃, h₄.trans k₄, h₅.trans k₅, h₆.trans k₆,
    h₇.trans k₇⟩

end TextWorkload.Same

namespace UuidText
variable {ids : UuidText} {candidate : TextWorkload} {r x : Workload}

theorem parse_of_text {id : String} (h : ids.text u = id) : ids.parse id = some u :=
  h ▸ ids.parse_text u

theorem nullableID_textOrEmpty (ids : UuidText) (id : Option Uuid) :
    ids.nullableID (ids.textOrEmpty id) = some id := by
  cases id with
  | none => exact if_pos rfl
  | some u =>
    refine (if_neg (ids.text_ne u)).trans ?_
    rw [textOrEmpty, ids.parse_text]
    rfl

theorem row_eq_some : ids.row candidate = some r ↔
    ids.parse candidate.workloadID = some r.workloadID ∧
      ids.parse candidate.requestID = some r.requestID ∧
      ids.parse candidate.ownerID = some r.ownerID ∧
      ids.nullableID candidate.projectID = some r.projectID ∧
      r = candidate.withIDs r.workloadID r.requestID r.ownerID r.projectID := by
  unfold row
  simp only [Option.bind_eq_bind, Option.bind_eq_some_iff, Option.some.injEq]
  constructor
  · rintro ⟨workloadID, hworkload, requestID, hrequest, ownerID, howner, projectID, hproject, rfl⟩
    exact ⟨hworkload, hrequest, howner, hproject, rfl⟩
  · rintro ⟨hworkload, hrequest, howner, hproject, heq⟩
    exact ⟨_, hworkload, _, hrequest, _, howner, _, hproject, heq.symm⟩

theorem same_scanWorkload_iff (hrow : ids.row candidate = some r) :
    (ids.scanWorkload x).Same candidate ↔ x.SameRequest r ∧ ids.Canonical candidate := by
  obtain ⟨hworkload, _, howner, hproject, hr⟩ := row_eq_some.1 hrow
  have hhash : r.requestHash = candidate.requestHash := congrArg Workload.requestHash hr
  have hdefinition : r.definition = candidate.definition := congrArg Workload.definition hr
  have himage : r.image = candidate.image := congrArg Workload.image hr
  have hdigest : r.vmImageSha256 = candidate.vmImageSha256 :=
    congrArg Workload.vmImageSha256 hr
  constructor
  · rintro ⟨h₁, h₂, h₃, h₄, h₅, h₆, h₇⟩
    have hx₂ := Option.some.inj ((parse_of_text h₂).symm.trans hworkload)
    have hx₃ := Option.some.inj ((parse_of_text h₃).symm.trans howner)
    have hx₄ : x.projectID = r.projectID := by
      have hid := ids.nullableID_textOrEmpty x.projectID
      rw [show ids.textOrEmpty x.projectID = candidate.projectID from h₄, hproject] at hid
      exact (Option.some.inj hid).symm
    exact ⟨⟨h₁.trans hhash.symm, hx₂, hx₃, hx₄, h₅.trans hdefinition.symm,
      h₆.trans himage.symm, h₇.trans hdigest.symm⟩, ⟨_, h₂⟩, ⟨_, h₃⟩, ⟨_, h₄⟩⟩
  · rintro ⟨⟨h₁, h₂, h₃, h₄, h₅, h₆, h₇⟩, ⟨u, hu⟩, ⟨v, hv⟩, ⟨id, hid⟩⟩
    have hu' := Option.some.inj ((parse_of_text hu).symm.trans hworkload)
    have hv' := Option.some.inj ((parse_of_text hv).symm.trans howner)
    have hid' : id = r.projectID := by
      have hnull := ids.nullableID_textOrEmpty id
      rw [hid, hproject] at hnull
      exact (Option.some.inj hnull).symm
    subst hu' hv' hid'
    refine ⟨h₁.trans hhash, ?_, ?_, ?_, h₅.trans hdefinition, h₆.trans himage, h₇.trans hdigest⟩
    · exact (congrArg ids.text h₂).trans hu
    · exact (congrArg ids.text h₃).trans hv
    · exact (congrArg ids.textOrEmpty h₄).trans hid

theorem row_again (hrow : ids.row candidate = some r) (createdAt updatedAt : Time) :
    ids.row (candidate.again createdAt updatedAt) = some { r with createdAt, updatedAt } := by
  obtain ⟨hworkload, hrequest, howner, hproject, hr⟩ := row_eq_some.1 hrow
  refine row_eq_some.2 ⟨hworkload, hrequest, howner, hproject, ?_⟩
  rw [hr]
  rfl

theorem Canonical.again (h : ids.Canonical candidate) (createdAt updatedAt : Time) :
    ids.Canonical (candidate.again createdAt updatedAt) := ⟨h.1, h.2, h.3⟩

end UuidText

namespace Workload
variable {x y r : Workload}

theorem Holds.of_origin (h : x.Holds r) (ho : y.origin = x.origin) : y.Holds r := by
  have horigin : x.origin.Holds r := h
  rw [← ho] at horigin
  exact horigin

theorem Clashes.of_origin (h : x.Clashes r) (ho : y.origin = x.origin) : y.Clashes r := by
  have horigin : x.origin.Clashes r := h
  rw [← ho] at horigin
  exact horigin

theorem Holds.clashes (h : x.Holds r) : x.Clashes r := .inr h.1

end Workload

namespace Store
variable {s t : Store} {x y r : Workload}

def Once (s : Store) : Prop :=
  ∀ x ∈ s.workloads.rows, ∀ y ∈ s.workloads.rows, x.requestID = y.requestID → x = y

inductive Grows (s : Store) : Store → Prop
  | same (h : s.SameOrigins s') : Grows s s'
  | insert {v : Workload} (hrow : s.row v.workloadID = none)
      (hrequest : s.byRequestID v.requestID = none) :
    Grows s { s with workloads := s.workloads.put v.inserted }

theorem byRequestID_eq_none : s.byRequestID q = none ↔ ∀ x ∈ s.workloads.rows, x.requestID ≠ q := by
  simp only [byRequestID, find?_eq_none, decide_eq_true_eq]

theorem byRequestID_eq_some (h : s.byRequestID q = some x) :
    x ∈ s.workloads.rows ∧ x.requestID = q :=
  ⟨mem_of_find?_eq_some h,
    of_decide_eq_true (find?_some (p := fun r : Workload => r.requestID = q) h)⟩

theorem mem_insert (hrow : s.row r.workloadID = none) :
    x ∈ (s.workloads.put r.inserted).rows ↔ x = r.inserted ∨ x ∈ s.workloads.rows := by
  rw [Table.mem_put]
  refine or_congr_right (and_iff_left_of_imp fun hx heq => ?_)
  rw [show s.row r.workloadID = some x from heq ▸ Table.mem_rows.1 hx] at hrow
  cases hrow

theorem Grows.mem (h : s.Grows t) (hx : x ∈ s.workloads.rows) :
    ∃ y ∈ t.workloads.rows, y.origin = x.origin := by
  cases h with
  | same hsame =>
    obtain ⟨y, hy, ho⟩ := hsame.row (Table.mem_rows.1 hx)
    exact ⟨y, (Table.lookup_eq_some.1 hy).1, ho⟩
  | insert hrow _ => exact ⟨x, (mem_insert hrow).2 (.inr hx), rfl⟩

theorem Once.empty : Once .empty := fun _ hx => absurd hx not_mem_nil

theorem Once.grows (h : s.Once) (hst : s.Grows t) : t.Once := by
  cases hst with
  | same hsame =>
    intro x hx y hy heq
    obtain ⟨x₀, hx₀, hox⟩ := hsame.symm.row (Table.mem_rows.1 hx)
    obtain ⟨y₀, hy₀, hoy⟩ := hsame.symm.row (Table.mem_rows.1 hy)
    have hrequest : x₀.requestID = y₀.requestID :=
      (congrArg Workload.requestID hox).trans (heq.trans (congrArg Workload.requestID hoy).symm)
    have hxy := h x₀ (Table.lookup_eq_some.1 hx₀).1 y₀ (Table.lookup_eq_some.1 hy₀).1 hrequest
    subst hxy
    have hkey := congrArg Workload.workloadID (hox.symm.trans hoy)
    exact inj_on_of_nodup_map t.workloads.nodup hx hy hkey
  | insert hrow hrequest =>
    have hfree := byRequestID_eq_none.1 hrequest
    intro x hx y hy heq
    obtain rfl | hx := (mem_insert hrow).1 hx <;> obtain rfl | hy := (mem_insert hrow).1 hy
    · rfl
    · exact absurd heq.symm (hfree y hy)
    · exact absurd heq (hfree x hx)
    · exact h x hx y hy heq

theorem Once.eq_of_clashes (h : s.Once) (hx : x ∈ s.workloads.rows) (hy : y ∈ s.workloads.rows)
    (hheld : x.Holds r) (hclash : y.Clashes r) : y = x := by
  obtain hkey | hrequest := hclash
  · exact inj_on_of_nodup_map s.workloads.nodup hy hx (hkey.trans hheld.2.2.1.symm)
  · exact h y hy x hx (hrequest.trans hheld.1.symm)

theorem Once.pairwise (h : s.Once) : s.workloads.rows.Pairwise fun x y =>
    x.requestID ≠ y.requestID ∧ x.workloadID ≠ y.workloadID := by
  refine (List.Nodup.of_map _ s.workloads.nodup).pairwise_of_forall_ne ?_
  intro x hx y hy hne
  exact ⟨fun heq => hne (h x hx y hy heq),
    fun heq => hne (inj_on_of_nodup_map s.workloads.nodup hx hy heq)⟩

theorem not_clashes_iff : s.row r.workloadID = none ∧ s.byRequestID r.requestID = none ↔
    ∀ x ∈ s.workloads.rows, ¬ x.Clashes r := by
  rw [byRequestID_eq_none, show s.row r.workloadID = none ↔ _ from Table.lookup_eq_none]
  simp only [Workload.Clashes, mem_map, not_exists, not_and, not_or]
  constructor
  · rintro ⟨hkeys, hrequests⟩ x hx
    exact ⟨hkeys x hx, hrequests x hx⟩
  · intro h
    exact ⟨fun x hx => (h x hx).1, fun x hx => (h x hx).2⟩

theorem insertWorkload_eq_ok : s.insertWorkload r = .ok (inserted, t) ↔ r.inserted.Checks ∧
    (inserted = true ∧ (∀ x ∈ s.workloads.rows, ¬ x.Clashes r) ∧
        t = { s with workloads := s.workloads.put r.inserted } ∨
      inserted = false ∧ (∃ x ∈ s.workloads.rows, x.Clashes r) ∧ t = s) := by
  unfold insertWorkload
  rw [put_eq_ok]
  refine and_congr_right fun _ => ?_
  by_cases hfree : ∀ x ∈ s.workloads.rows, ¬ x.Clashes r
  · rw [if_pos (not_clashes_iff.2 hfree)]
    constructor
    · intro h
      cases h
      exact .inl ⟨rfl, hfree, rfl⟩
    · rintro (⟨rfl, _, rfl⟩ | ⟨_, ⟨x, hx, hclash⟩, _⟩)
      · rfl
      · exact absurd hclash (hfree x hx)
  · rw [if_neg fun h => hfree (not_clashes_iff.1 h)]
    constructor
    · intro h
      cases h
      push Not at hfree
      exact .inr ⟨rfl, hfree, rfl⟩
    · rintro (⟨_, h, _⟩ | ⟨rfl, _, rfl⟩)
      · exact absurd h hfree
      · rfl

theorem createOrGet_eq (s : Store) (r : Workload) :
    s.createOrGet r = s.insertWorkload r >>= fun x =>
      if x.1 then .ok (x.2, r)
      else okOr (s.byRequestID r.requestID) .conflict >>= fun stored =>
        ensure (stored.SameRequest r) .conflict >>= fun _ => .ok (x.2, stored) := by
  unfold createOrGet insertWorkload
  cases s.write r.inserted with
  | error e => rfl
  | ok t =>
    by_cases hfree : s.row r.workloadID = none ∧ s.byRequestID r.requestID = none
    · simp only [bind_of_ok rfl, if_pos hfree]
      rfl
    · simp only [bind_of_ok rfl, if_neg hfree]
      rfl

theorem createOrGet_insert (h : s.createOrGet r = .ok (t, x)) :
    ∃ inserted, s.insertWorkload r = .ok (inserted, t) := by
  rw [createOrGet_eq] at h
  obtain ⟨⟨inserted, u⟩, hinsert, h⟩ := bind_eq_ok.1 h
  refine ⟨inserted, ?_⟩
  split at h
  · cases h
    exact hinsert
  · obtain ⟨_, _, h⟩ := bind_eq_ok.1 h
    obtain ⟨_, _, h⟩ := bind_eq_ok.1 h
    cases h
    exact hinsert

theorem Grows.insertWorkload (h : s.insertWorkload r = .ok (inserted, t)) : s.Grows t := by
  obtain ⟨_, ⟨_, hfree, rfl⟩ | ⟨_, _, rfl⟩⟩ := insertWorkload_eq_ok.1 h
  · obtain ⟨hrow, hrequest⟩ := not_clashes_iff.2 hfree
    exact .insert hrow hrequest
  · exact .same (.refl _)

end Store

theorem grows_step (s : Plane) (a : Action) : s.store.Grows (step s a).store := by
  cases a with
  | createOrGet candidate =>
    refine Yields.commit (P := fun t : Plane => s.store.Grows t.store) ?_ (.same (.refl _))
    refine .bind fun x hx => .ok ?_
    obtain ⟨inserted, hinsert⟩ := Store.createOrGet_insert hx
    exact .insertWorkload hinsert
  | _ => exact .same (sameOrigins_step s rfl)

inductive SubmitPhase where
  | asked
  | taken
  | accepted
  | refused

def submitProtocol (candidate : TextWorkload) : Protocol SubmitQuery SubmitReply where
  State := SubmitPhase
  allows phase
    | .insertWorkload c => phase = .asked ∧ c = candidate
    | .byRequestID requestID => phase = .taken ∧ requestID = candidate.requestID
  expects _ _ := True
  next phase
    | .insertWorkload _, .ok true => .accepted
    | .insertWorkload _, .ok false => .taken
    | .byRequestID _, .ok none => .refused
    | .byRequestID _, .ok (some stored) =>
      if stored.Same candidate then .accepted else .refused
    | _, .error _ => phase

namespace UuidText
variable {ids : UuidText} {c : TextWorkload} {r x : Workload} {s t : Plane} {phase : SubmitPhase}

def Admits (ids : UuidText) (c : TextWorkload) (r : Workload) : Prop :=
  ids.row c = some r ∧ r.inserted.Checks

def Known (ids : UuidText) (s : Plane) (c : TextWorkload) : SubmitPhase → Prop
  | .asked => True
  | .taken => ∃ r, ids.Admits c r ∧ ∃ x ∈ s.store.workloads.rows, x.Clashes r
  | .accepted => ∃ r, ids.Admits c r ∧ ∃ x ∈ s.store.workloads.rows, x.Holds r
  | .refused => ∃ r, ids.Admits c r ∧ ∃ x ∈ s.store.workloads.rows,
    x.Clashes r ∧ ¬ (x.Holds r ∧ ids.Canonical c)

def rules (ids : UuidText) :
    Rules Plane TextWorkload SubmitQuery SubmitReply (Except SubmitError TextWorkload) where
  protocol := submitProtocol
  known := ids.Known
  ends candidate phase
    | .ok w => phase = .accepted ∧ w.Same candidate
    | .error .conflict => phase = .refused
    | .error (.database _) => True

theorem Known.grows (h : ids.Known s c phase) (hst : s.store.Grows t.store) :
    ids.Known t c phase := by
  cases phase with
  | asked => trivial
  | taken =>
    obtain ⟨r, hr, x, hx, hclash⟩ := h
    obtain ⟨y, hy, ho⟩ := hst.mem hx
    exact ⟨r, hr, y, hy, hclash.of_origin ho⟩
  | accepted =>
    obtain ⟨r, hr, x, hx, hheld⟩ := h
    obtain ⟨y, hy, ho⟩ := hst.mem hx
    exact ⟨r, hr, y, hy, hheld.of_origin ho⟩
  | refused =>
    obtain ⟨r, hr, x, hx, hclash, hnot⟩ := h
    obtain ⟨y, hy, ho⟩ := hst.mem hx
    exact ⟨r, hr, y, hy, hclash.of_origin ho, fun hy => hnot ⟨hy.1.of_origin ho.symm, hy.2⟩⟩

theorem createOrGet_follows (ids : UuidText) (c : TextWorkload) :
    (createOrGet c).Follows (ids.rules.protocol c) (ids.rules.ends c) SubmitPhase.asked := by
  refine ⟨⟨rfl, rfl⟩, ?_⟩
  rintro (e | _ | _) _
  · exact trivial
  · refine ⟨⟨rfl, rfl⟩, ?_⟩
    rintro (e | _ | stored) _
    · exact trivial
    · exact (rfl : SubmitPhase.refused = .refused)
    · change Program.Follows (ids.rules.protocol c) _ _
        (if stored.Same c then .ret (Except.ok stored)
        else .ret (Except.error SubmitError.conflict))
      by_cases hsame : stored.Same c
      · rw [if_pos hsame]
        exact ⟨if_pos hsame, hsame⟩
      · rw [if_neg hsame]
        exact (if_neg hsame : (if stored.Same c then SubmitPhase.accepted else .refused) = .refused)
  · exact ⟨rfl, .refl c⟩

theorem insertWorkload_eq_ok : ids.insertWorkload s c = .ok (inserted, t) ↔
    ∃ r u, ids.row c = some r ∧ s.store.insertWorkload r = .ok (inserted, u) ∧
      t = { s with store := u } := by
  unfold insertWorkload
  simp only [bind_eq_ok, okOr_eq_ok]
  refine exists_congr fun r => ?_
  rw [exists_and_left]
  refine and_congr_right fun _ => ?_
  cases hinsert : s.store.insertWorkload r with
  | error e =>
    constructor
    · rintro ⟨⟩
    · rintro ⟨u, hu, _⟩
      cases hu
  | ok y =>
    constructor
    · intro h
      cases h
      exact ⟨y.2, rfl, rfl⟩
    · rintro ⟨u, hu, rfl⟩
      cases hu
      rfl

theorem byRequestID_eq_ok : ids.byRequestID s requestID = .ok (stored, t) ↔
    ∃ q, ids.parse requestID = some q ∧
      (s.store.byRequestID q).map ids.scanWorkload = stored ∧ s = t := by
  simp only [byRequestID, bind_eq_ok, okOr_eq_ok, Except.ok.injEq, Prod.mk.injEq]

variable {q : SubmitQuery} {a : SubmitRow q}

theorem perform_grows (h : ids.perform s q = .ok (a, t)) : s.store.Grows t.store := by
  cases q with
  | insertWorkload candidate =>
    obtain ⟨r, u, _, hu, rfl⟩ := insertWorkload_eq_ok.1 h
    exact .insertWorkload hu
  | byRequestID requestID =>
    obtain ⟨_, _, _, rfl⟩ := byRequestID_eq_ok.1 h
    exact .same (.refl _)

theorem perform_known (h : ids.perform s q = .ok (a, t))
    (hk : ids.Known s c phase) (hq : (submitProtocol c).allows phase q) :
    ids.Known t c ((submitProtocol c).next phase q (.ok a)) := by
  cases q with
  | insertWorkload candidate =>
    obtain ⟨rfl, rfl⟩ := hq
    obtain ⟨r, u, hrow, hu, rfl⟩ := insertWorkload_eq_ok.1 h
    obtain ⟨hchecks, ⟨rfl, hfree, rfl⟩ | ⟨rfl, ⟨x, hx, hclash⟩, rfl⟩⟩ :=
      Store.insertWorkload_eq_ok.1 hu
    · have hnone := (Store.not_clashes_iff.2 hfree).1
      have hmem := (Store.mem_insert (x := r.inserted) hnone).2 (.inl rfl)
      exact ⟨r, ⟨hrow, hchecks⟩, r.inserted, hmem, rfl, rfl, rfl, rfl, rfl, rfl, rfl, rfl⟩
    · exact ⟨r, ⟨hrow, hchecks⟩, x, hx, hclash⟩
  | byRequestID requestID =>
    obtain ⟨rfl, rfl⟩ := hq
    obtain ⟨r, hr, x, hx, hclash⟩ := hk
    obtain ⟨q, hparse, rfl, rfl⟩ := byRequestID_eq_ok.1 h
    have hq := Option.some.inj (hparse.symm.trans (row_eq_some.1 hr.1).2.1)
    subst hq
    cases hread : s.store.byRequestID r.requestID with
    | none =>
      refine ⟨r, hr, x, hx, hclash, fun hheld => ?_⟩
      exact Store.byRequestID_eq_none.1 hread x hx hheld.1.1
    | some y =>
      obtain ⟨hy, hrequest⟩ := Store.byRequestID_eq_some hread
      have hsame := same_scanWorkload_iff (x := y) hr.1
      dsimp only [Option.map_some, submitProtocol]
      split
      · exact ⟨r, hr, y, hy, hrequest, (hsame.1 ‹_›).1⟩
      · refine ⟨r, hr, y, hy, .inr hrequest, fun hheld => ?_⟩
        exact absurd (hsame.2 ⟨hheld.1.2, hheld.2⟩) ‹_›

theorem answer_grows (ids : UuidText) (link : Link) (s : Plane) (c : TextWorkload)
    (q : SubmitQuery) : s.store.Grows (ids.answer link s c q).2.store := by
  unfold answer
  obtain ⟨heq, _⟩ | ⟨a, t, h, heq, _⟩ :=
    link.deliver_cases s .unavailable (ids.perform s q)
  · rw [heq]
    exact .same (.refl _)
  · rw [heq]
    exact perform_grows h

theorem answer_honest (hk : ids.Known s c phase)
    (hq : (submitProtocol c).allows phase q) (link : Link) :
    ids.rules.Honest c phase q (ids.answer link s c q) := by
  refine ⟨trivial, ?_⟩
  change ids.Known (ids.answer link s c q).2 c
    ((submitProtocol c).next phase q (ids.answer link s c q).1)
  cases hreply : (ids.answer link s c q).1 with
  | error e =>
    have hgrows := hk.grows (ids.answer_grows link s c q)
    cases q with
    | insertWorkload candidate => exact hgrows
    | byRequestID requestID => exact hgrows
  | ok a =>
    obtain ⟨_, hne⟩ | ⟨b, t, h, heq, hok⟩ :=
      link.deliver_cases s .unavailable (ids.perform s q)
    · exact absurd hreply (hne a)
    · cases hok a hreply
      rw [show (ids.answer link s c q).2 = t from heq]
      exact perform_known h hk hq

theorem Admits.again (h : ids.Admits c r) (createdAt updatedAt : Time) :
    ids.Admits (c.again createdAt updatedAt) { r with createdAt, updatedAt } :=
  ⟨row_again h.1 createdAt updatedAt, h.2⟩

section
variable (hrow : ids.row c = some r)
include hrow

theorem answer_insertWorkload
    (hinsert : s.store.insertWorkload r = .ok (inserted, u)) :
    ids.answer .up s c (.insertWorkload c) = (.ok inserted, { s with store := u }) := by
  change Link.deliver .up s _ (ids.insertWorkload s c) = _
  rw [insertWorkload_eq_ok.2 ⟨r, u, hrow, hinsert, rfl⟩]
  rfl

theorem answer_byRequestID :
    ids.answer .up s c (.byRequestID c.requestID) =
      (.ok ((s.store.byRequestID r.requestID).map ids.scanWorkload), s) := by
  change Link.deliver .up s _ (ids.byRequestID s c.requestID) = _
  rw [byRequestID_eq_ok.2 ⟨r.requestID, (row_eq_some.1 hrow).2.1, rfl, rfl⟩]
  rfl

theorem submitAlone_inserted
    (hinsert : s.store.insertWorkload r = .ok (true, u)) :
    ids.submitAlone c s = (.ok c, { s with store := u }) := by
  unfold submitAlone createOrGet
  rw [Program.exec_bind, Program.exec_ask, answer_insertWorkload hrow hinsert]
  rfl

theorem submitAlone_taken
    (hinsert : s.store.insertWorkload r = .ok (false, s.store)) :
    ids.submitAlone c s =
      (match s.store.byRequestID r.requestID with
      | none => .error .conflict
      | some x =>
        if (ids.scanWorkload x).Same c then .ok (ids.scanWorkload x) else .error .conflict, s) := by
  unfold submitAlone createOrGet
  rw [Program.exec_bind, Program.exec_ask, answer_insertWorkload hrow hinsert]
  dsimp only
  rw [Program.exec_bind, Program.exec_ask, answer_byRequestID hrow]
  cases s.store.byRequestID r.requestID with
  | none => rfl
  | some x =>
    dsimp only [Option.map_some]
    split
    · rfl
    · rfl

theorem submitAlone_step (hcanonical : ids.Canonical c) (s : Plane) :
    (ids.submitAlone c s).2 = step s (.createOrGet r) ∧
      (ids.submitAlone c s).1.isOk = (s.store.createOrGet r).isOk := by
  have hstep : step s (.createOrGet r) =
      commit s (s.store.createOrGet r >>= fun x => .ok { s with store := x.1 }) := rfl
  rw [hstep, Store.createOrGet_eq]
  cases hinsert : s.store.insertWorkload r with
  | error e =>
    have hreply : ids.answer .up s c (.insertWorkload c) = (.error .rejected, s) := by
      change Link.deliver .up s _ (ids.insertWorkload s c) = _
      unfold insertWorkload
      rw [okOr_bind hrow, hinsert]
      rfl
    unfold submitAlone createOrGet
    rw [Program.exec_bind, Program.exec_ask, hreply]
    exact ⟨rfl, rfl⟩
  | ok y =>
    obtain ⟨inserted, t⟩ := y
    obtain ⟨_, ⟨rfl, _, _⟩ | ⟨rfl, _, rfl⟩⟩ := Store.insertWorkload_eq_ok.1 hinsert
    · rw [submitAlone_inserted hrow hinsert]
      exact ⟨rfl, rfl⟩
    · rw [submitAlone_taken hrow hinsert]
      cases s.store.byRequestID r.requestID with
      | none => exact ⟨rfl, rfl⟩
      | some x =>
        have hsame : (ids.scanWorkload x).Same c ↔ x.SameRequest r :=
          (same_scanWorkload_iff hrow).trans (and_iff_left hcanonical)
        by_cases hx : x.SameRequest r
        · simp only [bind_of_ok rfl, okOr_bind rfl, ensure_bind hx, if_pos (hsame.2 hx)]
          exact ⟨rfl, rfl⟩
        · simp only [bind_of_ok rfl, okOr_bind rfl, if_neg (mt hsame.1 hx), ensure, if_neg hx]
          exact ⟨rfl, rfl⟩

end

section
variable (hr : ids.Admits c r) (hx : x ∈ s.store.workloads.rows) (hheld : x.Holds r)
include hr hx hheld

theorem insertWorkload_held : s.store.insertWorkload r = .ok (false, s.store) :=
  Store.insertWorkload_eq_ok.2 ⟨hr.2, .inr ⟨rfl, ⟨x, hx, hheld.clashes⟩, rfl⟩⟩

theorem submitAlone_held (honce : s.store.Once) : ids.submitAlone c s =
    (if (ids.scanWorkload x).Same c then .ok (ids.scanWorkload x) else .error .conflict, s) := by
  have hread : s.store.byRequestID r.requestID = some x := by
    cases hread : s.store.byRequestID r.requestID with
    | none => exact absurd hheld.1 (Store.byRequestID_eq_none.1 hread x hx)
    | some y =>
      obtain ⟨hy, hrequest⟩ := Store.byRequestID_eq_some hread
      rw [honce.eq_of_clashes hx hy hheld (.inr hrequest)]
  rw [submitAlone_taken hr.1 (insertWorkload_held hr hx hheld), hread]

theorem answer_world_held (hq : (submitProtocol c).allows phase q)
    (link : Link) : (ids.answer link s c q).2 = s := by
  obtain ⟨heq, _⟩ | ⟨a, t, h, heq, _⟩ :=
    link.deliver_cases s .unavailable (ids.perform s q)
  · exact heq
  · refine Eq.trans heq ?_
    cases q with
    | insertWorkload candidate =>
      obtain ⟨_, rfl⟩ := hq
      obtain ⟨r', u, hrow, hu, rfl⟩ := insertWorkload_eq_ok.1 h
      cases Option.some.inj (hrow.symm.trans hr.1)
      cases hu.symm.trans (insertWorkload_held hr hx hheld)
      rfl
    | byRequestID requestID =>
      obtain ⟨_, _, _, rfl⟩ := byRequestID_eq_ok.1 h
      rfl

end

end UuidText

namespace Submissions
variable {ids : UuidText} {s : Submissions} {c w : TextWorkload} {r x : Workload}

structure Sound (ids : UuidText) (s : Submissions) : Prop where
  once : s.world.store.Once
  obey : s.Obey ids.rules

theorem Sound.init (ids : UuidText) : Sound ids init := ⟨.empty, forall_mem_nil _⟩

theorem Sound.step (h : Sound ids s) (e : Event) : Sound ids (step ids s e) := by
  cases e with
  | submit candidate =>
    exact ⟨h.once, h.obey.start ⟨SubmitPhase.asked, trivial, ids.createOrGet_follows candidate⟩⟩
  | proceed call link =>
    refine ⟨?_, h.obey.proceed ?_ ?_⟩
    · exact Workers.proceed_world (P := fun w : Plane => w.store.Once) h.once
        fun key q _ => h.once.grows (ids.answer_grows link s.world key q)
    · intro key q phase _ hk hq
      exact UuidText.answer_honest hk hq link
    · intro key q _ t _ phase hk
      exact UuidText.Known.grows hk (ids.answer_grows link s.world key q)
  | act a =>
    have hgrows := grows_step s.world a
    exact ⟨h.once.grows hgrows, h.obey.world fun key phase hk => UuidText.Known.grows hk hgrows⟩

theorem Sound.accepted (h : Sound ids s) (hc : s.Accepted c w) :
    w.Same c ∧ ∃ r, ids.Admits c r ∧ ∃ x ∈ s.world.store.workloads.rows, x.Holds r := by
  obtain ⟨phase, hk, hphase, hsame⟩ := h.obey _ hc
  change phase = SubmitPhase.accepted at hphase
  subst hphase
  exact ⟨hsame, hk⟩

theorem Sound.refused (h : Sound ids s) (hc : (c, .ret (.error .conflict)) ∈ s.tasks) :
    ∃ r, ids.Admits c r ∧ ∃ x ∈ s.world.store.workloads.rows,
      x.Clashes r ∧ ¬ (x.Holds r ∧ ids.Canonical c) := by
  obtain ⟨phase, hk, hphase⟩ := h.obey _ hc
  change phase = SubmitPhase.refused at hphase
  subst hphase
  exact hk

def Canonical (ids : UuidText) (s : Submissions) : Prop := ∀ t ∈ s.tasks, ids.Canonical t.1

def Event.Canonical (ids : UuidText) : Event → Prop
  | .submit candidate => ids.Canonical candidate
  | _ => True

theorem Canonical.step (h : Canonical ids s) (he : e.Canonical ids) :
    Canonical ids (step ids s e) := by
  cases e with
  | submit candidate =>
    intro t ht
    obtain ht | ht := mem_append.1 ht
    · exact h t ht
    · cases mem_singleton.1 ht
      exact he
  | proceed call link =>
    intro t ht
    obtain ⟨t', ht', hkey⟩ := Workers.key_of_proceed ht
    exact hkey ▸ h t' ht'
  | act a => exact h

theorem Sound.alone_iff (h : Sound ids s) (hc : s.Accepted c w) (createdAt updatedAt : Time) :
    (∃ w', ids.submitAlone (c.again createdAt updatedAt) s.world = (.ok w', s.world) ∧ w'.Same w) ↔
      ids.Canonical c := by
  obtain ⟨hsame, r, hr, x, hx, hheld⟩ := h.accepted hc
  have hr' := hr.again createdAt updatedAt
  have hread := UuidText.same_scanWorkload_iff (x := x) hr'.1
  rw [UuidText.submitAlone_held hr' hx hheld h.once]
  constructor
  · rintro ⟨w', halone, _⟩
    split at halone
    · rename_i hscan
      obtain ⟨hworkload, howner, hproject⟩ := (hread.1 hscan).2
      exact ⟨hworkload, howner, hproject⟩
    · cases halone
  · intro hcanonical
    have hscan := hread.2 ⟨hheld.2, hcanonical.again _ _⟩
    rw [if_pos hscan]
    exact ⟨_, rfl, hscan.trans hsame.symm⟩

theorem Sound.again (h : Sound ids s) (hc : s.Accepted c w) (hcanonical : ids.Canonical c)
    (hi : s.tasks[i]? = some (c.again createdAt updatedAt, p)) :
    p ≠ .ret (.error .conflict) ∧ (∀ w', p = .ret (.ok w') → w'.Same w) ∧
      ∀ link, (Submissions.step ids s (.proceed i link)).world = s.world := by
  obtain ⟨hsame, r, hr, x, hx, hheld⟩ := h.accepted hc
  have hr' := hr.again createdAt updatedAt
  refine ⟨?_, ?_, fun link => ?_⟩
  · rintro rfl
    obtain ⟨r₂, hr₂, y, hy, hclash, hnot⟩ := h.refused (mem_of_getElem? hi)
    cases Option.some.inj (hr₂.1.symm.trans hr'.1)
    cases h.once.eq_of_clashes hx hy hheld hclash
    exact hnot ⟨hheld, hcanonical.again _ _⟩
  · rintro w' rfl
    exact (h.accepted (mem_of_getElem? hi)).1.trans hsame.symm
  · refine Workers.proceed_world (P := fun v : Plane => v = s.world) rfl ?_
    intro key q hq
    obtain ⟨k, hk⟩ := Workers.request_eq_some.1 hq
    cases hi.symm.trans hk
    obtain ⟨phase, _, hallows⟩ := h.obey.allows hq
    exact UuidText.answer_world_held hr' hx hheld hallows link

theorem Sound.apart (h : Sound ids s) (hc : s.Accepted c w) (hc' : s.Accepted c' w')
    (hcanonical : ids.Canonical c) (hcanonical' : ids.Canonical c')
    (hkey : ids.parse c.requestID = ids.parse c'.requestID ∨
      ids.parse c.workloadID = ids.parse c'.workloadID) : c.Same c' := by
  obtain ⟨_, r, hr, x, hx, hheld⟩ := h.accepted hc
  obtain ⟨_, r', hr', y, hy, hheld'⟩ := h.accepted hc'
  obtain ⟨hworkload, hrequest, _⟩ := UuidText.row_eq_some.1 hr.1
  obtain ⟨hworkload', hrequest', _⟩ := UuidText.row_eq_some.1 hr'.1
  have hclash : y.Clashes r := by
    obtain heq | heq := hkey
    · rw [hrequest, hrequest'] at heq
      exact .inr (hheld'.1.trans (Option.some.inj heq).symm)
    · rw [hworkload, hworkload'] at heq
      exact .inl (hheld'.2.2.1.trans (Option.some.inj heq).symm)
  cases h.once.eq_of_clashes hx hy hheld hclash
  have hread := (UuidText.same_scanWorkload_iff hr.1).2 ⟨hheld.2, hcanonical⟩
  exact hread.symm.trans ((UuidText.same_scanWorkload_iff hr'.1).2 ⟨hheld'.2, hcanonical'⟩)

theorem Sound.idempotent (h : Sound ids s) (hcanonical : Canonical ids s) : Idempotent ids s where
  once := h.once.pairwise
  own c w hc := by
    obtain ⟨hsame, r, hr, hheld⟩ := h.accepted hc
    exact ⟨hsame, r, hr.1, hheld⟩
  alone c w createdAt updatedAt hc := (h.alone_iff hc createdAt updatedAt).2 (hcanonical _ hc)
  again c w createdAt updatedAt i p hc hi := h.again hc (hcanonical _ hc) hi
  apart c w c' w' hc hc' hkey := h.apart hc hc' (hcanonical _ hc) (hcanonical _ hc') hkey

/-- Idempotent if ids are written as they are printed. -/
theorem submissions_idempotent (ids : UuidText) (events : List Event)
    (h : Along (step ids) (fun _ e => e.Canonical ids) init events) :
    Throughout (step ids) (Idempotent ids) init events := by
  refine Throughout.mono (h.throughout (I := fun s => Sound ids s ∧ Canonical ids s)
    ⟨.init ids, forall_mem_nil _⟩ ?_) fun s hs => hs.1.idempotent hs.2
  intro s e hs he
  exact ⟨hs.1.step e, hs.2.step he⟩

def uuids : UuidText where
  parse := parseUuid
  text := uuidText
  parse_text := parseUuid_uuidText
  text_ne u h := by
    have hparse := parseUuid_uuidText u
    rw [h] at hparse
    cases hparse

def sampleCandidate (workloadID : String) : TextWorkload where
  workloadID
  requestID := uuidText 1
  ownerID := uuidText 2
  projectID := ""
  requestHash := 0
  definition := .empty
  image := "registry/image"
  vmImageSha256 := ""
  state := .requested
  createdAt := 0
  updatedAt := 0
  reserved := .zero

theorem sampleCandidate_canonical (u : Uuid) : uuids.Canonical (sampleCandidate (uuidText u)) :=
  ⟨⟨u, rfl⟩, ⟨2, rfl⟩, ⟨none, rfl⟩⟩

def sampleEvents (workloadID : String) : List Event :=
  [.submit (sampleCandidate workloadID), .proceed 0 .up, .submit (sampleCandidate workloadID),
    .proceed 1 .up, .proceed 1 .up]

theorem submitAlone_step_conflict :
    let s := (uuids.submitAlone (sampleCandidate (uuidText 10)) .init).2
    ∃ r, uuids.row (sampleCandidate (uuidText 11)) = some r ∧
      (uuids.submitAlone (sampleCandidate (uuidText 11)) s).1 = .error .conflict ∧
      (uuids.submitAlone (sampleCandidate (uuidText 11)) s).2 =
        ControlPlane.step s (.createOrGet r) := by
  intro s
  have hrow : (uuids.row (sampleCandidate (uuidText 11))).isSome := by decide +kernel
  obtain ⟨r, hr⟩ := Option.isSome_iff_exists.1 hrow
  exact ⟨r, hr, by decide +kernel,
    (UuidText.submitAlone_step hr (sampleCandidate_canonical 11) s).1⟩

theorem submissions_idempotent_lower_case :
    Along (step uuids) (fun _ e => e.Canonical uuids) init (sampleEvents (uuidText 10)) ∧
      Throughout (step uuids) (Idempotent uuids) init (sampleEvents (uuidText 10)) := by
  have hcanonical := sampleCandidate_canonical 10
  have h : Along (step uuids) (fun _ e => e.Canonical uuids) init (sampleEvents (uuidText 10)) :=
    ⟨hcanonical, trivial, hcanonical, trivial, trivial, trivial⟩
  exact ⟨h, submissions_idempotent uuids _ h⟩

theorem upper_case_refused :
    let upper := "00000000-0000-0000-0000-00000000000A"
    (run (step uuids) init (sampleEvents upper)).tasks.map (fun t => t.2.result) =
        [some (.ok (sampleCandidate upper)), some (.error .conflict)] ∧
      ¬ Idempotent uuids (run (step uuids) init (sampleEvents upper)) := by
  intro upper
  refine ⟨by decide +kernel, fun h => ?_⟩
  have htasks :
      (run (step uuids) init (sampleEvents upper)).tasks.map (fun t => (t.1, t.2.result)) =
      [(sampleCandidate upper, some (.ok (sampleCandidate upper))),
        (sampleCandidate upper, some (.error .conflict))] := by decide +kernel
  generalize run (step uuids) init (sampleEvents upper) = s at h htasks
  have htask {i : Nat} {reply : Except SubmitError TextWorkload}
      (hi : (s.tasks.map fun t => (t.1, t.2.result))[i]? =
        some (sampleCandidate upper, some reply)) :
      s.tasks[i]? = some (sampleCandidate upper, .ret reply) := by
    rw [getElem?_map] at hi
    obtain ⟨⟨c, p⟩, ht, heq⟩ := Option.map_eq_some_iff.1 hi
    obtain ⟨hc, hresult⟩ := Prod.mk.inj heq
    exact ht.trans (congrArg some (Prod.ext hc (Program.eq_ret_of_result hresult)))
  rw [htasks] at htask
  exact (h.again _ _ 0 0 1 _ (mem_of_getElem? (htask (i := 0) rfl)) (htask rfl)).1 rfl

end Submissions

end OpenInfra.ControlPlane
