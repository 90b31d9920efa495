import OpenInfra.Neutron.Networks

namespace OpenInfra.Neutron
open Frame List
open ControlPlane (Uuid)

namespace Cidr

structure Aligned (cidr : Cidr) : Prop where
  length_le : cidr.prefixLength ≤ 32
  network_lt : cidr.network < 2 ^ 32
  masked : cidr.network % cidr.size = 0

variable {cidr a b : Cidr}

theorem size_pos (cidr : Cidr) : 0 < cidr.size := Nat.two_pow_pos _

theorem contains_iff : cidr.contains ip ↔ cidr.network ≤ ip ∧ ip < cidr.network + cidr.size :=
  decide_eq_true_iff

theorem Aligned.contains_div (h : cidr.Aligned) :
    cidr.contains ip ↔ ip / cidr.size = cidr.network / cidr.size := by
  obtain ⟨k, hk⟩ := Nat.dvd_of_mod_eq_zero h.masked
  have hpos := cidr.size_pos
  rw [contains_iff, hk, Nat.mul_div_cancel_left _ hpos, Nat.div_eq_iff hpos, Nat.mul_comm]
  omega

theorem Aligned.contains_network (ha : a.Aligned) (hb : b.Aligned)
    (hle : a.prefixLength ≤ b.prefixLength) (hia : a.contains ip) (hib : b.contains ip) :
    a.contains b.network := by
  obtain ⟨k, hk⟩ : b.size ∣ a.size := Nat.pow_dvd_pow 2 (Nat.sub_le_sub_left hle 32)
  obtain ⟨j, hj⟩ := Nat.dvd_of_mod_eq_zero hb.masked
  rw [ha.contains_div] at hia ⊢
  rw [hb.contains_div] at hib
  rw [← hia, hk, ← Nat.div_div_eq_div_mul, ← Nat.div_div_eq_div_mul, hib]

theorem Aligned.overlaps_iff (ha : a.Aligned) (hb : b.Aligned) :
    a.overlaps b ↔ ∃ ip, a.contains ip ∧ b.contains ip := by
  have hself (c : Cidr) : c.contains c.network :=
    contains_iff.2 ⟨le_rfl, Nat.lt_add_of_pos_right c.size_pos⟩
  unfold overlaps
  rw [decide_eq_true_iff]
  constructor
  · rintro (h | h)
    · exact ⟨b.network, h, hself b⟩
    · exact ⟨a.network, hself a, h⟩
  · rintro ⟨ip, hia, hib⟩
    obtain hle | hle := Nat.le_total a.prefixLength b.prefixLength
    · exact .inl (ha.contains_network hb hle hia hib)
    · exact .inr (hb.contains_network ha hle hib hia)

end Cidr

/-- An IPv4 block with a mask of four bytes; `::ffff:10.0.0.0/120` has one of sixteen. -/
def Library.Parses (lib : Library) : Prop :=
  ∀ text parsed, lib.parseCIDR text = some parsed → parsed.ipv4 →
    parsed.network.prefixLength ≤ 32 → parsed.network.Aligned

theorem validateSubnetCIDR_eq_ok
    (h : validateSubnetCIDR lib text gateway = .ok (cidr, gatewayIP)) :
    (∃ parsed, lib.parseCIDR text = some parsed ∧ parsed.ipv4 ∧ parsed.network = cidr) ∧
      16 ≤ cidr.prefixLength ∧ cidr.prefixLength ≤ 29 ∧ ¬ cidr.overlaps legacyOverlayRange := by
  unfold validateSubnetCIDR at h
  obtain ⟨parsed, hparsed, h⟩ := bind_eq_ok.1 h
  obtain ⟨_, _, h⟩ := bind_eq_ok.1 h
  obtain ⟨_, hipv4, h⟩ := bind_eq_ok.1 h
  obtain ⟨_, hlength, h⟩ := bind_eq_ok.1 h
  obtain ⟨_, hrange, h⟩ := bind_eq_ok.1 h
  have hcidr : parsed.network = cidr := by
    split at h
    · cases h
      rfl
    · obtain ⟨_, _, h⟩ := bind_eq_ok.1 h
      obtain ⟨_, _, h⟩ := bind_eq_ok.1 h
      cases h
      rfl
  subst hcidr
  exact ⟨⟨parsed, okOr_eq_ok.1 hparsed, ensure_eq_ok.1 hipv4, rfl⟩, (ensure_eq_ok.1 hlength).1,
    (ensure_eq_ok.1 hlength).2, ensure_eq_ok.1 hrange⟩

inductive SubnetCall where
  | create (subnetID networkID projectID : Uuid) (cidr : String) (gatewayIP : Option String)
  | delete (subnetID projectID : Uuid)

namespace Database

/-- A call without others beside it, as transaction 0. -/
def alone (db : Database) (x : Repository A) : Except NetworkError A × Database :=
  x.run.exec (fun st db => db.answer .up 0 st) db

def serveSubnet (lib : Library) (db : Database) : SubnetCall → Database
  | .create subnetID networkID projectID cidr gatewayIP =>
    match validateSubnetCIDR lib cidr gatewayIP with
    | .error _ => db
    | .ok (cidr, gatewayIP) =>
      (db.alone (Repository.createSubnet
        ⟨subnetID, networkID, projectID, cidr, gatewayIP, false⟩)).2
  | .delete subnetID projectID => (db.alone (Repository.deleteSubnet subnetID projectID)).2

variable {db : Database}

theorem alone_bind (x : Repository A) (f : A → Repository B) (db : Database) :
    db.alone (x >>= f) = match db.alone x with
      | (.ok a, db') => db'.alone (f a)
      | (.error e, db') => (.error e, db') := by
  refine (Program.exec_bind _ x.run _ db).trans ?_
  unfold alone
  rcases x.run.exec _ db with ⟨e | a, db'⟩ <;> rfl

theorem alone_query (st : Statement) (db : Database) :
    db.alone (Repository.query st) = db.answer .up 0 st := rfl

theorem alone_atomically (body : Repository A) (db : Database) :
    db.alone (Repository.atomically body) =
      ((db.alone body).1, (db.alone body).2.release 0) := Program.exec_bind _ body.run _ db

theorem alone_map (x : Repository A) (k : Except NetworkError A → Handler (Except NetworkError B))
    (hk : ∀ r, ∃ b, k r = .ret b) (db : Database) :
    (db.alone (ExceptT.mk (x.run >>= k))).2 = (db.alone x).2 := by
  refine (congrArg Prod.snd (Program.exec_bind _ x.run k db)).trans ?_
  obtain ⟨b, hb⟩ := hk (x.run.exec _ db).1
  rw [hb]
  rfl

def Idle (db : Database) : Prop := db.own 0 = []

theorem idle_release (db : Database) : Idle (db.release 0) := Transactions.own_release_self

theorem tables_commit (h : db.Idle) (w : Write) :
    tables (commit (db.draft 0 w) 0) = db.tables.apply w := by
  change ((db.draft 0 w).own 0).foldl Tables.apply db.tables = _
  rw [show (db.draft 0 w).own 0 = db.own 0 ++ [w] from Transactions.own_draft_self, h]
  rfl

theorem answer_insert (db : Database) (subnet : Subnet) :
    (∃ e, db.answer .up 0 (.insert subnet) = (.error e, db)) ∨
      db.answer .up 0 (.insert subnet) =
        (.ok (), db.draft 0 (.insert subnet)) := by
  change (∃ e, Link.up.deliver db NetworkError.database (ite _ _ (ite _ _ _)) = _) ∨
    Link.up.deliver db NetworkError.database (ite _ _ (ite _ _ _)) = _
  split
  · exact .inl ⟨_, rfl⟩
  · split
    · exact .inr rfl
    · exact .inl ⟨_, rfl⟩

theorem answer_update (db : Database) (subnetID projectID : Uuid) :
    db.answer .up 0 (.update subnetID projectID) = (.ok false, db) ∨
      db.answer .up 0 (.update subnetID projectID) =
        (.ok true, db.draft 0 (.delete subnetID)) := by
  change Link.up.deliver db NetworkError.database (ite _ _ _) = _ ∨
    Link.up.deliver db NetworkError.database (ite _ _ _) = _
  split
  · exact .inr rfl
  · exact .inl rfl

theorem alone_execInsert (h : db.Idle) (subnet : Subnet) :
    let x := db.alone (Repository.execInsert subnet)
    x.2.Idle ∧ (x.2.tables = db.tables ∨ x.2.tables = db.tables.apply (.insert subnet)) := by
  rw [Repository.execInsert, alone_atomically, alone_bind, alone_query]
  refine ⟨idle_release _, ?_⟩
  obtain ⟨e, he⟩ | hok := answer_insert db subnet
  · rw [he]
    exact .inl rfl
  · rw [hok]
    exact .inr (tables_commit h _)

theorem alone_execDelete (h : db.Idle) (subnetID projectID : Uuid) :
    let x := db.alone (Repository.execDelete subnetID projectID)
    x.2.Idle ∧ (x.2.tables = db.tables ∨ x.2.tables = db.tables.apply (.delete subnetID)) := by
  rw [Repository.execDelete, alone_atomically, alone_bind, alone_query, show db.answer .up 0
    (.evaluate subnetID projectID) =
      (.ok ((db.tables.selectSubnet subnetID projectID).isSome && db.tables.vacant subnetID), db)
      from rfl]
  refine ⟨idle_release _, ?_⟩
  dsimp only
  split
  · rw [alone_bind, alone_query]
    obtain hno | hyes := answer_update db subnetID projectID
    · rw [hno]
      exact .inl rfl
    · rw [hyes]
      exact .inr (tables_commit h _)
  · exact .inl rfl

theorem alone_createSubnet (h : db.Idle) (subnet : Subnet) :
    let x := db.alone (Repository.createSubnet subnet)
    x.2.Idle ∧ (x.2.tables = db.tables ∨ (∀ c ∈ db.tables.selectCIDRs, ¬ subnet.cidr.overlaps c) ∧
      x.2.tables = db.tables.apply (.insert subnet)) := by
  rw [Repository.createSubnet, alone_bind, alone_query, show db.answer .up 0
    .selectCIDRs = (.ok db.tables.selectCIDRs, db) from rfl]
  dsimp only
  split
  · exact ⟨h, .inl rfl⟩
  · rename_i hno
    have hdisjoint : ∀ c ∈ db.tables.selectCIDRs, ¬ subnet.cidr.overlaps c :=
      fun c hc hover => hno (any_eq_true.2 ⟨c, hc, hover⟩)
    obtain ⟨hidle, htables⟩ := alone_execInsert h subnet
    rw [alone_map]
    · exact ⟨hidle, htables.imp_right fun heq => ⟨hdisjoint, heq⟩⟩
    · rintro (e | u)
      · cases e <;> exact ⟨_, rfl⟩
      · exact ⟨_, rfl⟩

theorem alone_deleteSubnet (h : db.Idle) (subnetID projectID : Uuid) :
    let x := db.alone (Repository.deleteSubnet subnetID projectID)
    x.2.Idle ∧ (x.2.tables = db.tables ∨
      x.2.tables = db.tables.apply (.delete subnetID)) := by
  obtain ⟨hidle, htables⟩ := alone_execDelete h subnetID projectID
  rw [Repository.deleteSubnet, alone_bind]
  generalize db.alone (Repository.execDelete subnetID projectID) = x at *
  obtain ⟨e | b, db'⟩ := x
  · exact ⟨hidle, htables⟩
  · dsimp only
    split
    · exact ⟨hidle, htables⟩
    · rw [alone_bind, Repository.getSubnet, alone_bind, alone_query, show db'.answer .up 0
        (.selectSubnet subnetID projectID) =
          (.ok (db'.tables.selectSubnet subnetID projectID), db') from rfl]
      dsimp only
      cases db'.tables.selectSubnet subnetID projectID <;> exact ⟨hidle, htables⟩

end Database

def Cidr.Apart (a b : Cidr) : Prop := ∀ ip, ¬ (a.contains ip ∧ b.contains ip)

/-- Live subnets are blocks apart. -/
structure Tables.Disjoint (t : Tables) : Prop where
  aligned : ∀ s ∈ t.subnets.rows, s.deleted = false → s.cidr.Aligned
  apart : ∀ s ∈ t.subnets.rows, ∀ s' ∈ t.subnets.rows, s.deleted = false → s'.deleted = false →
    s.subnetID ≠ s'.subnetID → s.cidr.Apart s'.cidr
  reserved : ∀ s ∈ t.subnets.rows, s.deleted = false → s.cidr.Apart legacyOverlayRange

theorem legacyOverlayRange_aligned : legacyOverlayRange.Aligned := by
  constructor <;> decide

namespace Tables.Disjoint
variable {t : Tables}

theorem insert (h : t.Disjoint) (haligned : subnet.cidr.Aligned)
    (hreserved : ¬ subnet.cidr.overlaps legacyOverlayRange)
    (hapart : ∀ c ∈ t.selectCIDRs, ¬ subnet.cidr.overlaps c) :
    (t.apply (.insert subnet)).Disjoint := by
  have hold {s : Subnet} (hs : s ∈ t.subnets.rows) (hlive : s.deleted = false) :
      subnet.cidr.Apart s.cidr := by
    intro ip hip
    refine hapart s.cidr (mem_map_of_mem (mem_filter.2 ⟨hs, decide_eq_true hlive⟩)) ?_
    exact (haligned.overlaps_iff (h.aligned s hs hlive)).2 ⟨ip, hip⟩
  refine ⟨fun s hs hlive => ?_, fun s hs s' hs' hlive hlive' hne => ?_, fun s hs hlive => ?_⟩
  · obtain rfl | ⟨hs, _⟩ := Table.mem_put.1 hs
    · exact haligned
    · exact h.aligned s hs hlive
  · obtain rfl | ⟨hs, _⟩ := Table.mem_put.1 hs
    · obtain rfl | ⟨hs', _⟩ := Table.mem_put.1 hs'
      · exact absurd rfl hne
      · exact hold hs' hlive'
    · obtain rfl | ⟨hs', _⟩ := Table.mem_put.1 hs'
      · exact fun ip hip => hold hs hlive ip hip.symm
      · exact h.apart s hs s' hs' hlive hlive' hne
  · obtain rfl | ⟨hs, _⟩ := Table.mem_put.1 hs
    · exact fun ip hip => hreserved
        ((haligned.overlaps_iff legacyOverlayRange_aligned).2 ⟨ip, hip⟩)
    · exact h.reserved s hs hlive

theorem delete (h : t.Disjoint) (subnetID : Uuid) :
    (t.apply (.delete subnetID)).Disjoint := by
  have hold {s : Subnet} (hs : s ∈ (t.apply (.delete subnetID)).subnets.rows)
      (hlive : s.deleted = false) : s ∈ t.subnets.rows := by
    unfold apply at hs
    dsimp only at hs
    split at hs
    · exact hs
    · obtain rfl | ⟨hs, _⟩ := Table.mem_put.1 hs
      · cases hlive
      · exact hs
  exact ⟨fun s hs hlive => h.aligned s (hold hs hlive) hlive,
    fun s hs s' hs' hlive hlive' => h.apart s (hold hs hlive) s' (hold hs' hlive') hlive hlive',
    fun s hs hlive => h.reserved s (hold hs hlive) hlive⟩

theorem serveSubnet {db : Database} (hlib : lib.Parses) (hidle : db.Idle)
    (h : db.tables.Disjoint) (call : SubnetCall) :
    (db.serveSubnet lib call).Idle ∧ (db.serveSubnet lib call).tables.Disjoint := by
  cases call with
  | create subnetID networkID projectID cidr gatewayIP =>
    unfold Database.serveSubnet
    dsimp only
    split
    · exact ⟨hidle, h⟩
    · rename_i cidr' gatewayIP' hvalid
      obtain ⟨⟨parsed, hparsed, hipv4, rfl⟩, _, hle, hreserved⟩ := validateSubnetCIDR_eq_ok hvalid
      have hmask := hle.trans (Nat.le_add_right 29 3)
      obtain ⟨hidle, heq | ⟨hapart, heq⟩⟩ := Database.alone_createSubnet hidle
        ⟨subnetID, networkID, projectID, parsed.network, gatewayIP', false⟩
      · exact ⟨hidle, heq ▸ h⟩
      · exact ⟨hidle, heq ▸ h.insert (hlib _ _ hparsed hipv4 hmask) hreserved hapart⟩
  | delete subnetID projectID =>
    obtain ⟨hidle, heq | heq⟩ :=
      Database.alone_deleteSubnet hidle subnetID projectID
    · exact ⟨hidle, heq ▸ h⟩
    · exact ⟨hidle, heq ▸ h.delete subnetID⟩

end Tables.Disjoint

/-- Live subnets share no address, nor with the legacy range. -/
theorem subnets_disjoint (lib : Library) (hlib : lib.Parses) (networks : Table Network.networkID)
    (ports : Ports) (calls : List SubnetCall) :
    (calls.foldl (Database.serveSubnet lib)
      ⟨⟨networks, .empty, ports⟩, fun _ => none, []⟩).tables.Disjoint ∧
    ∀ a b : Cidr, a.Aligned → b.Aligned → (a.overlaps b ↔ ∃ ip, a.contains ip ∧ b.contains ip) := by
  refine ⟨?_, fun a b ha hb => ha.overlaps_iff hb⟩
  suffices h : ∀ db : Database, db.Idle → db.tables.Disjoint →
      (calls.foldl (Database.serveSubnet lib) db).tables.Disjoint from
    h _ rfl ⟨fun _ hs => absurd hs not_mem_nil, fun _ hs => absurd hs not_mem_nil,
      fun _ hs => absurd hs not_mem_nil⟩
  induction calls with
  | nil => exact fun db _ h => h
  | cons call calls ih =>
    intro db hidle h
    obtain ⟨hidle, h⟩ := h.serveSubnet hlib hidle call
    exact ih _ hidle h

def oneBlock : Library where
  parseCIDR text := if text = "10.0.0.0/24" then some ⟨10 * 256 ^ 3, ⟨10 * 256 ^ 3, 24⟩, true⟩
    else none
  parseIP _ := none

theorem oneBlock_parses : oneBlock.Parses := by
  intro text parsed h _ _
  change ite _ _ _ = some parsed at h
  split at h
  · cases h
    constructor <;> decide
  · cases h

theorem subnets_disjoint_second_refused :
    let calls := [SubnetCall.create 2 1 7 "10.0.0.0/24" none, .create 3 1 7 "10.0.0.0/24" none]
    let db := calls.foldl (Database.serveSubnet oneBlock)
      ⟨⟨Table.empty.put ⟨1, 7, "net", false, false⟩, .empty, []⟩, fun _ => none, []⟩
    (db.tables.subnets.rows.map Subnet.subnetID) = [2] ∧ db.tables.Disjoint := by
  intro calls db
  exact ⟨by decide +kernel, (subnets_disjoint oneBlock oneBlock_parses _ _ calls).1⟩

end OpenInfra.Neutron
