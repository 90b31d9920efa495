import OpenInfra.Rounds.Score

namespace OpenInfra.NetworkValidator
open Frame ScoringReputationUpdater Function List

variable {A Ledger : Type} [LinearOrder A] {E : Env A Ledger}
  {s t : Chain E} {a : Action A} {key : RoundKey A}
  {x : A × ScoreDimension}

def RoundResult.inForce (result : RoundResult) : Bool :=
  result.status = .final || result.status = .disputeRejected

def closedRounds (s : Chain E) (x : A × ScoreDimension) : List (RoundKey A) :=
  (closings s).filter (·.subject = x)

def latestInForce (s : Chain E) (x : A × ScoreDimension) : Option RoundResult :=
  ((closedRounds s x).filterMap s.validator.rounds).find? RoundResult.inForce

def otherWriter (x : A × ScoreDimension) (s : Chain E) (a : Action A) : Bool :=
  !isScoring a && scores (step s a) x ≠ scores s x

def superseded (s : Chain E) (key : RoundKey A) : Bool :=
  ((closedRounds s key.subject).takeWhile (· ≠ key)).any fun later =>
    (s.validator.rounds later).any RoundResult.inForce

/-- Moves the score of a round over a later one in force. -/
def revertsSuperseded (x : A × ScoreDimension) (s : Chain E) : Action A → Bool
  | .call o (.disputeRound provider round dimension) =>
    (provider, dimension) = x && (disputeRound s o provider round dimension).isOk &&
      superseded s ⟨provider, round, dimension⟩
  | .call o (.resolveRoundDispute provider round dimension false) =>
    (provider, dimension) = x && (resolveDispute s o provider round dimension false).isOk &&
      superseded s ⟨provider, round, dimension⟩
  | _ => false

/-- The closings list every closed round once. -/
structure Recorded (s : Chain E) : Prop where
  nodup : (closings s).Nodup
  closed : ∀ key, key ∈ closings s ↔ (s.validator.rounds key).isSome
  previous : ∀ key, ∀ result ∈ s.validator.rounds key,
    rounded E result.previousScoreBps = result.previousScoreBps

theorem Recorded.genesis (E : Env A Ledger) (L : Ledger) : Recorded (genesis E L) :=
  ⟨nodup_nil, fun _ => ⟨nofun, nofun⟩, nofun⟩

variable {result : RoundResult} {keys : List (RoundKey A)}

theorem Recorded.update {result result' : RoundResult} (h : Recorded s)
    (hresult : s.validator.rounds key = some result)
    (hrounds : t.validator.rounds = Function.update s.validator.rounds key (some result'))
    (hprevious : result'.previousScoreBps = result.previousScoreBps)
    (hclosings : closings t = closings s) : Recorded t := by
  refine ⟨hclosings ▸ h.nodup, fun k => ?_, fun k r hr => ?_⟩
  · rw [hclosings, h.closed, hrounds]
    by_cases hk : k = key
    · rw [hk, hresult, update_self]
      rfl
    · rw [update_of_ne hk]
  · rw [hrounds] at hr
    by_cases hk : k = key
    · rw [hk, update_self] at hr
      obtain rfl := Option.some.inj hr
      rw [hprevious]
      exact h.previous key result hresult
    · rw [update_of_ne hk] at hr
      exact h.previous k r hr

theorem Recorded.step (hM : E.config.maxReputation ∣ 10000) (h : Recorded s)
    (a : Action A) : Recorded (step s a) := by
  cases scoreStep s a with
  | quiet hrounds hclosings =>
    exact ⟨hclosings ▸ h.nodup, by rw [hclosings, hrounds]; exact h.closed,
      by rw [hrounds]; exact h.previous⟩
  | dispute _ _ _ _ _ hresult _ hrounds hclosings => exact h.update hresult hrounds rfl hclosings
  | uphold _ _ hresult _ hrounds hclosings => exact h.update hresult hrounds rfl hclosings
  | reject _ _ _ _ _ hresult _ hrounds hclosings => exact h.update hresult hrounds rfl hclosings
  | close key hopen hrounds hclosings =>
    have hnew : key ∉ closings s := by
      rw [h.closed, hopen]
      exact nofun
    refine ⟨hclosings ▸ nodup_cons.2 ⟨hnew, h.nodup⟩, fun k => ?_, fun k r hr => ?_⟩
    · rw [hclosings, mem_cons, h.closed, hrounds]
      by_cases hk : k = key
      · rw [hk, update_self]
        exact iff_of_true (.inl rfl) rfl
      · rw [update_of_ne hk]
        exact or_iff_right hk
    · rw [hrounds] at hr
      by_cases hk : k = key
      · rw [hk, update_self] at hr
        obtain rfl := Option.some.inj hr
        exact rounded_readBps hM _
      · rw [update_of_ne hk] at hr
        exact h.previous k r hr

def entry (E : Env A Ledger) (result : RoundResult) : Entry Nat where
  value := rounded E result.scoreBps
  previous := result.previousScoreBps
  inForce := result.inForce
  retractable := result.status = .final

def entries (s : Chain E) (keys : List (RoundKey A)) : List (Entry Nat) :=
  (keys.filterMap s.validator.rounds).map (entry E)

def journal (s : Chain E) (x : A × ScoreDimension) : List (Entry Nat) :=
  entries s (closedRounds s x)

theorem current_journal (base : Nat) (s : Chain E) (x : A × ScoreDimension) :
    Journal.current base (journal s x) =
      ((latestInForce s x).map fun result => rounded E result.scoreBps).getD base := by
  rw [Journal.current, journal, entries, find?_map, Option.map_map]
  rfl

theorem entries_of_notMem
    (hrounds : t.validator.rounds = Function.update s.validator.rounds key (some result))
    (hk : key ∉ keys) : entries t keys = entries s keys := by
  unfold entries
  congr 1
  refine filterMap_congr fun k hmem => ?_
  have hne : k ≠ key := by
    rintro rfl
    exact hk hmem
  rw [hrounds, update_of_ne hne]

theorem entries_cons
    (h : s.validator.rounds key = some result) :
    entries s (key :: keys) = entry E result :: entries s keys := by
  rw [entries, filterMap_cons_some h, map_cons, entries]

theorem entries_append (s : Chain E) (keys keys' : List (RoundKey A)) :
    entries s (keys ++ keys') = entries s keys ++ entries s keys' := by
  rw [entries, filterMap_append, map_append, entries, entries]

theorem mem_closedRounds : key ∈ closedRounds s x ↔ key ∈ closings s ∧ key.subject = x := by
  rw [closedRounds, mem_filter, decide_eq_true_iff]

theorem journal_other
    (hrounds : t.validator.rounds = Function.update s.validator.rounds key (some result))
    (hclosed : closedRounds t x = closedRounds s x) (hx : key.subject ≠ x) :
    journal t x = journal s x := by
  rw [journal, hclosed]
  exact entries_of_notMem hrounds fun hk => hx (mem_closedRounds.1 hk).2

theorem Recorded.split (h : Recorded s) (hresult : s.validator.rounds key = some result) :
    ∃ later earlier, closedRounds s key.subject = later ++ key :: earlier ∧ key ∉ later ∧
      key ∉ earlier := by
  have hmem : key ∈ closedRounds s key.subject := by
    refine mem_closedRounds.2 ⟨(h.closed key).2 ?_, rfl⟩
    rw [hresult]
    rfl
  obtain ⟨later, earlier, heq⟩ := append_of_mem hmem
  have hd : (closedRounds s key.subject).Nodup := h.nodup.filter _
  rw [heq, nodup_append] at hd
  obtain ⟨_, hearlier, hne⟩ := hd
  refine ⟨later, earlier, heq, fun hk => hne key hk key (.head _) rfl, ?_⟩
  exact (nodup_cons.1 hearlier).1

theorem idle_of_superseded
    (hsplit : closedRounds s key.subject = later ++ key :: earlier) (hlater : key ∉ later)
    (h : superseded s key = false) : Journal.Idle (entries s later) := by
  have hne : ∀ k ∈ later, decide (k ≠ key) = true := by
    intro k hk
    rw [decide_eq_true_iff]
    rintro rfl
    exact hlater hk
  rw [superseded, hsplit, takeWhile_append_of_pos hne, takeWhile_cons_of_neg (by simp),
    append_nil, any_eq_false] at h
  intro e he
  obtain ⟨result, hr, rfl⟩ := mem_map.1 he
  obtain ⟨k, hk, hresult⟩ := mem_filterMap.1 hr
  have hidle := h k hk
  rw [hresult, Option.any_some, Bool.not_eq_true] at hidle
  exact hidle

theorem Recorded.journal_split (h : Recorded s) (hresult : s.validator.rounds key = some result) :
    ∃ later earlier : List (Entry Nat),
      journal s key.subject = later ++ entry E result :: earlier ∧
      (∀ {t : Chain E} {result' : RoundResult},
        t.validator.rounds = Function.update s.validator.rounds key (some result') →
        closings t = closings s → journal t key.subject = later ++ entry E result' :: earlier) ∧
      (superseded s key = false → Journal.Idle later) := by
  obtain ⟨later, earlier, hsplit, hlater, hearlier⟩ := h.split hresult
  refine ⟨entries s later, entries s earlier, ?_, ?_, idle_of_superseded hsplit hlater⟩
  · rw [journal, hsplit, entries_append, entries_cons hresult]
  · intro t result' hrounds hclosings
    have hkey : t.validator.rounds key = some result' := by rw [hrounds, update_self]
    rw [journal, closedRounds, hclosings, ← closedRounds, hsplit, entries_append,
      entries_cons hkey, entries_of_notMem hrounds hlater, entries_of_notMem hrounds hearlier]

theorem closedRounds_of_eq (h : closings t = closings s) : closedRounds t x = closedRounds s x := by
  rw [closedRounds, h, closedRounds]

theorem Recorded.journal_close (h : Recorded s) (hopen : s.validator.rounds key = none)
    (hrounds : t.validator.rounds = Function.update s.validator.rounds key (some result))
    (hclosings : closings t = key :: closings s) :
    journal t key.subject = entry E result :: journal s key.subject := by
  have hnew : key ∉ closedRounds s key.subject := by
    rw [mem_closedRounds, h.closed, hopen]
    exact nofun
  have hkey : t.validator.rounds key = some result := by rw [hrounds, update_self]
  have hclosed : closedRounds t key.subject = key :: closedRounds s key.subject := by
    rw [closedRounds, hclosings, filter_cons_of_pos (by simp), ← closedRounds]
  rw [journal, hclosed, entries_cons hkey, entries_of_notMem hrounds hnew, ← journal]

theorem Recorded.journal_step (h : Recorded s) (hw : otherWriter x s a = false)
    (hr : revertsSuperseded x s a = false) :
    Journal.Step (scores s x, journal s x) (scores (OpenInfra.step s a) x,
      journal (OpenInfra.step s a) x) := by
  cases scoreStep s a with
  | quiet hrounds hclosings hscores =>
    have hjournal : journal (OpenInfra.step s a) x = journal s x := by
      rw [journal, closedRounds_of_eq hclosings, entries, hrounds, ← entries, ← journal]
    have hscore : scores (OpenInfra.step s a) x = scores s x := by
      cases ha : isScoring a with
      | true => rw [hscores ha]
      | false => simpa [otherWriter, ha] using hw
    rw [hjournal, hscore]
    exact .rest _
  | close key hopen hrounds hclosings hscores =>
    by_cases hx : key.subject = x
    · subst hx
      rw [h.journal_close hopen hrounds hclosings, hscores, update_self]
      exact .publish _ _ _
    · have hclosed : closedRounds (OpenInfra.step s a) x = closedRounds s x := by
        rw [closedRounds, hclosings, filter_cons_of_neg (by simpa using hx), ← closedRounds]
      rw [journal_other hrounds hclosed hx, hscores, update_of_ne (Ne.symm hx)]
      exact .rest _
  | dispute o key result ha hok hresult hfinal hrounds hclosings hscores =>
    by_cases hx : key.subject = x
    · subst hx ha
      obtain ⟨later, earlier, hsplit, hupdate, hidle⟩ := h.journal_split hresult
      rw [hsplit, hupdate hrounds hclosings, hscores, update_self,
        h.previous key result hresult]
      refine .retract _ (entry E result) (hidle ?_) (decide_eq_true hfinal)
      simpa [revertsSuperseded, RoundKey.subject, hok] using hr
    · rw [journal_other hrounds (closedRounds_of_eq hclosings) hx, hscores,
        update_of_ne (Ne.symm hx)]
      exact .rest _
  | uphold key result hresult hdisputed hrounds hclosings hscores =>
    rw [hscores]
    by_cases hx : key.subject = x
    · subst hx
      obtain ⟨later, earlier, hsplit, hupdate, _⟩ := h.journal_split hresult
      have hentry : entry E { result with status := .disputeUpheld } = entry E result := by
        simp [entry, RoundResult.inForce, hdisputed]
      rw [hsplit, hupdate hrounds hclosings, hentry]
      exact .rest _
    · rw [journal_other hrounds (closedRounds_of_eq hclosings) hx]
      exact .rest _
  | reject o key result ha hok hresult hdisputed hrounds hclosings hscores =>
    by_cases hx : key.subject = x
    · subst hx ha
      obtain ⟨later, earlier, hsplit, hupdate, hidle⟩ := h.journal_split hresult
      have hstanding : (entry E result).retractable = false := by simp [entry, hdisputed]
      have hentry : entry E { result with status := .disputeRejected } =
          { entry E result with inForce := true } := by
        simp [entry, RoundResult.inForce, hdisputed]
      rw [hsplit, hupdate hrounds hclosings, hscores, update_self, hentry]
      refine .restore _ (entry E result) (hidle ?_) hstanding
      simpa [revertsSuperseded, RoundKey.subject, hok] using hr
    · rw [journal_other hrounds (closedRounds_of_eq hclosings) hx, hscores,
        update_of_ne (Ne.symm hx)]
      exact .rest _

/-- The score is that of the latest undisputed round. -/
theorem score_follows_rounds (hM : E.config.maxReputation ∣ 10000) {L : Ledger}
    {acts acts' : List (Action A)} (x : A × ScoreDimension)
    (hfirst : closedRounds (run step (genesis E L) acts) x = [])
    (h : Along step (fun s a => otherWriter x s a = false ∧ revertsSuperseded x s a = false)
      (run step (genesis E L) acts) acts') :
    let s := run step (genesis E L) acts
    let t := run step s acts'
    dimensionScore t x.1 x.2 =
      ((latestInForce t x).map fun result => rounded E result.scoreBps).getD
        (dimensionScore s x.1 x.2) := by
  intro s t
  have hs : Recorded s := run_invariant (.genesis E L) (fun _ a h => h.step hM a) acts
  have hbegin : Journal.Faithful (scores s x) (scores s x, journal s x) := by
    rw [journal, hfirst]
    exact ⟨rfl, trivial⟩
  have ht := h.invariant
    (I := fun u => Recorded u ∧ Journal.Faithful (scores s x) (scores u x, journal u x))
    ⟨hs, hbegin⟩
    fun u a hu ha => ⟨hu.1.step hM a, (hu.1.journal_step ha.1 ha.2).faithful hu.2⟩
  exact ht.2.1.trans (current_journal _ t x)

def scoredRound (round score : Nat) : List (Action Nat) :=
  [1, 2, 3, 4].map (fun v => .call (.signed v) (.submitEvidence 9 round .availability score 1
      (List.Vector.replicate 32 (UInt8.ofNat v)))) ++
    [.call (.signed 1) (.closeRound 9 round .availability)]

def enrolRun : List (Action Nat) :=
  .call (.signed 9) (.registerProvider (List.Vector.replicate 32 9)) ::
    [1, 2, 3, 4].map (fun v => .call (.signed v) (.registerValidator 1000))

theorem score_follows_rounds_rejected :
    let s := run step devGenesis enrolRun
    let t := run step s (scoredRound 0 9005 ++
      [.call (.signed 9) (.disputeRound 9 0 .availability),
        .call .root (.resolveRoundDispute 9 0 .availability false)])
    dimensionScore t 9 .availability =
      ((latestInForce t (9, .availability)).map fun result =>
        rounded (Env.runtime (Host.constant : Host Nat)) result.scoreBps).getD
        (dimensionScore s 9 .availability) :=
  score_follows_rounds (by decide) (9, .availability) (by decide +kernel) (by decide +kernel)

def overturnedRun : List (Action Nat) :=
  enrolRun ++ scoredRound 0 9000 ++ scoredRound 1 2000 ++
    [.call (.signed 9) (.disputeRound 9 0 .availability),
      .call (.signed 9) (.disputeRound 9 1 .availability),
      .call .root (.resolveRoundDispute 9 0 .availability true),
      .call .root (.resolveRoundDispute 9 1 .availability true)]

theorem overturned_score_returns :
    dimensionScore (run step devGenesis enrolRun) 9 .availability = 5000 ∧
      latestInForce (run step devGenesis overturnedRun) (9, .availability) = none ∧
      dimensionScore (run step devGenesis overturnedRun) 9 .availability = 9000 := by
  decide +kernel

end OpenInfra.NetworkValidator
