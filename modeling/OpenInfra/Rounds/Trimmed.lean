import OpenInfra.Frame.Trim
import OpenInfra.Chain.NetworkValidator

namespace OpenInfra.NetworkValidator
open Frame List

variable {A : Type} [LinearOrder A] {a b c : Submission A}
  {submissions permuted : List (Submission A)}

theorem Submission.le_rfl : a.le a := .inr ⟨rfl, Std.le_refl _⟩

theorem Submission.le.trans (h : a.le b) (h' : b.le c) : a.le c := by
  obtain hlt | ⟨heq, hle⟩ := h
  · obtain hlt' | ⟨heq', _⟩ := h'
    · exact .inl (hlt.trans hlt')
    · exact .inl (heq' ▸ hlt)
  · obtain hlt' | ⟨heq', hle'⟩ := h'
    · exact .inl (heq ▸ hlt')
    · exact .inr ⟨heq.trans heq', hle.trans hle'⟩

theorem Submission.le.antisymm (h : a.le b) (h' : b.le a) : a.validator = b.validator := by
  obtain hlt | ⟨heq, hle⟩ := h
  · obtain hlt' | ⟨heq', _⟩ := h'
    · exact absurd hlt' hlt.asymm
    · exact absurd heq' hlt.ne'
  · obtain hlt' | ⟨_, hle'⟩ := h'
    · exact absurd heq hlt'.ne'
    · exact hle.antisymm hle'

theorem Submission.le.score (h : a.le b) : a.scoreBps ≤ b.scoreBps :=
  h.elim Nat.le_of_lt fun h => h.1.le

instance : IsTrans (Submission A) Submission.le := ⟨fun _ _ _ => Submission.le.trans⟩

instance : Std.Total (@Submission.le A _) where
  total a b := by
    obtain hlt | heq | hgt := lt_trichotomy a.scoreBps b.scoreBps
    · exact .inl (.inl hlt)
    · obtain hle | hle := le_total a.validator b.validator
      · exact .inl (.inr ⟨heq, hle⟩)
      · exact .inr (.inr ⟨heq.symm, hle⟩)
    · exact .inr (.inl hgt)

def ranked (submissions : List (Submission A)) : List (Submission A) :=
  submissions.insertionSort Submission.le

theorem ranked_pairwise (submissions : List (Submission A)) :
    (ranked submissions).Pairwise Submission.le := pairwise_insertionSort _ _

theorem ranked_perm (submissions : List (Submission A)) :
    (ranked submissions).Perm submissions := perm_insertionSort _ _

theorem ranked_eq (hd : (submissions.map (·.validator)).Nodup) (hp : permuted.Perm submissions) :
    ranked permuted = ranked submissions := by
  refine List.Perm.eq_of_pairwise (fun a b ha hb hab hba => ?_) (ranked_pairwise _)
    (ranked_pairwise _) (((ranked_perm _).trans hp).trans (ranked_perm _).symm)
  have ha' : a ∈ submissions := hp.subset ((ranked_perm permuted).subset ha)
  have hb' : b ∈ submissions := (ranked_perm submissions).subset hb
  exact inj_on_of_nodup_map hd ha' hb' (hab.antisymm hba)

theorem trimmed_short (h : submissions.length < 3) :
    (trimmed submissions).1 = ranked submissions := by
  unfold trimmed
  split
  · rename_i hempty
    rw [List.isEmpty_iff.1 hempty]
    rfl
  · dsimp only
    rw [if_neg]
    · rfl
    · rw [length_insertionSort]
      exact Nat.not_le.2 h

theorem trimmed_long (h : 3 ≤ submissions.length) :
    (trimmed submissions).1 = trim (ranked submissions) := by
  have hempty : ¬ submissions.isEmpty := by
    intro hempty
    rw [List.isEmpty_iff.1 hempty] at h
    cases h
  unfold trimmed
  rw [if_neg hempty]
  dsimp only
  rw [if_pos]
  · rfl
  · rwa [length_insertionSort]

theorem trimmed_subperm (submissions : List (Submission A)) :
    (trimmed submissions).1.Subperm submissions := by
  obtain h | h := Nat.lt_or_ge submissions.length 3
  · rw [trimmed_short h]
    exact (ranked_perm submissions).subperm
  · rw [trimmed_long h]
    exact (trim_sublist _).subperm.trans (ranked_perm submissions).subperm

theorem trimmed_length (h : 3 ≤ submissions.length) :
    (trimmed submissions).1.length = submissions.length - 2 := by
  rw [trimmed_long h, length_trim, (ranked_perm submissions).length_eq]

theorem trimmed_mean (submissions : List (Submission A)) :
    (trimmed submissions).2 = min (min ((trimmed submissions).1.map (·.scoreBps)).sum
      (maxValue 32) / (trimmed submissions).1.length) 10000 := by
  unfold trimmed
  split
  · simp
  · dsimp only
    rw [foldl_saturatingAdd _ _ (Nat.zero_le _), Nat.zero_add]

def longestSummable : Nat := 429498

theorem survivors_sum_le (hs : ∀ e ∈ submissions, e.scoreBps ≤ 10000)
    (hlen : submissions.length ≤ longestSummable) :
    ((trimmed submissions).1.map (·.scoreBps)).sum ≤ maxValue 32 := by
  have hsum : ((trimmed submissions).1.map (·.scoreBps)).sum ≤
      ((trimmed submissions).1.map (·.scoreBps)).length • 10000 := by
    refine sum_le_card_nsmul _ _ fun x hx => ?_
    obtain ⟨e, he, rfl⟩ := mem_map.1 hx
    exact hs e ((trimmed_subperm submissions).subset he)
  have hcount : (trimmed submissions).1.length ≤ 429496 := by
    obtain h | h := Nat.lt_or_ge submissions.length 3
    · exact (trimmed_subperm submissions).length_le.trans (by omega)
    · rw [trimmed_length h]
      exact Nat.sub_le_sub_right hlen 2
  rw [length_map, smul_eq_mul] at hsum
  have hmax : 429496 * 10000 ≤ maxValue 32 := by decide
  exact hsum.trans ((Nat.mul_le_mul_right _ hcount).trans hmax)

theorem trimmed_mean_eq (hs : ∀ e ∈ submissions, e.scoreBps ≤ 10000)
    (hlen : submissions.length ≤ longestSummable) :
    (trimmed submissions).2 = ((trimmed submissions).1.map (·.scoreBps)).sum /
      ((trimmed submissions).1.map (·.scoreBps)).length := by
  rw [trimmed_mean, Nat.min_eq_left (survivors_sum_le hs hlen), length_map]
  refine Nat.min_eq_left ?_
  by_cases hnil : (trimmed submissions).1 = []
  · rw [hnil, length_nil, Nat.div_zero]
    exact Nat.zero_le _
  · obtain ⟨x, hx, hle⟩ := exists_average_le (l := (trimmed submissions).1.map (·.scoreBps))
      (fun h => hnil (map_eq_nil_iff.1 h))
    obtain ⟨e, he, rfl⟩ := mem_map.1 hx
    rw [length_map] at hle
    exact hle.trans (hs e ((trimmed_subperm submissions).subset he))

theorem trimmed_mean_between
    (hp : submissions.Perm (x :: others)) (hs : ∀ e ∈ submissions, e.scoreBps ≤ 10000)
    (hn : 3 ≤ submissions.length) (hlen : submissions.length ≤ longestSummable) :
    (∃ low ∈ others, low.scoreBps ≤ (trimmed submissions).2) ∧
      ∃ high ∈ others, (trimmed submissions).2 ≤ high.scoreBps := by
  have hne : (trimmed submissions).1.map (·.scoreBps) ≠ [] := by
    intro hnil
    have hlength := trimmed_length hn
    rw [map_eq_nil_iff.1 hnil] at hlength
    exact absurd hlength.symm (Nat.sub_ne_zero_of_lt hn)
  have hbetween {m : Submission A} (hm : m ∈ (trimmed submissions).1) :
      (∃ x ∈ others, x.le m) ∧ ∃ x ∈ others, m.le x := by
    rw [trimmed_long hn] at hm
    refine trim_between (fun _ => Submission.le_rfl) (ranked_pairwise submissions) ?_
      ((ranked_perm submissions).trans hp) hm
    rw [(ranked_perm submissions).length_eq]
    exact Nat.le_of_succ_le hn
  rw [trimmed_mean_eq hs hlen]
  constructor
  · obtain ⟨s, hs', hle⟩ := exists_le_average hne
    obtain ⟨m, hm, rfl⟩ := mem_map.1 hs'
    obtain ⟨low, hlow, hlowm⟩ := (hbetween hm).1
    exact ⟨low, hlow, hlowm.score.trans hle⟩
  · obtain ⟨s, hs', hle⟩ := exists_average_le hne
    obtain ⟨m, hm, rfl⟩ := mem_map.1 hs'
    obtain ⟨high, hhigh, hmhigh⟩ := (hbetween hm).2
    exact ⟨high, hhigh, hle.trans hmhigh.score⟩

theorem trimmed_perm (hd : (submissions.map (·.validator)).Nodup)
    (hp : permuted.Perm submissions) : trimmed permuted = trimmed submissions := by
  have hranked := ranked_eq hd hp
  unfold ranked at hranked
  unfold trimmed
  rw [hranked, hp.isEmpty_eq]

/-- Exact, in any order, and no single score moves it past the others. -/
theorem trimmed_robust (submissions : List (Submission A))
    (hs : ∀ e ∈ submissions, e.scoreBps ≤ 10000) (hd : (submissions.map (·.validator)).Nodup) :
    (∀ permuted, permuted.Perm submissions → trimmed permuted = trimmed submissions) ∧
      (3 ≤ submissions.length → (trimmed submissions).1.length = submissions.length - 2 ∧
        (trimmed submissions).1.Subperm submissions) ∧
      Config.runtime.maxValidatorSubmissionsPerRound ≤ longestSummable ∧
      (submissions.length ≤ longestSummable →
        (trimmed submissions).2 = ((trimmed submissions).1.map (·.scoreBps)).sum /
          (trimmed submissions).1.length) ∧
      (3 ≤ submissions.length → submissions.length ≤ longestSummable →
        ∀ earlier x later, submissions = earlier ++ x :: later → ∀ score ≤ 10000,
          let mean := (trimmed (earlier ++ { x with scoreBps := score } :: later)).2
          (∃ low ∈ earlier ++ later, low.scoreBps ≤ mean) ∧
            ∃ high ∈ earlier ++ later, mean ≤ high.scoreBps) := by
  refine ⟨fun permuted hp => trimmed_perm hd hp,
    fun hn => ⟨trimmed_length hn, trimmed_subperm submissions⟩, by decide, fun hlen => ?_, ?_⟩
  · have hmean := trimmed_mean_eq hs hlen
    rwa [length_map] at hmean
  · rintro hn hlen earlier x later rfl score hscore
    refine trimmed_mean_between perm_middle (fun e he => ?_) ?_ ?_
    · obtain he | he := mem_append.1 he
      · exact hs e (mem_append_left _ he)
      · obtain rfl | he := mem_cons.1 he
        · exact hscore
        · exact hs e (mem_append_right _ (mem_cons_of_mem _ he))
    · rwa [length_append, length_cons] at hn ⊢
    · rwa [length_append, length_cons] at hlen ⊢

def spreadReports : List (Submission Nat) :=
  [⟨4, 8000, 1, List.Vector.replicate 32 4⟩, ⟨2, 8100, 1, List.Vector.replicate 32 2⟩,
    ⟨3, 7900, 1, List.Vector.replicate 32 3⟩, ⟨1, 8000, 1, List.Vector.replicate 32 1⟩]

theorem trimmed_robust_spread :
    trimmed spreadReports.reverse = trimmed spreadReports ∧
      (trimmed spreadReports).1.length = 2 ∧ (trimmed spreadReports).2 = 8000 ∧
      let mean := (trimmed (spreadReports.dropLast ++
        [⟨1, 10000, 1, List.Vector.replicate 32 1⟩])).2
      (∃ low ∈ spreadReports.dropLast ++ [], low.scoreBps ≤ mean) ∧
        ∃ high ∈ spreadReports.dropLast ++ [], mean ≤ high.scoreBps :=
  have h := trimmed_robust spreadReports (by decide) (by decide)
  ⟨h.1 _ (reverse_perm _), (h.2.1 (by decide)).1, (h.2.2.2.1 (by decide)).trans (by decide),
    h.2.2.2.2 (by decide) (by decide) spreadReports.dropLast
      ⟨1, 8000, 1, List.Vector.replicate 32 1⟩ [] rfl 10000 (by decide)⟩

end OpenInfra.NetworkValidator
