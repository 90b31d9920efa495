import OpenInfra.Frame.Program

namespace Frame
open List

structure Workers (W K Request : Type) (Reply : Request → Type) (A : Type) where
  world : W
  tasks : List (K × Program Request Reply A)

abbrev Answers (W K Request : Type) (Reply : Request → Type) :=
  W → K → (q : Request) → Reply q × W

/-- A connection that is up, down, or lost before the reply. -/
inductive Link where
  | up
  | down
  | lost

def Link.deliver (link : Link) (w : W) (failure : ε) (x : Except ε (A × W)) : Except ε A × W :=
  match link, x with
  | .down, _ => (.error failure, w)
  | .up, .ok (a, w') => (.ok a, w')
  | .up, .error e => (.error e, w)
  | .lost, .ok (_, w') => (.error failure, w')
  | .lost, .error _ => (.error failure, w)

theorem Link.deliver_cases (link : Link) (w : W) (failure : ε) (x : Except ε (A × W)) :
    (link.deliver w failure x).2 = w ∧ (∀ a, (link.deliver w failure x).1 ≠ .ok a) ∨
      ∃ a w', x = .ok (a, w') ∧ (link.deliver w failure x).2 = w' ∧
        ∀ b, (link.deliver w failure x).1 = .ok b → b = a := by
  rcases x with e | ⟨a, w'⟩
  · cases link <;> exact .inl ⟨rfl, nofun⟩
  · cases link with
    | up =>
      refine .inr ⟨a, w', rfl, rfl, ?_⟩
      intro b hb
      cases hb
      rfl
    | down => exact .inl ⟨rfl, nofun⟩
    | lost => exact .inr ⟨a, w', rfl, rfl, nofun⟩

/-- What a task may ask, what the world keeps, and how it may end. -/
structure Rules (W K Request : Type) (Reply : Request → Type) (A : Type) where
  protocol : K → Protocol Request Reply
  known : W → (key : K) → (protocol key).State → Prop
  ends : (key : K) → (protocol key).State → A → Prop

theorem getElem?_append_singleton
    (h : (xs ++ [x])[j]? = some y) : xs[j]? = some y ∨ j = xs.length ∧ y = x := by
  rw [getElem?_append] at h
  split at h
  · exact .inl h
  · obtain ⟨hj, hy⟩ := List.getElem?_eq_some_iff.1 h
    rw [length_singleton] at hj
    refine .inr ⟨by omega, ?_⟩
    rw [← hy, getElem_singleton]

theorem mem_set_cases {l : List α} (h : x ∈ l.set i a) : x ∈ l.eraseIdx i ∨ x = a := by
  obtain ⟨j, hj⟩ := mem_iff_getElem?.1 h
  by_cases hij : i = j
  · subst hij
    rw [getElem?_set_self'] at hj
    obtain ⟨_, _, rfl⟩ := Option.map_eq_some_iff.1 hj
    exact .inr rfl
  · rw [getElem?_set_ne hij] at hj
    exact .inl (mem_eraseIdx_iff_getElem?.2 ⟨j, Ne.symm hij, hj⟩)

section
variable {W K Request A : Type} {Reply : Request → Type}

namespace Rules
variable {R : Rules W K Request Reply A}

def Obeys (R : Rules W K Request Reply A) (w : W) (key : K) (p : Program Request Reply A) : Prop :=
  ∃ c, R.known w key c ∧ p.Follows (R.protocol key) (R.ends key) c

def Extends (R : Rules W K Request Reply A) (w w' : W) : Prop :=
  ∀ key c, R.known w key c → R.known w' key c

theorem Obeys.mono (h : R.Obeys w key p) (hw : R.Extends w w') : R.Obeys w' key p := by
  obtain ⟨c, hc, hp⟩ := h
  exact ⟨c, hw key c hc, hp⟩

structure Honest (R : Rules W K Request Reply A) (key : K) (c : (R.protocol key).State)
    (q : Request) (x : Reply q × W) : Prop where
  expected : (R.protocol key).expects q x.1
  known : R.known x.2 key ((R.protocol key).next c q x.1)

end Rules

namespace Workers
variable {answer : Answers W K Request Reply} {s : Workers W K Request Reply A}

def start (s : Workers W K Request Reply A) (key : K) (p : Program Request Reply A) :
    Workers W K Request Reply A :=
  { s with tasks := s.tasks ++ [(key, p)] }

def proceed (answer : Answers W K Request Reply) (s : Workers W K Request Reply A) (i : Nat) :
    Workers W K Request Reply A :=
  match s.tasks[i]? with
  | some (key, .call q k) =>
    ⟨(answer s.world key q).2, s.tasks.set i (key, k (answer s.world key q).1)⟩
  | _ => s

def cancel (s : Workers W K Request Reply A) (i : Nat) : Workers W K Request Reply A :=
  { s with tasks := s.tasks.eraseIdx i }

def request (s : Workers W K Request Reply A) (i : Nat) : Option (K × Request) :=
  match s.tasks[i]? with
  | some (key, .call q _) => some (key, q)
  | _ => none

theorem proceed_call (h : s.tasks[i]? = some (key, .call q k)) :
    s.proceed answer i =
      ⟨(answer s.world key q).2, s.tasks.set i (key, k (answer s.world key q).1)⟩ := by
  unfold proceed
  rw [h]

theorem request_eq_some :
    s.request i = some (key, q) ↔ ∃ k, s.tasks[i]? = some (key, .call q k) := by
  unfold request
  rcases s.tasks[i]? with _ | ⟨key', _ | ⟨q', k⟩⟩
  · exact ⟨nofun, nofun⟩
  · exact ⟨nofun, nofun⟩
  · constructor
    · intro h
      cases h
      exact ⟨k, rfl⟩
    · rintro ⟨k', h⟩
      cases h
      rfl

theorem proceed_none (h : s.request i = none) : s.proceed answer i = s := by
  unfold request at h
  unfold proceed
  rcases hi : s.tasks[i]? with _ | ⟨key, _ | ⟨q, k⟩⟩
  · rfl
  · rfl
  · rw [hi] at h
    cases h

theorem proceed_world {P : W → Prop} (hs : P s.world)
    (h : ∀ key q, s.request i = some (key, q) → P (answer s.world key q).2) :
    P (s.proceed answer i).world := by
  cases hr : s.request i with
  | none =>
    rw [proceed_none hr]
    exact hs
  | some x =>
    obtain ⟨k, hk⟩ := request_eq_some.1 hr
    rw [proceed_call hk]
    exact h x.1 x.2 hr

def keys (s : Workers W K Request Reply A) : List K := s.tasks.map Prod.fst

theorem keys_proceed (answer : Answers W K Request Reply) (s : Workers W K Request Reply A)
    (i : Nat) : (s.proceed answer i).keys = s.keys := by
  cases hr : s.request i with
  | none => rw [proceed_none hr]
  | some x =>
    obtain ⟨k, hk⟩ := request_eq_some.1 hr
    rw [proceed_call hk]
    obtain ⟨hi, hget⟩ := List.getElem?_eq_some_iff.1 hk
    have hi' : i < (s.tasks.map Prod.fst).length := by rwa [length_map]
    have hkey : x.1 = (s.tasks.map Prod.fst)[i] := by rw [getElem_map, hget]
    unfold keys
    rw [map_set, hkey, set_getElem_self]

theorem key_of_proceed (ht : t ∈ (s.proceed answer i).tasks) : ∃ t' ∈ s.tasks, t'.1 = t.1 := by
  have hmem : t.1 ∈ (s.proceed answer i).keys := mem_map_of_mem ht
  rw [keys_proceed] at hmem
  exact mem_map.1 hmem

theorem key_ne_of_nodup (hnodup : (s.keys.map f).Nodup)
    (hi : s.tasks[i]? = some (key, p)) (ht : t ∈ s.tasks.eraseIdx i) : f t.1 ≠ f key := by
  obtain ⟨j, hj, htj⟩ := mem_eraseIdx_iff_getElem?.1 ht
  intro heq
  have hget (k : Nat) : (s.keys.map f)[k]? = s.tasks[k]?.map fun t => f t.1 := by
    rw [keys, map_map, getElem?_map]
    rfl
  have hlength : j < (s.keys.map f).length := by
    rw [keys, map_map, length_map]
    exact (List.getElem?_eq_some_iff.1 htj).1
  refine hj ((getElem?_inj hlength hnodup).1 ?_)
  rw [hget, hget, htj, hi]
  exact congrArg some heq

section
variable {R : Rules W K Request Reply A}

def Obey (R : Rules W K Request Reply A) (s : Workers W K Request Reply A) : Prop :=
  ∀ t ∈ s.tasks, R.Obeys s.world t.1 t.2

theorem Obey.start (h : s.Obey R) (hp : R.Obeys s.world key p) : (s.start key p).Obey R := by
  intro t ht
  obtain ht | ht := mem_append.1 ht
  · exact h t ht
  · cases mem_singleton.1 ht
    exact hp

theorem Obey.cancel (h : s.Obey R) (i : Nat) : (s.cancel i).Obey R :=
  fun t ht => h t (mem_of_mem_eraseIdx ht)

theorem Obey.world (h : s.Obey R) (hw : R.Extends s.world w) : Obey R { s with world := w } :=
  fun t ht => (h t ht).mono hw

theorem Obey.allows (h : s.Obey R) (hr : s.request i = some (key, q)) :
    ∃ c, R.known s.world key c ∧ (R.protocol key).allows c q := by
  obtain ⟨k, hk⟩ := request_eq_some.1 hr
  obtain ⟨c, hc, hp⟩ := h _ (mem_of_getElem? hk)
  exact ⟨c, hc, hp.1⟩

theorem Obey.proceed_of_obeys (h : s.Obey R)
    (hanswer : ∀ key q c, s.request i = some (key, q) → R.known s.world key c →
      (R.protocol key).allows c q → R.Honest key c q (answer s.world key q))
    (hothers : ∀ key q, s.request i = some (key, q) → ∀ t ∈ s.tasks.eraseIdx i,
      R.Obeys s.world t.1 t.2 → R.Obeys (answer s.world key q).2 t.1 t.2) :
    (s.proceed answer i).Obey R := by
  cases hr : s.request i with
  | none =>
    rw [proceed_none hr]
    exact h
  | some x =>
    obtain ⟨key, q⟩ := x
    obtain ⟨k, hk⟩ := request_eq_some.1 hr
    obtain ⟨c, hc, hp⟩ := h _ (mem_of_getElem? hk)
    have hx := hanswer key q c hr hc hp.1
    rw [proceed_call hk]
    intro t ht
    obtain ht | rfl := mem_set_cases ht
    · exact hothers key q hr t ht (h t (mem_of_mem_eraseIdx ht))
    · exact ⟨_, hx.known, hp.reply hx.expected⟩

theorem Obey.proceed (h : s.Obey R)
    (hanswer : ∀ key q c, s.request i = some (key, q) → R.known s.world key c →
      (R.protocol key).allows c q → R.Honest key c q (answer s.world key q))
    (hothers : ∀ key q, s.request i = some (key, q) → ∀ t ∈ s.tasks.eraseIdx i, ∀ c,
      R.known s.world t.1 c → R.known (answer s.world key q).2 t.1 c) :
    (s.proceed answer i).Obey R := by
  refine h.proceed_of_obeys hanswer ?_
  rintro key q hr t ht ⟨c, hc, hp⟩
  exact ⟨c, hothers key q hr t ht c hc, hp⟩

end

end Workers

end

end Frame
