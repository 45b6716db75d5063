import DnsProxy.Infra.Lru

/-!
# LRU が残すもの

触れた鍵を新しい順に並べた列 `t` を添えて、LRU が何を残すかを述べる。

鍵 `k` に最後に触れてから、ほかに触れた鍵が `cap` 種類に満たなければ、`k` の項目は追い出されて
いない（`Recent.present`）。追い出されるのは並びの最後の項目であり、その前にある項目の鍵は、
どれもその項目より後に触れられているからである（`Recent.order`）。

項目は `pop` でも消える。消えてはならない鍵を `live` という述語で表す。
-/

namespace Infra

variable {κ ν : Type} [BEq κ]

/-! ## 種類を数える -/

/-- `k` のほかに触れた鍵を、重ならないように並べたもの。 -/
def others (k : κ) (t : List κ) : List κ := (t.filter fun a => !(a == k)).eraseDups

/-- 互いに異なる鍵の並び。 -/
def Distinct (l : List κ) : Prop := l.Pairwise fun a b => (a == b) = false

theorem mem_of_mem_eraseDups {a : κ} : ∀ {l : List κ}, a ∈ l.eraseDups → a ∈ l
  | [], h => by simp at h
  | x :: l, h => by
    rw [List.eraseDups_cons] at h
    rcases List.mem_cons.mp h with rfl | h
    · exact List.mem_cons_self
    · exact List.mem_cons_of_mem x (List.mem_filter.mp (mem_of_mem_eraseDups h)).1
termination_by l => l.length
decreasing_by
  rw [List.length_cons]
  exact Nat.lt_succ_of_le (List.length_filter_le _ _)

section

variable [EquivBEq κ]

/-- 互いに異なる鍵のうち、`x` に等しいものは高々一つである。 -/
theorem Distinct.length_le_filter {l : List κ} (h : Distinct l) (x : κ) :
    l.length ≤ (l.filter fun a => !(a == x)).length + 1 := by
  induction l with
  | nil => exact Nat.zero_le _
  | cons a rest ih =>
    obtain ⟨ha, hrest⟩ := List.pairwise_cons.mp h
    by_cases hax : (a == x) = true
    · have hkeep : rest.filter (fun b => !(b == x)) = rest := by
        refine List.filter_eq_self.mpr fun b hb => ?_
        rw [BEq.comm, ← BEq.congr_left hax, ha b hb]
        rfl
      have hlen : ((a :: rest).filter fun b => !(b == x)).length = rest.length := by
        rw [List.filter_cons_of_neg (by simp [hax]), hkeep]
      rw [List.length_cons]
      omega
    · rw [List.filter_cons_of_pos (by simpa using hax), List.length_cons, List.length_cons]
      have := ih hrest
      omega

/-- **互いに異なり、どれも `m` のどれかに等しい鍵は、`m` の種類の数を超えない。** -/
theorem Distinct.length_le_eraseDups : ∀ {m l : List κ}, Distinct l →
    (∀ a ∈ l, ∃ b ∈ m, (b == a) = true) → l.length ≤ m.eraseDups.length
  | [], [], _, _ => Nat.zero_le _
  | [], a :: _, _, h => by
    obtain ⟨b, hb, _⟩ := h a List.mem_cons_self
    cases hb
  | x :: m, l, hd, h => by
    -- `x` に等しいものは `l` に高々一つなので、それを除いた残りを `m` の残りで数える
    have hrest : (l.filter fun a => !(a == x)).length
        ≤ (m.filter fun b => !(b == x)).eraseDups.length := by
      refine Distinct.length_le_eraseDups (hd.filter _) fun a ha => ?_
      obtain ⟨hal, hax⟩ := List.mem_filter.mp ha
      obtain ⟨b, hb, hba⟩ := h a hal
      rcases List.mem_cons.mp hb with rfl | hb
      · rw [BEq.symm hba] at hax
        cases hax
      · refine ⟨b, List.mem_filter.mpr ⟨hb, ?_⟩, hba⟩
        rw [BEq.congr_left hba]
        exact hax
    have hone := hd.length_le_filter x
    rw [List.eraseDups_cons, List.length_cons]
    omega
termination_by m => m.length
decreasing_by
  rw [List.length_cons]
  exact Nat.lt_succ_of_le (List.length_filter_le _ _)

theorem distinct_eraseDups : ∀ (m : List κ), Distinct m.eraseDups
  | [] => List.Pairwise.nil
  | x :: m => by
    rw [List.eraseDups_cons]
    refine List.pairwise_cons.mpr ⟨fun b hb => ?_, distinct_eraseDups _⟩
    have hbx := (List.mem_filter.mp (mem_of_mem_eraseDups hb)).2
    rw [BEq.comm]
    simpa using hbx
termination_by m => m.length
decreasing_by
  rw [List.length_cons]
  exact Nat.lt_succ_of_le (List.length_filter_le _ _)

/-- 触れるほど、ほかの鍵の種類は増える。 -/
theorem others_length_le_cons (k x : κ) (t : List κ) :
    (others k t).length ≤ (others k (x :: t)).length := by
  refine (distinct_eraseDups _).length_le_eraseDups fun a ha => ?_
  obtain ⟨hat, hak⟩ := List.mem_filter.mp (mem_of_mem_eraseDups ha)
  exact ⟨a, List.mem_filter.mpr ⟨List.mem_cons_of_mem x hat, hak⟩, BEq.rfl⟩

end

/-! ## 触れた順 -/

/-- `b` に触れた後に、必ず `a` に触れている。 -/
def TouchedAfter (t : List κ) (a b : κ) : Prop :=
  ∀ newer k older, t = newer ++ k :: older → (k == b) = true → ∃ x ∈ newer, (x == a) = true

/-- ほかの鍵に触れても順は変わらない。 -/
theorem TouchedAfter.cons {t : List κ} {a b k : κ} (h : TouchedAfter t a b)
    (hk : (k == b) = false) : TouchedAfter (k :: t) a b := by
  intro newer k' older ht hk'
  cases newer with
  | nil =>
    cases ht
    rw [hk] at hk'
    cases hk'
  | cons x newer =>
    cases ht
    obtain ⟨y, hy, hya⟩ := h newer k' older rfl hk'
    exact ⟨y, List.mem_cons_of_mem _ hy, hya⟩

/-- いま触れた鍵は、ほかのどの鍵より後である。 -/
theorem TouchedAfter.head {t : List κ} {a b k : κ} (ha : (k == a) = true)
    (hb : (k == b) = false) : TouchedAfter (k :: t) a b := by
  intro newer k' older ht hk'
  cases newer with
  | nil =>
    cases ht
    rw [hb] at hk'
    cases hk'
  | cons x newer =>
    cases ht
    exact ⟨k, List.mem_cons_self, ha⟩

/-- 触れた鍵の列 `t` に対して、`c` の並びと中身が満たすこと。 -/
structure Recent (c : Lru κ ν) (t : List κ) (live : κ → Prop) : Prop where
  /-- 前にある項目ほど後に触れられている。 -/
  order : c.items.Pairwise fun p q => TouchedAfter t p.1 q.1
  /-- **触れてから、ほかに触れた鍵が `cap` 種類に満たなければ、項目は残っている。** -/
  present : ∀ newer k older, t = newer ++ k :: older → live k →
    (others k newer).length < c.cap → ∃ p, Lru.findItem c.items k = some p

namespace Recent

variable {c : Lru κ ν} {t : List κ} {live live' : κ → Prop}

theorem empty (cap : Nat) (h : 0 < cap) (live : κ → Prop) :
    Recent (Lru.empty cap h : Lru κ ν) [] live where
  order := List.Pairwise.nil
  present := by
    intro newer k older ht
    cases newer <;> cases ht

/-- 消してよい鍵は増えてよい。 -/
theorem mono (h : Recent c t live) (hl : ∀ k, live' k → live k) : Recent c t live' where
  order := h.order
  present := fun newer k older ht hk => h.present newer k older ht (hl k hk)

section

variable [EquivBEq κ]

/-- 項目を先頭に出す操作。 -/
theorem promote (h : Recent c t live) {k : κ} {p : κ × ν} (v : ν)
    (hp : Lru.findItem c.items k = some p)
    (hl : ∀ k', (k == k') = false → live' k' → live k') :
    Recent (c.promote k p v hp) (k :: t) live' where
  order := by
    have hpk := (Lru.findItem_some hp).2
    have hne : ∀ q ∈ Lru.without c.items k, (k == q.1) = false := by
      intro q hq
      rw [BEq.comm]
      simpa using (List.mem_filter.mp hq).2
    refine List.pairwise_cons.mpr ⟨fun q hq => ?_, ?_⟩
    · exact TouchedAfter.head (BEq.symm hpk) (hne q hq)
    · exact (h.order.filter _).imp_of_mem fun _ hb hab => hab.cons (hne _ hb)
  present := by
    intro newer k' older ht hk' hcount
    by_cases hkk : (k == k') = true
    · exact ⟨_, Lru.findItem_cons_pos (p := (p.1, v))
        (BEq.trans (Lru.findItem_some hp).2 hkk)⟩
    · have hkk : (k == k') = false := by simpa using hkk
      cases newer with
      | nil =>
        cases ht
        rw [BEq.rfl] at hkk
        cases hkk
      | cons x newer =>
        cases ht
        have hless := Nat.lt_of_le_of_lt (others_length_le_cons k' k newer) hcount
        obtain ⟨q, hq⟩ := h.present newer k' older rfl (hl k' hkk hk') hless
        have hpk' : (p.1 == k') = false := by
          rw [BEq.congr_left (Lru.findItem_some hp).2]
          exact hkk
        refine ⟨q, ?_⟩
        show Lru.findItem ((p.1, v) :: Lru.without c.items k) k' = some q
        rw [Lru.findItem_cons_neg (by simp [hpk']), Lru.findItem_without_ne c.items hkk]
        exact hq

/-- 参照は、見つかったときだけ触れる。 -/
theorem get_some (h : Recent c t live) {k : κ} {v : ν} (hv : c.peek k = some v) :
    Recent (c.get k).2 (k :: t) live := by
  unfold Lru.get
  split
  · next hnone =>
    unfold Lru.peek at hv
    rw [hnone] at hv
    cases hv
  · next p hp => exact h.promote p.2 hp fun _ _ hk => hk

theorem get_none (h : Recent c t live) {k : κ} (hv : c.peek k = none) :
    Recent (c.get k).2 t live := by
  unfold Lru.get
  split
  · exact h
  · next p hp =>
    unfold Lru.peek at hv
    rw [hp] at hv
    cases hv

/-- 消すのは、消してよい鍵に限る。 -/
theorem pop (h : Recent c t live) {k : κ} (hk : ∀ k', (k == k') = true → ¬ live k') :
    Recent (c.pop k) t live where
  order := h.order.filter _
  present := by
    intro newer k' older ht hk' hcount
    obtain ⟨p, hp⟩ := h.present newer k' older ht hk' hcount
    by_cases hkk : (k == k') = true
    · exact absurd hk' (hk k' hkk)
    · refine ⟨p, ?_⟩
      show Lru.findItem (Lru.without c.items k) k' = some p
      rw [Lru.findItem_without_ne c.items (by simpa using hkk)]
      exact hp

/-- 引いた項目をそのまま消すのは、消すだけと同じである。 -/
theorem pop_get (c : Lru κ ν) (k : κ) : (c.get k).2.pop k = c.pop k := by
  unfold Lru.get
  split
  · rfl
  · next p hp =>
    have hitems : Lru.without ((p.1, p.2) :: Lru.without c.items k) k = Lru.without c.items k := by
      unfold Lru.without
      rw [List.filter_cons_of_neg (by simp [(Lru.findItem_some hp).2]), List.filter_filter]
      simp
    simp only [Lru.promote, Lru.pop, hitems]

/-- 引いた項目を消す操作。触れたことにはならない。 -/
theorem get_pop (h : Recent c t live) {k : κ} (hk : ∀ k', (k == k') = true → ¬ live k') :
    Recent ((c.get k).2.pop k) t live := by
  rw [Recent.pop_get]
  exact h.pop hk

/-- 満杯のときに追い出される項目の鍵には、`cap` 種類のほかの鍵が後から触れている。 -/
theorem cap_le_others (h : Recent c t live) {newer older : List κ} {k k' : κ} {pre : List (κ × ν)}
    {p : κ × ν} (ht : t = newer ++ k' :: older) (hitems : c.items = pre ++ [p])
    (hfull : c.items.length = c.cap) (hp : (p.1 == k') = true)
    (hnew : Lru.findItem c.items k = none) : c.cap ≤ (others k' (k :: newer)).length := by
  have hdist : DistinctKeys (pre ++ [p]) := hitems ▸ c.distinct
  have horder := hitems ▸ h.order
  obtain ⟨hpre, -, hlast⟩ := List.pairwise_append.mp hdist
  have hafter := (List.pairwise_append.mp horder).2.2
  have habsent : ∀ q ∈ pre ++ [p], (k == q.1) = false := by
    intro q hq
    rw [BEq.comm]
    exact Lru.findItem_none hnew q (hitems ▸ hq)
  -- 新しい鍵と、前にある項目の鍵は、互いに異なり、どれも `k'` の後に触れられている
  have hcount : (k :: pre.map Prod.fst).length ≤ (others k' (k :: newer)).length := by
    refine Distinct.length_le_eraseDups (l := k :: pre.map Prod.fst) ?_ ?_
    · refine List.pairwise_cons.mpr ⟨?_, List.pairwise_map.mpr hpre⟩
      intro a ha
      obtain ⟨q, hq, rfl⟩ := List.mem_map.mp ha
      exact habsent q (List.mem_append_left _ hq)
    · intro a ha
      rcases List.mem_cons.mp ha with rfl | ha
      · have hak : (a == k') = false := by
          rw [← BEq.congr_right hp]
          exact habsent p (by simp)
        exact ⟨a, List.mem_filter.mpr ⟨List.mem_cons_self, by simp [hak]⟩, BEq.rfl⟩
      · obtain ⟨q, hq, rfl⟩ := List.mem_map.mp ha
        obtain ⟨x, hx, hxq⟩ := hafter q hq p (by simp) newer k' older ht (BEq.symm hp)
        refine ⟨x, List.mem_filter.mpr ⟨List.mem_cons_of_mem k hx, ?_⟩, hxq⟩
        have hqp := hlast q hq p (by simp)
        rw [BEq.congr_left hxq, ← BEq.congr_right hp, hqp]
        rfl
  rw [hitems, List.length_append, List.length_singleton] at hfull
  rw [List.length_cons, List.length_map] at hcount
  omega

/-- **入れる操作は、追い出しても約束を守る。** -/
theorem put (h : Recent c t live) (k : κ) (v : ν)
    (hl : ∀ k', (k == k') = false → live' k' → live k') :
    Recent (c.put k v) (k :: t) live' := by
  unfold Lru.put
  split
  · next p hp => exact h.promote v hp hl
  · next hnone =>
    have hne : ∀ q ∈ evict c.cap c.items, (k == q.1) = false := by
      intro q hq
      rw [BEq.comm]
      exact Lru.findItem_none hnone q ((evict_sublist c.cap c.items).subset hq)
    constructor
    · refine List.pairwise_cons.mpr ⟨fun q hq => TouchedAfter.head BEq.rfl (hne q hq), ?_⟩
      exact (h.order.sublist (evict_sublist c.cap c.items)).imp_of_mem
        fun _ hb hab => hab.cons (hne _ hb)
    · intro newer k' older ht hk' hcount
      by_cases hkk : (k == k') = true
      · exact ⟨_, Lru.findItem_cons_pos (p := (k, v)) hkk⟩
      · have hkk : (k == k') = false := by simpa using hkk
        cases newer with
        | nil =>
          cases ht
          rw [BEq.rfl] at hkk
          cases hkk
        | cons x newer =>
          cases ht
          have hless := Nat.lt_of_le_of_lt (others_length_le_cons k' k newer) hcount
          obtain ⟨q, hq⟩ := h.present newer k' older rfl (hl k' hkk hk') hless
          refine ⟨q, ?_⟩
          show Lru.findItem ((k, v) :: evict c.cap c.items) k' = some q
          rw [Lru.findItem_cons_neg (by simp [hkk])]
          unfold evict
          split
          · next hfull =>
            have hne : c.items ≠ [] := List.ne_nil_of_length_pos (hfull ▸ c.cap_pos)
            obtain ⟨pre, p, hitems⟩ : ∃ pre p, c.items = pre ++ [p] :=
              ⟨_, _, (List.dropLast_append_getLast hne).symm⟩
            -- `k'` の項目が最後にあれば、ほかに触れた鍵は `cap` 種類に達している
            have hp : (p.1 == k') = false := by
              by_contra hp
              have hge := h.cap_le_others rfl hitems hfull (by simpa using hp) hnone
              exact absurd hcount (Nat.not_lt.mpr hge)
            rw [hitems, List.dropLast_concat]
            rw [hitems, Lru.findItem, List.find?_append] at hq
            simpa [Lru.findItem, hp] using hq
          · exact hq

end

end Recent

end Infra
