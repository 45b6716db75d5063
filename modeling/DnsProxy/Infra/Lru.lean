import Mathlib.Data.List.Basic

/-!
# LRU cache

`lru` crate の `LruCache` は、手元に source が無い。そこで操作の組を parameter（`LruCache`）に取り、
文書に書かれた振る舞いを、最近使った順の連想リスト（`Lru`）との対応として field に並べる。
鍵の同値は `BEq` に任せる（綴りの違う鍵が等しくなりうるので、`=` では足りない）。

`Lru` では、鍵が重ならないことと容量を超えないことを構造体の field に持たせる。
外から見える性質は `peek` だけで述べる。

* `peek_get` — 参照は並びを変えるだけで中身を変えない
* `peek_pop` — 消した鍵は引けず、ほかは変わらない
* `peek_put_self` — 入れた値が引ける
* `peek_put_some` — 入れた後に引けるものは、入れた値か、前から引けたもののどちらかである
  （追い出しは減らすだけなので、逆は言えない）
-/

namespace Infra

/-! ## 追い出し -/

/-- 満杯なら最も古い項目を落とす。 -/
def evict {α : Type} (cap : Nat) (items : List α) : List α :=
  if items.length = cap then items.dropLast else items

theorem evict_sublist {α : Type} (cap : Nat) (items : List α) :
    (evict cap items).Sublist items := by
  unfold evict
  split
  · exact List.dropLast_sublist items
  · exact List.Sublist.refl items

theorem evict_length_lt {α : Type} {cap : Nat} {items : List α} (hc : 0 < cap)
    (h : items.length ≤ cap) : (evict cap items).length < cap := by
  unfold evict
  split
  · next he => rw [List.length_dropLast]; omega
  · next he => omega

variable {κ ν : Type} [BEq κ]

/-- 鍵が互いに等しくないこと。 -/
def DistinctKeys (items : List (κ × ν)) : Prop :=
  items.Pairwise (fun p q => (p.1 == q.1) = false)

/-- 最近使った順の連想リスト。 -/
structure Lru (κ ν : Type) [BEq κ] where
  cap : Nat
  items : List (κ × ν)
  cap_pos : 0 < cap
  distinct : DistinctKeys items
  bounded : items.length ≤ cap

namespace Lru

/-- 鍵 `k` に等しい鍵を持つ項目。 -/
def findItem (items : List (κ × ν)) (k : κ) : Option (κ × ν) := items.find? (fun p => p.1 == k)

/-- 鍵 `k` に等しい鍵を持つ項目を除く。 -/
def without (items : List (κ × ν)) (k : κ) : List (κ × ν) := items.filter (fun p => !(p.1 == k))

/-! ## 不変条件の保存 -/

theorem without_length_le (items : List (κ × ν)) (k : κ) :
    (without items k).length ≤ items.length := List.length_filter_le _ _

theorem DistinctKeys.without {items : List (κ × ν)} (h : DistinctKeys items) (k : κ) :
    DistinctKeys (without items k) := List.Pairwise.filter _ h

theorem findItem_cons_pos {items : List (κ × ν)} {k : κ} {p : κ × ν} (h : (p.1 == k) = true) :
    findItem (p :: items) k = some p := by
  simp [findItem, h]

theorem findItem_cons_neg {items : List (κ × ν)} {k : κ} {p : κ × ν} (h : ¬ (p.1 == k) = true) :
    findItem (p :: items) k = findItem items k := by
  simp [findItem, h]

theorem findItem_some {items : List (κ × ν)} {k : κ} {p : κ × ν}
    (h : findItem items k = some p) : p ∈ items ∧ (p.1 == k) = true := by
  unfold findItem at h
  exact ⟨List.mem_of_find?_eq_some h, List.find?_some (p := fun q : κ × ν => q.1 == k) h⟩

theorem findItem_none {items : List (κ × ν)} {k : κ} (h : findItem items k = none) :
    ∀ p ∈ items, (p.1 == k) = false := by
  intro p hp
  simpa using List.find?_eq_none.mp h p hp

theorem findItem_without_self (items : List (κ × ν)) (k : κ) :
    findItem (without items k) k = none := by
  refine List.find?_eq_none.mpr ?_
  intro p hp
  simpa using (List.mem_filter.mp hp).2

theorem without_length_lt {items : List (κ × ν)} {k : κ} {p : κ × ν}
    (h : findItem items k = some p) : (without items k).length < items.length := by
  obtain ⟨hm, hk⟩ := findItem_some h
  exact List.length_filter_lt_length_iff_exists.mpr ⟨p, hm, by simp [hk]⟩

/-- 空の cache。`LruCache::new`。 -/
def empty (cap : Nat) (h : 0 < cap) : Lru κ ν where
  cap := cap
  items := []
  cap_pos := h
  distinct := List.Pairwise.nil
  bounded := Nat.zero_le _

/-- 順序に触れずに引く。 -/
def peek (c : Lru κ ν) (k : κ) : Option ν := (findItem c.items k).map Prod.snd

@[simp] theorem peek_empty (cap : Nat) (h : 0 < cap) (k : κ) :
    (empty cap h : Lru κ ν).peek k = none := rfl

section

variable [EquivBEq κ]

theorem distinct_cons_without {items : List (κ × ν)} (h : DistinctKeys items) {k : κ}
    {p : κ × ν} (hp : (p.1 == k) = true) : DistinctKeys (p :: without items k) := by
  refine List.Pairwise.cons ?_ (DistinctKeys.without h k)
  intro q hq
  have hqk : (q.1 == k) = false := by simpa using (List.mem_filter.mp hq).2
  by_contra hc
  have hpq : (p.1 == q.1) = true := by simpa using hc
  have : (q.1 == k) = true := BEq.trans (BEq.symm hpq) hp
  rw [hqk] at this
  exact Bool.noConfusion this

/-! ## 操作 -/

/-- 項目 `p` を先頭に出す。 -/
def promote (c : Lru κ ν) (k : κ) (p : κ × ν) (v : ν) (h : findItem c.items k = some p) :
    Lru κ ν where
  cap := c.cap
  items := (p.1, v) :: without c.items k
  cap_pos := c.cap_pos
  distinct := distinct_cons_without (p := (p.1, v)) c.distinct (findItem_some h).2
  bounded := by
    have := without_length_lt h
    have := c.bounded
    simp only [List.length_cons]
    omega

/-- `LruCache::get`。見つかった項目は先頭に移る。 -/
def get (c : Lru κ ν) (k : κ) : Option ν × Lru κ ν :=
  match h : findItem c.items k with
  | none => (none, c)
  | some p => (some p.2, c.promote k p p.2 h)

/-- `LruCache::pop`。 -/
def pop (c : Lru κ ν) (k : κ) : Lru κ ν where
  cap := c.cap
  items := without c.items k
  cap_pos := c.cap_pos
  distinct := DistinctKeys.without c.distinct k
  bounded := Nat.le_trans (without_length_le c.items k) c.bounded

/--
`LruCache::put`。

等しい鍵があれば、鍵は元のものを残して値だけを差し替える。無ければ、満杯のときだけ
最も古い項目を追い出してから先頭に入れる。
-/
def put (c : Lru κ ν) (k : κ) (v : ν) : Lru κ ν :=
  match h : findItem c.items k with
  | some p => c.promote k p v h
  | none =>
    { cap := c.cap
      items := (k, v) :: evict c.cap c.items
      cap_pos := c.cap_pos
      distinct := by
        refine List.Pairwise.cons ?_ (c.distinct.sublist (evict_sublist c.cap c.items))
        intro q hq
        have hqk := findItem_none h q ((evict_sublist c.cap c.items).subset hq)
        by_contra hc
        have : (k == q.1) = true := by simpa using hc
        rw [BEq.symm this] at hqk
        exact Bool.noConfusion hqk
      bounded := by
        have := evict_length_lt c.cap_pos c.bounded
        simp only [List.length_cons]
        omega }

/-! ## `peek` で見た操作の効果 -/

/-- 等しい鍵では同じものが引ける。 -/
theorem findItem_congr (items : List (κ × ν)) {k k' : κ} (h : (k == k') = true) :
    findItem items k = findItem items k' := by
  unfold findItem
  congr 1
  funext p
  exact BEq.congr_right h

theorem peek_congr (c : Lru κ ν) {k k' : κ} (h : (k == k') = true) : c.peek k = c.peek k' := by
  unfold peek
  rw [findItem_congr c.items h]

theorem findItem_without_ne (items : List (κ × ν)) {k k' : κ} (h : (k == k') = false) :
    findItem (without items k) k' = findItem items k' := by
  induction items with
  | nil => rfl
  | cons p rest ih =>
    unfold without at *
    by_cases hp : (p.1 == k) = true
    · have hpk' : (p.1 == k') = false := by
        by_contra hc
        have hc' : (p.1 == k') = true := by simpa using hc
        rw [BEq.trans (BEq.symm hp) hc'] at h
        exact Bool.noConfusion h
      rw [List.filter_cons_of_neg (by simp [hp]), ih, findItem_cons_neg (by simp [hpk'])]
    · rw [List.filter_cons_of_pos (by simp [hp])]
      by_cases hpk : (p.1 == k') = true
      · rw [findItem_cons_pos hpk, findItem_cons_pos hpk]
      · rw [findItem_cons_neg hpk, findItem_cons_neg hpk, ih]

theorem peek_promote_self (c : Lru κ ν) (k : κ) (p : κ × ν) (v : ν)
    (h : findItem c.items k = some p) : (c.promote k p v h).peek k = some v := by
  unfold peek promote
  rw [findItem_cons_pos (p := (p.1, v)) (findItem_some h).2]
  rfl

theorem peek_promote_ne (c : Lru κ ν) {k k' : κ} (p : κ × ν) (v : ν)
    (h : findItem c.items k = some p) (hne : (k == k') = false) :
    (c.promote k p v h).peek k' = c.peek k' := by
  have hp : (p.1 == k') = false := by
    by_contra hc
    have hc' : (p.1 == k') = true := by simpa using hc
    rw [BEq.trans (BEq.symm (findItem_some h).2) hc'] at hne
    exact Bool.noConfusion hne
  unfold peek promote
  rw [findItem_cons_neg (p := (p.1, v)) (by simp [hp]), findItem_without_ne c.items hne]

/-- `get` が返すのは `peek` で見えるものである。 -/
theorem get_fst (c : Lru κ ν) (k : κ) : (c.get k).1 = c.peek k := by
  unfold get peek
  split <;> next h => simp [h]

/-- **参照は中身を変えない。** -/
theorem peek_get (c : Lru κ ν) (k k' : κ) : (c.get k).2.peek k' = c.peek k' := by
  unfold get
  split
  · rfl
  · next p h =>
    by_cases hk : (k == k') = true
    · rw [← peek_congr _ hk, ← peek_congr c hk, peek_promote_self]
      simp [peek, h]
    · exact peek_promote_ne c p p.2 h (by simpa using hk)

theorem peek_pop (c : Lru κ ν) (k k' : κ) :
    (c.pop k).peek k' = if (k == k') = true then none else c.peek k' := by
  by_cases hk : (k == k') = true
  · rw [if_pos hk, ← peek_congr _ hk]
    unfold peek pop
    rw [findItem_without_self]
    rfl
  · rw [if_neg hk]
    unfold peek pop
    rw [findItem_without_ne c.items (by simpa using hk)]

/-- **入れた値はすぐに引ける。** -/
theorem peek_put_self (c : Lru κ ν) (k : κ) (v : ν) : (c.put k v).peek k = some v := by
  unfold put
  split
  · next p h => exact peek_promote_self c k p v h
  · unfold peek
    rw [findItem_cons_pos (p := (k, v)) (by simp)]
    rfl

/-- 鍵が重ならないので、項目が残っていれば引いた値は変わらない。 -/
theorem findItem_of_sublist {items sub : List (κ × ν)} (hd : DistinctKeys items)
    (hs : sub.Sublist items) {k : κ} {p : κ × ν} (h : findItem sub k = some p) :
    findItem items k = some p := by
  induction hs with
  | slnil => exact h
  | @cons sub items a hs ih =>
    have hda := List.pairwise_cons.mp hd
    have hrec := ih hda.2 h
    obtain ⟨hm, hk⟩ := findItem_some hrec
    have hak : ¬ (a.1 == k) = true := by
      intro hc
      have := hda.1 p hm
      rw [BEq.trans hc (BEq.symm hk)] at this
      exact Bool.noConfusion this
    rw [findItem_cons_neg hak, hrec]
  | @cons_cons sub items a hs ih =>
    have hda := List.pairwise_cons.mp hd
    by_cases hak : (a.1 == k) = true
    · rw [findItem_cons_pos hak] at h ⊢
      exact h
    · rw [findItem_cons_neg hak] at h ⊢
      exact ih hda.2 h

/-- **入れた後に引けるものは、入れた値か、前から引けたものである。** -/
theorem peek_put_some {c : Lru κ ν} {k k' : κ} {v v' : ν} (h : (c.put k v).peek k' = some v') :
    (k == k') = true ∧ v' = v ∨ (k == k') = false ∧ c.peek k' = some v' := by
  by_cases hk : (k == k') = true
  · refine Or.inl ⟨hk, ?_⟩
    rw [← peek_congr _ hk, peek_put_self] at h
    exact (Option.some.inj h).symm
  · have hkf : (k == k') = false := by simpa using hk
    refine Or.inr ⟨hkf, ?_⟩
    unfold put at h
    split at h
    · next p hp => rwa [peek_promote_ne c p v hp hkf] at h
    · next hn =>
      unfold peek at h ⊢
      obtain ⟨p, hp, hv⟩ := Option.map_eq_some_iff.mp h
      rw [findItem_cons_neg (p := (k, v)) (by simp [hkf])] at hp
      rw [findItem_of_sublist c.distinct (evict_sublist c.cap c.items) hp, Option.map_some, hv]

end

end Lru

/-! ## crate の cache -/

/--
`lru` crate の `LruCache`。

中身は読めない。公開された操作と、それらが文書のとおりに振る舞うことだけを持つ。
`view` は `cap` と、`iter` の順（最近使ったものが先）に並べた項目である。
-/
structure LruCache (κ ν : Type) [BEq κ] [EquivBEq κ] where
  State : Type
  new : (cap : Nat) → 0 < cap → State
  get : State → κ → Option ν × State
  pop : State → κ → State
  put : State → κ → ν → State
  view : State → Lru κ ν
  /-- 新しい cache は空で、項目を `cap` まで持てる。 -/
  view_new : ∀ cap h, view (new cap h) = Lru.empty cap h
  /-- `get` は、等しい鍵の値を返す。 -/
  get_value : ∀ s k, (get s k).1 = (view s).peek k
  /-- 有った項目は先頭に移る。 -/
  view_get : ∀ s k, view (get s k).2 = ((view s).get k).2
  /-- `pop` は、等しい鍵の項目を除く。 -/
  view_pop : ∀ s k, view (pop s k) = (view s).pop k
  /-- `put` は、等しい鍵の値を差し替えるか、満杯なら最も古い項目を追い出して、先頭に入れる。 -/
  view_put : ∀ s k v, view (put s k v) = (view s).put k v

/-- 連想リストそのものを中身とする cache。 -/
def Lru.cache (κ ν : Type) [BEq κ] [EquivBEq κ] : LruCache κ ν where
  State := Lru κ ν
  new := Lru.empty
  get := Lru.get
  pop := Lru.pop
  put := Lru.put
  view := id
  view_new _ _ := rfl
  get_value := Lru.get_fst
  view_get _ _ := rfl
  view_pop _ _ := rfl
  view_put _ _ _ := rfl

namespace LruCache

variable [EquivBEq κ] (c : LruCache κ ν)

/-- 順序に触れずに引く。 -/
def peek (s : c.State) (k : κ) : Option ν := (c.view s).peek k

@[simp] theorem peek_new (cap : Nat) (h : 0 < cap) (k : κ) : c.peek (c.new cap h) k = none := by
  unfold peek
  rw [c.view_new, Lru.peek_empty]

theorem get_fst (s : c.State) (k : κ) : (c.get s k).1 = c.peek s k := c.get_value s k

theorem peek_congr (s : c.State) {k k' : κ} (h : (k == k') = true) : c.peek s k = c.peek s k' :=
  (c.view s).peek_congr h

/-- **参照は中身を変えない。** -/
theorem peek_get (s : c.State) (k k' : κ) : c.peek (c.get s k).2 k' = c.peek s k' := by
  unfold peek
  rw [c.view_get, Lru.peek_get]

theorem peek_pop (s : c.State) (k k' : κ) :
    c.peek (c.pop s k) k' = if (k == k') = true then none else c.peek s k' := by
  unfold peek
  rw [c.view_pop, Lru.peek_pop]

/-- **入れた値はすぐに引ける。** -/
theorem peek_put_self (s : c.State) (k : κ) (v : ν) : c.peek (c.put s k v) k = some v := by
  unfold peek
  rw [c.view_put, Lru.peek_put_self]

/-- **入れた後に引けるものは、入れた値か、前から引けたものである。** -/
theorem peek_put_some {s : c.State} {k k' : κ} {v v' : ν} (h : c.peek (c.put s k v) k' = some v') :
    (k == k') = true ∧ v' = v ∨ (k == k') = false ∧ c.peek s k' = some v' := by
  unfold peek at h
  rw [c.view_put] at h
  exact Lru.peek_put_some h

end LruCache

end Infra
