import Mathlib.Data.List.Basic

/-!
# key による安定な整列

`slice::sort_by_key` は安定で、key の等しいものの順を変えない。`List.mergeSort` を key の比較で
使うときの、順と安定性をまとめる。key の比較 `le` は、推移的で、どの二つも比べられるものとする。
key が真偽のときは、偽のものと真のものに分けるのと同じになる（`mergeSort_bool_key`）。
-/

namespace Infra

section

variable {α κ : Type} {le : κ → κ → Bool} (key : α → κ)
  (htrans : ∀ a b c, le a b = true → le b c = true → le a c = true)
  (htotal : ∀ a b, (le a b || le b a) = true)

include htrans htotal

/-- 整列した列は、key の小さい順である。 -/
theorem pairwise_mergeSort_key (l : List α) :
    (l.mergeSort fun x y => le (key x) (key y)).Pairwise fun x y => le (key x) (key y) = true :=
  List.pairwise_mergeSort (fun x y z => htrans (key x) (key y) (key z))
    (fun x y => htotal (key x) (key y)) l

/-- **key の等しいものは、整列しても元の順のままである。** -/
theorem filter_mergeSort_key [DecidableEq κ] (l : List α) (k : κ) :
    (l.mergeSort fun x y => le (key x) (key y)).filter (fun x => key x = k)
      = l.filter fun x => key x = k := by
  have hpair : (l.filter fun x => key x = k).Pairwise fun x y => le (key x) (key y) = true := by
    refine List.Pairwise.imp_of_mem ?_ (List.pairwise_of_forall fun _ _ => trivial)
    intro x y hx hy _
    have hxk : key x = k := by simpa using (List.mem_filter.mp hx).2
    have hyk : key y = k := by simpa using (List.mem_filter.mp hy).2
    rw [hxk, hyk]
    simpa using htotal k k
  have hsub := List.sublist_mergeSort (fun x y z => htrans (key x) (key y) (key z))
    (fun x y => htotal (key x) (key y)) hpair List.filter_sublist
  have hfilter := hsub.filter fun x => decide (key x = k)
  rw [List.filter_filter] at hfilter
  simp only [Bool.and_self] at hfilter
  -- 並べ替えなので長さが等しく、部分列は全体になる
  have hlen := ((List.mergeSort_perm l fun x y => le (key x) (key y)).filter
    fun x => decide (key x = k)).length_eq
  exact (hfilter.eq_of_length_le (Nat.le_of_eq hlen)).symm

end

/-! ## 真偽の key -/

variable {α : Type}

/-- 偽のものが前に来る列は、偽のものと真のものに切れる。 -/
theorem eq_filter_append_of_pairwise {key : α → Bool} {l : List α}
    (h : l.Pairwise fun x y => (!key x || key y) = true) :
    l = l.filter (fun x => !key x) ++ l.filter key := by
  induction l with
  | nil => rfl
  | cons x rest ih =>
    obtain ⟨hx, hrest⟩ := List.pairwise_cons.mp h
    by_cases hk : key x = true
    · -- 先頭が真なら、後もすべて真である
      have hall : ∀ y ∈ rest, key y = true := by
        intro y hy
        simpa [hk] using hx y hy
      have hnone : rest.filter (fun y => !key y) = [] :=
        List.filter_eq_nil_iff.mpr fun y hy => by simp [hall y hy]
      rw [List.filter_cons_of_neg (by simp [hk]), List.filter_cons_of_pos hk, hnone,
        List.filter_eq_self.mpr hall]
      rfl
    · rw [List.filter_cons_of_pos (by simpa using hk), List.filter_cons_of_neg hk,
        List.cons_append, ← ih hrest]

/-- **真偽の key による安定な整列は、偽のものを前に、真のものを後ろに、元の順のまま分ける。** -/
theorem mergeSort_bool_key (key : α → Bool) (l : List α) :
    (l.mergeSort fun x y => !key x || key y) = l.filter (fun x => !key x) ++ l.filter key := by
  have htrans : ∀ a b c, (!a || b) = true → (!b || c) = true → (!a || c) = true := by decide
  have htotal : ∀ a b, ((!a || b) || (!b || a)) = true := by decide
  have hsorted := @pairwise_mergeSort_key α Bool (fun a b => !a || b) key htrans htotal l
  have hfilter := @filter_mergeSort_key α Bool (fun a b => !a || b) key htrans htotal _ l
  have hfalse := hfilter false
  have htrue := hfilter true
  simp only [Bool.decide_eq_false, Bool.decide_eq_true] at hfalse htrue
  rw [eq_filter_append_of_pairwise hsorted, hfalse, htrue]

end Infra
