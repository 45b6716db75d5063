import Mathlib.Data.List.Forall2
import Mathlib.Data.List.Perm.Basic

/-!
# 一つずつ答える仕事

入力の列に前から順に、一つの入力に多くても一つの出力を返す仕事を考える。どの入力に何を返してよいかは
関係 `R` で与え、返さない入力が有ってもよい。`Serial R xs ys` は、`xs` への出力が `ys` でありうることを言う。

入力ごとに別の task が勝手な順で答える仕組みは、出力の順を除いてこれと同じになる。
-/

namespace Infra

variable {ι κ ω : Type}

/-- `xs` に前から順に答えた出力は `ys` でありうる。 -/
inductive Serial (R : ι → ω → Prop) : List ι → List ω → Prop
  | nil : Serial R [] []
  | skip {x : ι} {xs : List ι} {ys : List ω} (h : Serial R xs ys) : Serial R (x :: xs) ys
  | answer {x : ι} {y : ω} {xs : List ι} {ys : List ω} (hR : R x y) (h : Serial R xs ys) :
      Serial R (x :: xs) (y :: ys)

namespace Serial

variable {R : ι → ω → Prop} {xs : List ι} {ys : List ω}

/-- 入力を別のものの像として見ても同じである。 -/
theorem map {f : κ → ι} : ∀ {ks : List κ} {ys : List ω},
    Serial (fun k => R (f k)) ks ys → Serial R (ks.map f) ys
  | [], _, .nil => .nil
  | _ :: _, _, .skip h => .skip h.map
  | _ :: _, _, .answer hR h => .answer hR h.map

/-- 出力の一つを、それが答えている入力とともに取り除く。 -/
theorem pick {y : ω} (h : Serial R xs ys) (hy : y ∈ ys) :
    ∃ l x r ys', xs = l ++ x :: r ∧ R x y ∧ Serial R (l ++ r) ys' ∧ ys.Perm (y :: ys') := by
  induction h with
  | nil => cases hy
  | @skip x xs ys h ih =>
    obtain ⟨l, x', r, ys', rfl, hR, hrest, hperm⟩ := ih hy
    exact ⟨x :: l, x', r, ys', rfl, hR, hrest.skip, hperm⟩
  | @answer x y' xs ys hR h ih =>
    rcases List.mem_cons.mp hy with rfl | hy
    · exact ⟨[], x, xs, ys, rfl, hR, h, .refl _⟩
    · obtain ⟨l, x', r, ys', rfl, hR', hrest, hperm⟩ := ih hy
      exact ⟨x :: l, x', r, y' :: ys', rfl, hR', hrest.answer hR,
        (hperm.cons y').trans (.swap y y' ys')⟩

/-- 入力ごとの task が答えたものを集めると、順に答えたものになる。 -/
theorem of_forall₂ {S : ι → κ → Prop} {out : κ → Option ω}
    (hS : ∀ x k y, S x k → out k = some y → R x y) {ks : List κ} (h : List.Forall₂ S xs ks) :
    Serial R xs (ks.filterMap out) := by
  induction h with
  | nil => exact .nil
  | @cons x k xs ks hx h ih =>
    cases hk : out k with
    | none => simpa [List.filterMap_cons, hk] using ih.skip
    | some y => simpa [List.filterMap_cons, hk] using ih.answer (hS x k y hx hk)

end Serial

/-! ## 一つの項目の差し替え -/

theorem forall₂_set {S : ι → κ → Prop} {xs : List ι} {ks : List κ} {k k' : κ}
    (h : List.Forall₂ S xs ks) {i : Nat} (hi : ks[i]? = some k) (hk : ∀ x, S x k → S x k') :
    List.Forall₂ S xs (ks.set i k') := by
  induction h generalizing i with
  | nil => exact .nil
  | @cons x k₀ xs ks hx h ih =>
    cases i with
    | zero =>
      cases hi
      exact .cons (hk x hx) h
    | succ i => exact .cons hx (ih hi)

/-- 出力の無かった項目が出力を持つと、集めた出力は一つ増える。 -/
theorem filterMap_set_perm {out : κ → Option ω} {k k' : κ} {y : ω} (hk : out k = none)
    (hk' : out k' = some y) : ∀ {ks : List κ} {i : Nat}, ks[i]? = some k →
      ((ks.set i k').filterMap out).Perm (y :: ks.filterMap out)
  | _ :: ks, 0, hi => by
    cases hi
    simp [hk, hk']
  | k₀ :: ks, i + 1, hi => by
    have ih : ((ks.set i k').filterMap out).Perm (y :: ks.filterMap out) :=
      filterMap_set_perm hk hk' hi
    rw [List.set_cons_succ, List.filterMap_cons, List.filterMap_cons]
    cases out k₀ with
    | none => exact ih
    | some z => exact (ih.cons z).trans (.swap y z _)

/-- 出力を持たないまま差し替わるなら、集めた出力は変わらない。 -/
theorem filterMap_set_none {out : κ → Option ω} {k k' : κ} (hk : out k = none)
    (hk' : out k' = none) : ∀ {ks : List κ} {i : Nat}, ks[i]? = some k →
      (ks.set i k').filterMap out = ks.filterMap out
  | _ :: ks, 0, hi => by
    cases hi
    simp [hk, hk']
  | k₀ :: ks, i + 1, hi => by
    have ih : (ks.set i k').filterMap out = ks.filterMap out := filterMap_set_none hk hk' hi
    rw [List.set_cons_succ, List.filterMap_cons, List.filterMap_cons, ih]

end Infra
