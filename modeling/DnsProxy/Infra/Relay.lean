import DnsProxy.Infra.Async

/-!
# 中継

要求を書き換えて奥へ渡し、応答を書き換えて返す中継を、書き換えと通す条件だけで表す。

`Carries D l base x y` は、`D` に属する要求について、`x` の返す値が、奥の `y` の返す値を `l` に通した
ものであることを言う。`base` は `x` の状態のうち、`y` の見る部分である。中継は合成でき
（`Carries.comp`）、順に届く要求の列についても同じことが言える（`Carries.run`）。
-/

namespace Infra

variable {Q R : Type}

/-- 中継の、要求と応答への働き。 -/
structure Relay (Q R : Type) where
  /-- 奥へ渡す要求。 -/
  wire : Q → Q
  /-- 奥の応答から作る、要求への応答。 -/
  back : Q → R → R
  /-- 要求を奥へ渡せる。 -/
  sends : Q → Prop
  /-- 奥の応答を返せる。 -/
  returns : Q → R → Prop

namespace Relay

/-- `outer` の奥に `inner` を置く。 -/
def comp (outer inner : Relay Q R) : Relay Q R where
  wire q := inner.wire (outer.wire q)
  back q r := outer.back q (inner.back (outer.wire q) r)
  sends q := outer.sends q ∧ inner.sends (outer.wire q)
  returns q r := inner.returns (outer.wire q) r ∧ outer.returns q (inner.back (outer.wire q) r)

/-- 同じ働きをする。 -/
structure Same (l l' : Relay Q R) : Prop where
  wire : ∀ q, l.wire q = l'.wire q
  back : ∀ q r, l.back q r = l'.back q r
  sends : ∀ q, l.sends q ↔ l'.sends q
  returns : ∀ q r, l.returns q r ↔ l'.returns q r

end Relay

section

variable {ε ρ σ τ υ : Type} {D : Q → Prop} {l outer inner : Relay Q R} {base : τ → σ}

/-- `D` の要求では、待ち続けることが無い。 -/
def Responsive (D : Q → Prop) (x : Q → Async τ ε R) : Prop := ∀ q t, D q → (x q t).1 ≠ .pending

/-- `x` は、`D` の要求に、奥の `y` に `l` を通して答える。 -/
structure Carries (D : Q → Prop) (l : Relay Q R) (base : τ → σ) (x : Q → Async τ ε R)
    (y : Q → Async σ ε R) : Prop where
  ok : ∀ q t r, D q → ((x q t).1 = .ok r ↔ l.sends q ∧
    ∃ r', (y (l.wire q) (base t)).1 = .ok r' ∧ l.returns q r' ∧ r = l.back q r')
  /-- 渡せる要求は、ちょうど一度渡る。 -/
  once : ∀ q t, D q → l.sends q → base (x q t).2 = (y (l.wire q) (base t)).2
  /-- 渡せない要求は、奥に届かない。 -/
  unsent : ∀ q t, D q → ¬ l.sends q → base (x q t).2 = base t
  responsive : Responsive D y → Responsive D x

theorem Carries.comp {base' : σ → ρ} {x : Q → Async τ ε R} {y : Q → Async σ ε R}
    {z : Q → Async ρ ε R} (hwire : ∀ q, D q → D (outer.wire q)) (hx : Carries D outer base x y)
    (hy : Carries D inner base' y z) : Carries D (outer.comp inner) (base' ∘ base) x z where
  ok q t r hq := by
    rw [hx.ok q t r hq]
    constructor
    · rintro ⟨hs, r', hr', hret, rfl⟩
      obtain ⟨hs', r'', hr'', hret', rfl⟩ := (hy.ok _ _ _ (hwire q hq)).mp hr'
      exact ⟨⟨hs, hs'⟩, r'', hr'', ⟨hret', hret⟩, rfl⟩
    · rintro ⟨⟨hs, hs'⟩, r'', hr'', ⟨hret', hret⟩, rfl⟩
      exact ⟨hs, _, (hy.ok _ _ _ (hwire q hq)).mpr ⟨hs', r'', hr'', hret', rfl⟩, hret, rfl⟩
  once q t hq h := by
    rw [Function.comp_apply, hx.once q t hq h.1, hy.once _ _ (hwire q hq) h.2]
    rfl
  unsent q t hq h := by
    rw [Function.comp_apply, Function.comp_apply]
    by_cases hs : outer.sends q
    · rw [hx.once q t hq hs]
      exact hy.unsent _ _ (hwire q hq) fun hs' => h ⟨hs, hs'⟩
    · rw [hx.unsent q t hq hs]
  responsive h := hx.responsive (hy.responsive h)

theorem Carries.congr {l l' : Relay Q R} {x : Q → Async τ ε R} {y : Q → Async σ ε R}
    (h : Carries D l base x y) (hl : l.Same l') : Carries D l' base x y where
  ok q t r hq := by
    rw [h.ok q t r hq, hl.sends, hl.wire]
    refine and_congr_right fun _ => exists_congr fun r' => ?_
    rw [hl.returns, hl.back]
  once q t hq hs := by
    rw [h.once q t hq ((hl.sends q).mpr hs), hl.wire]
  unsent q t hq hs := h.unsent q t hq fun hs' => hs ((hl.sends q).mp hs')
  responsive := h.responsive

/-- 奥の返す値が `E` に属し、`back` が `E` を保つなら、中継の返す値も `E` に属する。 -/
theorem Carries.replies {E : R → Prop} {x : Q → Async τ ε R} {y : Q → Async σ ε R}
    (h : Carries D l base x y) (hwire : ∀ q, D q → D (l.wire q))
    (hback : ∀ q r, E r → E (l.back q r)) (hy : ∀ q s r, D q → (y q s).1 = .ok r → E r) :
    ∀ q t r, D q → (x q t).1 = .ok r → E r := by
  intro q t r hq hr
  obtain ⟨-, r', hr', -, rfl⟩ := (h.ok q t r hq).mp hr
  exact hback q r' (hy _ _ r' (hwire q hq) hr')

/-! ## 要求の列 -/

/-- 返した値。 -/
def Outcome.value? {α : Type} : Outcome ε α → Option α
  | .ok a => some a
  | _ => none

@[simp] theorem Outcome.value?_eq_some {α : Type} {x : Outcome ε α} {a : α} :
    x.value? = some a ↔ x = .ok a := by
  cases x <;> simp [Outcome.value?]

/-- 届く順に答える。前の失敗は、後の要求に響かない。 -/
def serveAll (x : Q → Async τ ε R) : List Q → τ → List (Option R) × τ
  | [], t => ([], t)
  | q :: qs, t =>
    let rest := serveAll x qs (x q t).2
    ((x q t).1.value? :: rest.1, rest.2)

/-- **一つの要求について同じ値を返し、状態を同じように動かすなら、要求の列についても同じである。** -/
theorem serveAll_congr {x : Q → Async τ ε R} {y : Q → Async σ υ R}
    (hvalue : ∀ q t, D q → (x q t).1.value? = (y q (base t)).1.value?)
    (hstate : ∀ q t, D q → base (x q t).2 = (y q (base t)).2) (qs : List Q) (hqs : ∀ q ∈ qs, D q)
    (t : τ) :
    (serveAll x qs t).1 = (serveAll y qs (base t)).1 ∧
      base (serveAll x qs t).2 = (serveAll y qs (base t)).2 := by
  induction qs generalizing t with
  | nil => exact ⟨rfl, rfl⟩
  | cons q qs ih =>
    have hq := hqs q List.mem_cons_self
    obtain ⟨ihvalue, ihstate⟩ := ih (fun q' h => hqs q' (List.mem_cons_of_mem q h)) (x q t).2
    rw [hstate q t hq] at ihvalue ihstate
    unfold serveAll
    dsimp only
    exact ⟨by rw [hvalue q t hq, ihvalue], ihstate⟩

end

/-! ## 直に通すもの -/

namespace Relay

variable {ε σ : Type}

/-- 奥の `y` に直に訊いて、`l` を通す。通せないものは `()` で失敗する。 -/
def direct (l : Relay Q R) [DecidablePred l.sends] [∀ q, DecidablePred (l.returns q)]
    (y : Q → Async σ ε R) : Q → Async σ Unit R := fun q s =>
  if l.sends q then
    let r := y (l.wire q) s
    match r.1.value? with
    | some a => if l.returns q a then (.ok (l.back q a), r.2) else (.err (), r.2)
    | none => (.err (), r.2)
  else (.err (), s)

variable (l : Relay Q R) [DecidablePred l.sends] [∀ q, DecidablePred (l.returns q)]
  {y : Q → Async σ ε R} {q : Q}

theorem direct_ok_iff {s : σ} {r : R} : (l.direct y q s).1 = .ok r ↔ l.sends q ∧
    ∃ a, (y (l.wire q) s).1 = .ok a ∧ l.returns q a ∧ r = l.back q a := by
  unfold direct
  by_cases hs : l.sends q
  · rw [if_pos hs]
    dsimp only
    cases hv : (y (l.wire q) s).1.value? with
    | none =>
      have hno : ∀ a, (y (l.wire q) s).1 ≠ .ok a := by
        intro a ha
        rw [Outcome.value?_eq_some.mpr ha] at hv
        cases hv
      simp [hno]
    | some a =>
      rw [Outcome.value?_eq_some] at hv
      dsimp only
      by_cases hr : l.returns q a
      · simp [hr, hs, hv, eq_comm]
      · simp [hr, hv]
  · rw [if_neg hs]
    simp [hs]

theorem direct_sent (hs : l.sends q) (s : σ) : (l.direct y q s).2 = (y (l.wire q) s).2 := by
  unfold direct
  rw [if_pos hs]
  dsimp only
  split
  · split <;> rfl
  · rfl

theorem direct_unsent (hs : ¬ l.sends q) (s : σ) : (l.direct y q s).2 = s := by
  unfold direct
  rw [if_neg hs]

end Relay

section

variable {ε σ τ : Type} {D : Q → Prop} {l : Relay Q R} [DecidablePred l.sends]
  [∀ q, DecidablePred (l.returns q)] {base : τ → σ} {x : Q → Async τ ε R} {y : Q → Async σ ε R}

/-- **中継は、`D` の要求の列に、奥へ直に訊くのと同じ値を返し、奥の状態を同じように動かす。** -/
theorem Carries.run (h : Carries D l base x y) (qs : List Q) (hqs : ∀ q ∈ qs, D q) (t : τ) :
    (serveAll x qs t).1 = (serveAll (l.direct y) qs (base t)).1 ∧
      base (serveAll x qs t).2 = (serveAll (l.direct y) qs (base t)).2 := by
  refine serveAll_congr (fun q t hq => ?_) (fun q t hq => ?_) qs hqs t
  · refine Option.ext fun r => ?_
    rw [Outcome.value?_eq_some, Outcome.value?_eq_some, h.ok q t r hq, l.direct_ok_iff]
  · by_cases hs : l.sends q
    · rw [h.once q t hq hs, l.direct_sent hs]
    · rw [h.unsent q t hq hs, l.direct_unsent hs]

end

end Infra
