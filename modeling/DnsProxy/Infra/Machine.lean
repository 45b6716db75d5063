import Mathlib.Data.List.Basic

/-!
# 状態機械

event で動く状態機械と、そこから到達できる状態。`step` は実行できる関数のままにし、
環境が選ぶもの（どの event が起こりうるか）だけを `allowed` という述語に分ける。

全 run についての性質は `Reach.invariant` で「初期状態で成り立ち、一歩で保たれる」に帰着する。
-/

namespace Infra

variable {σ ε : Type}

structure Machine (σ ε : Type) where
  init : σ
  /-- その状態で環境がその event を起こしうること。 -/
  allowed : σ → ε → Prop
  /-- 一歩。起こせない event では `none`。 -/
  step : σ → ε → Option σ

namespace Machine

/-- 初期状態から到達できる状態。 -/
inductive Reach (M : Machine σ ε) : σ → Prop
  | init : Reach M M.init
  | step {s s' : σ} {e : ε} :
      Reach M s → M.allowed s e → M.step s e = some s' → Reach M s'

/-- **帰納法の原理。** 初期状態で成り立ち一歩で保たれる性質は、到達できる状態すべてで成り立つ。 -/
theorem Reach.invariant {M : Machine σ ε} {P : σ → Prop} (h0 : P M.init)
    (hstep : ∀ s e s', P s → M.allowed s e → M.step s e = some s' → P s')
    {s : σ} (h : Reach M s) : P s := by
  induction h with
  | init => exact h0
  | step _ ha hs ih => exact hstep _ _ _ ih ha hs

/-- どの一歩も条件 `cond` を満たす run に限った状態機械。 -/
def restrict (M : Machine σ ε) (cond : σ → ε → Prop) : Machine σ ε :=
  { M with allowed := fun s e => M.allowed s e ∧ cond s e }

theorem Reach.of_restrict {M : Machine σ ε} {cond : σ → ε → Prop} {s : σ}
    (h : (M.restrict cond).Reach s) : M.Reach s := by
  induction h with
  | init => exact .init
  | step _ ha hs ih => exact .step ih ha.1 hs

/-! ## event の列を続けて実行する -/

/-- event を順に起こす。途中で起こせなければ `none`。 -/
def exec (M : Machine σ ε) : σ → List ε → Option σ
  | s, [] => some s
  | s, e :: es =>
    match M.step s e with
    | none => none
    | some s' => exec M s' es

/-- どの状態でも許される event だけなら、実行の終わりも到達できる。 -/
theorem Reach.exec {M : Machine σ ε} :
    ∀ {es : List ε} {s s' : σ}, M.Reach s → (∀ t, ∀ e ∈ es, M.allowed t e) →
      M.exec s es = some s' → M.Reach s'
  | [], _, _, h, _, he => by
    cases he
    exact h
  | e :: es, s, s', h, ha, he => by
    rw [Machine.exec] at he
    split at he
    · cases he
    · next s₁ hs =>
      exact Reach.exec (h.step (ha s e (by simp)) hs) (fun t x hx => ha t x (by simp [hx])) he

end Machine

end Infra
