import DnsProxy.Infra.Async
import Mathlib.Data.List.Forall2

/-!
# 順に始まる task

`tokio::spawn` のように、始めた task を手元の列に積んでいく計算を考える。状態は `List κ × σ` である。

`x.Launches R I plan` は、`x` の始めた task が計画 `plan` の先頭から順に `R` で対応し、`x` が値を返すなら
計画の全部を、失敗するなら全部に満たない分だけを始めていることを言う。待つことも panic することも無く、
世界の不変条件 `I` は保たれる。何も始めない準備（`x.Prepares I P`）は計画に影響しない。
-/

namespace Infra

variable {σ τ ε ε' α β κ π : Type}

namespace Async

/-- 待たない操作。失敗は `f` で読み替える。 -/
def sync (f : τ → ε) (op : σ → Except τ α × σ) : Async σ ε α := fun s =>
  (.ofExcept ((op s).1.mapError f), (op s).2)

/-- 失敗を `f` で読み替える。 -/
def mapErr (f : ε → ε') (x : Async σ ε α) : Async σ ε' α := fun s =>
  match x s with
  | (.ok a, s') => (.ok a, s')
  | (.err e, s') => (.err (f e), s')
  | (.pending, s') => (.pending, s')
  | (.panic, s') => (.panic, s')

/-- task `k` を始める。 -/
def spawn (k : κ) : Async (List κ × σ) ε Unit := modify fun t => (t.1 ++ [k], t.2)

/-! ## 待たない計算 -/

/-- `x` は値か失敗ですぐに終わり、不変条件 `I` を保つ。返す値は `P` を満たす。 -/
def Prompt (I : σ → Prop) (P : α → Prop) (x : Async σ ε α) : Prop :=
  ∀ s, I s → (x s).1.Returns ∧ I (x s).2 ∧ ∀ a, (x s).1 = .ok a → P a

section

variable {I : σ → Prop} {P : α → Prop}

theorem Prompt.mono {Q : α → Prop} {x : Async σ ε α} (hx : Prompt I P x) (h : ∀ a, P a → Q a) :
    Prompt I Q x := fun s hs =>
  ⟨(hx s hs).1, (hx s hs).2.1, fun a ha => h a ((hx s hs).2.2 a ha)⟩

theorem Prompt.pure {a : α} (ha : P a) : Prompt I P (pure a : Async σ ε α) := fun _ h =>
  ⟨Outcome.returns_ok a, h, fun b hb => by cases hb; exact ha⟩

theorem Prompt.lift {x : Outcome ε α} (hx : x.Returns) (hP : ∀ a, x = .ok a → P a) :
    Prompt I P (lift x : Async σ ε α) := fun _ h => ⟨hx, h, hP⟩

theorem Prompt.gets (f : σ → α) : Prompt I (fun _ => True) (gets f : Async σ ε α) := fun _ h =>
  ⟨Outcome.returns_ok _, h, fun _ _ => trivial⟩

theorem Prompt.throw (e : ε) : Prompt I P (throw e : Async σ ε α) :=
  Prompt.lift (Outcome.returns_err e) fun _ h => by cases h

theorem ofExcept_returns (x : Except ε α) : (Outcome.ofExcept x : Outcome ε α).Returns := by
  cases x with
  | error e => exact Outcome.returns_err e
  | ok a => exact Outcome.returns_ok a

theorem Prompt.ofExcept {x : Except ε α} (hP : ∀ a, x = .ok a → P a) :
    Prompt I P (Async.lift (.ofExcept x) : Async σ ε α) := by
  refine Prompt.lift (ofExcept_returns x) fun a ha => hP a ?_
  cases x with
  | error e => cases ha
  | ok b => cases ha; rfl

/-- 待たない操作の値は、いつかの状態での答えである。 -/
theorem Prompt.sync {f : τ → ε} {op : σ → Except τ α × σ} (hop : ∀ s, I s → I (op s).2) :
    Prompt I (fun a => ∃ s, (op s).1 = .ok a) (sync f op) := by
  refine fun s h => ⟨ofExcept_returns _, hop s h, fun a ha => ⟨s, ?_⟩⟩
  unfold Async.sync at ha
  cases hr : (op s).1 with
  | error e => rw [hr] at ha; cases ha
  | ok b => rw [hr] at ha; cases ha; rfl

/-- 失敗しない操作の値も、いつかの状態での答えである。 -/
theorem Prompt.observe {op : σ → α × σ} (hop : ∀ s, I s → I (op s).2) :
    Prompt I (fun a => ∃ s, (op s).1 = a)
      ((fun s => (.ok (op s).1, (op s).2)) : Async σ ε α) := by
  refine fun s h => ⟨Outcome.returns_ok _, hop s h, fun a ha => ⟨s, ?_⟩⟩
  cases ha
  rfl

theorem Prompt.bind {Q : β → Prop} {x : Async σ ε α} {f : α → Async σ ε β} (hx : Prompt I P x)
    (hf : ∀ a, P a → Prompt I Q (f a)) : Prompt I Q (x >>= f) := by
  intro s h
  obtain ⟨hret, hs, hP⟩ := hx s h
  rw [bind_apply]
  cases hxs : x s with
  | mk r s' =>
    rw [hxs] at hret hs hP
    cases r with
    | ok a => exact hf a (hP a rfl) s' hs
    | err e => exact ⟨Outcome.returns_err e, hs, fun _ hb => by cases hb⟩
    | pending => exact absurd rfl hret.ne_pending
    | panic => exact absurd rfl hret.ne_panic

theorem Prompt.mapErr {x : Async σ ε α} (hx : Prompt I P x) (f : ε → ε') :
    Prompt I P (x.mapErr f) := by
  intro s h
  obtain ⟨hret, hs, hP⟩ := hx s h
  unfold Async.mapErr
  cases hxs : x s with
  | mk r s' =>
    rw [hxs] at hret hs hP
    cases r with
    | ok a => exact ⟨Outcome.returns_ok a, hs, fun b hb => hP b (by cases hb; rfl)⟩
    | err e => exact ⟨Outcome.returns_err (f e), hs, fun _ hb => by cases hb⟩
    | pending => exact absurd rfl hret.ne_pending
    | panic => exact absurd rfl hret.ne_panic

end

/-! ## 何も始めない準備 -/

/-- `x` はすぐに終わり、task を始めない。 -/
structure Prepares (I : σ → Prop) (P : α → Prop) (x : Async (List κ × σ) ε α) : Prop where
  prompt : x.Prompt (fun t => I t.2) P
  fst_eq : ∀ t, (x t).2.1 = t.1

section

variable {I : σ → Prop} {P : α → Prop}

theorem Prepares.ofExcept {x : Except ε α} (hP : ∀ a, x = .ok a → P a) :
    Prepares I P (Async.lift (.ofExcept x) : Async (List κ × σ) ε α) :=
  ⟨Prompt.ofExcept hP, fun _ => rfl⟩

theorem Prompt.onSnd {x : Async σ ε α} (hx : x.Prompt I P) :
    Prepares I P (x.onSnd : Async (List κ × σ) ε α) := ⟨fun t h => hx t.2 h, fun _ => rfl⟩

end

/-! ## 計画のとおりに始まること -/

/-- 計画 `plan` に沿って `started` を始めた計算の終わり方。 -/
inductive LaunchEnd (R : π → κ → Prop) (plan : List π) (started : List κ) : Outcome ε α → Prop
  | all {a : α} (h : List.Forall₂ R plan started) : LaunchEnd R plan started (.ok a)
  | stopped {e : ε} (begun rest : List π) (hplan : plan = begun ++ rest) (hrest : rest ≠ [])
      (h : List.Forall₂ R begun started) : LaunchEnd R plan started (.err e)

/-- `x` は計画 `plan` に沿って task を始める。 -/
def Launches (R : π → κ → Prop) (I : σ → Prop) (plan : List π) (x : Async (List κ × σ) ε α) :
    Prop :=
  ∀ t, I t.2 → ∃ started, (x t).2.1 = t.1 ++ started ∧ I (x t).2.2 ∧
    LaunchEnd R plan started (x t).1

variable {R : π → κ → Prop} {I : σ → Prop}

theorem Launches.pure (a : α) : Launches R I [] (pure a : Async (List κ × σ) ε α) := fun t h =>
  ⟨[], (List.append_nil t.1).symm, h, .all .nil⟩

theorem Launches.spawn {p : π} {k : κ} (hR : R p k) :
    Launches R I [p] (spawn k : Async (List κ × σ) ε Unit) := fun _ h =>
  ⟨[k], rfl, h, .all (.cons hR .nil)⟩

/-- 計画は繋がる。 -/
theorem Launches.bind {p q : List π} {x : Async (List κ × σ) ε α}
    {f : α → Async (List κ × σ) ε β} (hx : Launches R I p x) (hf : ∀ a, Launches R I q (f a)) :
    Launches R I (p ++ q) (x >>= f) := by
  intro t ht
  obtain ⟨started, hfst, hI, hend⟩ := hx t ht
  rw [bind_apply]
  cases hxs : x t with
  | mk r t' =>
    rw [hxs] at hfst hI hend
    dsimp only at hfst hI hend
    cases hend with
    | @all a h =>
      obtain ⟨later, hfst', hI', hend'⟩ := hf a t' hI
      refine ⟨started ++ later, by rw [hfst', hfst, List.append_assoc], hI', ?_⟩
      dsimp only
      cases hfs : (f a t').1 with
      | ok b =>
        rw [hfs] at hend'
        cases hend' with
        | all h' => exact .all (List.rel_append h h')
      | err e =>
        rw [hfs] at hend'
        cases hend' with
        | stopped begun rest hplan hrest h' =>
          refine .stopped (p ++ begun) rest ?_ hrest (List.rel_append h h')
          rw [hplan, List.append_assoc]
      | pending => rw [hfs] at hend'; cases hend'
      | panic => rw [hfs] at hend'; cases hend'
    | stopped begun rest hplan hrest h =>
      refine ⟨started, hfst, hI, .stopped begun (rest ++ q) ?_ (by simp [hrest]) h⟩
      rw [hplan, List.append_assoc]

/-- 計画が空でなければ、前に準備が在ってもよい。準備の返す値について分かることも使える。 -/
theorem Launches.after {p : List π} {P : α → Prop} {x : Async (List κ × σ) ε α}
    {f : α → Async (List κ × σ) ε β} (hp : p ≠ []) (hx : Prepares I P x)
    (hf : ∀ a, P a → Launches R I p (f a)) : Launches R I p (x >>= f) := by
  intro t ht
  have hfst := hx.fst_eq t
  obtain ⟨hret, hI, hP⟩ := hx.prompt t ht
  rw [bind_apply]
  cases hxs : x t with
  | mk r t' =>
    rw [hxs] at hfst hret hI hP
    dsimp only at hfst hI
    cases r with
    | ok a =>
      obtain ⟨started, hfst', hend⟩ := hf a (hP a rfl) t' hI
      exact ⟨started, by rw [hfst', hfst], hend⟩
    | err e => exact ⟨[], by rw [hfst, List.append_nil], hI, .stopped [] p rfl hp .nil⟩
    | pending => exact absurd rfl hret.ne_pending
    | panic => exact absurd rfl hret.ne_panic

/-- 一つずつ始めていく loop。 -/
theorem Launches.forM {plan : β → List π} {f : β → Async (List κ × σ) ε Unit}
    (hf : ∀ b, Launches R I (plan b) (f b)) :
    ∀ l : List β, Launches R I (l.flatMap plan) (l.forM f)
  | [] => Launches.pure ()
  | b :: rest => (hf b).bind fun _ => Launches.forM hf rest

/-- 一つの項目から一つを始める loop。値は捨てる。 -/
theorem Launches.each {post : β → π} {f : β → Async (List κ × σ) ε α}
    (hf : ∀ b, Launches R I [post b] (f b)) (l : List β) :
    Launches R I (l.map post) (l.forM fun b => do let _ ← f b) := by
  rw [List.map_eq_flatMap]
  exact Launches.forM (fun b => (hf b).bind fun _ => Launches.pure ()) l

theorem Launches.mapErr {p : List π} {x : Async (List κ × σ) ε α} (hx : Launches R I p x)
    (f : ε → ε') : Launches R I p (x.mapErr f) := by
  intro t ht
  obtain ⟨started, hfst, hI, hend⟩ := hx t ht
  unfold Async.mapErr
  cases hxs : x t with
  | mk r t' =>
    rw [hxs] at hfst hI hend
    dsimp only at hfst hI hend
    cases hend with
    | all h => exact ⟨started, hfst, hI, .all h⟩
    | stopped begun rest hplan hrest h =>
      exact ⟨started, hfst, hI, .stopped begun rest hplan hrest h⟩

end Async

end Infra
