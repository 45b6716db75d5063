import DnsProxy.Infra.Async

/-!
# 事前条件と事後条件

`Triple P x Q E` は、`P` の成り立つ状態から `x` を走らせると、値 `a` を返せば `Q a` の、返さなければ
`E` の成り立つ状態で終わることを言う。期限が切れるのも、待ち続けるのも、panic するのも `E` の側である。

`call`・`gets`・`modify` の規則を操作ごとの事実で埋め、`bind`・`handle`・`timeout` で組み上げる。
-/

namespace Infra

/-- 操作は、どう終わっても `P` を保つ。 -/
def Op.Maintains {σ ε α : Type} (op : Op σ ε α) (P : σ → Prop) : Prop := ∀ s, P s → P (op s).2

namespace Async

variable {σ τ ε α β ι : Type}

/-- `P` から始めた `x` は、値を返せば `Q`、返さなければ `E` で終わる。 -/
def Triple (P : σ → Prop) (x : Async σ ε α) (Q : α → σ → Prop) (E : σ → Prop) : Prop :=
  ∀ s, P s → (∀ a s', x s = (.ok a, s') → Q a s') ∧ ((∀ a, (x s).1 ≠ .ok a) → E (x s).2)

variable {P P' : σ → Prop} {Q Q' : α → σ → Prop} {R : β → σ → Prop} {E E' : σ → Prop}

theorem Triple.consequence {x : Async σ ε α} (h : Triple P x Q E) (hP : ∀ s, P' s → P s)
    (hQ : ∀ a s, Q a s → Q' a s) (hE : ∀ s, E s → E' s) : Triple P' x Q' E' := by
  intro s hs
  obtain ⟨hok, hfail⟩ := h s (hP s hs)
  exact ⟨fun a s' hx => hQ a s' (hok a s' hx), fun hx => hE _ (hfail hx)⟩

/-- 事前条件の中の存在は、外に出せる。 -/
theorem Triple.of_exists {p : ι → σ → Prop} {x : Async σ ε α}
    (h : ∀ i, Triple (p i) x Q E) : Triple (fun s => ∃ i, p i s) x Q E :=
  fun s ⟨i, hi⟩ => h i s hi

/-- 状態に依らない事前条件は、仮定にできる。 -/
theorem Triple.of_and {p : Prop} {x : Async σ ε α} (h : p → Triple P x Q E) :
    Triple (fun s => p ∧ P s) x Q E :=
  fun s ⟨hp, hs⟩ => h hp s hs

theorem Triple.bind {x : Async σ ε α} {f : α → Async σ ε β} (hx : Triple P x Q E)
    (hf : ∀ a, Triple (Q a) (f a) R E) : Triple P (x >>= f) R E := by
  intro s hs
  obtain ⟨hok, hfail⟩ := hx s hs
  cases hrun : x s with
  | mk r s' =>
    rw [hrun] at hfail
    cases r with
    | ok a =>
      rw [bind_ok hrun]
      exact hf a s' (hok a s' hrun)
    | err e =>
      rw [bind_err hrun]
      exact ⟨fun b s'' h => (by cases h), fun _ => hfail fun a h => by cases h⟩
    | pending =>
      rw [bind_pending hrun]
      exact ⟨fun b s'' h => (by cases h), fun _ => hfail fun a h => by cases h⟩
    | panic =>
      rw [bind_apply, hrun]
      exact ⟨fun b s'' h => (by cases h), fun _ => hfail fun a h => by cases h⟩

theorem Triple.lift {x : Outcome ε α} (hok : ∀ a s, x = .ok a → P s → Q a s)
    (hfail : ∀ s, P s → E s) : Triple P (lift x : Async σ ε α) Q E := by
  intro s hs
  refine ⟨fun a s' h => ?_, fun _ => hfail s hs⟩
  cases h
  exact hok a s rfl hs

theorem Triple.pure {a : α} (h : ∀ s, P s → Q a s) : Triple P (pure a : Async σ ε α) Q E := by
  intro s hs
  exact ⟨fun b s' hb => (by cases hb; exact h s hs), fun hne => absurd rfl (hne a)⟩

theorem Triple.throw {e : ε} (h : ∀ s, P s → E s) : Triple P (throw e : Async σ ε α) Q E :=
  Triple.lift (fun a s ha => by cases ha) h

/-- 操作がどう終わっても `E` を保ち、値を返せばさらに `Q` を満たすこと。 -/
theorem Triple.call {f : τ → ε} {op : Op σ τ α} (hok : ∀ s a s', P s → op s = (.ok a, s') → Q a s')
    (hfail : ∀ s, P s → E (op s).2) : Triple P (call f op) Q E := by
  intro s hs
  refine ⟨fun a s' h => hok s a s' hs (call_ok_iff.mp h), fun _ => ?_⟩
  have hE := hfail s hs
  unfold Async.call
  cases hop : op s with
  | mk r s' =>
    rw [hop] at hE
    cases r <;> exact hE

theorem Triple.call_keeps {f : τ → ε} {op : Op σ τ α} (h : op.Maintains P) :
    Triple P (Async.call f op) (fun _ => P) P :=
  Triple.call (fun s a s' hs hop => by simpa [hop] using h s hs) h

theorem Triple.gets {f : σ → α} (h : ∀ s, P s → Q (f s) s) : Triple P (gets f : Async σ ε α) Q E := by
  intro s hs
  exact ⟨fun a s' hx => (by cases hx; exact h s hs), fun hx => absurd rfl (hx (f s))⟩

theorem Triple.modify {f : σ → σ} {Q : Unit → σ → Prop} (h : ∀ s, P s → Q () (f s)) :
    Triple P (modify f : Async σ ε Unit) Q E := by
  intro s hs
  exact ⟨fun a s' hx => (by cases hx; exact h s hs), fun hx => absurd rfl (hx ())⟩

theorem Triple.handle {x : Async σ ε α} {h : ε → Async σ ε α} (hx : Triple P x Q E)
    (hh : ∀ e, Triple E (h e) Q E) : Triple P (x.handle h) Q E := by
  intro s hs
  obtain ⟨hok, hfail⟩ := hx s hs
  cases hrun : x s with
  | mk r s' =>
    rw [hrun] at hfail
    cases r with
    | ok a =>
      rw [handle_ok hrun]
      exact ⟨fun b s'' h => (by cases h; exact hok a s' hrun), fun h => absurd rfl (h a)⟩
    | err e =>
      rw [handle_err hrun]
      exact hh e s' (hfail fun a h => by cases h)
    | pending =>
      rw [handle_pending hrun]
      exact ⟨fun b s'' h => (by cases h), fun _ => hfail fun a h => by cases h⟩
    | panic =>
      have hpanic : x.handle h s = (.panic, s') := by
        unfold Async.handle
        rw [hrun]
      rw [hpanic]
      exact ⟨fun b s'' h => (by cases h), fun _ => hfail fun a h => by cases h⟩

theorem Triple.timeout {δ : Type} {d : Option δ} {e : δ → ε} {x : Async σ ε α}
    (hx : Triple P x Q E) : Triple P (x.timeout d e) Q E := by
  intro s hs
  obtain ⟨hok, hfail⟩ := hx s hs
  refine ⟨fun a s' h => hok a s' (timeout_ok_iff.mp h), fun h => ?_⟩
  rw [timeout_snd]
  refine hfail fun a ha => ?_
  have hrun : x s = (.ok a, (x s).2) := Prod.ext ha rfl
  exact h a (congrArg Prod.fst (timeout_ok hrun))

end Async

end Infra
