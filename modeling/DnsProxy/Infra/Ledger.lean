import DnsProxy.Infra.Hoare
import Mathlib.Data.Set.Basic

/-!
# 不変条件と、増えるだけの知識

状態の不変条件 `inv` と、一度成り立てば消えない事実 `holds` の組を `Ledger` と呼ぶ。`L.Runs F x Q` は、
事実 `F` を知って走らせた `x` が、どう終わっても不変条件と `F` を保ち、値 `a` を返せば、`F` を含み
`Q a G` を満たすだけの事実 `G` を知って終わることを言う。

待つ間にほかの task が状態を変えても、不変条件を守り事実を消さない限り（`Ledger.Evolves`）、
知っていることはそのまま使える。
-/

namespace Infra

/-- 不変条件と、消えない事実。 -/
structure Ledger (σ φ : Type) where
  inv : σ → Prop
  holds : φ → σ → Prop

namespace Ledger

variable {σ τ ε α β φ : Type} (L : Ledger σ φ)

/-- 不変条件が成り立ち、`F` の事実がどれも成り立つ。 -/
def Safe (F : Set φ) (s : σ) : Prop := L.inv s ∧ ∀ f ∈ F, L.holds f s

/-- 不変条件を守り、事実を消さない遷移。 -/
def Evolves (s s' : σ) : Prop := (L.inv s → L.inv s') ∧ ∀ f, L.holds f s → L.holds f s'

/-- 事実 `F` を知って始めた `x` は、どう終わっても `F` を保ち、値を返せば `Q` だけの事実を得る。 -/
def Runs (F : Set φ) (x : Async σ ε α) (Q : α → Set φ → Prop) : Prop :=
  Async.Triple (L.Safe F) x (fun a s => ∃ G, (F ⊆ G ∧ Q a G) ∧ L.Safe G s) (L.Safe F)

variable {L} {F G : Set φ} {Q Q' : α → Set φ → Prop} {R : β → Set φ → Prop}

theorem Safe.mono {s : σ} (h : L.Safe G s) (hFG : F ⊆ G) : L.Safe F s :=
  ⟨h.1, fun f hf => h.2 f (hFG hf)⟩

theorem Safe.evolves {s s' : σ} (h : L.Safe F s) (hs : L.Evolves s s') : L.Safe F s' :=
  ⟨hs.1 h.1, fun f hf => hs.2 f (h.2 f hf)⟩

theorem Evolves.refl (s : σ) : L.Evolves s s := ⟨id, fun _ h => h⟩

theorem Evolves.trans {s₁ s₂ s₃ : σ} (h : L.Evolves s₁ s₂) (h' : L.Evolves s₂ s₃) :
    L.Evolves s₁ s₃ := ⟨h'.1 ∘ h.1, fun f hf => h'.2 f (h.2 f hf)⟩

/-! ## 計算の組み立て -/

namespace Runs

theorem weaken {x : Async σ ε α} (h : L.Runs F x Q) (hQ : ∀ a G, F ⊆ G → Q a G → Q' a G) :
    L.Runs F x Q' :=
  Async.Triple.consequence h (fun _ hs => hs)
    (fun a _ ⟨G, ⟨hFG, hq⟩, hs⟩ => ⟨G, ⟨hFG, hQ a G hFG hq⟩, hs⟩) fun _ hs => hs

theorem bind {x : Async σ ε α} {f : α → Async σ ε β} (hx : L.Runs F x Q)
    (hf : ∀ a G, F ⊆ G → Q a G → L.Runs G (f a) R) : L.Runs F (x >>= f) R := by
  refine Async.Triple.bind hx fun a => Async.Triple.of_exists fun G =>
    Async.Triple.of_and fun hG => ?_
  obtain ⟨hFG, hq⟩ := hG
  exact Async.Triple.consequence (hf a G hFG hq) (fun _ hs => hs)
    (fun _ _ ⟨H, ⟨hGH, hr⟩, hs⟩ => ⟨H, ⟨hFG.trans hGH, hr⟩, hs⟩) fun _ hs => hs.mono hFG

theorem pure {a : α} (h : Q a F) : L.Runs F (pure a : Async σ ε α) Q :=
  Async.Triple.pure fun _ hs => ⟨F, ⟨Set.Subset.rfl, h⟩, hs⟩

theorem throw {e : ε} : L.Runs F (Async.throw e : Async σ ε α) Q :=
  Async.Triple.throw fun _ hs => hs

theorem lift {x : Outcome ε α} (h : ∀ a, x = .ok a → Q a F) :
    L.Runs F (Async.lift x : Async σ ε α) Q :=
  Async.Triple.lift (fun a _ hx hs => ⟨F, ⟨Set.Subset.rfl, h a hx⟩, hs⟩) fun _ hs => hs

theorem handle {x : Async σ ε α} {h : ε → Async σ ε α} (hx : L.Runs F x Q)
    (hh : ∀ e, L.Runs F (h e) Q) : L.Runs F (x.handle h) Q := Async.Triple.handle hx hh

theorem timeout {δ : Type} {d : Option δ} {e : δ → ε} {x : Async σ ε α} (hx : L.Runs F x Q) :
    L.Runs F (x.timeout d e) Q := Async.Triple.timeout hx

/-- 失敗も値として受け取る。失敗したときに分かることは無い。 -/
theorem attempt {x : Async σ ε α} (hx : L.Runs F x Q) :
    L.Runs F x.attempt fun r G => ∀ a, r = .ok a → Q a G := by
  intro s hs
  obtain ⟨hok, hfail⟩ := hx s hs
  unfold Async.attempt
  cases hrun : x s with
  | mk r s' =>
    rw [hrun] at hfail
    cases r with
    | ok a =>
      obtain ⟨G, ⟨hFG, hq⟩, hs'⟩ := hok a s' hrun
      refine ⟨fun b s'' h => ?_, fun h => absurd rfl (h (.ok a))⟩
      cases h
      exact ⟨G, ⟨hFG, fun a' ha => (by cases ha; exact hq)⟩, hs'⟩
    | err e =>
      refine ⟨fun b s'' h => ?_, fun h => absurd rfl (h (.error e))⟩
      cases h
      exact ⟨F, ⟨Set.Subset.rfl, fun a ha => by cases ha⟩, hfail fun a h => by cases h⟩
    | pending => exact ⟨fun b s'' h => (by cases h), fun _ => hfail fun a h => by cases h⟩
    | panic => exact ⟨fun b s'' h => (by cases h), fun _ => hfail fun a h => by cases h⟩

/-! ## 状態に触れるところ -/

/-- 読むだけの計算では、読んだ状態について成り立つ事実が加わる。 -/
theorem gets {f : σ → α} (h : ∀ s, L.Safe F s → ∃ G, (F ⊆ G ∧ Q (f s) G) ∧ L.Safe G s) :
    L.Runs F (Async.gets f : Async σ ε α) Q := Async.Triple.gets h

theorem gets_inv {f : σ → α} {P : α → Prop} (h : ∀ s, L.Safe F s → P (f s)) :
    L.Runs F (Async.gets f : Async σ ε α) fun a _ => P a :=
  gets fun s hs => ⟨F, ⟨Set.Subset.rfl, h s hs⟩, hs⟩

/-- 事実を知って走らせれば、どう終わってもその事実は残る。 -/
theorem safe {x : Async σ ε α} (h : L.Runs F x Q) {s : σ} (hs : L.Safe F s) :
    L.Safe F (x s).2 := by
  obtain ⟨hok, hfail⟩ := h s hs
  by_cases hx : ∃ a, (x s).1 = .ok a
  · obtain ⟨a, ha⟩ := hx
    obtain ⟨G, ⟨hFG, -⟩, hs'⟩ := hok a (x s).2 (Prod.ext ha rfl)
    exact hs'.mono hFG
  · exact hfail fun a ha => hx ⟨a, ha⟩

/-- 値を返した計算は、終わったところで成り立つ事実をどれも知っている。 -/
theorem of_holds {x : Async σ ε α} (hsafe : ∀ s, L.Safe F s → L.Safe F (x s).2)
    (hok : ∀ s a s', L.Safe F s → x s = (.ok a, s') → Q a {f | L.holds f s'}) :
    L.Runs F x Q := by
  intro s hs
  refine ⟨fun a s' hx => ?_, fun _ => hsafe s hs⟩
  have hs' : L.Safe F s' := by simpa [hx] using hsafe s hs
  exact ⟨{f | L.holds f s'}, ⟨fun f hf => hs'.2 f hf, hok s a s' hs hx⟩, ⟨hs'.1, fun f hf => hf⟩⟩

theorem of_safe {x : Async σ ε α} (h : ∀ s, L.Safe F s → L.Safe F (x s).2) :
    L.Runs F x fun _ _ => True := of_holds h fun _ _ _ _ _ => trivial

/-- 状態を正しく進めるだけの計算。 -/
theorem of_evolves {x : Async σ ε α} (h : ∀ s, L.Safe F s → L.Evolves s (x s).2) :
    L.Runs F x fun _ _ => True := of_safe fun s hs => hs.evolves (h s hs)

theorem modify {f : σ → σ} (h : ∀ s, L.Safe F s → L.Evolves s (f s)) :
    L.Runs F (Async.modify f : Async σ ε Unit) fun _ _ => True := of_evolves h

/-- 読んだところで成り立つ事実をどれも知っている。 -/
theorem gets_holds {f : σ → α} (h : ∀ s, L.Safe F s → Q (f s) {x | L.holds x s}) :
    L.Runs F (Async.gets f : Async σ ε α) Q :=
  of_holds (fun _ hs => hs) fun s a s' hs hx => by
    cases hx
    exact h s hs

theorem call {f : τ → ε} {op : Op σ τ α} (hstep : ∀ s, L.Safe F s → L.Evolves s (op s).2) :
    L.Runs F (Async.call f op) fun _ _ => True := by
  refine of_evolves fun s hs => ?_
  have hop := hstep s hs
  unfold Async.call
  split <;>
  · next h =>
      rw [h] at hop
      exact hop

/-- 操作は、値を返せば、終わったところで成り立つ事実を教える。 -/
theorem call_holds {f : τ → ε} {op : Op σ τ α}
    (hstep : ∀ s, L.Safe F s → L.Evolves s (op s).2)
    (hok : ∀ s a s', L.Safe F s → op s = (.ok a, s') → Q a {f | L.holds f s'}) :
    L.Runs F (Async.call f op) Q := by
  have hcall : L.Runs F (Async.call f op) fun _ _ => True := call hstep
  exact of_holds (fun s hs => hcall.safe hs) fun s a s' hs hx =>
    hok s a s' hs (Async.call_ok_iff.mp hx)

end Runs

end Ledger

end Infra
