import Mathlib.Logic.Function.Basic
import Mathlib.Logic.Relation
import Mathlib.Order.Monotone.Defs

/-!
# 期限の付いた証

発行者は、時刻 `s` に出した証を `expiry s` の手前まで有効とする。持ち手はそれぞれ一つを手元に取って
おき、いつでも最も新しいものと取り替えられる。発行者がいつ出し直すか、持ち手がいつ取り替えるかは
決めない。

時刻が戻らず、後に出した証の期限が前のものより早くなければ、どの持ち手も、最も新しい証の期限までは
有効な証を手にでき、それを過ぎれば誰も手にできない。
-/

namespace Infra

variable {τ ι : Type}

structure Leases (τ ι : Type) where
  now : τ
  /-- 最も新しい証を出した時刻。 -/
  newest : Option τ
  /-- 手元にある証の出された時刻。 -/
  held : ι → Option τ

namespace Leases

/-- 時刻 `s` に出した証が、時刻 `t` に有効であること。 -/
def Valid [LE τ] [LT τ] (expiry : τ → τ) (t s : τ) : Prop := s ≤ t ∧ t < expiry s

/-- 一歩。 -/
inductive Step [LE τ] [DecidableEq ι] : Leases τ ι → Leases τ ι → Prop
  | pass {l : Leases τ ι} {t : τ} (h : l.now ≤ t) : Step l { l with now := t }
  | issue {l : Leases τ ι} : Step l { l with newest := some l.now }
  | renew {l : Leases τ ι} (i : ι) : Step l { l with held := Function.update l.held i l.newest }

/-- 証は、手元のもの、最も新しいもの、今の順に並ぶ。 -/
structure Ordered [LE τ] (l : Leases τ ι) : Prop where
  newest_le : ∀ n, l.newest = some n → n ≤ l.now
  held_le : ∀ i s, l.held i = some s → ∃ n, l.newest = some n ∧ s ≤ n

section

variable [Preorder τ] [DecidableEq ι] {l l' : Leases τ ι}

theorem Ordered.step (h : l.Ordered) (hstep : Step l l') : l'.Ordered := by
  cases hstep with
  | pass ht => exact ⟨fun n hn => (h.newest_le n hn).trans ht, h.held_le⟩
  | issue =>
    refine ⟨fun n hn => (Option.some.inj hn).ge, fun i s hs => ⟨l.now, rfl, ?_⟩⟩
    obtain ⟨n, hn, hsn⟩ := h.held_le i s hs
    exact hsn.trans (h.newest_le n hn)
  | renew i =>
    refine ⟨h.newest_le, fun j s hs => ?_⟩
    change Function.update l.held i l.newest j = some s at hs
    by_cases hj : j = i
    · subst hj
      rw [Function.update_self] at hs
      exact ⟨s, hs, le_refl s⟩
    · rw [Function.update_of_ne hj] at hs
      exact h.held_le j s hs

theorem Ordered.run (h : l.Ordered) (hrun : Relation.ReflTransGen Step l l') : l'.Ordered := by
  induction hrun with
  | refl => exact h
  | tail _ hstep ih => exact ih.step hstep

omit [DecidableEq ι] in
/-- **有効な証を手にできるのは、最も新しい証の期限の手前までである。** -/
theorem Ordered.usable_iff (h : l.Ordered) {expiry : τ → τ} (hmono : Monotone expiry) (i : ι) :
    ((∃ s, l.held i = some s ∧ Valid expiry l.now s) ∨
        ∃ n, l.newest = some n ∧ Valid expiry l.now n) ↔
      ∃ n, l.newest = some n ∧ l.now < expiry n := by
  constructor
  · rintro (⟨s, hs, hvalid⟩ | ⟨n, hn, hvalid⟩)
    · obtain ⟨n, hn, hsn⟩ := h.held_le i s hs
      exact ⟨n, hn, hvalid.2.trans_le (hmono hsn)⟩
    · exact ⟨n, hn, hvalid.2⟩
  · rintro ⟨n, hn, hlt⟩
    exact .inr ⟨n, hn, h.newest_le n hn, hlt⟩

end

end Leases

end Infra
