import DnsProxy.Infra.Ledger

/-!
# 待ち続けないこと

`x.Settles` は、どの状態から走らせても `x` が `pending` で終わらないことを言う。期限の付いた計算は、
中身に依らずこれを満たす。`L.Settles F x` は、同じことを、不変条件と事実 `F` の成り立つ状態からについて
言う。
-/

namespace Infra

variable {σ τ ε α β : Type}

/-- 操作は必ず終わる。 -/
def Op.Settles (op : Op σ ε α) : Prop := ∀ s, (op s).1 ≠ .pending

namespace Async

/-- `x` は待ち続けない。 -/
def Settles (x : Async σ ε α) : Prop := ∀ s, (x s).1 ≠ .pending

theorem Settles.pure (a : α) : Settles (pure a : Async σ ε α) := fun _ h => by cases h

theorem Settles.lift {x : Outcome ε α} (h : x ≠ .pending) : Settles (lift x : Async σ ε α) :=
  fun _ => h

theorem Settles.throw (e : ε) : Settles (throw e : Async σ ε α) := fun _ h => by cases h

theorem Settles.gets (f : σ → α) : Settles (gets f : Async σ ε α) := fun _ h => by cases h

theorem Settles.modify (f : σ → σ) : Settles (modify f : Async σ ε Unit) := fun _ h => by cases h

theorem Settles.call {f : τ → ε} {op : Op σ τ α} (h : op.Settles) : Settles (call f op) := by
  intro s hp
  have hs := h s
  unfold Async.call at hp
  split at hp
  · cases hp
  · cases hp
  · next s' hop =>
    rw [hop] at hs
    exact hs rfl

theorem Settles.bind {x : Async σ ε α} {f : α → Async σ ε β} (hx : Settles x)
    (hf : ∀ a, Settles (f a)) : Settles (x >>= f) := by
  intro s h
  rw [bind_apply] at h
  split at h
  · next a s' _ => exact hf a s' h
  · cases h
  · next s' hs => exact hx s (by rw [hs])
  · cases h

theorem Settles.handle {x : Async σ ε α} {h : ε → Async σ ε α} (hx : Settles x)
    (hh : ∀ e, Settles (h e)) : Settles (x.handle h) := by
  intro s hp
  unfold Async.handle at hp
  split at hp
  · next e s' _ => exact hh e s' hp
  · exact hx s hp

theorem Settles.attempt {x : Async σ ε α} (hx : Settles x) : Settles x.attempt := by
  intro s hp
  unfold Async.attempt at hp
  split at hp
  · cases hp
  · cases hp
  · next s' hs => exact hx s (by rw [hs])
  · cases hp

/-- 期限が有れば、中身に依らない。 -/
theorem Settles.timeout {δ : Type} {d : Option δ} (hd : d.isSome) (e : δ → ε) (x : Async σ ε α) :
    Settles (x.timeout d e) := by
  obtain ⟨d, rfl⟩ := Option.isSome_iff_exists.mp hd
  intro s hp
  unfold Async.timeout at hp
  dsimp only at hp
  split at hp
  · cases hp
  · next hne =>
    refine hne (x s).2 ?_
    rw [← hp]

end Async

/-! ## 不変条件の下で -/

namespace Ledger

variable {φ : Type} (L : Ledger σ φ)

/-- 不変条件と事実 `F` の成り立つ状態から始めた `x` は、待ち続けない。 -/
def Settles (F : Set φ) (x : Async σ ε α) : Prop := ∀ s, L.Safe F s → (x s).1 ≠ .pending

variable {L} {F : Set φ} {Q : α → Set φ → Prop}

theorem Settles.of_always {x : Async σ ε α} (h : x.Settles) : L.Settles F x := fun s _ => h s

/-- 後の計算は、前の計算が値を返したときに分かることの下でだけ調べればよい。 -/
theorem Settles.bind {x : Async σ ε α} {f : α → Async σ ε β} (hx : L.Settles F x)
    (hrun : L.Runs F x Q) (hf : ∀ a G, F ⊆ G → Q a G → L.Settles G (f a)) :
    L.Settles F (x >>= f) := by
  intro s hs h
  rw [Async.bind_apply] at h
  split at h
  · next a s' hxs =>
    obtain ⟨G, ⟨hFG, hq⟩, hs'⟩ := (hrun s hs).1 a s' hxs
    exact hf a G hFG hq s' hs' h
  · cases h
  · next s' hxs => exact hx s hs (by rw [hxs])
  · cases h

theorem Settles.attempt {x : Async σ ε α} (hx : L.Settles F x) : L.Settles F x.attempt := by
  intro s hs h
  unfold Async.attempt at h
  split at h
  · cases h
  · cases h
  · next s' hxs => exact hx s hs (by rw [hxs])
  · cases h

end Ledger

end Infra
