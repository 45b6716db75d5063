import DnsProxy.Infra.Async

/-!
# 取っておいたものでの一度だけの再試行

置き場所に取っておいたもの `H` で試み、失敗したら作り直してもう一度だけ試みる計算。

1. `acquire` — 置き場所のものを取り出す。無ければ作って置く
2. `attempt` — それで試みる
3. 取ってあったもので失敗し、その失敗が再試行に値するなら `renew` で作り直し、もう一度試みる
4. そうでなければ `discard` で置き場所を空にし、失敗を返す

3. の途中で失敗すると置き場所は空にならない。失敗した後に、失敗したものが置き場所に残っていないのは
ちょうど 3. の途中で失敗しなかったときである（`Retry.forgets_iff`）。

計算が変えないところ（`Async.Keeps`）と保つ性質（`Async.Preserves`）の規則もここに置く。
ほかの計算と入り混じるときのために、`exchange` を四つまでの段に分けたもの（`Retry.step`）も与える。
-/

namespace Infra

variable {σ τ ε α β H : Type}

/-! ## 変わらないところ -/

namespace Async

/-- `x` は、どう終わっても `f` で見えるところを変えない。 -/
def Keeps (f : σ → β) (x : Async σ ε α) : Prop := x.Moves fun s t => f t = f s

variable {γ : Type} {f : σ → γ}

theorem Keeps.lift (x : Outcome ε α) : Keeps f (lift x : Async σ ε α) := fun _ => rfl

theorem Keeps.pure (a : α) : Keeps f (pure a : Async σ ε α) := fun _ => rfl

theorem Keeps.throw (e : ε) : Keeps f (throw e : Async σ ε α) := fun _ => rfl

theorem Keeps.gets (g : σ → α) : Keeps f (gets g : Async σ ε α) := fun _ => rfl

theorem Keeps.call {g : τ → ε} {op : Op σ τ α} (h : ∀ s, f (op s).2 = f s) : Keeps f (call g op) :=
  Moves.call h

theorem Keeps.timeout {δ : Type} {d : Option δ} {e : δ → ε} {x : Async σ ε α} (hx : Keeps f x) :
    Keeps f (x.timeout d e) := Moves.timeout hx

theorem Keeps.bind {x : Async σ ε α} {g : α → Async σ ε β} (hx : Keeps f x)
    (hg : ∀ a, Keeps f (g a)) : Keeps f (x >>= g) :=
  Moves.bind (fun _ _ _ hab hbc => hbc.trans hab) hx hg

theorem Keeps.apply {x : Async σ ε α} (hx : Keeps f x) {s s' : σ} {r : Outcome ε α}
    (h : x s = (r, s')) : f s' = f s := by
  have hs := hx s
  rw [h] at hs
  exact hs

theorem Keeps.attempt {x : Async σ ε α} (hx : Keeps f x) : Keeps f x.attempt := by
  intro s
  have hs := hx s
  unfold Async.attempt
  split
  · next h => rw [h] at hs; exact hs
  · next h => rw [h] at hs; exact hs
  · next h => rw [h] at hs; exact hs
  · next h => rw [h] at hs; exact hs

/-! ### 保たれる性質 -/

/-- `x` は、どう終わっても `P` を保つ。 -/
def Preserves (P : σ → Prop) (x : Async σ ε α) : Prop := x.Moves fun s t => P s → P t

variable {P : σ → Prop}

/-- `f` で見えるところだけに依る性質は、そこを変えない計算で保たれる。 -/
theorem Keeps.preserves {x : Async σ ε α} (hx : Keeps f x) (hP : ∀ s t, f t = f s → P s → P t) :
    Preserves P x := fun s => hP s _ (hx s)

theorem Preserves.bind {x : Async σ ε α} {g : α → Async σ ε β} (hx : Preserves P x)
    (hg : ∀ a, Preserves P (g a)) : Preserves P (x >>= g) :=
  Moves.bind (fun _ _ _ hab hbc ha => hbc (hab ha)) hx hg

theorem Preserves.handle {x : Async σ ε α} {h : ε → Async σ ε α} (hx : Preserves P x)
    (hh : ∀ e, Preserves P (h e)) : Preserves P (x.handle h) :=
  Moves.handle (fun _ _ _ hab hbc ha => hbc (hab ha)) hx hh

theorem Preserves.throw (e : ε) : Preserves P (throw e : Async σ ε α) :=
  Moves.throw (fun _ => id) e

theorem Preserves.apply {x : Async σ ε α} (hx : Preserves P x) {s s' : σ} {r : Outcome ε α}
    (h : x s = (r, s')) (hs : P s) : P s' := by
  have hp := hx s hs
  rw [h] at hp
  exact hp

/-- 一つ一つの計算で保たれる性質は、順に行う計算のどの始まりでも成り立つ。 -/
theorem Preserves.starts {Q : τ → Prop} {x : β → Async (τ × σ) ε α}
    (hx : ∀ b, Preserves (fun s => Q s.1) (x b)) :
    ∀ {run : List (β × σ)} {t : τ}, Q t → ∀ p ∈ starts x t run, Q p.2.1
  | [], _, _, p, hp => by simp [Async.starts] at hp
  | (b, s) :: rest, t, ht, p, hp => by
    rw [Async.starts] at hp
    rcases List.mem_cons.mp hp with rfl | hp
    · exact ht
    · exact Preserves.starts hx (hx b (t, s) ht) p hp

end Async

/-! ## 置き場所 -/

namespace Cell

/-- 置き場所のものを取り出す。無ければ作って置く。取ってあったかどうかを添えて返す。 -/
def getOrCreate (c : Cell σ (Option H)) (lock : Async σ ε Unit) (create : Async σ ε H) :
    Async σ ε (H × Bool) := do
  lock
  match ← Async.read c with
  | some h => pure (h, true)
  | none => do
    let h ← create
    Async.write c (some h)
    pure (h, false)

/-- 作り直して置く。 -/
def recreate (c : Cell σ (Option H)) (lock : Async σ ε Unit) (create : Async σ ε H) :
    Async σ ε H := do
  lock
  let h ← create
  Async.write c (some h)
  pure h

/-- 書いたものが読める。 -/
def Lawful (c : Cell σ (Option H)) : Prop := ∀ v s, c.get (c.set v s) = v

variable {c : Cell σ (Option H)} {lock : Async σ ε Unit} {create : Async σ ε H}

/-- 置いて返す。 -/
theorem write_pure (c : Cell σ (Option H)) (h : H) (a : α) (s : σ) :
    (do Async.write c (some h); pure a : Async σ ε α) s = (.ok a, c.set (some h) s) := rfl

/-- 取り出した後は、取り出したものが置き場所に在る。取ってあったものは、初めから在ったものである。 -/
theorem getOrCreate_ok (hc : c.Lawful) (hlock : lock.Keeps c.get) {s s' : σ} {h : H} {cached : Bool}
    (he : c.getOrCreate lock create s = (.ok (h, cached), s')) :
    c.get s' = some h ∧ (cached = true → c.get s = some h) := by
  unfold getOrCreate at he
  obtain ⟨u, s₁, hl, he⟩ := Async.bind_ok_iff.mp he
  have hs₁ : c.get s₁ = c.get s := hlock.apply hl
  have hread : (Async.read c : Async σ ε (Option H)) s₁ = (.ok (c.get s₁), s₁) := rfl
  rw [Async.bind_ok hread] at he
  cases hslot : c.get s₁ with
  | some h₀ =>
    rw [hslot] at he
    cases he
    exact ⟨hslot, fun _ => by rw [← hs₁, hslot]⟩
  | none =>
    rw [hslot] at he
    obtain ⟨h₁, s₂, -, he⟩ := Async.bind_ok_iff.mp he
    rw [write_pure] at he
    cases he
    exact ⟨hc _ _, fun hfalse => by cases hfalse⟩

/-- 作り直した後は、作り直したものが置き場所に在る。 -/
theorem recreate_ok (hc : c.Lawful) {s s' : σ} {h : H}
    (he : c.recreate lock create s = (.ok h, s')) : c.get s' = some h := by
  unfold recreate at he
  obtain ⟨u, s₁, -, he⟩ := Async.bind_ok_iff.mp he
  obtain ⟨h₁, s₂, -, he⟩ := Async.bind_ok_iff.mp he
  rw [write_pure] at he
  cases he
  exact hc _ _

/-- 作り直せなかったときは、置き場所はそのままである。 -/
theorem recreate_err (hlock : lock.Keeps c.get) (hcreate : create.Keeps c.get) {s s' : σ} {e : ε}
    (he : c.recreate lock create s = (.err e, s')) : c.get s' = c.get s := by
  unfold recreate at he
  rw [Async.bind_apply] at he
  split at he
  · next u s₁ hl =>
    rw [Async.bind_apply] at he
    split at he
    · cases he
    · next e' s₂ hs₂ =>
      cases he
      rw [hcreate.apply hs₂, hlock.apply hl]
    all_goals cases he
  · next e' s₁ hl =>
    cases he
    exact hlock.apply hl
  all_goals cases he

end Cell

/-! ## 再試行 -/

structure Retry (σ ε H α : Type) where
  acquire : Async σ ε (H × Bool)
  attempt : H → Async σ ε α
  renew : H → Async σ ε H
  discard : Async σ ε Unit
  retryable : ε → Bool

namespace Retry

variable (r : Retry σ ε H α)

/-- 作り直してもう一度試みる。 -/
def again (h : H) : Async σ ε α := do
  let h ← r.renew h
  r.attempt h

def exchange : Async σ ε α := do
  let (h, cached) ← r.acquire
  (r.attempt h).handle fun e =>
    if cached && r.retryable e then r.again h
    else do
      r.discard
      Async.throw e

variable {r} in
/-- どの段でも保たれる性質は、再試行の全体でも保たれる。 -/
theorem preserves_exchange {P : σ → Prop} (hacquire : r.acquire.Preserves P)
    (hattempt : ∀ h, (r.attempt h).Preserves P) (hrenew : ∀ h, (r.renew h).Preserves P)
    (hdiscard : r.discard.Preserves P) : r.exchange.Preserves P := by
  refine hacquire.bind fun p => ?_
  obtain ⟨h, cached⟩ := p
  refine (hattempt h).handle fun e => ?_
  split
  · exact (hrenew h).bind fun h' => hattempt h'
  · exact hdiscard.bind fun _ => Async.Preserves.throw e

/-- `s` からの `exchange` が、`h` で試みて失敗すること。 -/
inductive FailsOn (s : σ) : H → Prop
  | first {h : H} {cached : Bool} {s₁ s₂ : σ} {e : ε} :
      r.acquire s = (.ok (h, cached), s₁) → r.attempt h s₁ = (.err e, s₂) → FailsOn s h
  | second {h h' : H} {s₁ s₂ s₃ s₄ : σ} {e e' : ε} :
      r.acquire s = (.ok (h, true), s₁) → r.attempt h s₁ = (.err e, s₂) → r.retryable e = true →
      r.renew h s₂ = (.ok h', s₃) → r.attempt h' s₃ = (.err e', s₄) → FailsOn s h'

/-- 取ってあったものでの失敗が再試行に値し、その再試行も（作り直しか、もう一度の試みで）失敗すること。 -/
def RetryFails (s : σ) : Prop :=
  ∃ h s₁ e s₂ e' s₃, r.acquire s = (.ok (h, true), s₁) ∧ r.attempt h s₁ = (.err e, s₂) ∧
    r.retryable e = true ∧ r.again h s₂ = (.err e', s₃)

/-- 失敗した後の状態 `s'` の置き場所に失敗したものが無く、次に取り出すものは新しく作られること。 -/
def Forgets (slot : σ → Option H) (s s' : σ) : Prop :=
  ∀ h, r.FailsOn s h →
    slot s' ≠ some h ∧ ∀ t h' t', slot t = slot s' → r.acquire t ≠ (.ok (h', true), t')

/-- `r` が `slot` を置き場所に使うこと。 -/
structure OnSlot (slot : σ → Option H) : Prop where
  acquire_ok : ∀ {s s' h cached}, r.acquire s = (.ok (h, cached), s') →
    slot s' = some h ∧ (cached = true → slot s = some h)
  attempt : ∀ h, (r.attempt h).Keeps slot
  renew_ok : ∀ {h h' s s'}, slot s = some h → r.renew h s = (.ok h', s') → slot s' = some h'
  renew_err : ∀ {h s s' e}, r.renew h s = (.err e, s') → slot s' = slot s
  discard : ∀ s, ∃ s', r.discard s = (.ok (), s') ∧ slot s' = none

/-- 一つの置き場所 `c` だけを使い、無ければ作り、失敗したら作り直す再試行。 -/
structure OnCell (c : Cell σ (Option H)) : Prop where
  lawful : c.Lawful
  acquire : ∃ lock create, lock.Keeps c.get ∧ r.acquire = c.getOrCreate lock create
  attempt : ∀ h, (r.attempt h).Keeps c.get
  renew : ∃ lock create, lock.Keeps c.get ∧ create.Keeps c.get ∧
    ∀ h, r.renew h = c.recreate lock create
  discard : ∃ f : σ → σ, ∀ s, r.discard s = (.ok (), c.set none (f s))

section

variable {r} {slot : σ → Option H}

theorem OnCell.onSlot {c : Cell σ (Option H)} (h : r.OnCell c) : r.OnSlot c.get where
  acquire_ok he := by
    obtain ⟨lock, create, hlock, hacquire⟩ := h.acquire
    rw [hacquire] at he
    exact Cell.getOrCreate_ok h.lawful hlock he
  attempt := h.attempt
  renew_ok _ he := by
    obtain ⟨lock, create, -, -, hrenew⟩ := h.renew
    rw [hrenew] at he
    exact Cell.recreate_ok h.lawful he
  renew_err he := by
    obtain ⟨lock, create, hlock, hcreate, hrenew⟩ := h.renew
    rw [hrenew] at he
    exact Cell.recreate_err hlock hcreate he
  discard s := by
    obtain ⟨f, hf⟩ := h.discard
    exact ⟨_, hf s, h.lawful none (f s)⟩

theorem exchange_first {s s₁ : σ} {h : H} {cached : Bool}
    (ha : r.acquire s = (.ok (h, cached), s₁)) :
    r.exchange s = (r.attempt h).handle (fun e =>
      if cached && r.retryable e then r.again h
      else do
        r.discard
        Async.throw e) s₁ := Async.bind_ok ha

/-- 再試行に値する失敗の後は、作り直しての試みがそのまま結果になる。 -/
theorem exchange_again {s s₁ s₂ : σ} {h : H} {e : ε} (ha : r.acquire s = (.ok (h, true), s₁))
    (hf : r.attempt h s₁ = (.err e, s₂)) (hr : r.retryable e = true) :
    r.exchange s = r.again h s₂ := by
  rw [exchange_first ha, Async.handle_err hf, if_pos (by simp [hr])]

/-- 再試行しない失敗の後は、置き場所を空にして同じ失敗を返す。 -/
theorem exchange_discard (hslot : r.OnSlot slot) {s s₁ s₂ : σ} {h : H} {cached : Bool} {e : ε}
    (ha : r.acquire s = (.ok (h, cached), s₁)) (hf : r.attempt h s₁ = (.err e, s₂))
    (hr : (cached && r.retryable e) = false) :
    ∃ s', r.exchange s = (.err e, s') ∧ slot s' = none := by
  obtain ⟨s', hd, hnone⟩ := hslot.discard s₂
  refine ⟨s', ?_, hnone⟩
  rw [exchange_first ha, Async.handle_err hf, if_neg (by simp [hr]), Async.bind_ok hd]
  rfl

/-- 再試行が失敗すると、失敗したものが置き場所に残る。 -/
theorem RetryFails.kept (hslot : r.OnSlot slot) {s : σ} (h : r.RetryFails s) :
    ∃ e s' x, r.exchange s = (.err e, s') ∧ r.FailsOn s x ∧ slot s' = some x := by
  obtain ⟨h, s₁, e, s₂, e', s₃, ha, hf, hr, hagain⟩ := h
  have hs₂ : slot s₂ = some h := by rw [(hslot.attempt h).apply hf, (hslot.acquire_ok ha).1]
  refine ⟨e', s₃, ?_⟩
  rw [exchange_again ha hf hr]
  unfold again at hagain ⊢
  cases hn : r.renew h s₂ with
  | mk o s₄ =>
    cases o with
    | ok h' =>
      have hf' : r.attempt h' s₄ = (.err e', s₃) := by rw [Async.bind_ok hn] at hagain; exact hagain
      refine ⟨h', hagain, .second ha hf hr hn hf', ?_⟩
      rw [(hslot.attempt h').apply hf', hslot.renew_ok hs₂ hn]
    | err e₁ =>
      rw [Async.bind_err hn] at hagain ⊢
      cases hagain
      exact ⟨h, rfl, .first ha hf, by rw [hslot.renew_err hn, hs₂]⟩
    | pending =>
      rw [Async.bind_pending hn] at hagain
      cases hagain
    | panic =>
      rw [Async.bind_apply, hn] at hagain
      cases hagain

/-- 失敗したものが在って、再試行が失敗していなければ、失敗の後の置き場所は空である。 -/
theorem FailsOn.slot_none (hslot : r.OnSlot slot) {s s' : σ} {e : ε} {x : H} (hx : r.FailsOn s x)
    (hno : ¬ r.RetryFails s) (he : r.exchange s = (.err e, s')) : slot s' = none := by
  obtain ⟨h, cached, s₁, e₁, s₂, ha, hf⟩ : ∃ h cached s₁ e₁ s₂,
      r.acquire s = (.ok (h, cached), s₁) ∧ r.attempt h s₁ = (.err e₁, s₂) := by
    cases hx with
    | first ha hf => exact ⟨_, _, _, _, _, ha, hf⟩
    | second ha hf _ _ _ => exact ⟨_, _, _, _, _, ha, hf⟩
  cases hr : cached && r.retryable e₁ with
  | true =>
    simp only [Bool.and_eq_true] at hr
    obtain ⟨rfl, hr⟩ := hr
    rw [exchange_again ha hf hr] at he
    exact absurd ⟨h, s₁, e₁, s₂, e, s', ha, hf, hr, he⟩ hno
  | false =>
    obtain ⟨s₃, hs₃, hnone⟩ := exchange_discard hslot ha hf hr
    rw [he] at hs₃
    cases hs₃
    exact hnone

/-- **失敗したものが置き場所に残らないのは、再試行そのものが失敗したのではないとき、かつそのときに限る。** -/
theorem forgets_iff (hslot : r.OnSlot slot) (s : σ) :
    (∀ e s', r.exchange s = (.err e, s') → r.Forgets slot s s') ↔ ¬ r.RetryFails s := by
  constructor
  · intro hall hfails
    obtain ⟨e, s', x, he, hx, hkept⟩ := hfails.kept hslot
    exact (hall e s' he x hx).1 hkept
  · intro hno e s' he x hx
    have hnone : slot s' = none := hx.slot_none hslot hno he
    refine ⟨by rw [hnone]; simp, fun t h' t' ht hacq => ?_⟩
    have hsome := (hslot.acquire_ok hacq).2 rfl
    rw [ht, hnone] at hsome
    cases hsome

end

/-! ## 段に分ける -/

/-- `exchange` がどこまで進んだか。 -/
inductive Phase (ε H α : Type) where
  | start
  | first (h : H) (cached : Bool)
  | renewing (h : H)
  | second (h : H)
  | discarding (e : ε)
  | done (result : Outcome ε α)

/-- 値が返れば次の段に進み、そうでなければそこで終わる。 -/
def advance (x : Async σ ε β) (next : β → Phase ε H α) (s : σ) : Phase ε H α × σ :=
  match x s with
  | (.ok b, s') => (next b, s')
  | (.err e, s') => (.done (.err e), s')
  | (.pending, s') => (.done .pending, s')
  | (.panic, s') => (.done .panic, s')

/-- 初めの試みの後の段。 -/
def afterFirst (h : H) (cached : Bool) : Except ε α → Phase ε H α
  | .ok a => .done (.ok a)
  | .error e => if cached && r.retryable e then .renewing h else .discarding e

/-- 一段進める。 -/
def step : Phase ε H α → σ → Phase ε H α × σ
  | .start => advance r.acquire fun p => .first p.1 p.2
  | .first h cached => advance (r.attempt h).attempt (r.afterFirst h cached)
  | .renewing h => advance (r.renew h) .second
  | .second h => advance (r.attempt h) fun a => .done (.ok a)
  | .discarding e => advance r.discard fun _ => .done (.err e)
  | .done result => fun s => (.done result, s)

/-- 終わるまでに残っている段の数の上界。 -/
def Phase.rank : Phase ε H α → Nat
  | .start => 4
  | .first _ _ => 3
  | .renewing _ => 2
  | .second _ => 1
  | .discarding _ => 1
  | .done _ => 0

theorem Phase.rank_eq_zero {p : Phase ε H α} (h : p.rank = 0) : ∃ result, p = .done result := by
  cases p with
  | done result => exact ⟨result, rfl⟩
  | start => cases h
  | first h' cached => cases h
  | renewing h' => cases h
  | second h' => cases h
  | discarding e => cases h

theorem advance_ok {x : Async σ ε β} {next : β → Phase ε H α} {s s' : σ} {b : β}
    (h : x s = (.ok b, s')) : advance x next s = (next b, s') := by
  unfold advance
  rw [h]

theorem advance_rank {x : Async σ ε β} {next : β → Phase ε H α} {n : Nat}
    (h : ∀ b, (next b).rank ≤ n) (s : σ) : (advance x next s).1.rank ≤ n := by
  unfold advance
  split
  · exact h _
  all_goals exact Nat.zero_le n

/-- 段は、進むごとに終わりに近づく。 -/
theorem step_rank (p : Phase ε H α) (s : σ) : (r.step p s).1.rank ≤ p.rank - 1 := by
  cases p with
  | start => exact advance_rank (fun p => Nat.le_refl 3) s
  | first h cached =>
    refine advance_rank (fun x => ?_) s
    unfold afterFirst
    split
    · exact Nat.zero_le _
    · split
      · exact Nat.le_refl 2
      · exact Nat.le_succ 1
  | renewing h => exact advance_rank (fun h' => Nat.le_refl 1) s
  | second h => exact advance_rank (fun a => Nat.le_refl 0) s
  | discarding e => exact advance_rank (fun u => Nat.le_refl 0) s
  | done result => exact Nat.le_refl 0

/-- 続けて `n` 段進める。 -/
def steps : Nat → Phase ε H α → σ → Phase ε H α × σ
  | 0, p, s => (p, s)
  | n + 1, p, s => steps n (r.step p s).1 (r.step p s).2

/-- 段 `p` からの残りが、`n` 段のうちに終わり、計算 `x` に等しいこと。 -/
def Finishes (n : Nat) (p : Phase ε H α) (x : Async σ ε α) : Prop :=
  ∀ s, r.steps n p s = (.done (x s).1, (x s).2)

section

variable {r}

theorem Finishes.done (n : Nat) (result : Outcome ε α) :
    r.Finishes n (.done result) (Async.lift result) := by
  intro s
  induction n with
  | zero => rfl
  | succ n ih => exact ih

theorem Finishes.advance {p : Phase ε H α} {x : Async σ ε β} {next : β → Phase ε H α}
    {f : β → Async σ ε α} {n : Nat} (hp : r.step p = Retry.advance x next)
    (hnext : ∀ b, r.Finishes n (next b) (f b)) : r.Finishes (n + 1) p (x >>= f) := by
  intro s
  rw [steps, hp, Async.bind_apply]
  unfold Retry.advance
  cases hx : x s with
  | mk o s' =>
    cases o with
    | ok b => exact hnext b s'
    | err e => exact Finishes.done n (.err e) s'
    | pending => exact Finishes.done n .pending s'
    | panic => exact Finishes.done n .panic s'

theorem finishes_renewing (h : H) : r.Finishes 2 (.renewing h) (r.again h) := by
  refine Finishes.advance rfl fun h' => ?_
  rw [← Async.bind_pure (r.attempt h')]
  exact Finishes.advance rfl fun a => Finishes.done 0 (.ok a)

theorem finishes_discarding (n : Nat) (e : ε) :
    r.Finishes (n + 1) (.discarding e) (r.discard >>= fun _ => Async.throw e) :=
  Finishes.advance rfl fun _ => Finishes.done n (.err e)

/-- **ひとりで続けて進めた四段は、`exchange` に等しい。** -/
theorem finishes_start : r.Finishes 4 .start r.exchange := by
  refine Finishes.advance rfl fun p => ?_
  obtain ⟨h, cached⟩ := p
  dsimp only
  rw [Async.handle_eq_attempt]
  refine Finishes.advance rfl fun result => ?_
  cases result with
  | ok a => exact Finishes.done 2 (.ok a)
  | error e =>
    unfold afterFirst
    dsimp only
    split
    · exact finishes_renewing h
    · exact finishes_discarding 1 e

end

end Retry

end Infra
