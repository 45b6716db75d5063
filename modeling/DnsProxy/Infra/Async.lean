import Mathlib.Data.List.Basic

/-!
# 中断しうる計算

network の向こうを待つ計算を、状態 `σ` を動かして次のどれかに終わるものとして表す。

* `ok` / `err` — 値か失敗を返した
* `pending` — 待っている相手がいつまでも答えない。期限（`timeout`）が切れれば失敗になる
* `panic` — 添字や切り出しの範囲を外れた

`panic` と `pending` は捕まえられず、計算の全体がそこで終わる。

計算についての推論は、四つの述語の組み立て規則で行う。

* `Ensures P x` — `x` が値を返すなら、その値は `P` を満たす
* `NoPanic x` — `x` は panic しない
* `Checked check x y` — `x` は、`y` の最後に `check` を挟んだものである
* `Moves R x` — `x` は状態を関係 `R` に沿って動かす
-/

namespace Infra

variable {σ τ ε α β : Type}

/-- 値で終わるのは、前も後も値で終わるときである。 -/
theorem Except.bind_eq_ok_iff {x : Except ε α} {f : α → Except ε β} {b : β} :
    (x >>= f) = .ok b ↔ ∃ a, x = .ok a ∧ f a = .ok b := by
  cases x with
  | error e => simp [bind, Except.bind]
  | ok a => simp [bind, Except.bind]

theorem Except.map_eq_ok_iff {x : Except ε α} {f : α → β} {b : β} :
    x.map f = .ok b ↔ ∃ a, x = .ok a ∧ f a = b := by
  cases x with
  | error e => simp [Except.map]
  | ok a => simp [Except.map]

/-- 計算の終わり方。 -/
inductive Outcome (ε α : Type) where
  | ok (a : α)
  | err (e : ε)
  | pending
  | panic
  deriving DecidableEq, Repr

namespace Outcome

protected def bind (x : Outcome ε α) (f : α → Outcome ε β) : Outcome ε β :=
  match x with
  | .ok a => f a
  | .err e => .err e
  | .pending => .pending
  | .panic => .panic

instance : Monad (Outcome ε) where
  pure := .ok
  bind := Outcome.bind

/-- `Result` を返す、待たない計算。 -/
def ofExcept : Except ε α → Outcome ε α
  | .ok a => .ok a
  | .error e => .err e

/-- `l[i]`。範囲を外れれば panic する。 -/
def index (l : List α) (i : Nat) : Outcome ε α :=
  match l[i]? with
  | some a => .ok a
  | none => .panic

/-- `&l[i..j]`。範囲を外れれば panic する。 -/
def slice (l : List α) (i j : Nat) : Outcome ε (List α) :=
  if i ≤ j ∧ j ≤ l.length then .ok ((l.drop i).take (j - i)) else .panic

@[simp] theorem pure_eq (a : α) : (pure a : Outcome ε α) = .ok a := rfl
@[simp] theorem ok_bind (a : α) (f : α → Outcome ε β) : (Outcome.ok a >>= f) = f a := rfl
@[simp] theorem err_bind (e : ε) (f : α → Outcome ε β) : (Outcome.err e >>= f) = .err e := rfl
/-- 続きが値を返したなら、前も値を返している。 -/
theorem bind_eq_ok {x : Outcome ε α} {f : α → Outcome ε β} {b : β} (h : (x >>= f) = .ok b) :
    ∃ a, x = .ok a ∧ f a = .ok b := by
  cases x with
  | ok a => exact ⟨a, rfl, h⟩
  | err e => cases h
  | pending => cases h
  | panic => cases h

@[simp] theorem ofExcept_ok (a : α) : (ofExcept (.ok a) : Outcome ε α) = .ok a := rfl
@[simp] theorem ofExcept_error (e : ε) : (ofExcept (.error e) : Outcome ε α) = .err e := rfl

/-- 範囲の中の切り出しは値を返す。 -/
theorem slice_ok {l : List α} {i j : Nat} (hij : i ≤ j) (hj : j ≤ l.length) :
    (slice l i j : Outcome ε (List α)) = .ok ((l.drop i).take (j - i)) := if_pos ⟨hij, hj⟩

/-- 繋いだものから、真ん中を切り出す。 -/
theorem slice_append {l : List α} (x y z : List α) {i j : Nat} (hl : l = x ++ (y ++ z))
    (hi : x.length = i) (hj : j = i + y.length) : (slice l i j : Outcome ε (List α)) = .ok y := by
  subst hl hi hj
  rw [slice_ok (by omega) (by simp)]
  simp

theorem slice_length {l s : List α} {i j : Nat} (h : (slice l i j : Outcome ε (List α)) = .ok s) :
    s.length = j - i := by
  unfold slice at h
  split at h
  · next hb =>
    cases h
    rw [List.length_take, List.length_drop]
    omega
  · cases h

/-- 失敗するなら、その失敗は `P` を満たす。 -/
def Throws (P : ε → Prop) (x : Outcome ε α) : Prop := ∀ e, x = .err e → P e

theorem Throws.bind {P : ε → Prop} {x : Outcome ε α} {f : α → Outcome ε β} (hx : x.Throws P)
    (hf : ∀ a, (f a).Throws P) : (x >>= f).Throws P := by
  intro e h
  cases x with
  | ok a => exact hf a e h
  | err e' =>
    cases h
    exact hx _ rfl
  | pending => cases h
  | panic => cases h

theorem throws_ok {P : ε → Prop} (a : α) : (Outcome.ok a : Outcome ε α).Throws P := fun _ h => by
  cases h

theorem throws_err {P : ε → Prop} {e : ε} (h : P e) : (Outcome.err e : Outcome ε α).Throws P :=
  fun _ he => by
    cases he
    exact h

theorem throws_slice {P : ε → Prop} (l : List α) (i j : Nat) :
    (slice l i j : Outcome ε (List α)).Throws P := by
  intro e h
  unfold slice at h
  split at h <;> cases h

theorem throws_index {P : ε → Prop} (l : List α) (i : Nat) :
    (index l i : Outcome ε α).Throws P := by
  intro e h
  unfold index at h
  split at h <;> cases h

/-- panic でも pending でもない。待たない code の健全な終わり方である。 -/
def Returns (x : Outcome ε α) : Prop := (∃ a, x = .ok a) ∨ ∃ e, x = .err e

theorem returns_ok (a : α) : (Outcome.ok a : Outcome ε α).Returns := Or.inl ⟨a, rfl⟩
theorem returns_err (e : ε) : (Outcome.err e : Outcome ε α).Returns := Or.inr ⟨e, rfl⟩

theorem Returns.bind {x : Outcome ε α} {f : α → Outcome ε β} (hx : x.Returns)
    (hf : ∀ a, x = .ok a → (f a).Returns) : (x >>= f).Returns := by
  rcases hx with ⟨a, rfl⟩ | ⟨e, rfl⟩
  · exact hf a rfl
  · exact returns_err e

/-- 範囲の中の切り出しと添字は panic しない。 -/
theorem slice_returns {l : List α} {i j : Nat} (hij : i ≤ j) (hj : j ≤ l.length) :
    (slice l i j : Outcome ε (List α)).Returns := Or.inl ⟨_, slice_ok hij hj⟩

theorem index_returns {l : List α} {i : Nat} (h : i < l.length) :
    (index l i : Outcome ε α).Returns := by
  unfold index
  rw [List.getElem?_eq_getElem h]
  exact returns_ok _

theorem Returns.ne_panic {x : Outcome ε α} (h : x.Returns) : x ≠ .panic := by
  rcases h with ⟨a, rfl⟩ | ⟨e, rfl⟩ <;> simp

theorem Returns.ne_pending {x : Outcome ε α} (h : x.Returns) : x ≠ .pending := by
  rcases h with ⟨a, rfl⟩ | ⟨e, rfl⟩ <;> simp

end Outcome

/-! ## 環境の操作 -/

/-- 環境の操作の終わり方。環境は panic しない。 -/
inductive Reply (ε α : Type) where
  | ok (a : α)
  | err (e : ε)
  | pending

/-- 外の世界 `σ` を動かす操作。 -/
abbrev Op (σ ε α : Type) := σ → Reply ε α × σ

/-- 状態 `σ` の中の共有の置き場所（`Mutex` や atomic の中身）。 -/
structure Cell (σ S : Type) where
  get : σ → S
  set : S → σ → σ

/-- 手元の状態 `τ` の中の置き場所。 -/
def Cell.onFst {S : Type} (c : Cell τ S) : Cell (τ × σ) S where
  get t := c.get t.1
  set v t := (c.set v t.1, t.2)

/-- 手元の状態 `τ` を添えた世界での置き場所。`τ` には触れない。 -/
def Cell.onSnd {S : Type} (c : Cell σ S) : Cell (τ × σ) S where
  get t := c.get t.2
  set v t := (t.1, c.set v t.2)

/-- 手元の状態 `τ` を添えた世界での操作。`τ` には触れない。 -/
def Op.onSnd (op : Op σ ε α) : Op (τ × σ) ε α := fun t => ((op t.2).1, (t.1, (op t.2).2))

theorem Op.onSnd_apply {op : Op σ ε α} {t : τ × σ} {r : Reply ε α} {s : σ} (h : op t.2 = (r, s)) :
    op.onSnd t = (r, (t.1, s)) := by
  unfold Op.onSnd
  rw [h]

/-! ## 計算 -/

/-- 状態 `σ` を動かしながら走る計算。 -/
def Async (σ ε α : Type) := σ → Outcome ε α × σ

namespace Async

protected def bind (x : Async σ ε α) (f : α → Async σ ε β) : Async σ ε β := fun s =>
  match x s with
  | (.ok a, s') => f a s'
  | (.err e, s') => (.err e, s')
  | (.pending, s') => (.pending, s')
  | (.panic, s') => (.panic, s')

instance : Monad (Async σ ε) where
  pure a := fun s => (.ok a, s)
  bind := Async.bind

/-- 待たない計算。 -/
def lift (x : Outcome ε α) : Async σ ε α := fun s => (x, s)

/-- 失敗する。 -/
def throw (e : ε) : Async σ ε α := lift (.err e)

/-- 環境の操作。失敗は `f` で読み替える。 -/
def call (f : τ → ε) (op : Op σ τ α) : Async σ ε α := fun s =>
  match op s with
  | (.ok a, s') => (.ok a, s')
  | (.err e, s') => (.err (f e), s')
  | (.pending, s') => (.pending, s')

/-- 状態を読む。 -/
def gets (f : σ → α) : Async σ ε α := fun s => (.ok (f s), s)

/-- 状態を書き換える。 -/
def modify (f : σ → σ) : Async σ ε Unit := fun s => (.ok (), f s)

/-- 失敗を `h` で引き受ける。panic と pending は捕まえられない。 -/
def handle (x : Async σ ε α) (h : ε → Async σ ε α) : Async σ ε α := fun s =>
  match x s with
  | (.err e, s') => h e s'
  | r => r

/-- 失敗も値として受け取る。 -/
def attempt (x : Async σ ε α) : Async σ ε (Except ε α) := fun s =>
  match x s with
  | (.ok a, s') => (.ok (.ok a), s')
  | (.err e, s') => (.ok (.error e), s')
  | (.pending, s') => (.pending, s')
  | (.panic, s') => (.panic, s')

/-- 期限 `d` が有れば、待ち続ける代わりに失敗 `e d` で終わる。 -/
def timeout {δ : Type} (d : Option δ) (e : δ → ε) (x : Async σ ε α) : Async σ ε α :=
  match d with
  | none => x
  | some d => fun s =>
    match x s with
    | (.pending, s') => (.err (e d), s')
    | r => r

/-- 共有の置き場所の中身を読む。 -/
def read {S : Type} (c : Cell σ S) : Async σ ε S := gets c.get

/-- 共有の置き場所へ書く。 -/
def write {S : Type} (c : Cell σ S) (v : S) : Async σ ε Unit := modify (c.set v)

/-- 手元の状態 `τ` を添えた世界での計算。`τ` には触れない。 -/
def onSnd (x : Async σ ε α) : Async (τ × σ) ε α := fun t => ((x t.2).1, (t.1, (x t.2).2))

/-- 順に行う計算の、それぞれの引数と始まりの状態。手元の状態 `τ` は引き継がれ、世界は間に好きに変わる。 -/
def starts (x : β → Async (τ × σ) ε α) : τ → List (β × σ) → List (β × (τ × σ))
  | _, [] => []
  | t, (b, s) :: rest => (b, (t, s)) :: starts x (x b (t, s)).2.1 rest

/-! ### 一歩の計算 -/

theorem pure_apply (a : α) (s : σ) : (pure a : Async σ ε α) s = (.ok a, s) := rfl

theorem bind_apply (x : Async σ ε α) (f : α → Async σ ε β) (s : σ) :
    (x >>= f) s = match x s with
      | (.ok a, s') => f a s'
      | (.err e, s') => (.err e, s')
      | (.pending, s') => (.pending, s')
      | (.panic, s') => (.panic, s') := rfl

theorem bind_ok {x : Async σ ε α} {f : α → Async σ ε β} {s s' : σ} {a : α}
    (h : x s = (.ok a, s')) : (x >>= f) s = f a s' := by
  rw [bind_apply, h]

/-- 値で終わるのは、前も後も値で終わるときである。 -/
theorem bind_ok_iff {x : Async σ ε α} {f : α → Async σ ε β} {s s' : σ} {b : β} :
    (x >>= f) s = (.ok b, s') ↔ ∃ a s₁, x s = (.ok a, s₁) ∧ f a s₁ = (.ok b, s') := by
  constructor
  · intro h
    rw [bind_apply] at h
    cases hx : x s with
    | mk r s₁ =>
      rw [hx] at h
      cases r with
      | ok a => exact ⟨a, s₁, rfl, h⟩
      | err e => cases h
      | pending => cases h
      | panic => cases h
  · rintro ⟨a, s₁, hx, hf⟩
    rw [bind_ok hx, hf]

theorem bind_pending {x : Async σ ε α} {f : α → Async σ ε β} {s s' : σ}
    (h : x s = (.pending, s')) : (x >>= f) s = (.pending, s') := by
  rw [bind_apply, h]

theorem bind_err {x : Async σ ε α} {f : α → Async σ ε β} {s s' : σ} {e : ε}
    (h : x s = (.err e, s')) : (x >>= f) s = (.err e, s') := by
  rw [bind_apply, h]

/-- 失敗で終わるのは、前が失敗するときか、前の値に続く計算が失敗するときである。 -/
theorem bind_err_iff {x : Async σ ε α} {f : α → Async σ ε β} {s s' : σ} {e : ε} :
    (x >>= f) s = (.err e, s') ↔
      x s = (.err e, s') ∨ ∃ a s₁, x s = (.ok a, s₁) ∧ f a s₁ = (.err e, s') := by
  constructor
  · intro h
    rw [bind_apply] at h
    cases hx : x s with
    | mk r s₁ =>
      rw [hx] at h
      cases r with
      | ok a => exact Or.inr ⟨a, s₁, rfl, h⟩
      | err e' =>
        cases h
        exact Or.inl rfl
      | pending => cases h
      | panic => cases h
  · rintro (hx | ⟨a, s₁, hx, hf⟩)
    · exact bind_err hx
    · rw [bind_ok hx, hf]

/-- 待ち続けるのは、前が待ち続けるときか、前の値に続く計算が待ち続けるときである。 -/
theorem bind_pending_iff {x : Async σ ε α} {f : α → Async σ ε β} {s s' : σ} :
    (x >>= f) s = (.pending, s') ↔
      x s = (.pending, s') ∨ ∃ a s₁, x s = (.ok a, s₁) ∧ f a s₁ = (.pending, s') := by
  constructor
  · intro h
    rw [bind_apply] at h
    cases hx : x s with
    | mk r s₁ =>
      rw [hx] at h
      cases r with
      | ok a => exact Or.inr ⟨a, s₁, rfl, h⟩
      | err e => cases h
      | pending =>
        cases h
        exact Or.inl rfl
      | panic => cases h
  · rintro (hx | ⟨a, s₁, hx, hf⟩)
    · exact bind_pending hx
    · rw [bind_ok hx, hf]

theorem bind_assoc {γ : Type} (x : Async σ ε α) (f : α → Async σ ε β) (g : β → Async σ ε γ) :
    x >>= f >>= g = x >>= fun a => f a >>= g := by
  funext s
  rw [bind_apply, bind_apply, bind_apply]
  cases hx : x s with
  | mk r s' =>
    cases r with
    | ok a => rfl
    | err e => rfl
    | pending => rfl
    | panic => rfl

theorem bind_pure (x : Async σ ε α) : x >>= pure = x := by
  funext s
  rw [bind_apply]
  cases hx : x s with
  | mk r s' =>
    cases r with
    | ok a => rfl
    | err e => rfl
    | pending => rfl
    | panic => rfl

theorem lift_bind_ok (a : α) (f : α → Async σ ε β) :
    (lift (.ok a) : Async σ ε α) >>= f = f a := rfl

theorem lift_bind (x : Outcome ε α) (f : α → Outcome ε β) :
    (lift (x >>= f) : Async σ ε β) = lift x >>= fun a => lift (f a) := by
  cases x with
  | ok a => rfl
  | err e => rfl
  | pending => rfl
  | panic => rfl

/-- 待たずに返る計算の期限は切れない。 -/
theorem timeout_ok {δ : Type} {d : Option δ} {e : δ → ε} {x : Async σ ε α} {s s' : σ} {a : α}
    (h : x s = (.ok a, s')) : timeout d e x s = (.ok a, s') := by
  cases d with
  | none => exact h
  | some d =>
    unfold timeout
    dsimp only
    rw [h]

theorem timeout_ok_iff {δ : Type} {d : Option δ} {e : δ → ε} {x : Async σ ε α} {s s' : σ} {a : α} :
    x.timeout d e s = (.ok a, s') ↔ x s = (.ok a, s') := by
  constructor
  · intro h
    cases d with
    | none => exact h
    | some d =>
      unfold timeout at h
      dsimp only at h
      split at h
      · cases h
      · exact h
  · exact timeout_ok

/-- 期限が働くのは、待ち続けるときだけである。 -/
theorem timeout_cases {δ : Type} (d : Option δ) (e : δ → ε) (x : Async σ ε α) (s : σ) :
    x.timeout d e s = x s ∨
      (x s).1 = .pending ∧ ∃ d', d = some d' ∧ x.timeout d e s = (.err (e d'), (x s).2) := by
  cases d with
  | none => exact Or.inl rfl
  | some d =>
    unfold timeout
    dsimp only
    cases hx : x s with
    | mk r s' =>
      cases r with
      | ok a => exact Or.inl rfl
      | err e => exact Or.inl rfl
      | pending => exact Or.inr ⟨rfl, d, rfl, rfl⟩
      | panic => exact Or.inl rfl

theorem timeout_err {δ : Type} {d : Option δ} {e : δ → ε} {x : Async σ ε α} {s s' : σ} {e' : ε}
    (h : x s = (.err e', s')) : timeout d e x s = (.err e', s') := by
  cases d with
  | none => exact h
  | some d =>
    unfold timeout
    dsimp only
    rw [h]

/-- 失敗するのは、初めから失敗するときか、待ったまま期限が切れるときである。 -/
theorem timeout_err_iff {δ : Type} {d : Option δ} {e : δ → ε} {x : Async σ ε α} {s s' : σ} {e' : ε} :
    x.timeout d e s = (.err e', s') ↔
      x s = (.err e', s') ∨ x s = (.pending, s') ∧ ∃ t, d = some t ∧ e' = e t := by
  constructor
  · intro h
    rcases timeout_cases d e x s with hx | ⟨hpending, t, ht, hx⟩
    · exact Or.inl (hx.symm.trans h)
    · rw [hx] at h
      cases h
      exact Or.inr ⟨Prod.ext hpending rfl, t, ht, rfl⟩
  · rintro (hx | ⟨hx, t, rfl, rfl⟩)
    · exact timeout_err hx
    · unfold timeout
      dsimp only
      rw [hx]

/-- 待ち続ける計算からは、期限があっても無くても、値は出てこない。 -/
theorem timeout_pending {δ : Type} {d : Option δ} {e : δ → ε} {x : Async σ ε α} {s s' : σ}
    (h : x s = (.pending, s')) (a : α) : (timeout d e x s).1 ≠ .ok a := by
  cases d with
  | none =>
    show (x s).1 ≠ .ok a
    rw [h]
    simp
  | some d =>
    unfold timeout
    dsimp only
    rw [h]
    simp

theorem handle_ok {x : Async σ ε α} {h : ε → Async σ ε α} {s s' : σ} {a : α}
    (hx : x s = (.ok a, s')) : handle x h s = (.ok a, s') := by
  unfold handle
  rw [hx]

theorem attempt_ok {x : Async σ ε α} {s s' : σ} {a : α} (h : x s = (.ok a, s')) :
    x.attempt s = (.ok (.ok a), s') := by
  unfold attempt
  rw [h]

theorem attempt_err {x : Async σ ε α} {s s' : σ} {e : ε} (h : x s = (.err e, s')) :
    x.attempt s = (.ok (.error e), s') := by
  unfold attempt
  rw [h]

/-- 失敗を引き受けるのは、失敗も値として受け取って場合分けするのと同じである。 -/
theorem handle_eq_attempt (x : Async σ ε α) (h : ε → Async σ ε α) :
    x.handle h = x.attempt >>= fun r => r.casesOn h pure := by
  funext s
  rw [bind_apply]
  unfold handle attempt
  cases hx : x s with
  | mk r s' =>
    cases r with
    | ok a => rfl
    | err e => rfl
    | pending => rfl
    | panic => rfl

theorem handle_err {x : Async σ ε α} {h : ε → Async σ ε α} {s s' : σ} {e : ε}
    (hx : x s = (.err e, s')) : handle x h s = h e s' := by
  unfold handle
  rw [hx]

theorem handle_pending {x : Async σ ε α} {h : ε → Async σ ε α} {s s' : σ}
    (hx : x s = (.pending, s')) : handle x h s = (.pending, s') := by
  unfold handle
  rw [hx]

/-- 値で終わるのは、初めから値を返すときか、失敗を引き受けた計算が値を返すときである。 -/
theorem handle_ok_iff {x : Async σ ε α} {h : ε → Async σ ε α} {s s' : σ} {a : α} :
    handle x h s = (.ok a, s') ↔
      x s = (.ok a, s') ∨ ∃ e s₁, x s = (.err e, s₁) ∧ h e s₁ = (.ok a, s') := by
  constructor
  · intro hok
    unfold handle at hok
    cases hx : x s with
    | mk r s₁ =>
      rw [hx] at hok
      cases r with
      | ok b => exact Or.inl hok
      | err e => exact Or.inr ⟨e, s₁, rfl, hok⟩
      | pending => cases hok
      | panic => cases hok
  · rintro (hx | ⟨e, s₁, hx, hh⟩)
    · exact handle_ok hx
    · rw [handle_err hx, hh]

theorem lift_ok_iff {x : Outcome ε α} {s s' : σ} {a : α} :
    (lift x : Async σ ε α) s = (.ok a, s') ↔ x = .ok a ∧ s = s' := by
  unfold lift
  rw [Prod.mk.injEq]

theorem call_ok {f : τ → ε} {op : Op σ τ α} {s s' : σ} {a : α} (h : op s = (.ok a, s')) :
    call f op s = (.ok a, s') := by
  unfold call
  rw [h]

theorem call_ok_iff {f : τ → ε} {op : Op σ τ α} {s s' : σ} {a : α} :
    call f op s = (.ok a, s') ↔ op s = (.ok a, s') := by
  constructor
  · intro h
    unfold call at h
    cases hop : op s with
    | mk r s₁ =>
      rw [hop] at h
      cases r with
      | ok b =>
        cases h
        rfl
      | err e => cases h
      | pending => cases h
  · exact call_ok

theorem call_err {f : τ → ε} {op : Op σ τ α} {s s' : σ} {e : τ} (h : op s = (.err e, s')) :
    call f op s = (.err (f e), s') := by
  unfold call
  rw [h]

theorem call_pending {f : τ → ε} {op : Op σ τ α} {s s' : σ} (h : op s = (.pending, s')) :
    call f op s = (.pending, s') := by
  unfold call
  rw [h]

theorem onSnd_apply {x : Async σ ε α} {t : τ × σ} {r : Outcome ε α} {s : σ} (h : x t.2 = (r, s)) :
    x.onSnd t = (r, (t.1, s)) := by
  unfold onSnd
  rw [h]

theorem onSnd_bind (x : Async σ ε α) (f : α → Async σ ε β) :
    ((x >>= f).onSnd : Async (τ × σ) ε β) = x.onSnd >>= fun a => (f a).onSnd := by
  funext t
  rw [bind_apply]
  unfold onSnd
  rw [bind_apply]
  cases hx : x t.2 with
  | mk r s =>
    cases r with
    | ok a => rfl
    | err e => rfl
    | pending => rfl
    | panic => rfl

theorem timeout_onSnd {δ : Type} (d : Option δ) (e : δ → ε) (x : Async σ ε α) :
    (x.onSnd : Async (τ × σ) ε α).timeout d e = (x.timeout d e).onSnd := by
  cases d with
  | none => rfl
  | some d =>
    funext t
    unfold timeout onSnd
    dsimp only
    cases hx : x t.2 with
    | mk r s' =>
      cases r with
      | ok a => rfl
      | err e => rfl
      | pending => rfl
      | panic => rfl

/-! ## 返す値を写す -/

/-- 返す値を `f` で写す。終わり方と状態は変わらない。 -/
def mapOk (f : α → β) (x : Async σ ε α) : Async σ ε β := fun s =>
  match x s with
  | (.ok a, s') => (.ok (f a), s')
  | (.err e, s') => (.err e, s')
  | (.pending, s') => (.pending, s')
  | (.panic, s') => (.panic, s')

theorem mapOk_ok_iff {f : α → β} {x : Async σ ε α} {s s' : σ} {b : β} :
    mapOk f x s = (.ok b, s') ↔ ∃ a, x s = (.ok a, s') ∧ f a = b := by
  unfold mapOk
  cases x s with
  | mk r s₁ =>
    cases r with
    | ok a =>
      simp only [Prod.mk.injEq, Outcome.ok.injEq]
      constructor
      · rintro ⟨rfl, rfl⟩
        exact ⟨a, ⟨rfl, rfl⟩, rfl⟩
      · rintro ⟨a', ⟨rfl, rfl⟩, rfl⟩
        exact ⟨rfl, rfl⟩
    | err e => simp
    | pending => simp
    | panic => simp

theorem mapOk_bind {γ : Type} (f : β → γ) (x : Async σ ε α) (g : α → Async σ ε β) :
    mapOk f (x >>= g) = x >>= fun a => mapOk f (g a) := by
  funext s
  rw [bind_apply]
  unfold mapOk
  rw [bind_apply]
  cases x s with
  | mk r s' =>
    cases r with
    | ok a => rfl
    | err e => rfl
    | pending => rfl
    | panic => rfl

theorem bind_mapOk {γ : Type} (f : α → β) (x : Async σ ε α) (g : β → Async σ ε γ) :
    mapOk f x >>= g = x >>= fun a => g (f a) := by
  funext s
  rw [bind_apply, bind_apply]
  unfold mapOk
  cases x s with
  | mk r s' =>
    cases r with
    | ok a => rfl
    | err e => rfl
    | pending => rfl
    | panic => rfl

theorem attempt_mapOk (f : α → β) (x : Async σ ε α) :
    (mapOk f x).attempt = mapOk (Except.map f) x.attempt := by
  funext s
  unfold mapOk attempt
  dsimp only
  cases x s with
  | mk r s' =>
    cases r with
    | ok a => rfl
    | err e => rfl
    | pending => rfl
    | panic => rfl

/-! ## 失敗についての規則 -/

/-- `x` が失敗するなら、その失敗は `P` を満たす。 -/
def Throws (P : ε → Prop) (x : Async σ ε α) : Prop := ∀ s e s', x s = (.err e, s') → P e

theorem Throws.pure {P : ε → Prop} (a : α) : Throws P (pure a : Async σ ε α) := fun _ _ _ h => by
  cases h

theorem Throws.lift {P : ε → Prop} {x : Outcome ε α} (h : x.Throws P) :
    Throws P (lift x : Async σ ε α) := by
  intro s e s' hx
  obtain ⟨he, -⟩ := Prod.mk.inj hx
  exact h e he

theorem Throws.throw {P : ε → Prop} {e : ε} (h : P e) : Throws P (throw e : Async σ ε α) :=
  Throws.lift fun _ he => by
    cases he
    exact h

theorem Throws.call {P : ε → Prop} {f : τ → ε} {op : Op σ τ α} (h : ∀ e, P (f e)) :
    Throws P (call f op) := by
  intro s e s' hx
  unfold Async.call at hx
  split at hx
  · cases hx
  · cases hx
    exact h _
  · cases hx

theorem Throws.bind {P : ε → Prop} {x : Async σ ε α} {f : α → Async σ ε β} (hx : Throws P x)
    (hf : ∀ a, Throws P (f a)) : Throws P (x >>= f) := by
  intro s e s' h
  rcases bind_err_iff.mp h with h | ⟨a, s₁, -, h⟩
  · exact hx s e s' h
  · exact hf a s₁ e s' h

/-! ## 値についての規則 -/

/-- `x` が値を返すなら、その値は `P` を満たす。 -/
def Ensures (P : α → Prop) (x : Async σ ε α) : Prop := ∀ s a s', x s = (.ok a, s') → P a

theorem Ensures.pure {P : α → Prop} {a : α} (h : P a) : Ensures P (pure a : Async σ ε α) := by
  intro s a' s' he
  cases he
  exact h

theorem Ensures.lift {P : α → Prop} {x : Outcome ε α} (h : ∀ a, x = .ok a → P a) :
    Ensures P (lift x : Async σ ε α) := by
  intro s a s' he
  cases he
  exact h a rfl

theorem Ensures.throw {P : α → Prop} (e : ε) : Ensures P (throw e : Async σ ε α) :=
  Ensures.lift fun _ h => by cases h

/-- 前の計算の値について分かることを、後の計算に渡すとき。 -/
theorem Ensures.seq {Q : α → Prop} {P : β → Prop} {x : Async σ ε α} {f : α → Async σ ε β}
    (hx : Ensures Q x) (hf : ∀ a, Q a → Ensures P (f a)) : Ensures P (x >>= f) := by
  intro s b s' he
  obtain ⟨a, s₁, hs, hrest⟩ := bind_ok_iff.mp he
  exact hf a (hx s a s₁ hs) s₁ b s' hrest

/-- 値が最後の計算だけで決まるとき。 -/
theorem Ensures.bind {P : β → Prop} {x : Async σ ε α} {f : α → Async σ ε β}
    (h : ∀ a, Ensures P (f a)) : Ensures P (x >>= f) :=
  Ensures.seq (Q := fun _ => True) (fun _ _ _ _ => trivial) fun a _ => h a

theorem Ensures.handle {P : α → Prop} {x : Async σ ε α} {h : ε → Async σ ε α} (hx : Ensures P x)
    (hh : ∀ e, Ensures P (h e)) : Ensures P (x.handle h) := by
  intro s a s' he
  unfold Async.handle at he
  split at he
  · next e s₁ _ => exact hh e s₁ a s' he
  · exact hx s a s' he

theorem Ensures.timeout {δ : Type} {P : α → Prop} {d : Option δ} {e : δ → ε} {x : Async σ ε α}
    (hx : Ensures P x) : Ensures P (x.timeout d e) := by
  cases d with
  | none => exact hx
  | some d =>
    intro s a s' he
    unfold Async.timeout at he
    dsimp only at he
    split at he
    · cases he
    · exact hx s a s' he

/-! ## panic についての規則 -/

/-- `x` は panic しない。 -/
def NoPanic (x : Async σ ε α) : Prop := ∀ s, (x s).1 ≠ .panic

theorem NoPanic.pure (a : α) : NoPanic (pure a : Async σ ε α) := fun _ h => by cases h

theorem NoPanic.lift {x : Outcome ε α} (h : x ≠ .panic) : NoPanic (lift x : Async σ ε α) :=
  fun _ => h

theorem NoPanic.throw (e : ε) : NoPanic (throw e : Async σ ε α) := fun _ h => by cases h

theorem NoPanic.gets (f : σ → α) : NoPanic (gets f : Async σ ε α) := fun _ h => by cases h

theorem NoPanic.modify (f : σ → σ) : NoPanic (modify f : Async σ ε Unit) := fun _ h => by cases h

theorem NoPanic.call (f : τ → ε) (op : Op σ τ α) : NoPanic (call f op) := by
  intro s h
  unfold Async.call at h
  split at h <;> cases h

theorem NoPanic.bind {x : Async σ ε α} {f : α → Async σ ε β} (hx : NoPanic x)
    (hf : ∀ a, NoPanic (f a)) : NoPanic (x >>= f) := by
  intro s h
  rw [bind_apply] at h
  split at h
  · next a s' _ => exact hf a s' h
  · cases h
  · cases h
  · next s' hs => exact hx s (by rw [hs])

/-- 繋いだ計算が panic するのは、前か後のどちらかが panic するときである。 -/
theorem bind_panic_iff {x : Async σ ε α} {f : α → Async σ ε β} {s : σ} :
    ((x >>= f) s).1 = .panic ↔
      (x s).1 = .panic ∨ ∃ a s', x s = (.ok a, s') ∧ (f a s').1 = .panic := by
  rw [bind_apply]
  cases hx : x s with
  | mk r s' =>
    cases r with
    | ok a => simp
    | err e => simp
    | pending => simp
    | panic => simp

/-- 後の計算が panic しないなら、前の計算だけで決まる。 -/
theorem bind_panic_iff_left {x : Async σ ε α} {f : α → Async σ ε β} {s : σ}
    (hf : ∀ a, NoPanic (f a)) : ((x >>= f) s).1 = .panic ↔ (x s).1 = .panic := by
  rw [bind_panic_iff]
  constructor
  · rintro (h | ⟨a, s', _, hp⟩)
    · exact h
    · exact absurd hp (hf a s')
  · exact Or.inl

theorem attempt_panic_iff {x : Async σ ε α} {s : σ} :
    (x.attempt s).1 = .panic ↔ (x s).1 = .panic := by
  unfold Async.attempt
  cases hx : x s with
  | mk r s' =>
    cases r with
    | ok a => simp
    | err e => simp
    | pending => simp
    | panic => simp

theorem NoPanic.handle {x : Async σ ε α} {h : ε → Async σ ε α} (hx : NoPanic x)
    (hh : ∀ e, NoPanic (h e)) : NoPanic (x.handle h) := by
  intro s hp
  unfold Async.handle at hp
  split at hp
  · next e s' _ => exact hh e s' hp
  · exact hx s hp

theorem NoPanic.attempt {x : Async σ ε α} (hx : NoPanic x) : NoPanic x.attempt := by
  intro s hp
  unfold Async.attempt at hp
  split at hp
  · cases hp
  · cases hp
  · cases hp
  · next s' hs => exact hx s (by rw [hs])

theorem NoPanic.timeout {δ : Type} {d : Option δ} {e : δ → ε} {x : Async σ ε α} (hx : NoPanic x) :
    NoPanic (x.timeout d e) := by
  cases d with
  | none => exact hx
  | some d =>
    intro s hp
    unfold Async.timeout at hp
    dsimp only at hp
    split at hp
    · cases hp
    · exact hx s hp

/-! ## 状態の動きについての規則 -/

/-- 期限は終わり方だけを変え、状態は変えない。 -/
theorem timeout_snd {δ : Type} {d : Option δ} {e : δ → ε} {x : Async σ ε α} (s : σ) :
    (x.timeout d e s).2 = (x s).2 := by
  cases d with
  | none => rfl
  | some d =>
    unfold Async.timeout
    dsimp only
    split
    · next s' h => rw [h]
    · rfl

/-- 失敗を値に替えるだけなら、状態は変わらない。 -/
theorem handle_pure_snd (x : Async σ ε α) (f : ε → α) (s : σ) :
    (x.handle (fun e => pure (f e)) s).2 = (x s).2 := by
  unfold Async.handle
  split
  · next e s' h =>
    rw [h]
    rfl
  · rfl

section Moves

/-- `x` は、どう終わっても、状態を関係 `R` に沿って動かす。 -/
def Moves (R : σ → σ → Prop) (x : Async σ ε α) : Prop := ∀ s, R s (x s).2

variable {R : σ → σ → Prop}

theorem Moves.timeout {δ : Type} {d : Option δ} {e : δ → ε} {x : Async σ ε α} (hx : Moves R x) :
    Moves R (x.timeout d e) := by
  intro s
  rw [timeout_snd]
  exact hx s

theorem Moves.call {f : τ → ε} {op : Op σ τ α} (h : ∀ s, R s (op s).2) : Moves R (call f op) := by
  intro s
  have hs := h s
  unfold Async.call
  cases hop : op s with
  | mk r s' =>
    rw [hop] at hs
    cases r with
    | ok a => exact hs
    | err e => exact hs
    | pending => exact hs

theorem Moves.lift (hr : ∀ s, R s s) (x : Outcome ε α) : Moves R (lift x : Async σ ε α) := hr

theorem Moves.pure (hr : ∀ s, R s s) (a : α) : Moves R (pure a : Async σ ε α) := hr

theorem Moves.throw (hr : ∀ s, R s s) (e : ε) : Moves R (throw e : Async σ ε α) := hr

theorem Moves.gets (hr : ∀ s, R s s) (f : σ → α) : Moves R (gets f : Async σ ε α) := hr

theorem Moves.bind (ht : ∀ a b c, R a b → R b c → R a c) {x : Async σ ε α} {f : α → Async σ ε β}
    (hx : Moves R x) (hf : ∀ a, Moves R (f a)) : Moves R (x >>= f) := by
  intro s
  have hs := hx s
  rw [bind_apply]
  cases h : x s with
  | mk r s' =>
    rw [h] at hs
    cases r with
    | ok a => exact ht s s' _ hs (hf a s')
    | err e => exact hs
    | pending => exact hs
    | panic => exact hs

theorem Moves.handle (ht : ∀ a b c, R a b → R b c → R a c) {x : Async σ ε α}
    {h : ε → Async σ ε α} (hx : Moves R x) (hh : ∀ e, Moves R (h e)) : Moves R (x.handle h) := by
  intro s
  have hs := hx s
  unfold Async.handle
  cases hxs : x s with
  | mk r s' =>
    rw [hxs] at hs
    cases r with
    | ok a => exact hs
    | err e => exact ht s s' _ hs (hh e s')
    | pending => exact hs
    | panic => exact hs

/-- 前の計算の後で成り立ち、`R` に沿って保たれることは、繋いだ計算の後でも成り立つ。 -/
theorem Moves.keeps {P : σ → Prop} (hP : ∀ a b, R a b → P a → P b) {x : Async σ ε α}
    {f : α → Async σ ε β} {s : σ} (hx : P (x s).2) (hf : ∀ a, Moves R (f a)) :
    P ((x >>= f) s).2 := by
  rw [bind_apply]
  cases h : x s with
  | mk r s' =>
    rw [h] at hx
    cases r with
    | ok a => exact hP s' _ (hf a s') hx
    | err e => exact hx
    | pending => exact hx
    | panic => exact hx

/-- 失敗を引き受けた計算の後でも、同じことが成り立つ。 -/
theorem Moves.keeps_handle {P : σ → Prop} (hP : ∀ a b, R a b → P a → P b) {x : Async σ ε α}
    {h : ε → Async σ ε α} {s : σ} (hx : P (x s).2) (hh : ∀ e, Moves R (h e)) :
    P (x.handle h s).2 := by
  unfold Async.handle
  cases hxs : x s with
  | mk r s' =>
    rw [hxs] at hx
    cases r with
    | ok a => exact hx
    | err e => exact hP s' _ (hh e s') hx
    | pending => exact hx
    | panic => exact hx

end Moves

/-! ## 最後の検査についての規則 -/

/-- 一つの状態から走らせた結果 `r` は、`r'` の値を最後に `check` で検査したものである。 -/
def CheckedAt (check : α → Outcome ε Unit) (r r' : Outcome ε α × σ) : Prop :=
  match r'.1 with
  | .ok a =>
    match check a with
    | .ok _ => r = r'
    | .err e => r.1 = .err e
    | .pending => r.1 = .pending
    | .panic => r.1 = .panic
  | _ => r = r'

/-- `x` は、`y` の返す値を最後に `check` で検査したものである。 -/
def Checked (check : α → Outcome ε Unit) (x y : Async σ ε α) : Prop :=
  ∀ s, CheckedAt check (x s) (y s)

variable {check : α → Outcome ε Unit}

/-- 検査を通った・値でなかったなら同じ結果であり、通らなかったなら検査の終わり方になる。 -/
theorem CheckedAt.inv {r r' : Outcome ε α × σ} (h : CheckedAt check r r') :
    (r = r' ∧ ∀ a, r'.1 = .ok a → ∃ u, check a = .ok u) ∨
      ∃ a, r'.1 = .ok a ∧ (∀ u, check a ≠ .ok u) ∧ r.1 = (check a >>= fun _ => .ok a) := by
  unfold CheckedAt at h
  split at h
  · next a ha =>
    cases hc : check a with
    | ok u =>
      rw [hc] at h
      refine Or.inl ⟨h, fun b hb => ⟨u, ?_⟩⟩
      rw [ha] at hb
      cases hb
      exact hc
    | err e => exact Or.inr ⟨a, ha, by simp [hc], by rw [hc] at h ⊢; exact h⟩
    | pending => exact Or.inr ⟨a, ha, by simp [hc], by rw [hc] at h ⊢; exact h⟩
    | panic => exact Or.inr ⟨a, ha, by simp [hc], by rw [hc] at h ⊢; exact h⟩
  · next hne => exact Or.inl ⟨h, fun a ha => absurd ha (hne a)⟩

/-- 検査が無ければ同じ計算である。 -/
theorem Checked.of_not_ok {x : Async σ ε α} (h : ∀ s a, (x s).1 ≠ .ok a) : Checked check x x := by
  intro s
  unfold CheckedAt
  split
  · next a ha => exact absurd ha (h s a)
  · rfl

theorem Checked.throw (e : ε) : Checked check (throw e : Async σ ε α) (throw e) :=
  Checked.of_not_ok fun _ _ h => by cases h

/-- 値を検査して返す。 -/
theorem Checked.final (a : α) :
    Checked check (Async.lift (check a) >>= fun _ => pure a : Async σ ε α) (pure a) := by
  intro s
  rw [pure_apply, bind_apply]
  unfold CheckedAt Async.lift
  dsimp only
  cases check a with
  | ok u => rfl
  | err e => rfl
  | pending => rfl
  | panic => rfl

/-- 前に同じ計算が在ってもよい。 -/
theorem Checked.bind {x : Async σ ε β} {f g : β → Async σ ε α}
    (h : ∀ b, Checked check (f b) (g b)) : Checked check (x >>= f) (x >>= g) := by
  intro s
  rw [bind_apply, bind_apply]
  cases hx : x s with
  | mk r s' =>
    cases r with
    | ok b => exact h b s'
    | err e => rfl
    | pending => rfl
    | panic => rfl

/-- 検査が待たないなら、期限の外で検査しても同じである。 -/
theorem Checked.timeout {δ : Type} {d : Option δ} {e : δ → ε} {x y : Async σ ε α}
    (hc : ∀ a, check a ≠ .pending) (h : Checked check x y) :
    Checked check (x.timeout d e) (y.timeout d e) := by
  cases d with
  | none => exact h
  | some d =>
    intro s
    have hs := h s
    unfold CheckedAt at hs ⊢
    unfold Async.timeout
    dsimp only
    cases hy : y s with
    | mk r s' =>
      rw [hy] at hs
      cases r with
      | ok a =>
        dsimp only at hs ⊢
        cases hca : check a with
        | ok u =>
          rw [hca] at hs
          dsimp only at hs
          rw [hs]
        | err e' =>
          rw [hca] at hs
          cases hx : x s with
          | mk q t => rw [hx] at hs; cases hs; rfl
        | pending => exact absurd hca (hc a)
        | panic =>
          rw [hca] at hs
          cases hx : x s with
          | mk q t => rw [hx] at hs; cases hs; rfl
      | err e' => dsimp only at hs; rw [hs]
      | pending => dsimp only at hs; rw [hs]
      | panic => dsimp only at hs; rw [hs]

/-- 検査の失敗がそのまま投げ直されるなら、失敗を引き受ける計算の内側で検査しても同じである。 -/
theorem Checked.handle {x y : Async σ ε α} {h h' : ε → Async σ ε α} (hxy : Checked check x y)
    (hh : ∀ e, Checked check (h e) (h' e))
    (hthrow : ∀ a e, check a = .err e → ∀ s, (h e s).1 = .err e) :
    Checked check (x.handle h) (y.handle h') := by
  intro s
  have hs := hxy s
  unfold CheckedAt at hs
  unfold Async.handle
  cases hy : y s with
  | mk r s' =>
    rw [hy] at hs
    cases r with
    | ok a =>
      unfold CheckedAt
      dsimp only at hs ⊢
      cases hca : check a with
      | ok u =>
        rw [hca] at hs
        dsimp only at hs
        rw [hs]
      | err e' =>
        rw [hca] at hs
        cases hx : x s with
        | mk q t =>
          rw [hx] at hs
          cases hs
          exact hthrow a e' hca t
      | pending =>
        rw [hca] at hs
        cases hx : x s with
        | mk q t => rw [hx] at hs; cases hs; rfl
      | panic =>
        rw [hca] at hs
        cases hx : x s with
        | mk q t => rw [hx] at hs; cases hs; rfl
    | err e' =>
      dsimp only at hs
      rw [hs]
      exact hh e' s'
    | pending => dsimp only at hs; rw [hs]; rfl
    | panic => dsimp only at hs; rw [hs]; rfl

/-- **値を返すのは、検査の前の値が検査を通ったとき、かつそのときに限る。** -/
theorem Checked.ok_iff {x y : Async σ ε α} (h : Checked check x y) {s s' : σ} {a : α} :
    x s = (.ok a, s') ↔ y s = (.ok a, s') ∧ ∃ u, check a = .ok u := by
  rcases (h s).inv with ⟨heq, hpass⟩ | ⟨b, hb, hne, hx⟩
  · rw [heq]
    constructor
    · intro hy
      exact ⟨hy, hpass a (by rw [hy])⟩
    · exact fun hy => hy.1
  · constructor
    · intro he
      rw [he] at hx
      obtain ⟨u, hu, -⟩ := Outcome.bind_eq_ok hx.symm
      exact absurd hu (hne u)
    · rintro ⟨hy, u, hu⟩
      rw [hy] at hb
      cases hb
      exact absurd hu (hne u)

/-- **panic するのは、検査の前の計算が panic したときか、検査が panic したときである。** -/
theorem Checked.panic_iff {x y : Async σ ε α} (h : Checked check x y) {s : σ} :
    (x s).1 = .panic ↔ (y s).1 = .panic ∨ ∃ a s', y s = (.ok a, s') ∧ check a = .panic := by
  rcases (h s).inv with ⟨heq, hpass⟩ | ⟨b, hb, hne, hx⟩
  · rw [heq]
    constructor
    · exact Or.inl
    · rintro (hy | ⟨a, s', hy, hc⟩)
      · exact hy
      · obtain ⟨u, hu⟩ := hpass a (by rw [hy])
        rw [hc] at hu
        cases hu
  · rw [hx, hb]
    constructor
    · intro hc
      cases hcb : check b with
      | ok u => exact absurd hcb (hne u)
      | err e => rw [hcb] at hc; cases hc
      | pending => rw [hcb] at hc; cases hc
      | panic => exact Or.inr ⟨b, (y s).2, by rw [← hb], hcb⟩
    · rintro (hy | ⟨a, s', hy, hc⟩)
      · cases hy
      · rw [hy] at hb
        cases hb
        rw [hc]
        rfl

end Async

end Infra
