import DnsProxy.Cache
import DnsProxy.Infra.Machine

/-!
# `Cache::into_handler` の並行実行

`into_handler` が返す future は `await` で何度も中断する。中断の間に別の要求が割り込むので、
一つの要求を「次に何を待っているか」の状態（`Task`）で表し、全体を状態機械にする。

一歩になるのは、中断せずに進む区間である。

* `arrive` — 要求が届く
* `lookup` — lock を取って `get`。hit ならここで終わる
* `reply` — 内側の handler が返る。`insert` の前半（時刻を打つ）までが続けて走る
* `store` — `insert` の後半。lock を取って入れる
* `tick` — 時計が進む

`insert` は時刻を打ってから lock を待つので、後から打たれた項目が先に入ることがある。
二歩に分けてあるのはそのためである。

`log` は証明のための記録で、動作には使わない。新しいものが前に来る。
-/

namespace DnsProxy

open Infra

/-- 一つの要求の進み具合。 -/
inductive Task where
  | arrived (req : Message)
  /-- 内側の handler を待っている。鍵が無ければ cache を素通しする。 -/
  | forwarded (req : Message) (key : Option CacheKey)
  /-- `insert` が lock を待っている。 -/
  | storing (req : Message) (key : CacheKey) (entry : CacheEntry)
  | finished (req : Message) (result : Except DohError Message) (hit : Bool)

/-- 起きたことの記録。 -/
inductive LogEntry where
  /-- 内側の handler が `req` に `resp` を返した。 -/
  | returned (req : Message) (resp : Message)
  /-- `req` への応答を溜めた。 -/
  | stored (req : Message) (key : CacheKey) (entry : CacheEntry)
  /-- `req` に時刻 `time` で cache から答えた。 -/
  | served (req : Message) (answer : Message) (time : Nat)

/-- handler 全体の状態。 -/
structure Sys (lru : LruCache CacheKey CacheEntry) where
  now : Nat
  cache : Cache lru
  tasks : Nat → Option Task
  log : List LogEntry

inductive Event where
  | arrive (i : Nat) (req : Message)
  | lookup (i : Nat)
  | reply (i : Nat) (r : Except DohError Message)
  | store (i : Nat)
  | tick (d : Nat)

variable {lru : LruCache CacheKey CacheEntry}

namespace Sys

def init (lru : LruCache CacheKey CacheEntry) (opts : CacheOptions) : Sys lru where
  now := 0
  cache := Cache.new lru opts
  tasks := fun _ => none
  log := []

/-- 要求 `i` の状態を差し替える。 -/
def setTask (s : Sys lru) (i : Nat) (t : Task) : Sys lru :=
  { s with tasks := fun j => if j = i then some t else s.tasks j }

/-- cache を引く一歩。 -/
def lookupStep (s : Sys lru) (i : Nat) (req : Message) : Sys lru :=
  match cacheKey req with
  -- question が一つでなければ cache は関わらない
  | none => s.setTask i (.forwarded req none)
  | some key =>
    match s.cache.get s.now key req.metadata.id with
    | (some resp, cache) =>
      { s.setTask i (.finished req (.ok resp) true) with
        cache, log := .served req resp s.now :: s.log }
    | (none, cache) => { s.setTask i (.forwarded req (some key)) with cache }

/-- 内側の handler が返ったときの一歩。 -/
def replyStep (s : Sys lru) (i : Nat) (req : Message) (key : Option CacheKey)
    (r : Except DohError Message) : Sys lru :=
  match r with
  | .error e => s.setTask i (.finished req (.error e) false)
  | .ok resp =>
    let s := { s with log := .returned req resp :: s.log }
    match key with
    | none => s.setTask i (.finished req (.ok resp) false)
    | some key =>
      match s.cache.makeEntry s.now resp with
      | none => s.setTask i (.finished req (.ok resp) false)
      | some entry => s.setTask i (.storing req key entry)

/-- 項目を入れる一歩。 -/
def storeStep (s : Sys lru) (i : Nat) (req : Message) (key : CacheKey) (entry : CacheEntry) :
    Sys lru :=
  { s.setTask i (.finished req (.ok entry.response) false) with
    cache := s.cache.putEntry key entry
    log := .stored req key entry :: s.log }

def step (s : Sys lru) : Event → Option (Sys lru)
  | .arrive i req =>
    match s.tasks i with
    | none => some (s.setTask i (.arrived req))
    | some _ => none
  | .lookup i =>
    match s.tasks i with
    | some (.arrived req) => some (s.lookupStep i req)
    | _ => none
  | .reply i r =>
    match s.tasks i with
    | some (.forwarded req key) => some (s.replyStep i req key r)
    | _ => none
  | .store i =>
    match s.tasks i with
    | some (.storing req key entry) => some (s.storeStep i req key entry)
    | _ => none
  | .tick d => some { s with now := s.now + d }

/--
環境が起こせる event。

`clients` は届きうる要求、`inner` は内側の handler が要求に対して返しうる結果である。
handler は時刻や状態で答えを変えてよいので、関数ではなく関係にする。
-/
def Allowed (clients : Message → Prop) (inner : Message → Except DohError Message → Prop)
    (s : Sys lru) : Event → Prop
  | .arrive _ req => clients req
  | .reply i r => ∀ req key, s.tasks i = some (.forwarded req key) → inner req r
  | _ => True

end Sys

/-- `cache.into_handler(handler)` の状態機械。 -/
def cacheMachine (lru : LruCache CacheKey CacheEntry) (opts : CacheOptions)
    (clients : Message → Prop) (inner : Message → Except DohError Message → Prop) :
    Machine (Sys lru) Event where
  init := Sys.init lru opts
  allowed := Sys.Allowed clients inner
  step := Sys.step

/-! ## 一歩の場合分け -/

/-- **一歩でできることのすべて。** 全 run についての性質は、どれもこの五つの場合に帰着する。 -/
theorem Sys.step_cases {s s' : Sys lru} {e : Event} (h : s.step e = some s') :
    (∃ i req, e = .arrive i req ∧ s.tasks i = none ∧ s' = s.setTask i (.arrived req)) ∨
    (∃ i req, e = .lookup i ∧ s.tasks i = some (.arrived req) ∧ s' = s.lookupStep i req) ∨
    (∃ i req key r, e = .reply i r ∧ s.tasks i = some (.forwarded req key) ∧
      s' = s.replyStep i req key r) ∨
    (∃ i req key entry, e = .store i ∧ s.tasks i = some (.storing req key entry) ∧
      s' = s.storeStep i req key entry) ∨
    (∃ d, e = .tick d ∧ s' = { s with now := s.now + d }) := by
  cases e with
  | arrive i req =>
    simp only [step] at h
    split at h
    · next ht => exact Or.inl ⟨i, req, rfl, ht, (Option.some.inj h).symm⟩
    · cases h
  | lookup i =>
    simp only [step] at h
    split at h
    · next req ht => exact Or.inr (Or.inl ⟨i, req, rfl, ht, (Option.some.inj h).symm⟩)
    · cases h
  | reply i r =>
    simp only [step] at h
    split at h
    · next req key ht =>
      exact Or.inr (Or.inr (Or.inl ⟨i, req, key, r, rfl, ht, (Option.some.inj h).symm⟩))
    · cases h
  | store i =>
    simp only [step] at h
    split at h
    · next req key entry ht =>
      exact Or.inr (Or.inr (Or.inr (Or.inl
        ⟨i, req, key, entry, rfl, ht, (Option.some.inj h).symm⟩)))
    · cases h
  | tick d => exact Or.inr (Or.inr (Or.inr (Or.inr ⟨d, rfl, (Option.some.inj h).symm⟩)))

/-! ## `setTask` の効果 -/

namespace Sys

@[simp] theorem setTask_now (s : Sys lru) (i : Nat) (t : Task) : (s.setTask i t).now = s.now := rfl
@[simp] theorem setTask_cache (s : Sys lru) (i : Nat) (t : Task) :
    (s.setTask i t).cache = s.cache := rfl
@[simp] theorem setTask_log (s : Sys lru) (i : Nat) (t : Task) :
    (s.setTask i t).log = s.log := rfl

theorem setTask_self (s : Sys lru) (i : Nat) (t : Task) : (s.setTask i t).tasks i = some t := by
  simp [setTask]

/-- 差し替えた要求のほかは変わらない。 -/
theorem setTask_some {s : Sys lru} {i j : Nat} {t t' : Task}
    (h : (s.setTask i t).tasks j = some t') : j = i ∧ t' = t ∨ j ≠ i ∧ s.tasks j = some t' := by
  by_cases hj : j = i
  · subst hj
    rw [setTask_self] at h
    exact Or.inl ⟨rfl, (Option.some.inj h).symm⟩
  · simp only [setTask, if_neg hj] at h
    exact Or.inr ⟨hj, h⟩

end Sys

end DnsProxy
