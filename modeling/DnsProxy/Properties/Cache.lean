import Mathlib.Data.List.Forall2
import Mathlib.Order.MinMax
import DnsProxy.Cache.Handler

/-!
# cache が返す答えの素性

並行に走るどの要求についても、cache から返した答えは

* 等しい鍵で最後に溜めた応答から作られ、
* その応答は内側の handler が同じ鍵の要求に返したものであり、
* まだ寿命の中にあって、
* ID と（OPT を除く）TTL のほかは元のままである

ことを示す（`cache_hit_sound`）。割り込みの順序は問わない。

証明の芯は `CacheInv` で、「引ける項目は、等しい鍵で最後に溜めたものである」を run の全体で保つ。
`log` の中の記録どうしの関係（`LogOk`）は、その記録が付いた時点で成り立てば後から崩れない。
-/

namespace DnsProxy

open Infra

variable {lru : LruCache CacheKey CacheEntry}

/-! ## 仕様の語彙 -/

/-- 三つの section のどれかにある、OPT でない記録。 -/
def NonOptRecord (m : Message) (r : Record) : Prop :=
  (r ∈ m.answers ∨ r ∈ m.authorities ∨ r ∈ m.additionals) ∧ r.recordType ≠ RecordType.OPT

/-- 上限が有れば、そこで切る。 -/
def cutTtl : Option Duration → Duration → Duration
  | none, ttl => ttl
  | some maxTtl, ttl => min maxTtl ttl

/-- `ttl` が、OPT でない記録の TTL の最小値を `min_ttl` まで上げ、`max_ttl` で切ったものであること。 -/
def HasResponseTtl (opts : CacheOptions) (m : Message) (ttl : Duration) : Prop :=
  ∃ n, (∃ r, NonOptRecord m r ∧ r.ttl.toNat = n) ∧ (∀ r, NonOptRecord m r → n ≤ r.ttl.toNat) ∧
    ttl = cutTtl opts.maxTtl (max opts.minTtl (Duration.fromSecs n))

/-- TTL のほかは同じ記録。OPT は TTL まで同じである。 -/
structure SameButTtl (a b : Record) : Prop where
  name : b.name = a.name
  dnsClass : b.dnsClass = a.dnsClass
  data : b.data = a.data
  opt : a.recordType = RecordType.OPT → b.ttl = a.ttl

/-- `ans` は `m` の ID を `id` に替え、OPT でない記録の TTL を書き換えただけのものである。 -/
structure SameButIdAndTtl (m ans : Message) (id : UInt16) : Prop where
  metadata : ans.metadata = { m.metadata with id }
  queries : ans.queries = m.queries
  answers : List.Forall₂ SameButTtl m.answers ans.answers
  authorities : List.Forall₂ SameButTtl m.authorities ans.authorities
  additionals : List.Forall₂ SameButTtl m.additionals ans.additionals
  edns : ans.edns = m.edns
  signature : ans.signature = m.signature

/-- 出した TTL に経過時間を足しても、元の記録の TTL を超えない。 -/
def WithinOwnTtl (elapsed : Duration) (a b : Record) : Prop :=
  a.recordType ≠ RecordType.OPT →
    Duration.fromSecs b.ttl.toNat + elapsed ≤ Duration.fromSecs a.ttl.toNat

/-- 三つの section のどの記録についても `WithinOwnTtl`。 -/
structure WithinOwnTtls (elapsed : Duration) (m ans : Message) : Prop where
  answers : List.Forall₂ (WithinOwnTtl elapsed) m.answers ans.answers
  authorities : List.Forall₂ (WithinOwnTtl elapsed) m.authorities ans.authorities
  additionals : List.Forall₂ (WithinOwnTtl elapsed) m.additionals ans.additionals

/-- 鍵 `k` に等しい鍵で最後に溜めた記録。 -/
def lastStored (k : CacheKey) : List LogEntry → Option (Message × CacheKey × CacheEntry)
  | [] => none
  | .stored req key entry :: older =>
    if (key == k) = true then some (req, key, entry) else lastStored k older
  | _ :: older => lastStored k older

/-- どちらにも鍵があり、互いに等しい。 -/
def SameKey (a b : Message) : Prop :=
  ∃ key key', cacheKey a = some key ∧ cacheKey b = some key' ∧ (key == key') = true

/--
時刻 `t` に `req` へ cache から `ans` を返したことの正当な理由。

`older` はそれより前の記録、`req'` は元の要求、`m` は溜めてあった応答、`stamp` はその時刻である。
-/
structure HitFrom (opts : CacheOptions) (inner : Message → Except DohError Message → Prop)
    (older : List LogEntry) (req ans : Message) (t : Nat) (req' m : Message) (stamp : Nat) :
    Prop where
  /-- 等しい鍵で最後に溜めたのが `m` である。 -/
  latest : ∃ key key' entry, cacheKey req = some key ∧ cacheKey req' = some key' ∧
    (key' == key) = true ∧ lastStored key older = some (req', key', entry) ∧
    entry.response = m ∧ entry.storedAt = stamp
  returned : LogEntry.returned req' m ∈ older ∧ inner req' (.ok m)
  stamp_le : stamp ≤ t
  fresh : ∃ ttl, HasResponseTtl opts m ttl ∧ t - stamp < ttl
  same : SameButIdAndTtl m ans req.metadata.id
  ttl : opts.minTtl = 0 → WithinOwnTtls (t - stamp) m ans

/-! ## `response_ttl` と TTL の書き換え -/

theorem nonOptRecord_iff (m : Message) (r : Record) :
    NonOptRecord m r ↔ r ∈ cacheableRecords m := mem_cacheableRecords.symm

theorem clampTtl_eq (minTtl : Duration) (maxTtl : Option Duration) (ttl : Duration) :
    Cache.clampTtl minTtl maxTtl ttl = cutTtl maxTtl (max minTtl ttl) := by
  have hraise : (if ttl < minTtl then minTtl else ttl) = max minTtl ttl := by
    rw [max_comm, max_def_lt]
  unfold Cache.clampTtl cutTtl
  dsimp only
  rw [hraise]
  cases maxTtl with
  | none => rfl
  | some mx => exact (min_def_lt mx (max minTtl ttl)).symm

/-- **`response_ttl` は仕様どおりの TTL を返す。** -/
theorem hasResponseTtl_of_responseTtl {c : Cache lru} {opts : CacheOptions}
    (hmin : c.minTtl = opts.minTtl) (hmax : c.maxTtl = opts.maxTtl) {m : Message} {ttl : Duration}
    (h : c.responseTtl m = some ttl) : HasResponseTtl opts m ttl := by
  unfold Cache.responseTtl at h
  obtain ⟨n, hn, ht⟩ := Option.map_eq_some_iff.mp h
  obtain ⟨⟨r, hr, hrn⟩, hle⟩ := minTtlOf_spec _ _ hn
  refine ⟨n, ⟨r, (nonOptRecord_iff m r).mpr hr, hrn⟩, ?_, ?_⟩
  · intro q hq
    exact hle q ((nonOptRecord_iff m q).mp hq)
  · rw [← ht, clampTtl_eq, hmin, hmax]

/-- `response_ttl` が無いのは、OPT でない記録が一つも無いときである。 -/
theorem responseTtl_eq_none_iff (c : Cache lru) (m : Message) :
    c.responseTtl m = none ↔ ∀ r, ¬ NonOptRecord m r := by
  unfold Cache.responseTtl
  rw [Option.map_eq_none_iff, minTtlOf_eq_none_iff, List.eq_nil_iff_forall_not_mem]
  constructor
  · intro h r hr
    exact h r ((nonOptRecord_iff m r).mp hr)
  · intro h r hr
    exact h r ((nonOptRecord_iff m r).mpr hr)

theorem HasResponseTtl.unique {opts : CacheOptions} {m : Message} {a b : Duration}
    (ha : HasResponseTtl opts m a) (hb : HasResponseTtl opts m b) : a = b := by
  obtain ⟨n, ⟨r, hr, hrn⟩, hle, rfl⟩ := ha
  obtain ⟨k, ⟨q, hq, hqk⟩, hle', rfl⟩ := hb
  have hnk : n ≤ k := hqk ▸ hle q hq
  have hkn : k ≤ n := hrn ▸ hle' r hr
  rw [Nat.le_antisymm hnk hkn]

/-- 逆に、仕様どおりの TTL が有れば `response_ttl` はそれを返す。 -/
theorem responseTtl_of_hasResponseTtl {opts : CacheOptions} {m : Message} {ttl : Duration}
    (h : HasResponseTtl opts m ttl) : (Cache.new lru opts).responseTtl m = some ttl := by
  cases hr : (Cache.new lru opts).responseTtl m with
  | none =>
    obtain ⟨n, ⟨r, hrec, _⟩, _⟩ := h
    exact absurd hrec ((responseTtl_eq_none_iff _ m).mp hr r)
  | some t =>
    have ht : HasResponseTtl opts m t := hasResponseTtl_of_responseTtl rfl rfl hr
    rw [ht.unique h]

theorem sameButTtl_withTtl (n : UInt32) (r : Record) : SameButTtl r (r.withTtl n) := by
  unfold Record.withTtl
  split
  · next h =>
    refine ⟨rfl, rfl, rfl, ?_⟩
    intro ho
    simp [Record.isCacheable, ho] at h
  · exact ⟨rfl, rfl, rfl, fun _ => rfl⟩

theorem forall₂_map_withTtl {P : Record → Record → Prop} {n : UInt32} :
    ∀ (l : List Record), (∀ r ∈ l, P r (r.withTtl n)) → List.Forall₂ P l (l.map (Record.withTtl n))
  | [], _ => List.Forall₂.nil
  | r :: rest, h =>
    List.Forall₂.cons (h r (by simp)) (forall₂_map_withTtl rest (fun q hq => h q (by simp [hq])))

/-- 書き換えた応答は、ID と TTL のほかは元のままである。 -/
theorem sameButIdAndTtl_served (m : Message) (id : UInt16) (n : UInt32) :
    SameButIdAndTtl m (m.served id n) id where
  metadata := rfl
  queries := rfl
  answers := forall₂_map_withTtl _ (fun r _ => sameButTtl_withTtl n r)
  authorities := forall₂_map_withTtl _ (fun r _ => sameButTtl_withTtl n r)
  additionals := forall₂_map_withTtl _ (fun r _ => sameButTtl_withTtl n r)
  edns := rfl
  signature := rfl

/-- 残り秒数に経過時間を足しても、寿命を超えない。 -/
theorem remainingSecs_add_le {ttl elapsed : Nat} (h : elapsed < ttl) :
    Duration.fromSecs (Cache.remainingSecs ttl elapsed).toNat + elapsed ≤ ttl := by
  have hmod : (Cache.remainingSecs ttl elapsed).toNat ≤ Duration.asSecs (ttl - elapsed) := by
    unfold Cache.remainingSecs
    rw [UInt32.toNat_ofNat']
    exact Nat.mod_le _ _
  have hback : Duration.fromSecs (Cache.remainingSecs ttl elapsed).toNat ≤ ttl - elapsed :=
    Nat.le_trans (Nat.mul_le_mul_right _ hmod) (Nat.div_mul_le_self _ _)
  calc Duration.fromSecs (Cache.remainingSecs ttl elapsed).toNat + elapsed
      ≤ ttl - elapsed + elapsed := Nat.add_le_add_right hback elapsed
    _ = ttl := Nat.sub_add_cancel (Nat.le_of_lt h)

/-- `min_ttl` が 0 なら、`response_ttl` はどの記録の TTL も超えない。 -/
theorem responseTtl_le {opts : CacheOptions} {m : Message} {ttl : Duration}
    (h : HasResponseTtl opts m ttl) (hmin : opts.minTtl = 0) {r : Record}
    (hr : NonOptRecord m r) : ttl ≤ Duration.fromSecs r.ttl.toNat := by
  obtain ⟨n, _, hle, ht⟩ := h
  have hn : Duration.fromSecs n ≤ Duration.fromSecs r.ttl.toNat :=
    Nat.mul_le_mul_right _ (hle r hr)
  rw [hmin, Nat.zero_max] at ht
  rw [ht]
  cases opts.maxTtl with
  | none => exact hn
  | some mx => exact Nat.le_trans (Nat.min_le_right _ _) hn

theorem withinOwnTtls_served {opts : CacheOptions} {m : Message} {ttl elapsed : Duration}
    (h : HasResponseTtl opts m ttl) (hmin : opts.minTtl = 0) (hfresh : elapsed < ttl)
    (id : UInt16) : WithinOwnTtls elapsed m (m.served id (Cache.remainingSecs ttl elapsed)) := by
  have key : ∀ r, (r ∈ m.answers ∨ r ∈ m.authorities ∨ r ∈ m.additionals) →
      WithinOwnTtl elapsed r (r.withTtl (Cache.remainingSecs ttl elapsed)) := by
    intro r hr hopt
    have hc : r.isCacheable = true := by simpa [Record.isCacheable] using hopt
    have hle := responseTtl_le h hmin (r := r) ⟨hr, hopt⟩
    have hadd := remainingSecs_add_le hfresh
    unfold Record.withTtl
    rw [if_pos hc]
    exact Nat.le_trans hadd hle
  exact ⟨forall₂_map_withTtl _ (fun r hr => key r (Or.inl hr)),
    forall₂_map_withTtl _ (fun r hr => key r (Or.inr (Or.inl hr))),
    forall₂_map_withTtl _ (fun r hr => key r (Or.inr (Or.inr hr)))⟩

/-! ## 記録の中の関係 -/

section

variable {opts : CacheOptions} {inner : Message → Except DohError Message → Prop}

/-- 溜めた項目の素性。`log` はそれより前の記録である。 -/
structure GoodEntry (opts : CacheOptions) (inner : Message → Except DohError Message → Prop)
    (log : List LogEntry) (req : Message) (key : CacheKey) (entry : CacheEntry) : Prop where
  key : cacheKey req = some key
  returned : LogEntry.returned req entry.response ∈ log
  inner : inner req (.ok entry.response)
  ttl : HasResponseTtl opts entry.response entry.ttl

/-- 記録が増えても素性は変わらない。 -/
theorem GoodEntry.cons {log : List LogEntry} {req : Message} {key : CacheKey} {entry : CacheEntry}
    (h : GoodEntry opts inner log req key entry) (l : LogEntry) :
    GoodEntry opts inner (l :: log) req key entry :=
  ⟨h.key, List.mem_cons_of_mem _ h.returned, h.inner, h.ttl⟩

/-- どの記録も、付いた時点で正当だったこと。 -/
def LogOk (opts : CacheOptions) (inner : Message → Except DohError Message → Prop) :
    List LogEntry → Prop
  | [] => True
  | .returned _ _ :: older => LogOk opts inner older
  | .stored req key entry :: older =>
    GoodEntry opts inner older req key entry ∧ LogOk opts inner older
  | .served req ans t :: older =>
    (∃ req' m stamp, HitFrom opts inner older req ans t req' m stamp) ∧ LogOk opts inner older

theorem LogOk.tail {l : LogEntry} {older : List LogEntry} (h : LogOk opts inner (l :: older)) :
    LogOk opts inner older := by
  cases l with
  | returned req resp => exact h
  | stored req key entry => exact h.2
  | served req ans t => exact h.2

/-- 途中の記録も、その時点で正当だった。 -/
theorem LogOk.split : ∀ (newer : List LogEntry) {older : List LogEntry},
    LogOk opts inner (newer ++ older) → LogOk opts inner older
  | [], _, h => h
  | _ :: rest, _, h => LogOk.split rest (LogOk.tail h)

theorem LogOk.stored_mem {req : Message} {key : CacheKey} {entry : CacheEntry} :
    ∀ {log : List LogEntry}, LogOk opts inner log → LogEntry.stored req key entry ∈ log →
      GoodEntry opts inner log req key entry
  | [], _, hm => by simp at hm
  | l :: older, h, hm => by
    rcases List.mem_cons.mp hm with he | hm
    · subst he
      exact h.1.cons _
    · exact (LogOk.stored_mem (LogOk.tail h) hm).cons l

/-- `lastStored` は実際に溜めた記録を指す。 -/
theorem lastStored_mem {k key : CacheKey} {req : Message} {entry : CacheEntry} :
    ∀ {log : List LogEntry}, lastStored k log = some (req, key, entry) →
      LogEntry.stored req key entry ∈ log ∧ (key == k) = true
  | [], h => by simp [lastStored] at h
  | .returned _ _ :: older, h => by
    have hold : lastStored k older = some (req, key, entry) := h
    obtain ⟨hm, hk⟩ := lastStored_mem hold
    exact ⟨List.mem_cons_of_mem _ hm, hk⟩
  | .served _ _ _ :: older, h => by
    have hold : lastStored k older = some (req, key, entry) := h
    obtain ⟨hm, hk⟩ := lastStored_mem hold
    exact ⟨List.mem_cons_of_mem _ hm, hk⟩
  | .stored req₀ key₀ entry₀ :: older, h => by
    rw [lastStored] at h
    split at h
    · next hk =>
      simp only [Option.some.injEq, Prod.mk.injEq] at h
      obtain ⟨rfl, rfl, rfl⟩ := h
      exact ⟨List.mem_cons_self, hk⟩
    · obtain ⟨hm, hk⟩ := lastStored_mem h
      exact ⟨List.mem_cons_of_mem _ hm, hk⟩

/-! ## 不変条件 -/

/-- run の間ずっと成り立つこと。 -/
structure CacheInv (opts : CacheOptions) (inner : Message → Except DohError Message → Prop)
    (s : Sys lru) : Prop where
  minTtl : s.cache.minTtl = opts.minTtl
  maxTtl : s.cache.maxTtl = opts.maxTtl
  forwarded : ∀ i req key, s.tasks i = some (.forwarded req key) → key = cacheKey req
  storing : ∀ i req key entry, s.tasks i = some (.storing req key entry) →
    GoodEntry opts inner s.log req key entry ∧ entry.storedAt ≤ s.now
  /-- **引ける項目は、等しい鍵で最後に溜めたものである。** -/
  entries : ∀ k entry, lru.peek s.cache.entries k = some entry →
    ∃ req key, lastStored k s.log = some (req, key, entry)
  log : LogOk opts inner s.log
  stamps : ∀ req key entry, LogEntry.stored req key entry ∈ s.log → entry.storedAt ≤ s.now

theorem cacheInv_init : CacheInv opts inner (Sys.init lru opts) where
  minTtl := rfl
  maxTtl := rfl
  forwarded := by intro i req key h; cases h
  storing := by intro i req key entry h; cases h
  entries := by
    intro k entry h
    simp [Sys.init, Cache.new] at h
  log := trivial
  stamps := by intro req key entry h; cases h

/-- 一つの要求の状態だけを替える一歩。新しい状態が満たすべきことだけを確かめればよい。 -/
theorem CacheInv.setTask {s : Sys lru} (h : CacheInv opts inner s) (i : Nat) (t : Task)
    (hf : ∀ req key, t = .forwarded req key → key = cacheKey req)
    (hs : ∀ req key entry, t = .storing req key entry →
      GoodEntry opts inner s.log req key entry ∧ entry.storedAt ≤ s.now) :
    CacheInv opts inner (s.setTask i t) where
  minTtl := h.minTtl
  maxTtl := h.maxTtl
  forwarded := by
    intro j req key hj
    rcases Sys.setTask_some hj with ⟨_, ht⟩ | ⟨_, hj⟩
    · exact hf req key ht.symm
    · exact h.forwarded j req key hj
  storing := by
    intro j req key entry hj
    rcases Sys.setTask_some hj with ⟨_, ht⟩ | ⟨_, hj⟩
    · exact hs req key entry ht.symm
    · exact h.storing j req key entry hj
  entries := h.entries
  log := h.log
  stamps := h.stamps

/-- 内側の handler が返ったことを記録する。 -/
theorem CacheInv.returned {s : Sys lru} (h : CacheInv opts inner s) (req resp : Message) :
    CacheInv opts inner { s with log := .returned req resp :: s.log } where
  minTtl := h.minTtl
  maxTtl := h.maxTtl
  forwarded := h.forwarded
  storing := fun i req' key entry hi =>
    ⟨(h.storing i req' key entry hi).1.cons _, (h.storing i req' key entry hi).2⟩
  entries := h.entries
  log := h.log
  stamps := by
    intro req' key entry hm
    rcases List.mem_cons.mp hm with he | hm
    · cases he
    · exact h.stamps req' key entry hm

/-- 引いた後の cache に替える。引けるものは増えない。 -/
theorem CacheInv.afterGet {s : Sys lru} (h : CacheInv opts inner s) (key : CacheKey) (id : UInt16) :
    CacheInv opts inner { s with cache := (s.cache.get s.now key id).2 } where
  minTtl := (Cache.get_ttl s.cache s.now key id).1.trans h.minTtl
  maxTtl := (Cache.get_ttl s.cache s.now key id).2.trans h.maxTtl
  forwarded := h.forwarded
  storing := h.storing
  entries := fun k entry hk => h.entries k entry (Cache.peek_of_get hk)
  log := h.log
  stamps := h.stamps

/-- cache から答えたことを記録する。 -/
theorem CacheInv.served {s : Sys lru} (h : CacheInv opts inner s) {req ans : Message}
    (hhit : ∃ req' m stamp, HitFrom opts inner s.log req ans s.now req' m stamp) :
    CacheInv opts inner { s with log := .served req ans s.now :: s.log } where
  minTtl := h.minTtl
  maxTtl := h.maxTtl
  forwarded := h.forwarded
  storing := fun i req' key entry hi =>
    ⟨(h.storing i req' key entry hi).1.cons _, (h.storing i req' key entry hi).2⟩
  entries := h.entries
  log := ⟨hhit, h.log⟩
  stamps := by
    intro req' key entry hm
    rcases List.mem_cons.mp hm with he | hm
    · cases he
    · exact h.stamps req' key entry hm

/-- **hit した答えの素性。** 引けた項目が最後に溜めたものであることから組み立てる。 -/
theorem CacheInv.hitFrom {s : Sys lru} (h : CacheInv opts inner s) {req : Message} {key : CacheKey}
    (hkey : cacheKey req = some key) {entry : CacheEntry}
    (hpeek : lru.peek s.cache.entries key = some entry)
    (hfresh : s.now - entry.storedAt < entry.ttl) :
    ∃ req' m stamp, HitFrom opts inner s.log req
      (entry.response.served req.metadata.id
        (Cache.remainingSecs entry.ttl (s.now - entry.storedAt))) s.now req' m stamp := by
  obtain ⟨req', key', hlast⟩ := h.entries key entry hpeek
  obtain ⟨hmem, hkk⟩ := lastStored_mem hlast
  have hgood := LogOk.stored_mem h.log hmem
  refine ⟨req', entry.response, entry.storedAt, ?_⟩
  exact
    { latest := ⟨key, key', entry, hkey, hgood.key, hkk, hlast, rfl, rfl⟩
      returned := ⟨hgood.returned, hgood.inner⟩
      stamp_le := h.stamps req' key' entry hmem
      fresh := ⟨entry.ttl, hgood.ttl, hfresh⟩
      same := sameButIdAndTtl_served _ _ _
      ttl := fun hmin => withinOwnTtls_served hgood.ttl hmin hfresh _ }

theorem CacheInv.lookupStep {s : Sys lru} (h : CacheInv opts inner s) (i : Nat) (req : Message) :
    CacheInv opts inner (s.lookupStep i req) := by
  unfold Sys.lookupStep
  split
  · next hkey =>
    refine h.setTask i _ ?_ ?_
    · intro req' key he
      cases he
      exact hkey.symm
    · intro req' key entry he
      cases he
  · next key hkey =>
    have hget := Cache.get_spec s.cache s.now key req.metadata.id
    have hafter := h.afterGet key req.metadata.id
    split
    · next resp cache hg =>
      rw [hg] at hget hafter
      rcases hget with ⟨entry, hpeek, hfresh, hresp⟩ | hnone
      · have hr : resp = _ := Option.some.inj hresp
        subst hr
        -- 記録を付けてから要求を終える。記録は引く前の状態で正当である
        have hs := hafter.served (h.hitFrom hkey hpeek hfresh)
        exact hs.setTask i _ (by intro _ _ he; cases he) (by intro _ _ _ he; cases he)
      · cases hnone
    · next cache hg =>
      rw [hg] at hafter
      refine hafter.setTask i _ ?_ ?_
      · intro req' key' he
        cases he
        exact hkey.symm
      · intro req' key' entry he
        cases he

theorem CacheInv.replyStep {s : Sys lru} (h : CacheInv opts inner s) {i : Nat} {req : Message}
    {key : Option CacheKey} {r : Except DohError Message}
    (ht : s.tasks i = some (.forwarded req key)) (hin : inner req r) :
    CacheInv opts inner (s.replyStep i req key r) := by
  have hkey := h.forwarded i req key ht
  unfold Sys.replyStep
  cases r with
  | error e => exact h.setTask i _ (by intro _ _ he; cases he) (by intro _ _ _ he; cases he)
  | ok resp =>
    have hret := h.returned req resp
    cases key with
    | none => exact hret.setTask i _ (by intro _ _ he; cases he) (by intro _ _ _ he; cases he)
    | some key =>
      dsimp only
      split
      · exact hret.setTask i _ (by intro _ _ he; cases he) (by intro _ _ _ he; cases he)
      · next entry hentry =>
        obtain ⟨hresp, hnow, httl⟩ := Cache.makeEntry_some hentry
        refine hret.setTask i _ (by intro _ _ he; cases he) ?_
        intro req' key' entry' he
        cases he
        refine ⟨⟨hkey.symm, ?_, ?_, ?_⟩, ?_⟩
        · rw [hresp]; exact List.mem_cons_self
        · rw [hresp]; exact hin
        · rw [hresp]; exact hasResponseTtl_of_responseTtl h.minTtl h.maxTtl httl
        · rw [hnow]

theorem CacheInv.storeStep {s : Sys lru} (h : CacheInv opts inner s) {i : Nat} {req : Message}
    {key : CacheKey} {entry : CacheEntry} (ht : s.tasks i = some (.storing req key entry)) :
    CacheInv opts inner (s.storeStep i req key entry) := by
  obtain ⟨hgood, hstamp⟩ := h.storing i req key entry ht
  -- 要求を終えるのは最後でよいので、先に cache と記録だけを進める
  have hput : CacheInv opts inner
      { s with cache := s.cache.putEntry key entry, log := .stored req key entry :: s.log } :=
    { minTtl := h.minTtl
      maxTtl := h.maxTtl
      forwarded := h.forwarded
      storing := fun j req' key' entry' hj =>
        ⟨(h.storing j req' key' entry' hj).1.cons _, (h.storing j req' key' entry' hj).2⟩
      entries := by
        intro k e hk
        rcases lru.peek_put_some hk with ⟨hkk, he⟩ | ⟨hkk, hold⟩
        · subst he
          exact ⟨req, key, by simp [lastStored, hkk]⟩
        · obtain ⟨req', key', hlast⟩ := h.entries k e hold
          exact ⟨req', key', by simp [lastStored, hkk, hlast]⟩
      log := ⟨hgood, h.log⟩
      stamps := by
        intro req' key' entry' hm
        rcases List.mem_cons.mp hm with he | hm
        · cases he
          exact hstamp
        · exact h.stamps req' key' entry' hm }
  exact hput.setTask i _ (by intro _ _ he; cases he) (by intro _ _ _ he; cases he)

theorem CacheInv.tick {s : Sys lru} (h : CacheInv opts inner s) (d : Nat) :
    CacheInv opts inner { s with now := s.now + d } where
  minTtl := h.minTtl
  maxTtl := h.maxTtl
  forwarded := h.forwarded
  storing := fun i req key entry hi =>
    ⟨(h.storing i req key entry hi).1, Nat.le_add_right_of_le (h.storing i req key entry hi).2⟩
  entries := h.entries
  log := h.log
  stamps := fun req key entry hm => Nat.le_add_right_of_le (h.stamps req key entry hm)

/-- **不変条件は一歩で保たれる。** -/
theorem CacheInv.step {clients : Message → Prop} {s s' : Sys lru} {e : Event}
    (h : CacheInv opts inner s) (ha : Sys.Allowed clients inner s e) (hs : s.step e = some s') :
    CacheInv opts inner s' := by
  rcases Sys.step_cases hs with ⟨i, req, rfl, _, rfl⟩ | ⟨i, req, rfl, _, rfl⟩ |
    ⟨i, req, key, r, rfl, ht, rfl⟩ | ⟨i, req, key, entry, rfl, ht, rfl⟩ | ⟨d, rfl, rfl⟩
  · exact h.setTask i _ (by intro _ _ he; cases he) (by intro _ _ _ he; cases he)
  · exact h.lookupStep i req
  · exact h.replyStep ht (ha req key ht)
  · exact h.storeStep ht
  · exact h.tick d

/-- 到達できる状態はすべて不変条件を満たす。 -/
theorem cacheInv_reach {clients : Message → Prop} {s : Sys lru}
    (h : (cacheMachine lru opts clients inner).Reach s) : CacheInv opts inner s :=
  Machine.Reach.invariant cacheInv_init (fun _ _ _ hi ha hs => hi.step ha hs) h

/-! ## 終わった要求の結果 -/

/-- 要求の状態が抱えている要求。 -/
def Task.req : Task → Message
  | .arrived req => req
  | .forwarded req _ => req
  | .storing req _ _ => req
  | .finished req _ _ => req

/-- 終わった要求の結果は、cache から答えたものか、内側の handler が返したものである。 -/
structure ResultInv (clients : Message → Prop) (inner : Message → Except DohError Message → Prop)
    (s : Sys lru) : Prop where
  fromClient : ∀ i t, s.tasks i = some t → clients t.req
  stored : ∀ req key entry, LogEntry.stored req key entry ∈ s.log → clients req
  hit : ∀ i req r, s.tasks i = some (.finished req r true) →
    ∃ ans t, r = .ok ans ∧ LogEntry.served req ans t ∈ s.log
  miss : ∀ i req r, s.tasks i = some (.finished req r false) → inner req r

variable {clients : Message → Prop}

theorem resultInv_init : ResultInv clients inner (Sys.init lru opts) where
  fromClient := by intro i t h; cases h
  stored := by intro req key entry h; cases h
  hit := by intro i req r h; cases h
  miss := by intro i req r h; cases h

/-- 一つの要求の状態を替え、記録を前に足す一歩。 -/
theorem ResultInv.setTask {s : Sys lru} (h : ResultInv clients inner s) (i : Nat) (t : Task)
    (cache : Cache lru) (new : List LogEntry) (hc : clients t.req)
    (hst : ∀ req key entry, LogEntry.stored req key entry ∈ new → clients req)
    (hhit : ∀ req r, t = .finished req r true →
      ∃ ans u, r = .ok ans ∧ LogEntry.served req ans u ∈ new ++ s.log)
    (hmiss : ∀ req r, t = .finished req r false → inner req r) :
    ResultInv clients inner { s.setTask i t with cache, log := new ++ s.log } where
  fromClient := by
    intro j t' hj
    rcases Sys.setTask_some hj with ⟨_, rfl⟩ | ⟨_, hj⟩
    · exact hc
    · exact h.fromClient j t' hj
  stored := by
    intro req key entry hm
    rcases List.mem_append.mp hm with hm | hm
    · exact hst req key entry hm
    · exact h.stored req key entry hm
  hit := by
    intro j req r hj
    rcases Sys.setTask_some hj with ⟨_, ht⟩ | ⟨_, hj⟩
    · exact hhit req r ht.symm
    · obtain ⟨ans, u, hr, hm⟩ := h.hit j req r hj
      exact ⟨ans, u, hr, List.mem_append_right _ hm⟩
  miss := by
    intro j req r hj
    rcases Sys.setTask_some hj with ⟨_, ht⟩ | ⟨_, hj⟩
    · exact hmiss req r ht.symm
    · exact h.miss j req r hj

theorem ResultInv.step {s s' : Sys lru} {e : Event} (h : ResultInv clients inner s)
    (hi : CacheInv opts inner s) (ha : Sys.Allowed clients inner s e) (hs : s.step e = some s') :
    ResultInv clients inner s' := by
  rcases Sys.step_cases hs with ⟨i, req, rfl, _, rfl⟩ | ⟨i, req, rfl, ht, rfl⟩ |
    ⟨i, req, key, r, rfl, ht, rfl⟩ | ⟨i, req, key, entry, rfl, ht, rfl⟩ | ⟨d, rfl, rfl⟩
  · exact h.setTask i (.arrived req) s.cache [] ha (by simp) (by simp) (by simp)
  · have hc : clients req := h.fromClient i _ ht
    unfold Sys.lookupStep
    split
    · exact h.setTask i (.forwarded req none) s.cache [] hc (by simp) (by simp) (by simp)
    · next key hkey =>
      split
      · next resp cache hg =>
        refine h.setTask i (.finished req (.ok resp) true) cache [.served req resp s.now] hc
          (by simp) ?_ (by simp)
        intro req' r he
        cases he
        exact ⟨resp, s.now, rfl, by simp⟩
      · next cache hg =>
        exact h.setTask i (.forwarded req (some key)) cache [] hc (by simp) (by simp) (by simp)
  · have hc : clients req := h.fromClient i _ ht
    have hin : inner req r := ha req key ht
    have hdone : ∀ new : List LogEntry, (∀ q k x, LogEntry.stored q k x ∉ new) →
        ResultInv clients inner
          { s.setTask i (.finished req r false) with log := new ++ s.log } := by
      intro new hnew
      refine h.setTask i _ s.cache new hc (fun q k x hm => absurd hm (hnew q k x)) (by simp) ?_
      intro req' r' he
      cases he
      exact hin
    unfold Sys.replyStep
    cases r with
    | error e => exact hdone [] (by simp)
    | ok resp =>
      cases key with
      | none => exact hdone [.returned req resp] (by simp)
      | some key =>
        dsimp only
        split
        · exact hdone [.returned req resp] (by simp)
        · next entry hentry =>
          exact h.setTask i (.storing req key entry) s.cache [.returned req resp] hc (by simp)
            (by simp) (by simp)
  · have hc : clients req := h.fromClient i _ ht
    refine h.setTask i (.finished req (.ok entry.response) false) _ [.stored req key entry] hc ?_
      (by simp) ?_
    · intro req' key' entry' hm
      rw [List.mem_singleton] at hm
      cases hm
      exact hc
    · intro req' r he
      cases he
      exact (hi.storing i req key entry ht).1.inner
  · exact ⟨h.fromClient, h.stored, h.hit, h.miss⟩

theorem resultInv_reach {s : Sys lru} (h : (cacheMachine lru opts clients inner).Reach s) :
    ResultInv clients inner s := by
  have hboth : CacheInv opts inner s ∧ ResultInv clients inner s :=
    Machine.Reach.invariant (P := fun s => CacheInv opts inner s ∧ ResultInv clients inner s)
      ⟨cacheInv_init, resultInv_init⟩
      (fun _ _ _ hi ha hs => ⟨hi.1.step ha hs, hi.2.step hi.1 ha hs⟩) h
  exact hboth.2

/-! ## 主定理 -/

/-- cache に入らない結果。question が一つでない要求、内側の失敗、寿命を持つ記録の無い応答である。 -/
def NotCached (req : Message) (r : Except DohError Message) : Prop :=
  req.queries.length ≠ 1 ∨ (∃ e, r = .error e) ∨ ∃ m, r = .ok m ∧ ∀ q, ¬ NonOptRecord m q

theorem cacheKey_eq_none {req : Message} (h : req.queries.length ≠ 1) : cacheKey req = none := by
  cases hk : cacheKey req with
  | none => rfl
  | some k => exact absurd ((cacheKey_isSome_iff req).mp ⟨k, hk⟩) h

/-- cache に入らない結果は、cache に触れずにそのまま返る。 -/
theorem replyStep_notCached (s : Sys lru) (i : Nat) {req : Message} {r : Except DohError Message}
    (h : NotCached req r) : (s.replyStep i req (cacheKey req) r).cache = s.cache ∧
      (s.replyStep i req (cacheKey req) r).tasks i = some (.finished req r false) := by
  unfold Sys.replyStep
  cases r with
  | error e => exact ⟨rfl, Sys.setTask_self _ _ _⟩
  | ok resp =>
    rcases h with h | ⟨e, he⟩ | ⟨m, hm, hnone⟩
    · rw [cacheKey_eq_none h]
      exact ⟨rfl, Sys.setTask_self _ _ _⟩
    · cases he
    · cases hm
      have hmake : s.cache.makeEntry s.now resp = none := by
        unfold Cache.makeEntry
        rw [(responseTtl_eq_none_iff s.cache resp).mpr hnone]
        rfl
      cases cacheKey req with
      | none => exact ⟨rfl, Sys.setTask_self _ _ _⟩
      | some key =>
        dsimp only
        rw [hmake]
        exact ⟨rfl, Sys.setTask_self _ _ _⟩

/--
**cache から返した答えはすべて正当である。**

どの要求がどの順で割り込んでも、cache から答えた記録には、等しい鍵で最後に溜めた応答という
出所がある（`HitFrom`）。hit で終わった要求には必ずその記録があり、
cache に入らないはずの要求と結果は cache を動かさない。
-/
theorem cache_hit_sound {s : Sys lru} (h : (cacheMachine lru opts clients inner).Reach s) :
    (∀ newer older req ans t, s.log = newer ++ .served req ans t :: older →
      req.queries.length = 1 ∧ ∃ req' m stamp, HitFrom opts inner older req ans t req' m stamp) ∧
    (∀ i req r, s.tasks i = some (.finished req r true) →
      ∃ ans t, r = .ok ans ∧ LogEntry.served req ans t ∈ s.log) ∧
    (∀ i req key r s', s.tasks i = some (.forwarded req key) → NotCached req r →
      s.step (.reply i r) = some s' →
      s'.cache = s.cache ∧ s'.tasks i = some (.finished req r false)) ∧
    (∀ i req s', s.tasks i = some (.arrived req) → req.queries.length ≠ 1 →
      s.step (.lookup i) = some s' →
      s'.cache = s.cache ∧ s'.tasks i = some (.forwarded req none)) := by
  have hinv := cacheInv_reach h
  refine ⟨?_, (resultInv_reach h).hit, ?_, ?_⟩
  · intro newer older req ans t hlog
    have hok := hinv.log
    rw [hlog] at hok
    obtain ⟨⟨req', m, stamp, hhit⟩, _⟩ := LogOk.split newer hok
    obtain ⟨key, _, _, hkey, _⟩ := hhit.latest
    exact ⟨(cacheKey_isSome_iff req).mp ⟨key, hkey⟩, req', m, stamp, hhit⟩
  · intro i req key r s' ht hn hs
    simp only [Sys.step, ht, Option.some.injEq] at hs
    rw [← hs, hinv.forwarded i req key ht]
    exact replyStep_notCached s i hn
  · intro i req s' ht hq hs
    simp only [Sys.step, ht, Option.some.injEq] at hs
    rw [← hs]
    unfold Sys.lookupStep
    rw [cacheKey_eq_none hq]
    exact ⟨rfl, Sys.setTask_self _ _ _⟩

/-! ## hit に至る run -/

theorem responseTtl_congr {c : Cache lru} (d : Cache lru) (hmin : c.minTtl = d.minTtl)
    (hmax : c.maxTtl = d.maxTtl) (m : Message) : c.responseTtl m = d.responseTtl m := by
  unfold Cache.responseTtl
  rw [hmin, hmax]

theorem Sys.lookupStep_miss {s : Sys lru} {req : Message} {key : CacheKey} (i : Nat)
    (hk : cacheKey req = some key) (hg : (s.cache.get s.now key req.metadata.id).1 = none) :
    s.lookupStep i req = { s.setTask i (.forwarded req (some key)) with
      cache := (s.cache.get s.now key req.metadata.id).2 } := by
  unfold Sys.lookupStep
  rw [hk]
  dsimp only
  split
  · next resp cache h => rw [h] at hg; cases hg
  · next cache h => rw [h]

theorem Sys.lookupStep_hit {s : Sys lru} {req resp : Message} {key : CacheKey} (i : Nat)
    (hk : cacheKey req = some key)
    (hg : (s.cache.get s.now key req.metadata.id).1 = some resp) :
    s.lookupStep i req = { s.setTask i (.finished req (.ok resp) true) with
      cache := (s.cache.get s.now key req.metadata.id).2
      log := .served req resp s.now :: s.log } := by
  unfold Sys.lookupStep
  rw [hk]
  dsimp only
  split
  · next resp' cache h => rw [h] at hg ⊢; cases hg; rfl
  · next cache h => rw [h] at hg; cases hg

variable (lru clients inner) in
/--
**溜めた応答には必ず当たる。**

`first` への応答 `m` を溜め、寿命の尽きないうちに等しい鍵の `second` が届けば、
`second` には `m` の ID と TTL を書き換えたものが返る。
-/
theorem reach_hit {first second m : Message} {ttl : Duration} {d : Nat} (hc : clients first)
    (hc' : clients second) (hm : inner first (.ok m)) (hkey : SameKey first second)
    (httl : HasResponseTtl opts m ttl) (hd : d < ttl) :
    ∃ s older, (cacheMachine lru opts clients inner).Reach s ∧
      s.log = .served second (m.served second.metadata.id (Cache.remainingSecs ttl d)) d :: older ∧
      s.tasks 1 = some (.finished second
        (.ok (m.served second.metadata.id (Cache.remainingSecs ttl d))) true) := by
  obtain ⟨key, key', hk, hk', hkk⟩ := hkey
  let M := cacheMachine lru opts clients inner
  -- `first` が届き、空の cache を引き、内側へ転送される
  let s₁ := (Sys.init lru opts).setTask 0 (.arrived first)
  have h₁ : M.Reach s₁ := Machine.Reach.init.step (e := .arrive 0 first) hc rfl
  have hmiss : (s₁.cache.get s₁.now key first.metadata.id).1 = none :=
    Cache.get_miss _ _ (lru.peek_new opts.size opts.size_pos key)
  let s₂ : Sys lru := { s₁.setTask 0 (.forwarded first (some key)) with
    cache := (s₁.cache.get s₁.now key first.metadata.id).2 }
  have h₂ : M.Reach s₂ := by
    refine h₁.step (e := .lookup 0) trivial ?_
    show some (s₁.lookupStep 0 first) = some s₂
    rw [Sys.lookupStep_miss 0 hk hmiss]
  -- 応答が返り、項目が作られて溜まる
  obtain ⟨hmin, hmax⟩ := Cache.get_ttl s₁.cache s₁.now key first.metadata.id
  let entry : CacheEntry := { response := m, storedAt := 0, ttl := ttl }
  have hentry : s₂.cache.makeEntry 0 m = some entry := by
    unfold Cache.makeEntry
    rw [responseTtl_congr (Cache.new lru opts) hmin hmax,
      responseTtl_of_hasResponseTtl httl]
    rfl
  let s₃ : Sys lru := { s₂.setTask 0 (.storing first key entry) with
    log := .returned first m :: s₂.log }
  have h₃ : M.Reach s₃ := by
    refine h₂.step (e := .reply 0 (.ok m)) ?_ ?_
    · intro req k ht
      cases ht
      exact hm
    · show some (s₂.replyStep 0 first (some key) (.ok m)) = some s₃
      unfold Sys.replyStep
      dsimp only
      rw [show s₂.now = 0 from rfl, hentry]
      rfl
  let s₄ := s₃.storeStep 0 first key entry
  have h₄ : M.Reach s₄ := h₃.step (e := .store 0) trivial rfl
  -- 時計が `d` だけ進み、`second` が届いて当たる
  let s₅ : Sys lru := { s₄ with now := s₄.now + d }
  have h₅ : M.Reach s₅ := h₄.step (e := .tick d) trivial rfl
  let s₆ := s₅.setTask 1 (.arrived second)
  have h₆ : M.Reach s₆ := h₅.step (e := .arrive 1 second) hc' rfl
  have hpeek : lru.peek s₆.cache.entries key' = some entry := by
    rw [← lru.peek_congr _ hkk]
    exact lru.peek_put_self _ key entry
  have hnow : s₆.now = d := Nat.zero_add d
  have hgot : (s₆.cache.get s₆.now key' second.metadata.id).1 =
      some (m.served second.metadata.id (Cache.remainingSecs ttl d)) := by
    rw [hnow, Cache.get_hit second.metadata.id hpeek hd]
    rfl
  refine ⟨s₆.lookupStep 1 second, s₆.log, h₆.step (e := .lookup 1) trivial rfl, ?_, ?_⟩
  · rw [Sys.lookupStep_hit 1 hk' hgot, hnow]
  · rw [Sys.lookupStep_hit 1 hk' hgot]
    exact Sys.setTask_self s₆ 1 _

end

/-! ### 具体的な run -/

/-- 連想リストの cache。 -/
abbrev sampleLru : LruCache CacheKey CacheEntry := Lru.cache CacheKey CacheEntry

/-- 大きさ 10、下限 0、上限なし。 -/
def sampleOptions : CacheOptions := { size := 10, size_pos := by decide, minTtl := 0, maxTtl := none }

/-- label 一つの名前についての A の問い合わせ。 -/
def sampleRequest (id : UInt16) (label : Label) : Message :=
  { Message.new id .query .query with
    queries := [{ name := ⟨[label], true⟩, queryType := RecordType.A }] }

/-- 問い合わせの ID と question を写し、A の記録を一つ付けた応答。 -/
def sampleResponse (req : Message) (truncation : Bool) (ttl : UInt32) : Message :=
  { req with
    metadata := { req.metadata with messageType := .response, truncation }
    answers := [{ name := ⟨[[97]], true⟩, ttl, data := .a 0x01020304 }] }

/-- 記録が一つだけなら、その TTL が応答の寿命になる。 -/
theorem sampleResponse_ttl (req : Message) (hreq : req.authorities = [] ∧ req.additionals = [])
    (truncation : Bool) (ttl : UInt32) :
    HasResponseTtl sampleOptions (sampleResponse req truncation ttl)
      (Duration.fromSecs ttl.toNat) := by
  have hone : ∀ r, NonOptRecord (sampleResponse req truncation ttl) r → r.ttl = ttl := by
    rintro r ⟨hr | hr | hr, _⟩
    · simp only [sampleResponse, List.mem_singleton] at hr
      rw [hr]
    · simp [sampleResponse, hreq.1] at hr
    · simp [sampleResponse, hreq.2] at hr
  refine ⟨ttl.toNat, ⟨_, ⟨Or.inl (List.mem_singleton.mpr rfl), ?_⟩, rfl⟩, ?_, ?_⟩
  · show RecordType.A ≠ RecordType.OPT
    decide
  · intro r hr
    rw [hone r hr]
  · exact (Nat.zero_max _).symm

theorem cache_hit_sound_sample :
    ∃ s older ans, (cacheMachine sampleLru sampleOptions (fun _ => True)
        (fun _ r => r = .ok (sampleResponse (sampleRequest 1 [97]) false 300))).Reach s ∧
      s.log = .served (sampleRequest 2 [65]) ans 2500000000 :: older ∧
      ans.answers.map Record.ttl = [297] ∧
      ∃ req' m stamp, HitFrom sampleOptions
        (fun _ r => r = .ok (sampleResponse (sampleRequest 1 [97]) false 300))
        older (sampleRequest 2 [65]) ans 2500000000 req' m stamp := by
  have hkey : SameKey (sampleRequest 1 [97]) (sampleRequest 2 [65]) := ⟨_, _, rfl, rfl, by decide⟩
  obtain ⟨s, older, hreach, hlog, _⟩ :=
    reach_hit sampleLru (fun _ r => r = .ok (sampleResponse (sampleRequest 1 [97]) false 300))
      (fun _ => True) trivial trivial rfl hkey (sampleResponse_ttl _ ⟨rfl, rfl⟩ false 300)
      (show 2500000000 < Duration.fromSecs (300 : UInt32).toNat by decide)
  exact ⟨s, older, _, hreach, hlog, by decide,
    ((cache_hit_sound hreach).1 [] older _ _ _ hlog).2⟩

end DnsProxy
