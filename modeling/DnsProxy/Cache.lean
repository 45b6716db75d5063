import DnsProxy.Dns.Message
import DnsProxy.Error
import DnsProxy.Infra.Lru

/-!
# 応答の cache（`cache.rs`）

question を鍵にして応答を溜める。寿命は記録の TTL の最小値で、hit のたびに残り時間へ書き換える。

時刻は `Instant` の代わりに起点からのナノ秒で表す。`Mutex` の中身は `lru` crate の `LruCache` で、
どの実装でもよいように parameter（`lru`）に取る。
lock を取っている間の処理が一つの関数になっている（`get` と `insert` の後半）。
-/

namespace DnsProxy

open Infra

/-- `CacheOptions`。`size` は `NonZeroUsize` である。 -/
structure CacheOptions where
  size : Nat
  size_pos : 0 < size
  minTtl : Duration
  maxTtl : Option Duration

/-! ## 鍵 -/

structure CacheKey where
  name : Name
  queryType : RecordType
  queryClass : DNSClass
  dnssecOk : Bool
  checkingDisabled : Bool

namespace CacheKey

/-- `#[derive(PartialEq)]`。名前の比較だけが `Name::eq` に移る。 -/
instance : BEq CacheKey where
  beq a b := a.name.ciEq b.name && a.queryType == b.queryType && a.queryClass == b.queryClass
    && a.dnssecOk == b.dnssecOk && a.checkingDisabled == b.checkingDisabled

/-- 鍵が等しいことの内訳。名前は大小を潰して比べる。 -/
theorem beq_iff (a b : CacheKey) : (a == b) = true ↔
    (a.name.isFqdn = b.name.isFqdn ∧ a.name.lowerLabels = b.name.lowerLabels)
      ∧ a.queryType = b.queryType ∧ a.queryClass = b.queryClass ∧ a.dnssecOk = b.dnssecOk
      ∧ a.checkingDisabled = b.checkingDisabled := by
  show (a.name.ciEq b.name && a.queryType == b.queryType && a.queryClass == b.queryClass
    && a.dnssecOk == b.dnssecOk && a.checkingDisabled == b.checkingDisabled) = true ↔ _
  simp only [Bool.and_eq_true, beq_iff_eq, Name.ciEq_iff, and_assoc]

instance : EquivBEq CacheKey where
  rfl := by
    intro a
    rw [beq_iff]
    exact ⟨⟨rfl, rfl⟩, rfl, rfl, rfl, rfl⟩
  symm := by
    intro a b h
    rw [beq_iff] at h ⊢
    obtain ⟨⟨h1, h2⟩, h3, h4, h5, h6⟩ := h
    exact ⟨⟨h1.symm, h2.symm⟩, h3.symm, h4.symm, h5.symm, h6.symm⟩
  trans := by
    intro a b c h h'
    rw [beq_iff] at h h' ⊢
    obtain ⟨⟨h1, h2⟩, h3, h4, h5, h6⟩ := h
    obtain ⟨⟨g1, g2⟩, g3, g4, g5, g6⟩ := h'
    exact ⟨⟨h1.trans g1, h2.trans g2⟩, h3.trans g3, h4.trans g4, h5.trans g5, h6.trans g6⟩

end CacheKey

/-- `cache_key`。question がちょうど一つのときだけ鍵がある。 -/
def cacheKey (req : Message) : Option CacheKey :=
  match req.queries with
  | [q] =>
    some
      { name := q.name
        queryType := q.queryType
        queryClass := q.queryClass
        dnssecOk := req.edns.any (fun edns => edns.dnssecOk)
        checkingDisabled := req.metadata.checkingDisabled }
  | _ => none

theorem cacheKey_isSome_iff (req : Message) :
    (∃ k, cacheKey req = some k) ↔ req.queries.length = 1 := by
  unfold cacheKey
  match h : req.queries with
  | [] => simp
  | [q] => simp
  | q :: q' :: rest => simp

/-! ## 記録の TTL -/

/-- TTL が寿命を意味する記録。OPT の「TTL」は EDNS の flag である。 -/
def Record.isCacheable (r : Record) : Bool := r.recordType != RecordType.OPT

/-- `cacheable_records`。 -/
def cacheableRecords (msg : Message) : List Record :=
  (msg.answers ++ msg.authorities ++ msg.additionals).filter Record.isCacheable

/-- `all_records_mut` を回して TTL を書き換える一件分。 -/
def Record.withTtl (remaining : UInt32) (r : Record) : Record :=
  if r.isCacheable then { r with ttl := remaining } else r

/-- hit のときに返す message。ID と TTL だけを書き換える。 -/
def Message.served (m : Message) (id : UInt16) (remaining : UInt32) : Message :=
  { m with
    metadata := { m.metadata with id }
    answers := m.answers.map (Record.withTtl remaining)
    authorities := m.authorities.map (Record.withTtl remaining)
    additionals := m.additionals.map (Record.withTtl remaining) }

/-- `Iterator::min`。 -/
def minTtlOf : List Record → Option Nat
  | [] => none
  | r :: rest =>
    match minTtlOf rest with
    | none => some r.ttl.toNat
    | some n => some (min r.ttl.toNat n)

/-! ## cache 本体 -/

structure CacheEntry where
  response : Message
  storedAt : Nat
  ttl : Duration

structure Cache (lru : LruCache CacheKey CacheEntry) where
  entries : lru.State
  minTtl : Duration
  maxTtl : Option Duration

namespace Cache

variable {lru : LruCache CacheKey CacheEntry}

/-- `Cache::new`。 -/
def new (lru : LruCache CacheKey CacheEntry) (opts : CacheOptions) : Cache lru where
  entries := lru.new opts.size opts.size_pos
  minTtl := opts.minTtl
  maxTtl := opts.maxTtl

/-- 最小の TTL を `[min_ttl, max_ttl]` に収める。上限は後から効く。 -/
def clampTtl (minTtl : Duration) (maxTtl : Option Duration) (ttl : Duration) : Duration :=
  let ttl := if ttl < minTtl then minTtl else ttl
  match maxTtl with
  | some maxTtl => if maxTtl < ttl then maxTtl else ttl
  | none => ttl

/-- `Cache::response_ttl`。 -/
def responseTtl (c : Cache lru) (resp : Message) : Option Duration :=
  (minTtlOf (cacheableRecords resp)).map fun minRrTtl =>
    clampTtl c.minTtl c.maxTtl (Duration.fromSecs minRrTtl)

/-- 残り時間を秒の `u32` にする。`as u32` なので上位は落ちる。 -/
def remainingSecs (ttl elapsed : Duration) : UInt32 := UInt32.ofNat (Duration.asSecs (ttl - elapsed))

/-- `Cache::get`。lock を取っている間の処理。 -/
def get (c : Cache lru) (now : Nat) (key : CacheKey) (id : UInt16) : Option Message × Cache lru :=
  match lru.get c.entries key with
  | (none, entries) => (none, { c with entries })
  | (some entry, entries) =>
    let elapsed := now - entry.storedAt
    if entry.ttl ≤ elapsed then
      (none, { c with entries := lru.pop entries key })
    else
      (some (entry.response.served id (remainingSecs entry.ttl elapsed)), { c with entries })

/-- `Cache::insert` の前半。時刻を打った項目を作る（lock を待つ前）。 -/
def makeEntry (c : Cache lru) (now : Nat) (resp : Message) : Option CacheEntry :=
  (c.responseTtl resp).map fun ttl => { response := resp, storedAt := now, ttl }

/-- `Cache::insert` の後半。lock を取って入れる。 -/
def putEntry (c : Cache lru) (key : CacheKey) (entry : CacheEntry) : Cache lru :=
  { c with entries := lru.put c.entries key entry }

/-! ## 各操作の仕様 -/

@[simp] theorem putEntry_minTtl (c : Cache lru) (k : CacheKey) (e : CacheEntry) :
    (c.putEntry k e).minTtl = c.minTtl := rfl
@[simp] theorem putEntry_maxTtl (c : Cache lru) (k : CacheKey) (e : CacheEntry) :
    (c.putEntry k e).maxTtl = c.maxTtl := rfl

/--
**`get` の仕様。**

hit なら、鍵に等しい項目がまだ寿命の中にあり、その応答の ID と TTL だけを書き換えて返す。
miss なら、引けるものが増えることはない。
-/
theorem get_spec (c : Cache lru) (now : Nat) (key : CacheKey) (id : UInt16) :
    (∃ entry, lru.peek c.entries key = some entry ∧ now - entry.storedAt < entry.ttl ∧
      (c.get now key id).1 = some (entry.response.served id
        (remainingSecs entry.ttl (now - entry.storedAt)))) ∨
    (c.get now key id).1 = none := by
  have hfst := lru.get_fst c.entries key
  unfold get
  split
  · exact Or.inr rfl
  · next entry entries hg =>
    rw [hg] at hfst
    by_cases hexp : entry.ttl ≤ now - entry.storedAt
    · rw [if_pos hexp]
      exact Or.inr rfl
    · rw [if_neg hexp]
      exact Or.inl ⟨entry, hfst.symm, Nat.lt_of_not_le hexp, rfl⟩

/-- 引ける項目が寿命の中にあれば hit である。 -/
theorem get_hit {c : Cache lru} {now : Nat} {key : CacheKey} {entry : CacheEntry} (id : UInt16)
    (hp : lru.peek c.entries key = some entry) (hlt : now - entry.storedAt < entry.ttl) :
    (c.get now key id).1 = some (entry.response.served id
      (remainingSecs entry.ttl (now - entry.storedAt))) := by
  have hfst := lru.get_fst c.entries key
  rw [hp] at hfst
  unfold get
  split
  · next entries hg =>
    rw [hg] at hfst
    cases hfst
  · next entry' entries hg =>
    rw [hg] at hfst
    cases hfst
    dsimp only
    rw [if_neg (Nat.not_le.mpr hlt)]

/-- 引ける項目が無ければ miss である。 -/
theorem get_miss {c : Cache lru} {key : CacheKey} (now : Nat) (id : UInt16)
    (hp : lru.peek c.entries key = none) : (c.get now key id).1 = none := by
  rcases get_spec c now key id with ⟨entry, he, _⟩ | hnone
  · rw [hp] at he
    cases he
  · exact hnone

/-- `get` の後に引けるものは、前から引けたものである。 -/
theorem peek_of_get {c : Cache lru} {now : Nat} {key k : CacheKey} {id : UInt16} {e : CacheEntry}
    (h : lru.peek (c.get now key id).2.entries k = some e) : lru.peek c.entries k = some e := by
  have hsnd := lru.peek_get c.entries key k
  unfold get at h
  split at h
  · next entries hg =>
    rw [hg] at hsnd
    rw [← hsnd]; exact h
  · next entry entries hg =>
    rw [hg] at hsnd
    dsimp only at h
    split at h
    · -- 期限切れで消した場合。消した鍵は引けない
      simp only [LruCache.peek_pop] at h
      split at h
      · cases h
      · rw [← hsnd]; exact h
    · rw [← hsnd]; exact h

theorem get_ttl (c : Cache lru) (now : Nat) (key : CacheKey) (id : UInt16) :
    (c.get now key id).2.minTtl = c.minTtl ∧ (c.get now key id).2.maxTtl = c.maxTtl := by
  unfold get
  split
  · exact ⟨rfl, rfl⟩
  · dsimp only
    split <;> exact ⟨rfl, rfl⟩

/-- 作った項目は、その時刻と応答と `response_ttl` からなる。 -/
theorem makeEntry_some {c : Cache lru} {now : Nat} {resp : Message} {e : CacheEntry}
    (h : c.makeEntry now resp = some e) :
    e.response = resp ∧ e.storedAt = now ∧ c.responseTtl resp = some e.ttl := by
  unfold makeEntry at h
  obtain ⟨ttl, ht, he⟩ := Option.map_eq_some_iff.mp h
  subst he
  exact ⟨rfl, rfl, ht⟩

end Cache

/-! ## `response_ttl` -/

/-- 空でなければ最小値がある。 -/
theorem minTtlOf_eq_none_iff (l : List Record) : minTtlOf l = none ↔ l = [] := by
  cases l with
  | nil => simp [minTtlOf]
  | cons r rest =>
    simp only [minTtlOf, reduceCtorEq, iff_false]
    split <;> simp

/-- `minTtlOf` は、ある記録の TTL であり、どの記録の TTL も下回らない。 -/
theorem minTtlOf_spec : ∀ (l : List Record) (n : Nat), minTtlOf l = some n →
    (∃ r ∈ l, r.ttl.toNat = n) ∧ ∀ r ∈ l, n ≤ r.ttl.toNat
  | [], n, h => by simp [minTtlOf] at h
  | r :: rest, n, h => by
    rw [minTtlOf] at h
    split at h
    · next hn =>
      have hrest : rest = [] := (minTtlOf_eq_none_iff rest).mp hn
      subst hrest
      have hrn : r.ttl.toNat = n := Option.some.inj h
      exact ⟨⟨r, by simp, hrn⟩, by simp [hrn]⟩
    · next k hk =>
      obtain ⟨⟨q, hq, hqk⟩, hle⟩ := minTtlOf_spec rest k hk
      have hmin : min r.ttl.toNat k = n := Option.some.inj h
      refine ⟨?_, ?_⟩
      · rcases Nat.le_total r.ttl.toNat k with hrk | hrk
        · exact ⟨r, by simp, by omega⟩
        · exact ⟨q, by simp [hq], by omega⟩
      · intro x hx
        rcases List.mem_cons.mp hx with rfl | hx
        · omega
        · have := hle x hx
          omega

theorem mem_cacheableRecords {m : Message} {r : Record} : r ∈ cacheableRecords m ↔
    (r ∈ m.answers ∨ r ∈ m.authorities ∨ r ∈ m.additionals) ∧ r.recordType ≠ RecordType.OPT := by
  simp only [cacheableRecords, Record.isCacheable, List.mem_filter, List.mem_append, or_assoc,
    bne_iff_ne, ne_eq]

end DnsProxy
