import DnsProxy.Properties.Cache

/-!
# cache の答えが要求と食い違う場合

hit で書き換えるのは ID と TTL だけで、残りは溜めた応答の写しである。そのため、
溜めたときの要求にしか合わないものがそのまま別の要求へ渡ることがある。

* 鍵は名前の大小を無視するが、question は元の要求の綴りのままである
* `response_ttl` は TC を見ないので、切り詰められた応答も溜まる

どちらも、いつ起こらないかを「到達できるどの状態でも正しい」ことと同値な条件で言い切る。
条件は、届きうる要求（`clients`）と内側の handler（`inner`）だけについて述べる。
-/

namespace DnsProxy

open Infra

variable {lru : LruCache CacheKey CacheEntry} {opts : CacheOptions} {clients : Message → Prop}
  {inner : Message → Except DohError Message → Prop}

/-- 応答 `m` は寿命が正で、溜めれば一度は引ける。 -/
def Storable (opts : CacheOptions) (m : Message) : Prop :=
  ∃ ttl, HasResponseTtl opts m ttl ∧ 0 < ttl

/-! ## hit の出所 -/

/-- cache から答えた記録には、等しい鍵の要求に内側の handler が返した応答という出所がある。 -/
theorem served_origin {s : Sys lru} (h : (cacheMachine lru opts clients inner).Reach s)
    {req ans : Message} {t : Nat} (hlog : LogEntry.served req ans t ∈ s.log) :
    ∃ req' m, clients req' ∧ SameKey req' req ∧ inner req' (.ok m) ∧ Storable opts m ∧
      SameButIdAndTtl m ans req.metadata.id := by
  obtain ⟨newer, older, hsplit⟩ := List.append_of_mem hlog
  have hok := (cacheInv_reach h).log
  rw [hsplit] at hok
  obtain ⟨⟨req', m, stamp, hhit⟩, _⟩ := LogOk.split newer hok
  obtain ⟨key, key', entry, hk, hk', hkk, hlast, _, _⟩ := hhit.latest
  have hstored : LogEntry.stored req' key' entry ∈ s.log := by
    rw [hsplit]
    exact List.mem_append_right _ (List.mem_cons_of_mem _ (lastStored_mem hlast).1)
  obtain ⟨ttl, httl, hlt⟩ := hhit.fresh
  exact ⟨req', m, (resultInv_reach h).stored req' key' entry hstored, ⟨key', key, hk', hk, hkk⟩,
    hhit.returned.2, ⟨ttl, httl, Nat.zero_lt_of_lt hlt⟩, hhit.same⟩

/-- hit で終わった要求の答えの出所。 -/
theorem hit_origin {s : Sys lru} (h : (cacheMachine lru opts clients inner).Reach s) {i : Nat}
    {req resp : Message} (ht : s.tasks i = some (.finished req (.ok resp) true)) :
    ∃ req' m, clients req' ∧ SameKey req' req ∧ inner req' (.ok m) ∧ Storable opts m ∧
      SameButIdAndTtl m resp req.metadata.id := by
  obtain ⟨ans, t, hr, hlog⟩ := (resultInv_reach h).hit i req _ ht
  cases hr
  exact served_origin h hlog

variable (lru clients inner) in
/-- 溜まる応答は、等しい鍵のどの要求にも渡りうる。 -/
theorem hit_reachable {first second m : Message} (hc : clients first) (hc' : clients second)
    (hkey : SameKey first second) (hm : inner first (.ok m)) (hst : Storable opts m) :
    ∃ s n, (cacheMachine lru opts clients inner).Reach s ∧
      s.tasks 1 = some (.finished second (.ok (m.served second.metadata.id n)) true) := by
  obtain ⟨ttl, httl, hpos⟩ := hst
  obtain ⟨s, _, hreach, _, ht⟩ := reach_hit lru inner clients hc hc' hm hkey httl hpos
  exact ⟨s, _, hreach, ht⟩

/-! ## question の綴り -/

/-- 内側の handler は、要求の ID と question を応答へ写す。 -/
def CopiesQuestion (inner : Message → Except DohError Message → Prop) : Prop :=
  ∀ req m, inner req (.ok m) → m.metadata.id = req.metadata.id ∧ m.queries = req.queries

/--
**どの答えも要求の question をそのまま載せるのは、鍵の等しい要求が綴りまで等しいとき、
かつそのときに限る。**

左辺は hit と miss の両方を含む。右辺の `first` は、溜まる応答を受け取った要求である。
-/
theorem response_question_iff (hcopy : CopiesQuestion inner) :
    (∀ s, (cacheMachine lru opts clients inner).Reach s →
      ∀ i req resp hit, s.tasks i = some (.finished req (.ok resp) hit) →
        resp.queries = req.queries) ↔
    ∀ first second m, clients first → clients second → SameKey first second →
      inner first (.ok m) → Storable opts m → second.queries = first.queries := by
  constructor
  · intro hall first second m hc hc' hkey hm hst
    obtain ⟨s, n, hreach, ht⟩ := hit_reachable lru clients inner hc hc' hkey hm hst
    have hq := hall s hreach 1 second _ true ht
    rw [← hq]
    exact (hcopy first m hm).2
  · intro hspell s hreach i req resp hit ht
    cases hit with
    | false => exact (hcopy req resp ((resultInv_reach hreach).miss i req _ ht)).2
    | true =>
      obtain ⟨req', m, hc', hkey, hm, hst, hsame⟩ := hit_origin hreach ht
      have hc : clients req := (resultInv_reach hreach).fromClient i _ ht
      rw [hsame.queries, (hcopy req' m hm).2, hspell req' req m hc' hc hkey hm hst]

/-- 要求の ID と question を写し、TTL 300 の記録を付けて返す handler。 -/
def copyingHandler (truncation : Bool) (req : Message) (r : Except DohError Message) : Prop :=
  r = .ok (sampleResponse req truncation 300)

theorem copyingHandler_copies (truncation : Bool) : CopiesQuestion (copyingHandler truncation) := by
  intro req m hm
  cases hm
  exact ⟨rfl, rfl⟩

theorem sampleResponse_storable (id : UInt16) (label : Label) (truncation : Bool) :
    Storable sampleOptions (sampleResponse (sampleRequest id label) truncation 300) :=
  ⟨_, sampleResponse_ttl _ ⟨rfl, rfl⟩ truncation 300, by decide⟩

/-- 一つの綴りしか届かなければ、どの答えも要求の question をそのまま載せる。 -/
theorem response_question_iff_one_spelling :
    CopiesQuestion (copyingHandler false) ∧
    ∀ s, (cacheMachine sampleLru sampleOptions (fun req => req = sampleRequest 1 [97])
        (copyingHandler false)).Reach s →
      ∀ i req resp hit, s.tasks i = some (.finished req (.ok resp) hit) →
        resp.queries = req.queries := by
  refine ⟨copyingHandler_copies false, (response_question_iff (copyingHandler_copies false)).mpr ?_⟩
  intro first second m hc hc' _ _ _
  rw [hc, hc']

/-- `a.` への応答が溜まると、`A.` を訊いた要求に `a.` の question が返る。 -/
theorem hit_question_spelling :
    CopiesQuestion (copyingHandler false) ∧
    ∃ s resp, (cacheMachine sampleLru sampleOptions (fun _ => True) (copyingHandler false)).Reach s ∧
      s.tasks 1 = some (.finished (sampleRequest 2 [65]) (.ok resp) true) ∧
      resp.queries ≠ (sampleRequest 2 [65]).queries := by
  have hkey : SameKey (sampleRequest 1 [97]) (sampleRequest 2 [65]) := ⟨_, _, rfl, rfl, by decide⟩
  obtain ⟨s, n, hreach, ht⟩ := hit_reachable sampleLru (fun _ => True) (copyingHandler false)
    trivial trivial hkey rfl (sampleResponse_storable 1 [97] false)
  refine ⟨copyingHandler_copies false, s, _, hreach, ht, ?_⟩
  show (sampleRequest 1 [97]).queries ≠ (sampleRequest 2 [65]).queries
  decide

/-! ## TC の立った応答 -/

theorem SameKey.refl_of_length {req : Message} (h : req.queries.length = 1) : SameKey req req := by
  obtain ⟨key, hk⟩ := (cacheKey_isSome_iff req).mpr h
  exact ⟨key, key, hk, hk, BEq.rfl⟩

/--
**cache の答えに TC が立たないのは、溜まりうる応答のどれにも TC が立っていないとき、
かつそのときに限る。**

UDP の上流は TC の立った応答を記録付きで返すことがあり、cache はそれを見ない。
-/
theorem hit_truncation_iff :
    (∀ s, (cacheMachine lru opts clients inner).Reach s →
      ∀ i req resp, s.tasks i = some (.finished req (.ok resp) true) →
        resp.metadata.truncation = false) ↔
    ∀ req m, clients req → req.queries.length = 1 → inner req (.ok m) → Storable opts m →
      m.metadata.truncation = false := by
  constructor
  · intro hall req m hc hone hm hst
    obtain ⟨s, n, hreach, ht⟩ :=
      hit_reachable lru clients inner hc hc (SameKey.refl_of_length hone) hm hst
    have htc := hall s hreach 1 req _ ht
    exact htc
  · intro hclear s hreach i req resp ht
    obtain ⟨req', m, hc', ⟨key, _, hk, _, _⟩, hm, hst, hsame⟩ := hit_origin hreach ht
    rw [hsame.metadata]
    exact hclear req' m hc' ((cacheKey_isSome_iff req').mp ⟨key, hk⟩) hm hst

/-- TC の立った応答が溜まり、同じ問い合わせを繰り返すとそれが返る。 -/
theorem hit_truncated :
    ∃ s resp, (cacheMachine sampleLru sampleOptions (fun _ => True) (copyingHandler true)).Reach s ∧
      s.tasks 1 = some (.finished (sampleRequest 1 [97]) (.ok resp) true) ∧
      resp.metadata.truncation = true := by
  obtain ⟨s, n, hreach, ht⟩ := hit_reachable sampleLru (fun _ => True) (copyingHandler true)
    trivial trivial (SameKey.refl_of_length rfl) rfl (sampleResponse_storable 1 [97] true)
  exact ⟨s, _, hreach, ht, rfl⟩

end DnsProxy
