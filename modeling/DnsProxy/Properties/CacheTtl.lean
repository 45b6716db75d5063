import DnsProxy.Main
import DnsProxy.Properties.Cache

/-!
# cache が見せる TTL

hit のたびに、記録の TTL は残り時間の秒数に書き換わる。残り時間は 64 bit の秒数まで取れるのに、
見せる TTL は `as u32` で下の 32 bit だけを残したものである。

そこで、見せる TTL が

* 時間とともに増えず、
* 残りの寿命を超えず、
* 0 になるのは残りが 1 秒を切ったときに限る

こと（`ShownTtlLaw`）は、`--cache-min-ttl` か正の `--cache-max-ttl` が 32 bit に収まるときだけ
成り立つ（`shown_ttl_law_iff`）。記録の TTL は 32 bit なので、寿命が 32 bit を溢れるのは
`--cache-min-ttl` が引き上げたときに限る。
-/

namespace DnsProxy

open Infra

/-! ## 仕様の語彙 -/

/-- `log` の中に、項目 `entry` を溜めてから `elapsed` 後に引いて `ans` を返した記録がある。 -/
def HitOf (log : List LogEntry) (entry : CacheEntry) (elapsed : Duration) (ans : Message) : Prop :=
  ∃ newer older req key req' key' t, log = newer ++ .served req ans t :: older ∧
    cacheKey req = some key ∧ lastStored key older = some (req', key', entry) ∧
    elapsed = t - entry.storedAt

/-- 見せる TTL は残りの寿命を超えず、0 になるのは残りが 1 秒を切ったときに限る。 -/
def WithinLifetime (entry : CacheEntry) (elapsed : Duration) (ans : Message) : Prop :=
  ∀ r, NonOptRecord ans r →
    r.ttl.toNat ≤ Duration.asSecs (entry.ttl - elapsed) ∧
    (r.ttl = 0 → entry.ttl - elapsed < Duration.fromSecs 1)

/-- 同じ項目への二つの hit では、後の TTL が前の TTL を超えず、どちらも残りの寿命の中にある。 -/
def ShownTtlLaw (log : List LogEntry) : Prop :=
  ∀ entry e₁ e₂ ans₁ ans₂, HitOf log entry e₁ ans₁ → HitOf log entry e₂ ans₂ → e₁ ≤ e₂ →
    (∀ r₁ r₂, NonOptRecord ans₁ r₁ → NonOptRecord ans₂ r₂ → r₂.ttl ≤ r₁.ttl) ∧
    WithinLifetime entry e₁ ans₁ ∧ WithinLifetime entry e₂ ans₂

/-- 溜まりうる応答がある。question の一つの要求に、OPT でない記録を持つ応答が返る。 -/
def SomethingCacheable (clients : Message → Prop)
    (inner : Message → Except DohError Message → Prop) : Prop :=
  ∃ req m r, clients req ∧ req.queries.length = 1 ∧ inner req (.ok m) ∧ NonOptRecord m r

/-! ## hit の記録 -/

/-- 時刻 `t` に `req` へ返した `ans` は、最後に溜めた項目の TTL を残り秒数に替えたものである。 -/
def ServedFrom (older : List LogEntry) (req ans : Message) (t : Nat) : Prop :=
  ∃ key req' key' entry, cacheKey req = some key ∧
    lastStored key older = some (req', key', entry) ∧ t - entry.storedAt < entry.ttl ∧
    ans = entry.response.served req.metadata.id
      (Cache.remainingSecs entry.ttl (t - entry.storedAt))

/-- どの hit の記録も `ServedFrom`。 -/
def AllServedFrom : List LogEntry → Prop
  | [] => True
  | .served req ans t :: older => ServedFrom older req ans t ∧ AllServedFrom older
  | _ :: older => AllServedFrom older

theorem AllServedFrom.tail {l : LogEntry} {older : List LogEntry}
    (h : AllServedFrom (l :: older)) : AllServedFrom older := by
  cases l with
  | returned req resp => exact h
  | stored req key entry => exact h
  | served req ans t => exact h.2

theorem AllServedFrom.split : ∀ (newer : List LogEntry) {older : List LogEntry},
    AllServedFrom (newer ++ older) → AllServedFrom older
  | [], _, h => h
  | _ :: rest, _, h => AllServedFrom.split rest h.tail

section

variable {lru : LruCache CacheKey CacheEntry} {opts : CacheOptions} {clients : Message → Prop}
  {inner : Message → Except DohError Message → Prop}

theorem AllServedFrom.lookupStep {s : Sys lru} (h : AllServedFrom s.log)
    (hi : CacheInv opts inner s) (i : Nat) (req : Message) :
    AllServedFrom (s.lookupStep i req).log := by
  unfold Sys.lookupStep
  split
  · exact h
  · next key hkey =>
    have hget := Cache.get_spec s.cache s.now key req.metadata.id
    split
    · next resp cache hg =>
      rw [hg] at hget
      rcases hget with ⟨entry, hpeek, hfresh, hresp⟩ | hnone
      · obtain ⟨req', key', hlast⟩ := hi.entries key entry hpeek
        exact ⟨⟨key, req', key', entry, hkey, hlast, hfresh, Option.some.inj hresp⟩, h⟩
      · cases hnone
    · exact h

theorem AllServedFrom.replyStep {s : Sys lru} (h : AllServedFrom s.log) (i : Nat) (req : Message)
    (key : Option CacheKey) (r : Except DohError Message) :
    AllServedFrom (s.replyStep i req key r).log := by
  unfold Sys.replyStep
  cases r with
  | error e => exact h
  | ok resp =>
    cases key with
    | none => exact h
    | some key =>
      dsimp only
      split
      · exact h
      · exact h

/-- 記録が増えるのは引いたとき・返ったとき・溜めたときで、hit の記録は引いたときにだけ付く。 -/
theorem AllServedFrom.step {s s' : Sys lru} {e : Event} (h : AllServedFrom s.log)
    (hi : CacheInv opts inner s) (hs : s.step e = some s') : AllServedFrom s'.log := by
  rcases Sys.step_cases hs with ⟨i, req, rfl, _, rfl⟩ | ⟨i, req, rfl, _, rfl⟩ |
    ⟨i, req, key, r, rfl, _, rfl⟩ | ⟨i, req, key, entry, rfl, _, rfl⟩ | ⟨d, rfl, rfl⟩
  · exact h
  · exact h.lookupStep hi i req
  · exact h.replyStep i req key r
  · exact h
  · exact h

/-- 到達できる状態の hit の記録は、どれも `ServedFrom`。 -/
theorem allServedFrom_reach {s : Sys lru} (h : (cacheMachine lru opts clients inner).Reach s) :
    AllServedFrom s.log := by
  have hboth : CacheInv opts inner s ∧ AllServedFrom s.log := by
    induction h with
    | init => exact ⟨cacheInv_init, trivial⟩
    | step _ ha hs ih => exact ⟨ih.1.step ha hs, ih.2.step ih.1 hs⟩
  exact hboth.2

/-- **hit で見せるものは、引いた項目だけで決まる。** -/
theorem hitOf_reach {s : Sys lru} (h : (cacheMachine lru opts clients inner).Reach s)
    {entry : CacheEntry} {elapsed : Duration} {ans : Message} (hhit : HitOf s.log entry elapsed ans) :
    HasResponseTtl opts entry.response entry.ttl ∧ SomethingCacheable clients inner ∧
      ∃ id, ans = entry.response.served id (Cache.remainingSecs entry.ttl elapsed) := by
  obtain ⟨newer, older, req, key, req', key', t, hlog, hkey, hlast, rfl⟩ := hhit
  obtain ⟨hstored, _⟩ := lastStored_mem hlast
  have hall := allServedFrom_reach h
  have hok := (cacheInv_reach h).log
  rw [hlog] at hall hok
  obtain ⟨⟨key₀, req₀, key₀', entry₀, hkey₀, hlast₀, _, hans⟩, _⟩ :=
    AllServedFrom.split newer hall
  -- 鍵も最後に溜めた項目も一つに決まる
  rw [hkey] at hkey₀
  cases hkey₀
  rw [hlast] at hlast₀
  cases hlast₀
  have hgood := LogOk.stored_mem (LogOk.split newer hok).tail hstored
  have hclient : clients req' := by
    refine (resultInv_reach h).stored req' key' entry ?_
    rw [hlog]
    exact List.mem_append_right _ (List.mem_cons_of_mem _ hstored)
  obtain ⟨n, ⟨r, hr, _⟩, _⟩ := hgood.ttl
  exact ⟨hgood.ttl, ⟨req', entry.response, r, hclient,
    (cacheKey_isSome_iff req').mp ⟨key', hgood.key⟩, hgood.inner, hr⟩, _, hans⟩

end

/-! ## 見せる TTL -/

theorem isCacheable_withTtl (n : UInt32) (r : Record) :
    (r.withTtl n).isCacheable = r.isCacheable := by
  unfold Record.withTtl
  split
  · rfl
  · rfl

/-- 書き換えた応答の OPT でない記録は、元の応答のそれを一つずつ書き換えたものである。 -/
theorem cacheableRecords_served (m : Message) (id : UInt16) (n : UInt32) :
    cacheableRecords (m.served id n) = (cacheableRecords m).map (Record.withTtl n) := by
  have hkind : Record.isCacheable ∘ Record.withTtl n = Record.isCacheable :=
    funext (isCacheable_withTtl n)
  unfold cacheableRecords Message.served
  dsimp only
  rw [← List.map_append, ← List.map_append, List.filter_map, hkind]

/-- 書き換えた応答の、OPT でない記録の TTL は、すべて書き込んだ値である。 -/
theorem ttl_of_served {m : Message} {id : UInt16} {n : UInt32} {r : Record}
    (h : NonOptRecord (m.served id n) r) : r.ttl = n := by
  rw [nonOptRecord_iff, cacheableRecords_served] at h
  obtain ⟨q, hq, rfl⟩ := List.mem_map.mp h
  have hc : q.isCacheable = true := (List.mem_filter.mp hq).2
  unfold Record.withTtl
  rw [if_pos hc]

/-- 元の応答に OPT でない記録があれば、書き換えた応答にもある。 -/
theorem nonOptRecord_served {m : Message} {r : Record} (h : NonOptRecord m r) (id : UInt16)
    (n : UInt32) : NonOptRecord (m.served id n) (r.withTtl n) := by
  rw [nonOptRecord_iff] at h ⊢
  rw [cacheableRecords_served]
  exact List.mem_map_of_mem h

/-- 寿命が 32 bit の秒数に収まれば、`as u32` は何も落とさない。 -/
theorem remainingSecs_toNat {ttl : Nat} (h : ttl < Duration.fromSecs 4294967296) (elapsed : Nat) :
    (Cache.remainingSecs ttl elapsed).toNat = Duration.asSecs (ttl - elapsed) := by
  have hlt : Duration.asSecs (ttl - elapsed) < 4294967296 :=
    Nat.div_lt_of_lt_mul (by unfold Duration.fromSecs at h; omega)
  unfold Cache.remainingSecs
  rw [UInt32.toNat_ofNat']
  exact Nat.mod_eq_of_lt hlt

theorem lt_one_of_asSecs_eq_zero {d : Nat} (h : Duration.asSecs d = 0) :
    d < Duration.fromSecs 1 := by
  unfold Duration.asSecs at h
  unfold Duration.fromSecs
  omega

/-- 残りがちょうど 2³² 秒なら、見せる TTL は 0 である。 -/
theorem remainingSecs_wrap {ttl : Duration} (h : Duration.fromSecs 4294967296 ≤ ttl) :
    Cache.remainingSecs ttl (ttl - Duration.fromSecs 4294967296) = 0 := by
  have hrem : ttl - (ttl - Duration.fromSecs 4294967296) = Duration.fromSecs 4294967296 :=
    Nat.sub_sub_self h
  unfold Cache.remainingSecs
  rw [hrem]
  decide

/-- 寿命が 32 bit に収まる項目では、見せる TTL は残りの寿命の中にある。 -/
theorem withinLifetime_of_lt {entry : CacheEntry} (h : entry.ttl < Duration.fromSecs 4294967296)
    (elapsed : Duration) (id : UInt16) :
    WithinLifetime entry elapsed
      (entry.response.served id (Cache.remainingSecs entry.ttl elapsed)) := by
  intro r hr
  have hsecs := remainingSecs_toNat h elapsed
  rw [ttl_of_served hr]
  refine ⟨Nat.le_of_eq hsecs, ?_⟩
  intro hzero
  rw [hzero, UInt32.toNat_zero] at hsecs
  exact lt_one_of_asSecs_eq_zero hsecs.symm

/-! ## 寿命の大きさ -/

theorem Duration.fromSecs_lt_iff {a b : Nat} :
    Duration.fromSecs a < Duration.fromSecs b ↔ a < b :=
  Nat.mul_lt_mul_right (by decide)

theorem Duration.fromSecs_le_iff {a b : Nat} :
    Duration.fromSecs a ≤ Duration.fromSecs b ↔ a ≤ b :=
  Nat.mul_le_mul_right_iff (by decide)

/-- `--cache-min-ttl` か正の `--cache-max-ttl` が 32 bit に収まる。 -/
def TtlFits (cacheMinTtl cacheMaxTtl : UInt64) : Prop :=
  cacheMinTtl.toNat < 4294967296 ∨ 0 < cacheMaxTtl.toNat ∧ cacheMaxTtl.toNat < 4294967296

/-- `main` が作る設定の内訳。 -/
theorem mainCacheOpts_some {cache : Bool} {size cacheMinTtl cacheMaxTtl : UInt64}
    {opts : CacheOptions}
    (h : mainCacheOpts cache size cacheMinTtl cacheMaxTtl = .ok (some opts)) :
    opts.minTtl = Duration.fromSecs cacheMinTtl.toNat ∧
      opts.maxTtl = if 0 < cacheMaxTtl.toNat then some (Duration.fromSecs cacheMaxTtl.toNat)
        else none := by
  unfold mainCacheOpts at h
  split at h
  · split at h
    · cases h
      exact ⟨rfl, rfl⟩
    · cases h
  · cases h

section

variable {cache : Bool} {size cacheMinTtl cacheMaxTtl : UInt64} {opts : CacheOptions}

/-- OPT でない記録があれば、応答には寿命がある。 -/
theorem exists_responseTtl (opts : CacheOptions) {m : Message} {r : Record}
    (h : NonOptRecord m r) : ∃ ttl, HasResponseTtl opts m ttl := by
  cases hr : (Cache.new (Lru.cache _ _) opts).responseTtl m with
  | none => exact absurd h ((responseTtl_eq_none_iff _ m).mp hr r)
  | some ttl => exact ⟨ttl, hasResponseTtl_of_responseTtl rfl rfl hr⟩

/-- 収まる設定なら、どの応答の寿命も 2³² 秒に届かない。 -/
theorem lifetime_lt_of_fits
    (hopts : mainCacheOpts cache size cacheMinTtl cacheMaxTtl = .ok (some opts))
    (hfit : TtlFits cacheMinTtl cacheMaxTtl) {m : Message} {ttl : Duration}
    (h : HasResponseTtl opts m ttl) : ttl < Duration.fromSecs 4294967296 := by
  obtain ⟨hmin, hmax⟩ := mainCacheOpts_some hopts
  obtain ⟨n, ⟨r, _, hrn⟩, _, rfl⟩ := h
  have hn : n < 4294967296 := hrn ▸ r.ttl.toNat_lt
  rw [hmin, hmax]
  rcases hfit with hlow | ⟨hpos, hhigh⟩
  · have hraised : max (Duration.fromSecs cacheMinTtl.toNat) (Duration.fromSecs n)
        < Duration.fromSecs 4294967296 :=
      max_lt (Duration.fromSecs_lt_iff.mpr hlow) (Duration.fromSecs_lt_iff.mpr hn)
    by_cases hp : 0 < cacheMaxTtl.toNat
    · rw [if_pos hp]
      exact min_lt_of_right_lt hraised
    · rw [if_neg hp]
      exact hraised
  · rw [if_pos hpos]
    exact min_lt_of_left_lt (Duration.fromSecs_lt_iff.mpr hhigh)

/-- 収まらない設定では、寿命は応答によらず `min_ttl` から決まり、2³² 秒以上になる。 -/
theorem lifetime_of_not_fits
    (hopts : mainCacheOpts cache size cacheMinTtl cacheMaxTtl = .ok (some opts))
    (hfit : ¬ TtlFits cacheMinTtl cacheMaxTtl) {m : Message} {ttl : Duration}
    (h : HasResponseTtl opts m ttl) :
    ttl = cutTtl opts.maxTtl opts.minTtl ∧ Duration.fromSecs 4294967296 ≤ ttl := by
  obtain ⟨hmin, hmax⟩ := mainCacheOpts_some hopts
  obtain ⟨n, ⟨r, _, hrn⟩, _, rfl⟩ := h
  have hn : n < 4294967296 := hrn ▸ r.ttl.toNat_lt
  unfold TtlFits at hfit
  have hlow : 4294967296 ≤ cacheMinTtl.toNat := by omega
  -- 記録の TTL は 32 bit なので、下限を超えられない
  have hraise : max opts.minTtl (Duration.fromSecs n) = opts.minTtl := by
    rw [hmin]
    exact max_eq_left (Duration.fromSecs_le_iff.mpr (by omega))
  rw [hraise]
  refine ⟨rfl, ?_⟩
  rw [hmin, hmax]
  by_cases hp : 0 < cacheMaxTtl.toNat
  · rw [if_pos hp]
    exact le_min (Duration.fromSecs_le_iff.mpr (by omega)) (Duration.fromSecs_le_iff.mpr hlow)
  · rw [if_neg hp]
    exact Duration.fromSecs_le_iff.mpr hlow

/-! ## 見せる TTL の法則 -/

variable {lru : LruCache CacheKey CacheEntry} {clients : Message → Prop}
  {inner : Message → Except DohError Message → Prop}

/-- 収まる設定なら、どの hit でも見せる TTL は残り秒数そのものである。 -/
theorem shownTtlLaw_of_fits
    (hopts : mainCacheOpts cache size cacheMinTtl cacheMaxTtl = .ok (some opts))
    (hfit : SomethingCacheable clients inner → TtlFits cacheMinTtl cacheMaxTtl) {s : Sys lru}
    (hreach : (cacheMachine lru opts clients inner).Reach s) : ShownTtlLaw s.log := by
  intro entry e₁ e₂ ans₁ ans₂ h₁ h₂ hle
  obtain ⟨httl, hsome, id₁, rfl⟩ := hitOf_reach hreach h₁
  obtain ⟨_, _, id₂, rfl⟩ := hitOf_reach hreach h₂
  have hlt := lifetime_lt_of_fits hopts (hfit hsome) httl
  refine ⟨?_, withinLifetime_of_lt hlt e₁ id₁, withinLifetime_of_lt hlt e₂ id₂⟩
  intro r₁ r₂ hr₁ hr₂
  rw [ttl_of_served hr₁, ttl_of_served hr₂, UInt32.le_iff_toNat_le, remainingSecs_toNat hlt,
    remainingSecs_toNat hlt]
  exact Nat.div_le_div_right (Nat.sub_le_sub_left hle _)

/-- 収まらない設定では、溜まる応答の残りがまだ長いのに TTL 0 を見せる hit がある。 -/
theorem reach_zero_shown
    (hopts : mainCacheOpts cache size cacheMinTtl cacheMaxTtl = .ok (some opts))
    (hfit : ¬ TtlFits cacheMinTtl cacheMaxTtl) {req m : Message} {r : Record} (hc : clients req)
    (hone : req.queries.length = 1) (hm : inner req (.ok m)) (hr : NonOptRecord m r) {d : Duration}
    (hlong : Duration.fromSecs 1 ≤ cutTtl opts.maxTtl opts.minTtl - d)
    (hzero : Cache.remainingSecs (cutTtl opts.maxTtl opts.minTtl) d = 0) :
    ∃ s older ans q, (cacheMachine lru opts clients inner).Reach s ∧
      s.log = .served req ans d :: older ∧ NonOptRecord ans q ∧ q.ttl = 0 ∧
      ¬ ShownTtlLaw s.log := by
  obtain ⟨ttl, httl⟩ := exists_responseTtl opts hr
  obtain ⟨rfl, _⟩ := lifetime_of_not_fits hopts hfit httl
  have hd : d < cutTtl opts.maxTtl opts.minTtl :=
    Nat.lt_of_sub_pos (Nat.lt_of_lt_of_le (by decide) hlong)
  obtain ⟨key, hk⟩ := (cacheKey_isSome_iff req).mpr hone
  obtain ⟨s, older, hreach, hlog, _⟩ :=
    reach_hit lru inner clients hc hc hm ⟨key, key, hk, hk, BEq.rfl⟩ httl hd
  have hq := nonOptRecord_served hr req.metadata.id
    (Cache.remainingSecs (cutTtl opts.maxTtl opts.minTtl) d)
  have hqz := (ttl_of_served hq).trans hzero
  refine ⟨s, older, _, _, hreach, hlog, hq, hqz, ?_⟩
  intro hlaw
  have hall := allServedFrom_reach hreach
  rw [hlog] at hall
  obtain ⟨⟨key', req', key'', entry, hk', hlast, _, _⟩, _⟩ := hall
  have hhit : HitOf s.log entry (d - entry.storedAt) _ :=
    ⟨[], older, req, key', req', key'', d, hlog, hk', hlast, rfl⟩
  obtain ⟨hsame, _⟩ := lifetime_of_not_fits hopts hfit (hitOf_reach hreach hhit).1
  have hshort := ((hlaw entry _ _ _ _ hhit hhit (Nat.le_refl _)).2.1 _ hq).2 hqz
  rw [hsame] at hshort
  have hless : cutTtl opts.maxTtl opts.minTtl - d
      ≤ cutTtl opts.maxTtl opts.minTtl - (d - entry.storedAt) :=
    Nat.sub_le_sub_left (Nat.sub_le _ _) _
  exact absurd (Nat.lt_of_le_of_lt hless hshort) (Nat.not_lt.mpr hlong)

/--
**見せる TTL が時間とともに減り、残りの寿命を正しく表すのは、`--cache-min-ttl` か正の
`--cache-max-ttl` が 2³² 未満のとき、かつそのときに限る。**

左辺は到達できるどの状態のどの二つの hit についても言う。溜まる応答が一つも無い環境では hit も
無いので、右辺はその場合を除いて言う。
-/
theorem shown_ttl_law_iff
    (hopts : mainCacheOpts cache size cacheMinTtl cacheMaxTtl = .ok (some opts)) :
    (∀ s, (cacheMachine lru opts clients inner).Reach s → ShownTtlLaw s.log) ↔
      (SomethingCacheable clients inner → TtlFits cacheMinTtl cacheMaxTtl) := by
  constructor
  · rintro hall ⟨req, m, r, hc, hone, hm, hr⟩
    by_contra hfit
    obtain ⟨ttl, httl⟩ := exists_responseTtl opts hr
    obtain ⟨rfl, hlarge⟩ := lifetime_of_not_fits hopts hfit httl
    obtain ⟨s, _, _, _, hreach, _, _, _, hbad⟩ :=
      reach_zero_shown hopts hfit hc hone hm hr
        (by rw [Nat.sub_sub_self hlarge]; decide) (remainingSecs_wrap hlarge)
    exact hbad (hall s hreach)
  · intro hfit s hreach
    exact shownTtlLaw_of_fits hopts hfit hreach

end

/-! ### 具体的な設定 -/

/-- `--cache --cache-min-ttl n` の設定。ほかの引数は既定のままである。 -/
def minTtlOptions (n : UInt64) : CacheOptions :=
  { size := 1000, size_pos := by decide, minTtl := Duration.fromSecs n.toNat, maxTtl := none }

theorem mainCacheOpts_minTtl (n : UInt64) :
    mainCacheOpts true 1000 n 0 = .ok (some (minTtlOptions n)) := rfl

/-- どの要求にも、TTL 300 の A の記録を一つ返す handler。 -/
def recordHandler (_req : Message) (r : Except DohError Message) : Prop :=
  r = .ok (sampleResponse (sampleRequest 1 [97]) false 300)

/-- 下限 60 秒なら、到達できるどの状態でも法則が成り立つ。 -/
theorem shown_ttl_law_minute :
    mainCacheOpts true 1000 60 0 = .ok (some (minTtlOptions 60)) ∧
      ∀ s, (cacheMachine sampleLru (minTtlOptions 60) (fun _ => True) recordHandler).Reach s →
        ShownTtlLaw s.log :=
  ⟨mainCacheOpts_minTtl 60,
    (shown_ttl_law_iff (mainCacheOpts_minTtl 60)).mpr fun _ => .inl (by decide)⟩

/-- 下限 2³² + 1 秒では、溜めて 0.5 秒後の hit が TTL 0 を見せる。残りは 2³² 秒を超える。 -/
theorem shown_ttl_wraps :
    mainCacheOpts true 1000 4294967297 0 = .ok (some (minTtlOptions 4294967297)) ∧
    ∃ s older ans q,
      (cacheMachine sampleLru (minTtlOptions 4294967297) (fun _ => True) recordHandler).Reach s ∧
      s.log = .served (sampleRequest 1 [97]) ans 500000000 :: older ∧ NonOptRecord ans q ∧
      q.ttl = 0 ∧ ¬ ShownTtlLaw s.log := by
  have hrec : NonOptRecord (sampleResponse (sampleRequest 1 [97]) false 300)
      { name := ⟨[[97]], true⟩, ttl := 300, data := .a 0x01020304 } :=
    ⟨.inl List.mem_cons_self, by decide⟩
  have hfit : ¬ TtlFits 4294967297 0 := by
    unfold TtlFits
    decide
  have hhandler : recordHandler (sampleRequest 1 [97])
      (.ok (sampleResponse (sampleRequest 1 [97]) false 300)) := rfl
  refine ⟨mainCacheOpts_minTtl _, ?_⟩
  exact reach_zero_shown (mainCacheOpts_minTtl _) hfit trivial rfl hhandler hrec
    (d := 500000000) (by decide) (by decide)

end DnsProxy
