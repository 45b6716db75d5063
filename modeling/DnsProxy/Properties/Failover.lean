import DnsProxy.Properties.UpstreamParse

/-!
# 上流の選び方と乗り換え

`UpstreamConfig::exchange` は、名前で選んだ一つの組の上流だけを、`ordered` の順に、
最初に成功するまで試す（`exchange_spec`）。選ばれなかった組へ漏れることはない。

試みの成否は、何番目の試みかとどの上流かで勝手に決まるものとする（`outcome`）。
同じ上流が組に二度入っていれば、二度の試みの成否は違ってよい。
cursor は run の間に進むので、設定は「読んだ後、何度か並べた後のもの」（`after`）を考える。
-/

namespace DnsProxy

open Infra

variable {υ : Type}

/-! ## 並べ替え -/

/-- **どの mode でも、並べ替えは組の上流を増やしも減らしもしない。** -/
theorem UpstreamGroup.ordered_perm (g : UpstreamGroup υ) (mode : UpstreamMode) (env : OrderEnv υ) :
    (g.ordered mode env).1.Perm g.upstreams := by
  unfold ordered
  cases mode with
  | ordered => exact List.Perm.refl _
  | roundRobin =>
    dsimp only
    split
    · next hlen =>
      rw [List.length_eq_zero_iff] at hlen
      rw [hlen]
    · refine List.perm_append_comm.trans ?_
      rw [List.take_append_drop]
  | loadBalance =>
    dsimp only
    refine ((env.shuffle_perm _).append (List.mergeSort_perm _ _)).trans ?_
    exact List.perm_append_comm.trans (List.filter_append_perm _ _)

/-- 並べ替えで変わるのは cursor だけである。 -/
theorem UpstreamGroup.ordered_upstreams (g : UpstreamGroup υ) (mode : UpstreamMode)
    (env : OrderEnv υ) : (g.ordered mode env).2.upstreams = g.upstreams := by
  unfold ordered
  cases mode with
  | ordered => rfl
  | roundRobin =>
    dsimp only
    split
    · rfl
    · rfl
  | loadBalance => rfl

/-! ## 設定の中の、run で変わらない部分 -/

/-- cursor のほかは同じ設定。 -/
structure SameRules (c c' : UpstreamConfig υ) : Prop where
  mode : c'.mode = c.mode
  keys : ∀ d, (c'.domainUpstreams.lookup d).isSome = (c.domainUpstreams.lookup d).isSome
  upstreams : ∀ ref, (c'.group ref).upstreams = (c.group ref).upstreams

theorem SameRules.refl (c : UpstreamConfig υ) : SameRules c c := ⟨rfl, fun _ => rfl, fun _ => rfl⟩

theorem SameRules.trans {a b c : UpstreamConfig υ} (h : SameRules a b) (h' : SameRules b c) :
    SameRules a c where
  mode := h'.mode.trans h.mode
  keys d := (h'.keys d).trans (h.keys d)
  upstreams ref := (h'.upstreams ref).trans (h.upstreams ref)

namespace UpstreamConfig

/-- loop が domain の組を返したなら、その組は在る。 -/
theorem groupForLoop_domain {c : UpstreamConfig υ} {key : Text} :
    ∀ {fuel : Nat} {suffix : Text}, c.groupForLoop fuel suffix = .domain key →
      (c.domainUpstreams.lookup key).isSome = true := by
  intro fuel
  induction fuel with
  | zero => intro suffix h; cases h
  | succ fuel ih =>
    intro suffix h
    rw [groupForLoop] at h
    split at h
    · next hs =>
      cases h
      exact hs
    · split at h
      · split at h
        · cases h
        · exact ih h
      · cases h

theorem groupFor_domain {c : UpstreamConfig υ} {fqdn key : Text}
    (h : c.groupFor fqdn = .domain key) : (c.domainUpstreams.lookup key).isSome = true := by
  unfold groupFor at h
  split at h
  · cases h
  · exact groupForLoop_domain h

/-- 鍵が同じなら、同じ場所が選ばれる。 -/
theorem groupForLoop_congr {c c' : UpstreamConfig υ} (h : SameRules c c') :
    ∀ (fuel : Nat) (suffix : Text), c'.groupForLoop fuel suffix = c.groupForLoop fuel suffix := by
  intro fuel
  induction fuel with
  | zero => intro suffix; rfl
  | succ fuel ih =>
    intro suffix
    rw [groupForLoop, groupForLoop, h.keys]
    simp only [ih]

theorem isEmpty_entries_iff (c : UpstreamConfig υ) :
    c.domainUpstreams.entries.isEmpty = true ↔
      ∀ d, (c.domainUpstreams.lookup d).isSome = false := by
  rw [List.isEmpty_iff]
  constructor
  · intro h d
    rw [← Bool.not_eq_true, AList.lookup_isSome, AList.mem_keys, AList.keys, h]
    simp
  · intro h
    rw [List.eq_nil_iff_forall_not_mem]
    intro p hp
    have hmem : p.1 ∈ c.domainUpstreams := AList.mem_keys.mpr (List.mem_map_of_mem hp)
    rw [← AList.lookup_isSome, h p.1] at hmem
    cases hmem

theorem groupFor_congr {c c' : UpstreamConfig υ} (h : SameRules c c') (fqdn : Text) :
    c'.groupFor fqdn = c.groupFor fqdn := by
  have hempty : c'.domainUpstreams.entries.isEmpty = c.domainUpstreams.entries.isEmpty := by
    rw [Bool.eq_iff_iff, isEmpty_entries_iff, isEmpty_entries_iff]
    simp only [h.keys]
  unfold groupFor
  rw [hempty]
  simp only [groupForLoop_congr h]

/-- 組を、上流の同じ組に差し替えても規則は変わらない。 -/
theorem setGroup_sameRules (c : UpstreamConfig υ) {ref : GroupRef} {g : UpstreamGroup υ}
    (hg : g.upstreams = (c.group ref).upstreams)
    (hkey : ∀ key, ref = .domain key → (c.domainUpstreams.lookup key).isSome = true) :
    SameRules c (c.setGroup ref g) := by
  cases ref with
  | default =>
    refine ⟨rfl, fun _ => rfl, ?_⟩
    intro r
    cases r with
    | domain d => rfl
    | default => exact hg
  | domain key =>
    have hsome := hkey key rfl
    refine ⟨rfl, ?_, ?_⟩
    · intro d
      by_cases hd : d = key
      · subst hd
        simp only [setGroup, AList.lookup_insert, Option.isSome_some, hsome]
      · simp only [setGroup, AList.lookup_insert_ne hd]
    · intro r
      cases r with
      | default => rfl
      | domain d =>
        by_cases hd : d = key
        · subst hd
          simp only [setGroup, group, AList.lookup_insert, Option.getD_some]
          exact hg
        · simp only [setGroup, group, AList.lookup_insert_ne hd]

/-- 上流を並べる一歩は、規則を変えない。 -/
theorem upstreamsFor_sameRules (c : UpstreamConfig υ) (env : OrderEnv υ) (fqdn : Text) :
    SameRules c (c.upstreamsFor env fqdn).2 :=
  c.setGroup_sameRules (UpstreamGroup.ordered_upstreams _ _ _) fun _ h => groupFor_domain h

/-- 何度か並べた後の設定。どの問い合わせがどの順で並べたかは問わない。 -/
def after (c : UpstreamConfig υ) (past : List (OrderEnv υ × Text)) : UpstreamConfig υ :=
  past.foldl (fun c p => (c.upstreamsFor p.1 p.2).2) c

/-- run の間、規則は変わらない。 -/
theorem after_sameRules (past : List (OrderEnv υ × Text)) :
    ∀ c : UpstreamConfig υ, SameRules c (c.after past) := by
  induction past with
  | nil => exact SameRules.refl
  | cons p rest ih => exact fun c => (c.upstreamsFor_sameRules p.1 p.2).trans (ih _)

/-- **読めた設定の domain の組は空でない。** -/
theorem parsed_group_ne_nil {unprintable : Char → Bool} {parseAnyUpstream : Text → Except Text υ}
    {lines : List Text} {mode : UpstreamMode} {c : UpstreamConfig υ}
    (h : parseWithMode unprintable parseAnyUpstream lines mode = .ok c) {key : Text}
    (hkey : (c.domainUpstreams.lookup key).isSome = true) :
    (c.group (.domain key)).upstreams ≠ [] := by
  have hinv := parseInv_file unprintable parseAnyUpstream lines
  unfold parseWithMode at h
  dsimp only at h
  split at h
  · cases h
    -- 組を作った言及の上流が、その組に入っている
    obtain ⟨m, hm, hd, hb⟩ := (hinv.group.present key).mp hkey
    obtain ⟨t, ht⟩ := (hinv.index.indexed m.upstream).mpr ⟨⟨m, hm, rfl⟩, hb⟩
    have hmem : t ∈ ParseState.domainGroup
        (ParseState.addLines unprintable parseAnyUpstream {} 0 lines) key := by
      rw [hinv.group.domain key, List.mem_filterMap]
      refine ⟨m.upstream, List.mem_flatMap.mpr ⟨m, hm, ?_⟩, ht⟩
      exact List.mem_replicate.mpr ⟨Nat.ne_of_gt (List.count_pos_iff.mpr hd), rfl⟩
    exact List.ne_nil_of_mem hmem
  · cases h

/-- 読めた設定の鍵は `.` だけではない。 -/
theorem parsed_key_ne_dot {unprintable : Char → Bool} {parseAnyUpstream : Text → Except Text υ}
    {lines : List Text} {mode : UpstreamMode} {c : UpstreamConfig υ}
    (h : parseWithMode unprintable parseAnyUpstream lines mode = .ok c) {key : Text}
    (hkey : (c.domainUpstreams.lookup key).isSome = true) : key ≠ ['.'] := by
  have hinv := parseInv_file unprintable parseAnyUpstream lines
  unfold parseWithMode at h
  dsimp only at h
  split at h
  · cases h
    obtain ⟨m, hm, hd, _⟩ := (hinv.group.present key).mp hkey
    obtain ⟨p, _, upstreams, domains, hs, _, _, rfl⟩ := mem_fileMentions.mp hm
    exact hs.domain_ne_dot hd
  · cases h

theorem parseWithMode_mode {unprintable : Char → Bool} {parseAnyUpstream : Text → Except Text υ}
    {lines : List Text} {mode : UpstreamMode} {c : UpstreamConfig υ}
    (h : parseWithMode unprintable parseAnyUpstream lines mode = .ok c) : c.mode = mode := by
  unfold parseWithMode at h
  dsimp only at h
  split at h
  · cases h
    rfl
  · cases h

end UpstreamConfig

/-! ## 乗り換えの loop -/

/-- 試みの成否を `outcome` で決め、触れた上流を順に記録する。 -/
def recordingAttempt (outcome : Nat → TrackedUpstream υ → Except DohError Message)
    (u : TrackedUpstream υ) (_ : Message) :
    StateM (List (TrackedUpstream υ)) (Except DohError Message) :=
  fun contacted => (outcome contacted.length u, contacted ++ [u])

/-- `n` 番目から始めて、並んだ上流がすべて失敗する。 -/
def AllFail (outcome : Nat → TrackedUpstream υ → Except DohError Message) (n : Nat)
    (us : List (TrackedUpstream υ)) : Prop :=
  ∀ k u, us[k]? = some u → ∃ e, outcome (n + k) u = .error e

theorem allFail_cons {outcome : Nat → TrackedUpstream υ → Except DohError Message} {n : Nat}
    {u : TrackedUpstream υ} {us : List (TrackedUpstream υ)} :
    AllFail outcome n (u :: us) ↔
      (∃ e, outcome n u = .error e) ∧ AllFail outcome (n + 1) us := by
  constructor
  · intro h
    refine ⟨h 0 u rfl, ?_⟩
    intro k v hv
    rw [Nat.add_right_comm]
    exact h (k + 1) v hv
  · rintro ⟨h0, h⟩ k v hv
    cases k with
    | zero =>
      cases hv
      exact h0
    | succ k =>
      rw [← Nat.add_assoc, Nat.add_right_comm]
      exact h k v hv

/--
loop の結果。

最初に成功した上流の答えを返してそこで止まるか、すべて失敗して最後の失敗を返すかである。
-/
inductive TryResult (outcome : Nat → TrackedUpstream υ → Except DohError Message) (n : Nat)
    (us : List (TrackedUpstream υ)) (lastErr : Option DohError) :
    Except (Option DohError) Message → List (TrackedUpstream υ) → Prop
  | success (pre : List (TrackedUpstream υ)) (u : TrackedUpstream υ)
      (post : List (TrackedUpstream υ)) {r : Message} (split : us = pre ++ u :: post)
      (fails : AllFail outcome n pre) (ok : outcome (n + pre.length) u = .ok r) :
      TryResult outcome n us lastErr (.ok r) (pre ++ [u])
  | failure (pre : List (TrackedUpstream υ)) (u : TrackedUpstream υ) {e : DohError}
      (split : us = pre ++ [u]) (fails : AllFail outcome n us)
      (last : outcome (n + pre.length) u = .error e) :
      TryResult outcome n us lastErr (.error (some e)) us
  | noUpstreams (nil : us = []) : TryResult outcome n us lastErr (.error lastErr) []

/-- 先頭が失敗したときは、残りの結果に先頭を足したものになる。 -/
theorem TryResult.cons {outcome : Nat → TrackedUpstream υ → Except DohError Message} {n : Nat}
    {u : TrackedUpstream υ} {us : List (TrackedUpstream υ)} {lastErr : Option DohError}
    {e : DohError} (he : outcome n u = .error e) {r : Except (Option DohError) Message}
    {contacted : List (TrackedUpstream υ)}
    (h : TryResult outcome (n + 1) us (some e) r contacted) :
    TryResult outcome n (u :: us) lastErr r (u :: contacted) := by
  cases h with
  | success pre v post split fails ok =>
    rw [Nat.add_assoc, Nat.add_comm 1] at ok
    exact TryResult.success (u :: pre) v post (by rw [split]; rfl)
      (allFail_cons.mpr ⟨⟨e, he⟩, fails⟩) ok
  | failure pre v split fails last =>
    rw [Nat.add_assoc, Nat.add_comm 1] at last
    exact TryResult.failure (u :: pre) v (by rw [split]; rfl)
      (allFail_cons.mpr ⟨⟨e, he⟩, fails⟩) last
  | noUpstreams nil =>
    subst nil
    refine TryResult.failure [] u rfl (allFail_cons.mpr ⟨⟨e, he⟩, ?_⟩) he
    intro k v hv
    simp at hv

/-- **loop は、最初の成功か最後の失敗で終わる。** -/
theorem tryUpstreams_result (outcome : Nat → TrackedUpstream υ → Except DohError Message)
    (req : Message) : ∀ (us : List (TrackedUpstream υ)) (lastErr : Option DohError)
    (before : List (TrackedUpstream υ)), ∃ r contacted,
      (UpstreamConfig.tryUpstreams (m := StateM (List (TrackedUpstream υ)))
        (fun u => recordingAttempt outcome u req) us lastErr) before = (r, before ++ contacted) ∧
      TryResult outcome before.length us lastErr r contacted := by
  intro us
  induction us with
  | nil =>
    intro lastErr before
    exact ⟨.error lastErr, [], by rw [List.append_nil]; rfl, TryResult.noUpstreams rfl⟩
  | cons u us ih =>
    intro lastErr before
    cases ho : outcome before.length u with
    | ok r =>
      refine ⟨.ok r, [u], ?_, TryResult.success [] u us rfl ?_ ho⟩
      · simp only [UpstreamConfig.tryUpstreams, bind, StateT.bind, recordingAttempt, ho]
        rfl
      · intro k v hv
        simp at hv
    | error e =>
      obtain ⟨r, contacted, hrun, hres⟩ := ih (some e) (before ++ [u])
      rw [List.length_append, List.length_singleton] at hres
      refine ⟨r, u :: contacted, ?_, hres.cons ho⟩
      simp only [UpstreamConfig.tryUpstreams, bind, StateT.bind, recordingAttempt, ho]
      rw [show before ++ u :: contacted = before ++ [u] ++ contacted by simp]
      exact hrun

/-! ## 主定理 -/

/-- 成功して終わったことの言い換え。 -/
theorem TryResult.ok_iff {outcome : Nat → TrackedUpstream υ → Except DohError Message}
    {us : List (TrackedUpstream υ)} {lastErr : Option DohError}
    {r : Except (Option DohError) Message} {contacted : List (TrackedUpstream υ)}
    (h : TryResult outcome 0 us lastErr r contacted) :
    (∃ resp, r = .ok resp) ↔ ∃ k u resp, us[k]? = some u ∧ outcome k u = .ok resp := by
  cases h with
  | @success pre u post r split fails ok =>
    rw [Nat.zero_add] at ok
    refine ⟨fun _ => ⟨pre.length, u, r, ?_, ok⟩, fun _ => ⟨r, rfl⟩⟩
    rw [split]
    simp
  | failure pre u split fails last =>
    constructor
    · rintro ⟨resp, hr⟩
      cases hr
    · rintro ⟨k, v, resp, hk, hok⟩
      obtain ⟨e, he⟩ := fails k v hk
      rw [Nat.zero_add, hok] at he
      cases he
  | noUpstreams nil =>
    constructor
    · rintro ⟨resp, hr⟩
      cases hr
    · rintro ⟨k, v, resp, hk, _⟩
      rw [nil] at hk
      simp at hk

/-- 失敗の列が空だったときの、`exchange` の返り値。 -/
def finishExchange (noUpstreams : DohError) :
    Except (Option DohError) Message → Except DohError Message
  | .ok resp => .ok resp
  | .error lastErr => .error (lastErr.getD noUpstreams)

/-- 上流が一つも無いときの失敗。 -/
def noUpstreamsError (unprintable : Char → Bool) (name : Text) : DohError :=
  .bootstrap (String.ofList (text "no upstreams configured for " ++ name.debug unprintable))

theorem exchange_run (unprintable : Char → Bool) (e : LabelEscape) (c : UpstreamConfig υ)
    (env : OrderEnv υ) (outcome : Nat → TrackedUpstream υ → Except DohError Message)
    (req : Message) : ∃ r contacted,
      (c.exchange unprintable e env (recordingAttempt outcome) req).2 []
        = (finishExchange (noUpstreamsError unprintable (UpstreamConfig.queryName e req)) r,
            contacted) ∧
      TryResult outcome 0 (c.upstreamsFor env (UpstreamConfig.queryName e req)).1 none r
        contacted := by
  obtain ⟨r, contacted, htry, hres⟩ := tryUpstreams_result outcome req
    (c.upstreamsFor env (UpstreamConfig.queryName e req)).1 none []
  refine ⟨r, contacted, ?_, hres⟩
  unfold UpstreamConfig.exchange
  dsimp only
  simp only [bind, StateT.bind]
  rw [htry]
  cases r with
  | ok resp => rfl
  | error lastErr => rfl

/--
一度の `exchange` についての主張。

`g` は選ばれた組、`order` はその並び、`result` と `contacted` は返り値と触れた上流である。
-/
structure ExchangeSpec (outcome : Nat → TrackedUpstream υ → Except DohError Message)
    (ref : GroupRef) (g : UpstreamGroup υ) (order : List (TrackedUpstream υ))
    (noUpstreams : DohError) (result : Except DohError Message)
    (contacted : List (TrackedUpstream υ)) : Prop where
  /-- 並びは、選ばれた組の上流の並べ替えである。 -/
  perm : order.Perm g.upstreams
  /-- 触れるのは並びの先頭からだけであり、したがって選ばれた組の上流だけである。 -/
  contacts : contacted <+: order ∧ ∀ u ∈ contacted, u ∈ g.upstreams
  /-- 成功するのは、その組の上流のどれかが成功するとき、かつそのときに限る。 -/
  succeeds : (∃ r, result = .ok r) ↔ ∃ k u r, order[k]? = some u ∧ outcome k u = .ok r
  /-- 返るのは最初に成功した上流の答えで、その後の上流には触れない。 -/
  first : ∀ r, result = .ok r → ∃ k u, order[k]? = some u ∧ outcome k u = .ok r ∧
    AllFail outcome 0 (order.take k) ∧ contacted = order.take (k + 1)
  /-- すべて失敗すれば、最後に触れた上流の失敗が返る。 -/
  last : ∀ e, result = .error e → contacted = order ∧
    (order = [] ∧ e = noUpstreams ∨
      ∃ u, order.getLast? = some u ∧ outcome (order.length - 1) u = .error e)
  /-- 試す上流が無いのは既定の組だけである。 -/
  nonempty : order = [] → ref = .default

/-- loop の結果から `exchange` についての主張を組み立てる。 -/
theorem TryResult.exchangeSpec {outcome : Nat → TrackedUpstream υ → Except DohError Message}
    {ref : GroupRef} {g : UpstreamGroup υ} {order : List (TrackedUpstream υ)}
    {noUpstreams : DohError} {r : Except (Option DohError) Message}
    {contacted : List (TrackedUpstream υ)} (h : TryResult outcome 0 order none r contacted)
    (hperm : order.Perm g.upstreams) (hne : order = [] → ref = .default) :
    ExchangeSpec outcome ref g order noUpstreams (finishExchange noUpstreams r) contacted := by
  have hok : (∃ resp, finishExchange noUpstreams r = .ok resp) ↔ ∃ resp, r = .ok resp := by
    cases r with
    | ok resp => simp [finishExchange]
    | error lastErr => simp [finishExchange]
  have hcontacts : contacted <+: order := by
    cases h with
    | success pre u post split _ _ => exact ⟨post, by rw [split]; simp⟩
    | failure _ _ _ _ _ => exact List.prefix_refl _
    | noUpstreams _ => exact List.nil_prefix
  refine ⟨hperm, ⟨hcontacts, ?_⟩, hok.trans h.ok_iff, ?_, ?_, hne⟩
  · intro u hu
    exact hperm.mem_iff.mp (hcontacts.subset hu)
  · intro resp hr
    cases h with
    | success pre u post split fails ok =>
      cases hr
      rw [Nat.zero_add] at ok
      refine ⟨pre.length, u, ?_, ok, ?_, ?_⟩
      · rw [split]
        simp
      · rw [split, List.take_left]
        exact fails
      · rw [split, List.take_append, List.take_of_length_le (Nat.le_succ _)]
        simp
    | failure _ _ _ _ _ => cases hr
    | noUpstreams _ => cases hr
  · intro err hr
    cases h with
    | success _ _ _ _ _ _ => cases hr
    | failure pre u split fails last =>
      cases hr
      refine ⟨rfl, Or.inr ⟨u, by rw [split]; simp, ?_⟩⟩
      rw [split, List.length_append]
      rw [Nat.zero_add] at last
      exact last
    | noUpstreams nil =>
      cases hr
      exact ⟨nil.symm, Or.inl ⟨nil, rfl⟩⟩

/--
**`exchange` は、名前で選んだ一つの組の中だけで乗り換える。**

`c` は読めた設定、`past` はそれまでに並べた問い合わせである。
-/
theorem exchange_spec {unprintable : Char → Bool} {parseAnyUpstream : Text → Except Text υ}
    {lines : List Text} {mode : UpstreamMode} {c : UpstreamConfig υ}
    (h : UpstreamConfig.parseWithMode unprintable parseAnyUpstream lines mode = .ok c)
    (past : List (OrderEnv υ × Text)) (e : LabelEscape) (env : OrderEnv υ)
    (outcome : Nat → TrackedUpstream υ → Except DohError Message) (req : Message) :
    let name := UpstreamConfig.queryName e req
    let ref := c.groupFor name
    let run := ((c.after past).exchange unprintable e env (recordingAttempt outcome) req).2 []
    ExchangeSpec outcome ref (c.group ref)
      (((c.after past).group ref).ordered mode env).1
      (noUpstreamsError unprintable name) run.1 run.2 := by
  intro name ref run
  have hsame := UpstreamConfig.after_sameRules past c
  have horder : ((c.after past).upstreamsFor env name).1
      = (((c.after past).group ref).ordered mode env).1 := by
    unfold UpstreamConfig.upstreamsFor
    rw [UpstreamConfig.groupFor_congr hsame, hsame.mode, UpstreamConfig.parseWithMode_mode h]
  have hperm : (((c.after past).group ref).ordered mode env).1.Perm (c.group ref).upstreams := by
    rw [← hsame.upstreams ref]
    exact UpstreamGroup.ordered_perm _ mode env
  obtain ⟨r, contacted, hrun, hres⟩ :=
    exchange_run unprintable e (c.after past) env outcome req
  rw [horder] at hres
  rw [show run = _ from hrun]
  refine hres.exchangeSpec hperm ?_
  intro hnil
  -- 並びが空なら組も空であり、domain の組は空でない
  rw [hnil] at hperm
  have hempty : (c.group ref).upstreams = [] := List.nil_perm.mp hperm
  cases href : ref with
  | default => rfl
  | domain key =>
    rw [href] at hempty
    exact absurd hempty (UpstreamConfig.parsed_group_ne_nil h (UpstreamConfig.groupFor_domain href))

/-- まだどの上流も測っておらず、並べ替えもしない。 -/
def OrderEnv.untested : OrderEnv υ where
  latency _ := {}
  shuffle l := l
  shuffle_perm _ := List.Perm.refl _

/-- `a.` についての A の問い合わせ。 -/
def queryA : Message :=
  { Message.new 1 .query .query with
    queries := [{ name := ⟨[[97]], true⟩, queryType := RecordType.A }] }

/-- 最初の試みだけが失敗する。 -/
def secondSucceeds (k : Nat) (_ : TrackedUpstream Text) : Except DohError Message :=
  if k = 0 then .error .noSupportedVersions else .ok queryA

/-- `a.` の問い合わせが、一つ目の失敗の後で同じ組の二つ目に乗り換える。 -/
theorem exchange_spec_second_upstream :
    ∃ c, UpstreamConfig.parseWithMode (fun _ => false) Except.ok
        [text "[/a/]x y", text "z"] .ordered = .ok c ∧
      let name := UpstreamConfig.queryName hickoryEscape queryA
      let ref := c.groupFor name
      let run := ((c.after []).exchange (fun _ => false) hickoryEscape OrderEnv.untested
        (recordingAttempt secondSucceeds) queryA).2 []
      ExchangeSpec secondSucceeds ref (c.group ref)
        (((c.after []).group ref).ordered .ordered OrderEnv.untested).1
        (noUpstreamsError (fun _ => false) name) run.1 run.2 ∧
      ref = .domain (text "a.") ∧
      run.2.map TrackedUpstream.upstream = [text "x", text "y"] := by
  have hsome : ∃ c, UpstreamConfig.parseWithMode (fun _ => false) Except.ok
      [text "[/a/]x y", text "z"] .ordered = .ok c := ⟨_, rfl⟩
  obtain ⟨c, hc⟩ := hsome
  refine ⟨c, hc, exchange_spec hc [] hickoryEscape OrderEnv.untested secondSucceeds queryA, ?_⟩
  cases hc
  decide

end DnsProxy
