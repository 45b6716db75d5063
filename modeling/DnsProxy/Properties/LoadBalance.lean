import DnsProxy.Infra.Machine
import DnsProxy.Infra.Sort
import DnsProxy.Client.Upstream
import DnsProxy.Properties.Failover

/-!
# 速さによる並べ替え

`LoadBalance` では、まだ測っていない上流を先に、測った上流を平均の小さい順に並べる。
測ったかどうかは `LatencyTracker` の `u64::MAX` で表され、成功した `exchange` だけがそれを書き換える。
同じ綴りの上流は、どの規則から使っても一つの tracker を共有する。

問い合わせと応答がどの順に入り混じっても、次が成り立つ（`load_balance_spec`）。

* 並べたものは、組の上流の並べ替えである
* まだ一度も成功していない上流が、成功したことのある上流より前に来る
* 成功したことのある上流は平均の小さい順に並び、平均の等しいものは設定の順のままである

移動平均は `u64::MAX` を返さない任意の関数に、乱数による並べ替えは任意の並べ替えに取る。
-/

namespace DnsProxy

open Infra

variable {υ : Type}

/-! ## 平均の比較 -/

theorem averageLe_trans : ∀ a b c : Option UInt64,
    averageLe a b = true → averageLe b c = true → averageLe a c = true
  | none, _, _, _, _ => rfl
  | some _, none, _, h, _ => by cases h
  | some _, some _, none, _, h => by cases h
  | some a, some b, some c, hab, hbc => by
    simp only [averageLe, decide_eq_true_eq] at *
    exact UInt64.le_trans hab hbc

theorem averageLe_total : ∀ a b : Option UInt64, (averageLe a b || averageLe b a) = true
  | none, _ => rfl
  | some _, none => rfl
  | some a, some b => by
    simp only [averageLe, Bool.or_eq_true, decide_eq_true_eq]
    exact UInt64.le_total a b

section

variable {α : Type} (average : α → Option UInt64)

/-- 整列した列は、平均の小さい順である。 -/
theorem pairwise_sorted (l : List α) :
    (l.mergeSort fun x y => averageLe (average x) (average y)).Pairwise
      fun x y => averageLe (average x) (average y) = true :=
  pairwise_mergeSort_key average averageLe_trans averageLe_total l

/-- 平均の等しいものは、整列しても元の順のままである。 -/
theorem filter_sorted (l : List α) (a : Option UInt64) :
    (l.mergeSort fun x y => averageLe (average x) (average y)).filter (fun x => average x = a)
      = l.filter fun x => average x = a :=
  filter_mergeSort_key average averageLe_trans averageLe_total l a

end

/-! ## 並んだ列 -/

/-- `group` を並べた `out` が、速さによる並べ方の約束を守ること。 -/
structure LoadBalanced (group : List (TrackedUpstream υ)) (tested : TrackedUpstream υ → Prop)
    (average : TrackedUpstream υ → Option UInt64) (out : List (TrackedUpstream υ)) : Prop where
  perm : out.Perm group
  /-- まだ成功していないものが前に、成功したことのあるものが後に来る。 -/
  split : ∃ front back, out = front ++ back ∧ (∀ u ∈ front, ¬ tested u) ∧ (∀ u ∈ back, tested u) ∧
    back.Pairwise (fun u v => ∃ a b, average u = some a ∧ average v = some b ∧ a ≤ b) ∧
    ∀ a, back.filter (fun u => average u = some a) = group.filter fun u => average u = some a

/-- 測ったかどうかが成功したかどうかと一致すれば、`ordered` は約束を守る。 -/
theorem ordered_loadBalanced (g : UpstreamGroup υ) (env : OrderEnv υ)
    (tested : TrackedUpstream υ → Prop)
    (htested : ∀ u ∈ g.upstreams, (env.latency u.id).average.isSome = true ↔ tested u) :
    LoadBalanced g.upstreams tested (fun u => (env.latency u.id).average)
      (g.ordered .loadBalance env).1 where
  perm := g.ordered_perm .loadBalance env
  split := by
    refine ⟨_, _, rfl, ?_, ?_, ?_, ?_⟩
    · intro u hu htest
      have hmem := List.mem_filter.mp ((env.shuffle_perm _).mem_iff.mp hu)
      have hsome := (htested u hmem.1).mpr htest
      simp [hsome] at hmem
    · intro u hu
      have hmem := List.mem_filter.mp ((List.mergeSort_perm _ _).mem_iff.mp hu)
      exact (htested u hmem.1).mp hmem.2
    · refine List.Pairwise.imp_of_mem ?_ (pairwise_sorted _ _)
      intro u v hu hv hle
      have hu' := (List.mem_filter.mp ((List.mergeSort_perm _ _).mem_iff.mp hu)).2
      have hv' := (List.mem_filter.mp ((List.mergeSort_perm _ _).mem_iff.mp hv)).2
      dsimp only at hle hu' hv'
      obtain ⟨a, ha⟩ := Option.isSome_iff_exists.mp hu'
      obtain ⟨b, hb⟩ := Option.isSome_iff_exists.mp hv'
      rw [ha, hb] at hle
      exact ⟨a, b, ha, hb, by simpa [averageLe] using hle⟩
    · intro a
      rw [filter_sorted (fun u : TrackedUpstream υ => (env.latency u.id).average),
        List.filter_filter]
      refine List.filter_congr fun u _ => ?_
      dsimp only
      cases (env.latency u.id).average with
      | none => simp
      | some b => simp

/-! ## run -/

/-- run の間に変わるもの。 -/
structure Balancer (υ : Type) where
  config : UpstreamConfig υ
  latency : Nat → LatencyTracker
  /-- これまでに `exchange` の成功した上流。記録するだけで、並べ方には使われない。 -/
  succeeded : List (TrackedUpstream υ)

/-- 組を並べることと、一つの上流との `exchange` が終わること。どの順に起こってもよい。 -/
inductive BalanceEvent (υ : Type) where
  | order (fqdn : Text) (shuffle : List (TrackedUpstream υ) → List (TrackedUpstream υ))
      (perm : ∀ l, (shuffle l).Perm l)
  | finish (u : TrackedUpstream υ) (result : Except DohError Message) (micros : Nat)

namespace Balancer

/-- その時点の平均で並べる。 -/
def env (s : Balancer υ) (shuffle : List (TrackedUpstream υ) → List (TrackedUpstream υ))
    (perm : ∀ l, (shuffle l).Perm l) : OrderEnv υ := ⟨s.latency, shuffle, perm⟩

/-- `TrackedUpstream::exchange` の終わり。 -/
def finish (ema : UInt64 → UInt64 → UInt64) (s : Balancer υ) (u : TrackedUpstream υ) (micros : Nat) :
    Except DohError Message → Balancer υ
  | .error _ => s
  | .ok _ =>
    { s with
      latency := Function.update s.latency u.id ((s.latency u.id).record ema micros)
      succeeded := s.succeeded ++ [u] }

end Balancer

/-- 設定 `c` で動く proxy。`exchange` は、どれかの組の上流とだけ行われる。 -/
def balanceMachine (ema : UInt64 → UInt64 → UInt64) (c : UpstreamConfig υ) :
    Machine (Balancer υ) (BalanceEvent υ) where
  init := { config := c, latency := fun _ => {}, succeeded := [] }
  allowed s
    | .order _ _ _ => True
    | .finish u _ micros =>
      (∃ ref, u ∈ (s.config.group ref).upstreams) ∧ micros < 0xFFFFFFFFFFFFFFFF
  step s
    | .order fqdn shuffle perm =>
      some { s with config := (s.config.upstreamsFor (s.env shuffle perm) fqdn).2 }
    | .finish u result micros => some (s.finish ema u micros result)

/-- 規則は変わらず、測った tracker は、成功した上流の tracker である。 -/
structure BalanceInv (c : UpstreamConfig υ) (s : Balancer υ) : Prop where
  rules : SameRules c s.config
  measured : ∀ id, (s.latency id).average.isSome = true ↔ ∃ v ∈ s.succeeded, v.id = id
  known : ∀ v ∈ s.succeeded, ∃ ref, v ∈ (c.group ref).upstreams

/-- 記録した後の tracker は、必ず平均を持つ。 -/
theorem record_average {ema : UInt64 → UInt64 → UInt64}
    (hema : ∀ a b, ema a b ≠ 0xFFFFFFFFFFFFFFFF) (t : LatencyTracker) {micros : Nat}
    (hmicros : micros < 0xFFFFFFFFFFFFFFFF) : (t.record ema micros).average.isSome = true := by
  have hsample : UInt64.ofNat (min micros 0xFFFFFFFFFFFFFFFF) ≠ 0xFFFFFFFFFFFFFFFF := by
    intro h
    have hnat := congrArg UInt64.toNat h
    rw [Nat.min_eq_left (by omega), UInt64.toNat_ofNat'] at hnat
    have hmod : micros % 2 ^ 64 = micros := Nat.mod_eq_of_lt (by omega)
    rw [hmod] at hnat
    exact absurd hnat (by
      show micros ≠ 0xFFFFFFFFFFFFFFFF
      omega)
  have hne : (t.record ema micros).avgMicros ≠ 0xFFFFFFFFFFFFFFFF := by
    unfold LatencyTracker.record
    dsimp only
    split
    · exact hsample
    · exact hema _ _
  unfold LatencyTracker.average
  rw [if_neg hne]
  rfl

/-- **run の間、この不変条件が保たれる。** -/
theorem balanceInv {ema : UInt64 → UInt64 → UInt64} (hema : ∀ a b, ema a b ≠ 0xFFFFFFFFFFFFFFFF)
    {c : UpstreamConfig υ} {s : Balancer υ} (h : (balanceMachine ema c).Reach s) :
    BalanceInv c s := by
  refine Machine.Reach.invariant ?_ ?_ h
  · refine ⟨SameRules.refl c, ?_, ?_⟩
    · intro id
      simp [balanceMachine, LatencyTracker.average]
    · intro v hv
      cases hv
  · intro s e s' hinv hallowed hstep
    cases e with
    | order fqdn shuffle perm =>
      cases hstep
      exact ⟨hinv.rules.trans (s.config.upstreamsFor_sameRules _ fqdn), hinv.measured, hinv.known⟩
    | finish u result micros =>
      cases hstep
      obtain ⟨⟨ref, hu⟩, hmicros⟩ := hallowed
      cases result with
      | error e => exact hinv
      | ok resp =>
        refine ⟨hinv.rules, ?_, ?_⟩
        · intro id
          show (Function.update s.latency u.id _ id).average.isSome = true ↔
            ∃ v ∈ s.succeeded ++ [u], v.id = id
          by_cases hid : id = u.id
          · subst hid
            rw [Function.update_self]
            exact iff_of_true (record_average hema _ hmicros) ⟨u, by simp, rfl⟩
          · rw [Function.update_of_ne hid, hinv.measured id]
            constructor
            · rintro ⟨v, hv, rfl⟩
              exact ⟨v, List.mem_append_left _ hv, rfl⟩
            · rintro ⟨v, hv, rfl⟩
              rcases List.mem_append.mp hv with hv | hv
              · exact ⟨v, hv, rfl⟩
              · exact absurd (congrArg TrackedUpstream.id (List.mem_singleton.mp hv)) hid
        · intro v hv
          rcases List.mem_append.mp hv with hv | hv
          · exact hinv.known v hv
          · rw [List.mem_singleton.mp hv]
            exact ⟨ref, by rw [← hinv.rules.upstreams]; exact hu⟩

/-! ## 綴りと tracker -/

section

variable {parseAnyUpstream : Text → Except Text υ} {lines : List Text} {c : UpstreamConfig υ}
  {share : Text → Option (TrackedUpstream υ)}

/-- 組の上流は、どれも綴りから共有されたものである。 -/
theorem Reads.mem_group (h : Reads parseAnyUpstream lines c share) {ref : GroupRef}
    {u : TrackedUpstream υ} (hu : u ∈ (c.group ref).upstreams) : ∃ name, share name = some u := by
  have hmap : ∀ (upstreams : List (TrackedUpstream υ)) (names : List Text),
      upstreams.map some = names.map share → u ∈ upstreams → ∃ name, share name = some u := by
    intro upstreams names heq hmem
    have hsome : some u ∈ names.map share := by
      rw [← heq]
      exact List.mem_map_of_mem hmem
    obtain ⟨name, -, hname⟩ := List.mem_map.mp hsome
    exact ⟨name, hname⟩
  cases ref with
  | default => exact hmap _ _ h.default hu
  | domain key =>
    change u ∈ ((c.domainUpstreams.lookup key).getD {}).upstreams at hu
    cases hg : c.domainUpstreams.lookup key with
    | none =>
      rw [hg] at hu
      cases hu
    | some g =>
      rw [hg] at hu
      obtain ⟨strs, -, hstrs⟩ := h.domain key g hg
      exact hmap _ _ hstrs hu

/-- 同じ綴りの上流であること。 -/
def SameString (share : Text → Option (TrackedUpstream υ)) (u v : TrackedUpstream υ) : Prop :=
  ∃ name, share name = some u ∧ share name = some v

/-- 組の上流どうしでは、tracker が同じことと綴りが同じことは一致する。 -/
theorem Reads.sameString_iff (h : Reads parseAnyUpstream lines c share) {ref ref' : GroupRef}
    {u v : TrackedUpstream υ} (hu : u ∈ (c.group ref).upstreams) (hv : v ∈ (c.group ref').upstreams) :
    SameString share u v ↔ v.id = u.id := by
  obtain ⟨name, hname⟩ := h.mem_group hu
  obtain ⟨name', hname'⟩ := h.mem_group hv
  constructor
  · rintro ⟨n, hnu, hnv⟩
    rw [Option.some.inj (hnu.symm.trans hnv)]
  · intro hid
    have heq : name = name' := (h.shared name name' u v hname hname').mp hid.symm
    exact ⟨name, hname, by rw [heq]; exact hname'⟩

end

/--
**どの run のどの時点でも、`upstreams_for` の返す列は速さによる並べ方の約束を守る。**

成功したかどうかは、同じ綴りの上流を挙げるどの規則から使ったものも数える。
-/
theorem load_balance_spec {unprintable : Char → Bool} {parseAnyUpstream : Text → Except Text υ}
    {lines : List Text} {c : UpstreamConfig υ}
    (hparse : UpstreamConfig.parseWithMode unprintable parseAnyUpstream lines .loadBalance = .ok c)
    {ema : UInt64 → UInt64 → UInt64} (hema : ∀ a b, ema a b ≠ 0xFFFFFFFFFFFFFFFF) :
    ∃ share, Reads parseAnyUpstream lines c share ∧
      ∀ s, (balanceMachine ema c).Reach s → ∀ fqdn shuffle perm,
        LoadBalanced (c.group (c.groupFor fqdn)).upstreams
          (fun u => ∃ v ∈ s.succeeded, SameString share u v)
          (fun u => (s.latency u.id).average)
          (s.config.upstreamsFor (s.env shuffle perm) fqdn).1 := by
  obtain ⟨share, hreads⟩ := UpstreamConfig.parsed_reads hparse
  refine ⟨share, hreads, ?_⟩
  intro s hreach fqdn shuffle perm
  have hinv := balanceInv hema hreach
  have href := UpstreamConfig.groupFor_congr hinv.rules fqdn
  have hmode : s.config.mode = .loadBalance :=
    hinv.rules.mode.trans (UpstreamConfig.parseWithMode_mode hparse)
  have hgroup := hinv.rules.upstreams (c.groupFor fqdn)
  unfold UpstreamConfig.upstreamsFor
  dsimp only
  rw [href, hmode, ← hgroup]
  refine ordered_loadBalanced _ (s.env shuffle perm) _ fun u hu => ?_
  rw [hgroup] at hu
  show (s.latency u.id).average.isSome = true ↔ _
  rw [hinv.measured]
  constructor
  · rintro ⟨v, hv, hid⟩
    obtain ⟨ref, hv'⟩ := hinv.known v hv
    exact ⟨v, hv, (hreads.sameString_iff hu hv').mpr hid⟩
  · rintro ⟨v, hv, hsame⟩
    obtain ⟨ref, hv'⟩ := hinv.known v hv
    exact ⟨v, hv, (hreads.sameString_iff hu hv').mp hsame⟩

/-- `x` を既定の行と `a.com` の規則が共有する設定。 -/
def sharedConfig : UpstreamConfig Text where
  domainUpstreams := AList.singleton (text "a.com.")
    { upstreams := [⟨1, text "y"⟩, ⟨0, text "x"⟩] }
  defaultUpstreams := { upstreams := [⟨0, text "x"⟩] }
  mode := .loadBalance

/-- 半分ずつの移動平均。 -/
def halfEma (sample prev : UInt64) : UInt64 := sample / 2 + prev / 2

theorem halfEma_ne (a b : UInt64) : halfEma a b ≠ 0xFFFFFFFFFFFFFFFF := by
  intro h
  have ha := a.toNat_lt
  have hb := b.toNat_lt
  have hnat := congrArg UInt64.toNat h
  have htwo : (2 : UInt64).toNat = 2 := rfl
  have hmax : (0xFFFFFFFFFFFFFFFF : UInt64).toNat = 18446744073709551615 := rfl
  rw [halfEma, UInt64.toNat_add, UInt64.toNat_div, UInt64.toNat_div, htwo, hmax] at hnat
  omega

/-- 既定の行の `x` が 5 マイクロ秒で成功した後は、`a.com` の組でも `x` が後に来る。 -/
theorem load_balance_spec_shared :
    UpstreamConfig.parseWithMode (fun _ => false) (fun u => .ok u)
        [text "x", text "[/a.com/]y x"] .loadBalance = .ok sharedConfig ∧
      ∃ s, (balanceMachine halfEma sharedConfig).Reach s ∧
        s.succeeded = [⟨0, text "x"⟩] ∧
        ∃ share, LoadBalanced [⟨1, text "y"⟩, ⟨0, text "x"⟩]
          (fun u => ∃ v ∈ s.succeeded, SameString share u v) (fun u => (s.latency u.id).average)
          (s.config.upstreamsFor (s.env id fun l => List.Perm.refl l) (text "a.com.")).1 := by
  have hparse : UpstreamConfig.parseWithMode (fun _ => false) (fun u => .ok u)
      [text "x", text "[/a.com/]y x"] .loadBalance = .ok sharedConfig := by rfl
  have hreach := Machine.Reach.step (M := balanceMachine halfEma sharedConfig)
    (e := .finish ⟨0, text "x"⟩ (.ok queryA) 5) .init ⟨⟨.default, List.mem_cons_self⟩, by decide⟩ rfl
  obtain ⟨share, -, hspec⟩ := load_balance_spec hparse halfEma_ne
  exact ⟨hparse, _, hreach, rfl, share, hspec _ hreach (text "a.com.") id fun l => List.Perm.refl l⟩

/-! ## 動いている proxy との対応 -/

namespace Proxy

variable {W : Type}

/-- tracker の置き場所は互いに別で、時計を読んでも変わらない。 -/
structure LatencyCells (p : Proxy W) : Prop where
  self : ∀ id v w, (p.latency id).get ((p.latency id).set v w) = v
  other : ∀ id id', id' ≠ id → ∀ v w,
    (p.latency id').get ((p.latency id).set v w) = (p.latency id').get w
  now : ∀ id w, (p.latency id).get (p.net.now w).2 = (p.latency id).get w

variable {p : Proxy W} {s : Balancer (Upstream W)} {w : W}

/-- proxy が並べるときに見る平均は、`Balancer` のものである。 -/
theorem orderEnv_eq (hs : ∀ id, (p.latency id).get w = s.latency id) :
    p.orderEnv w = s.env (p.shuffle w) (p.shuffle_perm w) := by
  unfold orderEnv Balancer.env
  congr 1
  funext id
  exact hs id

/-- **`exchange` の終わりに proxy がする記録は、`Balancer` の一歩である。** -/
theorem recordLatency_finish (hp : p.LatencyCells) (hs : ∀ id, (p.latency id).get w = s.latency id)
    (u : TrackedUpstream (Upstream W)) (start : Nat) (result : Except DohError Message) (id : Nat) :
    (p.latency id).get (p.recordLatency u start result w).2
      = (s.finish p.ema u (((p.net.now w).1 - start) / 1000) result).latency id := by
  cases result with
  | error e => exact hs id
  | ok resp =>
    show (p.latency id).get ((p.latency u.id).set
        (((p.latency u.id).get (p.net.now w).2).record p.ema _) (p.net.now w).2)
      = Function.update s.latency u.id _ id
    by_cases hid : id = u.id
    · subst hid
      rw [hp.self, Function.update_self, hp.now, hs]
    · rw [hp.other _ _ hid, Function.update_of_ne hid, hp.now, hs]

end Proxy

end DnsProxy
