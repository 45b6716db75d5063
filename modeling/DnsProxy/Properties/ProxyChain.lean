import DnsProxy.Infra.Relay
import DnsProxy.Properties.StreamExchange

/-!
# proxy の連鎖

この proxy を何段か繋ぐ。各段は plain TCP・DoT・DoQ のどれかの listener で受け、既定の upstream を
一つだけ持つ設定の handler で次の段に渡す。最後の段の先にいるのが `origin` である。

何段繋いでも、要求の列に返る応答は、一段だけの中継のものと同じであり、`origin` の状態も同じように動く
（`chain_forwards`）。どこかに DoQ があれば `origin` の見る ID は 0 で、client には要求の ID が戻る。
途中の段の名前引き・cursor・速さの記録・connection の使い回しは、結果に現れない。
-/

namespace DnsProxy

open Infra

/-! ## stream の中継 -/

instance (codec : Codec) (m : Message) : Decidable (Framable codec m) :=
  match h : codec.toBytes m with
  | .ok b =>
    decidable_of_iff (b.length ≤ 65535)
      ⟨fun hb => ⟨b, h, hb⟩, fun ⟨b', hb', hlen⟩ => by rw [h] at hb'; cases hb'; exact hlen⟩
  | .error e => isFalse fun ⟨b', hb', _⟩ => by rw [h] at hb'; cases hb'

theorem matchesQuestion_iff_validate (codec : Codec) (req resp : Message) :
    MatchesQuestion req resp ↔ validateResponse codec req resp = .ok () := by
  rcases validateResponse_cases codec req resp with ⟨h, hm⟩ | ⟨⟨msg, h⟩, hm, -⟩ | ⟨h, hnil, -⟩
  · simp [h, hm]
  · simp [h, hm]
  · rw [h]
    exact ⟨fun hm => absurd hnil hm.queries_ne_nil, fun h => by cases h⟩

/-- 一つの stream を通す。 -/
def overStream (codec : Codec) (zeroId : Bool) : Relay Message Message where
  wire := onWire zeroId
  back := restored zeroId
  sends req := Framable codec (onWire zeroId req)
  returns req m := Framable codec (onWire zeroId m) ∧ MatchesQuestion req m

instance (codec : Codec) (zeroId : Bool) : DecidablePred (overStream codec zeroId).sends :=
  fun req => inferInstanceAs (Decidable (Framable codec (onWire zeroId req)))

instance (codec : Codec) (zeroId : Bool) (req : Message) :
    DecidablePred ((overStream codec zeroId).returns req) := fun m =>
  haveI : Decidable (MatchesQuestion req m) :=
    match h : validateResponse codec req m with
    | .ok () => isTrue ((matchesQuestion_iff_validate codec req m).mpr h)
    | .err _ | .pending | .panic => isFalse fun hm => by
      rw [matchesQuestion_iff_validate codec, h] at hm
      cases hm
  inferInstanceAs (Decidable (Framable codec (onWire zeroId m) ∧ MatchesQuestion req m))

/-- 書けるかどうかも長さも、ID に依らない。 -/
def Codec.IdFree (codec : Codec) : Prop :=
  ∀ m id b, codec.toBytes m = .ok b → ∃ b', codec.toBytes (m.setId id) = .ok b' ∧ b'.length = b.length

theorem setId_setId (m : Message) (id id' : UInt16) : (m.setId id).setId id' = m.setId id' := rfl

theorem setId_self (m : Message) : m.setId m.metadata.id = m := rfl

namespace Codec.IdFree

variable {codec : Codec} (h : codec.IdFree)

include h

theorem framable_setId (m : Message) (id : UInt16) :
    Framable codec (m.setId id) ↔ Framable codec m := by
  constructor
  · rintro ⟨b, hb, hlen⟩
    obtain ⟨b', hb', hlen'⟩ := h _ m.metadata.id b hb
    rw [setId_setId, setId_self] at hb'
    exact ⟨b', hb', by omega⟩
  · rintro ⟨b, hb, hlen⟩
    obtain ⟨b', hb', hlen'⟩ := h m id b hb
    exact ⟨b', hb', by omega⟩

theorem framable_onWire (zeroId : Bool) (m : Message) :
    Framable codec (onWire zeroId m) ↔ Framable codec m := by
  cases zeroId with
  | false => exact Iff.rfl
  | true => exact h.framable_setId m 0

theorem framable_restored (zeroId : Bool) (req m : Message) :
    Framable codec (restored zeroId req m) ↔ Framable codec m := by
  cases zeroId with
  | false => exact Iff.rfl
  | true => exact h.framable_setId m _

/-- **二段の中継は、一段の中継と同じ働きをする。どちらかが ID を 0 にすれば、全体もそうする。** -/
theorem comp_same (outer inner : Bool) :
    ((overStream codec outer).comp (overStream codec inner)).Same
      (overStream codec (outer || inner)) where
  wire req := by cases outer <;> cases inner <;> rfl
  back req m := by cases outer <;> cases inner <;> rfl
  sends req := by
    show Framable codec (onWire outer req) ∧ Framable codec (onWire inner (onWire outer req)) ↔
      Framable codec (onWire (outer || inner) req)
    simp only [h.framable_onWire, and_self]
  returns req m := by
    have hinner : MatchesQuestion (onWire outer req) m ↔ MatchesQuestion req m := by
      cases outer <;> exact Iff.rfl
    have houter : MatchesQuestion req (restored inner (onWire outer req) m)
        ↔ MatchesQuestion req m := by
      cases inner <;> exact Iff.rfl
    show (Framable codec (onWire inner m) ∧ MatchesQuestion (onWire outer req) m) ∧
        Framable codec (onWire outer (restored inner (onWire outer req) m)) ∧
          MatchesQuestion req (restored inner (onWire outer req) m) ↔
      Framable codec (onWire (outer || inner) m) ∧ MatchesQuestion req m
    rw [hinner, houter]
    simp only [h.framable_onWire, h.framable_restored, and_self]

end Codec.IdFree

/-! ## 一つの upstream を持つ設定 -/

section

variable {W σ : Type} {p : Proxy W} {D : Message → Prop} {base : W → σ}

/-- proxy の持つ状態は、`base` の指す奥の状態と別のところにある。 -/
structure Proxy.Before (p : Proxy W) (base : W → σ) : Prop where
  config : ∀ c w, base (p.config.set c w) = base w
  latency : ∀ id v w, base ((p.latency id).set v w) = base w
  now : ∀ w, base (p.net.now w).2 = base w

/-- 一つしかない upstream は、どの mode でもそれだけが並ぶ。 -/
theorem ordered_singleton {υ : Type} (u : TrackedUpstream υ) (cursor : UInt64) (mode : UpstreamMode)
    (env : OrderEnv υ) :
    (UpstreamGroup.ordered { upstreams := [u], roundRobinCursor := cursor } mode env).1 = [u] := by
  have hshuffle : ∀ l, l = [] ∨ l = [u] → env.shuffle l = l := by
    rintro l (rfl | rfl)
    · exact (env.shuffle_perm []).eq_nil
    · exact List.perm_singleton.mp (env.shuffle_perm [u])
  cases mode with
  | ordered => rfl
  | roundRobin => simp [UpstreamGroup.ordered, Nat.mod_one]
  | loadBalance =>
    unfold UpstreamGroup.ordered
    dsimp only
    cases h : ((env.latency u.id).average).isSome with
    | true =>
      have htested : [u].filter (fun u => ((env.latency u.id).average).isSome) = [u] := by
        rw [List.filter_singleton, h]
        rfl
      have huntested : [u].filter (fun u => !((env.latency u.id).average).isSome) = [] := by
        rw [List.filter_singleton, h]
        rfl
      rw [htested, huntested, hshuffle [] (Or.inl rfl)]
      exact List.mergeSort_singleton u
    | false =>
      have htested : [u].filter (fun u => ((env.latency u.id).average).isSome) = [] := by
        rw [List.filter_singleton, h]
        rfl
      have huntested : [u].filter (fun u => !((env.latency u.id).average).isSome) = [u] := by
        rw [List.filter_singleton, h]
        rfl
      rw [htested, huntested, hshuffle [u] (Or.inr rfl), List.mergeSort_nil, List.append_nil]

/-- 速さの記録は、奥の状態を動かさずに終わる。 -/
theorem Proxy.recordLatency_ok (h : p.Before base) (u : TrackedUpstream (Upstream W)) (start : Nat)
    (result : Except DohError Message) (w : W) :
    ∃ w', p.recordLatency u start result w = (.ok (), w') ∧ base w' = base w := by
  cases result with
  | error e => exact ⟨w, rfl, rfl⟩
  | ok m => exact ⟨_, rfl, (h.latency _ _ _).trans (h.now w)⟩

/-- 一つの試みの結果は、記録の前の `exchange` の結果である。 -/
theorem Proxy.trackedExchange_spec (h : p.Before base) (u : TrackedUpstream (Upstream W))
    (req : Message) (w : W) :
    let r := u.upstream.exchange p.codec p.suite p.net req (p.net.now w).2
    let r' := p.trackedExchange u req w
    base r'.2 = base r.2 ∧ (∀ m, r'.1 = .ok (.ok m) ↔ r.1 = .ok m) ∧
      (r'.1 = .pending → r.1 = .pending) := by
  dsimp only
  have hnow : instantNow p.net w = (.ok (p.net.now w).1, (p.net.now w).2) := rfl
  have hrun : p.trackedExchange u req w
      = ((u.upstream.exchange p.codec p.suite p.net req).attempt >>= fun result =>
          p.recordLatency u (p.net.now w).1 result >>= fun _ => pure result) (p.net.now w).2 := by
    unfold Proxy.trackedExchange
    rw [Async.bind_ok hnow]
  rw [hrun]
  cases hex : u.upstream.exchange p.codec p.suite p.net req (p.net.now w).2 with
  | mk r w' =>
    cases r with
    | ok m =>
      obtain ⟨w'', hrec, hbase⟩ := p.recordLatency_ok h u (p.net.now w).1 (.ok m) w'
      rw [Async.bind_ok (Async.attempt_ok hex), Async.bind_ok hrec]
      exact ⟨hbase, fun m' => by simp [Async.pure_apply], fun hp => by cases hp⟩
    | err e =>
      obtain ⟨w'', hrec, hbase⟩ := p.recordLatency_ok h u (p.net.now w).1 (.error e) w'
      rw [Async.bind_ok (Async.attempt_err hex), Async.bind_ok hrec]
      exact ⟨hbase, fun m' => by simp [Async.pure_apply], fun hp => by cases hp⟩
    | pending =>
      have hattempt : (u.upstream.exchange p.codec p.suite p.net req).attempt (p.net.now w).2
          = (.pending, w') := by
        unfold Async.attempt
        rw [hex]
      rw [Async.bind_pending hattempt]
      exact ⟨rfl, fun m' => by simp, fun _ => rfl⟩
    | panic =>
      have hattempt : (u.upstream.exchange p.codec p.suite p.net req).attempt (p.net.now w).2
          = (.panic, w') := by
        unfold Async.attempt
        rw [hex]
      rw [Async.bind_apply, hattempt]
      exact ⟨rfl, fun m' => by simp, fun hp => by cases hp⟩

/-- 上流を試し終えた後の `UpstreamConfig::exchange`。 -/
def Proxy.lastResult (p : Proxy W) (name : Text) :
    Except (Option DohError) Message → Async W DohError (Except DohError Message)
  | .ok resp => pure (.ok resp)
  | .error lastErr => pure (.error (lastErr.getD (.bootstrap (String.ofList
      (text "no upstreams configured for " ++ name.debug p.net.std.unprintable)))))

/-- 設定を読み、cursor を進めてから、並べた上流を順に試す。 -/
theorem Proxy.handler_eq (p : Proxy W) (req : Message) (w : W) :
    p.handler req w
      = (UpstreamConfig.tryUpstreams (fun u => p.trackedExchange u req)
          ((p.config.get w).upstreamsFor (p.orderEnv w) (UpstreamConfig.queryName p.escape req)).1
          none >>= fun result =>
            p.lastResult (UpstreamConfig.queryName p.escape req) result >>= Proxy.ofResult)
        (p.config.set ((p.config.get w).upstreamsFor (p.orderEnv w)
          (UpstreamConfig.queryName p.escape req)).2 w) := by
  unfold Proxy.handler
  rw [← Async.bind_assoc]
  rfl

/-- **upstream が一つなら、`into_handler` の答えはその `exchange` の答えである。** -/
theorem Proxy.handler_carries {l : Relay Message Message} {y : Handler σ}
    {u : TrackedUpstream (Upstream W)} (h : p.Before base)
    (honly : ∀ w name, ((p.config.get w).upstreamsFor (p.orderEnv w) name).1 = [u])
    (hx : Carries D l base (fun req => u.upstream.exchange p.codec p.suite p.net req) y) :
    Carries D l base p.handler y := by
  -- 設定を読み、cursor を進め、時刻を読んでから試みる
  have hspec : ∀ req w, ∃ w₁, base w₁ = base w ∧
      let r := u.upstream.exchange p.codec p.suite p.net req w₁
      let r' := p.handler req w
      base r'.2 = base r.2 ∧ (∀ m, r'.1 = .ok m ↔ r.1 = .ok m) ∧
        (r'.1 = .pending → r.1 = .pending) := by
    intro req w
    let c := p.config.get w
    let w₀ := p.config.set (c.upstreamsFor (p.orderEnv w) (UpstreamConfig.queryName p.escape req)).2 w
    obtain ⟨hbase, hok, hpending⟩ := p.trackedExchange_spec h u req w₀
    refine ⟨(p.net.now w₀).2, (h.now w₀).trans (h.config _ w), ?_⟩
    dsimp only
    rw [← hbase]
    have hrun := p.handler_eq req w
    rw [honly] at hrun
    rw [hrun]
    unfold UpstreamConfig.tryUpstreams
    rw [Async.bind_assoc]
    cases htry : p.trackedExchange u req w₀ with
    | mk r w' =>
      rw [htry] at hok hpending
      cases r with
      | ok result =>
        rw [Async.bind_ok htry]
        cases result with
        | ok m =>
          refine ⟨rfl, fun m' => ?_, fun hp => (by cases hp)⟩
          rw [← hok]
          show (Outcome.ok m : Outcome DohError Message) = .ok m' ↔
            (Outcome.ok (Except.ok m) : Outcome DohError (Except DohError Message)) = .ok (.ok m')
          simp
        | error e =>
          refine ⟨rfl, fun m' => ?_, fun hp => (by cases hp)⟩
          rw [← hok]
          exact ⟨fun hm => (by cases hm), fun hm => by cases hm⟩
      | err e =>
        rw [Async.bind_err htry]
        exact ⟨rfl, fun m' => by rw [← hok]; simp, fun hp => by cases hp⟩
      | pending =>
        rw [Async.bind_pending htry]
        exact ⟨rfl, fun m' => by rw [← hok]; simp, fun _ => hpending rfl⟩
      | panic =>
        rw [Async.bind_apply, htry]
        exact ⟨rfl, fun m' => by rw [← hok]; simp, fun hp => by cases hp⟩
  constructor
  · intro req w m hreq
    obtain ⟨w₁, hw₁, -, hok, -⟩ := hspec req w
    rw [hok, hx.ok req w₁ m hreq, hw₁]
  · intro req w hreq hs
    obtain ⟨w₁, hw₁, hbase, -, -⟩ := hspec req w
    rw [hbase, hx.once _ _ hreq hs, hw₁]
  · intro req w hreq hs
    obtain ⟨w₁, hw₁, hbase, -, -⟩ := hspec req w
    rw [hbase, hx.unsent _ _ hreq hs, hw₁]
  · intro hy req w hreq hp
    obtain ⟨w₁, -, -, -, hpending⟩ := hspec req w
    exact hx.responsive hy req w₁ hreq (hpending hp)

end

/-! ## 段 -/

inductive Transport where
  | tcp
  | dot
  | doq
  deriving DecidableEq, Repr

/-- ID を 0 にして送る。 -/
def Transport.zeroesId : Transport → Bool
  | .doq => true
  | _ => false

/-- 一つの段。ここの proxy の upstream の設定と、その先の listener への経路。 -/
structure Hop where
  transport : Transport
  host : String
  port : UInt16
  /-- host の指す宛先。 -/
  ips : List IpAddr
  ips_ne_nil : ips ≠ []
  preferIpv6 : Bool
  timeout : Option Duration
  insecureSkipVerify : Bool
  mode : UpstreamMode
  chop : Chopping
  /-- 相手が DoQ の応答を読み終えるのを、待てるかどうか。 -/
  stopped : Reply Empty Unit
  lru : LruCache CacheKey CacheEntry

/-- 一つの段の proxy の状態。 -/
structure HopState (h : Hop) where
  cursor : UInt64
  latency : LatencyTracker
  conn : Option Nat
  cache : Cache h.lru

section

variable {S : Type} (h : Hop) (codec : Codec) (suite : CryptoSuite) (std : StdText)
  (escape : LabelEscape) (ema : UInt64 → UInt64 → UInt64) (handler : Handler S)

def Hop.upstream : Upstream (StreamLink × (HopState h × S)) :=
  match h.transport with
  | .tcp => .plainTcp
    { host := h.host, port := h.port, resolver := .static h.ips, preferIpv6 := h.preferIpv6
      timeout := h.timeout }
  | .dot => .dot
    { host := h.host, port := h.port, resolver := .static h.ips, preferIpv6 := h.preferIpv6
      timeout := h.timeout, insecureSkipVerify := h.insecureSkipVerify }
  | .doq => .doq
    { host := h.host, port := h.port, resolver := .static h.ips, preferIpv6 := h.preferIpv6
      timeout := h.timeout, insecureSkipVerify := h.insecureSkipVerify
      conn :=
        { get := fun t => t.2.1.conn
          set := fun v t => (t.1, ({ t.2.1 with conn := v }, t.2.2)) } }

/-- 次の段の listener。 -/
def Hop.peer : Peer (HopState h × S) :=
  match h.transport with
  | .tcp => tcpPeer codec (Net.unreachable std) h.chop handler.onSnd
  | .dot => dotPeer codec (Net.unreachable std) h.chop handler.onSnd
  | .doq => doqPeer codec (Net.unreachable std) h.chop handler.onSnd h.stopped

def Hop.net : Net (StreamLink × (HopState h × S)) :=
  peerNet (h.peer codec std handler) (Net.unreachable std)

/-- 既定の upstream を一つ持つ proxy。 -/
def Hop.proxy : Proxy (StreamLink × (HopState h × S)) where
  codec
  suite
  net := h.net codec std handler
  escape
  ema
  config :=
    { get := fun t =>
        { domainUpstreams := ∅
          defaultUpstreams :=
            { upstreams := [{ id := 0, upstream := h.upstream }], roundRobinCursor := t.2.1.cursor }
          mode := h.mode }
      set := fun c t =>
        (t.1, ({ t.2.1 with cursor := c.defaultUpstreams.roundRobinCursor }, t.2.2)) }
  latency _ :=
    { get := fun t => t.2.1.latency
      set := fun v t => (t.1, ({ t.2.1 with latency := v }, t.2.2)) }
  shuffle _ l := l
  shuffle_perm _ l := .refl l
  lru := h.lru
  cache :=
    { get := fun t => t.2.1.cache
      set := fun c t => (t.1, ({ t.2.1 with cache := c }, t.2.2)) }

end

/-- 段の並びの状態。 -/
def ChainState (S : Type) : List Hop → Type
  | [] => S
  | h :: hops => StreamLink × (HopState h × ChainState S hops)

/-- 並びの先の `origin` の状態。 -/
def ChainState.origin {S : Type} : (hops : List Hop) → ChainState S hops → S
  | [], s => s
  | _ :: hops, t => origin hops t.2.2

/-- 段を順に繋いだもの。 -/
def chain {S : Type} (codec : Codec) (suite : CryptoSuite) (std : StdText) (escape : LabelEscape)
    (ema : UInt64 → UInt64 → UInt64) (origin : Handler S) :
    (hops : List Hop) → Handler (ChainState S hops)
  | [] => origin
  | h :: hops =>
    (h.proxy codec suite std escape ema (chain codec suite std escape ema origin hops)).handler

section

variable {S : Type} {codec : Codec} {handler : Handler S} {std : StdText} {D : Message → Prop}

/--
やり取りに現れる message を `D` に挙げたもの。

ID の付け替えと `handler` の応答について閉じていて、どれもそのまま読み戻される。
-/
structure Passes (codec : Codec) (handler : Handler S) (D : Message → Prop) : Prop where
  round : ∀ m, D m → codec.RoundTrips m
  setId : ∀ m id, D m → D (m.setId id)
  replies : ∀ req s m, D req → (handler req s).1 = .ok m → D m

namespace Passes

variable (h : Passes codec handler D) (zeroId : Bool)

include h

theorem onWire {m : Message} (hm : D m) : D (onWire zeroId m) := by
  cases zeroId with
  | false => exact hm
  | true => exact h.setId m 0 hm

theorem restored (req : Message) {m : Message} (hm : D m) : D (restored zeroId req m) := by
  cases zeroId with
  | false => exact hm
  | true => exact h.setId m _ hm

theorem readsBack {req : Message} (hreq : D req) {hop : Hop} (s : HopState hop × S) :
    ReadsBack codec handler.onSnd zeroId req s where
  request := h.round _ (h.onWire zeroId hreq)
  response m hm := h.round _ (h.onWire zeroId (h.replies _ s.2 m (h.onWire zeroId hreq) hm))

end Passes

/-- 一回の往復についての事実から、中継としての働きを得る。 -/
theorem carries_of_conducts {hop : Hop} {zeroId : Bool} (hpass : Passes codec handler D)
    {x : Message → Async (StreamLink × (HopState hop × S)) DohError Message}
    (h : ∀ req t, D req → ∃ (t' : StreamLink × (HopState hop × S)) (s : HopState hop × S)
      (r : _ × _),
      Conducts codec handler.onSnd zeroId req t' s r ∧ t'.2.2 = t.2.2 ∧ s.2 = t.2.2 ∧
      (x req t).1 = r.1 ∧ (x req t).2.2.2 = r.2.2.2) :
    Carries D (overStream codec zeroId) (fun t => t.2.2) x handler where
  ok req t m hreq := by
    obtain ⟨t', s, r, hr, -, hs, hval, -⟩ := h req t hreq
    rw [hval, hr.ok, ← hs]
    refine and_congr_right fun _ => exists_congr fun m' => ?_
    exact and_congr_right fun _ => and_assoc.symm
  once req t hreq hsends := by
    obtain ⟨t', s, r, hr, -, hs, -, hstate⟩ := h req t hreq
    show (x req t).2.2.2 = _
    rw [hstate, hr.once hsends, ← hs]
    rfl
  unsent req t hreq hsends := by
    obtain ⟨t', s, r, hr, ht', -, -, hstate⟩ := h req t hreq
    obtain ⟨e, rfl⟩ := hr.unsent hsends
    exact hstate.trans ht'
  responsive hans req t hreq hp := by
    obtain ⟨t', s, r, hr, -, -, hval, -⟩ := h req t hreq
    rw [hval] at hp
    exact hans _ _ (hpass.onWire zeroId hreq) (hr.waits hp)

/-- host は綴りのままか名前引きかで、いつも宛先になる。 -/
theorem Hop.resolves {T : Type} (h : Hop) (net : Net T) (t : T) :
    ∃ ips, ips ≠ [] ∧ resolveIps net h.host h.timeout (.static h.ips) t = (.ok ips, t) := by
  unfold resolveIps
  cases net.std.parseIp h.host with
  | some ip => exact ⟨[ip], by simp, rfl⟩
  | none => exact ⟨h.ips, h.ips_ne_nil, Async.timeout_ok rfl⟩

variable (std) (suite : CryptoSuite)

theorem Hop.carries_exchange (hpass : Passes codec handler D) (h : Hop)
    (hans : Responsive D handler) :
    Carries D (overStream codec h.transport.zeroesId) (fun t => t.2.2)
      (fun req => h.upstream.exchange codec suite (h.net codec std handler) req) handler := by
  refine carries_of_conducts hpass fun req t hreq => ?_
  obtain ⟨ips, hne, hips⟩ := h.resolves (h.net codec std handler) t
  cases htransport : h.transport with
  | tcp =>
    unfold Hop.net Hop.peer at hips
    unfold Hop.upstream Hop.net Hop.peer
    rw [htransport] at hips ⊢
    exact ⟨t, t.2, _, PlainTcpUpstream.conducts h.chop (hpass.readsBack false hreq t.2)
      (PlainTcpUpstream.dial_peerNet hne hips), rfl, rfl, rfl, rfl⟩
  | dot =>
    unfold Hop.net Hop.peer at hips
    unfold Hop.upstream Hop.net Hop.peer
    rw [htransport] at hips ⊢
    exact ⟨t, t.2, _, DotUpstream.conducts h.chop (hpass.readsBack false hreq t.2)
      (DotUpstream.dial_peerNet hne rfl hips), rfl, rfl, rfl, rfl⟩
  | doq =>
    unfold Hop.net Hop.peer at hips
    unfold Hop.upstream Hop.net Hop.peer
    rw [htransport] at hips ⊢
    let u : DoqUpstream (StreamLink × (HopState h × S)) :=
      { host := h.host, port := h.port, resolver := .static h.ips, preferIpv6 := h.preferIpv6
        timeout := h.timeout, insecureSkipVerify := h.insecureSkipVerify
        conn :=
          { get := fun t => t.2.1.conn
            set := fun v t => (t.1, ({ t.2.1 with conn := v }, t.2.2)) } }
    have hgot : ∃ conn cached t', u.getConn
        (peerNet (doqPeer codec (Net.unreachable std) h.chop handler.onSnd h.stopped)
          (Net.unreachable std)) t = (.ok (conn, cached), t') ∧ t'.2.2 = t.2.2 := by
      cases hconn : t.2.1.conn with
      | some c => exact ⟨c, true, t, u.getConn_cached hconn, rfl⟩
      | none => exact ⟨0, false, _, u.getConn_dialed t hconn hips hne, rfl⟩
    -- 失敗して connection を手放しても、奥の状態は動かない
    have hreleased : ∀ r : Outcome DohError Message × (StreamLink × (HopState h × S)),
        (u.released (Net.unreachable std) r).1 = r.1 ∧
          (u.released (Net.unreachable std) r).2.2.2 = r.2.2.2 := by
      rintro ⟨r, t'⟩
      cases r <;> exact ⟨rfl, rfl⟩
    obtain ⟨conn, cached, t', hconn, ht'⟩ := hgot
    obtain ⟨r, hr, hrun⟩ := u.conducts h.chop h.stopped (hpass.readsBack true hreq t'.2) hconn
      fun _ => hans _ _ (hpass.onWire true hreq)
    exact ⟨t', t'.2, r, hr, ht', ht', (congrArg Prod.fst hrun).trans (hreleased r).1,
      (congrArg (fun r => r.2.2.2) hrun).trans (hreleased r).2⟩

variable (escape : LabelEscape) (ema : UInt64 → UInt64 → UInt64)

/-- 一つの段の proxy は、次の段への stream の中継である。 -/
theorem Hop.carries (hpass : Passes codec handler D) (h : Hop) (hans : Responsive D handler) :
    Carries D (overStream codec h.transport.zeroesId) (fun t => t.2.2)
      (h.proxy codec suite std escape ema handler).handler handler := by
  have hbefore : (h.proxy codec suite std escape ema handler).Before fun t => t.2.2 :=
    ⟨fun _ _ => rfl, fun _ _ _ => rfl, fun _ => rfl⟩
  have honly : ∀ w name, (((h.proxy codec suite std escape ema handler).config.get w).upstreamsFor
      ((h.proxy codec suite std escape ema handler).orderEnv w) name).1
        = [{ id := 0, upstream := h.upstream }] := fun _ _ => ordered_singleton _ _ _ _
  exact Proxy.handler_carries hbefore honly (h.carries_exchange std suite hpass hans)

/-- 中継の返すものも、`D` に属する。 -/
theorem Passes.over {T : Type} {zeroId : Bool} {base : T → S} {x : Handler T}
    (hpass : Passes codec handler D) (hx : Carries D (overStream codec zeroId) base x handler) :
    Passes codec x D where
  round := hpass.round
  setId := hpass.setId
  replies := hx.replies (fun _ => hpass.onWire zeroId) (fun req _ => hpass.restored zeroId req)
    hpass.replies

/-- **段を何段繋いでも、一つの stream の中継と同じである。** -/
theorem chain_carries (hpass : Passes codec handler D) (hid : codec.IdFree)
    (hans : Responsive D handler) (hops : List Hop) (hne : hops ≠ []) :
    Carries D (overStream codec (hops.any fun h => h.transport.zeroesId)) (ChainState.origin hops)
      (chain codec suite std escape ema handler hops) handler := by
  induction hops with
  | nil => exact absurd rfl hne
  | cons h hops ih =>
    cases hops with
    | nil =>
      rw [List.any_cons, List.any_nil, Bool.or_false]
      exact h.carries std suite escape ema hpass hans
    | cons h' hops =>
      have hrest := ih (by simp)
      have hfirst := h.carries std suite escape ema (hpass.over hrest) (hrest.responsive hans)
      rw [List.any_cons]
      exact (hfirst.comp (fun _ => hpass.onWire _) hrest).congr (hid.comp_same _ _)

end

/-! ## 三段の連鎖 -/

/-- ID を前に書き、残りを並べた組で変換する `Codec`。 -/
def idFreeCodec (table : List (Message × Bytes)) : Codec :=
  { tableCodec table with
    toBytes := fun m =>
      ((tableCodec table).toBytes (m.setId 0)).map fun b => Bytes.toBe16 m.metadata.id ++ b
    fromBytes := fun
      | hi :: lo :: b => ((tableCodec table).fromBytes b).map fun m => m.setId (Bytes.ofBe16 hi lo)
      | _ => .error "unexpected end of input reached" }

theorem idFreeCodec_roundTrips {table : List (Message × Bytes)} (h : (table.map Prod.snd).Nodup)
    (m : Message) : (idFreeCodec table).RoundTrips m := by
  intro b hb
  obtain ⟨rest, hrest, rfl⟩ := Except.map_eq_ok_iff.mp hb
  refine Except.map_eq_ok_iff.mpr ⟨m.setId 0, tableCodec_fromBytes h hrest, ?_⟩
  rw [Bytes.ofBe16_toBe16, setId_setId, setId_self]

theorem idFree_idFreeCodec (table : List (Message × Bytes)) : (idFreeCodec table).IdFree := by
  intro m id b hb
  obtain ⟨rest, hrest, rfl⟩ := Except.map_eq_ok_iff.mp hb
  exact ⟨_, Except.map_eq_ok_iff.mpr ⟨rest, hrest, rfl⟩, rfl⟩

/-- 要求に印を付けて返し、届いた要求を記録する。 -/
def loggingOrigin : Handler (List Message) := fun req log =>
  (.ok { req with metadata := { req.metadata with messageType := .response } }, log ++ [req])

def chainCodec : Codec :=
  idFreeCodec [(queryA.setId 0, [0]),
    ({ queryA.setId 0 with metadata := { queryA.metadata with id := 0, messageType := .response } },
      [1])]

def sampleHop (transport : Transport) : Hop where
  transport
  host := "dns.example"
  port := 853
  ips := [.v4 0x7F000001]
  ips_ne_nil := by simp
  preferIpv6 := false
  timeout := some (Duration.fromSecs 10)
  insecureSkipVerify := false
  mode := .loadBalance
  chop := .bytes
  stopped := .pending
  lru := Lru.cache _ _

/-- 起動したばかりの proxy。 -/
def HopState.start (h : Hop) : HopState h where
  cursor := 0
  latency := {}
  conn := none
  cache := Cache.new h.lru
    { size := 1, size_pos := by decide, minTtl := Duration.fromSecs 0, maxTtl := none }

def sampleHops : List Hop := [sampleHop .tcp, sampleHop .doq, sampleHop .dot]

def sampleStart : ChainState (List Message) sampleHops :=
  (.fresh, (.start _, (.fresh, (.start _, (.fresh, (.start _, []))))))

end DnsProxy
