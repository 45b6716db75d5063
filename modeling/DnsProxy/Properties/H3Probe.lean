import Mathlib.Data.Set.Insert
import DnsProxy.Properties.RetrySlots

/-!
# HTTP/3 を探る握手と、HTTP/3 で繋ぐ握手

`should_use_http3` は、QUIC の握手と TLS の握手を競わせて HTTP/3 を使うかどうかを決め、その結果を
`prefer_h3` に取っておく。実際に繋ぐのは `get_h3_transport` の transport である。二つは別々に TLS の
設定を作り、差し出す ALPN が違う。

* `should_use_http3` は `h2` を差し出す
* `get_h3_transport` は `h3` を差し出す

QUIC の握手が成るのは、差し出した ALPN を相手が受け入れるとき、かつそのときに限る、とする。すると
探りの結果が実際の握手と食い違わないのは、相手が `h2` と `h3` の両方を受け入れるか、どちらも
受け入れないときに限る（`h3_probe_agrees_iff`）。`h3` だけを受け入れる相手では、QUIC が先に終わっても
HTTP/3 は選ばれない。

1. 探りの握手が `probeDial` であることは、`should_use_http3` を一つずつ辿って確かめる
2. transport の握手が `transportDial` であることは、置き場所の transport が `get_h3_transport` の
   作ったものであることを、順に行う `exchange` の間の不変条件として示して確かめる
-/

namespace DnsProxy

open Infra

variable {W : Type} {codec : Codec} {net : Net W}

/-! ## 仕様の語彙 -/

/-- 世界 `w` で `op` を行えば、connection ができる。 -/
def Connects (op : Op W String Nat) (w : W) : Prop := ∃ conn w', op w = (.ok conn, w')

/-- `host` の QUIC の口は、`S` の protocol を受け入れる。握手が成るのは、差し出したものの中に
受け入れるものがあるときに限る。 -/
def AcceptsAlpn (net : Net W) (host : String) (S : Set String) : Prop :=
  ∀ addr config w, Connects (net.dialQuic addr host config) w ↔ ∃ p ∈ config.alpns, p ∈ S

namespace DohUpstream

/-- `should_use_http3` の `probe_h3` がする `dial_quic`。 -/
def probeDial (net : Net W) (u : DohUpstream W) (addr : SocketAddr) : Op W String Nat :=
  net.dialQuic addr u.host (buildTlsConfig u.host u.insecureSkipVerify ["h2"])

/-- `get_h3_transport` の transport がする `dial_quic`。 -/
def transportDial (net : Net W) (u : DohUpstream W) (addr : SocketAddr) : Op W String Nat :=
  net.dialQuic addr u.host (buildTlsConfig u.host u.insecureSkipVerify ["h3"])

/--
`w` からの `should_use_http3` が探りに入り、QUIC の方が先に終わること。

`addr` は探る宛先、`w₁` は握手を始めるときの世界である。
-/
structure QuicWins (net : Net W) (u : DohUpstream W) (w : W) (addr : SocketAddr) (w₁ : W) :
    Prop where
  unknown : u.preferH3.get (net.lock w) = none
  first : ∃ rest w', resolveAddrs net u.host u.port u.timeout u.resolver u.preferIpv6 (net.lock w)
      = (.ok (addr :: rest), w') ∧ net.quicFirst w' = (.ok true, w₁)
  finished : ∀ w₂, u.probeDial net addr w₁ ≠ (.pending, w₂)

/-! ## 探りの結果 -/

/-- QUIC が先に終われば、競走の結果は握手が成ったかどうかである。 -/
theorem raceH3_of_quicFirst {addr : SocketAddr} {serverName : String} {config : TlsConfig}
    {w w₁ w₂ : W} {r : Reply String Nat} (hfirst : net.quicFirst w = (.ok true, w₁))
    (hdial : net.dialQuic addr serverName config w₁ = (r, w₂)) (hfin : r ≠ .pending) :
    ∃ ok, raceH3 net addr serverName config w = (.ok ok, w₂) ∧ (ok = true ↔ ∃ c, r = .ok c) := by
  have hstart : (Async.call Empty.elim net.quicFirst : Async W DohError Bool) w = (.ok true, w₁) :=
    Async.call_ok hfirst
  unfold raceH3
  rw [Async.bind_ok hstart, if_pos rfl]
  unfold succeeded
  cases r with
  | ok c =>
    have hop : quicOp (net.dialQuic addr serverName config) w₁ = (.ok c, w₂) := Async.call_ok hdial
    rw [Async.bind_ok (Async.attempt_ok hop)]
    exact ⟨true, rfl, by simp⟩
  | err e =>
    have hop : quicOp (net.dialQuic addr serverName config) w₁ = (.err (.quic e), w₂) :=
      Async.call_err hdial
    rw [Async.bind_ok (Async.attempt_err hop)]
    exact ⟨false, rfl, by simp⟩
  | pending => exact absurd rfl hfin

/-- 期限は、終わった競走の結果を変えない。 -/
theorem probeH3_of_raceH3 {addr : SocketAddr} {serverName : String} {config : TlsConfig}
    {timeout : Option Duration} {w w' : W} {ok : Bool}
    (hrace : raceH3 net addr serverName config w = (.ok ok, w')) :
    probeH3 net addr serverName config timeout true w = (.ok ok, w') := by
  have hintime : withTimeout timeout (raceH3 net addr serverName config) w = (.ok ok, w') :=
    Async.timeout_ok hrace
  unfold probeH3
  rw [if_neg (by decide), Async.bind_ok (Async.attempt_ok hintime)]
  rfl

/-- まだ決めていなければ、`should_use_http3` は最初の宛先を探り、その結果を `prefer_h3` に残す。 -/
theorem shouldUseHttp3_of_probe {u : DohUpstream W} (hh3 : u.httpVersions.contains .http3 = true)
    (hh2 : u.http2Supported = true) {w w' w₂ : W} {addr : SocketAddr} {rest : List SocketAddr}
    {prefer : Bool} (hunknown : u.preferH3.get (net.lock w) = none)
    (hresolve : resolveAddrs net u.host u.port u.timeout u.resolver u.preferIpv6 (net.lock w)
      = (.ok (addr :: rest), w'))
    (hprobe : probeH3 net addr u.host (buildTlsConfig u.host u.insecureSkipVerify ["h2"])
      u.timeout true w' = (.ok prefer, w₂)) :
    u.shouldUseHttp3 net w = (.ok prefer, u.preferH3.set (some prefer) (net.lock w₂)) := by
  have hlock : lock net w = (.ok (), net.lock w) := rfl
  have hread : (Async.read u.preferH3 : Async W DohError (Option Bool)) (net.lock w)
      = (.ok none, net.lock w) := by
    rw [← hunknown]
    rfl
  unfold shouldUseHttp3
  rw [hh3, hh2]
  simp only [Bool.not_true, Bool.false_eq_true, if_false]
  rw [Async.bind_ok hlock, Async.bind_ok hread]
  dsimp only
  rw [Async.bind_ok hresolve]
  show (probeH3 net addr u.host (buildTlsConfig u.host u.insecureSkipVerify ["h2"])
    u.timeout true >>= _) w' = _
  rw [Async.bind_ok hprobe]
  rfl

/-- **QUIC が先に終われば、`should_use_http3` の答えは探りの握手が成ったかどうかで、
それが `prefer_h3` に残る。** -/
theorem shouldUseHttp3_of_quicWins {u : DohUpstream W} (hh3 : u.httpVersions.contains .http3 = true)
    (hh2 : u.http2Supported = true) {w w₁ : W} {addr : SocketAddr} (h : u.QuicWins net w addr w₁) :
    ∃ prefer w₂, u.shouldUseHttp3 net w = (.ok prefer, u.preferH3.set (some prefer) w₂) ∧
      (prefer = true ↔ Connects (u.probeDial net addr) w₁) := by
  obtain ⟨rest, w', hresolve, hfirst⟩ := h.first
  cases hdial : u.probeDial net addr w₁ with
  | mk r w₂ =>
    have hfin : r ≠ .pending := by
      rintro rfl
      exact h.finished w₂ hdial
    obtain ⟨prefer, hrace, hprefer⟩ := raceH3_of_quicFirst hfirst hdial hfin
    refine ⟨prefer, net.lock w₂,
      shouldUseHttp3_of_probe hh3 hh2 h.unknown hresolve (probeH3_of_raceH3 hrace), ?_⟩
    rw [hprefer]
    constructor
    · rintro ⟨c, rfl⟩
      exact ⟨c, w₂, hdial⟩
    · rintro ⟨c, w₃, hc⟩
      rw [hdial] at hc
      cases hc
      exact ⟨c, rfl⟩

/-! ## 置き場所の transport -/

/-- 置き場所の transport は、どれも `get_h3_transport` の設定で作られている。 -/
def H3Built (u : DohUpstream W) (s : DohState) : Prop :=
  ∀ t, s.h3 = some t → t.serverName = u.host ∧
    t.tlsConfig = buildTlsConfig u.host u.insecureSkipVerify ["h3"]

theorem h3Built_new (u : DohUpstream W) : u.H3Built DohState.new := by
  intro t h
  cases h

/-- transport の置き場所を変えない計算は `H3Built` を保つ。 -/
theorem preserves_of_keeps {α : Type} {u : DohUpstream W} {x : Async (DohState × W) DohError α}
    (h : x.Keeps fun s => s.1.h3) : x.Preserves fun s => u.H3Built s.1 := by
  refine h.preserves fun s s' hs hbuilt t ht => ?_
  exact hbuilt t (hs ▸ ht)

/-- `should_use_http3` は `prefer_h3` のほかに触れない。 -/
theorem keeps_shouldUseHttp3 (u : DohUpstream W) :
    (u.sole.shouldUseHttp3 net.onSnd).Keeps fun s => s.1.h3 := by
  have htls : ∀ addr, (probeTls (net.onSnd : Net (DohState × W)) addr u.host).Keeps
      fun s => s.1.h3 := by
    intro addr
    refine Async.Keeps.bind (keeps_call _) fun tcp => ?_
    refine (Async.Keeps.lift _).bind fun _ => ?_
    exact (keeps_call _).bind fun _ => Async.Keeps.pure _
  have hrace : ∀ addr config, (raceH3 (net.onSnd : Net (DohState × W)) addr u.host config).Keeps
      fun s => s.1.h3 := by
    intro addr config
    refine (keeps_call _).bind fun quicFirst => ?_
    split
    · exact Async.Keeps.bind (Async.Keeps.attempt (keeps_call _)) fun r => Async.Keeps.pure _
    · refine Async.Keeps.bind ?_ fun tlsOk => Async.Keeps.pure _
      exact (htls addr).attempt.bind fun r => Async.Keeps.pure _
  have hprobe : ∀ addr config timeout,
      (probeH3 (net.onSnd : Net (DohState × W)) addr u.host config timeout true).Keeps
        fun s => s.1.h3 := by
    intro addr config timeout
    unfold probeH3
    rw [if_neg (by decide)]
    exact Async.Keeps.bind (Async.Keeps.timeout (hrace addr config)).attempt fun r =>
      Async.Keeps.pure _
  unfold shouldUseHttp3
  split
  · exact Async.Keeps.pure _
  · split
    · exact Async.Keeps.pure _
    · refine keeps_lock.bind fun _ => (Async.Keeps.gets _).bind fun prefer => ?_
      cases prefer with
      | some prefer => exact Async.Keeps.pure _
      | none =>
        refine (keeps_resolveAddrs _ _ _ u.resolver _).bind fun addrs => ?_
        refine (Async.Keeps.lift _).bind fun addr => (hprobe _ _ _).bind fun prefer => ?_
        exact fun _ => rfl

/-- `get_h3_transport` が置くのは、自分の設定で作ったものだけである。 -/
theorem preserves_getH3Transport (u : DohUpstream W) :
    (u.sole.getH3Transport net.onSnd).Preserves fun s => u.H3Built s.1 := by
  refine (preserves_of_keeps keeps_lock).bind fun _ => ?_
  refine (preserves_of_keeps (Async.Keeps.gets _)).bind fun slot => ?_
  cases slot with
  | some t => exact preserves_of_keeps (Async.Keeps.pure _)
  | none =>
    refine (preserves_of_keeps (keeps_resolveAddrs _ _ _ u.resolver _)).bind fun addrs => ?_
    refine (preserves_of_keeps (Async.Keeps.lift _)).bind fun addr => ?_
    intro s _ t ht
    cases ht
    exact ⟨rfl, rfl⟩

/-- HTTP/1.1・HTTP/2 の再試行は、transport の置き場所に触れない。 -/
theorem preserves_clientRetry (u : DohUpstream W) (req : Message) :
    (u.sole.clientRetry codec net.onSnd req).exchange.Preserves fun s => u.H3Built s.1 := by
  have helapsed : ∀ start, (u.sole.checkElapsed net.onSnd start).Keeps fun s => s.1.h3 := by
    intro start
    unfold checkElapsed
    split
    · exact Async.Keeps.pure _
    · refine Async.Keeps.bind (fun _ => rfl) fun now => ?_
      split
      · exact Async.Keeps.bind (fun _ => rfl) fun _ => Async.Keeps.throw _
      · exact Async.Keeps.pure _
  have hget : (u.sole.getClient net.onSnd).Keeps fun s => s.1.h3 := by
    refine keeps_lock.bind fun _ => (Async.Keeps.gets _).bind fun c => ?_
    cases c with
    | some c => exact Async.Keeps.pure _
    | none =>
      refine Async.Keeps.bind (fun _ => rfl) fun start => ?_
      refine u.keeps_createClient.bind fun client => (helapsed start).bind fun _ => ?_
      exact fun _ => rfl
  have hreset : (u.sole.resetClient net.onSnd).Keeps fun s => s.1.h3 := by
    refine keeps_lock.bind fun _ => u.keeps_createClient.bind fun client => ?_
    exact fun _ => rfl
  refine Retry.preserves_exchange (preserves_of_keeps hget) ?_ ?_ ?_
  · exact fun client => preserves_of_keeps (u.keeps_exchangeHttps client _ req)
  · exact fun _ => preserves_of_keeps hreset
  · exact preserves_of_keeps fun _ => rfl

theorem preserves_h3Retry (u : DohUpstream W) (req : Message) :
    (u.sole.h3Retry codec net.onSnd req).exchange.Preserves fun s => u.H3Built s.1 := by
  refine Retry.preserves_exchange u.preserves_getH3Transport ?_ ?_ ?_
  · exact fun t => preserves_of_keeps (u.keeps_h3Exchange t _ req)
  · exact fun t => preserves_of_keeps (u.keeps_h3Renew req t)
  · intro s _ t ht
    cases ht

/-- **置き場所の transport が `get_h3_transport` の作ったものであることは、`exchange` で保たれる。** -/
theorem preserves_exchange (u : DohUpstream W) (req : Message) :
    (u.sole.exchange codec net.onSnd req).Preserves fun s => u.H3Built s.1 := by
  rw [exchange_eq_retry]
  refine (preserves_of_keeps u.keeps_shouldUseHttp3).bind fun useH3 => ?_
  split
  · exact u.preserves_h3Retry req
  · exact u.preserves_clientRetry req

/-- 順に行う `exchange` の中で `get_h3_transport` が返す transport は、作ったばかりでも取ってあった
ものでも、`transportDial` で繋ぐ。 -/
theorem transport_dials {u : DohUpstream W} {run : List (Message × W)}
    {p : Message × (DohState × W)}
    (hp : p ∈ Async.starts (u.sole.exchange codec net.onSnd) DohState.new run)
    {s₁ s₂ : DohState × W} {useH3 cached : Bool} {t : Http3Transport}
    (huse : u.sole.shouldUseHttp3 net.onSnd p.2 = (.ok useH3, s₁))
    (hget : u.sole.getH3Transport net.onSnd s₁ = (.ok (t, cached), s₂)) :
    net.dialQuic t.serverAddr t.serverName t.tlsConfig = u.transportDial net t.serverAddr := by
  have hstart : u.H3Built p.2.1 :=
    Async.Preserves.starts (fun req => u.preserves_exchange req) u.h3Built_new p hp
  have hafter : u.H3Built s₂.1 :=
    u.preserves_getH3Transport.apply hget
      ((preserves_of_keeps u.keeps_shouldUseHttp3).apply huse hstart)
  have hslot : s₂.1.h3 = some t := by
    rw [getH3Transport_eq] at hget
    exact (Cell.getOrCreate_ok (c := u.sole.h3) (fun _ _ => rfl)
      (keeps_lock (f := DohState.h3)) hget).1
  obtain ⟨hname, hconfig⟩ := hafter t hslot
  unfold transportDial
  rw [hname, hconfig]

end DohUpstream

/-! ## 二つの握手の食い違い -/

variable {S : Set String}

/-- 一つだけ差し出した握手が成るのは、相手がそれを受け入れるときである。 -/
theorem AcceptsAlpn.single {host : String} (h : AcceptsAlpn net host S) (addr : SocketAddr)
    (insecureSkipVerify : Bool) (p : String) (w : W) :
    Connects (net.dialQuic addr host (buildTlsConfig host insecureSkipVerify [p])) w ↔ p ∈ S := by
  rw [h]
  simp [buildTlsConfig]

/--
**探りの握手と実際の握手が食い違わず、HTTP/3 を話す相手に QUIC が先に届けば HTTP/3 が選ばれるのは、
相手が `h2` と `h3` の両方を受け入れるか、どちらも受け入れないとき、かつそのときに限る。**

初めの二つは、`probeDial` と `transportDial` がそれぞれ `should_use_http3` と `get_h3_transport` の
握手であることを言う。
-/
theorem h3_probe_agrees_iff [Nonempty W] (codec : Codec) {u : DohUpstream W}
    (hh3 : u.httpVersions.contains .http3 = true) (hh2 : u.http2Supported = true)
    (hserver : AcceptsAlpn net u.host S) :
    (∀ w addr w₁, u.QuicWins net w addr w₁ →
      ∃ prefer w₂, u.shouldUseHttp3 net w = (.ok prefer, u.preferH3.set (some prefer) w₂) ∧
        (prefer = true ↔ Connects (u.probeDial net addr) w₁)) ∧
    (∀ run, ∀ p ∈ Async.starts (u.sole.exchange codec net.onSnd) DohState.new run,
      ∀ useH3 s₁ t cached s₂, u.sole.shouldUseHttp3 net.onSnd p.2 = (.ok useH3, s₁) →
        u.sole.getH3Transport net.onSnd s₁ = (.ok (t, cached), s₂) →
        net.dialQuic t.serverAddr t.serverName t.tlsConfig = u.transportDial net t.serverAddr) ∧
    ((∀ addr addr' w w',
        Connects (u.probeDial net addr) w ↔ Connects (u.transportDial net addr') w') ∧
      ("h3" ∈ S → ∀ w addr w₁, u.QuicWins net w addr w₁ →
        ∃ w₂, u.shouldUseHttp3 net w = (.ok true, u.preferH3.set (some true) w₂)) ↔
      ("h2" ∈ S ↔ "h3" ∈ S)) := by
  have hprobe : ∀ addr w, Connects (u.probeDial net addr) w ↔ "h2" ∈ S :=
    fun addr w => hserver.single addr u.insecureSkipVerify "h2" w
  have htransport : ∀ addr w, Connects (u.transportDial net addr) w ↔ "h3" ∈ S :=
    fun addr w => hserver.single addr u.insecureSkipVerify "h3" w
  refine ⟨fun w addr w₁ h => DohUpstream.shouldUseHttp3_of_quicWins hh3 hh2 h, ?_, ?_, ?_⟩
  · intro run p hp useH3 s₁ t cached s₂ huse hget
    exact DohUpstream.transport_dials hp huse hget
  · rintro ⟨hagree, -⟩
    obtain ⟨w⟩ := ‹Nonempty W›
    have haddr : SocketAddr := default
    rw [← hprobe haddr w, ← htransport haddr w]
    exact hagree haddr haddr w w
  · intro hboth
    refine ⟨?_, ?_⟩
    · intro addr addr' w w'
      rw [hprobe, htransport, hboth]
    · intro hspeaks w addr w₁ hwins
      obtain ⟨prefer, w₂, huse, hprefer⟩ := DohUpstream.shouldUseHttp3_of_quicWins hh3 hh2 hwins
      have htrue : prefer = true := hprefer.mpr ((hprobe addr w₁).mpr (hboth.mpr hspeaks))
      subst htrue
      exact ⟨w₂, huse⟩

/-! ### 具体的な相手 -/

/-- QUIC の口が `accepts` だけを受け入れ、競走では QUIC が先に終わる世界。世界は `prefer_h3` である。 -/
def Net.quicServer (accepts : List String) : Net (Option Bool) :=
  { Net.unreachable StdText.none with
    dialQuic := fun _ _ config w =>
      (if config.alpns.any accepts.contains then .ok 0 else .err "no application protocol", w)
    quicFirst := fun w => (.ok true, w) }

theorem Net.quicServer_accepts (accepts : List String) (host : String) :
    AcceptsAlpn (Net.quicServer accepts) host { p | p ∈ accepts } := by
  intro addr config w
  by_cases h : config.alpns.any accepts.contains = true
  · have hdial : (Net.quicServer accepts).dialQuic addr host config w = (.ok 0, w) := by
      show ((if config.alpns.any accepts.contains then _ else _), w) = _
      rw [if_pos h]
    constructor
    · intro _
      simpa using h
    · intro _
      exact ⟨0, w, hdial⟩
  · have hdial : (Net.quicServer accepts).dialQuic addr host config w
        = (.err "no application protocol", w) := by
      show ((if config.alpns.any accepts.contains then _ else _), w) = _
      rw [if_neg h]
    constructor
    · rintro ⟨c, w', hc⟩
      rw [hdial] at hc
      cases hc
    · intro hp
      exact absurd (by simpa using hp) h

/-- HTTP/2 と HTTP/3 を許す upstream。 -/
def sampleDoh : DohUpstream (Option Bool) where
  host := "dns.example"
  port := 443
  path := "/dns-query"
  addrRedacted := "https://dns.example:443/dns-query"
  httpVersions := [.http2, .http3]
  resolver := Resolver.static [.v4 0x7F000001]
  preferIpv6 := false
  timeout := some (Duration.fromSecs 10)
  insecureSkipVerify := false
  basicAuthHeader := none
  client := { get := fun _ => none, set := fun _ w => w }
  h3 := { get := fun _ => none, set := fun _ w => w }
  preferH3 := { get := id, set := fun v _ => v }
  h3Inner := fun _ => { get := fun _ => none, set := fun _ w => w }

theorem sampleDoh_resolves (accepts : List String) (w : Option Bool) :
    resolveAddrs (Net.quicServer accepts) sampleDoh.host sampleDoh.port sampleDoh.timeout
      sampleDoh.resolver sampleDoh.preferIpv6 w
      = (.ok [{ ip := .v4 0x7F000001, port := 443 }], w) := by
  have hips : resolveIps (Net.quicServer accepts) sampleDoh.host sampleDoh.timeout
      sampleDoh.resolver w = (.ok [.v4 0x7F000001], w) := rfl
  have hsort : sortByFamily sampleDoh.preferIpv6 [.v4 0x7F000001] = [.v4 0x7F000001] :=
    List.mergeSort_singleton _
  unfold resolveAddrs
  rw [Async.bind_ok hips, if_neg (by simp), hsort]
  rfl

theorem sampleDoh_quicWins (accepts : List String) :
    sampleDoh.QuicWins (Net.quicServer accepts) none { ip := .v4 0x7F000001, port := 443 }
      none where
  unknown := rfl
  first := ⟨[], none, sampleDoh_resolves accepts none, rfl⟩
  finished := by
    intro w₂ h
    have hreply := congrArg Prod.fst h
    simp only [DohUpstream.probeDial, Net.quicServer] at hreply
    split at hreply
    · cases hreply
    · cases hreply

/-- 両方を受け入れる相手なら、HTTP/3 が選ばれて `prefer_h3` に残る。 -/
theorem h3_probe_agrees_both :
    AcceptsAlpn (Net.quicServer ["h2", "h3"]) sampleDoh.host { p | p ∈ ["h2", "h3"] } ∧
    ∃ w₂, sampleDoh.shouldUseHttp3 (Net.quicServer ["h2", "h3"]) none
      = (.ok true, sampleDoh.preferH3.set (some true) w₂) := by
  have haccepts := Net.quicServer_accepts ["h2", "h3"] sampleDoh.host
  have hagrees := (h3_probe_agrees_iff zeroIdCodec (by decide) (by decide) haccepts).2.2
  refine ⟨haccepts, ?_⟩
  exact (hagrees.mpr (by simp)).2 (by simp) none _ none (sampleDoh_quicWins _)

/-- `h3` だけを受け入れる相手では、QUIC が先に終わっても探りの握手は成らず、HTTP/3 を使わないことが
`prefer_h3` に残る。transport の握手なら成る。 -/
theorem h3_probe_misses_h3_only :
    ∃ addr, AcceptsAlpn (Net.quicServer ["h3"]) sampleDoh.host { p | p ∈ ["h3"] } ∧
      sampleDoh.httpVersions.contains .http3 = true ∧ sampleDoh.http2Supported = true ∧
      sampleDoh.QuicWins (Net.quicServer ["h3"]) none addr none ∧
      Connects (sampleDoh.transportDial (Net.quicServer ["h3"]) addr) none ∧
      ¬ Connects (sampleDoh.probeDial (Net.quicServer ["h3"]) addr) none ∧
      sampleDoh.shouldUseHttp3 (Net.quicServer ["h3"]) none = (.ok false, some false) := by
  have haccepts := Net.quicServer_accepts ["h3"] sampleDoh.host
  refine ⟨{ ip := .v4 0x7F000001, port := 443 }, haccepts, by decide, by decide,
    sampleDoh_quicWins _, ?_, ?_, by decide +kernel⟩
  · exact (haccepts.single _ _ "h3" _).mpr (by simp)
  · intro h
    have hh2 := (haccepts.single _ _ "h2" _).mp h
    simp at hh2

end DnsProxy
