import DnsProxy.Infra.Ledger
import DnsProxy.Properties.LiteralDial

/-!
# 話す相手

proxy が外へ送るものをすべて記録し、それぞれが誰に届くかを言うための言葉を置く。

* 相手は、`udp://` のような宛先か、TLS の握手で名前を確かめた host である（`Remote`）
* socket や connection の番号がどの相手に繋がっているか、host 名がどの IP に引けたかは、一度決まれば
  変わらない（`Fact`）。それを教えるのは、繋ぐ操作（`Boundary.Vouches`）と名前引きである
* 取ってある client・transport・connection は、それを取っておいた upstream の相手と宛先のものであり、
  HTTP の client の接続はその client の相手に繋がっている（`Boundary.Kept`）

待つ間にほかの task が置き場所を書き換えてもよいが、この三つ目は守る。
-/

namespace DnsProxy

open Infra

variable {W K : Type}

/-! ## 相手と通信路 -/

/-- 話す相手。宛先か、証明書の名前（と、その検査を省いたかどうか）である。 -/
inductive Remote where
  | addr (addr : SocketAddr)
  | host (name : String) (insecure : Bool)
  deriving DecidableEq, Repr

/-- 証明書を確かめずに繋ぐ相手。 -/
def Remote.unverified : Remote → Bool
  | .addr _ => false
  | .host _ insecure => insecure

/-- 相手に繋がっているものの番号。 -/
inductive Channel where
  | udp (sock : Nat)
  | stream (stream : Nat)
  | quic (conn : Nat)
  | h3 (sender : Nat)
  deriving DecidableEq, Repr

/-- 一度成り立てば消えない事実。 -/
inductive Fact (K : Type) where
  /-- 番号は、相手 `p` に繋がっている。 -/
  | vouched (c : Channel) (p : Remote)
  /-- upstream `k` の host 名を引いて、`ip` が返った。 -/
  | answered (k : K) (ip : IpAddr)

/-- 外へ出るもの。`connect` は、UDP の socket・TCP・QUIC を宛先に繋ぐところである。 -/
inductive Transmission where
  | connect (addr : SocketAddr)
  | datagram (sock : Nat) (b : Bytes)
  | write (stream : Nat) (b : Bytes)
  | http (client : HttpClient) (req : HttpRequest) (conns : List (Except DohError Nat))
  | h3 (sender : Nat) (req : HttpRequest)

/-- `HttpClient` の繋ぐ相手。接続のたびに同じ設定で握手する。 -/
def HttpClient.remote (c : HttpClient) : Remote := .host c.serverName c.tlsConfig.insecureSkipVerify

/-- `Http3Transport` の繋ぐ相手。 -/
def Http3Transport.remote (t : Http3Transport) : Remote :=
  .host t.serverName t.tlsConfig.insecureSkipVerify

/--
事実 `G` の下で、`p` に届く。

HTTP/1.1 と HTTP/2 の要求は、取ってある接続（`pooled`）か、connector が今返した接続のどれかに載る。
-/
def Transmission.Reaches (G : Set (Fact K)) (pooled : HttpClient → Set Nat) (p : Remote) :
    Transmission → Prop
  | .connect addr => p = .addr addr
  | .datagram sock _ => .vouched (.udp sock) p ∈ G
  | .write stream _ => .vouched (.stream stream) p ∈ G
  | .http client _ conns => ∀ s, s ∈ pooled client ∨ .ok s ∈ conns → .vouched (.stream s) p ∈ G
  | .h3 sender _ => .vouched (.h3 sender) p ∈ G

/-- 載せている `Authorization`。 -/
def Transmission.authorization : Transmission → Option String
  | .http _ req _ => req.authorization
  | .h3 _ req => req.authorization
  | _ => none

/-- 出たものと、そのときの世界。 -/
structure Outgoing (W : Type) where
  state : W
  what : Transmission

/-- 出たものの記録を添えた世界。 -/
abbrev Wire (W : Type) := List (Outgoing W) × W

/-- 記録してから行う操作。 -/
def sending {ε α : Type} (what : Transmission) (op : Op W ε α) : Op (Wire W) ε α := fun t =>
  ((op t.2).1, (t.1 ++ [{ state := t.2, what }], (op t.2).2))

/-- 繋いだ宛先と送ったものを、失敗したものも含めてすべて記録する世界。 -/
def wireNet (net : Net W) : Net (Wire W) :=
  { net.onSnd with
    udpConnect := fun sock addr => sending (.connect addr) (net.udpConnect sock addr)
    tcpConnect := fun addr => sending (.connect addr) (net.tcpConnect addr)
    dialQuic := fun addr name config => sending (.connect addr) (net.dialQuic addr name config)
    udpSend := fun sock b => sending (.datagram sock b) (net.udpSend sock b)
    writeAll := fun stream b => sending (.write stream b) (net.writeAll stream b)
    httpRequest := fun client req conns =>
      sending (.http client req conns) (net.httpRequest client req conns)
    h3SendRequest := fun sender req => sending (.h3 sender req) (net.h3SendRequest sender req) }

/-! ## 設定に書かれた相手 -/

section

variable (parseIp : String → Option IpAddr) (G : Set (Fact K)) (k : K)

/-- host の `port` の宛先。host が IP の綴りならその IP で、名前なら引いて返った IP である。 -/
def AtHost (host : String) (port : UInt16) (addr : SocketAddr) : Prop :=
  ∃ ip, (parseIp host = some ip ∨ parseIp host = none ∧ .answered k ip ∈ G) ∧ addr = { ip, port }

/-- upstream の繋ぐ宛先。 -/
def Upstream.DialsAt (addr : SocketAddr) : Upstream W → Prop
  | .doh u => AtHost parseIp G k u.host u.port addr
  | .dot u => AtHost parseIp G k u.host u.port addr
  | .doq u => AtHost parseIp G k u.host u.port addr
  | .dnsCrypt u => addr = u.stamp.addr
  | .plainUdp u => addr = u.addr
  | .plainTcp u => AtHost parseIp G k u.host u.port addr

/-- upstream の相手。TLS を使わないものでは、繋いだ宛先である。 -/
def Upstream.Reaches (p : Remote) : Upstream W → Prop
  | .doh u => p = .host u.host u.insecureSkipVerify
  | .dot u => p = .host u.host u.insecureSkipVerify
  | .doq u => p = .host u.host u.insecureSkipVerify
  | .dnsCrypt u => p = .addr u.stamp.addr
  | .plainUdp u => p = .addr u.addr
  | .plainTcp u => ∃ addr, AtHost parseIp G k u.host u.port addr ∧ p = .addr addr

variable {parseIp G k}

theorem AtHost.mono {G' : Set (Fact K)} (hG : G ⊆ G') {host : String} {port : UInt16}
    {addr : SocketAddr} (h : AtHost parseIp G k host port addr) :
    AtHost parseIp G' k host port addr := by
  obtain ⟨ip, hip, rfl⟩ := h
  exact ⟨ip, hip.imp_right fun ⟨hnone, hans⟩ => ⟨hnone, hG hans⟩, rfl⟩

theorem Upstream.DialsAt.mono {G' : Set (Fact K)} (hG : G ⊆ G') {u : Upstream W}
    {addr : SocketAddr} (h : u.DialsAt parseIp G k addr) : u.DialsAt parseIp G' k addr := by
  cases u with
  | doh u => exact AtHost.mono hG h
  | dot u => exact AtHost.mono hG h
  | doq u => exact AtHost.mono hG h
  | dnsCrypt u => exact h
  | plainUdp u => exact h
  | plainTcp u => exact AtHost.mono hG h

theorem Upstream.Reaches.mono {G' : Set (Fact K)} (hG : G ⊆ G') {u : Upstream W} {p : Remote}
    (h : u.Reaches parseIp G k p) : u.Reaches parseIp G' k p := by
  cases u with
  | plainTcp u =>
    obtain ⟨addr, haddr, rfl⟩ := h
    exact ⟨addr, haddr.mono hG, rfl⟩
  | _ => exact h

end

/-- upstream の送る `Authorization`。 -/
def Upstream.authorization : Upstream W → Option String
  | .doh u => u.basicAuthHeader
  | _ => none

/-- host 名を引くところ。 -/
def Upstream.resolver : Upstream W → Option (Resolver W)
  | .doh u => some u.resolver
  | .dot u => some u.resolver
  | .doq u => some u.resolver
  | .plainTcp u => some u.resolver
  | _ => none

/-- `timeout` の欄。 -/
def Upstream.timeout : Upstream W → Option Duration
  | .doh u => u.timeout
  | .dot u => u.timeout
  | .doq u => u.timeout
  | .dnsCrypt u => u.timeout
  | .plainUdp u => u.timeout
  | .plainTcp u => u.timeout

/-! ## 置き場所の中身 -/

/-- 一つの upstream の `Mutex` の中身のうち、相手に関わるところ。 -/
structure Slots where
  client : Option HttpClient := none
  h3 : Option Http3Transport := none
  sender : Nat → Option Nat := fun _ => none
  conn : Option Nat := none

section

variable (parseIp : String → Option IpAddr) (G : Set (Fact K)) (k : K)

/-- `c` は upstream `u` の client である。 -/
structure HttpClient.Of (c : HttpClient) (u : Upstream W) : Prop where
  remote : u.Reaches parseIp G k c.remote
  addrs : ∀ addr ∈ c.dial.addrs, u.DialsAt parseIp G k addr

/-- `t` は upstream `u` の transport である。 -/
structure Http3Transport.Of (t : Http3Transport) (u : Upstream W) : Prop where
  remote : u.Reaches parseIp G k t.remote
  addr : u.DialsAt parseIp G k t.serverAddr
  authorization : t.basicAuthHeader = u.authorization
  timeout : t.timeout = u.timeout

/-- 取ってあるものは、どれも `u` の相手のものである。 -/
structure Slots.GoodFor (u : Upstream W) (s : Slots) : Prop where
  client : ∀ c, s.client = some c → c.Of parseIp G k u
  h3 : ∀ t, s.h3 = some t → t.Of parseIp G k u
  sender : ∀ id n, s.sender id = some n → ∃ p, u.Reaches parseIp G k p ∧ .vouched (.h3 n) p ∈ G
  conn : ∀ c, s.conn = some c → ∃ p, u.Reaches parseIp G k p ∧ .vouched (.quic c) p ∈ G

variable {parseIp G k} {G' : Set (Fact K)} {u : Upstream W}

theorem HttpClient.Of.mono (hG : G ⊆ G') {c : HttpClient} (h : c.Of parseIp G k u) :
    c.Of parseIp G' k u := ⟨h.remote.mono hG, fun addr haddr => (h.addrs addr haddr).mono hG⟩

theorem Http3Transport.Of.mono (hG : G ⊆ G') {t : Http3Transport} (h : t.Of parseIp G k u) :
    t.Of parseIp G' k u := ⟨h.remote.mono hG, h.addr.mono hG, h.authorization, h.timeout⟩

theorem Slots.GoodFor.mono (hG : G ⊆ G') {s : Slots} (h : s.GoodFor parseIp G k u) :
    s.GoodFor parseIp G' k u where
  client c hc := (h.client c hc).mono hG
  h3 t ht := (h.h3 t ht).mono hG
  sender id n hn := by
    obtain ⟨p, hp, hv⟩ := h.sender id n hn
    exact ⟨p, hp.mono hG, hG hv⟩
  conn c hc := by
    obtain ⟨p, hp, hv⟩ := h.conn c hc
    exact ⟨p, hp.mono hG, hG hv⟩

/-- 空の置き場所は、どの upstream のものでもある。 -/
theorem Slots.GoodFor.empty : ({} : Slots).GoodFor parseIp G k u :=
  ⟨fun c hc => (by cases hc), fun t ht => (by cases ht), fun _ n hn => (by cases hn),
    fun c hc => by cases hc⟩

end

/-- proxy の持つ upstream のすべてと、その置き場所の中身、消えない事実、名前引きの宛先。 -/
structure Boundary (W K : Type) where
  facts : W → Set (Fact K)
  upstream : K → Upstream (Wire W)
  slots : W → K → Slots
  /-- HTTP の client が取ってある接続。 -/
  pooled : W → HttpClient → Set Nat
  /-- `PlainResolver` の宛先。 -/
  resolvers : Set SocketAddr
  /-- `str::parse::<IpAddr>`。 -/
  parseIp : String → Option IpAddr

namespace Boundary

variable (B : Boundary W K)

/-- 設定に書かれた宛先。 -/
def Dials (w : W) (addr : SocketAddr) : Prop :=
  (∃ k, (B.upstream k).DialsAt B.parseIp (B.facts w) k addr) ∨ addr ∈ B.resolvers

/-- 設定に書かれた相手と、その相手に送ってよい `Authorization`。 -/
def Allowed (w : W) (p : Remote) (authorization : Option String) : Prop :=
  (∃ k, (B.upstream k).Reaches B.parseIp (B.facts w) k p ∧
    authorization = (B.upstream k).authorization) ∨
    ∃ addr ∈ B.resolvers, p = .addr addr ∧ authorization = none

/-- 出たものは、繋いでよい宛先に繋いだものか、送ってよい相手に届くものである。 -/
structure Permits (e : Outgoing W) : Prop where
  dial : ∀ addr, e.what = .connect addr → B.Dials e.state addr
  send : (∀ addr, e.what ≠ .connect addr) → ∃ p, B.Allowed e.state p e.what.authorization ∧
    e.what.Reaches (B.facts e.state) (B.pooled e.state) p

/-- 取ってあるものは、どの upstream と client でも、その相手のものである。 -/
structure Kept (w : W) : Prop where
  slots : ∀ k, (B.slots w k).GoodFor B.parseIp (B.facts w) k (B.upstream k)
  pooled : ∀ client, ∀ s ∈ B.pooled w client, .vouched (.stream s) client.remote ∈ B.facts w

/-- 記録にあるものはどれも出てよく、取ってあるものは相手が合っている。事実は消えない。 -/
def ledger : Ledger (Wire W) (Fact K) where
  inv t := (∀ e ∈ t.1, B.Permits e) ∧ B.Kept t.2
  holds f t := f ∈ B.facts t.2

/-! ## 外の世界の約束 -/

/--
外の世界の一つの操作による遷移。

client に渡す接続は、その client の相手に繋がっている。
-/
inductive Step (net : Net W) : W → W → Prop
  | udpBind (v4 w) : Step net w (net.udpBind v4 w).2
  | udpConnect (sock addr w) : Step net w (net.udpConnect sock addr w).2
  | udpSend (sock b w) : Step net w (net.udpSend sock b w).2
  | udpRecv (sock size w) : Step net w (net.udpRecv sock size w).2
  | tcpConnect (addr w) : Step net w (net.tcpConnect addr w).2
  | tlsConnect (config name tcp w) : Step net w (net.tlsConnect config name tcp w).2
  | writeAll (stream b w) : Step net w (net.writeAll stream b w).2
  | readExact (stream n w) : Step net w (net.readExact stream n w).2
  | dialQuic (addr name config w) : Step net w (net.dialQuic addr name config w).2
  | quicOpenBi (conn w) : Step net w (net.quicOpenBi conn w).2
  | quicFinish (stream w) : Step net w (net.quicFinish stream w).2
  | h3New (conn w) : Step net w (net.h3New conn w).2
  | h3SendRequest (sender req w) : Step net w (net.h3SendRequest sender req w).2
  | h3Finish (stream w) : Step net w (net.h3Finish stream w).2
  | h3RecvResponse (stream w) : Step net w (net.h3RecvResponse stream w).2
  | h3RecvData (stream w) : Step net w (net.h3RecvData stream w).2
  | quicFirst (w) : Step net w (net.quicFirst w).2
  | httpConnects (client req w) : Step net w (net.httpConnects client req w).2
  | httpRequest (client req conns w)
      (h : ∀ s, .ok s ∈ conns → .vouched (.stream s) client.remote ∈ B.facts w) :
      Step net w (net.httpRequest client req conns w).2
  | httpCollect (body w) : Step net w (net.httpCollect body w).2
  | alloc (w) : Step net w (net.alloc w).2
  | lock (w) : Step net w (net.lock w)
  | now (w) : Step net w (net.now w).2
  | random (n w) : Step net w (net.random n w).2

/-- どの操作も `P` を保つ。待つ間にほかの task が世界を動かすことも含む。 -/
def Keeps (net : Net W) (P : W → Prop) : Prop := ∀ w w', B.Step net w w' → P w → P w'

/--
繋ぐ操作は、返した番号の相手を保証する。

`tls_connect` と `dial_quic` の保証は、証明書を検査する設定なら「相手はその名前の証明書を持つ」で、
検査を省く設定ならその旨の付いた相手である。番号は使い回されず、事実は消えない。
-/
structure Vouches (net : Net W) : Prop where
  udpConnect : ∀ sock addr w w', net.udpConnect sock addr w = (.ok (), w') →
    .vouched (.udp sock) (.addr addr) ∈ B.facts w'
  tcpConnect : ∀ addr w s w', net.tcpConnect addr w = (.ok s, w') →
    .vouched (.stream s) (.addr addr) ∈ B.facts w'
  tlsConnect : ∀ config name tcp w s w', net.tlsConnect config name tcp w = (.ok s, w') →
    .vouched (.stream s) (.host name config.insecureSkipVerify) ∈ B.facts w'
  dialQuic : ∀ addr name config w c w', net.dialQuic addr name config w = (.ok c, w') →
    .vouched (.quic c) (.host name config.insecureSkipVerify) ∈ B.facts w'
  quicOpenBi : ∀ conn p w s w', .vouched (.quic conn) p ∈ B.facts w →
    net.quicOpenBi conn w = (.ok s, w') → .vouched (.stream s) p ∈ B.facts w'
  h3New : ∀ conn p w s w', .vouched (.quic conn) p ∈ B.facts w →
    net.h3New conn w = (.ok s, w') → .vouched (.h3 s) p ∈ B.facts w'
  persist : ∀ f, B.Keeps net (f ∈ B.facts ·)

/-! ## 書き込み -/

/-- 記録にも、どの置き場所にも、client の接続にも、事実にも触れない書き込み。 -/
structure Aside (t t' : Wire W) : Prop where
  log : t'.1 = t.1
  slots : B.slots t'.2 = B.slots t.2
  pooled : B.pooled t'.2 = B.pooled t.2
  facts : B.facts t.2 ⊆ B.facts t'.2

/-- `k` の置き場所を `s` に変えるだけの書き込み。 -/
structure Writes (k : K) (t t' : Wire W) (s : Slots) : Prop where
  log : t'.1 = t.1
  slot : B.slots t'.2 k = s
  other : ∀ k', k' ≠ k → B.slots t'.2 k' = B.slots t.2 k'
  pooled : B.pooled t'.2 = B.pooled t.2
  facts : B.facts t.2 ⊆ B.facts t'.2

/-- upstream の `Mutex` は互いに別のもので、書いたものが読める。 -/
structure Apart : Prop where
  client : ∀ k d, B.upstream k = .doh d → ∀ t, d.client.get t = (B.slots t.2 k).client
  setClient : ∀ k d, B.upstream k = .doh d → ∀ v t,
    B.Writes k t (d.client.set v t) { B.slots t.2 k with client := v }
  h3 : ∀ k d, B.upstream k = .doh d → ∀ t, d.h3.get t = (B.slots t.2 k).h3
  setH3 : ∀ k d, B.upstream k = .doh d → ∀ v t,
    B.Writes k t (d.h3.set v t) { B.slots t.2 k with h3 := v }
  sender : ∀ k d, B.upstream k = .doh d → ∀ id t,
    (d.h3Inner id).get t = (B.slots t.2 k).sender id
  setSender : ∀ k d, B.upstream k = .doh d → ∀ id v t, B.Writes k t ((d.h3Inner id).set v t)
    { B.slots t.2 k with sender := fun i => if i = id then v else (B.slots t.2 k).sender i }
  setPreferH3 : ∀ k d, B.upstream k = .doh d → ∀ v t, B.Aside t (d.preferH3.set v t)
  conn : ∀ k d, B.upstream k = .doq d → ∀ t, d.conn.get t = (B.slots t.2 k).conn
  setConn : ∀ k d, B.upstream k = .doq d → ∀ v t,
    B.Writes k t (d.conn.set v t) { B.slots t.2 k with conn := v }
  setCert : ∀ k d, B.upstream k = .dnsCrypt d → ∀ v t, B.Aside t (d.cert.set v t)
  setLog : ∀ k d, B.upstream k = .dnsCrypt d → ∀ v t, B.Aside t (d.log.set v t)

variable {B}

theorem Aside.evolves {t t' : Wire W} (h : B.Aside t t') : B.ledger.Evolves t t' := by
  refine ⟨fun hinv => ⟨by rw [h.log]; exact hinv.1, fun k => ?_, fun client s hs => ?_⟩,
    fun f hf => h.facts hf⟩
  · rw [h.slots]
    exact (hinv.2.slots k).mono h.facts
  · rw [h.pooled] at hs
    exact h.facts (hinv.2.pooled client s hs)

theorem Writes.evolves {k : K} {t t' : Wire W} {s : Slots} (h : B.Writes k t t' s)
    (hs : B.Kept t.2 → s.GoodFor B.parseIp (B.facts t.2) k (B.upstream k)) :
    B.ledger.Evolves t t' := by
  refine ⟨fun hinv => ⟨by rw [h.log]; exact hinv.1, fun k' => ?_, fun client c hc => ?_⟩,
    fun f hf => h.facts hf⟩
  · by_cases hk : k' = k
    · subst hk
      rw [h.slot]
      exact (hs hinv.2).mono h.facts
    · rw [h.other k' hk]
      exact (hinv.2.slots k').mono h.facts
  · rw [h.pooled] at hc
    exact h.facts (hinv.2.pooled client c hc)

/-- 何も取っていないうちは、取り違えるものも無い。 -/
theorem Kept.of_empty {w : W} (hslots : ∀ k, B.slots w k = {})
    (hpooled : ∀ client, B.pooled w client = ∅) : B.Kept w where
  slots k := by
    rw [hslots k]
    exact .empty
  pooled client s hs := by
    rw [hpooled client] at hs
    cases hs

theorem Kept.safe {w : W} (hw : B.Kept w) : B.ledger.Safe ∅ ([], w) :=
  ⟨⟨fun e he => (by cases he), hw⟩, fun f hf => by cases hf⟩

/-- 事実 `F` を知っていれば、相手に送ってよい。 -/
def Entitled (B : Boundary W K) (F : Set (Fact K)) (p : Remote) (authorization : Option String) :
    Prop := ∀ w, F ⊆ B.facts w → B.Allowed w p authorization

theorem Entitled.mono {F G : Set (Fact K)} {p : Remote} {authorization : Option String}
    (h : B.Entitled F p authorization) (hFG : F ⊆ G) : B.Entitled G p authorization :=
  fun w hw => h w (hFG.trans hw)

/-- upstream `k` の host 名を引くところは、送るなら送ってよい相手にだけ送り、返した IP を記録する。 -/
def Answers (B : Boundary W K) (k : K) (r : Resolver (Wire W)) (host : String) : Prop :=
  ∀ F, B.ledger.Runs F (r.lookup host) fun ips G => ∀ ip ∈ ips, .answered k ip ∈ G

end Boundary

/-! ## 置き場所の読み書き -/

section

variable {B : Boundary W K} {F : Set (Fact K)} {k : K} (hapart : B.Apart)

include hapart

/-- 取ってある connection は、その upstream の相手に繋がっている。 -/
theorem runs_readConn {u : DoqUpstream (Wire W)} (hu : B.upstream k = .doq u) :
    B.ledger.Runs F (Async.read u.conn : Async (Wire W) DohError (Option Nat)) fun c G =>
      ∀ n, c = some n → .vouched (.quic n) (.host u.host u.insecureSkipVerify) ∈ G := by
  refine Ledger.Runs.gets_holds fun t ht c hc => ?_
  rw [hapart.conn k u hu t] at hc
  obtain ⟨p, hp, hv⟩ := (ht.1.2.slots k).conn c hc
  rw [hu] at hp
  cases hp
  exact hv

/-- 相手の合う connection を取っておく。 -/
theorem runs_writeConn {u : DoqUpstream (Wire W)} (hu : B.upstream k = .doq u)
    {c : Option Nat}
    (hc : ∀ n, c = some n → .vouched (.quic n) (.host u.host u.insecureSkipVerify) ∈ F) :
    B.ledger.Runs F (Async.write u.conn c : Async (Wire W) DohError Unit) fun _ _ => True := by
  refine Ledger.Runs.modify fun t ht => (hapart.setConn k u hu c t).evolves fun hkept => ?_
  refine { hkept.slots k with conn := fun n hn => ?_ }
  rw [hu]
  exact ⟨.host u.host u.insecureSkipVerify, rfl, ht.2 _ (hc n hn)⟩

/-- 取ってある client は、その upstream の相手に繋ぐ。 -/
theorem runs_readClient {u : DohUpstream (Wire W)} (hu : B.upstream k = .doh u) :
    B.ledger.Runs F (Async.read u.client : Async (Wire W) DohError (Option HttpClient)) fun c G =>
      ∀ client, c = some client → client.Of B.parseIp G k (.doh u) := by
  refine Ledger.Runs.gets_holds fun t ht client hc => ?_
  rw [hapart.client k u hu t] at hc
  rw [← hu]
  exact (ht.1.2.slots k).client client hc

theorem runs_writeClient {u : DohUpstream (Wire W)} (hu : B.upstream k = .doh u)
    {c : Option HttpClient} (hc : ∀ client, c = some client → client.Of B.parseIp F k (.doh u)) :
    B.ledger.Runs F (Async.write u.client c : Async (Wire W) DohError Unit) fun _ _ => True := by
  refine Ledger.Runs.modify fun t ht => (hapart.setClient k u hu c t).evolves fun hkept => ?_
  refine { hkept.slots k with client := fun client hclient => ?_ }
  rw [hu]
  exact (hc client hclient).mono ht.2

theorem runs_readH3 {u : DohUpstream (Wire W)} (hu : B.upstream k = .doh u) :
    B.ledger.Runs F (Async.read u.h3 : Async (Wire W) DohError (Option Http3Transport)) fun c G =>
      ∀ t, c = some t → t.Of B.parseIp G k (.doh u) := by
  refine Ledger.Runs.gets_holds fun t ht transport hc => ?_
  rw [hapart.h3 k u hu t] at hc
  rw [← hu]
  exact (ht.1.2.slots k).h3 transport hc

theorem runs_writeH3 {u : DohUpstream (Wire W)} (hu : B.upstream k = .doh u)
    {c : Option Http3Transport} (hc : ∀ t, c = some t → t.Of B.parseIp F k (.doh u)) :
    B.ledger.Runs F (Async.write u.h3 c : Async (Wire W) DohError Unit) fun _ _ => True := by
  refine Ledger.Runs.modify fun t ht => (hapart.setH3 k u hu c t).evolves fun hkept => ?_
  refine { hkept.slots k with h3 := fun transport htransport => ?_ }
  rw [hu]
  exact (hc transport htransport).mono ht.2

/-- 取ってある HTTP/3 の送り口は、その upstream の相手に繋がっている。 -/
theorem runs_readSender {u : DohUpstream (Wire W)} (hu : B.upstream k = .doh u)
    (id : Nat) :
    B.ledger.Runs F (Async.read (u.h3Inner id) : Async (Wire W) DohError (Option Nat)) fun s G =>
      ∀ n, s = some n → .vouched (.h3 n) (.host u.host u.insecureSkipVerify) ∈ G := by
  refine Ledger.Runs.gets_holds fun t ht n hn => ?_
  rw [hapart.sender k u hu id t] at hn
  obtain ⟨p, hp, hv⟩ := (ht.1.2.slots k).sender id n hn
  rw [hu] at hp
  cases hp
  exact hv

theorem runs_writeSender {u : DohUpstream (Wire W)} (hu : B.upstream k = .doh u)
    (id : Nat) {s : Option Nat}
    (hs : ∀ n, s = some n → .vouched (.h3 n) (.host u.host u.insecureSkipVerify) ∈ F) :
    B.ledger.Runs F (Async.write (u.h3Inner id) s : Async (Wire W) DohError Unit)
      fun _ _ => True := by
  refine Ledger.Runs.modify fun t ht => (hapart.setSender k u hu id s t).evolves fun hkept => ?_
  refine { hkept.slots k with sender := fun i n hn => ?_ }
  dsimp only at hn
  by_cases hi : i = id
  · subst hi
    rw [if_pos rfl] at hn
    rw [hu]
    exact ⟨.host u.host u.insecureSkipVerify, rfl, ht.2 _ (hs n hn)⟩
  · rw [if_neg hi] at hn
    exact (hkept.slots k).sender i n hn

end

end DnsProxy
