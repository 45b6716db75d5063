import DnsProxy.Dns.Message
import DnsProxy.Error
import DnsProxy.Infra.Async

/-!
# 外の世界

client が頼る OS と library の操作を `Net W` に集める。`W` は世界の全体で、操作のたびに
どう変わってもよい。どの操作も、値を返す・失敗する・いつまでも返らない、のどれかである。

upstream が持つ `Mutex` などの中身も `W` の一部で、`Cell` を通して読み書きする。
操作は `W` をどう変えてもよいので、待っている間にほかの task がそれを書き換える場合も含む。

操作の型が約束するのは、その関数の文書にある長さの関係だけである
（`recv` は buffer に収まる、`read_exact` はちょうど `n` byte を読む、など）。
-/

namespace DnsProxy

open Infra

/-! ## 宛先 -/

inductive IpAddr where
  | v4 (octets : UInt32)
  | v6 (hi lo : UInt64)
  deriving DecidableEq, Repr, Inhabited

/-- `IpAddr::is_ipv4`。 -/
def IpAddr.isIpv4 : IpAddr → Bool
  | .v4 _ => true
  | .v6 _ _ => false

/-- `flowinfo` と `scopeId` は IPv6 だけのもので、`SocketAddr::new` では 0 になる。 -/
structure SocketAddr where
  ip : IpAddr
  port : UInt16
  flowinfo : UInt32 := 0
  scopeId : UInt32 := 0
  deriving DecidableEq, Repr, Inhabited

/-! ### 宛先の綴り -/

/-- IPv4 の四つの数。 -/
def ipv4Text (octets : UInt32) : Text :=
  ['.'].intercalate ((Bytes.toBe32 octets).map fun b => Nat.toDigits 10 b.toNat)

/-- `Ipv6Addr::segments`。 -/
def ipv6Segments (hi lo : UInt64) : List Nat :=
  [hi, lo].flatMap fun n =>
    [n.toNat / 281474976710656, n.toNat / 4294967296 % 65536, n.toNat / 65536 % 65536,
      n.toNat % 65536]

/-- `fmt_subslice`。 -/
def fmtSubslice (segments : List Nat) : Text :=
  [':'].intercalate (segments.map fun n => Nat.toDigits 16 n)

/-- 最も長い（同じなら最初の）0 の並びの、始まりと長さ。 -/
def longestZeroes (segments : List Nat) : Nat × Nat :=
  let scan := segments.zipIdx.foldl (fun (longest, current) (segment, i) =>
    if segment = 0 then
      let current : Nat × Nat := if current.2 = 0 then (i, 1) else (current.1, current.2 + 1)
      (if current.2 > longest.2 then current else longest, current)
    else (longest, (0, 0))) (((0, 0), (0, 0)) : (Nat × Nat) × (Nat × Nat))
  scan.1

/-- `IpAddr` の `to_string`。 -/
def IpAddr.display : IpAddr → Text
  | .v4 octets => ipv4Text octets
  | .v6 hi lo =>
    let segments := ipv6Segments hi lo
    -- `to_ipv4_mapped`
    if segments.take 6 = [0, 0, 0, 0, 0, 0xffff] then
      text "::ffff:" ++ ipv4Text (UInt32.ofNat (lo.toNat % 4294967296))
    else
      let (start, len) := longestZeroes segments
      if len > 1 then
        fmtSubslice (segments.take start) ++ text "::" ++ fmtSubslice (segments.drop (start + len))
      else fmtSubslice segments

/-- `SocketAddr` の `to_string`。 -/
def SocketAddr.display (a : SocketAddr) : Text :=
  let port := Nat.toDigits 10 a.port.toNat
  match a.ip with
  | .v4 _ => a.ip.display ++ [':'] ++ port
  | .v6 _ _ =>
    let scope := if a.scopeId = 0 then [] else '%' :: Nat.toDigits 10 a.scopeId.toNat
    ['['] ++ a.ip.display ++ scope ++ text "]:" ++ port

/-- 標準 library の中の綴り。 -/
structure StdText where
  /-- `SocketAddr` の `to_string`。 -/
  toString : SocketAddr → String
  /-- `str::parse::<SocketAddr>`。 -/
  parseSocketAddr : String → Option SocketAddr
  /-- `str::parse::<IpAddr>`。 -/
  parseIp : String → Option IpAddr
  /-- `char::escape_debug` が番号で書く文字。 -/
  unprintable : Char → Bool
  /-- base64 と UTF-8 の、読めないときの失敗の文面。 -/
  base64Error : Text → String
  utf8Error : Bytes → String

/-- `str` の `{:?}`。 -/
def StdText.debug (std : StdText) (s : String) : String :=
  String.ofList (Text.debug std.unprintable s.toList)

/-! ## TLS と HTTP の部品 -/

/-- `rustls::ClientConfig` のうち、場合によって変わるところ。 -/
structure TlsConfig where
  insecureSkipVerify : Bool
  alpns : List String
  deriving DecidableEq, Repr

/-- `build_tls_config`。`server_name` は使われない。 -/
def buildTlsConfig (_serverName : String) (insecureSkipVerify : Bool) (alpns : List String) :
    TlsConfig := { insecureSkipVerify, alpns }

/-- `DialHandler`。名前を引いた時点の宛先だけに繋ぐ。 -/
structure DialHandler where
  timeout : Option Duration
  addrs : List SocketAddr
  deriving DecidableEq, Repr

/-- `Client<HttpsConnector, _>`。欄は `HttpsConnector` のもので、繋ぎ先と TLS の設定である。 -/
structure HttpClient where
  dial : DialHandler
  tlsConfig : TlsConfig
  serverName : String
  deriving DecidableEq, Repr

/-- GET の要求。header は `User-Agent` が空、`Accept` が `application/dns-message` である。 -/
structure HttpRequest where
  uri : String
  authorization : Option String
  deriving DecidableEq, Repr

/-- HTTP/3 の本文。届いた断片と、その後の終わり方である。 -/
structure H3Body where
  chunks : List Bytes
  ending : Reply String Unit

/-- 外の世界の操作。socket・stream・connection は番号で表す。 -/
structure Net (W : Type) where
  std : StdText
  /-- `UdpSocket::bind`。引数は IPv4 かどうかである。 -/
  udpBind : Bool → Op W String Nat
  udpConnect : Nat → SocketAddr → Op W String Unit
  udpSend : Nat → Bytes → Op W String Unit
  /-- `UdpSocket::recv`。buffer より長い datagram は切り詰められる。 -/
  udpRecv : Nat → (size : Nat) → Op W String { b : Bytes // b.length ≤ size }
  udpSendTo : Nat → Bytes → SocketAddr → Op W String Unit
  tcpConnect : SocketAddr → Op W String Nat
  /-- `TlsConnector::connect`。 -/
  tlsConnect : TlsConfig → (serverName : String) → Nat → Op W String Nat
  /-- `ServerName::try_from`。 -/
  serverName : String → Except String Unit
  writeAll : Nat → Bytes → Op W String Unit
  readExact : Nat → (n : Nat) → Op W String (Block n)
  /-- `dial_quic`。 -/
  dialQuic : SocketAddr → (serverName : String) → TlsConfig → Op W String Nat
  quicOpenBi : Nat → Op W String Nat
  quicFinish : Nat → Op W String Unit
  /-- `h3::client::new`。 -/
  h3New : Nat → Op W String Nat
  h3SendRequest : Nat → HttpRequest → Op W String Nat
  h3Finish : Nat → Op W String Unit
  /-- 状態 code を返す。 -/
  h3RecvResponse : Nat → Op W String Nat
  h3RecvData : Nat → W → H3Body × W
  /-- `tokio::select!` で QUIC の方が先に終わるかどうか。 -/
  quicFirst : Op W Empty Bool
  /-- `str::parse::<Uri>`。 -/
  parseUri : String → Except String Unit
  /-- `Client::request` が connector を呼ぶ回数。取ってある接続で送るなら 0 である。 -/
  httpConnects : HttpClient → HttpRequest → W → Nat × W
  /-- `Client::request` の残り。connector の返した接続を受け取り、状態 code と本文の番号を返す。 -/
  httpRequest : HttpClient → HttpRequest → List (Except DohError Nat) → Op W String (Nat × Nat)
  /-- `Body::collect`。 -/
  httpCollect : Nat → Op W String Bytes
  /-- `Arc::new`。割り当ての番号を返す。 -/
  alloc : W → Nat × W
  /-- `lock().await`。順番を待つ間に、ほかの task が世界を動かしうる。 -/
  lock : W → W
  /-- `Instant::now`（ナノ秒）。 -/
  now : W → Nat × W
  /-- `now_unix`。秒の `u32` である。 -/
  nowUnix : W → UInt32
  /-- `OsRng.fill_bytes`。 -/
  random : (n : Nat) → W → Block n × W

variable {W : Type}

/-- どこにも繋がらない世界。必要な操作だけを差し替えて使う。 -/
def Net.unreachable (std : StdText) : Net W where
  std
  udpBind _ w := (.err "unreachable", w)
  udpConnect _ _ w := (.err "unreachable", w)
  udpSend _ _ w := (.err "unreachable", w)
  udpRecv _ _ w := (.err "unreachable", w)
  udpSendTo _ _ _ w := (.err "unreachable", w)
  tcpConnect _ w := (.err "unreachable", w)
  tlsConnect _ _ _ w := (.err "unreachable", w)
  serverName _ := .ok ()
  writeAll _ _ w := (.err "unreachable", w)
  readExact _ _ w := (.err "unreachable", w)
  dialQuic _ _ _ w := (.err "unreachable", w)
  quicOpenBi _ w := (.err "unreachable", w)
  quicFinish _ w := (.err "unreachable", w)
  h3New _ w := (.err "unreachable", w)
  h3SendRequest _ _ w := (.err "unreachable", w)
  h3Finish _ w := (.err "unreachable", w)
  h3RecvResponse _ w := (.err "unreachable", w)
  h3RecvData _ w := ({ chunks := [], ending := .err "unreachable" }, w)
  quicFirst w := (.ok false, w)
  parseUri _ := .ok ()
  httpConnects _ _ w := (0, w)
  httpRequest _ _ _ w := (.err "unreachable", w)
  httpCollect _ w := (.err "unreachable", w)
  alloc w := (0, w)
  lock w := w
  now w := (0, w)
  nowUnix _ := 0
  random n w := (Block.zeros n, w)

/-- 手元の状態 `S` を添えた世界。どの操作も `S` には触れない。 -/
def Net.onSnd {S : Type} (net : Net W) : Net (S × W) where
  std := net.std
  udpBind v4 := (net.udpBind v4).onSnd
  udpConnect sock addr := (net.udpConnect sock addr).onSnd
  udpSend sock b := (net.udpSend sock b).onSnd
  udpRecv sock size := (net.udpRecv sock size).onSnd
  udpSendTo sock b addr := (net.udpSendTo sock b addr).onSnd
  tcpConnect addr := (net.tcpConnect addr).onSnd
  tlsConnect config name tcp := (net.tlsConnect config name tcp).onSnd
  serverName := net.serverName
  writeAll stream b := (net.writeAll stream b).onSnd
  readExact stream n := (net.readExact stream n).onSnd
  dialQuic addr name config := (net.dialQuic addr name config).onSnd
  quicOpenBi conn := (net.quicOpenBi conn).onSnd
  quicFinish stream := (net.quicFinish stream).onSnd
  h3New conn := (net.h3New conn).onSnd
  h3SendRequest sender req := (net.h3SendRequest sender req).onSnd
  h3Finish stream := (net.h3Finish stream).onSnd
  h3RecvResponse stream := (net.h3RecvResponse stream).onSnd
  h3RecvData stream t := ((net.h3RecvData stream t.2).1, (t.1, (net.h3RecvData stream t.2).2))
  quicFirst := net.quicFirst.onSnd
  parseUri := net.parseUri
  httpConnects client req t :=
    ((net.httpConnects client req t.2).1, (t.1, (net.httpConnects client req t.2).2))
  httpRequest client req conns := (net.httpRequest client req conns).onSnd
  httpCollect body := (net.httpCollect body).onSnd
  alloc t := ((net.alloc t.2).1, (t.1, (net.alloc t.2).2))
  lock t := (t.1, net.lock t.2)
  now t := ((net.now t.2).1, (t.1, (net.now t.2).2))
  nowUnix t := net.nowUnix t.2
  random n t := ((net.random n t.2).1, (t.1, (net.random n t.2).2))

/-- 失敗が `std::io::Error` である操作（`?` で `DohError::Io` になる）。 -/
def io {α : Type} (op : Op W String α) : Async W DohError α := Async.call DohError.io op

/-- `lock().await`。 -/
def lock (net : Net W) : Async W DohError Unit := Async.modify net.lock

/-- `Instant::now`。 -/
def instantNow (net : Net W) : Async W DohError Nat := fun w => (.ok (net.now w).1, (net.now w).2)

/-- `Arc::new`。 -/
def alloc (net : Net W) : Async W DohError Nat := fun w => (.ok (net.alloc w).1, (net.alloc w).2)

/-- 失敗が QUIC のものである操作。 -/
def quicOp {α : Type} (op : Op W String α) : Async W DohError α := Async.call DohError.quic op

/-- 失敗の文面に前置きを付けて `DohError::Http` に包む操作。 -/
def httpOp {α : Type} (what : String) (op : Op W String α) : Async W DohError α :=
  Async.call (fun e => .http s!"{what}: {e}") op

/-- 乱数を引く。 -/
def randomBytes (net : Net W) (n : Nat) : Async W DohError (Block n) := fun w =>
  (.ok (net.random n w).1, (net.random n w).2)

/-- connector を呼ぶ回数。 -/
def httpConnects (net : Net W) (client : HttpClient) (req : HttpRequest) : Async W DohError Nat :=
  fun w => (.ok (net.httpConnects client req w).1, (net.httpConnects client req w).2)

/--
期限 `outer` の内側に掛けた期限 `d` のうち、働くもの。

外側は内側より先に始まるので、内側が外側より短くなければ、先に切れるのは外側である。
-/
def innerTimeout (outer d : Option Duration) : Option Duration :=
  match outer, d with
  | some t, some d => if d < t then some d else none
  | _, d => d

@[simp] theorem innerTimeout_self (d : Option Duration) : innerTimeout d d = none := by
  cases d with
  | none => rfl
  | some t => exact if_neg (Nat.lt_irrefl t)

/-- `Duration` の期限。切れれば `DohError::Timeout` になる。 -/
def withTimeout {α σ : Type} (d : Option Duration) (x : Async σ DohError α) : Async σ DohError α :=
  x.timeout d DohError.timeout

theorem noPanic_io {α : Type} (op : Op W String α) : (io op).NoPanic := Async.NoPanic.call _ op

theorem noPanic_lock (net : Net W) : (lock net).NoPanic := Async.NoPanic.modify _

theorem noPanic_instantNow (net : Net W) : (instantNow net).NoPanic := fun _ h => by cases h

theorem noPanic_alloc (net : Net W) : (alloc net).NoPanic := fun _ h => by cases h

theorem noPanic_httpConnects (net : Net W) (client : HttpClient) (req : HttpRequest) :
    (httpConnects net client req).NoPanic := fun _ h => by cases h

theorem noPanic_quicOp {α : Type} (op : Op W String α) : (quicOp op).NoPanic :=
  Async.NoPanic.call _ op

theorem noPanic_httpOp {α : Type} (what : String) (op : Op W String α) : (httpOp what op).NoPanic :=
  Async.NoPanic.call _ op

theorem noPanic_random (net : Net W) (n : Nat) : (randomBytes net n).NoPanic := fun _ h => by cases h

end DnsProxy
