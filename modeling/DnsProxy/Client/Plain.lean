import DnsProxy.Client.Bootstrap
import DnsProxy.Client.Wire

/-!
# 素の DNS と DoT（`client/plain_udp.rs`・`client/plain_tcp.rs`・`client/dot.rs`）

どれも要求をそのままの ID で送り、一つの応答を読み、`validate_response` を通して返す。
ID を見る code はどこにも無い。

TCP と TLS では message の前に 2 byte の長さが付く。
-/

namespace DnsProxy

open Infra

variable {W : Type} (codec : Codec) (net : Net W)

/-! ## 共通の部分 -/

/-- 長さの付いた要求を送り、長さの付いた応答を読む。 -/
def exchangeFramed (stream : Nat) (reqBytes : Bytes) : Async W DohError Bytes := do
  io (net.writeAll stream (Bytes.toBe16 (UInt16.ofNat reqBytes.length)))
  io (net.writeAll stream reqBytes)
  let lenBuf ← io (net.readExact stream 2)
  let respBuf ← io (net.readExact stream lenBuf.be16.toNat)
  pure respBuf.1

/-- `(dial)(Network::Tcp)` と、その後の `match conn`。 -/
def dialTcp (host : String) (port : UInt16) (timeout : Option Duration) (resolver : Resolver W)
    (preferIpv6 : Bool) : Async W DohError Nat := do
  let dial ← resolveDialContext net host port timeout resolver preferIpv6
  let conn ← dial.dial net .tcp
  match conn with
  | .tcp stream => pure stream
  | .udp _ _ => Async.throw (.bootstrap "expected tcp connection")

/-- `req_bytes` が 2 byte の長さに収まることを確かめる。 -/
def packFramed (framing : String) (req : Message) : Outcome DohError Bytes := do
  let reqBytes ← pack codec req
  if reqBytes.length > 65535 then .err (.pack s!"message too large for {framing} framing")
  else pure reqBytes

/-! ## UDP -/

structure PlainUdpUpstream where
  addr : SocketAddr
  timeout : Option Duration
  deriving DecidableEq, Repr

/-- `PlainUdpUpstream::exchange`。 -/
def PlainUdpUpstream.exchangeWith (u : PlainUdpUpstream) (check : Message → Outcome DohError Unit)
    (req : Message) : Async W DohError Message := do
  let reqBytes ← Async.lift (pack codec req)
  withTimeout u.timeout do
    let sock ← io (net.udpBind u.addr.ip.isIpv4)
    io (net.udpConnect sock u.addr)
    io (net.udpSend sock reqBytes)
    let buf ← io (net.udpRecv sock 65535)
    unpackChecked codec check buf.1

/-! ## TCP -/

structure PlainTcpUpstream (W : Type) where
  host : String
  port : UInt16
  resolver : Resolver W
  preferIpv6 : Bool
  timeout : Option Duration

/-- 繋ぐところ。名前引きと `dial_one` の期限も `self.timeout` で、`exchange` の期限の内側にある。 -/
def PlainTcpUpstream.dial (u : PlainTcpUpstream W) : Async W DohError Nat :=
  dialTcp net u.host u.port (innerTimeout u.timeout u.timeout) u.resolver u.preferIpv6

/-- `PlainTcpUpstream::exchange`。 -/
def PlainTcpUpstream.exchangeWith (u : PlainTcpUpstream W)
    (check : Message → Outcome DohError Unit) (req : Message) : Async W DohError Message := do
  let reqBytes ← Async.lift (packFramed codec "tcp" req)
  withTimeout u.timeout do
    let tcp ← u.dial net
    let respBuf ← exchangeFramed net tcp reqBytes
    unpackChecked codec check respBuf

/-! ## DoT -/

structure DotUpstream (W : Type) where
  host : String
  port : UInt16
  resolver : Resolver W
  preferIpv6 : Bool
  timeout : Option Duration
  insecureSkipVerify : Bool

/-- `ServerName::try_from(..).map_err(..)`。 -/
def checkServerName (host : String) : Outcome DohError Unit :=
  match net.serverName host with
  | .ok _ => .ok ()
  | .error e => .err (.http s!"invalid server name: {e}")

/-- 繋いで握手するところ。内側の期限は TCP と同じである。 -/
def DotUpstream.dial (u : DotUpstream W) : Async W DohError Nat := do
  let tcp ← dialTcp net u.host u.port (innerTimeout u.timeout u.timeout) u.resolver u.preferIpv6
  let tlsConfig := buildTlsConfig u.host u.insecureSkipVerify []
  Async.lift (checkServerName net u.host)
  httpOp "tls handshake failed" (net.tlsConnect tlsConfig u.host tcp)

/-- `DotUpstream::exchange`。 -/
def DotUpstream.exchangeWith (u : DotUpstream W) (check : Message → Outcome DohError Unit)
    (req : Message) : Async W DohError Message := do
  let reqBytes ← Async.lift (packFramed codec "tcp" req)
  withTimeout u.timeout do
    let tls ← u.dial net
    let respBuf ← exchangeFramed net tls reqBytes
    unpackChecked codec check respBuf

/-! ## 検査の前と後 -/

section

variable {codec net} {check : Message → Outcome DohError Unit}

theorem PlainUdpUpstream.checked (u : PlainUdpUpstream) (req : Message) (hc : IsCheck check) :
    Async.Checked check (u.exchangeWith codec net check req)
      (u.exchangeWith codec net skipCheck req) := by
  refine Async.Checked.bind fun reqBytes => Async.Checked.timeout hc.ne_pending ?_
  refine Async.Checked.bind fun sock => Async.Checked.bind fun _ => Async.Checked.bind fun _ => ?_
  exact Async.Checked.bind fun buf => checked_unpackChecked buf.1

theorem PlainTcpUpstream.checked (u : PlainTcpUpstream W) (req : Message) (hc : IsCheck check) :
    Async.Checked check (u.exchangeWith codec net check req)
      (u.exchangeWith codec net skipCheck req) := by
  refine Async.Checked.bind fun reqBytes => Async.Checked.timeout hc.ne_pending ?_
  exact Async.Checked.bind fun tcp => Async.Checked.bind fun buf => checked_unpackChecked buf

theorem DotUpstream.checked (u : DotUpstream W) (req : Message) (hc : IsCheck check) :
    Async.Checked check (u.exchangeWith codec net check req)
      (u.exchangeWith codec net skipCheck req) := by
  refine Async.Checked.bind fun reqBytes => Async.Checked.timeout hc.ne_pending ?_
  exact Async.Checked.bind fun tls => Async.Checked.bind fun buf => checked_unpackChecked buf

end

/-! ## panic しないこと -/

section

variable {codec net}

theorem noPanic_exchangeFramed (stream : Nat) (reqBytes : Bytes) :
    (exchangeFramed net stream reqBytes).NoPanic := by
  refine (noPanic_io _).bind fun _ => (noPanic_io _).bind fun _ => (noPanic_io _).bind fun len => ?_
  exact (noPanic_io _).bind fun buf => Async.NoPanic.pure _

theorem noPanic_dialTcp (host : String) (port : UInt16) (timeout : Option Duration)
    (resolver : Resolver W) (preferIpv6 : Bool) :
    (dialTcp net host port timeout resolver preferIpv6).NoPanic := by
  refine (noPanic_resolveDialContext net host port timeout resolver preferIpv6).bind fun dial => ?_
  refine (noPanic_dial net dial .tcp).bind fun conn => ?_
  cases conn with
  | tcp stream => exact Async.NoPanic.pure _
  | udp sock addr => exact Async.NoPanic.throw _

theorem packFramed_ne_panic (codec : Codec) (framing : String) (req : Message) :
    packFramed codec framing req ≠ .panic := by
  unfold packFramed
  cases hp : pack codec req with
  | ok b =>
    simp only [Outcome.ok_bind]
    split <;> simp
  | err e => simp
  | pending => intro h; cases h
  | panic => exact absurd hp (pack_ne_panic _ _)

theorem checkServerName_ne_panic (net : Net W) (host : String) :
    checkServerName net host ≠ .panic := by
  unfold checkServerName
  split <;> simp

theorem PlainUdpUpstream.noPanic (u : PlainUdpUpstream) (req : Message) :
    (u.exchangeWith codec net skipCheck req).NoPanic := by
  refine (Async.NoPanic.lift (pack_ne_panic _ _)).bind fun reqBytes => Async.NoPanic.timeout ?_
  refine (noPanic_io _).bind fun sock => (noPanic_io _).bind fun _ => (noPanic_io _).bind fun _ => ?_
  exact (noPanic_io _).bind fun buf => noPanic_unpackChecked buf.1

theorem PlainTcpUpstream.noPanic_dial (u : PlainTcpUpstream W) : (u.dial net).NoPanic :=
  noPanic_dialTcp _ _ _ _ _

theorem DotUpstream.noPanic_dial (u : DotUpstream W) : (u.dial net).NoPanic := by
  refine (noPanic_dialTcp _ _ _ _ _).bind fun tcp => ?_
  refine (Async.NoPanic.lift (checkServerName_ne_panic _ _)).bind fun _ => ?_
  exact noPanic_httpOp _ _

theorem PlainTcpUpstream.noPanic (u : PlainTcpUpstream W) (req : Message) :
    (u.exchangeWith codec net skipCheck req).NoPanic := by
  refine (Async.NoPanic.lift (packFramed_ne_panic _ _ _)).bind fun reqBytes =>
    Async.NoPanic.timeout ?_
  refine u.noPanic_dial.bind fun tcp => ?_
  exact (noPanic_exchangeFramed _ _).bind fun buf => noPanic_unpackChecked buf

theorem DotUpstream.noPanic (u : DotUpstream W) (req : Message) :
    (u.exchangeWith codec net skipCheck req).NoPanic := by
  refine (Async.NoPanic.lift (packFramed_ne_panic _ _ _)).bind fun reqBytes =>
    Async.NoPanic.timeout ?_
  refine u.noPanic_dial.bind fun tls => ?_
  exact (noPanic_exchangeFramed _ _).bind fun buf => noPanic_unpackChecked buf

end

end DnsProxy
