import DnsProxy.Infra.Machine
import DnsProxy.Listener.DnsCrypt

/-!
# `udp_loop`（`listener/io.rs`・`listener/dnscrypt.rs`）

一つの socket で datagram を待ち、届くたびに task を始める。受け取る buffer は一つを使い回し、届いた分だけを
`to_vec` で写して task に渡す。task は勝手な順で進み、それぞれ多くても一つの datagram を送り返す。

一歩になるのは、次の四つである。

* `recv` — datagram が届き、task が始まる
* `recvFailed` — 受け取りに失敗する。buffer に何が残るかは決まっていない
* `reply` — task が応答を作り、送る
* `fail` — task が、応答を作れないか、送れないかで終わる

task の計算は、途中で world がほかの task に動かされてよいので、始まりの world を決めない。
`arrived` は届いた datagram の記録で、動作には使わない。
-/

namespace DnsProxy

open Infra

variable {W : Type}

/-! ## 一つの packet への応答 -/

/-- `udp_loop` の二つの種類。 -/
inductive UdpLoop (W : Type) where
  | plain (handler : Handler W)
  | dnsCrypt (config : DnsCryptServerConfig) (handler : Handler W)

section

variable (codec : Codec) (suite : CryptoSuite) (net : Net W)

/-- `handle_udp_packet` の、送る前まで。 -/
def UdpLoop.reply : UdpLoop W → Bytes → Async W DohError Bytes
  | .plain handler, packet => do
    let req ← Async.lift (unpack codec "unpacking udp packet" packet)
    let resp ← handler req
    Async.lift (packUdp codec resp)
  | .dnsCrypt config handler, packet => do
    match ← respond codec suite packet config handler with
    | .plain resp => Async.lift (packUdp codec resp)
    | .encrypted clientPublicKey clientNonce respBytes =>
      encryptUdp codec suite net config clientPublicKey clientNonce respBytes

/-- `handle_udp_packet`。 -/
def UdpLoop.handlePacket (socket : Nat) (packet : Bytes) (peer : SocketAddr) :
    UdpLoop W → Async W DohError Unit
  | .plain handler => handleUdpPacket codec net socket packet peer handler
  | .dnsCrypt config handler => handleDnsCryptUdp codec suite net socket packet peer config handler

/-- task は、作った応答をそのまま送り、ほかには何も送らない。 -/
theorem UdpLoop.handlePacket_eq (socket : Nat) (packet : Bytes) (peer : SocketAddr)
    (l : UdpLoop W) :
    l.handlePacket codec suite net socket packet peer
      = l.reply codec suite net packet >>= fun bytes => io (net.udpSendTo socket bytes peer) := by
  cases l with
  | plain handler =>
    unfold UdpLoop.handlePacket UdpLoop.reply handleUdpPacket
    simp only [Async.bind_assoc]
  | dnsCrypt config handler =>
    simp only [UdpLoop.handlePacket, UdpLoop.reply, handleDnsCryptUdp, Async.bind_assoc]
    refine congrArg (respond codec suite packet config handler >>= ·) (funext fun resp => ?_)
    cases resp with
    | plain resp => rfl
    | encrypted clientPublicKey clientNonce respBytes => rfl

end

/-! ## loop の状態 -/

/-- task の進み具合。`ended` は送った datagram を持つ。 -/
inductive UdpStatus where
  | running
  | ended (sent : Option Bytes)
  deriving DecidableEq, Repr

/-- `handle_udp_packet` の task。 -/
structure UdpTask where
  packet : Bytes
  peer : SocketAddr
  status : UdpStatus

/-- `udp_loop` と、それが始めた task。 -/
structure UdpServer where
  buf : Bytes
  tasks : List UdpTask
  /-- 送った datagram と宛先。 -/
  sent : List (Bytes × SocketAddr)
  arrived : List (Bytes × SocketAddr)

inductive UdpEvent where
  | recv (datagram : Bytes) (peer : SocketAddr)
  | recvFailed (buf : Bytes)
  | reply (i : Nat) (bytes : Bytes)
  | fail (i : Nat)

namespace UdpServer

/-- `vec![0u8; 65535]`。 -/
def init : UdpServer where
  buf := List.replicate 65535 0
  tasks := []
  sent := []
  arrived := []

/-- `recv_from` と `buf[..len].to_vec()`。buffer に入らない分は捨てられる。 -/
def recvStep (s : UdpServer) (datagram : Bytes) (peer : SocketAddr) : UdpServer :=
  let len := min datagram.length s.buf.length
  let buf := datagram.take len ++ s.buf.drop len
  { s with
    buf
    tasks := s.tasks ++ [{ packet := buf.take len, peer, status := .running }]
    arrived := s.arrived ++ [(datagram, peer)] }

/-- task `i` が終わる。 -/
def endTask (s : UdpServer) (i : Nat) (t : UdpTask) (sent : Option Bytes) : UdpServer :=
  { s with
    tasks := s.tasks.set i { t with status := .ended sent }
    sent := s.sent ++ (sent.map (·, t.peer)).toList }

/-- 動いている task。 -/
def running (s : UdpServer) (i : Nat) : Option UdpTask :=
  s.tasks[i]?.filter fun t => t.status = .running

def step (s : UdpServer) : UdpEvent → Option UdpServer
  | .recv datagram peer => some (s.recvStep datagram peer)
  | .recvFailed buf => some { s with buf }
  | .reply i bytes => (s.running i).map fun t => s.endTask i t (some bytes)
  | .fail i => (s.running i).map fun t => s.endTask i t none

/--
環境が起こせる event。

失敗した受け取りも、buffer の長さは変えない。task `i` の応答は、いつかの world から `reply` が作るものである。
-/
def Allowed (reply : Bytes → Async W DohError Bytes) (s : UdpServer) : UdpEvent → Prop
  | .recvFailed buf => buf.length = s.buf.length
  | .reply i bytes => ∀ t, s.running i = some t → ∃ w w', reply t.packet w = (.ok bytes, w')
  | _ => True

end UdpServer

/-- `udp_loop` の状態機械。 -/
def udpMachine (codec : Codec) (suite : CryptoSuite) (net : Net W) (l : UdpLoop W) :
    Machine UdpServer UdpEvent where
  init := UdpServer.init
  allowed := UdpServer.Allowed (l.reply codec suite net)
  step := UdpServer.step

end DnsProxy
