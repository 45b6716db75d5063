import DnsProxy.Client.Upstream

/-!
# 素の DNS の listener（`listener/io.rs`）

届いた packet を読み、handler に渡し、返ってきた応答を書き戻す。
UDP で 512 byte を超える応答は、TC を立てて question だけにする。
-/

namespace DnsProxy

open Infra

variable {W : Type} (codec : Codec) (net : Net W)

/-! ## UDP -/

/-- `to_bytes` と、512 byte を超えるときの `truncate`。 -/
def packUdp (resp : Message) : Outcome DohError Bytes := do
  let bytes ← pack codec resp
  if bytes.length > 512 then pack codec resp.truncate else pure bytes

/-- `handle_udp_packet`。 -/
def handleUdpPacket (socket : Nat) (packet : Bytes) (peer : SocketAddr) (handler : Handler W) :
    Async W DohError Unit := do
  let req ← Async.lift (unpack codec "unpacking udp packet" packet)
  let resp ← handler req
  let bytes ← Async.lift (packUdp codec resp)
  io (net.udpSendTo socket bytes peer)

/-! ## TCP -/

/-- `read_prefixed`。 -/
def readPrefixed (stream : Nat) : Async W DohError Bytes := do
  let len ← io (net.readExact stream 2)
  let buf ← io (net.readExact stream len.be16.toNat)
  pure buf.1

/-- `write_prefixed`。 -/
def writePrefixed (stream : Nat) (body : Bytes) : Async W DohError Unit :=
  if body.length > 65535 then
    Async.throw (.pack "response too large for 2-byte length prefix")
  else do
    io (net.writeAll stream (Bytes.toBe16 (UInt16.ofNat body.length)))
    io (net.writeAll stream body)

/--
`loop { read_prefixed; ..; write_prefixed }`。

読めなくなれば終わる。`fuel` 回の要求に答えた後は、次を待っているものとする。
-/
def tcpLoop (stream : Nat) (answer : Bytes → Async W DohError Bytes) :
    (fuel : Nat) → Async W DohError Unit
  | 0 => Async.lift .pending
  | fuel + 1 => do
    match ← (readPrefixed net stream).attempt with
    | .error _ => pure ()
    | .ok packet => do
      let bytes ← answer packet
      writePrefixed net stream bytes
      tcpLoop stream answer fuel

/-- TCP の一つの要求への答え。 -/
def answerTcp (handler : Handler W) (packet : Bytes) : Async W DohError Bytes := do
  let req ← Async.lift (unpack codec "unpacking tcp message" packet)
  let resp ← handler req
  Async.lift (pack codec resp)

/-- `handle_tcp_connection`。 -/
def handleTcpConnection (stream : Nat) (handler : Handler W) (fuel : Nat) :
    Async W DohError Unit := tcpLoop net stream (answerTcp codec handler) fuel

/-! ## panic しないこと -/

theorem packUdp_ne_panic (resp : Message) : packUdp codec resp ≠ .panic := by
  unfold packUdp
  cases hp : pack codec resp with
  | ok b =>
    simp only [Outcome.ok_bind]
    split
    · exact pack_ne_panic codec _
    · simp
  | err e => simp
  | pending => intro h; cases h
  | panic => exact absurd hp (pack_ne_panic codec _)

end DnsProxy
