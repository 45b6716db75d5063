import DnsProxy.Client.Upstream

/-!
# DoQ の listener（`listener/doq.rs`）

client は要求ごとに双方向の stream を開くので、一つの stream で扱う要求は一つである。
要求も応答も 2 byte の長さを前に付け、ID は 0 でなければならない。失敗すれば何も書かずに
stream を手放す。
-/

namespace DnsProxy

open Infra

variable {W : Type} (codec : Codec) (net : Net W)

/-- DoQ の一つの要求への答え。 -/
def answerDoq (handler : Handler W) (packet : Bytes) : Async W DohError Bytes := do
  let req ← Async.lift (unpack codec "unpacking doq request" packet)
  if req.metadata.id ≠ 0 then Async.throw (.nonZeroId req.metadata.id)
  else do
    let resp ← handler req
    Async.lift (pack codec (resp.setId 0))

/--
`handle_stream`。

`stopped` は `SendStream::stopped` で、client が読み終えるのを待つ。その結果は見ない。
-/
def handleStream (stopped : Nat → Op W Empty Unit) (stream : Nat) (handler : Handler W) :
    Async W DohError Unit := do
  let lenBuf ← quicOp (net.readExact stream 2)
  let len := lenBuf.be16.toNat
  if len > 65535 then Async.throw (.invalidResponse "request too large")
  else do
    let buf ← quicOp (net.readExact stream len)
    let bytes ← answerDoq codec handler buf.1
    if bytes.length > 65535 then Async.throw (.pack "response too large for doq framing")
    else do
      quicOp (net.writeAll stream (Bytes.toBe16 (UInt16.ofNat bytes.length)))
      quicOp (net.writeAll stream bytes)
      quicOp (net.quicFinish stream)
      Async.call (fun e => nomatch e) (stopped stream)

end DnsProxy
