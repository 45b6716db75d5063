import DnsProxy.Client.Doh

/-!
# DoQ（`client/doq.rs`）

要求ごとに QUIC の双方向 stream を開く。connection は取っておいて使い回す。
ID は 0 にして送り、応答の ID が 0 であることを確かめてから元に戻す。
-/

namespace DnsProxy

open Infra

variable {W : Type} (codec : Codec) (net : Net W)

structure DoqUpstream (W : Type) where
  host : String
  port : UInt16
  resolver : Resolver W
  preferIpv6 : Bool
  timeout : Option Duration
  insecureSkipVerify : Bool
  conn : Cell W (Option Nat)

namespace DoqUpstream

/-- `DoqUpstream::dial`。 -/
def dial (u : DoqUpstream W) : Async W DohError Nat := do
  let addrs ← resolveAddrs net u.host u.port u.timeout u.resolver u.preferIpv6
  let addr ← Async.lift (firstAddr u.host addrs)
  let tlsConfig := buildTlsConfig u.host u.insecureSkipVerify ["doq"]
  quicOp (net.dialQuic addr u.host tlsConfig)

/-- `DoqUpstream::get_conn`。 -/
def getConn (u : DoqUpstream W) : Async W DohError (Nat × Bool) := do
  lock net
  match ← Async.read u.conn with
  | some c => pure (c, true)
  | none => do
    let c ← u.dial net
    Async.write u.conn (some c)
    pure (c, false)

/-- `DoqUpstream::reset_conn`。 -/
def resetConn (u : DoqUpstream W) : Async W DohError Nat := do
  lock net
  let c ← u.dial net
  Async.write u.conn (some c)
  pure c

/-- `DoqUpstream::exchange_on` の `fut`。 -/
def exchangeStream (conn : Nat) (reqBytes : Bytes) : Async W DohError Bytes := do
  let stream ← quicOp (net.quicOpenBi conn)
  quicOp (net.writeAll stream (Bytes.toBe16 (UInt16.ofNat reqBytes.length)))
  quicOp (net.writeAll stream reqBytes)
  quicOp (net.quicFinish stream)
  let lenBuf ← quicOp (net.readExact stream 2)
  let respLen := lenBuf.be16.toNat
  if respLen > 65535 then Async.throw (.invalidResponse "response too large")
  else do
    let respBuf ← quicOp (net.readExact stream respLen)
    pure respBuf.1

/-- `DoqUpstream::exchange_on`。応答の扱いは `decode_response` と同じ手順である。 -/
def exchangeOnWith (u : DoqUpstream W) (conn : Nat) (check : Message → Outcome DohError Unit)
    (req : Message) : Async W DohError Message := do
  let originalId := req.metadata.id
  let reqBytes ← Async.lift (packFramed codec "doq" (req.setId 0))
  withTimeout u.timeout do
    let respBuf ← exchangeStream net conn reqBytes
    Async.lift (decodeResponse codec check respBuf originalId)

/-- `DoqUpstream::exchange`。 -/
def exchangeWith (u : DoqUpstream W) (check : Message → Outcome DohError Unit) (req : Message) :
    Async W DohError Message := do
  let (conn, wasCached) ← u.getConn net
  retryOnce wasCached (u.exchangeOnWith codec net conn check req)
    (do
      let conn ← u.resetConn net
      u.exchangeOnWith codec net conn check req)
    (do
      lock net
      Async.write u.conn none)

/-! ## 検査の前と後、返る応答の ID -/

section

variable {codec net} {check : Message → Outcome DohError Unit}

theorem checked_exchangeOn (u : DoqUpstream W) (conn : Nat) (req : Message) (hc : IsCheck check) :
    Async.Checked check (u.exchangeOnWith codec net conn check req)
      (u.exchangeOnWith codec net conn skipCheck req) := by
  refine Async.Checked.bind fun reqBytes => Async.Checked.timeout hc.ne_pending ?_
  exact Async.Checked.bind fun buf => checked_decodeResponse buf req.metadata.id

theorem checked (u : DoqUpstream W) (req : Message) (hc : IsCheck check) :
    Async.Checked check (u.exchangeWith codec net check req)
      (u.exchangeWith codec net skipCheck req) := by
  refine Async.Checked.bind fun p => ?_
  obtain ⟨conn, wasCached⟩ := p
  refine checked_retryOnce hc (reset_ok u.conn) (u.checked_exchangeOn conn req hc) ?_
  exact Async.Checked.bind fun conn => u.checked_exchangeOn conn req hc

theorem ensures_id_exchangeOn (u : DoqUpstream W) (conn : Nat) (req : Message) :
    Async.Ensures (fun m => m.metadata.id = req.metadata.id)
      (u.exchangeOnWith codec net conn check req) := by
  refine Async.Ensures.bind fun reqBytes => Async.Ensures.timeout ?_
  exact Async.Ensures.bind fun buf => ensures_decodeResponse buf req.metadata.id

/-- DoQ が返す応答は、どの経路でも要求の ID を持つ。 -/
theorem ensures_id (u : DoqUpstream W) (req : Message) :
    Async.Ensures (fun m => m.metadata.id = req.metadata.id)
      (u.exchangeWith codec net check req) := by
  refine Async.Ensures.bind fun p => ?_
  obtain ⟨conn, wasCached⟩ := p
  refine ensures_retryOnce (u.ensures_id_exchangeOn conn req) ?_
  exact Async.Ensures.bind fun conn => u.ensures_id_exchangeOn conn req

end

/-! ## panic しないこと -/

section

variable {codec net}

theorem noPanic_dial (u : DoqUpstream W) : (u.dial net).NoPanic := by
  refine (noPanic_resolveAddrs _ _ _ _ _ _).bind fun addrs => ?_
  refine (Async.NoPanic.lift (firstAddr_ne_panic _ _)).bind fun addr => ?_
  exact noPanic_quicOp _

theorem noPanic_getConn (u : DoqUpstream W) : (u.getConn net).NoPanic := by
  refine (noPanic_lock net).bind fun _ => (noPanic_read u.conn).bind fun c => ?_
  cases c with
  | some c => exact Async.NoPanic.pure _
  | none =>
    refine u.noPanic_dial.bind fun c => ?_
    exact (noPanic_write _ _).bind fun _ => Async.NoPanic.pure _

theorem noPanic_resetConn (u : DoqUpstream W) : (u.resetConn net).NoPanic := by
  refine (noPanic_lock net).bind fun _ => u.noPanic_dial.bind fun c => ?_
  exact (noPanic_write _ _).bind fun _ => Async.NoPanic.pure _

theorem noPanic_exchangeOn (u : DoqUpstream W) (conn : Nat) (req : Message) :
    (u.exchangeOnWith codec net conn skipCheck req).NoPanic := by
  have hstream : ∀ reqBytes, (exchangeStream net conn reqBytes).NoPanic := by
    intro reqBytes
    refine (noPanic_quicOp _).bind fun stream => (noPanic_quicOp _).bind fun _ => ?_
    refine (noPanic_quicOp _).bind fun _ => (noPanic_quicOp _).bind fun _ => ?_
    refine (noPanic_quicOp _).bind fun lenBuf => ?_
    dsimp only
    split
    · exact Async.NoPanic.throw _
    · exact (noPanic_quicOp _).bind fun _ => Async.NoPanic.pure _
  refine (Async.NoPanic.lift (packFramed_ne_panic _ _ _)).bind fun reqBytes =>
    Async.NoPanic.timeout ?_
  exact (hstream reqBytes).bind fun buf => Async.NoPanic.lift (decodeResponse_skip_ne_panic _ _ _)

theorem noPanic (u : DoqUpstream W) (req : Message) :
    (u.exchangeWith codec net skipCheck req).NoPanic := by
  refine u.noPanic_getConn.bind fun p => ?_
  obtain ⟨conn, wasCached⟩ := p
  refine noPanic_retryOnce (u.noPanic_exchangeOn conn req) ?_ (noPanic_reset u.conn)
  exact u.noPanic_resetConn.bind fun conn => u.noPanic_exchangeOn conn req

end

end DoqUpstream

end DnsProxy
