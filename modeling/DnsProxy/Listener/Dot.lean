import DnsProxy.Listener.Io

/-!
# DoT の listener（`listener/dot.rs`）

TLS の handshake の後は、素の TCP と同じ形の要求と応答を、その中でやり取りする。
-/

namespace DnsProxy

open Infra

variable {W : Type} (codec : Codec) (net : Net W)

/-- DoT の一つの要求への答え。 -/
def answerDot (handler : Handler W) (packet : Bytes) : Async W DohError Bytes := do
  let req ← Async.lift (unpack codec "unpacking dot message" packet)
  let resp ← handler req
  Async.lift (pack codec resp)

/-- `handle_connection`。`accept` は `TlsAcceptor::accept` である。 -/
def handleDotConnection (accept : Nat → Op W String Nat) (tcp : Nat) (handler : Handler W)
    (fuel : Nat) : Async W DohError Unit := do
  let tls ← httpOp "tls handshake failed" (accept tcp)
  tcpLoop net tls (answerDot codec handler) fuel

end DnsProxy
