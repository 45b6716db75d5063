import Mathlib.Data.List.Infix

/-!
# `DohError`

upstream とのやり取りで起きる失敗。`#[error("…")]` の文面は表示にしか使われないので写さず、
場合分けに使われる構成子と中身だけを写す。`ProtoError` と `std::io::Error` は
中身を誰も見ないので、その文面で代える。
-/

namespace DnsProxy

/-- 時間の長さ（ナノ秒）。`std::time::Duration`。 -/
abbrev Duration := Nat

/-- `Duration::from_secs`。 -/
def Duration.fromSecs (n : Nat) : Duration := n * 1000000000

/-- `Duration::as_secs`。端数は切り捨てる。 -/
def Duration.asSecs (d : Duration) : Nat := d / 1000000000

inductive DohError where
  | bootstrap (msg : String)
  | pack (e : String)
  | http (msg : String)
  | unexpectedStatus (status : Nat) (addr : String)
  | nonZeroId (id : UInt16)
  | invalidResponse (msg : String)
  | timeout (d : Duration)
  | noSupportedVersions
  | io (e : String)
  | quic (msg : String)
  | dnsCrypt (msg : String)
  deriving DecidableEq, Repr, Inhabited

/-- `DohError::should_retry`。 -/
def DohError.shouldRetry : DohError → Bool
  | .timeout _ => true
  | .quic msg => "0-RTT".toList <:+: msg.toList || "retry".toList <:+: msg.toList
  | _ => false

end DnsProxy
