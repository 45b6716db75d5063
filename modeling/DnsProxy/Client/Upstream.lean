import DnsProxy.Cache
import DnsProxy.Client.DnsCrypt
import DnsProxy.Client.Doq
import DnsProxy.Client.UpstreamConfig

/-!
# 上流と handler（`client/upstream.rs`・`UpstreamConfig::into_handler`・`Cache::into_handler`）

六種類の transport を一つの型にまとめ、設定から handler を作る。

検査を引数に取る `exchangeWith` に `validate_response` を渡したものが `exchange`、
何も確かめない検査を渡したものが `receive`（server から届いた message そのもの）である。
`exchange` は `receive` の最後に検査を挟んだものに等しい（`Upstream.checked`）。
-/

namespace DnsProxy

open Infra

variable {W : Type}

/-- `Upstream`。 -/
inductive Upstream (W : Type) where
  | doh (u : DohUpstream W)
  | dot (u : DotUpstream W)
  | doq (u : DoqUpstream W)
  | dnsCrypt (u : DnsCryptUpstream W)
  | plainUdp (u : PlainUdpUpstream)
  | plainTcp (u : PlainTcpUpstream W)

namespace Upstream

variable (codec : Codec) (suite : CryptoSuite) (net : Net W)

/-- 検査を `check` に替えた `exchange`。 -/
def exchangeWith (check : Message → Outcome DohError Unit) (req : Message) :
    Upstream W → Async W DohError Message
  | .doh u => u.exchangeWith codec net check req
  | .dot u => u.exchangeWith codec net check req
  | .doq u => u.exchangeWith codec net check req
  | .dnsCrypt u => u.exchangeWith codec suite net check req
  | .plainUdp u => u.exchangeWith codec net check req
  | .plainTcp u => u.exchangeWith codec net check req

/-- `Upstream::exchange`。 -/
def exchange (u : Upstream W) (req : Message) : Async W DohError Message :=
  u.exchangeWith codec suite net (validateResponse codec req) req

/-- 検査の前に server から届いた message。 -/
def receive (u : Upstream W) (req : Message) : Async W DohError Message :=
  u.exchangeWith codec suite net skipCheck req

/-- ID を 0 にして送る transport。 -/
def zeroesId : Upstream W → Bool
  | .doh _ => true
  | .doq _ => true
  | _ => false

section

variable {codec suite net}

/-- **どの transport の `exchange` も、届いた message を最後に `validate_response` で検査する。** -/
theorem checked (u : Upstream W) (req : Message) :
    Async.Checked (validateResponse codec req) (u.exchange codec suite net req)
      (u.receive codec suite net req) := by
  have hc : IsCheck (validateResponse codec req) := isCheck_validateResponse codec req
  cases u with
  | doh u => exact u.checked req hc
  | dot u => exact u.checked req hc
  | doq u => exact u.checked req hc
  | dnsCrypt u => exact u.checked req hc
  | plainUdp u => exact u.checked req hc
  | plainTcp u => exact u.checked req hc

/-- 検査のほかに panic しうるところは無い。 -/
theorem noPanic_receive (u : Upstream W) (req : Message) :
    (u.receive codec suite net req).NoPanic := by
  cases u with
  | doh u => exact u.noPanic req
  | dot u => exact u.noPanic req
  | doq u => exact u.noPanic req
  | dnsCrypt u => exact u.noPanic req
  | plainUdp u => exact u.noPanic req
  | plainTcp u => exact u.noPanic req

theorem ensures_id {u : Upstream W} (hu : u.zeroesId = true) (req : Message) :
    Async.Ensures (fun m => m.metadata.id = req.metadata.id) (u.receive codec suite net req) := by
  cases u with
  | doh u => exact u.ensures_id req
  | doq u => exact u.ensures_id req
  | dot u => cases hu
  | dnsCrypt u => cases hu
  | plainUdp u => cases hu
  | plainTcp u => cases hu

end

end Upstream

/-! ## 設定から handler を作る -/

/-- `Handler`。 -/
abbrev Handler (W : Type) := Message → Async W DohError Message

/-- 手元の状態 `S` を添えた世界での handler。`S` には触れない。 -/
def Handler.onSnd {W S : Type} (handler : Handler W) : Handler (S × W) := fun req =>
  (handler req).onSnd

/-- 動いている proxy の、要求を越えて残る部分と、library に任せる部分。 -/
structure Proxy (W : Type) where
  codec : Codec
  suite : CryptoSuite
  net : Net W
  escape : LabelEscape
  /-- `LatencyTracker` の移動平均（浮動小数点）。 -/
  ema : UInt64 → UInt64 → UInt64
  config : Cell W (UpstreamConfig (Upstream W))
  latency : Nat → Cell W LatencyTracker
  /-- 並べ替えの乱数。 -/
  shuffle : W → List (TrackedUpstream (Upstream W)) → List (TrackedUpstream (Upstream W))
  shuffle_perm : ∀ w l, (shuffle w l).Perm l
  lru : LruCache CacheKey CacheEntry
  cache : Cell W (Cache lru)

namespace Proxy

/-- 並べ替えに使う、その時点の状態。 -/
def orderEnv (p : Proxy W) (w : W) : OrderEnv (Upstream W) where
  latency id := (p.latency id).get w
  shuffle := p.shuffle w
  shuffle_perm := p.shuffle_perm w

/-- `if result.is_ok() { self.latency.record(start.elapsed()) }`。 -/
def recordLatency (p : Proxy W) (u : TrackedUpstream (Upstream W)) (start : Nat) :
    Except DohError Message → Async W DohError Unit
  | .error _ => pure ()
  | .ok _ => do
    let now ← instantNow p.net
    let cell := p.latency u.id
    Async.modify fun w => cell.set ((cell.get w).record p.ema ((now - start) / 1000)) w

/-- `TrackedUpstream::exchange`。 -/
def trackedExchange (p : Proxy W) (u : TrackedUpstream (Upstream W)) (req : Message) :
    Async W DohError (Except DohError Message) := do
  let start ← instantNow p.net
  let result ← (u.upstream.exchange p.codec p.suite p.net req).attempt
  p.recordLatency u start result
  pure result

/-- `Result` を返す計算を、失敗する計算に戻す。 -/
def ofResult : Except DohError Message → Async W DohError Message
  | .ok resp => pure resp
  | .error e => Async.throw e

/-- `UpstreamConfig::into_handler`。 -/
def handler (p : Proxy W) : Handler W := fun req => do
  let c ← Async.read p.config
  let env ← Async.gets p.orderEnv
  let (c', run) := c.exchange p.net.std.unprintable p.escape env p.trackedExchange req
  Async.write p.config c'
  let result ← run
  ofResult result

/-- `Cache::get`。 -/
def cacheGet (p : Proxy W) (key : CacheKey) (id : UInt16) : Async W DohError (Option Message) := do
  lock p.net
  let now ← instantNow p.net
  fun w =>
    let (hit, cache) := (p.cache.get w).get now key id
    (.ok hit, p.cache.set cache w)

/-- `Cache::insert`。 -/
def cacheInsert (p : Proxy W) (key : CacheKey) (resp : Message) : Async W DohError Unit := do
  let now ← instantNow p.net
  match ← Async.gets fun w => (p.cache.get w).makeEntry now resp with
  | none => pure ()
  | some entry => do
    lock p.net
    Async.modify fun w => p.cache.set ((p.cache.get w).putEntry key entry) w

/-- `Cache::into_handler`。 -/
def cachedHandler (p : Proxy W) (inner : Handler W) : Handler W := fun req =>
  match cacheKey req with
  | none => inner req
  | some key => do
    match ← p.cacheGet key req.metadata.id with
    | some resp => pure resp
    | none => do
      let resp ← inner req
      p.cacheInsert key resp
      pure resp

end Proxy

end DnsProxy
