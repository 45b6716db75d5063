import DnsProxy.Listener.Io
import DnsProxy.Properties.Cache
import DnsProxy.Properties.Exchange

/-!
# panic する条件

handler が panic しうるのは `validate_response` の `req.queries[0]` だけである。そこに届くのは、
question の無い要求に対して、試した upstream の一つに question をちょうど一つ持つ message が
届いたときに限る。

question の無い要求では、どの upstream も値を返さない。upstream は順に試すので、「どの upstream を、
どの世界から試すか」を `TriedAt` で表し、そこで届くものは外の世界の操作の列（`Upstream.Delivers`）で表す。
cache は question が一つの要求だけに関わるので、この条件に影響しない。
-/

namespace DnsProxy

open Infra

variable {W : Type}

/-! ## 届く byte 列から読めるもの -/

/-- socket・stream・connection・HTTP の本文のどれかに、byte 列 `b` が届く。 -/
inductive Net.Arrives (net : Net W) (b : Bytes) : Prop where
  | datagram {addr : SocketAddr} {sent : Bytes} {size : Nat} {w w' : W}
      (deliver : DeliversDatagram net addr sent size w b w')
  | frame {stream : Nat} {sent : Bytes} {w w' : W} (deliver : DeliversFrame net stream sent w b w')
  | stream {conn : Nat} {sent : Bytes} {w w' : W} (deliver : DeliversStream net conn sent w b w')
  | body {client : HttpClient} {timeout : Option Duration} {httpReq : HttpRequest} {w w' : W}
      (deliver : DeliversBody net client timeout httpReq w b w')
  | h3 {sender : Nat} {httpReq : HttpRequest} {w w' : W}
      (deliver : DeliversH3 net sender httpReq w b w')

/-- 届く byte 列を、そのまま、または DNSCrypt の応答として開いて読むと、`m` になる。 -/
inductive Net.Reads (codec : Codec) (suite : CryptoSuite) (net : Net W) (m : Message) : Prop where
  | plain {b : Bytes} (arrive : net.Arrives b) (read : codec.fromBytes b = .ok m)
  | boxed {b : Bytes} {cert : Certificate} {client : ClientKeyPair} {nonce : Block 12}
      (arrive : net.Arrives b)
      (opens : DnsCryptUpstream.openResponse codec suite cert client nonce b = .ok m)

/-- 往復で届く message は、ID を除けば、届く byte 列から読めるものである。 -/
theorem Upstream.delivers_reads {codec : Codec} {suite : CryptoSuite} {net : Net W} {u : Upstream W}
    {req m : Message} {w w' : W} (h : u.Delivers codec suite net req w m w') :
    ∃ m', net.Reads codec suite m' ∧ m'.queries = m.queries := by
  cases h with
  | plainUdp _ hdeliver hread => exact ⟨m, .plain (.datagram hdeliver) hread, rfl⟩
  | plainTcp _ _ _ hdeliver hread => exact ⟨m, .plain (.frame hdeliver) hread, rfl⟩
  | dot _ _ _ hdeliver hread => exact ⟨m, .plain (.frame hdeliver) hread, rfl⟩
  | dnsCrypt _ hdeliver =>
    cases hdeliver with
    | udp _ hdeliver hopen _ => exact ⟨m, .boxed (.datagram hdeliver) hopen, rfl⟩
    | tcp _ _ _ _ _ _ hdeliver hopen => exact ⟨m, .boxed (.frame hdeliver) hopen, rfl⟩
  | doq _ _ _ hdeliver hread _ => exact ⟨_, .plain (.stream hdeliver) hread, rfl⟩
  | doh _ _ _ _ hdeliver hread _ => exact ⟨_, .plain (.body hdeliver) hread, rfl⟩
  | h3 _ _ _ _ _ hdeliver hread _ => exact ⟨_, .plain (.h3 hdeliver) hread, rfl⟩

/-! ## 一つの upstream -/

/-- **`exchange` が panic するのは、question の無い要求に question がちょうど一つの message が
届いたとき、かつそのときに限る。** -/
theorem Upstream.exchange_panic_iff {codec : Codec} {suite : CryptoSuite} {net : Net W}
    (u : Upstream W) (req : Message) (w : W) :
    (u.exchange codec suite net req w).1 = .panic ↔
      req.queries = [] ∧
        ∃ m w', u.Delivers codec suite net req w m w' ∧ m.queries.length = 1 := by
  rw [(u.checked req).panic_iff]
  constructor
  · rintro (hp | ⟨m, w', hm, hc⟩)
    · exact absurd hp (u.noPanic_receive req w)
    · obtain ⟨hreq, hlen⟩ := (validateResponse_panic_iff codec req m).mp hc
      exact ⟨hreq, m, w', u.receive_ok_iff.mp hm, hlen⟩
  · rintro ⟨hreq, m, w', hm, hlen⟩
    exact Or.inr ⟨m, w', u.receive_ok_iff.mpr hm,
      (validateResponse_panic_iff codec req m).mpr ⟨hreq, hlen⟩⟩

namespace Proxy

variable (p : Proxy W)

/-- 世界 `w` から `u` を試すと、question をちょうど一つ持つ message が届く。 -/
def OneQuestionReply (u : TrackedUpstream (Upstream W)) (req : Message) (w : W) : Prop :=
  ∃ m w', u.upstream.Delivers p.codec p.suite p.net req (p.net.now w).2 m w' ∧ m.queries.length = 1

/-- `w` から列を順に試すうちに、前のものがすべて失敗して、`w'` から `v` を試すことになる。 -/
inductive TriedAt (req : Message) (v : TrackedUpstream (Upstream W)) (w' : W) :
    List (TrackedUpstream (Upstream W)) → W → Prop where
  | head (rest : List (TrackedUpstream (Upstream W))) : TriedAt req v w' (v :: rest) w'
  | tail {u : TrackedUpstream (Upstream W)} {rest : List (TrackedUpstream (Upstream W))}
      {e : DohError} {w w₁ : W} (failed : p.trackedExchange u req w = (.ok (.error e), w₁))
      (next : TriedAt req v w' rest w₁) : TriedAt req v w' (u :: rest) w

/-- 列 `us` を順に試すうちに、question がちょうど一つの message が届く。 -/
def Reaches (req : Message) (us : List (TrackedUpstream (Upstream W))) (w : W) : Prop :=
  ∃ v w', p.TriedAt req v w' us w ∧ p.OneQuestionReply v req w'

variable {p}

theorem trackedExchange_panic_iff (u : TrackedUpstream (Upstream W)) (req : Message) (w : W) :
    (p.trackedExchange u req w).1 = .panic ↔ req.queries = [] ∧ p.OneQuestionReply u req w := by
  have hrecord : ∀ start result, (p.recordLatency u start result).NoPanic := by
    intro start result
    cases result with
    | error e => exact Async.NoPanic.pure _
    | ok resp => exact (noPanic_instantNow p.net).bind fun now => Async.NoPanic.modify _
  have hstart : p.trackedExchange u req w
      = ((u.upstream.exchange p.codec p.suite p.net req).attempt >>= fun result =>
          p.recordLatency u (p.net.now w).1 result >>= fun _ => pure result) (p.net.now w).2 := rfl
  rw [hstart, Async.bind_panic_iff_left fun result =>
      (hrecord _ result).bind fun _ => Async.NoPanic.pure _,
    Async.attempt_panic_iff, Upstream.exchange_panic_iff]
  rfl

/-! ## 上流の列 -/

/-- 列の先頭で届くか、先頭が失敗して残りで届くかのどちらかである。 -/
theorem reaches_cons_iff {u : TrackedUpstream (Upstream W)}
    {rest : List (TrackedUpstream (Upstream W))} {req : Message} {w : W} :
    p.Reaches req (u :: rest) w ↔ p.OneQuestionReply u req w ∨
      ∃ e w₁, p.trackedExchange u req w = (.ok (.error e), w₁) ∧ p.Reaches req rest w₁ := by
  constructor
  · rintro ⟨v, w', htried, hone⟩
    cases htried with
    | head => exact Or.inl hone
    | tail failed next => exact Or.inr ⟨_, _, failed, v, w', next, hone⟩
  · rintro (hone | ⟨e, w₁, failed, v, w', next, hone⟩)
    · exact ⟨u, w, .head rest, hone⟩
    · exact ⟨v, w', .tail failed next, hone⟩

/-- 上流を順に試す loop が panic する条件。帰納法は列の長さについてのものである。 -/
theorem tryUpstreams_panic_iff (req : Message) (us : List (TrackedUpstream (Upstream W)))
    (lastErr : Option DohError) (w : W) :
    (UpstreamConfig.tryUpstreams (fun u => p.trackedExchange u req) us lastErr w).1 = .panic ↔
      req.queries = [] ∧ p.Reaches req us w := by
  induction us generalizing lastErr w with
  | nil =>
    constructor
    · intro h
      cases h
    · rintro ⟨_, v, w', htried, _⟩
      cases htried
  | cons u rest ih =>
    unfold UpstreamConfig.tryUpstreams
    rw [Async.bind_panic_iff, trackedExchange_panic_iff, reaches_cons_iff]
    constructor
    · rintro (⟨hreq, hone⟩ | ⟨result, w₁, hu, hp⟩)
      · exact ⟨hreq, Or.inl hone⟩
      · cases result with
        | ok resp => cases hp
        | error e =>
          obtain ⟨hreq, hrest⟩ := (ih (some e) w₁).mp hp
          exact ⟨hreq, Or.inr ⟨e, w₁, hu, hrest⟩⟩
    · rintro ⟨hreq, hone | ⟨e, w₁, hu, hrest⟩⟩
      · exact Or.inl ⟨hreq, hone⟩
      · exact Or.inr ⟨.error e, w₁, hu, (ih (some e) w₁).mpr ⟨hreq, hrest⟩⟩

/-! ## handler -/

variable (p)

/-- 要求 `req` が試す上流の列。 -/
def tried (req : Message) (w : W) : List (TrackedUpstream (Upstream W)) :=
  ((p.config.get w).upstreamsFor (p.orderEnv w) (UpstreamConfig.queryName p.escape req)).1

/-- 上流を並べ終えて、cursor が進んだところ。 -/
def routed (req : Message) (w : W) : W :=
  p.config.set
    ((p.config.get w).upstreamsFor (p.orderEnv w) (UpstreamConfig.queryName p.escape req)).2 w

/-- `cached` のとき cache を挟んだ handler。 -/
def queryHandler (cached : Bool) : Handler W :=
  if cached then p.cachedHandler p.handler else p.handler

variable {p}

theorem noPanic_ofResult (r : Except DohError Message) :
    (ofResult r : Async W DohError Message).NoPanic := by
  cases r with
  | ok resp => exact Async.NoPanic.pure _
  | error e => exact Async.NoPanic.throw _

theorem handler_panic_iff (req : Message) (w : W) :
    (p.handler req w).1 = .panic ↔
      req.queries = [] ∧ p.Reaches req (p.tried req w) (p.routed req w) := by
  have hrun : p.handler req w
      = ((p.config.get w).exchange p.net.std.unprintable p.escape (p.orderEnv w)
          p.trackedExchange req).2.bind ofResult (p.routed req w) := rfl
  rw [hrun]
  refine (Async.bind_panic_iff_left (noPanic_ofResult ·)).trans ?_
  refine Iff.trans (Async.bind_panic_iff_left fun r => ?_) (tryUpstreams_panic_iff req _ _ _)
  cases r with
  | ok resp => exact Async.NoPanic.pure _
  | error lastErr => exact Async.NoPanic.pure _

/-- question の無い要求は cache を素通りし、ほかの要求は panic しない。 -/
theorem cachedHandler_panic_iff (req : Message) (w : W) :
    (p.cachedHandler p.handler req w).1 = .panic ↔
      req.queries = [] ∧ p.Reaches req (p.tried req w) (p.routed req w) := by
  unfold cachedHandler
  cases hkey : cacheKey req with
  | none => exact handler_panic_iff req w
  | some key =>
    have hne : req.queries ≠ [] := by
      intro hnil
      have hlen : req.queries.length = 1 := (cacheKey_isSome_iff req).mp ⟨key, hkey⟩
      rw [hnil] at hlen
      cases hlen
    have hinner : (p.handler req).NoPanic := fun w hp => hne ((handler_panic_iff req w).mp hp).1
    have hget : (p.cacheGet key req.metadata.id).NoPanic := by
      refine (noPanic_lock p.net).bind fun _ => (noPanic_instantNow p.net).bind fun now => ?_
      exact fun w h => by cases h
    have hinsert : ∀ resp, (p.cacheInsert key resp).NoPanic := by
      intro resp
      refine (noPanic_instantNow p.net).bind fun now => (Async.NoPanic.gets _).bind fun entry => ?_
      cases entry with
      | none => exact Async.NoPanic.pure _
      | some entry => exact (noPanic_lock p.net).bind fun _ => Async.NoPanic.modify _
    constructor
    · intro hp
      refine absurd hp (Async.NoPanic.bind hget (fun hit => ?_) w)
      cases hit with
      | some resp => exact Async.NoPanic.pure _
      | none =>
        exact hinner.bind fun resp => (hinsert resp).bind fun _ => Async.NoPanic.pure _
    · rintro ⟨hnil, _⟩
      exact absurd hnil hne

theorem queryHandler_panic_iff (cached : Bool) (req : Message) (w : W) :
    (p.queryHandler cached req w).1 = .panic ↔
      req.queries = [] ∧ p.Reaches req (p.tried req w) (p.routed req w) := by
  cases cached with
  | true => exact cachedHandler_panic_iff req w
  | false => exact handler_panic_iff req w

/-- packet を読んで書き戻す部分は panic しない。 -/
theorem handleUdpPacket_panic_iff {packet : Bytes} {req : Message}
    (hdec : p.codec.fromBytes packet = .ok req) (socket : Nat) (peer : SocketAddr)
    (handler : Handler W) (w : W) :
    (handleUdpPacket p.codec p.net socket packet peer handler w).1 = .panic ↔
      (handler req w).1 = .panic := by
  have hread : unpack p.codec "unpacking udp packet" packet = .ok req := by
    unfold unpack
    rw [hdec]
  unfold handleUdpPacket
  rw [hread, Async.lift_bind_ok, Async.bind_panic_iff_left]
  intro resp
  exact (Async.NoPanic.lift (packUdp_ne_panic _ _)).bind fun bytes => noPanic_io _

end Proxy

/--
**handler が panic せずに済むのは、要求に question が有るか、順に試す upstream のどれにも、question が
ちょうど一つの message が届かないとき、かつそのときに限る。届くどの byte 列からも、question がちょうど
一つの message は読めない network なら、panic しない。** cache の有無には依らない。
-/
theorem handling_no_panic_iff (p : Proxy W) {packet : Bytes} {req : Message}
    (hdec : p.codec.fromBytes packet = .ok req) (cached : Bool) (socket : Nat) (peer : SocketAddr)
    (w : W) :
    (((p.queryHandler cached req w).1 ≠ .panic ∧
      (handleUdpPacket p.codec p.net socket packet peer (p.queryHandler cached) w).1 ≠ .panic) ↔
      req.queries ≠ [] ∨
        ∀ v w', p.TriedAt req v w' (p.tried req w) (p.routed req w) → ∀ m w'',
          v.upstream.Delivers p.codec p.suite p.net req (p.net.now w').2 m w'' →
          m.queries.length ≠ 1) ∧
    ((∀ m, p.net.Reads p.codec p.suite m → m.queries.length ≠ 1) →
      (p.queryHandler cached req w).1 ≠ .panic ∧
        (handleUdpPacket p.codec p.net socket packet peer (p.queryHandler cached) w).1 ≠ .panic) := by
  have hiff : ((p.queryHandler cached req w).1 ≠ .panic ∧
      (handleUdpPacket p.codec p.net socket packet peer (p.queryHandler cached) w).1 ≠ .panic) ↔
      req.queries ≠ [] ∨ ¬ p.Reaches req (p.tried req w) (p.routed req w) := by
    rw [ne_eq, ne_eq, Proxy.handleUdpPacket_panic_iff hdec, and_self, Proxy.queryHandler_panic_iff,
      not_and_or]
  have hnone : ¬ p.Reaches req (p.tried req w) (p.routed req w) ↔
      ∀ v w', p.TriedAt req v w' (p.tried req w) (p.routed req w) → ∀ m w'',
        v.upstream.Delivers p.codec p.suite p.net req (p.net.now w').2 m w'' →
        m.queries.length ≠ 1 :=
    ⟨fun h v w' htried m w'' hdeliver hlen => h ⟨v, w', htried, m, w'', hdeliver, hlen⟩,
      fun h ⟨v, w', htried, m, w'', hdeliver, hlen⟩ => h v w' htried m w'' hdeliver hlen⟩
  rw [hnone] at hiff
  refine ⟨hiff, fun hnet => hiff.mpr (Or.inr fun v w' _ m w'' hdeliver => ?_)⟩
  obtain ⟨m', hreads, hqueries⟩ := Upstream.delivers_reads hdeliver
  rw [← hqueries]
  exact hnet m' hreads

/-! ## question の無い要求 -/

/-- 中身の変わらない置き場所。 -/
def Cell.constant {S : Type} (v : S) : Cell Unit S where
  get _ := v
  set _ w := w

/-- 既定の上流が UDP 一つの設定。 -/
def udpConfig : UpstreamConfig (Upstream Unit) where
  domainUpstreams := ∅
  defaultUpstreams := { upstreams := [{ id := 0, upstream := .plainUdp sampleUdp }] }
  mode := .ordered

/-- `udpConfig` で動き、どの query にも `reply` が届く proxy。 -/
def udpProxy (codec : Codec) (reply : Bytes) : Proxy Unit where
  codec
  suite := CryptoSuite.trivial
  net := Net.replying reply
  escape := hickoryEscape
  ema sample _ := sample
  config := Cell.constant udpConfig
  latency _ := Cell.constant {}
  shuffle _ l := l
  shuffle_perm _ l := List.Perm.refl l
  lru := sampleLru
  cache := Cell.constant (Cache.new sampleLru sampleOptions)

/-- question の無い要求。 -/
def emptyQuery : Message := Message.new 1 .query .query

def emptyQueryWire : Bytes := [0, 1, 0, 0, 0, 0, 0, 0, 0, 0, 0, 0]

def questionCodec : Codec :=
  tableCodec [(emptyQuery, emptyQueryWire), (queryA, wireA 1 0), (replyA, wireA 1 0x80)]

/-- question の有る要求では、同じ応答が届いても panic しない。 -/
theorem handling_no_panic_with_question :
    questionCodec.fromBytes (wireA 1 0) = .ok queryA ∧
    ((udpProxy questionCodec (wireA 1 0x80)).queryHandler true queryA ()).1 ≠ .panic ∧
    (handleUdpPacket questionCodec (Net.replying (wireA 1 0x80)) 0 (wireA 1 0) sampleUdp.addr
      ((udpProxy questionCodec (wireA 1 0x80)).queryHandler true) ()).1 ≠ .panic := by
  have hdec : questionCodec.fromBytes (wireA 1 0) = .ok queryA := rfl
  exact ⟨hdec, (handling_no_panic_iff (udpProxy questionCodec (wireA 1 0x80)) hdec true 0
    sampleUdp.addr ()).1.mpr (Or.inl (by decide))⟩

/-- question の無い要求に question が一つの応答が届くと、cache が有っても無くても panic する。 -/
theorem empty_query_panics :
    questionCodec.fromBytes emptyQueryWire = .ok emptyQuery ∧
    ∀ cached, ((udpProxy questionCodec (wireA 1 0x80)).queryHandler cached emptyQuery ()).1 = .panic ∧
      (handleUdpPacket questionCodec (Net.replying (wireA 1 0x80)) 0 emptyQueryWire sampleUdp.addr
        ((udpProxy questionCodec (wireA 1 0x80)).queryHandler cached) ()).1 = .panic := by
  refine ⟨rfl, fun cached => ?_⟩
  cases cached with
  | true => exact ⟨rfl, rfl⟩
  | false => exact ⟨rfl, rfl⟩

end DnsProxy
