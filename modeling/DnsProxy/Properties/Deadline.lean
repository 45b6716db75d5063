import DnsProxy.Infra.Settle
import DnsProxy.Properties.Confinement

/-!
# 期限と、待ち続けること

`Options::timeout` は、それぞれの待ちに付く期限である。どの待ちにも付くわけではなく、次の三つの外側には
期限が無い。

* QUIC の接続（`dial_quic`）
* その上の HTTP/3 の接続（`h3::client::new`）
* HTTP/1.1 と HTTP/2 の応答の本文（`Body::collect`）

期限を付けて作った upstream では、この三つさえ終われば、どの transport でも、どの server が何を
しても、失敗した上流の次を試しても、cache を挟んでも、handler は必ず終わる。HTTP/3 の期限は取ってある
transport のものなので、それが upstream のものと同じであること（`Http3Transport.Of`）を、空の置き場所から
始めた走行の不変条件として使う。
-/

namespace DnsProxy

open Infra

variable {W K : Type}

/-! ## 待ちに期限の付かない操作 -/

/-- 期限の外で待つ操作は、必ず終わる。 -/
structure Net.UntimedSettle (net : Net W) : Prop where
  dialQuic : ∀ addr name config, (net.dialQuic addr name config).Settles
  h3New : ∀ conn, (net.h3New conn).Settles
  httpCollect : ∀ body, (net.httpCollect body).Settles

/-- 出るものを記録しても、終わる操作は終わる。 -/
theorem Net.UntimedSettle.wire {net : Net W} (h : net.UntimedSettle) :
    (wireNet net).UntimedSettle where
  dialQuic addr name config t := h.dialQuic addr name config t.2
  h3New conn t := h.h3New conn t.2
  httpCollect body t := h.httpCollect body t.2

section

variable {codec : Codec} {suite : CryptoSuite} {net : Net W}

theorem settles_lock : (lock net : Async W DohError Unit).Settles := Async.Settles.modify _

theorem settles_alloc : (alloc net).Settles := fun _ h => by cases h

theorem settles_instantNow : (instantNow net).Settles := fun _ h => by cases h

theorem settles_read {S : Type} (c : Cell W S) : (Async.read c : Async W DohError S).Settles :=
  Async.Settles.gets _

theorem settles_write {S : Type} (c : Cell W S) (v : S) :
    (Async.write c v : Async W DohError Unit).Settles := Async.Settles.modify _

theorem pack_ne_pending (codec : Codec) (m : Message) : pack codec m ≠ .pending := by
  unfold pack
  split <;> simp

theorem packFramed_ne_pending (codec : Codec) (framing : String) (m : Message) :
    packFramed codec framing m ≠ .pending := by
  unfold packFramed pack
  cases codec.toBytes m with
  | error e => simp
  | ok b =>
    simp only [Outcome.ok_bind]
    split <;> simp

theorem parseUri_ne_pending (net : Net W) (uri : String) : parseUri net uri ≠ .pending := by
  unfold parseUri
  split <;> simp

theorem firstAddr_ne_pending (host : String) (addrs : List SocketAddr) :
    firstAddr host addrs ≠ .pending := by
  unfold firstAddr
  split <;> simp

theorem encodeRequest_ne_pending (codec : Codec) (req : Message) :
    encodeRequest codec req ≠ .pending := by
  unfold encodeRequest pack
  cases codec.toBytes (req.setId 0) with
  | error e => simp
  | ok b => simp

theorem decodeResponse_ne_pending (codec : Codec) (req : Message) (body : Bytes) (id : UInt16) :
    decodeResponse codec (validateResponse codec req) body id ≠ .pending := by
  unfold decodeResponse unpack
  cases codec.fromBytes body with
  | error e => simp
  | ok m =>
    simp only [Outcome.ok_bind]
    split
    · simp
    · have hcheck := validateResponse_ne_pending codec req (m.setId id)
      cases hv : validateResponse codec req (m.setId id) with
      | pending => exact absurd hv hcheck
      | _ => intro h; cases h

/-! ## 名前引きと接続 -/

variable {host : String} {port : UInt16} {timeout : Option Duration} {resolver : Resolver W}
  {preferIpv6 : Bool}

theorem settles_resolveAddrs (ht : timeout.isSome) :
    (resolveAddrs net host port timeout resolver preferIpv6).Settles := by
  refine Async.Settles.bind ?_ fun ips => ?_
  · unfold resolveIps
    split
    · exact Async.Settles.pure _
    · exact Async.Settles.timeout ht _ _
  · split
    · exact Async.Settles.throw _
    · exact Async.Settles.pure _

theorem settles_resolveDialContext (ht : timeout.isSome) :
    (resolveDialContext net host port timeout resolver preferIpv6).Settles :=
  (settles_resolveAddrs ht).bind fun _ => Async.Settles.pure _

/-! ## DoQ -/

namespace DoqUpstream

variable {u : DoqUpstream W}

theorem settles_dial (hnet : net.UntimedSettle) (ht : u.timeout.isSome) : (u.dial net).Settles := by
  refine (settles_resolveAddrs ht).bind fun addrs => ?_
  refine (Async.Settles.lift (firstAddr_ne_pending _ _)).bind fun addr => ?_
  exact Async.Settles.call (hnet.dialQuic _ _ _)

theorem settles_exchange (hnet : net.UntimedSettle) (ht : u.timeout.isSome) (req : Message) :
    (u.exchangeWith codec net (validateResponse codec req) req).Settles := by
  have hon : ∀ conn, (u.exchangeOnWith codec net conn (validateResponse codec req) req).Settles :=
    fun conn => (Async.Settles.lift (packFramed_ne_pending _ _ _)).bind fun _ =>
      Async.Settles.timeout ht _ _
  have hget : (u.getConn net).Settles := by
    refine settles_lock.bind fun _ => (settles_read _).bind fun c => ?_
    cases c with
    | some c => exact Async.Settles.pure _
    | none => exact (settles_dial hnet ht).bind fun c => (settles_write _ _).bind fun _ =>
        Async.Settles.pure _
  refine hget.bind fun p => ?_
  obtain ⟨conn, cached⟩ := p
  refine (hon conn).handle fun e => ?_
  split
  · refine Async.Settles.bind ?_ hon
    exact settles_lock.bind fun _ => (settles_dial hnet ht).bind fun c =>
      (settles_write _ _).bind fun _ => Async.Settles.pure _
  · exact (settles_lock.bind fun _ => settles_write _ _).bind fun _ => Async.Settles.throw _

end DoqUpstream

/-! ## DoH -/

namespace DohUpstream

variable {u : DohUpstream W}

theorem settles_transport (hnet : net.UntimedSettle) {t : Http3Transport} (ht : t.timeout.isSome)
    (inner : Cell W (Option Nat)) (req : Message) :
    (t.exchangeWith codec net inner (validateResponse codec req) req).Settles ∧
      (t.reset net inner).Settles := by
  have hconnect : (t.connect net).Settles :=
    (Async.Settles.call (hnet.dialQuic _ _ _)).bind fun _ => Async.Settles.call (hnet.h3New _)
  constructor
  · refine Async.Settles.bind ?_ fun sender => ?_
    · refine settles_lock.bind fun _ => (settles_read _).bind fun s => ?_
      cases s with
      | some s => exact Async.Settles.pure _
      | none => exact hconnect.bind fun s => (settles_write _ _).bind fun _ => Async.Settles.pure _
    refine (Async.Settles.lift (encodeRequest_ne_pending _ _)).bind fun p => ?_
    refine (Async.Settles.lift (parseUri_ne_pending _ _)).bind fun _ => ?_
    refine Async.Settles.bind (Async.Settles.timeout ht _ _) fun body => ?_
    exact Async.Settles.lift (decodeResponse_ne_pending _ _ _ _)
  · exact settles_lock.bind fun _ => hconnect.bind fun s => (settles_write _ _).bind fun _ =>
      Async.Settles.pure _

theorem settles_shouldUseHttp3 (ht : u.timeout.isSome) : (u.shouldUseHttp3 net).Settles := by
  unfold shouldUseHttp3
  split
  · exact Async.Settles.pure _
  split
  · exact Async.Settles.pure _
  refine settles_lock.bind fun _ => (settles_read _).bind fun prefer => ?_
  cases prefer with
  | some prefer => exact Async.Settles.pure _
  | none =>
    refine (settles_resolveAddrs ht).bind fun addrs => ?_
    refine (Async.Settles.lift (firstAddr_ne_pending _ _)).bind fun addr => ?_
    refine Async.Settles.bind ?_ fun prefer => settles_lock.bind fun _ =>
      (settles_write _ _).bind fun _ => Async.Settles.pure _
    exact (Async.Settles.timeout ht _ _).attempt.bind fun _ => Async.Settles.pure _

theorem settles_getH3Transport (ht : u.timeout.isSome) : (u.getH3Transport net).Settles := by
  refine settles_lock.bind fun _ => (settles_read _).bind fun t => ?_
  cases t with
  | some t => exact Async.Settles.pure _
  | none =>
    refine (settles_resolveAddrs ht).bind fun addrs => ?_
    refine (Async.Settles.lift (firstAddr_ne_pending _ _)).bind fun addr => ?_
    refine settles_alloc.bind fun id => (settles_write _ _).bind fun _ => ?_
    exact (settles_write _ _).bind fun _ => Async.Settles.pure _

/-- 期限の付いた transport のやりとりは、再試行しても終わる。 -/
theorem settles_exchangeTransport (hnet : net.UntimedSettle) {t : Http3Transport}
    (ht : t.timeout.isSome) (cached : Bool) (req : Message) :
    (retryOnce cached
      (t.exchangeWith codec net (u.h3Inner t.id) (validateResponse codec req) req)
      (do
        let _ ← t.reset net (u.h3Inner t.id)
        t.exchangeWith codec net (u.h3Inner t.id) (validateResponse codec req) req)
      (do
        lock net
        Async.write u.h3 none)).Settles := by
  have hpair : (t.exchangeWith codec net (u.h3Inner t.id) (validateResponse codec req)
      req).Settles ∧ (t.reset net (u.h3Inner t.id)).Settles :=
    settles_transport hnet ht (u.h3Inner t.id) req
  obtain ⟨hex, hreset⟩ := hpair
  refine hex.handle fun e => ?_
  split
  · exact hreset.bind fun _ => hex
  · exact (settles_lock.bind fun _ => settles_write _ _).bind fun _ => Async.Settles.throw _

theorem settles_exchangeHttps (hnet : net.UntimedSettle) (ht : u.timeout.isSome)
    (client : HttpClient) (req : Message) :
    (u.exchangeHttpsWith codec net client (validateResponse codec req) req).Settles := by
  refine (Async.Settles.lift (encodeRequest_ne_pending _ _)).bind fun p => ?_
  refine (Async.Settles.lift (parseUri_ne_pending _ _)).bind fun _ => ?_
  refine Async.Settles.bind (Async.Settles.timeout ht _ _) fun r => ?_
  refine (Async.Settles.call (hnet.httpCollect _)).bind fun body => ?_
  split
  · exact Async.Settles.throw _
  split
  · exact Async.Settles.throw _
  · exact Async.Settles.lift (decodeResponse_ne_pending _ _ _ _)

/-- HTTP/1.1 と HTTP/2 のやりとり。 -/
theorem settles_https (hnet : net.UntimedSettle) (ht : u.timeout.isSome) (req : Message) :
    (do
      let (client, wasCached) ← u.getClient net
      retryOnce wasCached (u.exchangeHttpsWith codec net client (validateResponse codec req) req)
        (do
          let client ← u.resetClient net
          u.exchangeHttpsWith codec net client (validateResponse codec req) req)
        (u.resetClientIgnoreErr net) : Async W DohError Message).Settles := by
  have hcreate : (u.createClient net).Settles := by
    refine (settles_resolveDialContext ht).bind fun dial => ?_
    dsimp only
    split
    · exact Async.Settles.throw _
    · exact Async.Settles.pure _
  have helapsed : ∀ start, (u.checkElapsed net start).Settles := by
    intro start
    unfold checkElapsed
    split
    · exact Async.Settles.pure _
    · refine settles_instantNow.bind fun now => ?_
      split
      · exact settles_instantNow.bind fun _ => Async.Settles.throw _
      · exact Async.Settles.pure _
  refine Async.Settles.bind ?_ fun p => ?_
  · refine settles_lock.bind fun _ => (settles_read _).bind fun c => ?_
    cases c with
    | some c => exact Async.Settles.pure _
    | none =>
      refine settles_instantNow.bind fun start => hcreate.bind fun client => ?_
      exact (helapsed start).bind fun _ => (settles_write _ _).bind fun _ => Async.Settles.pure _
  obtain ⟨client, cached⟩ := p
  refine (settles_exchangeHttps hnet ht client req).handle fun e => ?_
  split
  · refine Async.Settles.bind ?_ fun client => settles_exchangeHttps hnet ht client req
    exact settles_lock.bind fun _ => hcreate.bind fun _ => (settles_write _ _).bind fun _ =>
      Async.Settles.pure _
  · exact (settles_lock.bind fun _ => settles_write _ _).bind fun _ => Async.Settles.throw _

end DohUpstream

end

/-! ## upstream と handler -/

section

variable {B : Boundary W K} {net : Net W} {p : Proxy (Wire W)} {F : Set (Fact K)} {req : Message}
  (h : B.Encloses net p) (hnet : net.UntimedSettle)

include h hnet

/-- 取ってある transport の期限は upstream のものなので、HTTP/3 でも終わる。 -/
theorem settles_doh {k : K} {u : DohUpstream (Wire W)} (hu : B.upstream k = .doh u)
    (ht : u.timeout.isSome) : B.ledger.Settles F
      (u.exchangeWith p.codec (wireNet net) (validateResponse p.codec req) req) := by
  have hans : B.parseIp u.host = none → B.Answers k u.resolver u.host :=
    h.answers k u.resolver u.host (by rw [hu]; rfl) (by rw [hu]; rfl)
  refine Ledger.Settles.bind (.of_always (DohUpstream.settles_shouldUseHttp3 ht))
    (runs_shouldUseHttp3 h.vouches h.keeps h.parseIp_eq h.apart hu hans) fun useHttp3 G _ _ => ?_
  split
  · refine Ledger.Settles.bind (.of_always (DohUpstream.settles_getH3Transport ht))
      (runs_getH3Transport h.vouches h.keeps h.parseIp_eq h.apart hu hans) fun t H _ htransport => ?_
    have htimeout : t.1.timeout = u.timeout := htransport.timeout
    rw [← htimeout] at ht
    exact .of_always (DohUpstream.settles_exchangeTransport hnet.wire ht t.2 req)
  · exact .of_always (DohUpstream.settles_https hnet.wire ht req)

/-- **期限を付けた upstream の `exchange` は、どの transport でも必ず終わる。** -/
theorem Upstream.settles_exchange (k : K) (ht : (B.upstream k).timeout.isSome) :
    B.ledger.Settles F ((B.upstream k).exchange p.codec p.suite (wireNet net) req) := by
  cases hu : B.upstream k with
  | doh u =>
    rw [hu] at ht
    exact settles_doh h hnet hu ht
  | doq u =>
    rw [hu] at ht
    exact .of_always (DoqUpstream.settles_exchange hnet.wire ht req)
  | dnsCrypt u =>
    rw [hu] at ht
    exact .of_always (Async.Settles.timeout ht _ _)
  | dot u =>
    rw [hu] at ht
    exact .of_always ((Async.Settles.lift (packFramed_ne_pending _ _ _)).bind fun _ =>
      Async.Settles.timeout ht _ _)
  | plainTcp u =>
    rw [hu] at ht
    exact .of_always ((Async.Settles.lift (packFramed_ne_pending _ _ _)).bind fun _ =>
      Async.Settles.timeout ht _ _)
  | plainUdp u =>
    rw [hu] at ht
    exact .of_always ((Async.Settles.lift (pack_ne_pending _ _)).bind fun _ =>
      Async.Settles.timeout ht _ _)

theorem settles_trackedExchange {u : TrackedUpstream (Upstream (Wire W))}
    (hu : ∃ k, B.upstream k = u.upstream) (ht : u.upstream.timeout.isSome) :
    B.ledger.Settles F (p.trackedExchange u req) := by
  obtain ⟨k, hk⟩ := hu
  unfold Proxy.trackedExchange
  rw [← hk] at ht ⊢
  rw [h.net_eq]
  refine Ledger.Settles.bind (.of_always settles_instantNow)
    (runs_instantNow h.vouches h.keeps) fun start G _ _ => ?_
  refine Ledger.Settles.bind (Upstream.settles_exchange h hnet k ht).attempt
    (Upstream.runs_exchange h.vouches h.keeps h.parseIp_eq h.apart k (h.answers k)).attempt
    fun result H _ _ => .of_always (Async.Settles.bind ?_ fun _ => Async.Settles.pure _)
  cases result with
  | error e => exact Async.Settles.pure _
  | ok m => exact settles_instantNow.bind fun _ => Async.Settles.modify _

/-- 失敗した上流の次を試しても、どこかで終わる。 -/
theorem settles_tryUpstreams : ∀ (us : List (TrackedUpstream (Upstream (Wire W)))),
    (∀ u ∈ us, (∃ k, B.upstream k = u.upstream) ∧ u.upstream.timeout.isSome) →
    ∀ (F : Set (Fact K)) lastErr, B.ledger.Settles F
      (UpstreamConfig.tryUpstreams (fun u => p.trackedExchange u req) us lastErr)
  | [], _, F, lastErr => .of_always (Async.Settles.pure _)
  | u :: us, hus, F, lastErr => by
    obtain ⟨hu, ht⟩ := hus u (by simp)
    refine Ledger.Settles.bind (settles_trackedExchange h hnet hu ht) (runs_trackedExchange h hu)
      fun result G _ _ => ?_
    cases result with
    | ok m => exact .of_always (Async.Settles.pure _)
    | error e => exact settles_tryUpstreams us (fun u hu => hus u (by simp [hu])) G (some e)

variable (htimed : ∀ t name u, u ∈ ((p.config.get t).upstreamsFor (p.orderEnv t) name).1 →
  u.upstream.timeout.isSome)

include htimed

theorem settles_handler (req : Message) : B.ledger.Settles F (p.handler req) := by
  intro t ht
  rw [p.handler_eq]
  have hus : ∀ u ∈ ((p.config.get t).upstreamsFor (p.orderEnv t)
      (UpstreamConfig.queryName p.escape req)).1,
      (∃ k, B.upstream k = u.upstream) ∧ u.upstream.timeout.isSome :=
    fun u hu => ⟨h.covers t _ u hu, htimed t _ u hu⟩
  have hrun : B.ledger.Settles F (UpstreamConfig.tryUpstreams (fun u => p.trackedExchange u req)
      ((p.config.get t).upstreamsFor (p.orderEnv t) (UpstreamConfig.queryName p.escape req)).1 none
      >>= fun result =>
        p.lastResult (UpstreamConfig.queryName p.escape req) result >>= Proxy.ofResult) := by
    refine Ledger.Settles.bind (settles_tryUpstreams h hnet _ hus F none)
      (runs_tryUpstreams h _ (fun u hu => (hus u hu).1) F none) fun result G _ _ =>
      .of_always (Async.Settles.bind ?_ fun result => ?_)
    · cases result <;> exact Async.Settles.pure _
    · cases result with
      | ok m => exact Async.Settles.pure _
      | error e => exact Async.Settles.throw _
  exact hrun _ (ht.evolves (h.config _ t).evolves)

theorem settles_queryHandler (cached : Bool) (req : Message) :
    B.ledger.Settles F (p.queryHandler cached req) := by
  have hhandler : ∀ F, B.ledger.Settles F (p.handler req) :=
    fun F => settles_handler h hnet htimed req
  cases cached with
  | false => exact hhandler F
  | true =>
    show B.ledger.Settles F (p.cachedHandler p.handler req)
    unfold Proxy.cachedHandler
    split
    · exact hhandler F
    have hget : ∀ key id, (p.cacheGet key id).Settles := fun key id =>
      settles_lock.bind fun _ => settles_instantNow.bind fun _ => fun _ h => by cases h
    have hinsert : ∀ key resp, (p.cacheInsert key resp).Settles := by
      intro key resp
      refine settles_instantNow.bind fun now => (Async.Settles.gets _).bind fun entry => ?_
      cases entry with
      | none => exact Async.Settles.pure _
      | some entry => exact settles_lock.bind fun _ => Async.Settles.modify _
    refine Ledger.Settles.bind (.of_always (hget _ _)) (runs_cacheGet h _ _) fun hit G _ _ => ?_
    cases hit with
    | some resp => exact .of_always (Async.Settles.pure _)
    | none =>
      exact Ledger.Settles.bind (hhandler G) (runs_handler h req) fun resp _ _ _ =>
        .of_always ((hinsert _ _).bind fun _ => Async.Settles.pure _)

end

/-! ## 設定の期限 -/

/-- `parse_any_upstream` は `Options` の期限を upstream に付ける。 -/
theorem parseAnyUpstream_timeout {env : UrlEnv W} {opts : Options W} {addr : Text} {u : Upstream W}
    (h : parseAnyUpstream env opts addr = .ok u) : u.timeout = opts.timeout := by
  cases parseAnyUpstream_made h <;> rfl

/--
**期限を付けて作った upstream だけを使う proxy は、どれだけ多くの query に答えた後でも、次の query に
必ず答え終える。**

値を返すか失敗するかであって、server が何を返しても、どこで黙っても、待ち続けることは無い。上流を
どの順に試しても、client や transport を使い回しても、cache を挟んでも、待つ間にほかの task が動いても
よい。始めの置き場所は、空か、取ってあるものの相手と期限が合っていればよい（`Boundary.Kept`）。期限の
外で待つ三つの操作だけは、終わるものとする。
-/
theorem handler_settles (p : Proxy (Wire W)) (net : Net W) (B : Boundary W K)
    (h : B.Encloses net p) (hnet : net.UntimedSettle)
    (hmade : ∀ t name u, u ∈ ((p.config.get t).upstreamsFor (p.orderEnv t) name).1 →
      ∃ env opts addr, opts.timeout.isSome ∧ parseAnyUpstream env opts addr = .ok u.upstream)
    (cached : Bool) (reqs : List Message) (req : Message) (w : W) (hw : B.Kept w) :
    (p.queryHandler cached req (p.answerAll cached reqs ([], w))).1 ≠ .pending := by
  have htimed : ∀ t name u, u ∈ ((p.config.get t).upstreamsFor (p.orderEnv t) name).1 →
      u.upstream.timeout.isSome := by
    intro t name u hu
    obtain ⟨env, opts, addr, hopts, hparse⟩ := hmade t name u hu
    rw [parseAnyUpstream_timeout hparse]
    exact hopts
  exact settles_queryHandler h hnet htimed cached req _ (safe_answerAll h cached reqs _ hw.safe)

/-! ## 黙ったままの server -/

/-- `aliceDoh` の作る client。 -/
def aliceClient : HttpClient where
  dial := { timeout := none, addrs := [aliceAddr] }
  tlsConfig := { insecureSkipVerify := false, alpns := ["http/1.1", "h2"] }
  serverName := "dns.example"

/-- 二つ目の query で取ってある接続を使い回し、server が黙っていても、期限が切れて終わる。 -/
theorem silent_handler_settles :
    ((aliceProxy .pending).queryHandler true queryA
        ((aliceProxy .pending).answerAll true [queryA] ([], ({}, [])))).1 ≠ .pending ∧
      ((aliceNet .pending).httpRequest aliceClient { uri := "/dns-query", authorization := none }
        [.ok 1] ({}, [])).1 = .pending := by
  have hnet : (aliceNet .pending).UntimedSettle :=
    ⟨fun _ _ _ _ h => (by cases h), fun _ _ h => (by cases h), fun _ _ h => (by cases h)⟩
  have hmade : ∀ t name u, u ∈ (((aliceProxy .pending).config.get t).upstreamsFor
      ((aliceProxy .pending).orderEnv t) name).1 →
      ∃ env opts addr, opts.timeout.isSome ∧ parseAnyUpstream env opts addr = .ok u.upstream := by
    intro t name u hu
    have hu : u ∈ [({ id := 0, upstream := .doh aliceDoh } :
      TrackedUpstream (Upstream (Wire AliceWorld)))] := hu
    rw [List.mem_singleton.mp hu]
    exact ⟨slotsEnv, {}, text "https://alice:1@dns.example/dns-query", rfl, rfl⟩
  exact ⟨handler_settles (aliceProxy .pending) (aliceNet .pending) aliceBoundary
    (aliceBoundary_encloses .pending) hnet hmade true [queryA] queryA ({}, []) aliceBoundary_kept,
    rfl⟩

end DnsProxy
