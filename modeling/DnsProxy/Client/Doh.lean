import DnsProxy.Client.Plain

/-!
# DoH（`client/doh.rs`・`client/doh3.rs`）

要求は ID を 0 にして URL に載せ、応答の ID が 0 であることを確かめてから元の ID に戻す。

HTTP/1.1・HTTP/2 の client と HTTP/3 の transport は、作ったものを `Mutex` の中に取っておく。
取ってあったもので失敗し、その失敗が再試行に値するなら、作り直してもう一度だけ送る。
そうでなければ取ってあったものを捨てて失敗を返す。
-/

namespace DnsProxy

open Infra

variable {W : Type} (codec : Codec) (net : Net W)

/-! ## 一度だけの再試行 -/

/-- `match first { Err(e) if was_cached && e.should_retry() => retry, Err(e) => { reset; Err(e) } }`。 -/
def retryOnce (wasCached : Bool) (first retry : Async W DohError Message)
    (reset : Async W DohError Unit) : Async W DohError Message :=
  first.handle fun e =>
    if wasCached && e.shouldRetry then retry
    else do
      reset
      Async.throw e

/-! ## upstream -/

inductive HttpVersion where
  | http11
  | http2
  | http3
  deriving DecidableEq, Repr

/-- `HttpVersion::alpn`。 -/
def HttpVersion.alpn : HttpVersion → String
  | .http11 => "http/1.1"
  | .http2 => "h2"
  | .http3 => "h3"

/-- `Arc<Http3Transport>`。`id` は割り当ての番号で、`inner` の置き場所を決める。 -/
structure Http3Transport where
  id : Nat
  serverAddr : SocketAddr
  serverName : String
  tlsConfig : TlsConfig
  timeout : Option Duration
  path : String
  basicAuthHeader : Option String

structure DohUpstream (W : Type) where
  host : String
  port : UInt16
  path : String
  addrRedacted : String
  httpVersions : List HttpVersion
  resolver : Resolver W
  preferIpv6 : Bool
  timeout : Option Duration
  insecureSkipVerify : Bool
  basicAuthHeader : Option String
  client : Cell W (Option HttpClient)
  h3 : Cell W (Option Http3Transport)
  preferH3 : Cell W (Option Bool)
  /-- `Http3Transport` の `inner`。 -/
  h3Inner : Nat → Cell W (Option Nat)

/-! ### 設定からの組み立て（`options.rs`・`DohUpstream::new`） -/

/-- `Options`。 -/
structure Options (W : Type) where
  bootstrap : Option (Resolver W) := none
  /-- 空なら既定のもの。 -/
  httpVersions : List HttpVersion := []
  timeout : Option Duration := some (Duration.fromSecs 10)
  insecureSkipVerify : Bool := false
  preferIpv6 : Bool := false
  basicAuth : Option (String × String) := none

/-- `Options::resolved_http_versions`。 -/
def Options.resolvedHttpVersions (opts : Options W) : List HttpVersion :=
  if opts.httpVersions.isEmpty then [.http11, .http2] else opts.httpVersions

/-- `Basic` に続けて、`user:pass` の base64。 -/
def basicAuthHeader (user pass : String) : String :=
  let credentials := s!"{user}:{pass}"
  s!"Basic {String.ofList (Base64.encodeStandard (Utf8.encode credentials))}"

/-- `DohUpstream` の `Mutex` の置き場所。 -/
structure DohSlots (W : Type) where
  client : Cell W (Option HttpClient)
  h3 : Cell W (Option Http3Transport)
  preferH3 : Cell W (Option Bool)
  h3Inner : Nat → Cell W (Option Nat)

/-- `DohUpstream::new`。`systemResolver` は `SystemResolver` である。 -/
def DohUpstream.new (slots : DohSlots W) (systemResolver : Resolver W) (host : String)
    (port : Option UInt16) (path : String) (opts : Options W) : DohUpstream W :=
  let port := port.getD 443
  { host
    port
    path
    addrRedacted := s!"https://{host}:{port}{path}"
    httpVersions := opts.resolvedHttpVersions
    resolver := opts.bootstrap.getD systemResolver
    preferIpv6 := opts.preferIpv6
    timeout := opts.timeout
    insecureSkipVerify := opts.insecureSkipVerify
    basicAuthHeader := opts.basicAuth.map fun (user, pass) => DnsProxy.basicAuthHeader user pass
    client := slots.client
    h3 := slots.h3
    preferH3 := slots.preferH3
    h3Inner := slots.h3Inner }

/-- `str::parse::<Uri>` と、その失敗。 -/
def parseUri (uri : String) : Outcome DohError Unit :=
  match net.parseUri uri with
  | .ok _ => .ok ()
  | .error e => .err (.http s!"building request uri: {e}")

/-- `StatusCode::is_success`。 -/
def isSuccess (status : Nat) : Bool := 200 ≤ status && status < 300

/-! ## HTTP/3 -/

namespace Http3Transport

/-- `Http3Transport::connect`。 -/
def connect (t : Http3Transport) : Async W DohError Nat := do
  let quicConn ← quicOp (net.dialQuic t.serverAddr t.serverName t.tlsConfig)
  quicOp (net.h3New quicConn)

/-- `Http3Transport::reset`。 -/
def reset (inner : Cell W (Option Nat)) (t : Http3Transport) : Async W DohError Nat := do
  lock net
  let s ← t.connect net
  Async.write inner (some s)
  pure s

/-- `Http3Transport::get_sender`。 -/
def getSender (inner : Cell W (Option Nat)) (t : Http3Transport) : Async W DohError Nat := do
  lock net
  match ← Async.read inner with
  | some s => pure s
  | none => do
    let s ← t.connect net
    Async.write inner (some s)
    pure s

/-- `while let Some(chunk) = stream.recv_data()..`。 -/
def collectBody : List Bytes → Reply String Unit → Bytes → Outcome DohError Bytes
  | [], .ok _, body => .ok body
  | [], .err e, _ => .err (.quic e)
  | [], .pending, _ => .pending
  | chunk :: rest, ending, body =>
    let body := body ++ chunk
    if body.length > 65535 then .err (.http "response body too large")
    else collectBody rest ending body

/-- `stream.recv_data()` を終わりまで読む。 -/
def recvBody (stream : Nat) : Async W DohError Bytes := fun w =>
  let (body, w') := net.h3RecvData stream w
  (collectBody body.chunks body.ending [], w')

/-- `Http3Transport::exchange` の `fut`。 -/
def fetch (t : Http3Transport) (sender : Nat) (httpReq : HttpRequest) : Async W DohError Bytes := do
  let stream ← quicOp (net.h3SendRequest sender httpReq)
  quicOp (net.h3Finish stream)
  let status ← quicOp (net.h3RecvResponse stream)
  if !isSuccess status then Async.throw (.unexpectedStatus status t.serverName)
  else recvBody net stream

/-- `Http3Transport::exchange`。 -/
def exchangeWith (inner : Cell W (Option Nat)) (t : Http3Transport)
    (check : Message → Outcome DohError Unit) (req : Message) : Async W DohError Message := do
  let sender ← t.getSender net inner
  let (encoded, originalId) ← Async.lift (encodeRequest codec req)
  let uri := s!"https://{t.serverName}{t.path}?dns={String.ofList encoded}"
  Async.lift (parseUri net uri)
  let body ← withTimeout t.timeout
    (t.fetch net sender { uri, authorization := t.basicAuthHeader })
  Async.lift (decodeResponse codec check body originalId)

end Http3Transport

/-! ### HTTP/3 と TLS の競走 -/

/-- `probe_tls`。 -/
def probeTls (addr : SocketAddr) (serverName : String) : Async W DohError Unit := do
  let tcp ← io (net.tcpConnect addr)
  Async.lift (checkServerName net serverName)
  let _ ← Async.call DohError.http
    (net.tlsConnect { insecureSkipVerify := false, alpns := [] } serverName tcp)
  pure ()

/-- 失敗しなかったかどうか。 -/
def succeeded {α : Type} (x : Async W DohError α) : Async W DohError Bool := do
  let r ← x.attempt
  pure r.isOk

/-- `probe_h3` の `race`。先に終わった方だけを見る。 -/
def raceH3 (addr : SocketAddr) (serverName : String) (tlsConfig : TlsConfig) :
    Async W DohError Bool := do
  let quicFirst ← Async.call Empty.elim net.quicFirst
  if quicFirst then succeeded (quicOp (net.dialQuic addr serverName tlsConfig))
  else do
    let tlsOk ← succeeded (probeTls net addr serverName)
    pure !tlsOk

/-- `probe_h3`。 -/
def probeH3 (addr : SocketAddr) (serverName : String) (tlsConfig : TlsConfig)
    (timeout : Option Duration) (httpSupported : Bool) : Async W DohError Bool :=
  if !httpSupported then pure true
  else do
    let r ← (withTimeout timeout (raceH3 net addr serverName tlsConfig)).attempt
    pure (match r with
      | .ok preferH3 => preferH3
      | .error _ => false)

/-! ## HTTP/1.1 と HTTP/2 -/

namespace HttpClient

/-- `HttpsConnector::call`。繋ぐときの期限は、`Client::request` に付く期限 `outer` の内側にある。 -/
def connect (outer : Option Duration) (c : HttpClient) : Async W DohError Nat := do
  let dial := { c.dial with timeout := innerTimeout outer c.dial.timeout }
  let conn ← dial.dial net .tcp
  match conn with
  | .udp _ _ => Async.throw (.http "expected tcp connection")
  | .tcp tcp => do
    Async.lift (checkServerName net c.serverName)
    httpOp "tls handshake failed" (net.tlsConnect c.tlsConfig c.serverName tcp)

/-- connector を `n` 回呼ぶ。 -/
def connectTimes (outer : Option Duration) (c : HttpClient) :
    Nat → List (Except DohError Nat) → Async W DohError (List (Except DohError Nat))
  | 0, conns => pure conns
  | n + 1, conns => do
    let conn ← (c.connect net outer).attempt
    connectTimes outer c n (conns ++ [conn])

/-- `Client::request`。library が新しく繋ぐときは、必ず connector を呼ぶ。 -/
def request (outer : Option Duration) (c : HttpClient) (req : HttpRequest) :
    Async W DohError (Nat × Nat) := do
  let n ← httpConnects net c req
  let conns ← c.connectTimes net outer n []
  Async.call DohError.http (net.httpRequest c req conns)

end HttpClient

/-! ## `DohUpstream` -/

/-- `addrs.first().ok_or_else(..)`。 -/
def firstAddr (host : String) (addrs : List SocketAddr) : Outcome DohError SocketAddr :=
  match addrs.head? with
  | some addr => .ok addr
  | none => .err (.bootstrap s!"no addresses for {host}")

namespace DohUpstream

/-- `DohUpstream::http2_supported`。 -/
def http2Supported (u : DohUpstream W) : Bool := u.httpVersions.any (· != .http3)

/-- `DohUpstream::should_use_http3`。 -/
def shouldUseHttp3 (u : DohUpstream W) : Async W DohError Bool :=
  if !u.httpVersions.contains .http3 then pure false
  else if !u.http2Supported then pure true
  else do
    lock net
    match ← Async.read u.preferH3 with
    | some prefer => pure prefer
    | none => do
      let addrs ← resolveAddrs net u.host u.port u.timeout u.resolver u.preferIpv6
      let addr ← Async.lift (firstAddr u.host addrs)
      let tlsConfig := buildTlsConfig u.host u.insecureSkipVerify ["h2"]
      let prefer ← probeH3 net addr u.host tlsConfig u.timeout true
      lock net
      Async.write u.preferH3 (some prefer)
      pure prefer

/-- `DohUpstream::get_h3_transport`。 -/
def getH3Transport (u : DohUpstream W) : Async W DohError (Http3Transport × Bool) := do
  lock net
  match ← Async.read u.h3 with
  | some t => pure (t, true)
  | none => do
    let addrs ← resolveAddrs net u.host u.port u.timeout u.resolver u.preferIpv6
    let addr ← Async.lift (firstAddr u.host addrs)
    let tlsConfig := buildTlsConfig u.host u.insecureSkipVerify ["h3"]
    let id ← alloc net
    let transport : Http3Transport :=
      { id, serverAddr := addr, serverName := u.host, tlsConfig, timeout := u.timeout,
        path := u.path, basicAuthHeader := u.basicAuthHeader }
    Async.write (u.h3Inner id) none
    Async.write u.h3 (some transport)
    pure (transport, false)

/-- `DohUpstream::exchange_h3`。 -/
def exchangeH3With (u : DohUpstream W) (check : Message → Outcome DohError Unit) (req : Message) :
    Async W DohError Message := do
  let (transport, wasCached) ← u.getH3Transport net
  let inner := u.h3Inner transport.id
  retryOnce wasCached (transport.exchangeWith codec net inner check req)
    (do
      let _ ← transport.reset net inner
      transport.exchangeWith codec net inner check req)
    (do
      lock net
      Async.write u.h3 none)

/-- `DohUpstream::create_client`。 -/
def createClient (u : DohUpstream W) : Async W DohError HttpClient := do
  let dial ← resolveDialContext net u.host u.port u.timeout u.resolver u.preferIpv6
  let alpns := (u.httpVersions.filter (· != .http3)).map HttpVersion.alpn
  if alpns.isEmpty then Async.throw .noSupportedVersions
  else
    pure { dial, tlsConfig := buildTlsConfig u.host u.insecureSkipVerify alpns, serverName := u.host }

/-- `if let Some(t) = self.timeout && start.elapsed() > t`。 -/
def checkElapsed (u : DohUpstream W) (start : Nat) : Async W DohError Unit :=
  match u.timeout with
  | none => pure ()
  | some t => do
    let now ← instantNow net
    if now - start > t then do
      let now ← instantNow net
      Async.throw (.timeout (now - start))
    else pure ()

/-- `DohUpstream::get_client`。 -/
def getClient (u : DohUpstream W) : Async W DohError (HttpClient × Bool) := do
  lock net
  match ← Async.read u.client with
  | some c => pure (c, true)
  | none => do
    let start ← instantNow net
    let client ← u.createClient net
    u.checkElapsed net start
    Async.write u.client (some client)
    pure (client, false)

/-- `DohUpstream::reset_client`。 -/
def resetClient (u : DohUpstream W) : Async W DohError HttpClient := do
  lock net
  let client ← u.createClient net
  Async.write u.client (some client)
  pure client

/-- `DohUpstream::reset_client_ignore_err`。 -/
def resetClientIgnoreErr (u : DohUpstream W) : Async W DohError Unit := do
  lock net
  Async.write u.client none

/-- `DohUpstream::exchange_https`。期限は応答の header までで、本文を読む間は付かない。 -/
def exchangeHttpsWith (u : DohUpstream W) (client : HttpClient)
    (check : Message → Outcome DohError Unit) (req : Message) : Async W DohError Message := do
  let (encoded, originalId) ← Async.lift (encodeRequest codec req)
  let uri := s!"https://{u.host}:{u.port}{u.path}?dns={String.ofList encoded}"
  Async.lift (parseUri net uri)
  let (status, body) ← withTimeout u.timeout
    (client.request net u.timeout { uri, authorization := u.basicAuthHeader })
  let body ← httpOp "reading body" (net.httpCollect body)
  if !isSuccess status then Async.throw (.unexpectedStatus status u.addrRedacted)
  else if body.length > 65535 then
    Async.throw (.http s!"response body too large: {body.length} bytes")
  else Async.lift (decodeResponse codec check body originalId)

/-- `DohUpstream::exchange`。 -/
def exchangeWith (u : DohUpstream W) (check : Message → Outcome DohError Unit) (req : Message) :
    Async W DohError Message := do
  if ← u.shouldUseHttp3 net then u.exchangeH3With codec net check req
  else do
    let (client, wasCached) ← u.getClient net
    retryOnce wasCached (u.exchangeHttpsWith codec net client check req)
      (do
        let client ← u.resetClient net
        u.exchangeHttpsWith codec net client check req)
      (u.resetClientIgnoreErr net)

end DohUpstream

/-! ## 検査の前と後 -/

section

variable {codec net} {check : Message → Outcome DohError Unit}

/-- 検査の失敗は再試行されず、片付けの後にそのまま返る。 -/
theorem checked_retryOnce {wasCached : Bool} {first first' retry retry' : Async W DohError Message}
    {reset : Async W DohError Unit} (hc : IsCheck check)
    (hreset : ∀ w, ∃ w', reset w = (.ok (), w'))
    (hfirst : Async.Checked check first first') (hretry : Async.Checked check retry retry') :
    Async.Checked check (retryOnce wasCached first retry reset)
      (retryOnce wasCached first' retry' reset) := by
  refine Async.Checked.handle hfirst ?_ ?_
  · intro e
    split
    · exact hretry
    · exact Async.Checked.bind fun _ => Async.Checked.throw e
  · intro a e he w
    obtain ⟨msg, rfl⟩ := hc.err a e he
    obtain ⟨w', hw⟩ := hreset w
    rw [if_neg (by simp [DohError.shouldRetry]), Async.bind_ok hw]
    rfl

/-- lock を取って空にするだけの片付けは、必ず終わる。 -/
theorem reset_ok {S : Type} (c : Cell W (Option S)) (w : W) :
    ∃ w', (do lock net; Async.write c none : Async W DohError Unit) w = (.ok (), w') := ⟨_, rfl⟩

theorem Http3Transport.checked (inner : Cell W (Option Nat)) (t : Http3Transport) (req : Message) :
    Async.Checked check (t.exchangeWith codec net inner check req)
      (t.exchangeWith codec net inner skipCheck req) := by
  refine Async.Checked.bind fun sender => Async.Checked.bind fun p => ?_
  obtain ⟨encoded, originalId⟩ := p
  refine Async.Checked.bind fun _ => Async.Checked.bind fun body => ?_
  exact checked_decodeResponse body originalId

theorem DohUpstream.checked_h3 (u : DohUpstream W) (req : Message) (hc : IsCheck check) :
    Async.Checked check (u.exchangeH3With codec net check req)
      (u.exchangeH3With codec net skipCheck req) := by
  refine Async.Checked.bind fun p => ?_
  obtain ⟨transport, wasCached⟩ := p
  refine checked_retryOnce hc (reset_ok u.h3) (transport.checked _ req) ?_
  exact Async.Checked.bind fun _ => transport.checked _ req

theorem DohUpstream.checked_https (u : DohUpstream W) (client : HttpClient) (req : Message) :
    Async.Checked check (u.exchangeHttpsWith codec net client check req)
      (u.exchangeHttpsWith codec net client skipCheck req) := by
  refine Async.Checked.bind fun p => ?_
  obtain ⟨encoded, originalId⟩ := p
  refine Async.Checked.bind fun _ => Async.Checked.bind fun r => ?_
  obtain ⟨status, bodyId⟩ := r
  refine Async.Checked.bind fun body => ?_
  split
  · exact Async.Checked.throw _
  · split
    · exact Async.Checked.throw _
    · exact checked_decodeResponse body originalId

theorem DohUpstream.checked (u : DohUpstream W) (req : Message) (hc : IsCheck check) :
    Async.Checked check (u.exchangeWith codec net check req)
      (u.exchangeWith codec net skipCheck req) := by
  refine Async.Checked.bind fun useH3 => ?_
  split
  · exact u.checked_h3 req hc
  · refine Async.Checked.bind fun p => ?_
    obtain ⟨client, wasCached⟩ := p
    refine checked_retryOnce hc (reset_ok u.client) (u.checked_https client req) ?_
    exact Async.Checked.bind fun client => u.checked_https client req

end

/-! ## 返る応答の ID -/

section

variable {codec net} {check : Message → Outcome DohError Unit}

theorem ensures_encodeRequest (req : Message) :
    Async.Ensures (fun p => p.2 = req.metadata.id)
      (Async.lift (encodeRequest codec req) : Async W DohError (Text × UInt16)) := by
  refine Async.Ensures.lift fun p hp => ?_
  unfold encodeRequest at hp
  cases hb : pack codec (req.setId 0) with
  | ok b =>
    rw [hb] at hp
    cases hp
    rfl
  | err e => rw [hb] at hp; cases hp
  | pending => rw [hb] at hp; cases hp
  | panic => rw [hb] at hp; cases hp

theorem ensures_retryOnce {P : Message → Prop} {wasCached : Bool}
    {first retry : Async W DohError Message} {reset : Async W DohError Unit}
    (hfirst : Async.Ensures P first) (hretry : Async.Ensures P retry) :
    Async.Ensures P (retryOnce wasCached first retry reset) := by
  refine Async.Ensures.handle hfirst fun e => ?_
  split
  · exact hretry
  · exact Async.Ensures.bind fun _ => Async.Ensures.throw e

theorem ensures_decodeResponse (body : Bytes) (originalId : UInt16) :
    Async.Ensures (fun m => m.metadata.id = originalId)
      (Async.lift (decodeResponse codec check body originalId) : Async W DohError Message) :=
  Async.Ensures.lift fun _ h => decodeResponse_id h

theorem Http3Transport.ensures_id (inner : Cell W (Option Nat)) (t : Http3Transport)
    (req : Message) :
    Async.Ensures (fun m => m.metadata.id = req.metadata.id)
      (t.exchangeWith codec net inner check req) := by
  refine Async.Ensures.bind fun sender => Async.Ensures.seq (ensures_encodeRequest req) ?_
  rintro ⟨encoded, originalId⟩ hid
  refine Async.Ensures.bind fun _ => Async.Ensures.bind fun body => ?_
  rw [← hid]
  exact ensures_decodeResponse body originalId

theorem DohUpstream.ensures_id_https (u : DohUpstream W) (client : HttpClient) (req : Message) :
    Async.Ensures (fun m => m.metadata.id = req.metadata.id)
      (u.exchangeHttpsWith codec net client check req) := by
  refine Async.Ensures.seq (ensures_encodeRequest req) ?_
  rintro ⟨encoded, originalId⟩ hid
  refine Async.Ensures.bind fun _ => Async.Ensures.bind fun r => ?_
  obtain ⟨status, bodyId⟩ := r
  refine Async.Ensures.bind fun body => ?_
  split
  · exact Async.Ensures.throw _
  · split
    · exact Async.Ensures.throw _
    · rw [← hid]
      exact ensures_decodeResponse body originalId

/-- DoH が返す応答は、どの経路でも要求の ID を持つ。 -/
theorem DohUpstream.ensures_id (u : DohUpstream W) (req : Message) :
    Async.Ensures (fun m => m.metadata.id = req.metadata.id)
      (u.exchangeWith codec net check req) := by
  refine Async.Ensures.bind fun useH3 => ?_
  split
  · refine Async.Ensures.bind fun p => ?_
    obtain ⟨transport, wasCached⟩ := p
    refine ensures_retryOnce (transport.ensures_id _ req) ?_
    exact Async.Ensures.bind fun _ => transport.ensures_id _ req
  · refine Async.Ensures.bind fun p => ?_
    obtain ⟨client, wasCached⟩ := p
    refine ensures_retryOnce (u.ensures_id_https client req) ?_
    exact Async.Ensures.bind fun client => u.ensures_id_https client req

end

/-! ## panic しないこと -/

section

variable {codec net}

theorem noPanic_retryOnce {wasCached : Bool} {first retry : Async W DohError Message}
    {reset : Async W DohError Unit} (hfirst : first.NoPanic) (hretry : retry.NoPanic)
    (hreset : reset.NoPanic) : (retryOnce wasCached first retry reset).NoPanic := by
  refine hfirst.handle fun e => ?_
  split
  · exact hretry
  · exact hreset.bind fun _ => Async.NoPanic.throw e

theorem noPanic_read {S : Type} (c : Cell W S) : (Async.read c : Async W DohError S).NoPanic :=
  Async.NoPanic.gets _

theorem noPanic_write {S : Type} (c : Cell W S) (v : S) :
    (Async.write c v : Async W DohError Unit).NoPanic := Async.NoPanic.modify _

theorem noPanic_reset {S : Type} (c : Cell W (Option S)) :
    (do lock net; Async.write c none : Async W DohError Unit).NoPanic :=
  (noPanic_lock net).bind fun _ => noPanic_write c none

theorem firstAddr_ne_panic (host : String) (addrs : List SocketAddr) :
    firstAddr host addrs ≠ .panic := by
  unfold firstAddr
  split <;> simp

theorem parseUri_ne_panic (net : Net W) (uri : String) : parseUri net uri ≠ .panic := by
  unfold parseUri
  split <;> simp

theorem noPanic_succeeded {α : Type} {x : Async W DohError α} (h : x.NoPanic) :
    (succeeded x).NoPanic := h.attempt.bind fun _ => Async.NoPanic.pure _

namespace Http3Transport

theorem noPanic_connect (t : Http3Transport) : (t.connect net).NoPanic :=
  (noPanic_quicOp _).bind fun _ => noPanic_quicOp _

theorem noPanic_reset (inner : Cell W (Option Nat)) (t : Http3Transport) :
    (t.reset net inner).NoPanic := by
  refine (noPanic_lock net).bind fun _ => t.noPanic_connect.bind fun s => ?_
  exact (noPanic_write inner _).bind fun _ => Async.NoPanic.pure _

theorem noPanic_getSender (inner : Cell W (Option Nat)) (t : Http3Transport) :
    (t.getSender net inner).NoPanic := by
  refine (noPanic_lock net).bind fun _ => (noPanic_read inner).bind fun s => ?_
  cases s with
  | some s => exact Async.NoPanic.pure _
  | none =>
    refine t.noPanic_connect.bind fun s => ?_
    exact (noPanic_write inner _).bind fun _ => Async.NoPanic.pure _

theorem collectBody_ne_panic (chunks : List Bytes) (ending : Reply String Unit) (body : Bytes) :
    collectBody chunks ending body ≠ .panic := by
  induction chunks generalizing body with
  | nil => cases ending <;> simp [collectBody]
  | cons chunk rest ih =>
    unfold collectBody
    dsimp only
    split
    · simp
    · exact ih _

theorem noPanic_fetch (t : Http3Transport) (sender : Nat) (httpReq : HttpRequest) :
    (t.fetch net sender httpReq).NoPanic := by
  refine (noPanic_quicOp _).bind fun stream => (noPanic_quicOp _).bind fun _ => ?_
  refine (noPanic_quicOp _).bind fun status => ?_
  split
  · exact Async.NoPanic.throw _
  · exact fun w => collectBody_ne_panic _ _ _

theorem noPanic (inner : Cell W (Option Nat)) (t : Http3Transport) (req : Message) :
    (t.exchangeWith codec net inner skipCheck req).NoPanic := by
  refine (t.noPanic_getSender inner).bind fun sender => ?_
  refine (Async.NoPanic.lift (encodeRequest_ne_panic _ _)).bind fun p => ?_
  refine (Async.NoPanic.lift (parseUri_ne_panic _ _)).bind fun _ => ?_
  refine Async.NoPanic.bind (t.noPanic_fetch _ _).timeout fun body => ?_
  exact Async.NoPanic.lift (decodeResponse_skip_ne_panic _ _ _)

end Http3Transport

theorem noPanic_probeH3 (addr : SocketAddr) (serverName : String) (tlsConfig : TlsConfig)
    (timeout : Option Duration) (httpSupported : Bool) :
    (probeH3 net addr serverName tlsConfig timeout httpSupported).NoPanic := by
  have htls : (probeTls net addr serverName).NoPanic := by
    refine (noPanic_io _).bind fun tcp => ?_
    refine (Async.NoPanic.lift (checkServerName_ne_panic _ _)).bind fun _ => ?_
    exact (Async.NoPanic.call _ _).bind fun _ => Async.NoPanic.pure _
  have hrace : (raceH3 net addr serverName tlsConfig).NoPanic := by
    refine (Async.NoPanic.call _ _).bind fun quicFirst => ?_
    split
    · exact noPanic_succeeded (noPanic_quicOp _)
    · exact (noPanic_succeeded htls).bind fun _ => Async.NoPanic.pure _
  unfold probeH3
  split
  · exact Async.NoPanic.pure _
  · exact (Async.NoPanic.timeout hrace).attempt.bind fun _ => Async.NoPanic.pure _

namespace HttpClient

theorem noPanic_connect (outer : Option Duration) (c : HttpClient) :
    (c.connect net outer).NoPanic := by
  refine (noPanic_dial net _ .tcp).bind fun conn => ?_
  cases conn with
  | udp sock addr => exact Async.NoPanic.throw _
  | tcp tcp =>
    exact (Async.NoPanic.lift (checkServerName_ne_panic _ _)).bind fun _ => noPanic_httpOp _ _

theorem noPanic_connectTimes (outer : Option Duration) (c : HttpClient) (n : Nat)
    (conns : List (Except DohError Nat)) : (c.connectTimes net outer n conns).NoPanic := by
  induction n generalizing conns with
  | zero => exact Async.NoPanic.pure _
  | succ n ih => exact (c.noPanic_connect outer).attempt.bind fun conn => ih (conns ++ [conn])

theorem noPanic_request (outer : Option Duration) (c : HttpClient) (req : HttpRequest) :
    (c.request net outer req).NoPanic := by
  refine (noPanic_httpConnects _ _ _).bind fun n => ?_
  exact (c.noPanic_connectTimes outer n []).bind fun conns => Async.NoPanic.call _ _

end HttpClient

namespace DohUpstream

theorem noPanic_shouldUseHttp3 (u : DohUpstream W) : (u.shouldUseHttp3 net).NoPanic := by
  unfold shouldUseHttp3
  split
  · exact Async.NoPanic.pure _
  split
  · exact Async.NoPanic.pure _
  refine (noPanic_lock net).bind fun _ => (noPanic_read u.preferH3).bind fun prefer => ?_
  cases prefer with
  | some prefer => exact Async.NoPanic.pure _
  | none =>
    refine (noPanic_resolveAddrs _ _ _ _ _ _).bind fun addrs => ?_
    refine (Async.NoPanic.lift (firstAddr_ne_panic _ _)).bind fun addr => ?_
    refine (noPanic_probeH3 _ _ _ _ _).bind fun prefer => (noPanic_lock net).bind fun _ => ?_
    exact (noPanic_write _ _).bind fun _ => Async.NoPanic.pure _

theorem noPanic_getH3Transport (u : DohUpstream W) : (u.getH3Transport net).NoPanic := by
  refine (noPanic_lock net).bind fun _ => (noPanic_read u.h3).bind fun t => ?_
  cases t with
  | some t => exact Async.NoPanic.pure _
  | none =>
    refine (noPanic_resolveAddrs _ _ _ _ _ _).bind fun addrs => ?_
    refine (Async.NoPanic.lift (firstAddr_ne_panic _ _)).bind fun addr => ?_
    refine (noPanic_alloc net).bind fun id => (noPanic_write _ _).bind fun _ => ?_
    exact (noPanic_write _ _).bind fun _ => Async.NoPanic.pure _

theorem noPanic_createClient (u : DohUpstream W) : (u.createClient net).NoPanic := by
  refine (noPanic_resolveDialContext _ _ _ _ _ _).bind fun dial => ?_
  dsimp only
  split
  · exact Async.NoPanic.throw _
  · exact Async.NoPanic.pure _

theorem noPanic_getClient (u : DohUpstream W) : (u.getClient net).NoPanic := by
  have helapsed : ∀ start, (u.checkElapsed net start).NoPanic := by
    intro start
    unfold checkElapsed
    split
    · exact Async.NoPanic.pure _
    · refine (noPanic_instantNow net).bind fun now => ?_
      split
      · exact (noPanic_instantNow net).bind fun _ => Async.NoPanic.throw _
      · exact Async.NoPanic.pure _
  refine (noPanic_lock net).bind fun _ => (noPanic_read u.client).bind fun c => ?_
  cases c with
  | some c => exact Async.NoPanic.pure _
  | none =>
    refine (noPanic_instantNow net).bind fun start => u.noPanic_createClient.bind fun client => ?_
    refine (helapsed start).bind fun _ => ?_
    exact (noPanic_write _ _).bind fun _ => Async.NoPanic.pure _

theorem noPanic_resetClient (u : DohUpstream W) : (u.resetClient net).NoPanic := by
  refine (noPanic_lock net).bind fun _ => u.noPanic_createClient.bind fun client => ?_
  exact (noPanic_write _ _).bind fun _ => Async.NoPanic.pure _

theorem noPanic_https (u : DohUpstream W) (client : HttpClient) (req : Message) :
    (u.exchangeHttpsWith codec net client skipCheck req).NoPanic := by
  refine (Async.NoPanic.lift (encodeRequest_ne_panic _ _)).bind fun p => ?_
  refine (Async.NoPanic.lift (parseUri_ne_panic _ _)).bind fun _ => ?_
  refine Async.NoPanic.bind (client.noPanic_request _ _).timeout fun r => ?_
  refine (noPanic_httpOp _ _).bind fun body => ?_
  split
  · exact Async.NoPanic.throw _
  · split
    · exact Async.NoPanic.throw _
    · exact Async.NoPanic.lift (decodeResponse_skip_ne_panic _ _ _)

theorem noPanic (u : DohUpstream W) (req : Message) :
    (u.exchangeWith codec net skipCheck req).NoPanic := by
  refine u.noPanic_shouldUseHttp3.bind fun useH3 => ?_
  split
  · refine u.noPanic_getH3Transport.bind fun p => ?_
    obtain ⟨transport, wasCached⟩ := p
    refine noPanic_retryOnce (transport.noPanic _ req) ?_ (noPanic_reset u.h3)
    exact (transport.noPanic_reset _).bind fun _ => transport.noPanic _ req
  · refine u.noPanic_getClient.bind fun p => ?_
    obtain ⟨client, wasCached⟩ := p
    refine noPanic_retryOnce (u.noPanic_https client req) ?_ (noPanic_reset u.client)
    exact u.noPanic_resetClient.bind fun client => u.noPanic_https client req

end DohUpstream

end

end DnsProxy
