import DnsProxy.Dns.Codec
import DnsProxy.Listener.DnsCrypt
import DnsProxy.Properties.CertRefresh
import DnsProxy.Properties.DnsCryptWire

/-!
# DNSCrypt の client と server を繋ぐ

`DnsCryptUpstream` の相手に、同じ repository の DNSCrypt listener を置く。間の UDP と TCP は
何も失わない。ただし、一つの datagram に載る長さには限りがあり（`SocketAddr.maxDatagram`）、それより
長いものは送るところで失敗する。

* datagram は届いたそばから server が処理し、返した datagram は client の socket に溜まる
* TCP の server は、client が読もうとして足りないときに走る。要求を読み尽くして待ちに入る
* 乱数は、引くたびに列 `coins` の次のものになる。列は何であってもよい

server の受け取る datagram は、listener の buffer の 65535 byte に切り詰められる。
-/

namespace DnsProxy

open Infra

/-! ## 両端の間 -/

/-- 両端の間にあるもの。 -/
structure Link where
  /-- これまでに引いた乱数の個数。 -/
  draws : Nat
  /-- client の socket に届いている datagram。 -/
  datagrams : List Bytes
  /-- TCP で、まだ読まれていない byte 列。 -/
  toServer : Bytes
  toClient : Bytes
  /-- TCP で繋いだ回数。 -/
  dials : Nat

/-- 両端の置かれた環境。 -/
structure LinkEnv where
  std : StdText
  /-- listener の宛先と、client の宛先。 -/
  server : SocketAddr
  client : SocketAddr
  /-- 時刻。 -/
  now : UInt32
  coins : Nat → (n : Nat) → Block n

/-- 一つの UDP datagram に載る長さ。長さの欄の 65535 から、UDP の header と、IPv4 ではその header を引く。 -/
def SocketAddr.maxDatagram (a : SocketAddr) : Nat := if a.ip.isIpv4 then 65507 else 65527

theorem SocketAddr.maxDatagram_le (a : SocketAddr) : a.maxDatagram ≤ 65527 := by
  unfold SocketAddr.maxDatagram
  split <;> omega

theorem SocketAddr.le_maxDatagram (a : SocketAddr) : 65507 ≤ a.maxDatagram := by
  unfold SocketAddr.maxDatagram
  split <;> omega

/-- 長すぎる datagram を送ろうとしたときの失敗。 -/
def emsgsize : String := "Message too long (os error 90)"

variable (env : LinkEnv)

/-- 乱数を引く。 -/
def Link.draw (n : Nat) (w : Link) : Block n × Link :=
  (env.coins w.draws n, { w with draws := w.draws + 1 })

/-- server から見た世界。 -/
def serverNet : Net Link :=
  { Net.unreachable env.std with
    udpSendTo := fun _ b peer w =>
      if b.length ≤ peer.maxDatagram then (.ok (), { w with datagrams := w.datagrams ++ [b] })
      else (.err emsgsize, w)
    readExact := fun _ n w =>
      match takeExact n w.toServer with
      | some b => (.ok b, { w with toServer := w.toServer.drop n })
      | none => (.pending, w)
    writeAll := fun _ b w => (.ok (), { w with toClient := w.toClient ++ b })
    nowUnix := fun _ => env.now
    random := Link.draw env }

section

variable (codec : Codec) (suite : CryptoSuite) (config : DnsCryptServerConfig)
  (handler : Message → Except DohError Message)

/-- 答えが要求だけで決まる handler。 -/
def pureHandler : Handler Link := fun req => Async.lift (Outcome.ofExcept (handler req))

/-- `udp_loop` が一つの datagram を受け取って処理した後。失敗は記録されるだけである。 -/
def serveUdp (packet : Bytes) (w : Link) : Link :=
  (handleDnsCryptUdp codec suite (serverNet env) 0 (packet.take 65535) env.client config
    (pureHandler handler) w).2

/-- TCP の接続を受け持つ task が、届いている分を処理する。 -/
def serveTcp : Async Link DohError Unit := fun w =>
  handleDnsCryptTcp codec suite (serverNet env) 0 config (pureHandler handler)
    (w.toServer.length + 1) w

/-- client が読む。足りなければ server に走らせ、それでも足りなければ待つ。
接続が閉じていれば失敗する。 -/
def readTcp (n : Nat) (w : Link) : Reply String (Block n) × Link :=
  match takeExact n w.toClient with
  | some b => (.ok b, { w with toClient := w.toClient.drop n })
  | none =>
    match serveTcp env codec suite config handler w with
    | (out, w') =>
      match takeExact n w'.toClient with
      | some b => (.ok b, { w' with toClient := w'.toClient.drop n })
      | none =>
        match out with
        | .pending => (.pending, w')
        | _ => (.err "early eof", w')

/-- client から見た世界。宛先が listener でなければ繋がらない。 -/
def clientNet : Net Link :=
  { Net.unreachable env.std with
    udpBind := fun _ w => (.ok 0, { w with datagrams := [] })
    udpConnect := fun _ addr w =>
      if addr = env.server then (.ok (), w) else (.err "unreachable", w)
    udpSend := fun _ b w =>
      if b.length ≤ env.server.maxDatagram then (.ok (), serveUdp env codec suite config handler b w)
      else (.err emsgsize, w)
    udpRecv := fun _ size w =>
      match w.datagrams with
      | [] => (.pending, w)
      | b :: rest => (.ok ⟨b.take size, List.length_take_le size b⟩, { w with datagrams := rest })
    tcpConnect := fun addr w =>
      if addr = env.server then
        (.ok 0, { w with toServer := [], toClient := [], dials := w.dials + 1 })
      else (.err "unreachable", w)
    writeAll := fun _ b w => (.ok (), { w with toServer := w.toServer ++ b })
    readExact := fun _ n => readTcp env codec suite config handler n
    nowUnix := fun _ => env.now
    random := Link.draw env }

end

/-! ## server の側 -/

section

variable {env} {codec : Codec} {suite : CryptoSuite} {config : DnsCryptServerConfig}
  {handler : Message → Except DohError Message}

theorem serverNet_readExact (n : Nat) (w : Link) :
    (serverNet env).readExact 0 n w = match takeExact n w.toServer with
      | some b => (.ok b, { w with toServer := w.toServer.drop n })
      | none => (.pending, w) := rfl

/-- 収まる datagram は届く。 -/
theorem server_udpSendTo {b : Bytes} {peer : SocketAddr} (h : b.length ≤ peer.maxDatagram)
    (w : Link) :
    io ((serverNet env).udpSendTo 0 b peer) w
      = (.ok (), { w with datagrams := w.datagrams ++ [b] }) := Async.call_ok (if_pos h)

theorem server_readExact {n : Nat} (a : Block n) (rest : Bytes) {w : Link}
    (h : w.toServer = a.1 ++ rest) :
    io ((serverNet env).readExact 0 n) w = (.ok a, { w with toServer := rest }) := by
  refine Async.call_ok ?_
  rw [serverNet_readExact, h, takeExact_append]
  dsimp only
  rw [List.drop_left' a.2]

/-- 長さの付いた要求を読む。 -/
theorem readPrefixed_run {packet : Bytes} (hlen : packet.length ≤ 65535) {w : Link}
    (h : w.toServer = Bytes.toBe16 (UInt16.ofNat packet.length) ++ packet) :
    readPrefixed (serverNet env) 0 w = (.ok packet, { w with toServer := [] }) := by
  have hsize : io ((serverNet env).readExact 0 2) w
      = (.ok ⟨Bytes.toBe16 (UInt16.ofNat packet.length), rfl⟩, { w with toServer := packet }) :=
    server_readExact ⟨Bytes.toBe16 (UInt16.ofNat packet.length), rfl⟩ packet h
  have hbody : io ((serverNet env).readExact 0
        (Block.be16 ⟨Bytes.toBe16 (UInt16.ofNat packet.length), rfl⟩).toNat) { w with toServer := packet }
      = (.ok ⟨packet, be16_length hlen⟩, { w with toServer := [] }) :=
    server_readExact ⟨packet, be16_length hlen⟩ [] (by simp)
  unfold readPrefixed
  rw [Async.bind_ok hsize, Async.bind_ok hbody]
  rfl

/-- 届いている byte 列が無ければ、次の要求を待つ。 -/
theorem readPrefixed_empty {w : Link} (h : w.toServer = []) :
    readPrefixed (serverNet env) 0 w = (.pending, w) := by
  have hop : (serverNet env).readExact 0 2 w = (.pending, w) := by
    rw [serverNet_readExact, h, takeExact_none (by simp)]
  exact Async.bind_pending (Async.call_pending hop)

theorem writePrefixed_run {body : Bytes} (hlen : body.length ≤ 65535) (w : Link) :
    writePrefixed (serverNet env) 0 body w
      = (.ok (), { w with toClient :=
          w.toClient ++ Bytes.toBe16 (UInt16.ofNat body.length) ++ body }) := by
  unfold writePrefixed
  rw [if_neg (by omega)]
  rfl

/-- 要求が届いていなければ、server は待っている。 -/
theorem tcpLoop_empty {answer : Bytes → Async Link DohError Bytes} {w : Link}
    (h : w.toServer = []) (fuel : Nat) :
    tcpLoop (serverNet env) 0 answer fuel w = (.pending, w) := by
  cases fuel with
  | zero => rfl
  | succ fuel =>
    have hread : (readPrefixed (serverNet env) 0).attempt w = (.pending, w) := by
      unfold Async.attempt
      rw [readPrefixed_empty h]
    rw [tcpLoop, Async.bind_apply, hread]

/-- 要求が一つだけ届いているとき、server はそれに答えて次を待つ。 -/
theorem tcpLoop_once {answer : Bytes → Async Link DohError Bytes} {packet bytes : Bytes}
    {w w' : Link} (hpacket : packet.length ≤ 65535) (hbytes : bytes.length ≤ 65535)
    (h : w.toServer = Bytes.toBe16 (UInt16.ofNat packet.length) ++ packet)
    (hanswer : answer packet { w with toServer := [] } = (.ok bytes, w'))
    (hread : w'.toServer = []) (fuel : Nat) :
    tcpLoop (serverNet env) 0 answer (fuel + 1) w
      = (.pending, { w' with toClient :=
          w'.toClient ++ Bytes.toBe16 (UInt16.ofNat bytes.length) ++ bytes }) := by
  have hfirst : (readPrefixed (serverNet env) 0).attempt w
      = (.ok (.ok packet), { w with toServer := [] }) := by
    unfold Async.attempt
    rw [readPrefixed_run hpacket h]
  rw [tcpLoop, Async.bind_ok hfirst]
  dsimp only
  rw [Async.bind_ok hanswer, Async.bind_ok (writePrefixed_run hbytes w')]
  refine tcpLoop_empty ?_ fuel
  exact hread

end

/-! ## 二種類の packet -/

section

variable {env} {codec : Codec} {suite : CryptoSuite} {config : DnsCryptServerConfig}
  {handler : Message → Except DohError Message}

/--
**暗号化された query が、証明書の query と取り違えられることは無い。**

magic の 5 byte 目と 6 byte 目は 0 で、そこは header の QDCOUNT である。
-/
theorem tryAnswerProviderTxt_queryFrame (laws : codec.Laws) (clientPublicKey : Block 32)
    (clientNonce : Block 12) (ciphertext : Bytes) :
    tryAnswerProviderTxt codec
      (queryFrame mainClientMagic clientPublicKey clientNonce ciphertext) config = none := by
  unfold tryAnswerProviderTxt
  split
  · rfl
  · next req hreq =>
    have hnil : req.queries = [] := laws.queries_eq_nil hreq rfl rfl
    split
    · rfl
    · rw [hnil]
      rfl

/-- 証明書の query には、証明書を載せて答える。届いた名前は絶対名になっている。 -/
theorem tryAnswerProviderTxt_query {packet : Bytes} {id : UInt16} {name : Name}
    (hname : codec.nameFromAscii config.providerName = .ok name)
    (hpacket : codec.fromBytes packet = .ok (DnsCryptUpstream.providerQuery id name.rooted)) :
    tryAnswerProviderTxt codec packet config
      = some (providerTxtReply config id { name := name.rooted, queryType := RecordType.TXT }) := by
  unfold tryAnswerProviderTxt
  rw [hpacket]
  simp [DnsCryptUpstream.providerQuery, hname]

theorem respond_plain {packet : Bytes} {resp : Message}
    (h : tryAnswerProviderTxt codec packet config = some resp) (w : Link) :
    respond codec suite packet config (pureHandler handler) w = (.ok (.plain resp), w) := by
  unfold respond
  rw [h]
  rfl

/-- 暗号化された query は、解いて handler に渡す。 -/
theorem respond_run {W : Type} {handler : Handler W} {packet reqBytes respBytes : Bytes}
    {clientPublicKey : Block 32} {clientNonce : Block 12} {req resp : Message} {w w' : W}
    (hnone : tryAnswerProviderTxt codec packet config = none)
    (hdecrypt : decryptQuery suite config.resolverSecretKey config.clientMagic packet
      = .ok (reqBytes, clientPublicKey, clientNonce))
    (hreq : codec.fromBytes reqBytes = .ok req) (hrun : handler req w = (.ok resp, w'))
    (hresp : codec.toBytes resp = .ok respBytes) :
    respond codec suite packet config handler w
      = (.ok (.encrypted clientPublicKey clientNonce respBytes), w') := by
  unfold respond
  rw [hnone]
  dsimp only
  rw [hdecrypt, Async.lift_bind_ok]
  dsimp only
  rw [unpack_ok hreq, Async.lift_bind_ok, Async.bind_ok hrun, pack_ok hresp, Async.lift_bind_ok]
  rfl

theorem pureHandler_run {req resp : Message} (h : handler req = .ok resp) (w : Link) :
    pureHandler handler req w = (.ok resp, w) := by
  unfold pureHandler
  rw [h]
  rfl

/-- 証明書の query が届いた後。 -/
theorem serveUdp_plain {packet b : Bytes} {resp : Message} (hpacket : packet.length ≤ 65535)
    (h : tryAnswerProviderTxt codec packet config = some resp)
    (hresp : codec.toBytes resp = .ok b) (hb : b.length ≤ 512) (w : Link) :
    serveUdp env codec suite config handler packet w
      = { w with datagrams := w.datagrams ++ [b] } := by
  have hmax := env.client.le_maxDatagram
  have hpack : packUdp codec resp = .ok b := by
    unfold packUdp
    rw [pack_ok hresp, Outcome.ok_bind, if_neg (by omega)]
    rfl
  unfold serveUdp handleDnsCryptUdp
  rw [List.take_of_length_le hpacket, Async.bind_ok (respond_plain h w)]
  dsimp only
  rw [hpack, Async.lift_bind_ok, server_udpSendTo (by omega)]

/-- **UDP の応答は、frame が 512 byte に収まればそのまま、収まらなければ切り詰めてから暗号化される。** -/
theorem encryptUdp_spec {W : Type} (laws : suite.Laws) (net : Net W) {cert : Certificate}
    {client : ClientKeyPair} (hcert : cert.resolverPublicKey = suite.publicKey config.resolverSecretKey)
    (hclient : client.publicKey = suite.publicKey client.secretKey) (clientNonce : Block 12)
    {resp : Message} {respBytes truncBytes : Bytes} (hread : codec.fromBytes respBytes = .ok resp)
    (htrunc : codec.toBytes resp.truncate = .ok truncBytes) (w : W) :
    ∃ framed w', encryptUdp codec suite net config client.publicKey clientNonce respBytes w
        = (.ok framed, w') ∧
      (w' = (net.random 12 w).2 ∨ w' = (net.random 12 (net.random 12 w).2).2) ∧
      framed.length
        = responseFrameSize (if responseFrameSize respBytes ≤ 512 then respBytes else truncBytes) ∧
      decryptResponse suite cert client clientNonce framed
        = .ok (if responseFrameSize respBytes ≤ 512 then respBytes else truncBytes) := by
  obtain ⟨framed, hframed, hlen, hopen⟩ :=
    encryptServerResponse_spec laws net hcert hclient clientNonce respBytes w
  unfold encryptUdp
  rw [Async.bind_ok hframed]
  by_cases hfits : responseFrameSize respBytes ≤ 512
  · rw [if_pos hfits, if_neg (by omega)]
    exact ⟨framed, _, rfl, Or.inl rfl, hlen, hopen⟩
  · obtain ⟨framed', hframed', hlen', hopen'⟩ := encryptServerResponse_spec laws net hcert hclient
      clientNonce truncBytes (net.random 12 w).2
    rw [if_neg hfits, if_pos (by omega), unpack_ok hread, Async.lift_bind_ok, pack_ok htrunc,
      Async.lift_bind_ok]
    exact ⟨framed', _, hframed', Or.inr rfl, hlen', hopen'⟩

section

variable (laws : suite.Laws) {cert : Certificate} {client : ClientKeyPair} {clientNonce : Block 12}
  {resp : Message} {packet respBytes : Bytes}
  (hcert : cert.resolverPublicKey = suite.publicKey config.resolverSecretKey)
  (hclient : client.publicKey = suite.publicKey client.secretKey)
  (hpacket : packet.length ≤ 65535)
  (hrespond : ∀ w, respond codec suite packet config (pureHandler handler) w
    = (.ok (.encrypted client.publicKey clientNonce respBytes), w))

include laws hcert hclient hpacket hrespond

/-- **UDP では、frame が 512 byte に収まればそのまま、収まらなければ切り詰めた応答が返る。**

どちらにしても、datagram に載る長さであることが要る。
-/
theorem serveUdp_encrypted (codecLaws : codec.Laws) (hround : codec.RoundTrips resp)
    (hround' : codec.RoundTrips resp.truncate) (hresp : codec.toBytes resp = .ok respBytes)
    (hsend : ∀ b, codec.toBytes resp.truncate = .ok b →
      responseFrameSize b ≤ env.client.maxDatagram) (w : Link) :
    ∃ framed sentBytes draws,
      serveUdp env codec suite config handler packet w
        = { w with draws, datagrams := w.datagrams ++ [framed] } ∧
      framed.length ≤ 65535 ∧
      decryptResponse suite cert client clientNonce framed = .ok sentBytes ∧
      codec.fromBytes sentBytes
        = .ok (if responseFrameSize respBytes ≤ 512 then resp else resp.truncate) := by
  have hread : codec.fromBytes respBytes = .ok resp := hround _ hresp
  obtain ⟨truncBytes, htrunc, -⟩ := codecLaws.truncate resp respBytes hresp
  obtain ⟨framed, w', hframed, hw', hlen, hopen⟩ :=
    encryptUdp_spec laws (serverNet env) hcert hclient clientNonce hread htrunc w
  have hmax : framed.length ≤ env.client.maxDatagram := by
    have hclientMax := env.client.le_maxDatagram
    rw [hlen]
    split
    · omega
    · exact hsend _ htrunc
  have hserve : serveUdp env codec suite config handler packet w
      = { w' with datagrams := w'.datagrams ++ [framed] } := by
    unfold serveUdp handleDnsCryptUdp
    rw [List.take_of_length_le hpacket, Async.bind_ok (hrespond w)]
    dsimp only
    rw [Async.bind_ok hframed, server_udpSendTo hmax]
  have hdraws : serveUdp env codec suite config handler packet w
      = { w with draws := w'.draws, datagrams := w.datagrams ++ [framed] } := by
    rw [hserve]
    rcases hw' with rfl | rfl <;> rfl
  refine ⟨framed, _, w'.draws, hdraws, ?_, hopen, ?_⟩
  · exact hmax.trans (env.client.maxDatagram_le.trans (by decide))
  · split
    · exact hread
    · exact hround' _ htrunc

/-- **TCP では、応答がそのまま返る。** -/
theorem serveTcp_encrypted (hsize : responseFrameSize respBytes ≤ 65535) {w : Link}
    (hserver : w.toServer = Bytes.toBe16 (UInt16.ofNat packet.length) ++ packet)
    (hempty : w.toClient = []) :
    ∃ framed, serveTcp env codec suite config handler w
        = (.pending, { w with
            draws := w.draws + 1
            toServer := []
            toClient := Bytes.toBe16 (UInt16.ofNat framed.length) ++ framed }) ∧
      framed.length = responseFrameSize respBytes ∧
      decryptResponse suite cert client clientNonce framed = .ok respBytes := by
  obtain ⟨framed, hframed, hlen, hopen⟩ := encryptServerResponse_spec laws (serverNet env) hcert
    hclient clientNonce respBytes { w with toServer := [] }
  have hanswer : answerDnsCryptTcp codec suite (serverNet env) config (pureHandler handler) packet
      { w with toServer := [] } = (.ok framed, { w with draws := w.draws + 1, toServer := [] }) := by
    unfold answerDnsCryptTcp
    rw [Async.bind_ok (hrespond _)]
    dsimp only
    rw [hframed]
    rfl
  refine ⟨framed, ?_, hlen, hopen⟩
  unfold serveTcp handleDnsCryptTcp
  rw [tcpLoop_once hpacket (by omega) hserver hanswer rfl]
  dsimp only
  rw [hempty, List.nil_append]

end

end

end DnsProxy
