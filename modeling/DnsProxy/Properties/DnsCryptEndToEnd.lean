import DnsProxy.Properties.DnsCryptLink

/-!
# DNSCrypt の端から端まで

`ResolverConfig::stamp` から作った upstream が、同じ鍵を持つ listener から、handler の応答を
そのまま受け取ることを示す。

client の一つの関数が server の一つの関数に出会うところを順に追う。証明書の TXT query、暗号化した
query を UDP で送って返ってくる応答、切り詰められていたときの TCP の応答である。

どちらの向きにも大きさの限りがある。query の frame が一つの datagram に載らなければ、client は送る
ところで失敗する。応答を切り詰めても載らなければ、listener は何も返さない。
-/

namespace DnsProxy

open Infra

/-! ## 置かれた server -/

/-- 一つの鍵の組と、その証明書の期間。 -/
structure DnsCryptService where
  resolver : ResolverConfig
  serial : UInt32
  tsStart : UInt32
  tsEnd : UInt32

namespace DnsCryptService

variable (suite : CryptoSuite) (s : DnsCryptService)

/-- `main.rs` が作る listener の設定。 -/
def config : DnsCryptServerConfig :=
  DnsCryptServerConfig.new suite s.resolver.resolverSecretKey s.resolver.providerSigningKey
    s.resolver.providerName mainClientMagic s.serial s.tsStart s.tsEnd

/-- listener の配る証明書。 -/
def cert : Certificate where
  resolverPublicKey := suite.publicKey s.resolver.resolverSecretKey
  clientMagic := mainClientMagic
  serial := s.serial
  tsStart := s.tsStart
  tsEnd := s.tsEnd

/-- listener が `env.server` にあるときの stamp の中身。 -/
def stamp (env : LinkEnv) : DnsCryptStamp where
  addr := env.server
  providerPublicKey := suite.verifyingKey s.resolver.providerSigningKey
  providerName := s.resolver.providerName

end DnsCryptService

/-- 標準 library の綴りの約束。宛先の綴りは読み戻せて、128 byte に満たない。 -/
structure StdText.ReadsAddr (std : StdText) (addr : SocketAddr) : Prop where
  parse : std.parseSocketAddr (std.toString addr) = some addr
  length : (Utf8.encode (std.toString addr)).length < 128

/--
provider の名前が DNS の名前として読め、証明書の query と応答が両端の間を渡ること。

末尾の `.` の無い名前は、server に届いたときには絶対名になっている。
-/
structure LegalProviderName (codec : Codec) (config : DnsCryptServerConfig) : Prop where
  length : (Utf8.encode config.providerName).length < 128
  parse : ∃ name, codec.nameFromAscii config.providerName = .ok name ∧
    (∀ id, ∃ b, codec.toBytes (DnsCryptUpstream.providerQuery id name) = .ok b ∧
      codec.fromBytes b = .ok (DnsCryptUpstream.providerQuery id name.rooted)) ∧
    ∀ id, ∃ b,
      codec.toBytes (providerTxtReply config id
        { name := name.rooted, queryType := RecordType.TXT }) = .ok b ∧
      codec.fromBytes b = .ok (providerTxtReply config id
        { name := name.rooted, queryType := RecordType.TXT })

/-- 要求はそのまま読み戻され、暗号化した frame が `server` への datagram に載る。 -/
structure SendsQuery (codec : Codec) (server : SocketAddr) (req : Message) (reqBytes : Bytes) :
    Prop where
  bytes : codec.toBytes req = .ok reqBytes
  round : codec.RoundTrips req
  frame : queryFrameSize reqBytes ≤ server.maxDatagram

/-- 応答もそれを切り詰めたものもそのまま読み戻され、暗号化した frame が、応答は TCP に、切り詰めたものは
`client` への datagram に載る。 -/
structure SendsResponse (codec : Codec) (client : SocketAddr) (resp : Message) (respBytes : Bytes) :
    Prop where
  bytes : codec.toBytes resp = .ok respBytes
  round : codec.RoundTrips resp
  roundTruncated : codec.RoundTrips resp.truncate
  frame : responseFrameSize respBytes ≤ 65535
  datagram : ∀ b, codec.toBytes resp.truncate = .ok b →
    responseFrameSize b ≤ client.maxDatagram

/-! ## client の側 -/

section

variable {env : LinkEnv} {codec : Codec} {suite : CryptoSuite} {config : DnsCryptServerConfig}
  {handler : Message → Except DohError Message} {stamp : DnsCryptStamp} {timeout : Option Duration}

/-- 添えた状態 `CertState` は動かない。 -/
theorem io_onSnd {α : Type} (op : Op Link String α) {t : CertState × Link} {a : α} {w : Link}
    (h : op t.2 = (.ok a, w)) :
    io (op.onSnd : Op (CertState × Link) String α) t = (.ok a, (t.1, w)) :=
  Async.call_ok (Op.onSnd_apply h)

theorem client_udpBind (v4 : Bool) (c : CertState) (w : Link) :
    io ((clientNet env codec suite config handler).onSnd.udpBind v4) (c, w)
      = (.ok 0, (c, { w with datagrams := [] })) := rfl

theorem client_udpConnect {addr : SocketAddr} (h : addr = env.server) (t : CertState × Link) :
    io ((clientNet env codec suite config handler).onSnd.udpConnect 0 addr) t = (.ok (), t) :=
  io_onSnd ((clientNet env codec suite config handler).udpConnect 0 addr) (if_pos h)

theorem client_udpSend {packet : Bytes} (h : packet.length ≤ env.server.maxDatagram)
    (c : CertState) (w : Link) :
    io ((clientNet env codec suite config handler).onSnd.udpSend 0 packet) (c, w)
      = (.ok (), (c, serveUdp env codec suite config handler packet w)) :=
  io_onSnd ((clientNet env codec suite config handler).udpSend 0 packet) (if_pos h)

/-- 載らない datagram は、送るところで失敗する。 -/
theorem client_udpSend_long {packet : Bytes} (h : env.server.maxDatagram < packet.length)
    (t : CertState × Link) :
    io ((clientNet env codec suite config handler).onSnd.udpSend 0 packet) t
      = (.err (.io emsgsize), t) := by
  have hsend : (clientNet env codec suite config handler).udpSend 0 packet t.2
      = (.err emsgsize, t.2) := if_neg (Nat.not_le.mpr h)
  exact Async.call_err (Op.onSnd_apply hsend)

theorem client_udpRecv {reply : Bytes} (hreply : reply.length ≤ 65535) (c : CertState)
    {w : Link} (h : w.datagrams = [reply]) :
    io ((clientNet env codec suite config handler).onSnd.udpRecv 0 65535) (c, w)
      = (.ok ⟨reply, hreply⟩, (c, { w with datagrams := [] })) := by
  have htake : reply.take 65535 = reply := List.take_of_length_le hreply
  refine io_onSnd ((clientNet env codec suite config handler).udpRecv 0 65535) ?_
  unfold clientNet
  dsimp only
  rw [h]
  simp only [htake]

theorem client_tcpConnect {addr : SocketAddr} (h : addr = env.server) (c : CertState) (w : Link) :
    io ((clientNet env codec suite config handler).onSnd.tcpConnect addr) (c, w)
      = (.ok 0, (c, { w with toServer := [], toClient := [], dials := w.dials + 1 })) :=
  io_onSnd ((clientNet env codec suite config handler).tcpConnect addr) (if_pos h)

theorem client_writeAll (b : Bytes) (c : CertState) (w : Link) :
    io ((clientNet env codec suite config handler).onSnd.writeAll 0 b) (c, w)
      = (.ok (), (c, { w with toServer := w.toServer ++ b })) := rfl

theorem client_readExact {n : Nat} {a : Block n} (c : CertState) {w w' : Link}
    (h : readTcp env codec suite config handler n w = (.ok a, w')) :
    io ((clientNet env codec suite config handler).onSnd.readExact 0 n) (c, w) = (.ok a, (c, w')) :=
  io_onSnd ((clientNet env codec suite config handler).readExact 0 n) h

/-- client が送った datagram に server が一つ返せば、それを受け取る。 -/
theorem exchangeUdp_run (haddr : stamp.addr = env.server) {packet reply : Bytes}
    (hpacket : packet.length ≤ env.server.maxDatagram) (hreply : reply.length ≤ 65535)
    (c : CertState) {w w' : Link}
    (hserve : serveUdp env codec suite config handler packet { w with datagrams := [] } = w')
    (hw' : w'.datagrams = [reply]) :
    (soleUpstream stamp timeout).exchangeUdp (clientNet env codec suite config handler).onSnd packet
        (c, w)
      = (.ok reply, (c, { w' with datagrams := [] })) := by
  have hstamp : (soleUpstream stamp timeout : DnsCryptUpstream (CertState × Link)).stamp.addr
      = env.server := haddr
  unfold DnsCryptUpstream.exchangeUdp
  rw [Async.bind_ok (client_udpBind _ c w), Async.bind_ok (client_udpConnect hstamp _),
    Async.bind_ok (client_udpSend hpacket c _), hserve, Async.bind_ok (client_udpRecv hreply c hw')]
  rfl

/-- 載らない packet では、何も送らずに失敗する。 -/
theorem exchangeUdp_long (haddr : stamp.addr = env.server) {packet : Bytes}
    (hpacket : env.server.maxDatagram < packet.length) (c : CertState) (w : Link) :
    (soleUpstream stamp timeout).exchangeUdp (clientNet env codec suite config handler).onSnd packet
        (c, w)
      = (.err (.io emsgsize), (c, { w with datagrams := [] })) := by
  have hstamp : (soleUpstream stamp timeout : DnsCryptUpstream (CertState × Link)).stamp.addr
      = env.server := haddr
  unfold DnsCryptUpstream.exchangeUdp
  rw [Async.bind_ok (client_udpBind _ c w), Async.bind_ok (client_udpConnect hstamp _),
    Async.bind_err (client_udpSend_long hpacket _)]

/-! ### TCP -/

theorem readTcp_ready {n : Nat} (a : Block n) (rest : Bytes) {w : Link}
    (h : w.toClient = a.1 ++ rest) :
    readTcp env codec suite config handler n w = (.ok a, { w with toClient := rest }) := by
  unfold readTcp
  rw [h, takeExact_append]
  dsimp only
  rw [List.drop_left' a.2]

/-- 足りなければ、server が書くのを待つ。 -/
theorem readTcp_wait {n : Nat} (a : Block n) (rest : Bytes) {w w' : Link}
    (h : w.toClient.length < n) {out : Outcome DohError Unit}
    (hserve : serveTcp env codec suite config handler w = (out, w'))
    (hw' : w'.toClient = a.1 ++ rest) :
    readTcp env codec suite config handler n w = (.ok a, { w' with toClient := rest }) := by
  unfold readTcp
  rw [takeExact_none h, hserve]
  dsimp only
  rw [hw', takeExact_append]
  dsimp only
  rw [List.drop_left' a.2]

/-- client が送った要求に server が答えれば、それを受け取る。 -/
theorem exchangeTcp_run (haddr : stamp.addr = env.server) {packet reply : Bytes}
    (hpacket : packet.length ≤ 65535) (hreply : reply.length ≤ 65535) (c : CertState)
    {w w' : Link} {out : Outcome DohError Unit}
    (hserve : serveTcp env codec suite config handler
      { w with
        toServer := Bytes.toBe16 (UInt16.ofNat packet.length) ++ packet
        toClient := []
        dials := w.dials + 1 } = (out, w'))
    (hw' : w'.toClient = Bytes.toBe16 (UInt16.ofNat reply.length) ++ reply) :
    (soleUpstream stamp timeout).exchangeTcp (clientNet env codec suite config handler).onSnd packet
        (c, w)
      = (.ok reply, (c, { w' with toClient := [] })) := by
  have hstamp : (soleUpstream stamp timeout : DnsCryptUpstream (CertState × Link)).stamp.addr
      = env.server := haddr
  have hsize := client_readExact c (readTcp_wait (n := 2)
    ⟨Bytes.toBe16 (UInt16.ofNat reply.length), rfl⟩ reply (by simp) hserve hw')
  have hbody : io ((clientNet env codec suite config handler).onSnd.readExact 0
        (Block.be16 ⟨Bytes.toBe16 (UInt16.ofNat reply.length), rfl⟩).toNat)
        (c, { w' with toClient := reply })
      = (.ok ⟨reply, be16_length hreply⟩, (c, { w' with toClient := [] })) :=
    client_readExact c (readTcp_ready ⟨reply, be16_length hreply⟩ [] (by simp))
  unfold DnsCryptUpstream.exchangeTcp
  rw [if_neg (by omega), Async.bind_ok (client_tcpConnect hstamp c w)]
  unfold exchangeFramed
  rw [Async.bind_ok (client_writeAll _ c _), Async.bind_ok (client_writeAll _ c _), List.nil_append,
    Async.bind_ok hsize, Async.bind_ok hbody]
  rfl

end

/-! ## 証明書を取る -/

section

variable {env : LinkEnv} {codec : Codec} {suite : CryptoSuite} {s : DnsCryptService}
  {handler : Message → Except DohError Message} {timeout : Option Duration}

/-- 証明書の query と応答は、512 byte に収まる。 -/
theorem providerQuery_size {codec : Codec} {providerName : String} {name : Name} {id : UInt16}
    {b : Bytes} (laws : codec.Laws) (hlen : (Utf8.encode providerName).length < 128)
    (hname : codec.nameFromAscii providerName = .ok name)
    (hb : codec.toBytes (DnsCryptUpstream.providerQuery id name) = .ok b) : b.length ≤ 512 := by
  have hwire : name.wireSize ≤ (Utf8.encode providerName).length + 2 := laws.nameFromAscii _ _ hname
  have hsize : b.length ≤ 12 + (name.wireSize + 4) := laws.toBytes_length _ _ hb
  omega

theorem providerTxtReply_size (laws : codec.Laws) {name : Name} {id : UInt16} {b : Bytes}
    (hlen : (Utf8.encode (s.config suite).providerName).length < 128)
    (hname : codec.nameFromAscii (s.config suite).providerName = .ok name)
    (hb : codec.toBytes (providerTxtReply (s.config suite) id
      { name := name.rooted, queryType := RecordType.TXT }) = .ok b) : b.length ≤ 512 := by
  have hread : name.wireSize ≤ (Utf8.encode (s.config suite).providerName).length + 2 :=
    laws.nameFromAscii _ _ hname
  have hwire : name.rooted.wireSize = name.wireSize := rfl
  have hcert : (s.config suite).certBytes.length = 124 := signCertificate_length _ _ _ _ _ _
  have hsize : b.length
      ≤ 12 + (name.rooted.wireSize + 4)
        + (name.rooted.wireSize + 10 + ((s.config suite).certBytes.length + 1)) :=
    laws.toBytes_length _ _ hb
  omega

theorem note_run (e : CertEvent) (c : CertState) (w : Link) (stamp : DnsCryptStamp) :
    (soleUpstream stamp timeout).note e (c, w) = (.ok (), ({ c with log := c.log ++ [e] }, w)) := rfl

theorem client_random (config : DnsCryptServerConfig) (n : Nat) (c : CertState) (w : Link) :
    randomBytes (clientNet env codec suite config handler).onSnd n (c, w)
      = (.ok (env.coins w.draws n), (c, { w with draws := w.draws + 1 })) := rfl

theorem providerNameOf_ok {u : DnsCryptUpstream (CertState × Link)} {name : Name}
    (h : codec.nameFromAscii u.stamp.providerName = .ok name) : u.providerNameOf codec = .ok name := by
  unfold DnsCryptUpstream.providerNameOf
  rw [h]

variable (codecLaws : codec.Laws) (laws : suite.Laws)
  (hname : LegalProviderName codec (s.config suite))

include codecLaws hname

/-- **`fetch_provider_txt` は、listener の証明書を受け取る。** -/
theorem fetchProviderTxt_run (c : CertState) (w : Link) :
    (soleUpstream (s.stamp suite env) timeout).fetchProviderTxt codec
        (clientNet env codec suite (s.config suite) handler).onSnd (c, w)
      = (.ok [(s.config suite).certBytes], ({ c with log := c.log ++ [.fetch] },
          { w with draws := w.draws + 1, datagrams := [] })) := by
  obtain ⟨name, hparse, hquery, hreply⟩ := hname.parse
  obtain ⟨b, hb, hreadQuery⟩ := hquery (env.coins w.draws 2).be16
  obtain ⟨b', hb', hread⟩ := hreply (env.coins w.draws 2).be16
  have hbLen : b.length ≤ 512 := providerQuery_size codecLaws hname.length hparse hb
  have hb'Len : b'.length ≤ 512 := providerTxtReply_size codecLaws hname.length hparse hb'
  have hserve : serveUdp env codec suite (s.config suite) handler b
      { w with draws := w.draws + 1, datagrams := [] }
      = { w with draws := w.draws + 1, datagrams := [b'] } :=
    serveUdp_plain (by omega) (tryAnswerProviderTxt_query hparse hreadQuery) hb' hb'Len _
  have hmax := env.server.le_maxDatagram
  unfold DnsCryptUpstream.fetchProviderTxt
  rw [Async.bind_ok (note_run .fetch c w _), providerNameOf_ok hparse, Async.lift_bind_ok,
    Async.bind_ok (client_random _ 2 _ w), pack_ok hb, Async.lift_bind_ok]
  rw [Async.bind_ok (exchangeUdp_run rfl (by omega) (by omega) _ hserve rfl), unpack_ok hread,
    Async.lift_bind_ok]
  rfl

include laws

theorem refreshCert_run (hnow : (s.cert suite).isValidAt env.now = true) (c : CertState) (w : Link) :
    (soleUpstream (s.stamp suite env) timeout).refreshCert codec suite
        (clientNet env codec suite (s.config suite) handler).onSnd (c, w)
      = (.ok (s.cert suite), ({ cert := some (s.cert suite), log := c.log ++ [.fetch] },
          { w with draws := w.draws + 1, datagrams := [] })) := by
  have hparse : parseCertificates suite [(s.config suite).certBytes]
      (suite.verifyingKey s.resolver.providerSigningKey) = .ok [s.cert suite] :=
    parseCertificates_sign laws _ _ _ _ _ _
  have hchoose : (soleUpstream (s.stamp suite env) timeout).chooseCert
      (clientNet env codec suite (s.config suite) handler).onSnd env.now [s.cert suite]
      = .ok (s.cert suite) := by
    unfold DnsCryptUpstream.chooseCert
    rw [List.filter_singleton, hnow]
    rfl
  unfold DnsCryptUpstream.refreshCert
  rw [Async.bind_ok (fetchProviderTxt_run codecLaws hname c w)]
  show (Async.lift (parseCertificates suite [(s.config suite).certBytes]
    (suite.verifyingKey s.resolver.providerSigningKey)) >>= _) _ = _
  rw [hparse, Async.lift_bind_ok]
  show (Async.lift ((soleUpstream (s.stamp suite env) timeout).chooseCert
    (clientNet env codec suite (s.config suite) handler).onSnd env.now [s.cert suite]) >>= _) _ = _
  rw [hchoose]
  rfl

variable (handler timeout) in
/-- 取ってある証明書が無ければ取りに行き、あればそれを使う。 -/
theorem currentCert_run (hnow : (s.cert suite).isValidAt env.now = true)
    {cached : Option Certificate} (hcached : cached = none ∨ cached = some (s.cert suite))
    (log : List CertEvent) (w : Link) :
    ∃ w', (soleUpstream (s.stamp suite env) timeout).currentCert codec suite
        (clientNet env codec suite (s.config suite) handler).onSnd ({ cert := cached, log }, w)
      = (.ok (s.cert suite),
          (⟨some (s.cert suite), log ++ if cached = none then [.fetch] else []⟩, w')) ∧
      w'.dials = w.dials := by
  rcases hcached with rfl | rfl
  · refine ⟨{ w with draws := w.draws + 1, datagrams := [] }, ?_, rfl⟩
    exact refreshCert_run codecLaws laws hname hnow { cert := none, log } w
  · refine ⟨w, ?_, rfl⟩
    have hvalid : (soleUpstream (s.stamp suite env) timeout).validCached
        (clientNet env codec suite (s.config suite) handler).onSnd
        ({ cert := some (s.cert suite), log }, w) = some (s.cert suite) := by
      show Option.filter _ (some (s.cert suite)) = _
      rw [Option.filter_some]
      exact if_pos hnow
    have hlock : ∀ t : CertState × Link,
        (clientNet env codec suite (s.config suite) handler).onSnd.lock t = t := fun _ => rfl
    rw [DnsCryptUpstream.currentCert_apply, hlock, hvalid, if_neg (by simp), List.append_nil]
    rfl

end

/-! ## 暗号化して問い合わせる -/

section

variable {env : LinkEnv} {codec : Codec} {suite : CryptoSuite} {s : DnsCryptService}
  {handler : Message → Except DohError Message} {timeout : Option Duration} {req resp : Message}
  {reqBytes respBytes : Bytes}

/-- 応答が UDP で足りるかどうか。frame が 512 byte に収まり、TC が立っていないときである。 -/
def FitsUdp (resp : Message) (respBytes : Bytes) : Prop :=
  responseFrameSize respBytes ≤ 512 ∧ resp.metadata.truncation = false

instance (resp : Message) (respBytes : Bytes) : Decidable (FitsUdp resp respBytes) :=
  inferInstanceAs (Decidable (_ ∧ _))

theorem openResponse_ok {cert : Certificate} {client : ClientKeyPair} {clientNonce : Block 12}
    {encResp b : Bytes} {m : Message}
    (hopen : decryptResponse suite cert client clientNonce encResp = .ok b)
    (hread : codec.fromBytes b = .ok m) :
    DnsCryptUpstream.openResponse codec suite cert client clientNonce encResp = .ok m := by
  unfold DnsCryptUpstream.openResponse
  rw [hopen, Outcome.ok_bind, unpack_ok hread]

section

variable {config : DnsCryptServerConfig} {stamp : DnsCryptStamp} (laws : suite.Laws)
  {cert : Certificate} {client : ClientKeyPair} {clientNonce : Block 12} {packet : Bytes}
  (haddr : stamp.addr = env.server)
  (hcert : cert.resolverPublicKey = suite.publicKey config.resolverSecretKey)
  (hclient : client.publicKey = suite.publicKey client.secretKey)
  (hpacket : packet.length ≤ env.server.maxDatagram)
  (hrespond : ∀ w, respond codec suite packet config (pureHandler handler) w
    = (.ok (.encrypted client.publicKey clientNonce respBytes), w))
  (hresp : SendsResponse codec env.client resp respBytes)

include laws haddr hcert hclient hpacket hrespond hresp

/-- UDP で受け取って開いたもの。 -/
theorem exchangeUdp_answered (codecLaws : codec.Laws) (c : CertState) (w : Link) :
    ∃ encResp w', (soleUpstream stamp timeout).exchangeUdp
          (clientNet env codec suite config handler).onSnd packet (c, w) = (.ok encResp, (c, w')) ∧
      w'.dials = w.dials ∧
      DnsCryptUpstream.openResponse codec suite cert client clientNonce encResp
        = .ok (if responseFrameSize respBytes ≤ 512 then resp else resp.truncate) := by
  have hmax := env.server.maxDatagram_le
  obtain ⟨framed, sentBytes, draws, hserve, hlen, hopen, hread⟩ :=
    serveUdp_encrypted laws hcert hclient (by omega) hrespond codecLaws hresp.round
      hresp.roundTruncated hresp.bytes hresp.datagram { w with datagrams := [] }
  refine ⟨framed, _, exchangeUdp_run haddr hpacket hlen c hserve rfl, rfl, ?_⟩
  exact openResponse_ok hopen hread

/-- TCP で受け取って開いたもの。 -/
theorem exchangeTcp_answered (c : CertState) (w : Link) :
    ∃ encResp w', (soleUpstream stamp timeout).exchangeTcp
          (clientNet env codec suite config handler).onSnd packet (c, w) = (.ok encResp, (c, w')) ∧
      w'.dials = w.dials + 1 ∧
      DnsCryptUpstream.openResponse codec suite cert client clientNonce encResp = .ok resp := by
  have hmax := env.server.maxDatagram_le
  have hframe := hresp.frame
  obtain ⟨framed, hserve, hlen, hopen⟩ := serveTcp_encrypted laws hcert hclient (by omega) hrespond
    hframe (w := { w with
      toServer := Bytes.toBe16 (UInt16.ofNat packet.length) ++ packet
      toClient := []
      dials := w.dials + 1 }) rfl rfl
  refine ⟨framed, _, exchangeTcp_run haddr (by omega) (hlen.le.trans hframe) c hserve rfl, rfl, ?_⟩
  exact openResponse_ok hopen (hresp.round _ hresp.bytes)

end

/-- client の暗号化した query は、server が解いて handler に渡す。証明書は、鍵と client magic が
server のものであればよい。 -/
theorem encryptQuery_served {cert : Certificate} (codecLaws : codec.Laws) (laws : suite.Laws)
    (hkey : cert.resolverPublicKey = suite.publicKey s.resolver.resolverSecretKey)
    (hmagic : cert.clientMagic = mainClientMagic) (hreq : SendsQuery codec env.server req reqBytes)
    (hhandler : handler req = .ok resp) (hresp : codec.toBytes resp = .ok respBytes)
    {client : ClientKeyPair}
    (hclient : client.publicKey = suite.publicKey client.secretKey) (c : CertState) (w : Link) :
    ∃ packet clientNonce, encryptQuery suite
          (clientNet env codec suite (s.config suite) handler).onSnd cert client reqBytes (c, w)
        = (.ok (packet, clientNonce), (c, { w with draws := w.draws + 1 })) ∧
      packet.length ≤ env.server.maxDatagram ∧
      ∀ w, respond codec suite packet (s.config suite) (pureHandler handler) w
        = (.ok (.encrypted client.publicKey clientNonce respBytes), w) := by
  obtain ⟨ct, hencrypt, hctLen, hdecrypt⟩ := encryptQuery_spec laws
    (clientNet env codec suite (s.config suite) handler).onSnd hkey hclient reqBytes (c, w)
  rw [hmagic] at hencrypt hdecrypt
  refine ⟨_, _, hencrypt, ?_, ?_⟩
  · rw [queryFrame_length, hctLen]
    exact hreq.frame
  · intro w
    exact respond_run (tryAnswerProviderTxt_queryFrame codecLaws _ _ _) hdecrypt
      (hreq.round _ hreq.bytes) (pureHandler_run hhandler w) hresp

variable (env s timeout) in
/-- **`exchange_with_cert` は handler の応答を返す。** UDP で足りなければ、TCP で一度だけ繋ぐ。 -/
theorem exchangeWithCert_served {cert : Certificate} (codecLaws : codec.Laws) (laws : suite.Laws)
    (hkey : cert.resolverPublicKey = suite.publicKey s.resolver.resolverSecretKey)
    (hmagic : cert.clientMagic = mainClientMagic) (hreq : SendsQuery codec env.server req reqBytes)
    (hhandler : handler req = .ok resp) (hresp : SendsResponse codec env.client resp respBytes)
    {check : Message → Outcome DohError Unit} (hcheck : check resp = .ok ()) (c : CertState)
    (w : Link) :
    ∃ w', (soleUpstream (s.stamp suite env) timeout).exchangeWithCertWith codec suite
        (clientNet env codec suite (s.config suite) handler).onSnd cert check req (c, w)
      = (.ok resp, ({ c with log := c.log ++ [.encrypt cert] }, w')) ∧
      w'.dials = w.dials + if FitsUdp resp respBytes then 0 else 1 := by
  obtain ⟨client, hclient, hgenerate⟩ : ∃ client : ClientKeyPair,
      client.publicKey = suite.publicKey client.secretKey ∧
      ClientKeyPair.generate suite (clientNet env codec suite (s.config suite) handler).onSnd (c, w)
        = (.ok client, (c, { w with draws := w.draws + 1 })) := ⟨_, rfl, rfl⟩
  obtain ⟨packet, clientNonce, hencrypt, hpacket, hrespond⟩ := encryptQuery_served codecLaws laws
    hkey hmagic hreq hhandler hresp.bytes hclient c { w with draws := w.draws + 1 }
  have haddr : (s.stamp suite env).addr = env.server := rfl
  have hnote : (soleUpstream (s.stamp suite env) timeout).note (.encrypt cert)
        (c, { w with draws := w.draws + 1 + 1 })
      = (.ok (), ({ c with log := c.log ++ [.encrypt cert] },
          { w with draws := w.draws + 1 + 1 })) := note_run _ c _ _
  obtain ⟨encResp, w₄, hudp, hdials, hopen⟩ := exchangeUdp_answered laws haddr hkey hclient hpacket
    hrespond hresp codecLaws { c with log := c.log ++ [.encrypt cert] }
    { w with draws := w.draws + 1 + 1 }
  rw [DnsCryptUpstream.exchangeWithCertWith_apply (pack_ok hreq.bytes) hgenerate hencrypt hnote hudp
    hopen]
  by_cases hfits : FitsUdp resp respBytes
  · rw [if_pos hfits.1, hfits.2, if_pos hfits]
    exact ⟨w₄, DnsCryptUpstream.finish_ok hcheck _, hdials⟩
  · -- UDP で届いたものには TC が立っている
    have htc : (if responseFrameSize respBytes ≤ 512 then resp
        else resp.truncate).metadata.truncation = true := by
      by_cases hsmall : responseFrameSize respBytes ≤ 512
      · rw [if_pos hsmall]
        by_contra htc
        exact hfits ⟨hsmall, Bool.eq_false_iff.mpr htc⟩
      · rw [if_neg hsmall]
        rfl
    obtain ⟨whole, w₅, htcp, hdials', hopen'⟩ := exchangeTcp_answered laws haddr hkey hclient
      hpacket hrespond hresp { c with log := c.log ++ [.encrypt cert] } w₄
    rw [if_pos htc, Async.bind_ok htcp, hopen', Async.lift_bind_ok, if_neg hfits]
    exact ⟨w₅, DnsCryptUpstream.finish_ok hcheck _, by rw [hdials', hdials]⟩

variable (env s timeout) in
/-- 同じ service の証明書で問い合わせるとき。 -/
theorem exchangeWithCert_run (codecLaws : codec.Laws) (laws : suite.Laws)
    (hreq : SendsQuery codec env.server req reqBytes) (hhandler : handler req = .ok resp)
    (hresp : SendsResponse codec env.client resp respBytes) {check : Message → Outcome DohError Unit}
    (hcheck : check resp = .ok ()) (c : CertState) (w : Link) :
    ∃ w', (soleUpstream (s.stamp suite env) timeout).exchangeWithCertWith codec suite
        (clientNet env codec suite (s.config suite) handler).onSnd (s.cert suite) check req (c, w)
      = (.ok resp, ({ c with log := c.log ++ [.encrypt (s.cert suite)] }, w')) ∧
      w'.dials = w.dials + if FitsUdp resp respBytes then 0 else 1 :=
  exchangeWithCert_served env s timeout codecLaws laws rfl rfl hreq hhandler hresp hcheck c w

end

/-! ## 結論 -/

/-- `ResolverConfig::stamp` から作った upstream が、listener に一度問い合わせた記録。 -/
def linkRecord (env : LinkEnv) (codec : Codec) (suite : CryptoSuite) (s : DnsCryptService)
    (handler : Message → Except DohError Message) (timeout : Option Duration) (req : Message)
    (cached : Option Certificate) (w : Link) : ExchangeRecord Link :=
  exchangeRecord codec suite (clientNet env codec suite (s.config suite) handler)
    (s.stamp suite env) timeout req (cached, w)

/--
**`stamp` から作った upstream は、同じ鍵の listener から handler の応答をそのまま受け取る。**

証明書は、取ってなければ素の TXT query で取る。暗号化した packet が証明書の query と
取り違えられることは無い。応答は、UDP で足りれば UDP から、足りなければ TCP から来る。
要求の frame と、切り詰めた応答の frame は、一つの datagram に載ることが要る。
-/
theorem linkRecord_spec {env : LinkEnv} {codec : Codec} {suite : CryptoSuite} {s : DnsCryptService}
    {handler : Message → Except DohError Message} (timeout : Option Duration) {req resp : Message}
    {reqBytes respBytes : Bytes} {cached : Option Certificate} (codecLaws : codec.Laws)
    (laws : suite.Laws) (hname : LegalProviderName codec (s.config suite))
    (haddr : env.std.ReadsAddr env.server) (hnow : (s.cert suite).isValidAt env.now = true)
    (hcached : cached = none ∨ cached = some (s.cert suite))
    (hreq : SendsQuery codec env.server req reqBytes) (hhandler : handler req = .ok resp)
    (hvalid : validateResponse codec req resp = .ok ())
    (hresp : SendsResponse codec env.client resp respBytes) (w : Link) :
    parseDnscryptStamp env.std (s.resolver.stamp suite env.std env.server)
        = .ok (s.stamp suite env) ∧
      (∀ clientPublicKey clientNonce ciphertext,
        tryAnswerProviderTxt codec
          (queryFrame (s.cert suite).clientMagic clientPublicKey clientNonce ciphertext)
          (s.config suite) = none) ∧
      (linkRecord env codec suite s handler timeout req cached w).result = .ok resp ∧
      (linkRecord env codec suite s handler timeout req cached w).events
        = (if cached = none then [.fetch] else []) ++ [.encrypt (s.cert suite)] ∧
      (linkRecord env codec suite s handler timeout req cached w).after.1 = some (s.cert suite) ∧
      (linkRecord env codec suite s handler timeout req cached w).after.2.dials
        = w.dials + if FitsUdp resp respBytes then 0 else 1 := by
  have hstamp : parseDnscryptStamp env.std (s.resolver.stamp suite env.std env.server)
      = .ok (s.stamp suite env) := parse_buildStamp _ haddr.parse haddr.length hname.length
  obtain ⟨w₁, hcurrent, hdials₁⟩ :=
    currentCert_run handler timeout codecLaws laws hname hnow hcached [] w
  obtain ⟨w₂, hexchange, hdials₂⟩ := exchangeWithCert_run env s timeout codecLaws laws hreq hhandler
    hresp hvalid
    ⟨some (s.cert suite), [] ++ if cached = none then [.fetch] else []⟩ w₁
  have hrun : (Upstream.dnsCrypt (soleUpstream (s.stamp suite env) timeout)).exchange codec suite
        (clientNet env codec suite (s.config suite) handler).onSnd req ({ cert := cached, log := [] }, w)
      = (.ok resp, (⟨some (s.cert suite),
          (if cached = none then [.fetch] else []) ++ [.encrypt (s.cert suite)]⟩, w₂)) := by
    refine Async.timeout_ok ?_
    unfold DnsCryptUpstream.attemptWith
    rw [Async.bind_ok hcurrent]
    exact Async.handle_ok hexchange
  refine ⟨hstamp, fun _ _ _ => tryAnswerProviderTxt_queryFrame codecLaws _ _ _, ?_⟩
  unfold linkRecord exchangeRecord
  rw [hrun]
  exact ⟨rfl, rfl, rfl, by rw [hdials₂, hdials₁]⟩

/-! ## 一つの server -/

/-- 宛先の綴りが一つだけの `StdText`。 -/
def loopbackText : StdText :=
  { StdText.none with
    toString := fun _ => "127.0.0.1:443"
    parseSocketAddr := fun s =>
      if s = "127.0.0.1:443" then some { ip := .v4 0x7F000001, port := 443 } else Option.none }

def loopbackEnv : LinkEnv where
  std := loopbackText
  server := { ip := .v4 0x7F000001, port := 443 }
  client := { ip := .v4 0x7F000001, port := 40000 }
  now := 100
  coins k n := ⟨List.replicate n (UInt8.ofNat (k + 1)), List.length_replicate⟩

theorem loopback_readsAddr : loopbackEnv.std.ReadsAddr loopbackEnv.server :=
  ⟨by decide, by decide⟩

/-- 末尾の `.` の無い provider `a` の server。証明書は 0 秒から 1000 秒までである。 -/
def serviceA : DnsCryptService where
  resolver :=
    { providerName := "a"
      providerSigningKey := Block.zeros 32
      resolverSecretKey := Block.zeros 32 }
  serial := 1
  tsStart := 0
  tsEnd := 1000

/-- 要求を応答にして返す。 -/
def echo (req : Message) : Message :=
  { req with metadata := { req.metadata with messageType := .response } }

/-- test の `echo_handler`。 -/
def echoHandler (req : Message) : Except DohError Message := .ok (echo req)

/-- `a` を `Name::from_ascii` で読んだもの。 -/
def relativeA : Name := ⟨[[97]], false⟩

/-- やり取りに現れる message と、それを切り詰めたもの。 -/
def messagesA : List Message :=
  [DnsCryptUpstream.providerQuery 0 providerA,
    providerTxtReply (serviceA.config CryptoSuite.trivial) 0
      { name := providerA, queryType := RecordType.TXT },
    queryA.setId 0, (echo queryA).setId 0].flatMap fun m => [m, m.truncate]

theorem encodable_messagesA : Encodable messagesA where
  distinct := by decide +kernel
  queries := by decide +kernel
  truncate := by decide +kernel

/-- 長い message も加えた `Codec`。 -/
def codecA (more : List Message) : Codec := listCodec [("a", relativeA)] (messagesA ++ more)

section

variable {more : List Message}

theorem codecA_toBytes {m : Message} (h : (m.setId 0).rooted ∈ messagesA) :
    (codecA more).toBytes m = .ok m.encode :=
  listCodec_toBytes_iff.mpr ⟨List.mem_append_left _ h, rfl⟩

variable (h : Encodable (messagesA ++ more))

include h

theorem codecA_laws : (codecA more).Laws := listCodec_laws h (by decide)

theorem codecA_roundTrips {m : Message} (hm : m.rooted = m) : (codecA more).RoundTrips m :=
  listCodec_roundTrips h hm

theorem codecA_reads {m : Message} (hm : (m.setId 0).rooted ∈ messagesA) :
    ∃ b, (codecA more).toBytes m = .ok b ∧ (codecA more).fromBytes b = .ok m.rooted :=
  ⟨_, codecA_toBytes hm, listCodec_reads h (codecA_toBytes hm)⟩

/-- 末尾の `.` の無い名前も、証明書の query に使える。 -/
theorem relativeA_legal :
    LegalProviderName (codecA more) (serviceA.config CryptoSuite.trivial) where
  length := by decide
  parse := by
    refine ⟨relativeA, rfl, fun id => codecA_reads h ?_, fun id => codecA_reads h ?_⟩
    · show DnsCryptUpstream.providerQuery 0 providerA ∈ messagesA
      decide +kernel
    · show providerTxtReply (serviceA.config CryptoSuite.trivial) 0
        { name := providerA, queryType := RecordType.TXT } ∈ messagesA
      decide +kernel

/-- `a.` の A の query を送れる。 -/
theorem sendsQuery_queryA : SendsQuery (codecA more) loopbackEnv.server queryA queryA.encode where
  bytes := codecA_toBytes (by decide +kernel)
  round := codecA_roundTrips h rfl
  frame := by decide +kernel

/-- その応答を返せる。 -/
theorem sendsResponse_echo :
    SendsResponse (codecA more) loopbackEnv.client (echo queryA) (echo queryA).encode where
  bytes := codecA_toBytes (by decide +kernel)
  round := codecA_roundTrips h rfl
  roundTruncated := codecA_roundTrips h rfl
  frame := by decide +kernel
  datagram := by
    intro b hb
    obtain ⟨-, rfl⟩ := listCodec_toBytes_iff.mp hb
    decide +kernel

end

/-- 何も溜まっていない状態。 -/
def Link.empty : Link where
  draws := 0
  datagrams := []
  toServer := []
  toClient := []
  dials := 0

theorem encodable_nil : Encodable (messagesA ++ []) := by
  rw [List.append_nil]
  exact encodable_messagesA

/-- `a.` の A の応答を、証明書を取るところから UDP だけで受け取る。 -/
theorem linkRecord_spec_echo :
    (linkRecord loopbackEnv (codecA []) CryptoSuite.trivial serviceA echoHandler
        (some (Duration.fromSecs 5)) queryA none Link.empty).result = .ok (echo queryA) ∧
      (linkRecord loopbackEnv (codecA []) CryptoSuite.trivial serviceA echoHandler
        (some (Duration.fromSecs 5)) queryA none Link.empty).after.2.dials = 0 := by
  have hhandler : echoHandler queryA = .ok (echo queryA) := rfl
  have hspec := linkRecord_spec (some (Duration.fromSecs 5)) (codecA_laws encodable_nil)
    CryptoSuite.trivial_laws (relativeA_legal encodable_nil) loopback_readsAddr (by decide)
    (Or.inl rfl) (sendsQuery_queryA encodable_nil) hhandler rfl (sendsResponse_echo encodable_nil)
    Link.empty
  refine ⟨hspec.2.2.1, hspec.2.2.2.2.2.trans ?_⟩
  decide +kernel

/-! ## 長い要求 -/

/-- frame が datagram に載らない query は、どの証明書でも送れない。 -/
theorem exchangeWithCert_long {env : LinkEnv} {codec : Codec} {suite : CryptoSuite}
    {s : DnsCryptService} (handler : Message → Except DohError Message)
    (timeout : Option Duration) {req : Message} {reqBytes : Bytes} (laws : suite.Laws)
    (hreq : codec.toBytes req = .ok reqBytes)
    (hlong : env.server.maxDatagram < queryFrameSize reqBytes)
    (check : Message → Outcome DohError Unit) (c : CertState) (w : Link) :
    ∃ t, (soleUpstream (s.stamp suite env) timeout).exchangeWithCertWith codec suite
        (clientNet env codec suite (s.config suite) handler).onSnd (s.cert suite) check req (c, w)
      = (.err (.io emsgsize), t) := by
  obtain ⟨client, hclient, hgenerate⟩ : ∃ client : ClientKeyPair,
      client.publicKey = suite.publicKey client.secretKey ∧
      ClientKeyPair.generate suite (clientNet env codec suite (s.config suite) handler).onSnd (c, w)
        = (.ok client, (c, { w with draws := w.draws + 1 })) := ⟨_, rfl, rfl⟩
  obtain ⟨packet, clientNonce, hencrypt, hpacket⟩ : ∃ packet clientNonce,
      encryptQuery suite (clientNet env codec suite (s.config suite) handler).onSnd (s.cert suite)
          client reqBytes (c, { w with draws := w.draws + 1 })
        = (.ok (packet, clientNonce), (c, { w with draws := w.draws + 1 + 1 })) ∧
      packet.length = queryFrameSize reqBytes := by
    have hkey : (s.cert suite).resolverPublicKey
        = suite.publicKey s.resolver.resolverSecretKey := rfl
    obtain ⟨ct, hencrypt, hctLen, -⟩ := encryptQuery_spec laws
      (clientNet env codec suite (s.config suite) handler).onSnd hkey hclient reqBytes
      (c, { w with draws := w.draws + 1 })
    exact ⟨_, _, hencrypt, by rw [queryFrame_length, hctLen]; rfl⟩
  unfold DnsCryptUpstream.exchangeWithCertWith
  rw [pack_ok hreq, Async.lift_bind_ok, Async.bind_ok hgenerate, Async.bind_ok hencrypt]
  dsimp only
  rw [Async.bind_ok (note_run _ c _ _)]
  exact ⟨_, Async.bind_err (exchangeUdp_long rfl (by omega) _ _)⟩

/-- **frame が datagram に載らない要求は、証明書を取り直しても、`EMSGSIZE` で失敗する。** -/
theorem linkRecord_long {env : LinkEnv} {codec : Codec} {suite : CryptoSuite} {s : DnsCryptService}
    {handler : Message → Except DohError Message} {timeout : Option Duration} {req : Message}
    {reqBytes : Bytes} {cached : Option Certificate} (codecLaws : codec.Laws) (laws : suite.Laws)
    (hname : LegalProviderName codec (s.config suite))
    (hnow : (s.cert suite).isValidAt env.now = true)
    (hcached : cached = none ∨ cached = some (s.cert suite))
    (hreq : codec.toBytes req = .ok reqBytes)
    (hlong : env.server.maxDatagram < queryFrameSize reqBytes) (w : Link) :
    (linkRecord env codec suite s handler timeout req cached w).result = .err (.io emsgsize) := by
  obtain ⟨w₁, hcurrent, -⟩ :=
    currentCert_run handler timeout codecLaws laws hname hnow hcached [] w
  obtain ⟨⟨c₂, w₂⟩, hfirst⟩ := exchangeWithCert_long handler timeout laws hreq hlong
    (validateResponse codec req)
    ⟨some (s.cert suite), [] ++ if cached = none then [.fetch] else []⟩ w₁
  -- 失敗は `Io` なので、証明書を取り直してもう一度送る
  have hrefresh : (soleUpstream (s.stamp suite env) timeout).refreshCert codec suite
      (clientNet env codec suite (s.config suite) handler).onSnd (c₂, w₂)
      = (.ok (s.cert suite), ({ cert := some (s.cert suite), log := c₂.log ++ [.fetch] },
          { w₂ with draws := w₂.draws + 1, datagrams := [] })) :=
    refreshCert_run codecLaws laws hname hnow c₂ w₂
  obtain ⟨t, hsecond⟩ := exchangeWithCert_long handler timeout laws hreq hlong
    (validateResponse codec req) { cert := some (s.cert suite), log := c₂.log ++ [.fetch] }
    { w₂ with draws := w₂.draws + 1, datagrams := [] }
  have hattempt : (soleUpstream (s.stamp suite env) timeout).attemptWith codec suite
      (clientNet env codec suite (s.config suite) handler).onSnd (validateResponse codec req) req
      ({ cert := cached, log := [] }, w) = (.err (.io emsgsize), t) := by
    unfold DnsCryptUpstream.attemptWith
    rw [Async.bind_ok hcurrent, Async.handle_err hfirst]
    exact (Async.bind_ok hrefresh).trans hsecond
  exact congrArg Prod.fst (Async.timeout_err hattempt)

/-- EDNS の option を付けた `a.` の A の query。 -/
def paddedQuery (options : Bytes) : Message := { queryA with edns := some { options } }

theorem paddedQuery_wireSize (options : Bytes) :
    (paddedQuery options).wireSize = 30 + options.length := by
  show 12 + 7 + 0 + (11 + options.length + 0) = _
  omega

theorem paddedQuery_truncate (options : Bytes) :
    ((paddedQuery options).setId 0).truncate.wireSize = 30 + options.length :=
  paddedQuery_wireSize options

theorem validateResponse_padded (codec : Codec) (options : Bytes) :
    validateResponse codec (paddedQuery options) (echo queryA) = .ok () := rfl

/-- 長さ 65396 の padding option。 -/
def longPadding : Bytes := [0, 12, 0xFF, 0x74] ++ List.replicate 65396 0

theorem longPadding_length : longPadding.length = 65400 := by
  rw [longPadding, List.length_append, List.length_replicate]
  rfl

/-- 全体で 65430 byte になる query と、それを切り詰めたもの。ID は 0 である。 -/
def longMessages : List Message :=
  [(paddedQuery longPadding).setId 0, ((paddedQuery longPadding).setId 0).truncate]

theorem encodable_longMessages : Encodable (messagesA ++ longMessages) := by
  refine encodable_messagesA.concat (by decide) ?_ (by decide)
  intro m hm
  have hsmall : m.wireSize < 1000 := by
    have hall : ∀ m ∈ messagesA, m.wireSize < 1000 := by decide +kernel
    exact hall m hm
  rw [paddedQuery_truncate, longPadding_length]
  omega

/-- どの要求にも `a.` の A の応答を返す handler。 -/
def fixedHandler (_ : Message) : Except DohError Message := .ok (echo queryA)

/-- 65430 byte の要求は送れず、短い応答でさえ返ってこない。 -/
theorem long_query_unanswered :
    (paddedQuery longPadding).queries.length = 1 ∧
      (codecA longMessages).Laws ∧ CryptoSuite.trivial.Laws ∧
      LegalProviderName (codecA longMessages) (serviceA.config CryptoSuite.trivial) ∧
      loopbackEnv.std.ReadsAddr loopbackEnv.server ∧
      (serviceA.cert CryptoSuite.trivial).isValidAt loopbackEnv.now = true ∧
      (∃ reqBytes, (codecA longMessages).toBytes (paddedQuery longPadding) = .ok reqBytes) ∧
      (codecA longMessages).RoundTrips (paddedQuery longPadding) ∧
      fixedHandler (paddedQuery longPadding) = .ok (echo queryA) ∧
      validateResponse (codecA longMessages) (paddedQuery longPadding) (echo queryA) = .ok () ∧
      SendsResponse (codecA longMessages) loopbackEnv.client (echo queryA) (echo queryA).encode ∧
      (linkRecord loopbackEnv (codecA longMessages) CryptoSuite.trivial serviceA fixedHandler
        (some (Duration.fromSecs 5)) (paddedQuery longPadding) none Link.empty).result
        = .err (.io emsgsize) := by
  have hreq : (codecA longMessages).toBytes (paddedQuery longPadding)
      = .ok (paddedQuery longPadding).encode :=
    listCodec_toBytes_iff.mpr ⟨List.mem_append_right _ List.mem_cons_self, rfl⟩
  have hlen : (paddedQuery longPadding).encode.length = 65430 := by
    rw [Message.encode_length, paddedQuery_wireSize, longPadding_length]
  have hlong : 65535 < queryFrameSize (paddedQuery longPadding).encode :=
    queryFrameSize_gt (by rw [hlen]; decide)
  have hmax := loopbackEnv.server.maxDatagram_le
  have hvalid : (serviceA.cert CryptoSuite.trivial).isValidAt loopbackEnv.now = true := by decide
  have hlaws := codecA_laws encodable_longMessages
  have hname := relativeA_legal encodable_longMessages
  refine ⟨by decide, hlaws, CryptoSuite.trivial_laws, hname, loopback_readsAddr, hvalid, ⟨_, hreq⟩,
    codecA_roundTrips encodable_longMessages rfl, rfl, validateResponse_padded _ _,
    sendsResponse_echo encodable_longMessages, ?_⟩
  exact linkRecord_long hlaws CryptoSuite.trivial_laws hname hvalid (Or.inl rfl) hreq (by omega)
    Link.empty

end DnsProxy
