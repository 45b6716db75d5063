import DnsProxy.Properties.DnsCryptLink

/-!
# UDP の応答の大きさ

素の listener と DNSCrypt の listener は、512 byte を超える応答の代わりに切り詰めた応答を送る。
切り詰めたものの大きさはもう確かめられない。`truncate` は EDNS の OPT を残すので、padding などの
option が長ければ、切り詰めても 512 byte を超える。

送る datagram が 512 byte に収まるのは、question と OPT だけの message が

* 素の listener では 512 byte
* DNSCrypt では 447 byte（48 byte の枠と、64 byte ごとの詰め物を除いた分）

に収まるとき、かつそのときに限る（`udp_datagrams_fit_iff`）。
-/

namespace DnsProxy

open Infra

variable {W : Type}

/-! ## 送られた datagram -/

/-- 送った datagram を記録する世界。 -/
def sendingNet (net : Net W) : Net (List Bytes × W) :=
  { net.onSnd with
    udpSendTo := fun socket b peer t =>
      ((net.udpSendTo socket b peer t.2).1, (t.1 ++ [b], (net.udpSendTo socket b peer t.2).2)) }

/-- 素の listener が、一つの packet に対して送る datagram。 -/
def udpDatagrams (codec : Codec) (net : Net W) (socket : Nat) (packet : Bytes) (peer : SocketAddr)
    (handler : Handler W) (w : W) : List Bytes :=
  (handleUdpPacket codec (sendingNet net) socket packet peer handler.onSnd
    ([], w)).2.1

/-- DNSCrypt の listener が、一つの packet に対して送る datagram。 -/
def dnsCryptDatagrams (codec : Codec) (suite : CryptoSuite) (net : Net W) (socket : Nat)
    (packet : Bytes) (peer : SocketAddr) (config : DnsCryptServerConfig) (handler : Handler W)
    (w : W) : List Bytes :=
  (handleDnsCryptUdp codec suite (sendingNet net) socket packet peer config
    handler.onSnd ([], w)).2.1

/-- handler の応答 `r` そのものか、ID と question を残して TC を立て、record を捨てたもの。 -/
def Conveys (r m : Message) : Prop :=
  m = r ∨ m.metadata.id = r.metadata.id ∧ m.queries = r.queries ∧ m.metadata.truncation = true ∧
    m.answers = [] ∧ m.authorities = [] ∧ m.additionals = []

theorem conveys_truncate (r : Message) : Conveys r r.truncate :=
  Or.inr ⟨rfl, rfl, rfl, rfl, rfl, rfl⟩

/-- datagram は 512 byte に収まり、`open?` で解いて読むと `r` かその切り詰めである。 -/
def Delivers (codec : Codec) (open? : Bytes → Outcome DohError Bytes) (r : Message)
    (datagram : Bytes) : Prop :=
  datagram.length ≤ 512 ∧
    ∃ b m, open? datagram = .ok b ∧ codec.fromBytes b = .ok m ∧ Conveys r m

section

variable {codec : Codec} {suite : CryptoSuite} {net : Net W} {r : Message} {b b' : Bytes}

/-- 書いたものが 512 byte を超えれば、切り詰めて書き直す。 -/
theorem packUdp_eq (hb : codec.toBytes r = .ok b) (hb' : codec.toBytes r.truncate = .ok b') :
    packUdp codec r = .ok (if b.length > 512 then b' else b) := by
  unfold packUdp
  rw [pack_ok hb, Outcome.ok_bind, pack_ok hb']
  split <;> rfl

/-- 送る datagram はちょうど一つである。 -/
theorem udpDatagrams_eq {packet d : Bytes} {req : Message} {handler : Handler W} {w w' : W}
    (hreq : codec.fromBytes packet = .ok req) (hr : handler req w = (.ok r, w'))
    (hd : packUdp codec r = .ok d) (socket : Nat) (peer : SocketAddr) :
    udpDatagrams codec net socket packet peer handler w = [d] := by
  have hrun : handler.onSnd req (([], w) : List Bytes × W) = (.ok r, ([], w')) :=
    Async.onSnd_apply hr
  have hsend : Async.Moves (fun s t : List Bytes × W => t.1 = s.1 ++ [d])
      (io ((sendingNet net).udpSendTo socket d peer)) := Async.Moves.call fun s => rfl
  unfold udpDatagrams handleUdpPacket
  rw [unpack_ok hreq, Async.lift_bind_ok, Async.bind_ok hrun, hd, Async.lift_bind_ok]
  exact hsend ([], w')

/-- 暗号化された query に送る datagram も、ちょうど一つである。 -/
theorem dnsCryptDatagrams_eq {packet framed respBytes : Bytes} {config : DnsCryptServerConfig}
    {handler : Handler W} {clientPublicKey : Block 32} {clientNonce : Block 12} {w w' : W}
    {t : List Bytes × W} (ht : t.1 = [])
    (hrespond : respond codec suite packet config handler.onSnd
      (([], w) : List Bytes × W) = (.ok (.encrypted clientPublicKey clientNonce respBytes), ([], w')))
    (hframed : encryptUdp codec suite (sendingNet net) config clientPublicKey clientNonce respBytes
      ([], w') = (.ok framed, t)) (socket : Nat) (peer : SocketAddr) :
    dnsCryptDatagrams codec suite net socket packet peer config handler w = [framed] := by
  have hsend : Async.Moves (fun s t : List Bytes × W => t.1 = s.1 ++ [framed])
      (io ((sendingNet net).udpSendTo socket framed peer)) := Async.Moves.call fun s => rfl
  have hsent : (io ((sendingNet net).udpSendTo socket framed peer) t).2.1 = [framed] :=
    (hsend t).trans (by rw [ht, List.nil_append])
  unfold dnsCryptDatagrams handleDnsCryptUdp
  rw [Async.bind_ok hrespond]
  dsimp only
  rw [Async.bind_ok hframed]
  exact hsent

/-- 447 byte までの message は、枠と詰め物を入れて 512 byte に収まる。 -/
theorem responseFrameSize_le_iff (msg : Bytes) : responseFrameSize msg ≤ 512 ↔ msg.length ≤ 447 := by
  unfold responseFrameSize
  rw [pad_length]
  omega

/-- 大きい方が収まらなければ小さい方を選ぶなら、選んだ方が収まるのは小さい方が収まるときである。 -/
theorem choose_fits (size : Bytes → Nat) {n : Nat} (hle : size b' ≤ size b) :
    size (if size b ≤ n then b else b') ≤ n ↔ size b' ≤ n := by
  split
  · next h => exact ⟨fun _ => by omega, fun _ => h⟩
  · exact Iff.rfl

/-- 選んだ方は、`r` かその切り詰めに読める。 -/
theorem choose_conveys (hround : codec.RoundTrips r) (hround' : codec.RoundTrips r.truncate)
    (hb : codec.toBytes r = .ok b) (hb' : codec.toBytes r.truncate = .ok b') (p : Prop)
    [Decidable p] : ∃ m, codec.fromBytes (if p then b else b') = .ok m ∧ Conveys r m := by
  split
  · exact ⟨r, hround _ hb, Or.inl rfl⟩
  · exact ⟨r.truncate, hround' _ hb', conveys_truncate r⟩

section

variable (codecLaws : codec.Laws) (hround : codec.RoundTrips r)
  (hround' : codec.RoundTrips r.truncate)
  (hsize : ∀ (m : Message) b, m.queries.length = 1 → codec.toBytes m.truncate = .ok b →
    b.length = m.truncate.wireSize)
  (hone : r.queries.length = 1) (hb : codec.toBytes r = .ok b)

include codecLaws hround hround' hsize hone hb

theorem udpDatagrams_deliver_iff {packet : Bytes} {req : Message} {handler : Handler W} {w w' : W}
    (hreq : codec.fromBytes packet = .ok req) (hr : handler req w = (.ok r, w')) (socket : Nat)
    (peer : SocketAddr) :
    (∀ d ∈ udpDatagrams codec net socket packet peer handler w, Delivers codec .ok r d) ↔
      r.truncate.wireSize ≤ 512 := by
  obtain ⟨b', hb', hle⟩ := codecLaws.truncate r b hb
  have hpack : packUdp codec r = .ok (if b.length ≤ 512 then b else b') := by
    rw [packUdp_eq hb hb']
    split <;> split <;> first | rfl | omega
  rw [udpDatagrams_eq hreq hr hpack, List.forall_mem_singleton, ← hsize r b' hone hb',
    ← choose_fits List.length hle]
  refine ⟨fun h => h.1, fun h => ⟨h, ?_⟩⟩
  obtain ⟨m, hm, hconv⟩ := choose_conveys hround hround' hb hb' (b.length ≤ 512)
  exact ⟨_, m, rfl, hm, hconv⟩

theorem dnsCryptDatagrams_deliver_iff (suiteLaws : suite.Laws) {packet reqBytes : Bytes}
    {config : DnsCryptServerConfig} {req : Message} {handler : Handler W} {w w' : W}
    {cert : Certificate} {client : ClientKeyPair} {clientNonce : Block 12}
    (hcert : cert.resolverPublicKey = suite.publicKey config.resolverSecretKey)
    (hclient : client.publicKey = suite.publicKey client.secretKey)
    (hnone : tryAnswerProviderTxt codec packet config = none)
    (hdecrypt : decryptQuery suite config.resolverSecretKey config.clientMagic packet
      = .ok (reqBytes, client.publicKey, clientNonce))
    (hreq : codec.fromBytes reqBytes = .ok req) (hr : handler req w = (.ok r, w')) (socket : Nat)
    (peer : SocketAddr) :
    (∀ d ∈ dnsCryptDatagrams codec suite net socket packet peer config handler w,
        Delivers codec (decryptResponse suite cert client clientNonce) r d) ↔
      r.truncate.wireSize ≤ 447 := by
  obtain ⟨b', hb', hle⟩ := codecLaws.truncate r b hb
  have hrun : handler.onSnd req (([], w) : List Bytes × W) = (.ok r, ([], w')) :=
    Async.onSnd_apply hr
  obtain ⟨framed, t, hframed, ht, hlen, hopen⟩ := encryptUdp_spec suiteLaws (sendingNet net) hcert
    hclient clientNonce (hround _ hb) hb' ([], w')
  -- 乱数を引いても、記録は変わらない
  have hsent : t.1 = [] := by
    rcases ht with rfl | rfl <;> rfl
  rw [dnsCryptDatagrams_eq hsent (respond_run hnone hdecrypt hreq hrun hb) hframed,
    List.forall_mem_singleton, ← hsize r b' hone hb', ← responseFrameSize_le_iff,
    ← choose_fits responseFrameSize (responseFrameSize_mono hle), ← hlen]
  refine ⟨fun h => h.1, fun h => ⟨h, ?_⟩⟩
  obtain ⟨m, hm, hconv⟩ := choose_conveys hround hround' hb hb' (responseFrameSize b ≤ 512)
  exact ⟨_, m, hopen, hm, hconv⟩

end

end

/--
**UDP の datagram が 512 byte に収まって読めるのは、question と OPT だけの message が収まるとき、
かつそのときに限る。** 素の listener では 512 byte、DNSCrypt では 447 byte が境である。

`hsize` は、名前が一つしか無い message は圧縮されないことを言う。
-/
theorem udp_datagrams_fit_iff {codec : Codec} {suite : CryptoSuite} (codecLaws : codec.Laws)
    (hsize : ∀ (m : Message) b, m.queries.length = 1 → codec.toBytes m.truncate = .ok b →
      b.length = m.truncate.wireSize) (suiteLaws : suite.Laws) (net : Net W) {r : Message} {b : Bytes}
    (hround : codec.RoundTrips r) (hround' : codec.RoundTrips r.truncate)
    (hone : r.queries.length = 1) (hb : codec.toBytes r = .ok b) :
    (∀ (socket : Nat) (packet : Bytes) (peer : SocketAddr) (handler : Handler W) (w w' : W)
        (req : Message), codec.fromBytes packet = .ok req → handler req w = (.ok r, w') →
      ((∀ d ∈ udpDatagrams codec net socket packet peer handler w, Delivers codec .ok r d) ↔
        r.truncate.wireSize ≤ 512)) ∧
    (∀ (socket : Nat) (packet : Bytes) (peer : SocketAddr) (config : DnsCryptServerConfig)
        (handler : Handler W) (w w' : W) (cert : Certificate) (client : ClientKeyPair)
        (clientNonce : Block 12) (reqBytes : Bytes) (req : Message),
      cert.resolverPublicKey = suite.publicKey config.resolverSecretKey →
      client.publicKey = suite.publicKey client.secretKey →
      tryAnswerProviderTxt codec packet config = none →
      decryptQuery suite config.resolverSecretKey config.clientMagic packet
        = .ok (reqBytes, client.publicKey, clientNonce) →
      codec.fromBytes reqBytes = .ok req → handler req w = (.ok r, w') →
      ((∀ d ∈ dnsCryptDatagrams codec suite net socket packet peer config handler w,
          Delivers codec (decryptResponse suite cert client clientNonce) r d) ↔
        r.truncate.wireSize ≤ 447)) := by
  constructor
  · intro socket packet peer handler w w' req hreq hr
    exact udpDatagrams_deliver_iff codecLaws hround hround' hsize hone hb hreq hr socket peer
  · intro socket packet peer config handler w w' cert client clientNonce reqBytes req hcert hclient
      hnone hdecrypt hreq hr
    exact dnsCryptDatagrams_deliver_iff codecLaws hround hround' hsize hone hb suiteLaws hcert hclient
      hnone hdecrypt hreq hr socket peer

/-! ## padding の付いた応答 -/

/-- `n` byte の padding の option。 -/
def paddingOption (n : Nat) : Bytes :=
  Bytes.toBe16 12 ++ Bytes.toBe16 (UInt16.ofNat n) ++ List.replicate n 0

/-- `a.` の A の応答に、`n` byte の padding を付けたもの。 -/
def paddedReply (n : Nat) : Message :=
  { Message.new 0 .response .query with
    queries := queryA.queries
    answers := [{ name := ⟨[[97]], true⟩, ttl := 60, data := .a 0x7F000001 }]
    edns := some { options := paddingOption n } }

def queryMessages : List Message := [queryA.setId 0, (queryA.setId 0).truncate]

/-- padding の付いた応答だけを加えた `Codec`。 -/
def paddedCodec (n : Nat) : Codec :=
  listCodec [] (queryMessages ++ [paddedReply n, (paddedReply n).truncate])

theorem paddedReply_truncate_wireSize (n : Nat) : (paddedReply n).truncate.wireSize = 34 + n := by
  have hoption : (paddingOption n).length = 4 + n := by
    unfold paddingOption
    rw [List.length_append, List.length_replicate]
    rfl
  show 12 + 7 + 0 + (11 + (paddingOption n).length + 0) = _
  omega

theorem encodable_padded (n : Nat) :
    Encodable (queryMessages ++ [paddedReply n, (paddedReply n).truncate]) := by
  have hquery : Encodable queryMessages := ⟨by decide, by decide, by decide⟩
  have hflags : (Message.new 0 .response .query).metadata.flags
      ≠ (Message.new 0 .response .query).truncate.metadata.flags := by decide
  refine hquery.concat (le_refl 1) ?_ hflags
  intro m hm
  have hall : ∀ m ∈ queryMessages, m.wireSize < 34 := by decide
  have hlt := hall m hm
  rw [paddedReply_truncate_wireSize]
  omega

theorem paddedCodec_laws (n : Nat) : (paddedCodec n).Laws :=
  listCodec_laws (encodable_padded n) (by simp)

theorem paddedCodec_roundTrips (n : Nat) {m : Message} (hm : m.rooted = m) :
    (paddedCodec n).RoundTrips m := listCodec_roundTrips (encodable_padded n) hm

/-- 圧縮しないので、長さはそのまま決まる。 -/
theorem paddedCodec_size (n : Nat) (m : Message) (b : Bytes) (_ : m.queries.length = 1)
    (h : (paddedCodec n).toBytes m.truncate = .ok b) : b.length = m.truncate.wireSize := by
  obtain ⟨-, rfl⟩ := listCodec_toBytes_iff.mp h
  exact Message.encode_length _

theorem paddedCodec_reply (n : Nat) :
    (paddedCodec n).toBytes (paddedReply n) = .ok (paddedReply n).encode :=
  listCodec_toBytes_iff.mpr ⟨List.mem_append_right _ List.mem_cons_self, rfl⟩

theorem paddedCodec_query (n : Nat) : (paddedCodec n).fromBytes queryA.encode = .ok queryA :=
  paddedCodec_roundTrips n rfl _
    (listCodec_toBytes_iff.mpr ⟨List.mem_append_left _ List.mem_cons_self, rfl⟩)

/-- いつも同じ応答を返す handler。 -/
def constHandler (r : Message) : Handler Unit := fun _ => pure r

/-- 計算例の DNSCrypt の listener。 -/
def zeroKeyConfig : DnsCryptServerConfig where
  resolverSecretKey := Block.zeros 32
  providerName := "2.dnscrypt-cert.example"
  clientMagic := mainClientMagic
  certBytes := []

def zeroKeyCert : Certificate :=
  { resolverPublicKey := Block.zeros 32, clientMagic := mainClientMagic, serial := 1, tsStart := 0
    tsEnd := 1000 }

def zeroKeyClient : ClientKeyPair := ⟨Block.zeros 32, Block.zeros 32⟩

/-- 暗号化した query。 -/
def sealedQuery : Bytes :=
  queryFrame mainClientMagic (Block.zeros 32) (Block.zeros 12)
    (List.replicate 16 0 ++ pad queryA.encode)

theorem decryptQuery_sealedQuery :
    decryptQuery CryptoSuite.trivial zeroKeyConfig.resolverSecretKey zeroKeyConfig.clientMagic
      sealedQuery = .ok (queryA.encode, zeroKeyClient.publicKey, Block.zeros 12) :=
  decryptQuery_queryFrame (CryptoSuite.trivial_laws.decrypt _ _ _ _ rfl)

/-- 短い padding なら、どちらの listener の datagram も収まる。 -/
theorem udp_datagrams_fit_short :
    (paddedReply 128).queries.length = 1 ∧
      (∀ d ∈ udpDatagrams (paddedCodec 128) (Net.unreachable StdText.none) 0 queryA.encode
        sampleUdp.addr (constHandler (paddedReply 128)) (),
        Delivers (paddedCodec 128) .ok (paddedReply 128) d) ∧
      (∀ d ∈ dnsCryptDatagrams (paddedCodec 128) CryptoSuite.trivial (Net.unreachable StdText.none) 0
        sealedQuery sampleUdp.addr zeroKeyConfig (constHandler (paddedReply 128)) (),
        Delivers (paddedCodec 128)
          (decryptResponse CryptoSuite.trivial zeroKeyCert zeroKeyClient (Block.zeros 12))
          (paddedReply 128) d) := by
  have hfit := udp_datagrams_fit_iff (paddedCodec_laws 128) (paddedCodec_size 128)
    CryptoSuite.trivial_laws (Net.unreachable StdText.none : Net Unit)
    (paddedCodec_roundTrips 128 rfl) (paddedCodec_roundTrips 128 rfl) rfl (paddedCodec_reply 128)
  rw [paddedReply_truncate_wireSize] at hfit
  refine ⟨rfl, (hfit.1 0 queryA.encode sampleUdp.addr _ () () queryA (paddedCodec_query 128)
    rfl).mpr (by omega), ?_⟩
  exact (hfit.2 0 sealedQuery sampleUdp.addr zeroKeyConfig _ () () zeroKeyCert zeroKeyClient
    (Block.zeros 12) queryA.encode queryA rfl rfl
    (tryAnswerProviderTxt_queryFrame (paddedCodec_laws 128) _ _ _) decryptQuery_sealedQuery
    (paddedCodec_query 128) rfl).mpr (by omega)

/-- 500 byte の padding では、切り詰めても 512 byte を超える。 -/
theorem udp_padding_overflows :
    (paddedReply 500).queries.length = 1 ∧
      ¬ (∀ d ∈ udpDatagrams (paddedCodec 500) (Net.unreachable StdText.none) 0 queryA.encode
        sampleUdp.addr (constHandler (paddedReply 500)) (),
        Delivers (paddedCodec 500) .ok (paddedReply 500) d) ∧
      ¬ (∀ d ∈ dnsCryptDatagrams (paddedCodec 500) CryptoSuite.trivial (Net.unreachable StdText.none)
        0 sealedQuery sampleUdp.addr zeroKeyConfig (constHandler (paddedReply 500)) (),
        Delivers (paddedCodec 500)
          (decryptResponse CryptoSuite.trivial zeroKeyCert zeroKeyClient (Block.zeros 12))
          (paddedReply 500) d) := by
  refine ⟨rfl, fun h => ?_, fun h => ?_⟩
  · have hle := (udpDatagrams_deliver_iff (paddedCodec_laws 500)
      (paddedCodec_roundTrips 500 rfl) (paddedCodec_roundTrips 500 rfl) (paddedCodec_size 500) rfl
      (paddedCodec_reply 500) (paddedCodec_query 500) rfl 0 sampleUdp.addr).mp h
    rw [paddedReply_truncate_wireSize] at hle
    omega
  · have hle := (dnsCryptDatagrams_deliver_iff (paddedCodec_laws 500)
      (paddedCodec_roundTrips 500 rfl) (paddedCodec_roundTrips 500 rfl) (paddedCodec_size 500) rfl
      (paddedCodec_reply 500) CryptoSuite.trivial_laws rfl rfl
      (tryAnswerProviderTxt_queryFrame (paddedCodec_laws 500) _ _ _) decryptQuery_sealedQuery
      (paddedCodec_query 500) rfl 0 sampleUdp.addr).mp h
    rw [paddedReply_truncate_wireSize] at hle
    omega

end DnsProxy
