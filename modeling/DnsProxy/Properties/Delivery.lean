import DnsProxy.Client.Upstream

/-!
# 届いた応答

一度の往復で、socket や stream に何が届くかを、外の世界の操作の列として書く。

* `DeliversDatagram`・`DeliversFrame`・`DeliversStream`・`DeliversBody`・`DeliversH3` — 要求の byte 列を
  送った後に届く byte 列
* `Upstream.Delivers` — それを transport ごとに読んだ message。DNSCrypt では、暗号化された応答を開いて読む

検査（`validate_response`）はどこにも現れない。`exchange` が検査に掛けるのは、こうして届いた message で
ある（`Upstream.receive_ok_iff`）。
-/

namespace DnsProxy

open Infra

variable {W : Type}

/-! ## 届く byte 列 -/

/-- `addr` に繋いだ socket で `sent` を送ると、datagram `got` が届く。 -/
inductive DeliversDatagram (net : Net W) (addr : SocketAddr) (sent : Bytes) (size : Nat) (w : W) :
    Bytes → W → Prop where
  | mk {sock : Nat} {w₁ w₂ w₃ w₄ : W} {buf : { b : Bytes // b.length ≤ size }}
      (bind : net.udpBind addr.ip.isIpv4 w = (.ok sock, w₁))
      (connect : net.udpConnect sock addr w₁ = (.ok (), w₂))
      (send : net.udpSend sock sent w₂ = (.ok (), w₃))
      (recv : net.udpRecv sock size w₃ = (.ok buf, w₄)) :
      DeliversDatagram net addr sent size w buf.1 w₄

/-- stream に長さを付けて `sent` を書くと、長さの付いた `got` が届く。 -/
inductive DeliversFrame (net : Net W) (stream : Nat) (sent : Bytes) (w : W) : Bytes → W → Prop where
  | mk {w₁ w₂ w₃ w₄ : W} {lenBuf : Block 2} {buf : Block lenBuf.be16.toNat}
      (len : net.writeAll stream (Bytes.toBe16 (UInt16.ofNat sent.length)) w = (.ok (), w₁))
      (body : net.writeAll stream sent w₁ = (.ok (), w₂))
      (head : net.readExact stream 2 w₂ = (.ok lenBuf, w₃))
      (read : net.readExact stream lenBuf.be16.toNat w₃ = (.ok buf, w₄)) :
      DeliversFrame net stream sent w buf.1 w₄

/-- QUIC の connection に開いた stream で、長さの付いた `got` が届く。 -/
inductive DeliversStream (net : Net W) (conn : Nat) (sent : Bytes) (w : W) : Bytes → W → Prop where
  | mk {stream : Nat} {w₁ w₂ w₃ w₄ w₅ w₆ : W} {lenBuf : Block 2} {buf : Block lenBuf.be16.toNat}
      (opened : net.quicOpenBi conn w = (.ok stream, w₁))
      (len : net.writeAll stream (Bytes.toBe16 (UInt16.ofNat sent.length)) w₁ = (.ok (), w₂))
      (body : net.writeAll stream sent w₂ = (.ok (), w₃))
      (finish : net.quicFinish stream w₃ = (.ok (), w₄))
      (head : net.readExact stream 2 w₄ = (.ok lenBuf, w₅))
      (read : net.readExact stream lenBuf.be16.toNat w₅ = (.ok buf, w₆)) :
      DeliversStream net conn sent w buf.1 w₆

/-- HTTP/1.1 か HTTP/2 で送った GET に、成功の状態 code と 65535 byte までの本文が届く。 -/
inductive DeliversBody (net : Net W) (client : HttpClient) (timeout : Option Duration)
    (httpReq : HttpRequest) (w : W) : Bytes → W → Prop where
  | mk {status bodyId : Nat} {w₁ w₂ : W} {body : Bytes}
      (request : client.request net timeout httpReq w = (.ok (status, bodyId), w₁))
      (collect : net.httpCollect bodyId w₁ = (.ok body, w₂)) (success : isSuccess status = true)
      (fits : body.length ≤ 65535) : DeliversBody net client timeout httpReq w body w₂

/-- HTTP/3 で送った GET に、成功の状態 code と 65535 byte までの本文が届く。 -/
inductive DeliversH3 (net : Net W) (sender : Nat) (httpReq : HttpRequest) (w : W) :
    Bytes → W → Prop where
  | mk {stream status : Nat} {w₁ w₂ w₃ w₄ : W} {recv : H3Body}
      (request : net.h3SendRequest sender httpReq w = (.ok stream, w₁))
      (finish : net.h3Finish stream w₁ = (.ok (), w₂))
      (response : net.h3RecvResponse stream w₂ = (.ok status, w₃)) (success : isSuccess status = true)
      (data : net.h3RecvData stream w₃ = (recv, w₄)) (ended : recv.ending = .ok ())
      (fits : recv.chunks.flatten.length ≤ 65535) :
      DeliversH3 net sender httpReq w recv.chunks.flatten w₄

/-! ### code の読み書きとの関係 -/

section

variable {net : Net W} {w w' : W} {b : Bytes}

/-- 一つの datagram を送り、一つ受け取る。 -/
theorem datagram_ok_iff {α : Type} {addr : SocketAddr} {sent : Bytes} {size : Nat}
    {k : Bytes → Async W DohError α} {a : α} :
    (do
      let sock ← io (net.udpBind addr.ip.isIpv4)
      io (net.udpConnect sock addr)
      io (net.udpSend sock sent)
      let buf ← io (net.udpRecv sock size)
      k buf.1) w = (.ok a, w') ↔
      ∃ b w₁, DeliversDatagram net addr sent size w b w₁ ∧ k b w₁ = (.ok a, w') := by
  simp only [io, Async.bind_ok_iff, Async.call_ok_iff]
  constructor
  · rintro ⟨sock, w₁, hbind, ⟨⟩, w₂, hconnect, ⟨⟩, w₃, hsend, buf, w₄, hrecv, hk⟩
    exact ⟨buf.1, w₄, .mk hbind hconnect hsend hrecv, hk⟩
  · rintro ⟨b, w₁, hnet, hk⟩
    cases hnet with
    | mk hbind hconnect hsend hrecv =>
      exact ⟨_, _, hbind, (), _, hconnect, (), _, hsend, _, _, hrecv, hk⟩

theorem exchangeFramed_ok_iff {stream : Nat} {sent : Bytes} :
    exchangeFramed net stream sent w = (.ok b, w') ↔ DeliversFrame net stream sent w b w' := by
  unfold exchangeFramed
  simp only [io, Async.bind_ok_iff, Async.call_ok_iff]
  constructor
  · rintro ⟨⟨⟩, w₁, hlen, ⟨⟩, w₂, hbody, lenBuf, w₃, hhead, buf, w₄, hread, hok⟩
    cases hok
    exact .mk hlen hbody hhead hread
  · rintro (⟨hlen, hbody, hhead, hread⟩)
    exact ⟨(), _, hlen, (), _, hbody, _, _, hhead, _, _, hread, rfl⟩

theorem exchangeStream_ok_iff {conn : Nat} {sent : Bytes} :
    DoqUpstream.exchangeStream net conn sent w = (.ok b, w') ↔
      DeliversStream net conn sent w b w' := by
  unfold DoqUpstream.exchangeStream
  simp only [quicOp, Async.bind_ok_iff, Async.call_ok_iff]
  constructor
  · rintro ⟨stream, w₁, hopen, ⟨⟩, w₂, hlen, ⟨⟩, w₃, hbody, ⟨⟩, w₄, hfinish, lenBuf, w₅, hhead, hok⟩
    -- 2 byte の長さは 65535 を超えない
    rw [if_neg (by have := lenBuf.be16.toNat_lt; omega)] at hok
    obtain ⟨buf, w₆, hread, hok⟩ := Async.bind_ok_iff.mp hok
    cases hok
    exact .mk hopen hlen hbody hfinish hhead (Async.call_ok_iff.mp hread)
  · rintro (⟨hopen, hlen, hbody, hfinish, hhead, hread⟩)
    refine ⟨_, _, hopen, (), _, hlen, (), _, hbody, (), _, hfinish, _, _, hhead, ?_⟩
    rw [if_neg (by have := UInt16.toNat_lt (Block.be16 ‹Block 2›); omega)]
    exact Async.bind_ok_iff.mpr ⟨_, _, Async.call_ok hread, rfl⟩

theorem collectBody_ok_iff {chunks : List Bytes} {ending : Reply String Unit} {body : Bytes}
    (hbody : body.length ≤ 65535) :
    Http3Transport.collectBody chunks ending body = .ok b ↔
      ending = .ok () ∧ b = body ++ chunks.flatten ∧ b.length ≤ 65535 := by
  induction chunks generalizing body with
  | nil =>
    cases ending with
    | ok u =>
      simp only [Http3Transport.collectBody, List.flatten_nil, List.append_nil, Outcome.ok.injEq,
        true_and]
      exact ⟨fun h => ⟨h.symm, h ▸ hbody⟩, fun h => h.1.symm⟩
    | err e => simp [Http3Transport.collectBody]
    | pending => simp [Http3Transport.collectBody]
  | cons chunk rest ih =>
    rw [Http3Transport.collectBody]
    by_cases hlong : (body ++ chunk).length > 65535
    · rw [if_pos hlong]
      constructor
      · intro h
        cases h
      · rintro ⟨-, rfl, hlen⟩
        rw [List.flatten_cons, ← List.append_assoc, List.length_append] at hlen
        omega
    · rw [if_neg hlong, ih (by omega), List.flatten_cons, List.append_assoc]

theorem fetch_ok_iff {t : Http3Transport} {sender : Nat} {httpReq : HttpRequest} :
    t.fetch net sender httpReq w = (.ok b, w') ↔ DeliversH3 net sender httpReq w b w' := by
  unfold Http3Transport.fetch
  simp only [quicOp, Async.bind_ok_iff, Async.call_ok_iff]
  constructor
  · rintro ⟨stream, w₁, hrequest, ⟨⟩, w₂, hfinish, status, w₃, hresponse, hok⟩
    by_cases hs : isSuccess status = true
    · rw [hs] at hok
      obtain ⟨hbody, hw⟩ := Prod.mk.inj hok
      obtain ⟨hended, rfl, hfits⟩ := (collectBody_ok_iff (by simp)).mp hbody
      subst hw
      exact .mk hrequest hfinish hresponse hs rfl hended hfits
    · rw [Bool.not_eq_true] at hs
      rw [hs] at hok
      cases hok
  · rintro (⟨hrequest, hfinish, hresponse, hsuccess, hdata, hended, hfits⟩)
    refine ⟨_, _, hrequest, (), _, hfinish, _, _, hresponse, ?_⟩
    rw [hsuccess]
    show Http3Transport.recvBody net _ _ = _
    unfold Http3Transport.recvBody
    rw [hdata]
    exact Prod.ext ((collectBody_ok_iff (by simp)).mpr ⟨hended, rfl, hfits⟩) rfl

end

/-! ## 接続と再試行 -/

/-- `exchange_https` の GET。 -/
def DohUpstream.request (u : DohUpstream W) (encoded : Text) : HttpRequest where
  uri := s!"https://{u.host}:{u.port}{u.path}?dns={String.ofList encoded}"
  authorization := u.basicAuthHeader

/-- `Http3Transport::exchange` の GET。 -/
def Http3Transport.request (t : Http3Transport) (encoded : Text) : HttpRequest where
  uri := s!"https://{t.serverName}{t.path}?dns={String.ofList encoded}"
  authorization := t.basicAuthHeader

variable (codec : Codec) (suite : CryptoSuite) (net : Net W) (req : Message)

/-- 要求を送る connection。取ってあったもので送り損ねたときは、作り直したものである。 -/
inductive DoqUpstream.UsesConn (u : DoqUpstream W) (sent : Bytes) (w : W) : Nat → W → Prop where
  | first {conn : Nat} {cached : Bool} {w₁ : W}
      (get : u.getConn net w = (.ok (conn, cached), w₁)) : UsesConn u sent w conn w₁
  | retry {conn conn' : Nat} {e : DohError} {w₁ w₂ w₃ : W}
      (get : u.getConn net w = (.ok (conn, true), w₁))
      (broken : withTimeout u.timeout (exchangeStream net conn sent) w₁ = (.err e, w₂))
      (again : e.shouldRetry = true) (reset : u.resetConn net w₂ = (.ok conn', w₃)) :
      UsesConn u sent w conn' w₃

/-- 要求を送る HTTP の client。 -/
inductive DohUpstream.UsesClient (u : DohUpstream W) (httpReq : HttpRequest) (w : W) :
    HttpClient → W → Prop where
  | first {client : HttpClient} {cached : Bool} {w₁ : W}
      (get : u.getClient net w = (.ok (client, cached), w₁)) : UsesClient u httpReq w client w₁
  | retry {client client' : HttpClient} {e : DohError} {w₁ w₂ w₃ : W}
      (get : u.getClient net w = (.ok (client, true), w₁))
      (broken : withTimeout u.timeout (client.request net u.timeout httpReq) w₁ = (.err e, w₂))
      (again : e.shouldRetry = true) (reset : u.resetClient net w₂ = (.ok client', w₃)) :
      UsesClient u httpReq w client' w₃

/-- HTTP/3 の transport で要求を送り損ねる。 -/
inductive Http3Transport.Breaks (t : Http3Transport) (inner : Cell W (Option Nat))
    (httpReq : HttpRequest) (w : W) : DohError → W → Prop where
  | connect {e : DohError} {w₁ : W} (broken : t.getSender net inner w = (.err e, w₁)) :
      Breaks t inner httpReq w e w₁
  | fetch {sender : Nat} {e : DohError} {w₁ w₂ : W}
      (opened : t.getSender net inner w = (.ok sender, w₁))
      (broken : withTimeout t.timeout (t.fetch net sender httpReq) w₁ = (.err e, w₂)) :
      Breaks t inner httpReq w e w₂

/-- 要求を送る HTTP/3 の transport。 -/
inductive DohUpstream.UsesTransport (u : DohUpstream W) (encoded : Text) (w : W) :
    Http3Transport → W → Prop where
  | first {t : Http3Transport} {cached : Bool} {w₁ : W}
      (get : u.getH3Transport net w = (.ok (t, cached), w₁)) : UsesTransport u encoded w t w₁
  | retry {t : Http3Transport} {sender : Nat} {e : DohError} {w₁ w₂ w₃ : W}
      (get : u.getH3Transport net w = (.ok (t, true), w₁))
      (broken : t.Breaks net (u.h3Inner t.id) (t.request encoded) w₁ e w₂)
      (again : e.shouldRetry = true) (reset : t.reset net (u.h3Inner t.id) w₂ = (.ok sender, w₃)) :
      UsesTransport u encoded w t w₃

/-- query を暗号化し終えたところ。送る frame と、その鍵と nonce である。 -/
inductive DnsCryptUpstream.Seals (u : DnsCryptUpstream W) (cert : Certificate) (w : W) :
    Bytes → ClientKeyPair → Block 12 → W → Prop where
  | mk {sent framed : Bytes} {client : ClientKeyPair} {nonce : Block 12} {w₁ w₂ w₃ : W}
      (write : codec.toBytes req = .ok sent)
      (keys : ClientKeyPair.generate suite net w = (.ok client, w₁))
      (encrypt : encryptQuery suite net cert client sent w₁ = (.ok (framed, nonce), w₂))
      (note : u.note (.encrypt cert) w₂ = (.ok (), w₃)) : Seals u cert w framed client nonce w₃

/-- 暗号化した query への応答として `m` が届く。UDP の応答が切り詰められていれば、TCP のものである。 -/
inductive DnsCryptUpstream.DeliversSealed (u : DnsCryptUpstream W) (cert : Certificate) (w : W) :
    Message → W → Prop where
  | udp {framed b : Bytes} {client : ClientKeyPair} {nonce : Block 12} {m : Message} {w₁ w₂ : W}
      (seals : u.Seals codec suite net req cert w framed client nonce w₁)
      (deliver : DeliversDatagram net u.stamp.addr framed 65535 w₁ b w₂)
      (opens : openResponse codec suite cert client nonce b = .ok m)
      (whole : m.metadata.truncation = false) : DeliversSealed u cert w m w₂
  | tcp {framed b b' : Bytes} {client : ClientKeyPair} {nonce : Block 12} {m m' : Message}
      {stream : Nat} {w₁ w₂ w₃ w₄ : W}
      (seals : u.Seals codec suite net req cert w framed client nonce w₁)
      (deliver : DeliversDatagram net u.stamp.addr framed 65535 w₁ b w₂)
      (opens : openResponse codec suite cert client nonce b = .ok m)
      (cut : m.metadata.truncation = true) (fits : framed.length ≤ 65535)
      (connect : net.tcpConnect u.stamp.addr w₂ = (.ok stream, w₃))
      (deliver' : DeliversFrame net stream framed w₃ b' w₄)
      (opens' : openResponse codec suite cert client nonce b' = .ok m') :
      DeliversSealed u cert w m' w₄

/-- 暗号化した query を送ったところで、socket が失敗する。 -/
inductive DnsCryptUpstream.Breaks (u : DnsCryptUpstream W) (cert : Certificate) (w : W) : W → Prop where
  | udp {framed : Bytes} {client : ClientKeyPair} {nonce : Block 12} {e : DohError} {w₁ w₂ : W}
      (seals : u.Seals codec suite net req cert w framed client nonce w₁)
      (broken : u.exchangeUdp net framed w₁ = (.err e, w₂)) : Breaks u cert w w₂
  | tcp {framed b : Bytes} {client : ClientKeyPair} {nonce : Block 12} {m : Message} {e : DohError}
      {w₁ w₂ w₃ : W} (seals : u.Seals codec suite net req cert w framed client nonce w₁)
      (deliver : DeliversDatagram net u.stamp.addr framed 65535 w₁ b w₂)
      (opens : openResponse codec suite cert client nonce b = .ok m)
      (cut : m.metadata.truncation = true) (fits : framed.length ≤ 65535)
      (broken : u.exchangeTcp net framed w₂ = (.err e, w₃)) : Breaks u cert w w₃

/-- query を暗号化する証明書。socket が失敗したときは、取り直したものである。 -/
inductive DnsCryptUpstream.UsesCert (u : DnsCryptUpstream W) (w : W) : Certificate → W → Prop where
  | current {cert : Certificate} {w₁ : W} (get : u.currentCert codec suite net w = (.ok cert, w₁)) :
      UsesCert u w cert w₁
  | fresh {cert cert' : Certificate} {w₁ w₂ w₃ : W}
      (get : u.currentCert codec suite net w = (.ok cert, w₁))
      (broken : u.Breaks codec suite net req cert w₁ w₂)
      (fetch : u.refreshCert codec suite net w₂ = (.ok cert', w₃)) : UsesCert u w cert' w₃

/-! ## upstream -/

/-- 要求 `req` の往復で、応答として `m` が届く。ID を 0 にして送る transport では、戻した後のものである。 -/
inductive Upstream.Delivers (w : W) : Upstream W → Message → W → Prop where
  | plainUdp {u : PlainUdpUpstream} {sent b : Bytes} {m : Message} {w' : W}
      (write : codec.toBytes req = .ok sent)
      (deliver : DeliversDatagram net u.addr sent 65535 w b w')
      (read : codec.fromBytes b = .ok m) : Delivers w (.plainUdp u) m w'
  | plainTcp {u : PlainTcpUpstream W} {sent b : Bytes} {m : Message} {stream : Nat} {w₁ w' : W}
      (write : codec.toBytes req = .ok sent) (fits : sent.length ≤ 65535)
      (dial : u.dial net w = (.ok stream, w₁)) (deliver : DeliversFrame net stream sent w₁ b w')
      (read : codec.fromBytes b = .ok m) : Delivers w (.plainTcp u) m w'
  | dot {u : DotUpstream W} {sent b : Bytes} {m : Message} {stream : Nat} {w₁ w' : W}
      (write : codec.toBytes req = .ok sent) (fits : sent.length ≤ 65535)
      (dial : u.dial net w = (.ok stream, w₁)) (deliver : DeliversFrame net stream sent w₁ b w')
      (read : codec.fromBytes b = .ok m) : Delivers w (.dot u) m w'
  | dnsCrypt {u : DnsCryptUpstream W} {cert : Certificate} {m : Message} {w₁ w' : W}
      (uses : u.UsesCert codec suite net req w cert w₁)
      (deliver : u.DeliversSealed codec suite net req cert w₁ m w') : Delivers w (.dnsCrypt u) m w'
  | doq {u : DoqUpstream W} {sent b : Bytes} {m : Message} {conn : Nat} {w₁ w' : W}
      (write : codec.toBytes (req.setId 0) = .ok sent) (fits : sent.length ≤ 65535)
      (uses : u.UsesConn net sent w conn w₁) (deliver : DeliversStream net conn sent w₁ b w')
      (read : codec.fromBytes b = .ok m) (zero : m.metadata.id = 0) :
      Delivers w (.doq u) (m.setId req.metadata.id) w'
  | doh {u : DohUpstream W} {sent b : Bytes} {m : Message} {client : HttpClient} {w₁ w₂ w' : W}
      (write : codec.toBytes (req.setId 0) = .ok sent)
      (uri : parseUri net (u.request (Base64.encode sent)).uri = .ok ())
      (choose : u.shouldUseHttp3 net w = (.ok false, w₁))
      (uses : u.UsesClient net (u.request (Base64.encode sent)) w₁ client w₂)
      (deliver : DeliversBody net client u.timeout (u.request (Base64.encode sent)) w₂ b w')
      (read : codec.fromBytes b = .ok m) (zero : m.metadata.id = 0) :
      Delivers w (.doh u) (m.setId req.metadata.id) w'
  | h3 {u : DohUpstream W} {t : Http3Transport} {sent b : Bytes} {m : Message} {sender : Nat}
      {w₁ w₂ w₃ w' : W} (write : codec.toBytes (req.setId 0) = .ok sent)
      (uri : parseUri net (t.request (Base64.encode sent)).uri = .ok ())
      (choose : u.shouldUseHttp3 net w = (.ok true, w₁))
      (uses : u.UsesTransport net (Base64.encode sent) w₁ t w₂)
      (opened : t.getSender net (u.h3Inner t.id) w₂ = (.ok sender, w₃))
      (deliver : DeliversH3 net sender (t.request (Base64.encode sent)) w₃ b w')
      (read : codec.fromBytes b = .ok m) (zero : m.metadata.id = 0) :
      Delivers w (.doh u) (m.setId req.metadata.id) w'

/-! ### 検査の前に届くもの -/

section

variable {codec suite net req} {w w' : W} {m : Message}

theorem pack_ok_iff {m : Message} {b : Bytes} : pack codec m = .ok b ↔ codec.toBytes m = .ok b := by
  unfold pack
  cases codec.toBytes m with
  | ok b' => simp
  | error e => simp

theorem packFramed_ok_iff {framing : String} {m : Message} {b : Bytes} :
    packFramed codec framing m = .ok b ↔ codec.toBytes m = .ok b ∧ b.length ≤ 65535 := by
  unfold packFramed pack
  cases codec.toBytes m with
  | error e => simp
  | ok b' =>
    rw [Outcome.ok_bind]
    by_cases hlen : b'.length > 65535
    · rw [if_pos hlen]
      constructor
      · intro h
        cases h
      · rintro ⟨hb, hfits⟩
        cases hb
        omega
    · rw [if_neg hlen]
      constructor
      · intro h
        cases h
        exact ⟨rfl, by omega⟩
      · rintro ⟨hb, -⟩
        cases hb
        rfl

theorem unpack_ok_iff {what : String} {b : Bytes} :
    unpack codec what b = .ok m ↔ codec.fromBytes b = .ok m := by
  unfold unpack
  cases codec.fromBytes b with
  | ok m' => simp
  | error e => simp

theorem unpackChecked_skip_ok_iff {b : Bytes} :
    (unpackChecked codec skipCheck b : Async W DohError Message) w = (.ok m, w') ↔
      codec.fromBytes b = .ok m ∧ w = w' := by
  unfold unpackChecked
  simp only [Async.bind_ok_iff, Async.lift_ok_iff, unpack_ok_iff]
  constructor
  · rintro ⟨m', w₁, ⟨hm, rfl⟩, ⟨⟩, w₂, ⟨-, rfl⟩, hok⟩
    cases hok
    exact ⟨hm, rfl⟩
  · rintro ⟨hm, rfl⟩
    exact ⟨m, w, ⟨hm, rfl⟩, (), w, ⟨rfl, rfl⟩, rfl⟩

theorem decodeResponse_skip_ok_iff {b : Bytes} {id : UInt16} :
    decodeResponse codec skipCheck b id = .ok m ↔
      ∃ m', codec.fromBytes b = .ok m' ∧ m'.metadata.id = 0 ∧ m = m'.setId id := by
  unfold decodeResponse unpack
  cases codec.fromBytes b with
  | error e => simp
  | ok m' =>
    rw [Outcome.ok_bind]
    by_cases hid : m'.metadata.id = 0
    · rw [if_neg (by simpa using hid)]
      constructor
      · intro h
        cases h
        exact ⟨m', rfl, hid, rfl⟩
      · rintro ⟨m'', h, -, rfl⟩
        cases h
        rfl
    · rw [if_pos hid]
      constructor
      · intro h
        cases h
      · rintro ⟨m'', h, hzero, -⟩
        cases h
        exact absurd hzero hid

/-- やり直すのは、取ってあったものでの失敗が再試行に値するときだけである。 -/
theorem retryOnce_ok_iff {cached : Bool} {first retry : Async W DohError Message}
    {reset : Async W DohError Unit} :
    retryOnce cached first retry reset w = (.ok m, w') ↔ first w = (.ok m, w') ∨
      cached = true ∧ ∃ e w₁, first w = (.err e, w₁) ∧ e.shouldRetry = true ∧
        retry w₁ = (.ok m, w') := by
  unfold retryOnce
  rw [Async.handle_ok_iff]
  refine or_congr Iff.rfl ⟨?_, ?_⟩
  · rintro ⟨e, w₁, hfirst, hok⟩
    split at hok
    · next hretry =>
      rw [Bool.and_eq_true] at hretry
      exact ⟨hretry.1, e, w₁, hfirst, hretry.2, hok⟩
    · obtain ⟨_, _, -, hthrow⟩ := Async.bind_ok_iff.mp hok
      cases hthrow
  · rintro ⟨rfl, e, w₁, hfirst, hretry, hok⟩
    exact ⟨e, w₁, hfirst, by rw [hretry]; exact hok⟩

theorem PlainUdpUpstream.receive_ok_iff (u : PlainUdpUpstream) :
    u.exchangeWith codec net skipCheck req w = (.ok m, w') ↔
      (Upstream.plainUdp u).Delivers codec suite net req w m w' := by
  constructor
  · intro h
    obtain ⟨sent, w₁, hpack, hrun⟩ := Async.bind_ok_iff.mp h
    obtain ⟨hwrite, rfl⟩ := Async.lift_ok_iff.mp hpack
    obtain ⟨b, w₂, hnet, hok⟩ := datagram_ok_iff.mp (Async.timeout_ok_iff.mp hrun)
    obtain ⟨hread, rfl⟩ := unpackChecked_skip_ok_iff.mp hok
    exact .plainUdp (pack_ok_iff.mp hwrite) hnet hread
  · rintro (⟨hwrite, hnet, hread⟩)
    exact Async.bind_ok_iff.mpr ⟨_, w, Async.lift_ok_iff.mpr ⟨pack_ok hwrite, rfl⟩,
      Async.timeout_ok (datagram_ok_iff.mpr
        ⟨_, _, hnet, unpackChecked_skip_ok_iff.mpr ⟨hread, rfl⟩⟩)⟩

theorem PlainTcpUpstream.receive_ok_iff (u : PlainTcpUpstream W) :
    u.exchangeWith codec net skipCheck req w = (.ok m, w') ↔
      (Upstream.plainTcp u).Delivers codec suite net req w m w' := by
  unfold PlainTcpUpstream.exchangeWith withTimeout
  simp only [Async.bind_ok_iff, Async.lift_ok_iff, Async.timeout_ok_iff, packFramed_ok_iff,
    exchangeFramed_ok_iff, unpackChecked_skip_ok_iff]
  constructor
  · rintro ⟨sent, w₁, ⟨⟨hwrite, hfits⟩, rfl⟩, stream, w₂, hdial, b, w₃, hnet, hread, rfl⟩
    exact .plainTcp hwrite hfits hdial hnet hread
  · rintro (- | ⟨hwrite, hfits, hdial, hnet, hread⟩)
    exact ⟨_, _, ⟨⟨hwrite, hfits⟩, rfl⟩, _, _, hdial, _, _, hnet, hread, rfl⟩

theorem DotUpstream.receive_ok_iff (u : DotUpstream W) :
    u.exchangeWith codec net skipCheck req w = (.ok m, w') ↔
      (Upstream.dot u).Delivers codec suite net req w m w' := by
  unfold DotUpstream.exchangeWith withTimeout
  simp only [Async.bind_ok_iff, Async.lift_ok_iff, Async.timeout_ok_iff, packFramed_ok_iff,
    exchangeFramed_ok_iff, unpackChecked_skip_ok_iff]
  constructor
  · rintro ⟨sent, w₁, ⟨⟨hwrite, hfits⟩, rfl⟩, stream, w₂, hdial, b, w₃, hnet, hread, rfl⟩
    exact .dot hwrite hfits hdial hnet hread
  · rintro (- | - | ⟨hwrite, hfits, hdial, hnet, hread⟩)
    exact ⟨_, _, ⟨⟨hwrite, hfits⟩, rfl⟩, _, _, hdial, _, _, hnet, hread, rfl⟩

/-! ### DNSCrypt -/

/-- 証明書を取り直して再試行する失敗。 -/
def DohError.OfSocket : DohError → Prop
  | .timeout _ => True
  | .io _ => True
  | _ => False

/-- 暗号の失敗は、再試行されない。 -/
theorem openResponse_throws (cert : Certificate) (client : ClientKeyPair) (nonce : Block 12)
    (b : Bytes) :
    (DnsCryptUpstream.openResponse codec suite cert client nonce b).Throws
      fun e => ¬ e.OfSocket := by
  have hunpad : ∀ padded, (unpad padded).Throws fun e => ¬ e.OfSocket := by
    intro padded
    unfold unpad
    split
    · refine (Outcome.throws_index _ _).bind fun x => ?_
      split
      · exact Outcome.throws_slice _ _ _
      · exact Outcome.throws_err id
    · exact Outcome.throws_err id
  have hcopy : ∀ l, (copyBlock 12 l).Throws fun e => ¬ e.OfSocket := by
    intro l e h
    unfold copyBlock at h
    split at h <;> cases h
  have hopen : ∀ what box n c, (openBox suite what box n c).Throws fun e => ¬ e.OfSocket := by
    intro what box n c
    unfold openBox
    split
    · exact Outcome.throws_ok _
    · exact Outcome.throws_err id
  refine Outcome.Throws.bind ?_ fun bytes => ?_
  · unfold decryptResponse
    split
    · exact Outcome.throws_err id
    refine (Outcome.throws_slice _ _ _).bind fun magic => ?_
    split
    · exact Outcome.throws_err id
    refine (Outcome.throws_slice _ _ _).bind fun echoed => ?_
    split
    · exact Outcome.throws_err id
    refine (Outcome.throws_slice _ _ _).bind fun s => (hcopy s).bind fun n => ?_
    exact (Outcome.throws_slice _ _ _).bind fun c => (hopen _ _ _ _).bind hunpad
  · unfold unpack
    split
    · exact Outcome.throws_ok _
    · exact Outcome.throws_err id

section

variable {u : DnsCryptUpstream W} {cert : Certificate} {framed : Bytes}

theorem exchangeUdp_ok_iff {b : Bytes} :
    u.exchangeUdp net framed w = (.ok b, w') ↔
      DeliversDatagram net u.stamp.addr framed 65535 w b w' := by
  unfold DnsCryptUpstream.exchangeUdp
  rw [datagram_ok_iff (k := pure)]
  constructor
  · rintro ⟨b', w₁, hnet, hok⟩
    cases hok
    exact hnet
  · exact fun hnet => ⟨b, w', hnet, rfl⟩

theorem exchangeTcp_ok_iff {b : Bytes} :
    u.exchangeTcp net framed w = (.ok b, w') ↔ framed.length ≤ 65535 ∧ ∃ stream w₁,
      net.tcpConnect u.stamp.addr w = (.ok stream, w₁) ∧
        DeliversFrame net stream framed w₁ b w' := by
  unfold DnsCryptUpstream.exchangeTcp
  by_cases hlen : framed.length > 65535
  · rw [if_pos hlen]
    constructor
    · intro h
      cases h
    · rintro ⟨hfits, -⟩
      omega
  · rw [if_neg hlen]
    simp only [io, Async.bind_ok_iff, Async.call_ok_iff, exchangeFramed_ok_iff]
    exact ⟨fun h => ⟨by omega, h⟩, fun h => h.2⟩

theorem exchangeUdp_throws : (u.exchangeUdp net framed).Throws DohError.OfSocket := by
  refine (Async.Throws.call fun _ => trivial).bind fun sock => ?_
  refine (Async.Throws.call fun _ => trivial).bind fun _ => ?_
  refine (Async.Throws.call fun _ => trivial).bind fun _ => ?_
  exact (Async.Throws.call fun _ => trivial).bind fun buf => Async.Throws.pure _

theorem exchangeTcp_throws (hfits : framed.length ≤ 65535) :
    (u.exchangeTcp net framed).Throws DohError.OfSocket := by
  unfold DnsCryptUpstream.exchangeTcp
  rw [if_neg (by omega)]
  refine (Async.Throws.call fun _ => trivial).bind fun tcp => ?_
  refine (Async.Throws.call fun _ => trivial).bind fun _ => ?_
  refine (Async.Throws.call fun _ => trivial).bind fun _ => ?_
  refine (Async.Throws.call fun _ => trivial).bind fun len => ?_
  exact (Async.Throws.call fun _ => trivial).bind fun buf => Async.Throws.pure _

theorem finish_skip_ok_iff {resp : Message} :
    (DnsCryptUpstream.finish skipCheck resp : Async W DohError Message) w = (.ok m, w') ↔
      resp = m ∧ w = w' := by
  unfold DnsCryptUpstream.finish skipCheck
  rw [Async.lift_bind_ok, Async.pure_apply, Prod.mk.injEq, Outcome.ok.injEq]

/-- 暗号化した query への datagram を開いた後は、TC が立っていれば TCP でもう一度訊く。 -/
theorem withCert_opened {client : ClientKeyPair} {nonce : Block 12} {b : Bytes} {resp : Message}
    {w₁ w₂ : W} (hseals : u.Seals codec suite net req cert w framed client nonce w₁)
    (hnet : DeliversDatagram net u.stamp.addr framed 65535 w₁ b w₂)
    (hopen : DnsCryptUpstream.openResponse codec suite cert client nonce b = .ok resp) :
    u.exchangeWithCertWith codec suite net cert skipCheck req w =
      (if resp.metadata.truncation then do
        let encResp ← u.exchangeTcp net framed
        let resp ← Async.lift (DnsCryptUpstream.openResponse codec suite cert client nonce encResp)
        DnsCryptUpstream.finish skipCheck resp
      else DnsCryptUpstream.finish skipCheck resp) w₂ := by
  obtain ⟨hwrite, hkeys, hencrypt, hnote⟩ := hseals
  exact DnsCryptUpstream.exchangeWithCertWith_apply (pack_ok hwrite) hkeys hencrypt hnote
    (exchangeUdp_ok_iff.mpr hnet) hopen

/-- 暗号化した query の往復は、開いた応答を返す。 -/
theorem withCert_ok_iff :
    u.exchangeWithCertWith codec suite net cert skipCheck req w = (.ok m, w') ↔
      u.DeliversSealed codec suite net req cert w m w' := by
  unfold DnsCryptUpstream.exchangeWithCertWith
  constructor
  · intro h
    obtain ⟨sent, w₀, hpack, h⟩ := Async.bind_ok_iff.mp h
    obtain ⟨hwrite, rfl⟩ := Async.lift_ok_iff.mp hpack
    obtain ⟨client, w₁, hkeys, h⟩ := Async.bind_ok_iff.mp h
    obtain ⟨⟨framed, nonce⟩, w₂, hencrypt, h⟩ := Async.bind_ok_iff.mp h
    obtain ⟨⟨⟩, w₃, hnote, h⟩ := Async.bind_ok_iff.mp h
    have hseals : u.Seals codec suite net req cert w framed client nonce w₃ :=
      .mk (pack_ok_iff.mp hwrite) hkeys hencrypt hnote
    obtain ⟨b, w₄, hudp, h⟩ := Async.bind_ok_iff.mp h
    obtain ⟨resp, w₅, hlift, h⟩ := Async.bind_ok_iff.mp h
    obtain ⟨hopen, rfl⟩ := Async.lift_ok_iff.mp hlift
    by_cases hcut : resp.metadata.truncation = true
    · rw [if_pos hcut] at h
      obtain ⟨b', w₆, htcp, h⟩ := Async.bind_ok_iff.mp h
      obtain ⟨resp', w₇, hlift', h⟩ := Async.bind_ok_iff.mp h
      obtain ⟨hopen', rfl⟩ := Async.lift_ok_iff.mp hlift'
      obtain ⟨rfl, rfl⟩ := finish_skip_ok_iff.mp h
      obtain ⟨hfits, stream, w₈, hconnect, hframe⟩ := exchangeTcp_ok_iff.mp htcp
      exact .tcp hseals (exchangeUdp_ok_iff.mp hudp) hopen hcut hfits hconnect hframe hopen'
    · rw [if_neg hcut] at h
      obtain ⟨rfl, rfl⟩ := finish_skip_ok_iff.mp h
      exact .udp hseals (exchangeUdp_ok_iff.mp hudp) hopen (by simpa using hcut)
  · intro h
    cases h with
    | udp hseals hnet hopen hwhole =>
      refine (withCert_opened hseals hnet hopen).trans ?_
      rw [hwhole, if_neg (by simp)]
      exact finish_skip_ok_iff.mpr ⟨rfl, rfl⟩
    | tcp hseals hnet hopen hcut hfits hconnect hframe hopen' =>
      refine (withCert_opened hseals hnet hopen).trans ?_
      rw [if_pos hcut, Async.bind_ok (exchangeTcp_ok_iff.mpr ⟨hfits, _, _, hconnect, hframe⟩), hopen',
        Async.lift_bind_ok]
      exact finish_skip_ok_iff.mpr ⟨rfl, rfl⟩

/-- 証明書を取り直すのは、socket の操作が失敗したときだけである。 -/
theorem withCert_broken_iff :
    (∃ e, DohError.OfSocket e ∧
      u.exchangeWithCertWith codec suite net cert skipCheck req w = (.err e, w')) ↔
      u.Breaks codec suite net req cert w w' := by
  constructor
  · rintro ⟨e, hsocket, h⟩
    unfold DnsCryptUpstream.exchangeWithCertWith at h
    rcases Async.bind_err_iff.mp h with hpack | ⟨sent, w₀, hpack, h⟩
    · have hthrows : (pack codec req).Throws fun e => ¬ e.OfSocket := by
        unfold pack
        split
        · exact Outcome.throws_ok _
        · exact Outcome.throws_err id
      exact absurd hsocket (Async.Throws.lift hthrows w e w' hpack)
    obtain ⟨hwrite, rfl⟩ := Async.lift_ok_iff.mp hpack
    rcases Async.bind_err_iff.mp h with hkeys | ⟨client, w₁, hkeys, h⟩
    · cases hkeys
    rcases Async.bind_err_iff.mp h with hencrypt | ⟨⟨framed, nonce⟩, w₂, hencrypt, h⟩
    · have hthrows : (encryptQuery suite net cert client sent).Throws fun e => ¬ e.OfSocket := by
        refine Async.Throws.bind (fun _ _ _ h => by cases h) fun nonce =>
          (Async.Throws.lift ?_).bind fun c => Async.Throws.pure _
        unfold sealBox
        split
        · exact Outcome.throws_ok _
        · exact Outcome.throws_err id
      exact absurd hsocket (hthrows _ _ _ hencrypt)
    rcases Async.bind_err_iff.mp h with hnote | ⟨⟨⟩, w₃, hnote, h⟩
    · cases hnote
    have hseals : u.Seals codec suite net req cert w framed client nonce w₃ :=
      .mk (pack_ok_iff.mp hwrite) hkeys hencrypt hnote
    rcases Async.bind_err_iff.mp h with hudp | ⟨b, w₄, hudp, h⟩
    · exact .udp hseals hudp
    rcases Async.bind_err_iff.mp h with hopen | ⟨resp, w₅, hlift, h⟩
    · exact absurd hsocket (Async.Throws.lift (openResponse_throws cert client nonce b) _ _ _ hopen)
    obtain ⟨hopen, rfl⟩ := Async.lift_ok_iff.mp hlift
    have hfinish : ∀ resp w₁, (DnsCryptUpstream.finish skipCheck resp : Async W DohError Message) w₁
        ≠ (.err e, w') := fun _ _ h => by cases h
    by_cases hcut : resp.metadata.truncation = true
    · rw [if_pos hcut] at h
      rcases Async.bind_err_iff.mp h with htcp | ⟨b', w₆, htcp, h⟩
      · by_cases hfits : framed.length ≤ 65535
        · exact .tcp hseals (exchangeUdp_ok_iff.mp hudp) hopen hcut hfits htcp
        · unfold DnsCryptUpstream.exchangeTcp at htcp
          rw [if_pos (by omega)] at htcp
          cases htcp
          exact absurd hsocket id
      rcases Async.bind_err_iff.mp h with hopen' | ⟨resp', w₇, -, h⟩
      · exact absurd hsocket
          (Async.Throws.lift (openResponse_throws cert client nonce b') _ _ _ hopen')
      · exact absurd h (hfinish _ _)
    · rw [if_neg hcut] at h
      exact absurd h (hfinish _ _)
  · rintro (⟨hseals, hudp⟩ | ⟨hseals, hnet, hopen, hcut, hfits, htcp⟩)
    · obtain ⟨hwrite, hkeys, hencrypt, hnote⟩ := hseals
      refine ⟨_, exchangeUdp_throws _ _ _ hudp, ?_⟩
      unfold DnsCryptUpstream.exchangeWithCertWith
      rw [pack_ok hwrite, Async.lift_bind_ok, Async.bind_ok hkeys, Async.bind_ok hencrypt]
      dsimp only
      rw [Async.bind_ok hnote, Async.bind_err hudp]
    · refine ⟨_, exchangeTcp_throws hfits _ _ _ htcp, ?_⟩
      rw [withCert_opened hseals hnet hopen, if_pos hcut, Async.bind_err htcp]

theorem DnsCryptUpstream.receive_ok_iff :
    u.exchangeWith codec suite net skipCheck req w = (.ok m, w') ↔
      (Upstream.dnsCrypt u).Delivers codec suite net req w m w' := by
  unfold DnsCryptUpstream.exchangeWith withTimeout DnsCryptUpstream.attemptWith
  simp only [Async.timeout_ok_iff, Async.bind_ok_iff, Async.handle_ok_iff, withCert_ok_iff]
  constructor
  · rintro ⟨cert, w₁, hcert, hdeliver | ⟨e, w₂, hbroken, hok⟩⟩
    · exact .dnsCrypt (.current hcert) hdeliver
    · have hretry : e.OfSocket ∧ (do
          let cert ← u.refreshCert codec suite net
          u.exchangeWithCertWith codec suite net cert skipCheck req) w₂ = (.ok m, w') := by
        cases e with
        | timeout d => exact ⟨trivial, hok⟩
        | io msg => exact ⟨trivial, hok⟩
        | _ => cases hok
      obtain ⟨cert', w₃, hfresh, hok⟩ := Async.bind_ok_iff.mp hretry.2
      exact .dnsCrypt (.fresh hcert (withCert_broken_iff.mp ⟨e, hretry.1, hbroken⟩) hfresh)
        (withCert_ok_iff.mp hok)
  · rintro (- | - | - | ⟨huses, hdeliver⟩)
    cases huses with
    | current hcert => exact ⟨_, _, hcert, Or.inl hdeliver⟩
    | fresh hcert hbroken hfresh =>
      obtain ⟨e, hsocket, hbroken⟩ := withCert_broken_iff.mpr hbroken
      have hretry : (do
          let cert ← u.refreshCert codec suite net
          u.exchangeWithCertWith codec suite net cert skipCheck req) _ = (.ok m, w') :=
        Async.bind_ok_iff.mpr ⟨_, _, hfresh, withCert_ok_iff.mpr hdeliver⟩
      refine ⟨_, _, hcert, Or.inr ⟨e, _, hbroken, ?_⟩⟩
      cases e with
      | timeout d => exact hretry
      | io msg => exact hretry
      | _ => exact absurd hsocket id

end

/-! ### DoQ -/

section

variable {u : DoqUpstream W} {conn : Nat}

theorem exchangeOn_ok_iff :
    u.exchangeOnWith codec net conn skipCheck req w = (.ok m, w') ↔
      ∃ sent b m', codec.toBytes (req.setId 0) = .ok sent ∧ sent.length ≤ 65535 ∧
        DeliversStream net conn sent w b w' ∧ codec.fromBytes b = .ok m' ∧ m'.metadata.id = 0 ∧
          m = m'.setId req.metadata.id := by
  unfold DoqUpstream.exchangeOnWith withTimeout
  simp only [Async.bind_ok_iff, Async.lift_ok_iff, Async.timeout_ok_iff, packFramed_ok_iff,
    exchangeStream_ok_iff, decodeResponse_skip_ok_iff]
  constructor
  · rintro ⟨sent, w₁, ⟨⟨hwrite, hfits⟩, rfl⟩, b, w₂, hnet, ⟨m', hread, hzero, rfl⟩, rfl⟩
    exact ⟨sent, b, m', hwrite, hfits, hnet, hread, hzero, rfl⟩
  · rintro ⟨sent, b, m', hwrite, hfits, hnet, hread, hzero, rfl⟩
    exact ⟨sent, w, ⟨⟨hwrite, hfits⟩, rfl⟩, b, w', hnet, ⟨m', hread, hzero, rfl⟩, rfl⟩

/-- 読めない応答は、やり直さない。 -/
theorem decodeResponse_skip_throws (b : Bytes) (id : UInt16) :
    (decodeResponse codec skipCheck b id).Throws fun e => ¬ e.shouldRetry = true := by
  unfold decodeResponse unpack
  split
  · rw [Outcome.ok_bind]
    split
    · exact Outcome.throws_err (by simp [DohError.shouldRetry])
    · exact Outcome.throws_ok _
  · exact Outcome.throws_err (by simp [DohError.shouldRetry])

theorem packFramed_throws (framing : String) (m : Message) :
    (packFramed codec framing m).Throws fun e => ¬ e.shouldRetry = true := by
  refine Outcome.Throws.bind ?_ fun b => ?_
  · unfold pack
    split
    · exact Outcome.throws_ok _
    · exact Outcome.throws_err (by simp [DohError.shouldRetry])
  · split
    · exact Outcome.throws_err (by simp [DohError.shouldRetry])
    · exact Outcome.throws_ok _

theorem decodeResponse_skip_ne_pending (b : Bytes) (id : UInt16) :
    decodeResponse codec skipCheck b id ≠ .pending := by
  unfold decodeResponse unpack
  split
  · rw [Outcome.ok_bind]
    split
    · simp
    · intro h
      cases h
  · simp

/-- 待たずに読む部分を期限の外に出しても、再試行に値する失敗は変わらない。 -/
theorem withTimeout_decode_retry_iff {α : Type} {d : Option Duration}
    {x : Async W DohError α} {g : α → Outcome DohError Message} (hpending : ∀ a, g a ≠ .pending)
    (hthrows : ∀ a, (g a).Throws fun e => ¬ e.shouldRetry = true) {e : DohError}
    (hretry : e.shouldRetry = true) :
    withTimeout d (x >>= fun a => Async.lift (g a)) w = (.err e, w') ↔
      withTimeout d x w = (.err e, w') := by
  unfold withTimeout
  rw [Async.timeout_err_iff, Async.timeout_err_iff, Async.bind_err_iff, Async.bind_pending_iff]
  constructor
  · rintro ((hx | ⟨a, w₁, -, hg⟩) | ⟨hx | ⟨a, w₁, -, hg⟩, hd⟩)
    · exact Or.inl hx
    · exact absurd hretry (hthrows a e (Prod.mk.inj hg).1)
    · exact Or.inr ⟨hx, hd⟩
    · exact absurd (Prod.mk.inj hg).1 (hpending a)
  · rintro (hx | ⟨hx, hd⟩)
    · exact Or.inl (Or.inl hx)
    · exact Or.inr ⟨Or.inl hx, hd⟩

theorem exchangeOn_broken_iff {e : DohError} (hretry : e.shouldRetry = true) :
    u.exchangeOnWith codec net conn skipCheck req w = (.err e, w') ↔
      ∃ sent, codec.toBytes (req.setId 0) = .ok sent ∧ sent.length ≤ 65535 ∧
        withTimeout u.timeout (DoqUpstream.exchangeStream net conn sent) w = (.err e, w') := by
  unfold DoqUpstream.exchangeOnWith
  rw [Async.bind_err_iff]
  constructor
  · rintro (hpack | ⟨sent, w₁, hlift, h⟩)
    · exact absurd hretry (Async.Throws.lift (packFramed_throws "doq" _) _ _ _ hpack)
    · obtain ⟨hpack, rfl⟩ := Async.lift_ok_iff.mp hlift
      obtain ⟨hwrite, hfits⟩ := packFramed_ok_iff.mp hpack
      exact ⟨sent, hwrite, hfits, (withTimeout_decode_retry_iff
        (fun b => decodeResponse_skip_ne_pending b _)
        (fun b => decodeResponse_skip_throws b _) hretry).mp h⟩
  · rintro ⟨sent, hwrite, hfits, h⟩
    exact Or.inr ⟨sent, w, Async.lift_ok_iff.mpr ⟨packFramed_ok_iff.mpr ⟨hwrite, hfits⟩, rfl⟩,
      (withTimeout_decode_retry_iff (fun b => decodeResponse_skip_ne_pending b _)
        (fun b => decodeResponse_skip_throws b _) hretry).mpr h⟩

theorem DoqUpstream.receive_ok_iff :
    u.exchangeWith codec net skipCheck req w = (.ok m, w') ↔
      (Upstream.doq u).Delivers codec suite net req w m w' := by
  unfold DoqUpstream.exchangeWith
  rw [Async.bind_ok_iff]
  constructor
  · rintro ⟨⟨conn, cached⟩, w₁, hget, hrun⟩
    rcases retryOnce_ok_iff.mp hrun with hok | ⟨rfl, e, w₂, hbroken, hretry, hok⟩
    · obtain ⟨sent, b, m', hwrite, hfits, hnet, hread, hzero, rfl⟩ := exchangeOn_ok_iff.mp hok
      exact .doq hwrite hfits (.first hget) hnet hread hzero
    · obtain ⟨conn', w₃, hreset, hok⟩ := Async.bind_ok_iff.mp hok
      obtain ⟨sent, b, m', hwrite, hfits, hnet, hread, hzero, rfl⟩ := exchangeOn_ok_iff.mp hok
      obtain ⟨sent', hwrite', -, hbroken⟩ := (exchangeOn_broken_iff hretry).mp hbroken
      rw [hwrite] at hwrite'
      cases hwrite'
      exact .doq hwrite hfits (.retry hget hbroken hretry hreset) hnet hread hzero
  · rintro (- | - | - | - | ⟨hwrite, hfits, huses, hnet, hread, hzero⟩)
    have hsend : ∀ {conn w₁}, DeliversStream net conn _ w₁ _ w' →
        u.exchangeOnWith codec net conn skipCheck req w₁ = (.ok _, w') := fun hnet =>
      exchangeOn_ok_iff.mpr ⟨_, _, _, hwrite, hfits, hnet, hread, hzero, rfl⟩
    cases huses with
    | first hget => exact ⟨_, _, hget, retryOnce_ok_iff.mpr (Or.inl (hsend hnet))⟩
    | retry hget hbroken hretry hreset =>
      exact ⟨_, _, hget, retryOnce_ok_iff.mpr (Or.inr ⟨rfl, _, _,
        (exchangeOn_broken_iff hretry).mpr ⟨_, hwrite, hfits, hbroken⟩, hretry,
        Async.bind_ok_iff.mpr ⟨_, _, hreset, hsend hnet⟩⟩)⟩

end

/-! ### DoH -/

theorem encodeRequest_ok_iff {encoded : Text} {id : UInt16} :
    encodeRequest codec req = .ok (encoded, id) ↔
      ∃ sent, codec.toBytes (req.setId 0) = .ok sent ∧ encoded = Base64.encode sent ∧
        id = req.metadata.id := by
  unfold encodeRequest pack
  cases codec.toBytes (req.setId 0) with
  | error e => simp
  | ok sent =>
    simp only [Outcome.ok_bind, Outcome.pure_eq, Outcome.ok.injEq, Prod.mk.injEq, Except.ok.injEq,
      exists_eq_left']
    exact and_congr eq_comm eq_comm

theorem encodeRequest_throws :
    (encodeRequest codec req).Throws fun e => ¬ e.shouldRetry = true := by
  refine Outcome.Throws.bind ?_ fun b => Outcome.throws_ok _
  unfold pack
  split
  · exact Outcome.throws_ok _
  · exact Outcome.throws_err (by simp [DohError.shouldRetry])

theorem parseUri_throws (uri : String) :
    (parseUri net uri).Throws fun e => ¬ e.shouldRetry = true := by
  unfold parseUri
  split
  · exact Outcome.throws_ok _
  · exact Outcome.throws_err (by simp [DohError.shouldRetry])

theorem httpOp_throws {α : Type} (what : String) (op : Op W String α) :
    (httpOp what op).Throws fun e => ¬ e.shouldRetry = true :=
  Async.Throws.call fun _ h => by cases h

/-- 本文を受け取った後の扱い。 -/
theorem body_ok_iff {u : DohUpstream W} {status : Nat} {b : Bytes} {id : UInt16} :
    (if !isSuccess status then Async.throw (.unexpectedStatus status u.addrRedacted)
      else if b.length > 65535 then
        Async.throw (.http s!"response body too large: {b.length} bytes")
      else Async.lift (decodeResponse codec skipCheck b id) : Async W DohError Message) w
        = (.ok m, w') ↔
      isSuccess status = true ∧ b.length ≤ 65535 ∧ w = w' ∧ ∃ m', codec.fromBytes b = .ok m' ∧
        m'.metadata.id = 0 ∧ m = m'.setId id := by
  by_cases hs : isSuccess status = true
  · rw [hs, if_neg (by simp)]
    by_cases hlen : b.length > 65535
    · rw [if_pos hlen]
      constructor
      · intro h
        cases h
      · rintro ⟨-, hfits, -⟩
        omega
    · rw [if_neg hlen, Async.lift_ok_iff, decodeResponse_skip_ok_iff]
      exact ⟨fun h => ⟨rfl, by omega, h.2, h.1⟩, fun h => ⟨h.2.2.2, h.2.2.1⟩⟩
  · rw [Bool.not_eq_true] at hs
    rw [hs, if_pos (show (!false) = true from rfl)]
    constructor
    · intro h
      cases h
    · rintro ⟨h, -⟩
      cases h

theorem body_throws {u : DohUpstream W} {status : Nat} {b : Bytes} {id : UInt16} :
    (if !isSuccess status then Async.throw (.unexpectedStatus status u.addrRedacted)
      else if b.length > 65535 then
        Async.throw (.http s!"response body too large: {b.length} bytes")
      else Async.lift (decodeResponse codec skipCheck b id) : Async W DohError Message).Throws
      fun e => ¬ e.shouldRetry = true := by
  split
  · exact Async.Throws.throw (by simp [DohError.shouldRetry])
  split
  · exact Async.Throws.throw (by simp [DohError.shouldRetry])
  · exact Async.Throws.lift (decodeResponse_skip_throws b id)

section

variable {u : DohUpstream W} {client : HttpClient}

theorem https_ok_iff :
    u.exchangeHttpsWith codec net client skipCheck req w = (.ok m, w') ↔
      ∃ sent b m', codec.toBytes (req.setId 0) = .ok sent ∧
        parseUri net (u.request (Base64.encode sent)).uri = .ok () ∧
        DeliversBody net client u.timeout (u.request (Base64.encode sent)) w b w' ∧
        codec.fromBytes b = .ok m' ∧ m'.metadata.id = 0 ∧ m = m'.setId req.metadata.id := by
  unfold DohUpstream.exchangeHttpsWith
  constructor
  · intro h
    obtain ⟨⟨encoded, id⟩, w₀, hlift, h⟩ := Async.bind_ok_iff.mp h
    obtain ⟨henc, rfl⟩ := Async.lift_ok_iff.mp hlift
    obtain ⟨sent, hwrite, rfl, rfl⟩ := encodeRequest_ok_iff.mp henc
    obtain ⟨⟨⟩, w₁, hparse, h⟩ := Async.bind_ok_iff.mp h
    obtain ⟨huri, rfl⟩ := Async.lift_ok_iff.mp hparse
    obtain ⟨⟨status, bodyId⟩, w₂, hrequest, h⟩ := Async.bind_ok_iff.mp h
    obtain ⟨b, w₃, hcollect, h⟩ := Async.bind_ok_iff.mp h
    obtain ⟨hs, hfits, rfl, m', hread, hzero, rfl⟩ := body_ok_iff.mp h
    exact ⟨sent, b, m', hwrite, huri,
      .mk (Async.timeout_ok_iff.mp hrequest) (Async.call_ok_iff.mp hcollect) hs hfits, hread, hzero, rfl⟩
  · rintro ⟨sent, b, m', hwrite, huri, ⟨hrequest, hcollect, hs, hfits⟩, hread, hzero, rfl⟩
    have henc := encodeRequest_ok_iff.mpr ⟨sent, hwrite, rfl, rfl⟩
    refine Async.bind_ok_iff.mpr ⟨_, w, Async.lift_ok_iff.mpr ⟨henc, rfl⟩, ?_⟩
    refine Async.bind_ok_iff.mpr ⟨(), w, Async.lift_ok_iff.mpr ⟨huri, rfl⟩, ?_⟩
    refine Async.bind_ok_iff.mpr ⟨_, _, Async.timeout_ok hrequest, ?_⟩
    exact Async.bind_ok_iff.mpr ⟨b, w', Async.call_ok hcollect,
      body_ok_iff.mpr ⟨hs, hfits, rfl, m', hread, hzero, rfl⟩⟩

theorem https_broken_iff {e : DohError} (hretry : e.shouldRetry = true) :
    u.exchangeHttpsWith codec net client skipCheck req w = (.err e, w') ↔
      ∃ sent, codec.toBytes (req.setId 0) = .ok sent ∧
        parseUri net (u.request (Base64.encode sent)).uri = .ok () ∧
        withTimeout u.timeout (client.request net u.timeout (u.request (Base64.encode sent))) w
          = (.err e, w') := by
  unfold DohUpstream.exchangeHttpsWith
  constructor
  · intro h
    rcases Async.bind_err_iff.mp h with h | ⟨⟨encoded, id⟩, w₀, hlift, h⟩
    · exact absurd hretry (Async.Throws.lift encodeRequest_throws _ _ _ h)
    obtain ⟨henc, rfl⟩ := Async.lift_ok_iff.mp hlift
    obtain ⟨sent, hwrite, rfl, rfl⟩ := encodeRequest_ok_iff.mp henc
    rcases Async.bind_err_iff.mp h with h | ⟨⟨⟩, w₁, hparse, h⟩
    · exact absurd hretry (Async.Throws.lift (parseUri_throws _) _ _ _ h)
    obtain ⟨huri, rfl⟩ := Async.lift_ok_iff.mp hparse
    rcases Async.bind_err_iff.mp h with h | ⟨⟨status, bodyId⟩, w₂, -, h⟩
    · exact ⟨sent, hwrite, huri, h⟩
    rcases Async.bind_err_iff.mp h with h | ⟨b, w₃, -, h⟩
    · exact absurd hretry (httpOp_throws _ _ _ _ _ h)
    · exact absurd hretry (body_throws _ _ _ h)
  · rintro ⟨sent, hwrite, huri, h⟩
    have henc := encodeRequest_ok_iff.mpr ⟨sent, hwrite, rfl, rfl⟩
    refine Async.bind_err_iff.mpr (Or.inr ⟨_, w, Async.lift_ok_iff.mpr ⟨henc, rfl⟩, ?_⟩)
    refine Async.bind_err_iff.mpr (Or.inr ⟨(), w, Async.lift_ok_iff.mpr ⟨huri, rfl⟩, ?_⟩)
    exact Async.bind_err h

variable {t : Http3Transport} {inner : Cell W (Option Nat)}

theorem transport_ok_iff :
    t.exchangeWith codec net inner skipCheck req w = (.ok m, w') ↔
      ∃ sent sender b m' w₁, codec.toBytes (req.setId 0) = .ok sent ∧
        parseUri net (t.request (Base64.encode sent)).uri = .ok () ∧
        t.getSender net inner w = (.ok sender, w₁) ∧
        DeliversH3 net sender (t.request (Base64.encode sent)) w₁ b w' ∧
        codec.fromBytes b = .ok m' ∧ m'.metadata.id = 0 ∧ m = m'.setId req.metadata.id := by
  unfold Http3Transport.exchangeWith
  constructor
  · intro h
    obtain ⟨sender, w₁, hsender, h⟩ := Async.bind_ok_iff.mp h
    obtain ⟨⟨encoded, id⟩, w₂, hlift, h⟩ := Async.bind_ok_iff.mp h
    obtain ⟨henc, rfl⟩ := Async.lift_ok_iff.mp hlift
    obtain ⟨sent, hwrite, rfl, rfl⟩ := encodeRequest_ok_iff.mp henc
    obtain ⟨⟨⟩, w₃, hparse, h⟩ := Async.bind_ok_iff.mp h
    obtain ⟨huri, rfl⟩ := Async.lift_ok_iff.mp hparse
    obtain ⟨b, w₄, hfetch, h⟩ := Async.bind_ok_iff.mp h
    obtain ⟨hdecode, rfl⟩ := Async.lift_ok_iff.mp h
    obtain ⟨m', hread, hzero, rfl⟩ := decodeResponse_skip_ok_iff.mp hdecode
    exact ⟨sent, sender, b, m', w₁, hwrite, huri, hsender,
      fetch_ok_iff.mp (Async.timeout_ok_iff.mp hfetch), hread, hzero, rfl⟩
  · rintro ⟨sent, sender, b, m', w₁, hwrite, huri, hsender, hnet, hread, hzero, rfl⟩
    have henc := encodeRequest_ok_iff.mpr ⟨sent, hwrite, rfl, rfl⟩
    refine Async.bind_ok_iff.mpr ⟨sender, w₁, hsender, ?_⟩
    refine Async.bind_ok_iff.mpr ⟨_, w₁, Async.lift_ok_iff.mpr ⟨henc, rfl⟩, ?_⟩
    refine Async.bind_ok_iff.mpr ⟨(), w₁, Async.lift_ok_iff.mpr ⟨huri, rfl⟩, ?_⟩
    refine Async.bind_ok_iff.mpr ⟨b, w', Async.timeout_ok (fetch_ok_iff.mpr hnet), ?_⟩
    exact Async.lift_ok_iff.mpr ⟨decodeResponse_skip_ok_iff.mpr ⟨m', hread, hzero, rfl⟩, rfl⟩

theorem transport_broken_iff {e : DohError} (hretry : e.shouldRetry = true) {sent : Bytes}
    (hwrite : codec.toBytes (req.setId 0) = .ok sent)
    (huri : parseUri net (t.request (Base64.encode sent)).uri = .ok ()) :
    t.exchangeWith codec net inner skipCheck req w = (.err e, w') ↔
      t.Breaks net inner (t.request (Base64.encode sent)) w e w' := by
  have henc := encodeRequest_ok_iff.mpr ⟨sent, hwrite, rfl, rfl⟩
  unfold Http3Transport.exchangeWith
  constructor
  · intro h
    rcases Async.bind_err_iff.mp h with h | ⟨sender, w₁, hsender, h⟩
    · exact .connect h
    rcases Async.bind_err_iff.mp h with h | ⟨⟨encoded, id⟩, w₂, hlift, h⟩
    · exact absurd hretry (Async.Throws.lift encodeRequest_throws _ _ _ h)
    obtain ⟨henc', rfl⟩ := Async.lift_ok_iff.mp hlift
    rw [henc] at henc'
    cases henc'
    rcases Async.bind_err_iff.mp h with h | ⟨⟨⟩, w₃, hparse, h⟩
    · exact absurd hretry (Async.Throws.lift (parseUri_throws _) _ _ _ h)
    obtain ⟨-, rfl⟩ := Async.lift_ok_iff.mp hparse
    rcases Async.bind_err_iff.mp h with h | ⟨b, w₄, -, h⟩
    · exact .fetch hsender h
    · exact absurd hretry (Async.Throws.lift (decodeResponse_skip_throws b _) _ _ _ h)
  · rintro (⟨hbroken⟩ | ⟨hsender, hbroken⟩)
    · exact Async.bind_err hbroken
    · refine Async.bind_err_iff.mpr (Or.inr ⟨_, _, hsender, ?_⟩)
      refine Async.bind_err_iff.mpr (Or.inr ⟨_, _, Async.lift_ok_iff.mpr ⟨henc, rfl⟩, ?_⟩)
      refine Async.bind_err_iff.mpr (Or.inr ⟨(), _, Async.lift_ok_iff.mpr ⟨huri, rfl⟩, ?_⟩)
      exact Async.bind_err hbroken

theorem DohUpstream.receive_ok_iff :
    u.exchangeWith codec net skipCheck req w = (.ok m, w') ↔
      (Upstream.doh u).Delivers codec suite net req w m w' := by
  unfold DohUpstream.exchangeWith
  constructor
  · intro h
    obtain ⟨useH3, w₁, hchoose, h⟩ := Async.bind_ok_iff.mp h
    cases useH3 with
    | true =>
      obtain ⟨⟨t, cached⟩, w₂, hget, hrun⟩ := Async.bind_ok_iff.mp h
      rcases retryOnce_ok_iff.mp hrun with hok | ⟨rfl, e, w₃, hbroken, hretry, hok⟩
      · obtain ⟨sent, sender, b, m', w₃, hwrite, huri, hsender, hnet, hread, hzero, rfl⟩ :=
          transport_ok_iff.mp hok
        exact .h3 hwrite huri hchoose (.first hget) hsender hnet hread hzero
      · obtain ⟨_, w₄, hreset, hok⟩ := Async.bind_ok_iff.mp hok
        obtain ⟨sent, sender, b, m', w₅, hwrite, huri, hsender, hnet, hread, hzero, rfl⟩ :=
          transport_ok_iff.mp hok
        exact .h3 hwrite huri hchoose
          (.retry hget ((transport_broken_iff hretry hwrite huri).mp hbroken) hretry hreset) hsender
          hnet hread hzero
    | false =>
      obtain ⟨⟨client, cached⟩, w₂, hget, hrun⟩ := Async.bind_ok_iff.mp h
      rcases retryOnce_ok_iff.mp hrun with hok | ⟨rfl, e, w₃, hbroken, hretry, hok⟩
      · obtain ⟨sent, b, m', hwrite, huri, hnet, hread, hzero, rfl⟩ := https_ok_iff.mp hok
        exact .doh hwrite huri hchoose (.first hget) hnet hread hzero
      · obtain ⟨client', w₄, hreset, hok⟩ := Async.bind_ok_iff.mp hok
        obtain ⟨sent, b, m', hwrite, huri, hnet, hread, hzero, rfl⟩ := https_ok_iff.mp hok
        obtain ⟨sent', hwrite', -, hbroken⟩ := (https_broken_iff hretry).mp hbroken
        rw [hwrite] at hwrite'
        cases hwrite'
        exact .doh hwrite huri hchoose (.retry hget hbroken hretry hreset) hnet hread hzero
  · rintro (- | - | - | - | - | ⟨hwrite, huri, hchoose, huses, hnet, hread, hzero⟩ |
      ⟨hwrite, huri, hchoose, huses, hsender, hnet, hread, hzero⟩)
    · refine Async.bind_ok_iff.mpr ⟨false, _, hchoose, ?_⟩
      have hok := https_ok_iff.mpr ⟨_, _, _, hwrite, huri, hnet, hread, hzero, rfl⟩
      cases huses with
      | first hget => exact Async.bind_ok_iff.mpr ⟨_, _, hget, retryOnce_ok_iff.mpr (Or.inl hok)⟩
      | retry hget hbroken hretry hreset =>
        exact Async.bind_ok_iff.mpr ⟨_, _, hget, retryOnce_ok_iff.mpr (Or.inr ⟨rfl, _, _,
          (https_broken_iff hretry).mpr ⟨_, hwrite, huri, hbroken⟩, hretry,
          Async.bind_ok_iff.mpr ⟨_, _, hreset, hok⟩⟩)⟩
    · refine Async.bind_ok_iff.mpr ⟨true, _, hchoose, ?_⟩
      have hok := transport_ok_iff.mpr ⟨_, _, _, _, _, hwrite, huri, hsender, hnet, hread, hzero, rfl⟩
      cases huses with
      | first hget => exact Async.bind_ok_iff.mpr ⟨_, _, hget, retryOnce_ok_iff.mpr (Or.inl hok)⟩
      | retry hget hbroken hretry hreset =>
        exact Async.bind_ok_iff.mpr ⟨_, _, hget, retryOnce_ok_iff.mpr (Or.inr ⟨rfl, _, _,
          (transport_broken_iff hretry hwrite huri).mpr hbroken, hretry,
          Async.bind_ok_iff.mpr ⟨_, _, hreset, hok⟩⟩)⟩

end

/-- **検査の前に届いている message は、外の世界から届いたものである。** -/
theorem Upstream.receive_ok_iff (u : Upstream W) :
    u.receive codec suite net req w = (.ok m, w') ↔ u.Delivers codec suite net req w m w' := by
  cases u with
  | doh u => exact DohUpstream.receive_ok_iff
  | dot u => exact u.receive_ok_iff
  | doq u => exact DoqUpstream.receive_ok_iff
  | dnsCrypt u => exact DnsCryptUpstream.receive_ok_iff
  | plainUdp u => exact u.receive_ok_iff
  | plainTcp u => exact u.receive_ok_iff

end

end DnsProxy
