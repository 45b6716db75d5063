import DnsProxy.Client.Plain
import DnsProxy.Client.DnsCrypt.Stamp

/-!
# DNSCrypt の upstream（`client/dnscrypt.rs`）

証明書を素の TXT query で取ってきて取っておき、それで query を暗号化して UDP で送る。
応答が切り詰められていれば、同じ byte 列を TCP で送り直す。

期限は `exchange` の全体に一つ掛かるだけで、その内側には無い。したがって、応答を待ったまま
期限が切れると、内側の再試行には入らずに全体が打ち切られる。

`log` は証明のための記録で、動作には使わない。
-/

namespace DnsProxy

open Infra

/-- 証明書について起きたこと。 -/
inductive CertEvent where
  /-- `fetch_provider_txt` を呼んだ。 -/
  | fetch
  /-- この証明書で query を暗号化した。 -/
  | encrypt (cert : Certificate)
  deriving DecidableEq

structure DnsCryptUpstream (W : Type) where
  stamp : DnsCryptStamp
  timeout : Option Duration
  cert : Cell W (Option Certificate)
  log : Cell W (List CertEvent)

namespace DnsCryptUpstream

variable {W : Type} (codec : Codec) (suite : CryptoSuite) (net : Net W)

/-- 起きたことを書き留める。新しいものが後に来る。 -/
def note (u : DnsCryptUpstream W) (e : CertEvent) : Async W DohError Unit :=
  Async.modify fun w => u.log.set (u.log.get w ++ [e]) w

/-- `DnsCryptUpstream::exchange_udp`。 -/
def exchangeUdp (u : DnsCryptUpstream W) (framed : Bytes) : Async W DohError Bytes := do
  let sock ← io (net.udpBind u.stamp.addr.ip.isIpv4)
  io (net.udpConnect sock u.stamp.addr)
  io (net.udpSend sock framed)
  let buf ← io (net.udpRecv sock 65535)
  pure buf.1

/-- `DnsCryptUpstream::exchange_tcp`。 -/
def exchangeTcp (u : DnsCryptUpstream W) (framed : Bytes) : Async W DohError Bytes :=
  if framed.length > 65535 then
    Async.throw (.dnsCrypt "encrypted query too large for tcp framing")
  else do
    let tcp ← io (net.tcpConnect u.stamp.addr)
    exchangeFramed net tcp framed

/-- `DnsCryptUpstream::fetch_provider_txt` の query。 -/
def providerQuery (id : UInt16) (name : Name) : Message :=
  { metadata := { id, messageType := .query, opCode := .query, recursionDesired := true }
    queries := [{ name, queryType := RecordType.TXT }] }

/-- TXT record の中身を並べる。 -/
def txtData (answers : List Record) : List Bytes :=
  answers.flatMap fun rec =>
    match rec.data with
    | .txt txt => txt
    | _ => []

/-- `Name::from_ascii(..).map_err(..)`。 -/
def providerNameOf (u : DnsCryptUpstream W) : Outcome DohError Name :=
  match codec.nameFromAscii u.stamp.providerName with
  | .ok name => .ok name
  | .error e => .err (.dnsCrypt s!"invalid provider name: {e}")

/-- `DnsCryptUpstream::fetch_provider_txt`。 -/
def fetchProviderTxt (u : DnsCryptUpstream W) : Async W DohError (List Bytes) := do
  u.note .fetch
  let name ← Async.lift (u.providerNameOf codec)
  let id ← randomBytes net 2
  let reqBytes ← Async.lift (pack codec (providerQuery id.be16 name))
  let buf ← u.exchangeUdp net reqBytes
  let resp ← Async.lift (unpack codec "unpacking cert response" buf)
  pure (txtData resp.answers)

/-- 有効な証明書のうち先頭のもの。 -/
def chooseCert (u : DnsCryptUpstream W) (now : UInt32) (certs : List Certificate) :
    Outcome DohError Certificate :=
  match (certs.filter (·.isValidAt now)).head? with
  | some cert => .ok cert
  | none =>
    .err (.dnsCrypt
      s!"no valid certificate found for provider {net.std.debug u.stamp.providerName}")

/-- `DnsCryptUpstream::refresh_cert`。 -/
def refreshCert (u : DnsCryptUpstream W) : Async W DohError Certificate := do
  let txtRecords ← u.fetchProviderTxt codec net
  let certs ← Async.lift (parseCertificates suite txtRecords u.stamp.providerPublicKey)
  let now ← Async.gets net.nowUnix
  let cert ← Async.lift (u.chooseCert net now certs)
  lock net
  Async.write u.cert (some cert)
  pure cert

/-- 取ってある証明書のうち、まだ有効なもの。 -/
def validCached (u : DnsCryptUpstream W) (w : W) : Option Certificate :=
  (u.cert.get w).filter (·.isValidAt (net.nowUnix w))

/-- `DnsCryptUpstream::current_cert`。 -/
def currentCert (u : DnsCryptUpstream W) : Async W DohError Certificate := do
  lock net
  match ← Async.gets (u.validCached net) with
  | some cert => pure cert
  | none => u.refreshCert codec suite net

theorem currentCert_apply (u : DnsCryptUpstream W) (w : W) :
    u.currentCert codec suite net w
      = (match u.validCached net (net.lock w) with
        | some cert => pure cert
        | none => u.refreshCert codec suite net) (net.lock w) := rfl

/-- 暗号化された応答を解いて読む。 -/
def openResponse (cert : Certificate) (client : ClientKeyPair) (clientNonce : Block 12)
    (encResp : Bytes) : Outcome DohError Message := do
  let respBytes ← decryptResponse suite cert client clientNonce encResp
  unpack codec "unpacking response" respBytes

/-- 検査して返す。 -/
def finish (check : Message → Outcome DohError Unit) (resp : Message) :
    Async W DohError Message := do
  Async.lift (check resp)
  pure resp

/-- `DnsCryptUpstream::exchange_with_cert`。 -/
def exchangeWithCertWith (u : DnsCryptUpstream W) (cert : Certificate)
    (check : Message → Outcome DohError Unit) (req : Message) : Async W DohError Message := do
  let reqBytes ← Async.lift (pack codec req)
  let client ← ClientKeyPair.generate suite net
  let (framed, clientNonce) ← encryptQuery suite net cert client reqBytes
  u.note (.encrypt cert)
  let encResp ← u.exchangeUdp net framed
  let resp ← Async.lift (openResponse codec suite cert client clientNonce encResp)
  if resp.metadata.truncation then do
    let encResp ← u.exchangeTcp net framed
    let resp ← Async.lift (openResponse codec suite cert client clientNonce encResp)
    finish check resp
  else finish check resp

/-- UDP の応答を開いたところから先は、切り詰められていたかどうかで分かれる。 -/
theorem exchangeWithCertWith_apply {codec : Codec} {suite : CryptoSuite} {net : Net W}
    {u : DnsCryptUpstream W} {cert : Certificate} {check : Message → Outcome DohError Unit}
    {req resp : Message} {reqBytes framed encResp : Bytes} {client : ClientKeyPair}
    {clientNonce : Block 12} {w w₁ w₂ w₃ w₄ : W} (hpack : pack codec req = .ok reqBytes)
    (hgenerate : ClientKeyPair.generate suite net w = (.ok client, w₁))
    (hencrypt : encryptQuery suite net cert client reqBytes w₁ = (.ok (framed, clientNonce), w₂))
    (hnote : u.note (.encrypt cert) w₂ = (.ok (), w₃))
    (hudp : u.exchangeUdp net framed w₃ = (.ok encResp, w₄))
    (hopen : openResponse codec suite cert client clientNonce encResp = .ok resp) :
    u.exchangeWithCertWith codec suite net cert check req w
      = (if resp.metadata.truncation then do
          let encResp ← u.exchangeTcp net framed
          let resp ← Async.lift (openResponse codec suite cert client clientNonce encResp)
          finish check resp
        else finish check resp) w₄ := by
  unfold exchangeWithCertWith
  rw [hpack, Async.lift_bind_ok, Async.bind_ok hgenerate, Async.bind_ok hencrypt]
  dsimp only
  rw [Async.bind_ok hnote, Async.bind_ok hudp, hopen, Async.lift_bind_ok]

theorem finish_ok {check : Message → Outcome DohError Unit} {resp : Message}
    (h : check resp = .ok ()) (w : W) :
    (finish check resp : Async W DohError Message) w = (.ok resp, w) := by
  unfold finish
  rw [h]
  rfl

/-- `DnsCryptUpstream::exchange` の `fut`。 -/
def attemptWith (u : DnsCryptUpstream W) (check : Message → Outcome DohError Unit)
    (req : Message) : Async W DohError Message := do
  let cert ← u.currentCert codec suite net
  (u.exchangeWithCertWith codec suite net cert check req).handle fun e =>
    match e with
    | .timeout _ | .io _ => do
      let cert ← u.refreshCert codec suite net
      u.exchangeWithCertWith codec suite net cert check req
    | e => Async.throw e

/-- `DnsCryptUpstream::exchange`。 -/
def exchangeWith (u : DnsCryptUpstream W) (check : Message → Outcome DohError Unit)
    (req : Message) : Async W DohError Message :=
  withTimeout u.timeout (u.attemptWith codec suite net check req)

/-! ## 検査の前と後 -/

section

variable {codec suite net} {check : Message → Outcome DohError Unit}

theorem checked_withCert (u : DnsCryptUpstream W) (cert : Certificate) (req : Message) :
    Async.Checked check (u.exchangeWithCertWith codec suite net cert check req)
      (u.exchangeWithCertWith codec suite net cert skipCheck req) := by
  refine Async.Checked.bind fun reqBytes => Async.Checked.bind fun client => ?_
  refine Async.Checked.bind fun p => Async.Checked.bind fun _ => ?_
  refine Async.Checked.bind fun encResp => Async.Checked.bind fun resp => ?_
  split
  · refine Async.Checked.bind fun encResp => Async.Checked.bind fun resp => ?_
    exact Async.Checked.final resp
  · exact Async.Checked.final resp

theorem checked (u : DnsCryptUpstream W) (req : Message) (hc : IsCheck check) :
    Async.Checked check (u.exchangeWith codec suite net check req)
      (u.exchangeWith codec suite net skipCheck req) := by
  refine Async.Checked.timeout hc.ne_pending (Async.Checked.bind fun cert => ?_)
  refine Async.Checked.handle (u.checked_withCert cert req) ?_ ?_
  · intro e
    split
    · exact Async.Checked.bind fun cert => u.checked_withCert cert req
    · exact Async.Checked.bind fun cert => u.checked_withCert cert req
    · exact Async.Checked.throw _
  · intro a e he w
    obtain ⟨msg, rfl⟩ := hc.err a e he
    rfl

end

/-! ## panic しないこと -/

section

variable {codec suite net}

theorem noPanic_exchangeUdp (u : DnsCryptUpstream W) (framed : Bytes) :
    (u.exchangeUdp net framed).NoPanic := by
  refine (noPanic_io _).bind fun sock => (noPanic_io _).bind fun _ => (noPanic_io _).bind fun _ => ?_
  exact (noPanic_io _).bind fun buf => Async.NoPanic.pure _

theorem noPanic_exchangeTcp (u : DnsCryptUpstream W) (framed : Bytes) :
    (u.exchangeTcp net framed).NoPanic := by
  unfold exchangeTcp
  split
  · exact Async.NoPanic.throw _
  · exact (noPanic_io _).bind fun tcp => noPanic_exchangeFramed tcp framed

theorem noPanic_note (u : DnsCryptUpstream W) (e : CertEvent) : (u.note e).NoPanic :=
  Async.NoPanic.modify _

theorem providerNameOf_ne_panic (u : DnsCryptUpstream W) : u.providerNameOf codec ≠ .panic := by
  unfold providerNameOf
  split <;> simp

theorem chooseCert_ne_panic (u : DnsCryptUpstream W) (now : UInt32) (certs : List Certificate) :
    u.chooseCert net now certs ≠ .panic := by
  unfold chooseCert
  split <;> simp

theorem noPanic_fetchProviderTxt (u : DnsCryptUpstream W) :
    (u.fetchProviderTxt codec net).NoPanic := by
  refine (u.noPanic_note _).bind fun _ => ?_
  refine (Async.NoPanic.lift u.providerNameOf_ne_panic).bind fun name => ?_
  refine (noPanic_random net 2).bind fun id => ?_
  refine (Async.NoPanic.lift (pack_ne_panic _ _)).bind fun reqBytes => ?_
  refine (u.noPanic_exchangeUdp _).bind fun buf => ?_
  exact (Async.NoPanic.lift (unpack_ne_panic _ _ _)).bind fun resp => Async.NoPanic.pure _

theorem noPanic_refreshCert (u : DnsCryptUpstream W) :
    (u.refreshCert codec suite net).NoPanic := by
  refine u.noPanic_fetchProviderTxt.bind fun txtRecords => ?_
  refine (Async.NoPanic.lift (parseCertificates_returns suite _ _).ne_panic).bind fun certs => ?_
  refine (Async.NoPanic.gets _).bind fun now => ?_
  refine (Async.NoPanic.lift (u.chooseCert_ne_panic _ _)).bind fun cert => ?_
  refine (noPanic_lock net).bind fun _ => ?_
  exact (Async.NoPanic.modify _).bind fun _ => Async.NoPanic.pure _

theorem noPanic_currentCert (u : DnsCryptUpstream W) :
    (u.currentCert codec suite net).NoPanic := by
  refine (noPanic_lock net).bind fun _ => (Async.NoPanic.gets _).bind fun cached => ?_
  cases cached with
  | some cert => exact Async.NoPanic.pure _
  | none => exact u.noPanic_refreshCert

theorem openResponse_ne_panic (cert : Certificate) (client : ClientKeyPair)
    (clientNonce : Block 12) (encResp : Bytes) :
    openResponse codec suite cert client clientNonce encResp ≠ .panic := by
  unfold openResponse
  rcases decryptResponse_returns suite cert client clientNonce encResp with ⟨b, hb⟩ | ⟨e, he⟩
  · rw [hb]
    exact unpack_ne_panic _ _ _
  · rw [he]
    simp

theorem noPanic_withCert (u : DnsCryptUpstream W) (cert : Certificate) (req : Message) :
    (u.exchangeWithCertWith codec suite net cert skipCheck req).NoPanic := by
  have hopen : ∀ client clientNonce encResp,
      (Async.lift (openResponse codec suite cert client clientNonce encResp)
        : Async W DohError Message).NoPanic :=
    fun _ _ _ => Async.NoPanic.lift (openResponse_ne_panic _ _ _ _)
  refine (Async.NoPanic.lift (pack_ne_panic _ _)).bind fun reqBytes => ?_
  refine Async.NoPanic.bind ((noPanic_random net 32).bind fun _ => Async.NoPanic.pure _) fun client => ?_
  refine Async.NoPanic.bind ?_ fun p => ?_
  · refine (noPanic_random net 12).bind fun clientNonce => ?_
    exact (Async.NoPanic.lift (sealBox_returns suite _ _ _ _).ne_panic).bind fun _ =>
      Async.NoPanic.pure _
  · refine (u.noPanic_note _).bind fun _ => (u.noPanic_exchangeUdp _).bind fun encResp => ?_
    refine (hopen _ _ _).bind fun resp => ?_
    split
    · refine (u.noPanic_exchangeTcp _).bind fun encResp => ?_
      exact (hopen _ _ _).bind fun resp => Async.NoPanic.pure _
    · exact Async.NoPanic.pure _

theorem noPanic (u : DnsCryptUpstream W) (req : Message) :
    (u.exchangeWith codec suite net skipCheck req).NoPanic := by
  refine Async.NoPanic.timeout (u.noPanic_currentCert.bind fun cert => ?_)
  refine (u.noPanic_withCert cert req).handle fun e => ?_
  split
  · exact u.noPanic_refreshCert.bind fun cert => u.noPanic_withCert cert req
  · exact u.noPanic_refreshCert.bind fun cert => u.noPanic_withCert cert req
  · exact Async.NoPanic.throw _

end

end DnsCryptUpstream

end DnsProxy
