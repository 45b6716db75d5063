import DnsProxy.Listener.Io

/-!
# DNSCrypt の listener（`listener/dnscrypt.rs`）

一つの宛先に、証明書を尋ねる素の TXT query と、暗号化された query の両方が届く。
素の query として読めて provider の名前の TXT を尋ねているものだけを自分で答え、
ほかはすべて暗号化された query として扱う。
-/

namespace DnsProxy

open Infra

variable {W : Type} (codec : Codec) (suite : CryptoSuite) (net : Net W)

structure DnsCryptServerConfig where
  resolverSecretKey : Block 32
  providerName : String
  clientMagic : Block 8
  certBytes : Bytes

/-- `DnsCryptServerConfig::new`。 -/
def DnsCryptServerConfig.new (resolverSecretKey providerSigningKey : Block 32)
    (providerName : String) (clientMagic : Block 8) (serial tsStart tsEnd : UInt32) :
    DnsCryptServerConfig where
  resolverSecretKey
  providerName
  clientMagic
  certBytes := signCertificate suite providerSigningKey (suite.publicKey resolverSecretKey)
    clientMagic serial tsStart tsEnd

/-- 証明書の TXT の応答。 -/
def providerTxtReply (config : DnsCryptServerConfig) (id : UInt16) (query : Query) : Message :=
  { Message.new id .response .query with
    queries := [query]
    answers := [{ name := query.name, ttl := 60, data := .txt [config.certBytes] }] }

/-- `try_answer_provider_txt`。失敗することは無い。 -/
def tryAnswerProviderTxt (packet : Bytes) (config : DnsCryptServerConfig) : Option Message :=
  match codec.fromBytes packet with
  | .error _ => none
  | .ok req =>
    if req.metadata.messageType ≠ .query then none
    else
      match req.queries.head? with
      | none => none
      | some query =>
        if query.queryType ≠ RecordType.TXT then none
        else
          match codec.nameFromAscii config.providerName with
          | .error _ => none
          | .ok providerName =>
            if !query.name.eqIgnoreRoot providerName then none
            else some (providerTxtReply config req.metadata.id query)

/-- `Response`。 -/
inductive Response where
  | plain (resp : Message)
  | encrypted (clientPublicKey : Block 32) (clientNonce : Block 12) (respBytes : Bytes)

/-- `respond`。 -/
def respond (packet : Bytes) (config : DnsCryptServerConfig) (handler : Handler W) :
    Async W DohError Response :=
  match tryAnswerProviderTxt codec packet config with
  | some resp => pure (.plain resp)
  | none => do
    let (reqBytes, clientPublicKey, clientNonce) ←
      Async.lift (decryptQuery suite config.resolverSecretKey config.clientMagic packet)
    let req ← Async.lift (unpack codec "unpacking dnscrypt query" reqBytes)
    let resp ← handler req
    let respBytes ← Async.lift (pack codec resp)
    pure (.encrypted clientPublicKey clientNonce respBytes)

/-- 512 byte を超える応答の代わりに、切り詰めた応答を暗号化する。 -/
def encryptUdp (config : DnsCryptServerConfig) (clientPublicKey : Block 32)
    (clientNonce : Block 12) (respBytes : Bytes) : Async W DohError Bytes := do
  let framed ← encryptServerResponse suite net config.resolverSecretKey clientPublicKey clientNonce
    respBytes
  if framed.length > 512 then do
    let resp ← Async.lift (unpack codec "re-parsing response" respBytes)
    let truncatedBytes ← Async.lift (pack codec resp.truncate)
    encryptServerResponse suite net config.resolverSecretKey clientPublicKey clientNonce
      truncatedBytes
  else pure framed

/-- `handle_udp_packet`。 -/
def handleDnsCryptUdp (socket : Nat) (packet : Bytes) (peer : SocketAddr)
    (config : DnsCryptServerConfig) (handler : Handler W) : Async W DohError Unit := do
  match ← respond codec suite packet config handler with
  | .plain resp => do
    let bytes ← Async.lift (packUdp codec resp)
    io (net.udpSendTo socket bytes peer)
  | .encrypted clientPublicKey clientNonce respBytes => do
    let framed ← encryptUdp codec suite net config clientPublicKey clientNonce respBytes
    io (net.udpSendTo socket framed peer)

/-- TCP の一つの要求への答え。 -/
def answerDnsCryptTcp (config : DnsCryptServerConfig) (handler : Handler W) (packet : Bytes) :
    Async W DohError Bytes := do
  match ← respond codec suite packet config handler with
  | .plain resp => Async.lift (pack codec resp)
  | .encrypted clientPublicKey clientNonce respBytes =>
    encryptServerResponse suite net config.resolverSecretKey clientPublicKey clientNonce respBytes

/-- `handle_tcp_connection`。 -/
def handleDnsCryptTcp (stream : Nat) (config : DnsCryptServerConfig) (handler : Handler W)
    (fuel : Nat) : Async W DohError Unit :=
  tcpLoop net stream (answerDnsCryptTcp codec suite net config handler) fuel

end DnsProxy
