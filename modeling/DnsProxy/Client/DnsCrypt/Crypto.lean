import DnsProxy.Client.Net

/-!
# DNSCrypt の wire 形式（`client/dnscrypt/crypto.rs`）

証明書の組み立てと検証、query と response の暗号化を写す。

暗号そのもの（X25519・XSalsa20Poly1305・Ed25519）は library の中にあるので `CryptoSuite` に取る。
切り出しは範囲を外れると panic する形で書き、長さの検査がそれを防いでいることを後で示す。
-/

namespace DnsProxy

open Infra

/-! ## 暗号の部品 -/

/-- `crypto_box` と `ed25519_dalek` の操作。鍵はどれも 32 byte である。 -/
structure CryptoSuite where
  /-- `SecretKey::public_key`。 -/
  publicKey : Block 32 → Block 32
  /-- `SalsaBox::new` が作る共有鍵。 -/
  sharedBox : (secretKey peerPublicKey : Block 32) → Block 32
  encrypt : (salsaBox : Block 32) → (nonce : Block 24) → Bytes → Except String Bytes
  decrypt : (salsaBox : Block 32) → (nonce : Block 24) → Bytes → Except String Bytes
  /-- `SigningKey::verifying_key().to_bytes()`。 -/
  verifyingKey : Block 32 → Block 32
  /-- `VerifyingKey::from_bytes`。 -/
  verifyingKeyFromBytes : Block 32 → Except String (Block 32)
  sign : (signingKey : Block 32) → Bytes → Block 64
  verify : (verifyingKey : Block 32) → Bytes → Block 64 → Bool

/-- 鍵を使わない暗号。暗号文は 16 byte の零を前に付けたものである。計算例に使う。 -/
def CryptoSuite.trivial : CryptoSuite where
  publicKey k := k
  sharedBox _ _ := Block.zeros 32
  encrypt _ _ m := .ok (List.replicate 16 0 ++ m)
  decrypt _ _ c := if c.length < 16 then .error "too short" else .ok (c.drop 16)
  verifyingKey k := k
  verifyingKeyFromBytes k := .ok k
  sign _ _ := Block.zeros 64
  verify _ _ _ := true

variable (suite : CryptoSuite)

/-- `CERT_MAGIC`（`DNSC`）。 -/
def certMagic : Bytes := [0x44, 0x4E, 0x53, 0x43]

/-- `ES_VERSION_XSALSA20POLY1305`。 -/
def esVersionXsalsa20Poly1305 : UInt16 := 1

/-- `RESOLVER_MAGIC`（`r6fnvWj8`）。 -/
def resolverMagic : Bytes := [0x72, 0x36, 0x66, 0x6E, 0x76, 0x57, 0x6A, 0x38]

/-- `main.rs` の `client_magic`（`DNSC\0\0\0\0`）。 -/
def mainClientMagic : Block 8 := ⟨[0x44, 0x4E, 0x53, 0x43, 0, 0, 0, 0], rfl⟩

/-! ## 証明書 -/

structure Certificate where
  resolverPublicKey : Block 32
  clientMagic : Block 8
  serial : UInt32
  tsStart : UInt32
  tsEnd : UInt32
  deriving DecidableEq

/-- `Certificate::is_valid_at`。 -/
def Certificate.isValidAt (c : Certificate) (now : UInt32) : Bool :=
  c.tsStart ≤ now && now < c.tsEnd

/-- `.try_into().ok()?`。失敗は `None` である。 -/
def tryInto (n : Nat) (l : Bytes) : Outcome Unit (Block n) :=
  match Block.ofBytes? n l with
  | some b => .ok b
  | none => .err ()

/-- 署名された部分を読む。 -/
def parseSigned (signed : Bytes) : Outcome Unit Certificate := do
  let resolverPublicKey ← tryInto 32 (← Outcome.slice signed 0 32)
  let clientMagic ← tryInto 8 (← Outcome.slice signed 32 40)
  let serial ← tryInto 4 (← Outcome.slice signed 40 44)
  let tsStart ← tryInto 4 (← Outcome.slice signed 44 48)
  let tsEnd ← tryInto 4 (← Outcome.slice signed 48 52)
  pure
    { resolverPublicKey, clientMagic, serial := serial.be32, tsStart := tsStart.be32
      tsEnd := tsEnd.be32 }

/-- `parse_one_certificate`。`None` を `.err ()` で表す。 -/
def parseOneCertificate (bytes : Bytes) (verifyingKey : Block 32) : Outcome Unit Certificate :=
  if bytes.length < 124 then .err ()
  else do
    let magic ← Outcome.slice bytes 0 4
    if magic ≠ certMagic then .err ()
    else do
      let hi ← Outcome.index bytes 4
      let lo ← Outcome.index bytes 5
      if Bytes.ofBe16 hi lo ≠ esVersionXsalsa20Poly1305 then .err ()
      else do
        let signatureBytes ← Outcome.slice bytes 8 72
        let signed ← Outcome.slice bytes 72 124
        -- `Signature::from_slice` が見るのは長さだけである
        let signature ← tryInto 64 signatureBytes
        if suite.verify verifyingKey signed signature then parseSigned signed else .err ()

/-- `txt_records.iter().filter_map(..).collect()`。 -/
def collectCertificates (verifyingKey : Block 32) :
    List Bytes → Outcome DohError (List Certificate)
  | [] => .ok []
  | txt :: rest =>
    match parseOneCertificate suite txt verifyingKey with
    | .ok cert => do
      let certs ← collectCertificates verifyingKey rest
      pure (cert :: certs)
    | .err _ => collectCertificates verifyingKey rest
    | .pending => .pending
    | .panic => .panic

/-- `parse_certificates`。serial の大きい順に並べる。 -/
def parseCertificates (txtRecords : List Bytes) (providerPublicKey : Block 32) :
    Outcome DohError (List Certificate) :=
  match suite.verifyingKeyFromBytes providerPublicKey with
  | .error e => .err (.dnsCrypt s!"invalid provider public key: {e}")
  | .ok verifyingKey => do
    let certs ← collectCertificates suite verifyingKey txtRecords
    pure (certs.mergeSort fun a b => b.serial ≤ a.serial)

/-- `sign_certificate` の署名する部分。 -/
def signedPart (resolverPublicKey : Block 32) (clientMagic : Block 8)
    (serial tsStart tsEnd : UInt32) : Bytes :=
  resolverPublicKey.1 ++ clientMagic.1 ++ Bytes.toBe32 serial ++ Bytes.toBe32 tsStart
    ++ Bytes.toBe32 tsEnd

/-- `sign_certificate`。 -/
def signCertificate (providerSigningKey resolverPublicKey : Block 32) (clientMagic : Block 8)
    (serial tsStart tsEnd : UInt32) : Bytes :=
  let signed := signedPart resolverPublicKey clientMagic serial tsStart tsEnd
  certMagic ++ Bytes.toBe16 esVersionXsalsa20Poly1305 ++ [0x00, 0x00]
    ++ (suite.sign providerSigningKey signed).1 ++ signed

/-! ## 詰め物 -/

/-- `pad`。`0x80` の後を 0 で埋めて 64 の倍数にする。 -/
def pad (msg : Bytes) : Bytes :=
  let padded := msg ++ [0x80]
  let rem := padded.length % 64
  if rem ≠ 0 then padded ++ List.replicate (64 - rem) 0 else padded

/-- `Iterator::rposition`。 -/
def rposition (p : UInt8 → Bool) (l : Bytes) : Option Nat :=
  (l.reverse.findIdx? p).map fun i => l.length - 1 - i

/-- `unpad`。 -/
def unpad (padded : Bytes) : Outcome DohError Bytes :=
  match rposition (· != 0) padded with
  | some idx => do
    let b ← Outcome.index padded idx
    if b = 0x80 then Outcome.slice padded 0 idx
    else .err (.dnsCrypt "invalid padding in response")
  | none => .err (.dnsCrypt "invalid padding in response")

/-! ## query と response -/

/-- `ClientKeyPair`。 -/
structure ClientKeyPair where
  secretKey : Block 32
  publicKey : Block 32

/-- `copy_from_slice` と `try_into().unwrap()`。長さが合わなければ panic する。 -/
def copyBlock (n : Nat) (l : Bytes) : Outcome DohError (Block n) :=
  match Block.ofBytes? n l with
  | some b => .ok b
  | none => .panic

/-- `salsa_box.encrypt(..).map_err(..)`。 -/
def sealBox (what : String) (salsaBox : Block 32) (nonce : Block 24) (msg : Bytes) :
    Outcome DohError Bytes :=
  match suite.encrypt salsaBox nonce msg with
  | .ok c => .ok c
  | .error e => .err (.dnsCrypt s!"encrypting {what}: {e}")

/-- `salsa_box.decrypt(..).map_err(..)`。 -/
def openBox (what : String) (salsaBox : Block 32) (nonce : Block 24) (ciphertext : Bytes) :
    Outcome DohError Bytes :=
  match suite.decrypt salsaBox nonce ciphertext with
  | .ok m => .ok m
  | .error e => .err (.dnsCrypt s!"decrypting {what}: {e}")

section

variable {W : Type} (net : Net W)

/-- `ClientKeyPair::generate`。 -/
def ClientKeyPair.generate : Async W DohError ClientKeyPair := do
  let secretKey ← randomBytes net 32
  pure { secretKey, publicKey := suite.publicKey secretKey }

/-- `encrypt_query`。 -/
def encryptQuery (cert : Certificate) (client : ClientKeyPair) (msg : Bytes) :
    Async W DohError (Bytes × Block 12) := do
  let clientNonce ← randomBytes net 12
  let fullNonce := clientNonce.append (Block.zeros 12)
  let salsaBox := suite.sharedBox client.secretKey cert.resolverPublicKey
  let ciphertext ← Async.lift (sealBox suite "query" salsaBox fullNonce (pad msg))
  pure (cert.clientMagic.1 ++ client.publicKey.1 ++ clientNonce.1 ++ ciphertext, clientNonce)

/-- `encrypt_server_response`。 -/
def encryptServerResponse (resolverSecret clientPublicKey : Block 32) (clientNonce : Block 12)
    (msg : Bytes) : Async W DohError Bytes := do
  let resolverNonce ← randomBytes net 12
  let fullNonce := clientNonce.append resolverNonce
  let salsaBox := suite.sharedBox resolverSecret clientPublicKey
  let ciphertext ← Async.lift (sealBox suite "response" salsaBox fullNonce (pad msg))
  pure (resolverMagic ++ clientNonce.1 ++ resolverNonce.1 ++ ciphertext)

end

/-- `decrypt_response`。 -/
def decryptResponse (cert : Certificate) (client : ClientKeyPair) (clientNonce : Block 12)
    (resp : Bytes) : Outcome DohError Bytes :=
  if resp.length < resolverMagic.length + 24 then .err (.dnsCrypt "response too short")
  else do
    let magic ← Outcome.slice resp 0 8
    if magic ≠ resolverMagic then .err (.dnsCrypt "response has wrong resolver magic")
    else do
      let respClientNonce ← Outcome.slice resp 8 20
      if respClientNonce ≠ clientNonce.1 then
        .err (.dnsCrypt "response echoes a different client nonce")
      else do
        let resolverNonce ← copyBlock 12 (← Outcome.slice resp 20 32)
        let ciphertext ← Outcome.slice resp 32 resp.length
        let salsaBox := suite.sharedBox client.secretKey cert.resolverPublicKey
        let padded ← openBox suite "response" salsaBox (clientNonce.append resolverNonce) ciphertext
        unpad padded

/-- `decrypt_query`。 -/
def decryptQuery (resolverSecret : Block 32) (expectedClientMagic : Block 8) (framed : Bytes) :
    Outcome DohError (Bytes × Block 32 × Block 12) :=
  if framed.length < 52 then .err (.dnsCrypt "query too short")
  else do
    let magic ← Outcome.slice framed 0 8
    if magic ≠ expectedClientMagic.1 then .err (.dnsCrypt "query has wrong client magic")
    else do
      let clientPublicKey ← copyBlock 32 (← Outcome.slice framed 8 40)
      let clientNonce ← copyBlock 12 (← Outcome.slice framed 40 52)
      let salsaBox := suite.sharedBox resolverSecret clientPublicKey
      let padded ← openBox suite "query" salsaBox (clientNonce.append (Block.zeros 12))
        (← Outcome.slice framed 52 framed.length)
      pure (← unpad padded, clientPublicKey, clientNonce)

/-! ## panic しないこと -/

theorem tryInto_returns (n : Nat) (l : Bytes) : (tryInto n l).Returns := by
  unfold tryInto
  split
  · exact Outcome.returns_ok _
  · exact Outcome.returns_err _

theorem parseSigned_returns {signed : Bytes} (h : signed.length = 52) :
    (parseSigned signed).Returns := by
  unfold parseSigned
  refine (Outcome.slice_returns (by omega) (by omega)).bind fun _ _ => ?_
  refine (tryInto_returns _ _).bind fun resolverPublicKey _ => ?_
  refine (Outcome.slice_returns (by omega) (by omega)).bind fun _ _ => ?_
  refine (tryInto_returns _ _).bind fun clientMagic _ => ?_
  refine (Outcome.slice_returns (by omega) (by omega)).bind fun _ _ => ?_
  refine (tryInto_returns _ _).bind fun serial _ => ?_
  refine (Outcome.slice_returns (by omega) (by omega)).bind fun _ _ => ?_
  refine (tryInto_returns _ _).bind fun tsStart _ => ?_
  refine (Outcome.slice_returns (by omega) (by omega)).bind fun _ _ => ?_
  exact (tryInto_returns _ _).bind fun tsEnd _ => Outcome.returns_ok _

theorem parseOneCertificate_returns (bytes : Bytes) (verifyingKey : Block 32) :
    (parseOneCertificate suite bytes verifyingKey).Returns := by
  unfold parseOneCertificate
  split
  · exact Outcome.returns_err _
  · next hlen =>
    refine (Outcome.slice_returns (by omega) (by omega)).bind fun magic _ => ?_
    split
    · exact Outcome.returns_err _
    refine (Outcome.index_returns (by omega)).bind fun hi _ => ?_
    refine (Outcome.index_returns (by omega)).bind fun lo _ => ?_
    split
    · exact Outcome.returns_err _
    refine (Outcome.slice_returns (by omega) (by omega)).bind fun signatureBytes _ => ?_
    refine (Outcome.slice_returns (by omega) (by omega)).bind fun signed hs => ?_
    refine (tryInto_returns _ _).bind fun signature _ => ?_
    split
    · exact parseSigned_returns (Outcome.slice_length hs)
    · exact Outcome.returns_err _

theorem collectCertificates_returns (verifyingKey : Block 32) (txtRecords : List Bytes) :
    (collectCertificates suite verifyingKey txtRecords).Returns := by
  induction txtRecords with
  | nil => exact Outcome.returns_ok _
  | cons txt rest ih =>
    unfold collectCertificates
    rcases parseOneCertificate_returns suite txt verifyingKey with ⟨cert, hc⟩ | ⟨u, hu⟩
    · rw [hc]
      exact ih.bind fun certs _ => Outcome.returns_ok _
    · rw [hu]
      exact ih

theorem parseCertificates_returns (txtRecords : List Bytes) (providerPublicKey : Block 32) :
    (parseCertificates suite txtRecords providerPublicKey).Returns := by
  unfold parseCertificates
  split
  · exact Outcome.returns_err _
  · exact (collectCertificates_returns suite _ _).bind fun _ _ => Outcome.returns_ok _

theorem rposition_lt {p : UInt8 → Bool} {l : Bytes} {i : Nat} (h : rposition p l = some i) :
    i < l.length := by
  unfold rposition at h
  obtain ⟨k, hk, hi⟩ := Option.map_eq_some_iff.mp h
  have hlt : k < l.reverse.length := (List.findIdx?_eq_some_iff_getElem.mp hk).1
  rw [List.length_reverse] at hlt
  omega

theorem unpad_returns (padded : Bytes) : (unpad padded).Returns := by
  unfold unpad
  split
  · next idx hidx =>
    have hlt : idx < padded.length := rposition_lt hidx
    refine (Outcome.index_returns hlt).bind fun b _ => ?_
    split
    · exact Outcome.slice_returns (by omega) (by omega)
    · exact Outcome.returns_err _
  · exact Outcome.returns_err _

theorem copyBlock_returns {n : Nat} {l : Bytes} (h : l.length = n) : (copyBlock n l).Returns := by
  unfold copyBlock Block.ofBytes?
  rw [dif_pos h]
  exact Outcome.returns_ok _

theorem sealBox_returns (what : String) (salsaBox : Block 32) (nonce : Block 24) (msg : Bytes) :
    (sealBox suite what salsaBox nonce msg).Returns := by
  unfold sealBox
  split
  · exact Outcome.returns_ok _
  · exact Outcome.returns_err _

theorem openBox_returns (what : String) (salsaBox : Block 32) (nonce : Block 24) (c : Bytes) :
    (openBox suite what salsaBox nonce c).Returns := by
  unfold openBox
  split
  · exact Outcome.returns_ok _
  · exact Outcome.returns_err _

/-- 届いた byte 列が何であっても、`decrypt_response` は値か失敗を返す。 -/
theorem decryptResponse_returns (cert : Certificate) (client : ClientKeyPair)
    (clientNonce : Block 12) (resp : Bytes) :
    (decryptResponse suite cert client clientNonce resp).Returns := by
  unfold decryptResponse
  split
  · exact Outcome.returns_err _
  · next hlen =>
    have hlen : 32 ≤ resp.length := by
      change ¬ resp.length < 8 + 24 at hlen
      omega
    refine (Outcome.slice_returns (by omega) (by omega)).bind fun magic _ => ?_
    split
    · exact Outcome.returns_err _
    refine (Outcome.slice_returns (by omega) (by omega)).bind fun respClientNonce _ => ?_
    split
    · exact Outcome.returns_err _
    refine (Outcome.slice_returns (by omega) (by omega)).bind fun nonceBytes hn => ?_
    refine (copyBlock_returns (Outcome.slice_length hn)).bind fun resolverNonce _ => ?_
    refine (Outcome.slice_returns (by omega) (by omega)).bind fun ciphertext _ => ?_
    exact (openBox_returns suite _ _ _ _).bind fun padded _ => unpad_returns padded

end DnsProxy
