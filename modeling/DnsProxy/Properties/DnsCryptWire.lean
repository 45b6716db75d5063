import Mathlib.Order.Bounds.Basic
import DnsProxy.Client.DnsCrypt.Crypto

/-!
# DNSCrypt の両端の wire 形式

client が書いた query を server が読み、server が書いた response を client が読む。
詰め物・nonce の二つの半分・証明書の並びは、それぞれ別の関数が書くので、ここで突き合わせる。
詰め物は、message の末尾がそれらしく見えても一意に外れる（`pad_unpad_exact`）。

暗号の部品については、library の文書が約束することだけを `CryptoSuite.Laws` に挙げる。
-/

namespace DnsProxy

open Infra

/-! ## 暗号の部品の約束 -/

/-- `crypto_box` と `ed25519_dalek` の文書が約束すること。 -/
structure CryptoSuite.Laws (suite : CryptoSuite) : Prop where
  /-- 暗号文は、16 byte の認証子の分だけ長い。 -/
  encrypt : ∀ salsaBox nonce m, ∃ c, suite.encrypt salsaBox nonce m = .ok c ∧ c.length = m.length + 16
  decrypt : ∀ salsaBox nonce m c, suite.encrypt salsaBox nonce m = .ok c →
    suite.decrypt salsaBox nonce c = .ok m
  /-- X25519 の共有鍵は、どちらの側から作っても同じである。 -/
  sharedBox : ∀ a b, suite.sharedBox a (suite.publicKey b) = suite.sharedBox b (suite.publicKey a)
  verifyingKey : ∀ k, suite.verifyingKeyFromBytes (suite.verifyingKey k) = .ok (suite.verifyingKey k)
  verify : ∀ k m, suite.verify (suite.verifyingKey k) m (suite.sign k m) = true

theorem CryptoSuite.trivial_laws : CryptoSuite.trivial.Laws where
  encrypt _ _ m := ⟨_, rfl, by rw [List.length_append, List.length_replicate]; omega⟩
  decrypt := by
    intro salsaBox nonce m c h
    cases h
    show (if (List.replicate 16 (0 : UInt8) ++ m).length < 16 then Except.error "too short"
      else Except.ok ((List.replicate 16 (0 : UInt8) ++ m).drop 16)) = _
    rw [if_neg (by rw [List.length_append, List.length_replicate]; omega),
      List.drop_left' List.length_replicate]
  sharedBox _ _ := rfl
  verifyingKey _ := rfl
  verify _ _ := rfl

/-! ## 詰め物 -/

/-- 0 の並びを後に付けても、最後の 0 でない byte は動かない。 -/
theorem rposition_last {b : UInt8} (hb : b ≠ 0) (msg : Bytes) (k : Nat) :
    rposition (· != 0) (msg ++ b :: List.replicate k 0) = some msg.length := by
  have hrev : (msg ++ b :: List.replicate k 0).reverse
      = List.replicate k 0 ++ b :: msg.reverse := by simp
  have hfind : (List.replicate k (0 : UInt8) ++ b :: msg.reverse).findIdx? (· != 0) = some k := by
    rw [List.findIdx?_append, List.findIdx?_replicate]
    simp [List.findIdx?_cons, hb]
  unfold rposition
  rw [hrev, hfind]
  simp only [Option.map_some, List.length_append, List.length_cons, List.length_replicate,
    Option.some.injEq]
  omega

/-- 0 だけの列には、0 でない byte がない。 -/
theorem rposition_zeros (k : Nat) :
    rposition (· != 0) (List.replicate k 0) = none := by
  unfold rposition
  rw [List.reverse_replicate, List.findIdx?_replicate]
  simp

/-- byte の列は、0 だけか、最後の 0 でない byte で切れるかのどちらかである。 -/
theorem zeros_or_last (p : Bytes) :
    (∃ k, p = List.replicate k 0) ∨
      ∃ m b k, b ≠ 0 ∧ p = m ++ b :: List.replicate k 0 := by
  -- 後ろから 1 byte ずつ見る。0 なら、前の分かれ方に 0 を一つ足すだけである。
  induction p using List.reverseRecOn with
  | nil => exact .inl ⟨0, rfl⟩
  | append_singleton l b ih =>
    by_cases hb : b = 0
    · subst hb
      rcases ih with ⟨k, rfl⟩ | ⟨m, c, k, hc, rfl⟩
      · exact .inl ⟨k + 1, List.replicate_succ'.symm⟩
      · refine .inr ⟨m, c, k + 1, hc, ?_⟩
        rw [List.replicate_succ', List.append_assoc, List.cons_append]
    · exact .inr ⟨l, b, 0, hb, rfl⟩

/-- `pad` は `0x80` と 0 の並びを後に付ける。 -/
theorem pad_eq (msg : Bytes) : ∃ k, pad msg = msg ++ 0x80 :: List.replicate k 0 := by
  unfold pad
  dsimp only
  split
  · exact ⟨_, List.append_assoc _ _ _⟩
  · exact ⟨0, rfl⟩

/-- `pad` の長さは、`0x80` も入れて 64 の倍数に切り上げたものである。 -/
theorem pad_length (msg : Bytes) : (pad msg).length = (msg.length / 64 + 1) * 64 := by
  unfold pad
  dsimp only
  split
  · next h =>
    rw [List.length_append] at h
    simp only [List.length_append, List.length_replicate, List.length_singleton] at h ⊢
    omega
  · next h =>
    simp only [List.length_append, List.length_singleton, ne_eq, not_not] at h ⊢
    omega

/-- `pad` の長さは、元の長さを超える 64 の倍数のうち最も小さい。 -/
theorem pad_length_isLeast (msg : Bytes) :
    IsLeast {n | 64 ∣ n ∧ msg.length < n} (pad msg).length := by
  rw [pad_length]
  constructor
  · exact ⟨Nat.dvd_mul_left _ _, by omega⟩
  · rintro n ⟨⟨q, rfl⟩, hlt⟩
    omega

/-- 最後の 0 でない byte が `0x80` なら、`unpad` はその手前を返す。 -/
theorem unpad_marker (msg : Bytes) (k : Nat) :
    unpad (msg ++ 0x80 :: List.replicate k 0) = .ok msg := by
  have hmarker : (msg ++ 0x80 :: List.replicate k 0)[msg.length]? = some (0x80 : UInt8) := by
    simp
  unfold unpad
  rw [rposition_last (by decide)]
  dsimp only
  unfold Outcome.index
  rw [hmarker]
  simp only [Outcome.ok_bind, if_true]
  rw [Outcome.slice_ok (by omega) (by simp)]
  simp

/-- 最後の 0 でない byte が `0x80` でなければ、`unpad` は失敗する。 -/
theorem unpad_other {b : UInt8} (hb : b ≠ 0) (h80 : b ≠ 0x80) (msg : Bytes) (k : Nat) :
    unpad (msg ++ b :: List.replicate k 0) = .err (.dnsCrypt "invalid padding in response") := by
  have hlast : (msg ++ b :: List.replicate k 0)[msg.length]? = some b := by simp
  unfold unpad
  rw [rposition_last hb]
  dsimp only
  unfold Outcome.index
  rw [hlast]
  simp only [Outcome.ok_bind, if_neg h80]

theorem unpad_zeros (k : Nat) :
    unpad (List.replicate k 0) = .err (.dnsCrypt "invalid padding in response") := by
  unfold unpad
  rw [rposition_zeros]

/-- `unpad` の入力は、詰め物の形をしていて読めるか、その形でなくて失敗するかのどちらかである。 -/
theorem unpad_cases (p : Bytes) :
    (∃ m k, p = m ++ 0x80 :: List.replicate k 0 ∧ unpad p = .ok m) ∨
      unpad p = .err (.dnsCrypt "invalid padding in response") := by
  rcases zeros_or_last p with ⟨k, rfl⟩ | ⟨m, b, k, hb, rfl⟩
  · exact .inr (unpad_zeros k)
  · by_cases h80 : b = 0x80
    · subst h80
      exact .inl ⟨m, k, rfl, unpad_marker m k⟩
    · exact .inr (unpad_other hb h80 m k)

/-- `unpad` の返すものは、`0x80` と 0 の並びを除いたものに限る。 -/
theorem unpad_eq_ok_iff (p m : Bytes) :
    unpad p = .ok m ↔ ∃ k, p = m ++ 0x80 :: List.replicate k 0 := by
  constructor
  · intro h
    rcases unpad_cases p with ⟨m', k, hp, hok⟩ | herr
    · rw [h] at hok
      cases hok
      exact ⟨k, hp⟩
    · rw [h] at herr
      cases herr
  · rintro ⟨k, rfl⟩
    exact unpad_marker m k

/-- `unpad` が失敗するのは、詰め物の形に切れないときに限る。 -/
theorem unpad_err_iff (p : Bytes) :
    (∃ e, unpad p = .err e) ↔ ¬ ∃ m k, p = m ++ 0x80 :: List.replicate k 0 := by
  constructor
  · rintro ⟨e, he⟩ ⟨m, k, rfl⟩
    rw [unpad_marker] at he
    cases he
  · intro hno
    rcases unpad_cases p with ⟨m, k, hp, -⟩ | herr
    · exact absurd ⟨m, k, hp⟩ hno
    · exact ⟨_, herr⟩

/-- **`unpad` は `pad` の逆である。** -/
theorem unpad_pad (msg : Bytes) : unpad (pad msg) = .ok msg :=
  (unpad_eq_ok_iff _ _).mpr (pad_eq msg)

theorem pad_injective : Function.Injective pad := by
  intro m₁ m₂ h
  have hok := unpad_pad m₁
  rw [h, unpad_pad] at hok
  cases hok
  rfl

/-- **詰め物は一意に外れる。** 長さは元の長さを超える最小の 64 の倍数で、`unpad` が返すのは
`0x80` と 0 の並びを除いたものに限り、その形でないものはすべて失敗する。
元の message が `0x80` や 0 で終わっていてもよい。 -/
theorem pad_unpad_exact :
    (∀ m : Bytes, IsLeast {n | 64 ∣ n ∧ m.length < n} (pad m).length ∧ unpad (pad m) = .ok m) ∧
    (∀ p m : Bytes, unpad p = .ok m ↔ ∃ k, p = m ++ 0x80 :: List.replicate k 0) ∧
    Function.Injective pad ∧
    ∀ p : Bytes,
      (∃ e, unpad p = .err e) ↔ ¬ ∃ m k, p = m ++ 0x80 :: List.replicate k 0 :=
  ⟨fun m => ⟨pad_length_isLeast m, unpad_pad m⟩, unpad_eq_ok_iff, pad_injective, unpad_err_iff⟩

/-! ## query と response -/

/-- query の並び。 -/
def queryFrame (clientMagic : Block 8) (clientPublicKey : Block 32) (clientNonce : Block 12)
    (ciphertext : Bytes) : Bytes :=
  clientMagic.1 ++ clientPublicKey.1 ++ clientNonce.1 ++ ciphertext

/-- response の並び。 -/
def responseFrame (clientNonce resolverNonce : Block 12) (ciphertext : Bytes) : Bytes :=
  resolverMagic ++ clientNonce.1 ++ resolverNonce.1 ++ ciphertext

theorem queryFrame_length (clientMagic : Block 8) (clientPublicKey : Block 32)
    (clientNonce : Block 12) (ciphertext : Bytes) :
    (queryFrame clientMagic clientPublicKey clientNonce ciphertext).length
      = 52 + ciphertext.length := by
  unfold queryFrame
  simp only [List.length_append, clientMagic.2, clientPublicKey.2, clientNonce.2]

theorem responseFrame_length (clientNonce resolverNonce : Block 12) (ciphertext : Bytes) :
    (responseFrame clientNonce resolverNonce ciphertext).length = 32 + ciphertext.length := by
  unfold responseFrame
  simp only [List.length_append, clientNonce.2, resolverNonce.2]
  rfl

theorem copyBlock_self {n : Nat} (b : Block n) : copyBlock n b.1 = .ok b := by
  unfold copyBlock
  rw [Block.ofBytes?_self]

section

variable {suite : CryptoSuite}

theorem openBox_ok {what : String} {salsaBox : Block 32} {nonce : Block 24} {m c : Bytes}
    (h : suite.decrypt salsaBox nonce c = .ok m) :
    openBox suite what salsaBox nonce c = .ok m := by
  unfold openBox
  rw [h]

/-- `decrypt_query` の切り出しは、`queryFrame` の四つの部分に当たる。 -/
theorem decryptQuery_eq (resolverSecret : Block 32) (clientMagic : Block 8)
    (clientPublicKey : Block 32) (clientNonce : Block 12) (c : Bytes) :
    decryptQuery suite resolverSecret clientMagic
        (queryFrame clientMagic clientPublicKey clientNonce c)
      = (do
        let padded ← openBox suite "query" (suite.sharedBox resolverSecret clientPublicKey)
          (clientNonce.append (Block.zeros 12)) c
        pure (← unpad padded, clientPublicKey, clientNonce)) := by
  have hlen := queryFrame_length clientMagic clientPublicKey clientNonce c
  have hmagic : Outcome.slice (queryFrame clientMagic clientPublicKey clientNonce c) 0 8
      = (.ok clientMagic.1 : Outcome DohError Bytes) :=
    Outcome.slice_append [] clientMagic.1 (clientPublicKey.1 ++ (clientNonce.1 ++ c))
      (by simp [queryFrame]) rfl (by simp [clientMagic.2])
  have hkey : Outcome.slice (queryFrame clientMagic clientPublicKey clientNonce c) 8 40
      = (.ok clientPublicKey.1 : Outcome DohError Bytes) :=
    Outcome.slice_append clientMagic.1 clientPublicKey.1 (clientNonce.1 ++ c)
      (by simp [queryFrame]) clientMagic.2 (by simp [clientPublicKey.2])
  have hnonce : Outcome.slice (queryFrame clientMagic clientPublicKey clientNonce c) 40 52
      = (.ok clientNonce.1 : Outcome DohError Bytes) :=
    Outcome.slice_append (clientMagic.1 ++ clientPublicKey.1) clientNonce.1 c
      (by simp [queryFrame]) (by simp [clientMagic.2, clientPublicKey.2]) (by simp [clientNonce.2])
  have hrest : Outcome.slice (queryFrame clientMagic clientPublicKey clientNonce c) 52
        (queryFrame clientMagic clientPublicKey clientNonce c).length
      = (.ok c : Outcome DohError Bytes) :=
    Outcome.slice_append (clientMagic.1 ++ clientPublicKey.1 ++ clientNonce.1) c []
      (by simp [queryFrame]) (by simp [clientMagic.2, clientPublicKey.2, clientNonce.2]) hlen
  unfold decryptQuery
  rw [if_neg (by omega), hmagic, hkey, hnonce, hrest]
  simp only [Outcome.ok_bind, ne_eq, not_true_eq_false, if_false, copyBlock_self]

/-- **`decrypt_query` は、鍵と nonce の合う query から、元の message と client の鍵と nonce を読む。** -/
theorem decryptQuery_queryFrame {resolverSecret : Block 32} {clientMagic : Block 8}
    {clientPublicKey : Block 32} {clientNonce : Block 12} {msg c : Bytes}
    (h : suite.decrypt (suite.sharedBox resolverSecret clientPublicKey)
      (clientNonce.append (Block.zeros 12)) c = .ok (pad msg)) :
    decryptQuery suite resolverSecret clientMagic
        (queryFrame clientMagic clientPublicKey clientNonce c)
      = .ok (msg, clientPublicKey, clientNonce) := by
  rw [decryptQuery_eq, openBox_ok h, Outcome.ok_bind, unpad_pad]
  rfl

/-- **`decrypt_response` は、鍵と nonce の合う response から、元の message を読む。** -/
theorem decryptResponse_responseFrame {cert : Certificate} {client : ClientKeyPair}
    {clientNonce resolverNonce : Block 12} {msg c : Bytes}
    (h : suite.decrypt (suite.sharedBox client.secretKey cert.resolverPublicKey)
      (clientNonce.append resolverNonce) c = .ok (pad msg)) :
    decryptResponse suite cert client clientNonce (responseFrame clientNonce resolverNonce c)
      = .ok msg := by
  have hlen := responseFrame_length clientNonce resolverNonce c
  have hmagic : Outcome.slice (responseFrame clientNonce resolverNonce c) 0 8
      = (.ok resolverMagic : Outcome DohError Bytes) :=
    Outcome.slice_append [] resolverMagic (clientNonce.1 ++ (resolverNonce.1 ++ c))
      (by simp [responseFrame]) rfl rfl
  have hnonce : Outcome.slice (responseFrame clientNonce resolverNonce c) 8 20
      = (.ok clientNonce.1 : Outcome DohError Bytes) :=
    Outcome.slice_append resolverMagic clientNonce.1 (resolverNonce.1 ++ c)
      (by simp [responseFrame]) rfl (by simp [clientNonce.2])
  have hresolver : Outcome.slice (responseFrame clientNonce resolverNonce c) 20 32
      = (.ok resolverNonce.1 : Outcome DohError Bytes) :=
    Outcome.slice_append (resolverMagic ++ clientNonce.1) resolverNonce.1 c
      (by simp [responseFrame]) (by simp [clientNonce.2, resolverMagic]) (by simp [resolverNonce.2])
  have hrest : Outcome.slice (responseFrame clientNonce resolverNonce c) 32
        (responseFrame clientNonce resolverNonce c).length
      = (.ok c : Outcome DohError Bytes) :=
    Outcome.slice_append (resolverMagic ++ clientNonce.1 ++ resolverNonce.1) c []
      (by simp [responseFrame]) (by simp [clientNonce.2, resolverNonce.2, resolverMagic]) hlen
  have hmin : ¬ (responseFrame clientNonce resolverNonce c).length < resolverMagic.length + 24 := by
    show ¬ _ < 8 + 24
    omega
  unfold decryptResponse
  rw [if_neg hmin, hmagic, hnonce, hresolver, hrest]
  simp only [Outcome.ok_bind, ne_eq, not_true_eq_false, if_false, copyBlock_self, openBox_ok h,
    unpad_pad]

end

/-! ## 暗号化して送るもの -/

/-- query の frame の長さ。 -/
def queryFrameSize (msg : Bytes) : Nat := 52 + (16 + (pad msg).length)

/-- response の frame の長さ。 -/
def responseFrameSize (msg : Bytes) : Nat := 32 + (16 + (pad msg).length)

/-- 65408 byte 以上の query は、frame が 65535 byte を超える。 -/
theorem queryFrameSize_gt {msg : Bytes} (h : 65408 ≤ msg.length) : 65535 < queryFrameSize msg := by
  unfold queryFrameSize
  rw [pad_length]
  omega

theorem responseFrameSize_mono {a b : Bytes} (h : a.length ≤ b.length) :
    responseFrameSize a ≤ responseFrameSize b := by
  have hdiv : a.length / 64 ≤ b.length / 64 := Nat.div_le_div_right h
  unfold responseFrameSize
  rw [pad_length, pad_length]
  omega

section

variable {W : Type} {suite : CryptoSuite} (laws : suite.Laws) (net : Net W)

include laws

theorem sealBox_ok (what : String) (salsaBox : Block 32) (nonce : Block 24) (m : Bytes) :
    ∃ c, sealBox suite what salsaBox nonce m = .ok c ∧ c.length = m.length + 16 ∧
      suite.decrypt salsaBox nonce c = .ok m := by
  obtain ⟨c, hc, hlen⟩ := laws.encrypt salsaBox nonce m
  refine ⟨c, ?_, hlen, laws.decrypt salsaBox nonce m c hc⟩
  unfold sealBox
  rw [hc]

/-- **`encrypt_query` の書いたものは、`decrypt_query` が読む。** -/
theorem encryptQuery_spec {cert : Certificate} {client : ClientKeyPair} {resolverSecret : Block 32}
    (hcert : cert.resolverPublicKey = suite.publicKey resolverSecret)
    (hclient : client.publicKey = suite.publicKey client.secretKey) (msg : Bytes) (w : W) :
    ∃ c, encryptQuery suite net cert client msg w
        = (.ok (queryFrame cert.clientMagic client.publicKey (net.random 12 w).1 c,
            (net.random 12 w).1), (net.random 12 w).2) ∧
      c.length = 16 + (pad msg).length ∧
      decryptQuery suite resolverSecret cert.clientMagic
          (queryFrame cert.clientMagic client.publicKey (net.random 12 w).1 c)
        = .ok (msg, client.publicKey, (net.random 12 w).1) := by
  obtain ⟨c, hseal, hlen, hopen⟩ := sealBox_ok laws "query"
    (suite.sharedBox client.secretKey cert.resolverPublicKey)
    ((net.random 12 w).1.append (Block.zeros 12)) (pad msg)
  refine ⟨c, ?_, by omega, decryptQuery_queryFrame ?_⟩
  · show (Async.lift (sealBox suite "query" _ _ (pad msg)) >>= _) (net.random 12 w).2 = _
    rw [hseal]
    rfl
  · rw [hclient, laws.sharedBox, ← hcert]
    exact hopen

/-- **`encrypt_server_response` の書いたものは、`decrypt_response` が読む。** -/
theorem encryptServerResponse_spec {cert : Certificate} {client : ClientKeyPair}
    {resolverSecret : Block 32} (hcert : cert.resolverPublicKey = suite.publicKey resolverSecret)
    (hclient : client.publicKey = suite.publicKey client.secretKey) (clientNonce : Block 12)
    (msg : Bytes) (w : W) :
    ∃ framed, encryptServerResponse suite net resolverSecret client.publicKey clientNonce msg w
        = (.ok framed, (net.random 12 w).2) ∧
      framed.length = responseFrameSize msg ∧
      decryptResponse suite cert client clientNonce framed = .ok msg := by
  obtain ⟨c, hseal, hlen, hopen⟩ := sealBox_ok laws "response"
    (suite.sharedBox resolverSecret client.publicKey)
    (clientNonce.append (net.random 12 w).1) (pad msg)
  refine ⟨responseFrame clientNonce (net.random 12 w).1 c, ?_, ?_, decryptResponse_responseFrame ?_⟩
  · show (Async.lift (sealBox suite "response" _ _ (pad msg)) >>= _) (net.random 12 w).2 = _
    rw [hseal]
    rfl
  · rw [responseFrame_length, hlen]
    unfold responseFrameSize
    omega
  · rw [hcert, laws.sharedBox, ← hclient]
    exact hopen

end

/-! ## 証明書 -/

theorem tryInto_self {n : Nat} (b : Block n) : tryInto n b.1 = .ok b := by
  unfold tryInto
  rw [Block.ofBytes?_self]

theorem signedPart_length (resolverPublicKey : Block 32) (clientMagic : Block 8)
    (serial tsStart tsEnd : UInt32) :
    (signedPart resolverPublicKey clientMagic serial tsStart tsEnd).length = 52 := by
  unfold signedPart
  simp only [List.length_append, resolverPublicKey.2, clientMagic.2, Bytes.toBe32_length]

/-- 署名する部分は、そのまま読み戻せる。 -/
theorem parseSigned_signedPart (resolverPublicKey : Block 32) (clientMagic : Block 8)
    (serial tsStart tsEnd : UInt32) :
    parseSigned (signedPart resolverPublicKey clientMagic serial tsStart tsEnd)
      = .ok { resolverPublicKey, clientMagic, serial, tsStart, tsEnd } := by
  have hk := resolverPublicKey.2
  have hm := clientMagic.2
  generalize hs : signedPart resolverPublicKey clientMagic serial tsStart tsEnd = signed
  have hkey : Outcome.slice signed 0 32 = (.ok resolverPublicKey.1 : Outcome Unit Bytes) :=
    Outcome.slice_append [] resolverPublicKey.1
      (clientMagic.1 ++ Bytes.toBe32 serial ++ Bytes.toBe32 tsStart ++ Bytes.toBe32 tsEnd)
      (by simp [← hs, signedPart]) rfl (by simp [hk])
  have hmagic : Outcome.slice signed 32 40 = (.ok clientMagic.1 : Outcome Unit Bytes) :=
    Outcome.slice_append resolverPublicKey.1 clientMagic.1
      (Bytes.toBe32 serial ++ Bytes.toBe32 tsStart ++ Bytes.toBe32 tsEnd)
      (by simp [← hs, signedPart]) hk (by simp [hm])
  have hserial : Outcome.slice signed 40 44 = (.ok (Bytes.toBe32 serial) : Outcome Unit Bytes) :=
    Outcome.slice_append (resolverPublicKey.1 ++ clientMagic.1) (Bytes.toBe32 serial)
      (Bytes.toBe32 tsStart ++ Bytes.toBe32 tsEnd) (by simp [← hs, signedPart]) (by simp [hk, hm]) rfl
  have hstart : Outcome.slice signed 44 48 = (.ok (Bytes.toBe32 tsStart) : Outcome Unit Bytes) :=
    Outcome.slice_append (resolverPublicKey.1 ++ clientMagic.1 ++ Bytes.toBe32 serial)
      (Bytes.toBe32 tsStart) (Bytes.toBe32 tsEnd) (by simp [← hs, signedPart]) (by simp [hk, hm]) rfl
  have hend : Outcome.slice signed 48 52 = (.ok (Bytes.toBe32 tsEnd) : Outcome Unit Bytes) :=
    Outcome.slice_append
      (resolverPublicKey.1 ++ clientMagic.1 ++ Bytes.toBe32 serial ++ Bytes.toBe32 tsStart)
      (Bytes.toBe32 tsEnd) [] (by simp [← hs, signedPart]) (by simp [hk, hm]) rfl
  have hword : ∀ n : UInt32, tryInto 4 (Bytes.toBe32 n) = .ok ⟨Bytes.toBe32 n, rfl⟩ :=
    fun n => tryInto_self ⟨Bytes.toBe32 n, rfl⟩
  unfold parseSigned
  simp only [hkey, hmagic, hserial, hstart, hend, Outcome.ok_bind, tryInto_self, hword,
    Block.be32_toBe32]
  rfl

section

variable {suite : CryptoSuite}

/-- **`sign_certificate` の署名は `parse_one_certificate` を通り、元の値が読める。** -/
theorem parseOneCertificate_sign {providerSigningKey : Block 32}
    (hverify : ∀ m, suite.verify (suite.verifyingKey providerSigningKey) m
      (suite.sign providerSigningKey m) = true)
    (resolverPublicKey : Block 32) (clientMagic : Block 8) (serial tsStart tsEnd : UInt32) :
    parseOneCertificate suite
        (signCertificate suite providerSigningKey resolverPublicKey clientMagic serial tsStart tsEnd)
        (suite.verifyingKey providerSigningKey)
      = .ok { resolverPublicKey, clientMagic, serial, tsStart, tsEnd } := by
  have hparse := parseSigned_signedPart resolverPublicKey clientMagic serial tsStart tsEnd
  have hlen := signedPart_length resolverPublicKey clientMagic serial tsStart tsEnd
  unfold signCertificate
  dsimp only
  generalize signedPart resolverPublicKey clientMagic serial tsStart tsEnd = signed at hparse hlen ⊢
  generalize hsig : suite.sign providerSigningKey signed = signature
  generalize hb : certMagic ++ Bytes.toBe16 esVersionXsalsa20Poly1305 ++ [0x00, 0x00]
    ++ signature.1 ++ signed = bytes
  have hs := signature.2
  have hbytes : bytes.length = 124 := by
    rw [← hb]
    simp only [List.length_append, hs, hlen]
    rfl
  have hmagic : Outcome.slice bytes 0 4 = (.ok certMagic : Outcome Unit Bytes) :=
    Outcome.slice_append [] certMagic
      (Bytes.toBe16 esVersionXsalsa20Poly1305 ++ [0x00, 0x00] ++ signature.1 ++ signed)
      (by simp [← hb]) rfl rfl
  have hhi : Outcome.index bytes 4 = (.ok 0 : Outcome Unit UInt8) := by
    rw [← hb]
    rfl
  have hlo : Outcome.index bytes 5 = (.ok 1 : Outcome Unit UInt8) := by
    rw [← hb]
    rfl
  have hsigned : Outcome.slice bytes 72 124 = (.ok signed : Outcome Unit Bytes) :=
    Outcome.slice_append
      (certMagic ++ Bytes.toBe16 esVersionXsalsa20Poly1305 ++ [0x00, 0x00] ++ signature.1) signed []
      (by simp [← hb]) (by simp [hs, certMagic]) (by rw [hlen])
  have hsignature : Outcome.slice bytes 8 72 = (.ok signature.1 : Outcome Unit Bytes) :=
    Outcome.slice_append (certMagic ++ Bytes.toBe16 esVersionXsalsa20Poly1305 ++ [0x00, 0x00])
      signature.1 signed (by simp [← hb]) rfl (by rw [hs])
  have hverify : suite.verify (suite.verifyingKey providerSigningKey) signed signature = true := by
    rw [← hsig]
    exact hverify signed
  have hversion : Bytes.ofBe16 0 1 = esVersionXsalsa20Poly1305 := by decide
  unfold parseOneCertificate
  rw [if_neg (by omega)]
  simp only [hmagic, hhi, hlo, hsigned, hsignature, Outcome.ok_bind, ne_eq, not_true_eq_false,
    if_false, hversion, tryInto_self, hverify, if_true, hparse]

/-- 署名した証明書を一つだけ載せた TXT からは、その証明書だけが取れる。 -/
theorem parseCertificates_sign (laws : suite.Laws) (providerSigningKey resolverPublicKey : Block 32)
    (clientMagic : Block 8) (serial tsStart tsEnd : UInt32) :
    parseCertificates suite
        [signCertificate suite providerSigningKey resolverPublicKey clientMagic serial tsStart tsEnd]
        (suite.verifyingKey providerSigningKey)
      = .ok [{ resolverPublicKey, clientMagic, serial, tsStart, tsEnd }] := by
  unfold parseCertificates
  rw [laws.verifyingKey]
  simp only [collectCertificates, parseOneCertificate_sign (laws.verify _), Outcome.ok_bind, Outcome.pure_eq,
    List.mergeSort_singleton]

theorem signCertificate_length (providerSigningKey resolverPublicKey : Block 32)
    (clientMagic : Block 8) (serial tsStart tsEnd : UInt32) :
    (signCertificate suite providerSigningKey resolverPublicKey clientMagic serial tsStart
      tsEnd).length = 124 := by
  unfold signCertificate
  simp only [List.length_append, signedPart_length, (suite.sign _ _).2]
  rfl

end

end DnsProxy
