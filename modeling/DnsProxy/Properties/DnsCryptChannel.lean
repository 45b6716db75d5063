import DnsProxy.Infra.Hoare
import DnsProxy.Properties.CertBatch

/-!
# DNSCrypt の通信路

DNSCrypt の upstream が外へ出す byte 列を、送った時刻とともにすべて記録する。network は何を返してもよく、
待つ間に同じ upstream の別の `exchange` が走って、取ってある証明書を差し替えてもよい。

* 出て行くのは、provider の名前だけで決まる証明書の query か、要求を暗号化したもの（とその長さ）だけである
* 暗号化に使う証明書は、provider の鍵で署名されたもので、`exchange` の始まりから送るまでの間のある時点で
  有効である
* 返る応答は、その `exchange` が送った query の鍵と nonce で解けたもので、question が要求に合う
-/

namespace DnsProxy

open Infra

/-! ## 証明書の署名 -/

/-- 証明書の欄のすべてに、鍵 `key` の署名がある。 -/
def Certificate.SignedBy (suite : CryptoSuite) (key : Block 32) (cert : Certificate) : Prop :=
  ∃ verifyingKey signature, suite.verifyingKeyFromBytes key = .ok verifyingKey ∧
    suite.verify verifyingKey (signedPart cert.resolverPublicKey cert.clientMagic cert.serial
      cert.tsStart cert.tsEnd) signature = true

theorem exists_toBe32 {b : Bytes} (h : b.length = 4) : ∃ n, Bytes.toBe32 n = b := by
  match b, h with
  | [a, b, c, d], _ => exact ⟨_, Bytes.toBe32_ofBe32 a b c d⟩

/-- 52 byte は、どれも署名する部分として読める。 -/
theorem exists_signedPart {signed : Bytes} (h : signed.length = 52) :
    ∃ key magic serial tsStart tsEnd, signedPart key magic serial tsStart tsEnd = signed := by
  obtain ⟨serial, hserial⟩ := exists_toBe32 (b := (signed.drop 40).take 4) (by simp [h])
  obtain ⟨tsStart, hstart⟩ := exists_toBe32 (b := (signed.drop 44).take 4) (by simp [h])
  obtain ⟨tsEnd, hend⟩ := exists_toBe32 (b := signed.drop 48) (by simp [h])
  refine ⟨⟨signed.take 32, by simp [h]⟩, ⟨(signed.drop 32).take 8, by simp [h]⟩, serial, tsStart, tsEnd,
    ?_⟩
  unfold signedPart
  rw [hserial, hstart, hend]
  have hcut : ∀ i n, (signed.drop i).take n ++ signed.drop (i + n) = signed.drop i := by
    intro i n
    rw [← List.drop_drop]
    exact List.take_append_drop n _
  simp only [List.append_assoc]
  rw [hcut 44 4, hcut 40 4, hcut 32 8]
  exact List.take_append_drop 32 signed

section

variable {suite : CryptoSuite}

/-- **`parse_one_certificate` を通った証明書には、欄のすべてに署名がある。** -/
theorem parseOneCertificate_signed {txt : Bytes} {verifyingKey : Block 32} {cert : Certificate}
    (h : parseOneCertificate suite txt verifyingKey = .ok cert) :
    ∃ signature, suite.verify verifyingKey (signedPart cert.resolverPublicKey cert.clientMagic
      cert.serial cert.tsStart cert.tsEnd) signature = true := by
  unfold parseOneCertificate at h
  split at h
  · cases h
  obtain ⟨magic, -, h⟩ := Outcome.bind_eq_ok h
  split at h
  · cases h
  obtain ⟨hi, -, h⟩ := Outcome.bind_eq_ok h
  obtain ⟨lo, -, h⟩ := Outcome.bind_eq_ok h
  split at h
  · cases h
  obtain ⟨signatureBytes, -, h⟩ := Outcome.bind_eq_ok h
  obtain ⟨signed, hsigned, h⟩ := Outcome.bind_eq_ok h
  obtain ⟨signature, -, h⟩ := Outcome.bind_eq_ok h
  split at h
  · next hverify =>
    obtain ⟨key, magic, serial, tsStart, tsEnd, rfl⟩ :=
      exists_signedPart (Outcome.slice_length hsigned)
    rw [parseSigned_signedPart] at h
    cases h
    exact ⟨signature, hverify⟩
  · cases h

theorem collectCertificates_signed {verifyingKey : Block 32} :
    ∀ {txtRecords : List Bytes} {certs : List Certificate},
      collectCertificates suite verifyingKey txtRecords = .ok certs → ∀ cert ∈ certs,
        ∃ txt, parseOneCertificate suite txt verifyingKey = .ok cert
  | [], certs, h, cert, hmem => by
    cases h
    cases hmem
  | txt :: rest, certs, h, cert, hmem => by
    unfold collectCertificates at h
    split at h
    · next c hc =>
      obtain ⟨certs', hrest, h⟩ := Outcome.bind_eq_ok h
      cases h
      rcases List.mem_cons.mp hmem with rfl | hmem
      · exact ⟨txt, hc⟩
      · exact collectCertificates_signed hrest cert hmem
    · exact collectCertificates_signed h cert hmem
    · cases h
    · cases h

/-- `parse_certificates` の返す証明書は、どれも provider の鍵で署名されている。 -/
theorem parseCertificates_signed {txtRecords : List Bytes} {key : Block 32}
    {certs : List Certificate} (h : parseCertificates suite txtRecords key = .ok certs)
    {cert : Certificate} (hmem : cert ∈ certs) : cert.SignedBy suite key := by
  unfold parseCertificates at h
  split at h
  · cases h
  · next verifyingKey hkey =>
    obtain ⟨found, hfound, h⟩ := Outcome.bind_eq_ok h
    cases h
    rw [List.mem_mergeSort] at hmem
    obtain ⟨txt, htxt⟩ := collectCertificates_signed hfound cert hmem
    obtain ⟨signature, hverify⟩ := parseOneCertificate_signed htxt
    exact ⟨verifyingKey, signature, hkey, hverify⟩

end

/-! ## 送った byte 列の記録 -/

variable {W : Type}

/-- 送った byte 列と、送った時刻。 -/
structure Tapped where
  bytes : Bytes
  time : UInt32

/-- 送った byte 列を、失敗したものも含めて記録する世界。 -/
def tapNet (net : Net W) : Net (List Tapped × W) :=
  { net.onSnd with
    udpSend := fun sock b t =>
      ((net.udpSend sock b t.2).1,
        (t.1 ++ [{ bytes := b, time := net.nowUnix t.2 }], (net.udpSend sock b t.2).2))
    writeAll := fun stream b t =>
      ((net.writeAll stream b t.2).1,
        (t.1 ++ [{ bytes := b, time := net.nowUnix t.2 }], (net.writeAll stream b t.2).2)) }

/-- 手元の状態 `S` を添えた世界での upstream。 -/
def DnsCryptUpstream.onSnd {S : Type} (u : DnsCryptUpstream W) : DnsCryptUpstream (S × W) where
  stamp := u.stamp
  timeout := u.timeout
  cert := u.cert.onSnd
  log := u.log.onSnd

/-! ## 途中で成り立つこと -/

/-- 取ってある証明書には署名があり、時刻は `T` より前に戻っていない。 -/
structure DnsCryptUpstream.Sound (suite : CryptoSuite) (net : Net W) (u : DnsCryptUpstream W)
    (T : UInt32) (w : W) : Prop where
  now : T ≤ net.nowUnix w
  cached : ∀ cert, u.cert.get w = some cert → cert.SignedBy suite u.stamp.providerPublicKey

/-- DNSCrypt の使う操作は、どれも `P` を保つ。待つ間にほかの task が世界を動かすことも含む。 -/
structure Net.Maintains (net : Net W) (P : W → Prop) : Prop where
  udpBind : ∀ v4, (net.udpBind v4).Maintains P
  udpConnect : ∀ sock addr, (net.udpConnect sock addr).Maintains P
  udpSend : ∀ sock b, (net.udpSend sock b).Maintains P
  udpRecv : ∀ sock size, (net.udpRecv sock size).Maintains P
  tcpConnect : ∀ addr, (net.tcpConnect addr).Maintains P
  writeAll : ∀ stream b, (net.writeAll stream b).Maintains P
  readExact : ∀ stream n, (net.readExact stream n).Maintains P
  lock : ∀ w, P w → P (net.lock w)
  random : ∀ n w, P w → P (net.random n w).2

/-- 証明書の置き場所には書いたものが残り、置き場所への書き込みは時刻を動かさない。 -/
structure DnsCryptUpstream.Separate (net : Net W) (u : DnsCryptUpstream W) : Prop where
  cert_get : ∀ c w, u.cert.get (u.cert.set c w) = c
  cert_now : ∀ c w, net.nowUnix (u.cert.set c w) = net.nowUnix w
  log_cert : ∀ l w, u.cert.get (u.log.set l w) = u.cert.get w
  log_now : ∀ l w, net.nowUnix (u.log.set l w) = net.nowUnix w

/-- `cert` は署名のある証明書で、`T` から `t` までのある時点で有効だった。 -/
def Chosen (suite : CryptoSuite) (u : DnsCryptUpstream W) (T t : UInt32) (cert : Certificate) :
    Prop :=
  cert.SignedBy suite u.stamp.providerPublicKey ∧
    ∃ now, T ≤ now ∧ now ≤ t ∧ cert.isValidAt now = true

/-- `framed` は、`msg` を `cert` の鍵に宛てて暗号化した query である。 -/
def Frames (suite : CryptoSuite) (cert : Certificate) (client : ClientKeyPair) (nonce : Block 12)
    (msg framed : Bytes) : Prop :=
  client.publicKey = suite.publicKey client.secretKey ∧
    ∃ c, suite.encrypt (suite.sharedBox client.secretKey cert.resolverPublicKey)
        (nonce.append (Block.zeros 12)) (pad msg) = .ok c ∧
      framed = cert.clientMagic.1 ++ client.publicKey.1 ++ nonce.1 ++ c

section

variable (codec : Codec) (suite : CryptoSuite) (u : DnsCryptUpstream W) (req : Message) (T : UInt32)

/-- 証明書の query か、要求を暗号化したもの、またはその長さ。 -/
def Permitted (e : Tapped) : Prop :=
  (∃ name id, codec.nameFromAscii u.stamp.providerName = .ok name ∧
    codec.toBytes (DnsCryptUpstream.providerQuery id name) = .ok e.bytes) ∨
  ∃ cert client nonce msg framed, Chosen suite u T e.time cert ∧ codec.toBytes req = .ok msg ∧
    Frames suite cert client nonce msg framed ∧
      (e.bytes = framed ∨ e.bytes = Bytes.toBe16 (UInt16.ofNat framed.length))

/-- `m` は、送った query への応答を、その鍵と nonce で解いたもので、要求に合う。 -/
def Authentic (log : List Tapped) (t : UInt32) (m : Message) : Prop :=
  ∃ cert client nonce msg framed encResp, Chosen suite u T t cert ∧ codec.toBytes req = .ok msg ∧
    Frames suite cert client nonce msg framed ∧ (∃ e ∈ log, e.bytes = framed) ∧
    DnsCryptUpstream.openResponse codec suite cert client nonce encResp = .ok m ∧
    MatchesQuestion req m

/-- 記録にあるのは、出してよいものだけである。 -/
def AllPermitted (log : List Tapped) : Prop := ∀ e ∈ log, Permitted codec suite u req T e

variable {codec suite u req T}

theorem AllPermitted.append {log : List Tapped} {e : Tapped} (h : AllPermitted codec suite u req T log)
    (he : Permitted codec suite u req T e) : AllPermitted codec suite u req T (log ++ [e]) := by
  intro x hx
  rcases List.mem_append.mp hx with hx | hx
  · exact h x hx
  · rw [List.mem_singleton.mp hx]
    exact he

end

/-- 世界は `now` から先で健全であり、記録は `L` を満たす。 -/
def At (suite : CryptoSuite) (net : Net W) (u : DnsCryptUpstream W) (now : UInt32)
    (L : List Tapped → Prop) (t : List Tapped × W) : Prop := u.Sound suite net now t.2 ∧ L t.1

section

variable {codec : Codec} {suite : CryptoSuite} {net : Net W} {u : DnsCryptUpstream W}
  {req : Message} {T now : UInt32} {L : List Tapped → Prop}

/-- 証明書 `cert` を手にしていて、それは `T` から後のある時点で有効だった。 -/
def Held (suite : CryptoSuite) (net : Net W) (u : DnsCryptUpstream W) (T : UInt32)
    (L : List Tapped → Prop) (cert : Certificate) (t : List Tapped × W) : Prop :=
  ∃ now, (T ≤ now ∧ cert.isValidAt now = true ∧ cert.SignedBy suite u.stamp.providerPublicKey) ∧
    At suite net u now L t

theorem At.mono {L' : List Tapped → Prop} {t : List Tapped × W} (h : At suite net u now L t)
    (hT : T ≤ now) (hL : ∀ log, L log → L' log) : At suite net u T L' t :=
  ⟨⟨UInt32.le_trans hT h.1.now, h.1.cached⟩, hL _ h.2⟩

/-- 記録に触れない操作。 -/
theorem maintains_onSnd {ε α : Type} {op : Op W ε α} (h : op.Maintains (u.Sound suite net now)) :
    (op.onSnd : Op (List Tapped × W) ε α).Maintains (At suite net u now L) :=
  fun t ht => ⟨h t.2 ht.1, ht.2⟩

theorem triple_io {α : Type} {op : Op W String α} (h : op.Maintains (u.Sound suite net now)) :
    Async.Triple (At suite net u now L) (io (op.onSnd : Op (List Tapped × W) String α))
      (fun _ => At suite net u now L) (At suite net u now L) :=
  Async.Triple.call_keeps (maintains_onSnd h)

variable (hsep : u.Separate net) (hrely : ∀ now, net.Maintains (u.Sound suite net now))

include hsep in
theorem triple_note (e : CertEvent) :
    Async.Triple (At suite net u now L) ((u.onSnd : DnsCryptUpstream (List Tapped × W)).note e)
      (fun _ => At suite net u now L) (At suite net u now L) := by
  refine Async.Triple.modify fun t ht => ⟨⟨?_, fun cert hc => ht.1.cached cert ?_⟩, ht.2⟩
  · show now ≤ net.nowUnix (u.log.set _ t.2)
    rw [hsep.log_now]
    exact ht.1.now
  · rw [← hsep.log_cert]
    exact hc

include hrely

theorem triple_random (n : Nat) :
    Async.Triple (At suite net u now L) (randomBytes (tapNet net) n)
      (fun _ => At suite net u now L) (At suite net u now L) := by
  intro t ht
  have hkeep : At suite net u now L (randomBytes (tapNet net) n t).2 :=
    ⟨(hrely now).random n t.2 ht.1, ht.2⟩
  exact ⟨fun a t' h => (by rw [h] at hkeep; exact hkeep), fun _ => hkeep⟩

theorem triple_lock :
    Async.Triple (At suite net u now L) (lock (tapNet net))
      (fun _ => At suite net u now L) (At suite net u now L) :=
  Async.Triple.modify fun t ht => ⟨(hrely now).lock t.2 ht.1, ht.2⟩

/-- 送ったものは、送った時刻とともに記録に加わる。 -/
theorem triple_udpSend {L' : List Tapped → Prop} (sock : Nat) (b : Bytes)
    (hL : ∀ log e, L log → now ≤ e.time → e.bytes = b → L' (log ++ [e])) :
    Async.Triple (At suite net u now L) (io ((tapNet net).udpSend sock b))
      (fun _ => At suite net u now L') (At suite net u now L') := by
  have hkeep : ∀ t, At suite net u now L t →
      At suite net u now L' ((tapNet net).udpSend sock b t).2 :=
    fun t ht => ⟨(hrely now).udpSend sock b t.2 ht.1, hL _ _ ht.2 ht.1.now rfl⟩
  exact Async.Triple.call (fun t a t' ht hop => by simpa [hop] using hkeep t ht) hkeep

theorem triple_writeAll {L' : List Tapped → Prop} (stream : Nat) (b : Bytes)
    (hL : ∀ log e, L log → now ≤ e.time → e.bytes = b → L' (log ++ [e])) :
    Async.Triple (At suite net u now L) (io ((tapNet net).writeAll stream b))
      (fun _ => At suite net u now L') (At suite net u now L') := by
  have hkeep : ∀ t, At suite net u now L t →
      At suite net u now L' ((tapNet net).writeAll stream b t).2 :=
    fun t ht => ⟨(hrely now).writeAll stream b t.2 ht.1, hL _ _ ht.2 ht.1.now rfl⟩
  exact Async.Triple.call (fun t a t' ht hop => by simpa [hop] using hkeep t ht) hkeep

/-- UDP の往復。送った後は、送ったものが記録に在る。 -/
theorem triple_exchangeUdp {L' : List Tapped → Prop} (b : Bytes)
    (hL : ∀ log e, L log → now ≤ e.time → e.bytes = b → L' (log ++ [e])) (hweak : ∀ log, L' log → L log) :
    Async.Triple (At suite net u now L)
      ((u.onSnd : DnsCryptUpstream (List Tapped × W)).exchangeUdp (tapNet net) b)
      (fun _ => At suite net u now L') (At suite net u now L) := by
  have hfail : ∀ t, At suite net u now L' t → At suite net u now L t :=
    fun t ht => ht.mono (UInt32.le_refl _) hweak
  refine Async.Triple.bind (triple_io ((hrely now).udpBind _)) fun sock => ?_
  refine Async.Triple.bind (triple_io ((hrely now).udpConnect _ _)) fun _ => ?_
  refine Async.Triple.bind ((triple_udpSend hrely sock b hL).consequence (fun _ h => h) (fun _ _ h => h)
    hfail) fun _ => ?_
  refine Async.Triple.bind ((triple_io ((hrely now).udpRecv _ _)).consequence (fun _ h => h)
    (fun _ _ h => h) hfail) fun buf => ?_
  exact Async.Triple.pure fun _ h => h

/-- TCP の往復。長さと本文を書く。 -/
theorem triple_exchangeTcp (b : Bytes)
    (hL : ∀ log e, L log → now ≤ e.time →
      e.bytes = b ∨ e.bytes = Bytes.toBe16 (UInt16.ofNat b.length) → L (log ++ [e])) :
    Async.Triple (At suite net u now L)
      ((u.onSnd : DnsCryptUpstream (List Tapped × W)).exchangeTcp (tapNet net) b)
      (fun _ => At suite net u now L) (At suite net u now L) := by
  unfold DnsCryptUpstream.exchangeTcp
  split
  · exact Async.Triple.throw fun _ h => h
  · refine Async.Triple.bind (triple_io ((hrely now).tcpConnect _)) fun tcp => ?_
    refine Async.Triple.bind (triple_writeAll hrely tcp _
      fun log e h ht hb => hL log e h ht (Or.inr hb)) fun _ => ?_
    refine Async.Triple.bind (triple_writeAll hrely tcp b
      fun log e h ht hb => hL log e h ht (Or.inl hb)) fun _ => ?_
    refine Async.Triple.bind (triple_io ((hrely now).readExact _ _)) fun lenBuf => ?_
    refine Async.Triple.bind (triple_io ((hrely now).readExact _ _)) fun respBuf => ?_
    exact Async.Triple.pure fun _ h => h

/-! ## 証明書を得る -/

omit hrely in
theorem toBytes_of_pack {m : Message} {b : Bytes} (h : pack codec m = .ok b) :
    codec.toBytes m = .ok b := by
  unfold pack at h
  split at h
  · next b' hb =>
    cases h
    exact hb
  · cases h

include hsep

theorem triple_fetchProviderTxt :
    Async.Triple (At suite net u now (AllPermitted codec suite u req T))
      ((u.onSnd : DnsCryptUpstream (List Tapped × W)).fetchProviderTxt codec (tapNet net))
      (fun _ => At suite net u now (AllPermitted codec suite u req T))
      (At suite net u now (AllPermitted codec suite u req T)) := by
  refine Async.Triple.bind (triple_note hsep _) fun _ => ?_
  refine Async.Triple.bind (Q := fun name t => codec.nameFromAscii u.stamp.providerName = .ok name ∧
    At suite net u now (AllPermitted codec suite u req T) t) (Async.Triple.lift ?_ fun _ h => h)
    fun name => Async.Triple.of_and fun hname => ?_
  · intro name t hrun ht
    refine ⟨?_, ht⟩
    have hrun : DnsCryptUpstream.providerNameOf codec u = .ok name := hrun
    unfold DnsCryptUpstream.providerNameOf at hrun
    split at hrun
    · next name' hname =>
      cases hrun
      exact hname
    · cases hrun
  refine Async.Triple.bind (triple_random hrely 2) fun id => ?_
  refine Async.Triple.bind (Q := fun b t =>
    codec.toBytes (DnsCryptUpstream.providerQuery id.be16 name) = .ok b ∧
      At suite net u now (AllPermitted codec suite u req T) t) (Async.Triple.lift ?_ fun _ h => h)
    fun b => Async.Triple.of_and fun hb => ?_
  · exact fun b t hrun ht => ⟨toBytes_of_pack hrun, ht⟩
  refine Async.Triple.bind (triple_exchangeUdp hrely b (fun log e h _ he => h.append
    (Or.inl ⟨name, id.be16, hname, by rw [he]; exact hb⟩)) fun _ h => h) fun buf => ?_
  refine Async.Triple.bind (Async.Triple.lift (fun _ _ _ h => h) fun _ h => h) fun resp => ?_
  exact Async.Triple.pure fun _ h => h

omit hrely hsep in
/-- 有効な証明書を選んだ。 -/
theorem chooseCert_ok {W' : Type} {u : DnsCryptUpstream W'} {net : Net W'} {certs : List Certificate}
    {t : UInt32} {cert : Certificate} (h : u.chooseCert net t certs = .ok cert) :
    cert ∈ certs ∧ cert.isValidAt t = true := by
  unfold DnsCryptUpstream.chooseCert at h
  split at h
  · next c hc =>
    cases h
    exact List.mem_filter.mp (List.mem_of_head? hc)
  · cases h

/-- 取り直した証明書には署名があり、選んだ時点で有効である。 -/
theorem triple_refreshCert :
    Async.Triple (At suite net u T (AllPermitted codec suite u req T))
      ((u.onSnd : DnsCryptUpstream (List Tapped × W)).refreshCert codec suite (tapNet net))
      (Held suite net u T (AllPermitted codec suite u req T))
      (At suite net u T (AllPermitted codec suite u req T)) := by
  refine Async.Triple.bind (triple_fetchProviderTxt hsep hrely) fun txtRecords => ?_
  refine Async.Triple.bind (Q := fun certs t =>
    (∀ cert ∈ certs, cert.SignedBy suite u.stamp.providerPublicKey) ∧
      At suite net u T (AllPermitted codec suite u req T) t) (Async.Triple.lift ?_ fun _ h => h)
    fun certs => Async.Triple.of_and fun hsigned => ?_
  · exact fun certs t hrun ht => ⟨fun cert hmem => parseCertificates_signed hrun hmem, ht⟩
  refine Async.Triple.bind (Q := fun now t =>
    T ≤ now ∧ At suite net u now (AllPermitted codec suite u req T) t) (Async.Triple.gets ?_)
    fun now => Async.Triple.of_and fun hnow => ?_
  · exact fun t ht => ⟨ht.1.now, ⟨UInt32.le_refl _, ht.1.cached⟩, ht.2⟩
  have hback : ∀ t, At suite net u now (AllPermitted codec suite u req T) t →
      At suite net u T (AllPermitted codec suite u req T) t :=
    fun t ht => ht.mono hnow fun _ h => h
  refine Async.Triple.bind (Q := fun cert t => (cert ∈ certs ∧ cert.isValidAt now = true) ∧
    At suite net u now (AllPermitted codec suite u req T) t) (Async.Triple.lift ?_ hback)
    fun cert => Async.Triple.of_and fun hcert => ?_
  · exact fun cert t hrun ht => ⟨chooseCert_ok hrun, ht⟩
  refine Async.Triple.bind ((triple_lock hrely).consequence (fun _ h => h) (fun _ _ h => h) hback)
    fun _ => ?_
  refine Async.Triple.bind (Async.Triple.modify (Q := fun _ =>
    At suite net u now (AllPermitted codec suite u req T)) fun t ht => ⟨⟨?_, ?_⟩, ht.2⟩) fun _ => ?_
  · show now ≤ net.nowUnix (u.cert.set _ t.2)
    rw [hsep.cert_now]
    exact ht.1.now
  · intro c hc
    have hc : u.cert.get (u.cert.set (some cert) t.2) = some c := hc
    rw [hsep.cert_get] at hc
    cases hc
    exact hsigned cert hcert.1
  · exact Async.Triple.pure fun t ht => ⟨now, ⟨hnow, hcert.2, hsigned cert hcert.1⟩, ht⟩

/-- 取ってあるものでも取り直したものでも、署名があり、確かめた時点で有効である。 -/
theorem triple_currentCert :
    Async.Triple (At suite net u T (AllPermitted codec suite u req T))
      ((u.onSnd : DnsCryptUpstream (List Tapped × W)).currentCert codec suite (tapNet net))
      (Held suite net u T (AllPermitted codec suite u req T))
      (At suite net u T (AllPermitted codec suite u req T)) := by
  refine Async.Triple.bind (triple_lock hrely) fun _ => ?_
  refine Async.Triple.bind (Q := fun cached t =>
    (∀ cert, cached = some cert → Held suite net u T (AllPermitted codec suite u req T) cert t) ∧
      At suite net u T (AllPermitted codec suite u req T) t) (Async.Triple.gets fun t ht => ⟨?_, ht⟩)
    fun cached => ?_
  · intro cert hcert
    obtain ⟨hget, hvalid⟩ := Option.filter_eq_some_iff.mp hcert
    exact ⟨net.nowUnix t.2, ⟨ht.1.now, hvalid, ht.1.cached cert hget⟩,
      ⟨UInt32.le_refl _, ht.1.cached⟩, ht.2⟩
  cases cached with
  | some cert => exact Async.Triple.pure fun t ht => ht.1 cert rfl
  | none =>
    exact (triple_refreshCert hsep hrely).consequence (fun _ h => h.2) (fun _ _ h => h) fun _ h => h

/-! ## 暗号化した往復 -/

omit hsep in
theorem triple_generate :
    Async.Triple (At suite net u now L) (ClientKeyPair.generate suite (tapNet net))
      (fun client t => client.publicKey = suite.publicKey client.secretKey ∧ At suite net u now L t)
      (At suite net u now L) :=
  Async.Triple.bind (triple_random hrely 32) fun _ => Async.Triple.pure fun _ h => ⟨rfl, h⟩

omit hsep in
theorem triple_encryptQuery {cert : Certificate} {client : ClientKeyPair} {msg : Bytes}
    (hclient : client.publicKey = suite.publicKey client.secretKey) :
    Async.Triple (At suite net u now L) (encryptQuery suite (tapNet net) cert client msg)
      (fun p t => Frames suite cert client p.2 msg p.1 ∧ At suite net u now L t)
      (At suite net u now L) := by
  refine Async.Triple.bind (triple_random hrely 12) fun nonce => ?_
  refine Async.Triple.bind (Q := fun c t => suite.encrypt
    (suite.sharedBox client.secretKey cert.resolverPublicKey) (nonce.append (Block.zeros 12)) (pad msg)
      = .ok c ∧ At suite net u now L t) (Async.Triple.lift ?_ fun _ h => h)
    fun c => Async.Triple.of_and fun hc => ?_
  · intro c t hrun ht
    refine ⟨?_, ht⟩
    unfold sealBox at hrun
    split at hrun
    · next c' hc =>
      cases hrun
      exact hc
    · cases hrun
  · exact Async.Triple.pure fun t ht => ⟨⟨hclient, c, hc, rfl⟩, ht⟩

/-- 手にした証明書で暗号化して送り、返ったものを同じ鍵で解く。 -/
theorem triple_exchangeWithCert {cert : Certificate} (hnow : T ≤ now)
    (hvalid : cert.isValidAt now = true) (hsigned : cert.SignedBy suite u.stamp.providerPublicKey) :
    Async.Triple (At suite net u now (AllPermitted codec suite u req T))
      ((u.onSnd : DnsCryptUpstream (List Tapped × W)).exchangeWithCertWith codec suite (tapNet net)
        cert (validateResponse codec req) req)
      (fun m t => Authentic codec suite u req T t.1 (net.nowUnix t.2) m ∧
        At suite net u T (AllPermitted codec suite u req T) t)
      (At suite net u T (AllPermitted codec suite u req T)) := by
  have hchosen : ∀ t, now ≤ t → Chosen suite u T t cert :=
    fun t ht => ⟨hsigned, now, hnow, ht, hvalid⟩
  have hback : ∀ t, At suite net u now (AllPermitted codec suite u req T) t →
      At suite net u T (AllPermitted codec suite u req T) t :=
    fun t ht => ht.mono hnow fun _ h => h
  refine Async.Triple.bind (Q := fun msg t => codec.toBytes req = .ok msg ∧
    At suite net u now (AllPermitted codec suite u req T) t) (Async.Triple.lift ?_ hback)
    fun msg => Async.Triple.of_and fun hmsg => ?_
  · exact fun b t hrun ht => ⟨toBytes_of_pack hrun, ht⟩
  refine Async.Triple.bind ((triple_generate hrely).consequence (fun _ h => h) (fun _ _ h => h) hback)
    fun client => Async.Triple.of_and fun hclient => ?_
  refine Async.Triple.bind ((triple_encryptQuery hrely hclient).consequence (fun _ h => h)
    (fun _ _ h => h) hback) fun p => Async.Triple.of_and fun hframes => ?_
  obtain ⟨framed, nonce⟩ := p
  dsimp only at hframes ⊢
  refine Async.Triple.bind ((triple_note hsep _).consequence (fun _ h => h) (fun _ _ h => h) hback)
    fun _ => ?_
  -- 送った後の記録には、暗号化した query が在る
  let Sent : List Tapped → Prop := fun log =>
    AllPermitted codec suite u req T log ∧ ∃ e ∈ log, e.bytes = framed
  have hpermitted : ∀ e : Tapped, now ≤ e.time →
      e.bytes = framed ∨ e.bytes = Bytes.toBe16 (UInt16.ofNat framed.length) →
      Permitted codec suite u req T e := fun e ht he =>
    Or.inr ⟨cert, client, nonce, msg, framed, hchosen _ ht, hmsg, hframes, he⟩
  have hsent : ∀ t, At suite net u now Sent t →
      At suite net u T (AllPermitted codec suite u req T) t :=
    fun t ht => ht.mono hnow fun _ h => h.1
  have hudp : Async.Triple (At suite net u now (AllPermitted codec suite u req T))
      ((u.onSnd : DnsCryptUpstream (List Tapped × W)).exchangeUdp (tapNet net) framed)
      (fun _ => At suite net u now Sent) (At suite net u now (AllPermitted codec suite u req T)) :=
    triple_exchangeUdp hrely framed (fun log e h ht he =>
      ⟨h.append (hpermitted e ht (Or.inl he)), e, by simp, he⟩) fun _ h => h.1
  have htcp := triple_exchangeTcp (u := u) (L := Sent) hrely framed
    (fun log e h ht he => by
      obtain ⟨e', he', hbytes⟩ := h.2
      exact ⟨h.1.append (hpermitted e ht he), e', List.mem_append_left _ he', hbytes⟩)
  -- 解いて、検査して、返す
  have hfinish : ∀ encResp resp,
      DnsCryptUpstream.openResponse codec suite cert client nonce encResp = .ok resp →
      Async.Triple (At suite net u now Sent)
        (DnsCryptUpstream.finish (validateResponse codec req) resp)
        (fun m t => Authentic codec suite u req T t.1 (net.nowUnix t.2) m ∧
          At suite net u T (AllPermitted codec suite u req T) t)
        (At suite net u T (AllPermitted codec suite u req T)) := by
    intro encResp resp hopen
    refine Async.Triple.bind (Q := fun _ t => MatchesQuestion req resp ∧ At suite net u now Sent t)
      (Async.Triple.lift (fun _ t hrun ht => ⟨(validateResponse_ok_iff codec req resp).mp ⟨_, hrun⟩, ht⟩) hsent)
      fun _ => Async.Triple.of_and fun hmatch => ?_
    exact Async.Triple.pure fun t ht => ⟨⟨cert, client, nonce, msg, framed, encResp,
      hchosen _ ht.1.now, hmsg, hframes, ht.2.2, hopen, hmatch⟩, hsent t ht⟩
  have hopened : ∀ encResp, Async.Triple (At suite net u now Sent)
      (Async.lift (DnsCryptUpstream.openResponse codec suite cert client nonce encResp))
      (fun resp t => DnsCryptUpstream.openResponse codec suite cert client nonce encResp = .ok resp ∧
        At suite net u now Sent t) (At suite net u T (AllPermitted codec suite u req T)) :=
    fun encResp => Async.Triple.lift (fun resp t hrun ht => ⟨hrun, ht⟩) hsent
  refine Async.Triple.bind (hudp.consequence (fun _ h => h) (fun _ _ h => h) hback) fun encResp => ?_
  refine Async.Triple.bind (hopened encResp) fun resp => Async.Triple.of_and fun hopen => ?_
  split
  · refine Async.Triple.bind (htcp.consequence (fun _ h => h) (fun _ _ h => h) hsent) fun encResp => ?_
    exact Async.Triple.bind (hopened encResp) fun resp => Async.Triple.of_and fun hopen =>
      hfinish encResp resp hopen
  · exact hfinish encResp resp hopen

variable (codec req) in
/-- 期限切れか入出力の失敗なら、取り直した証明書でもう一度送る。 -/
theorem triple_attempt :
    Async.Triple (At suite net u T (AllPermitted codec suite u req T))
      ((u.onSnd : DnsCryptUpstream (List Tapped × W)).attemptWith codec suite (tapNet net)
        (validateResponse codec req) req)
      (fun m t => Authentic codec suite u req T t.1 (net.nowUnix t.2) m ∧
        At suite net u T (AllPermitted codec suite u req T) t)
      (At suite net u T (AllPermitted codec suite u req T)) := by
  have hwith : ∀ cert, Async.Triple (Held suite net u T (AllPermitted codec suite u req T) cert)
      ((u.onSnd : DnsCryptUpstream (List Tapped × W)).exchangeWithCertWith codec suite (tapNet net)
        cert (validateResponse codec req) req) _ _ :=
    fun cert => Async.Triple.of_exists fun now => Async.Triple.of_and fun h =>
      triple_exchangeWithCert hsep hrely h.1 h.2.1 h.2.2
  refine Async.Triple.bind (triple_currentCert hsep hrely) fun cert =>
    Async.Triple.handle (hwith cert) fun e => ?_
  have hretry := Async.Triple.bind (triple_refreshCert hsep hrely) hwith
  cases e with
  | timeout d => exact hretry
  | io e => exact hretry
  | _ => exact Async.Triple.throw fun _ h => h

end

/--
**DNSCrypt の upstream が出すのは、証明書の query と、署名された有効な証明書で暗号化した要求だけである。**

network が何を返しても、期限が切れても、ほかの `exchange` と入り混じってもよい。返る応答は、送った
query の鍵と nonce で解けたものに限る。取ってある証明書は、終わった後も署名されたものである。
-/
theorem dnsCrypt_channel (codec : Codec) (suite : CryptoSuite) (net : Net W)
    (u : DnsCryptUpstream W) (hsep : u.Separate net)
    (hrely : ∀ now, net.Maintains (u.Sound suite net now)) (req : Message) (T : UInt32) (w : W)
    (hsound : u.Sound suite net T w) :
    let r := (Upstream.dnsCrypt u.onSnd).exchange codec suite (tapNet net) req ([], w)
    (∀ e ∈ r.2.1, Permitted codec suite u req T e) ∧ u.Sound suite net T r.2.2 ∧
      ∀ m, r.1 = .ok m → Authentic codec suite u req T r.2.1 (net.nowUnix r.2.2) m := by
  intro r
  obtain ⟨hok, hfail⟩ : (∀ m t, r = (.ok m, t) → _ ∧ _) ∧ ((∀ m, r.1 ≠ .ok m) → _) :=
    (triple_attempt codec req hsep hrely).timeout ([], w) ⟨hsound, fun e he => by cases he⟩
  by_cases hvalue : ∃ m, r.1 = .ok m
  · obtain ⟨m, hm⟩ := hvalue
    obtain ⟨hauth, hat⟩ := hok m r.2 (Prod.ext hm rfl)
    refine ⟨hat.2, hat.1, fun m' hm' => ?_⟩
    rw [hm] at hm'
    cases hm'
    exact hauth
  · have hat := hfail fun m hm => hvalue ⟨m, hm⟩
    exact ⟨hat.2, hat.1, fun m hm => absurd ⟨m, hm⟩ hvalue⟩

/-! ## 一つの往復 -/

/-- 証明書の query に答える server への upstream。 -/
def channelUpstream : DnsCryptUpstream (CertState × RotatingServer) :=
  soleUpstream stampA (some (Duration.fromSecs 10))

def channelStart : CertState × RotatingServer :=
  ({ cert := none, log := [] }, { sent := [], rotated := false, now := 100 })

theorem rotatingNet_maintains (now : UInt32) :
    (rotatingNet.onSnd : Net (CertState × RotatingServer)).Maintains
      (channelUpstream.Sound CryptoSuite.trivial rotatingNet.onSnd now) := by
  constructor
  case udpRecv =>
    intro sock size t ht
    show channelUpstream.Sound CryptoSuite.trivial rotatingNet.onSnd now
      (t.1, (rotatingNet.udpRecv sock size t.2).2)
    unfold rotatingNet
    dsimp only
    split <;> exact ⟨ht.now, ht.cached⟩
  case lock => exact fun t ht => ⟨ht.now, ht.cached⟩
  case random => exact fun n t ht => ⟨ht.now, ht.cached⟩
  all_goals
    intros
    exact fun t ht => ⟨ht.now, ht.cached⟩

/-- 証明書の query と暗号化した query の二つが出て行き、どちらも出してよいものである。 -/
theorem dnsCrypt_channel_query :
    let r := (Upstream.dnsCrypt channelUpstream.onSnd).exchange certCodec CryptoSuite.trivial
      (tapNet rotatingNet.onSnd) queryA ([], channelStart)
    r.2.1.map (fun e => e.bytes.length) = [19, 132] ∧
      ∀ e ∈ r.2.1, Permitted certCodec CryptoSuite.trivial channelUpstream queryA 100 e := by
  have hsep : channelUpstream.Separate rotatingNet.onSnd :=
    ⟨fun _ _ => rfl, fun _ _ => rfl, fun _ _ => rfl, fun _ _ => rfl⟩
  have hsound : channelUpstream.Sound CryptoSuite.trivial rotatingNet.onSnd 100 channelStart :=
    ⟨by decide, fun cert hc => by cases hc⟩
  exact ⟨by decide +kernel, (dnsCrypt_channel certCodec CryptoSuite.trivial rotatingNet.onSnd
    channelUpstream hsep rotatingNet_maintains queryA 100 channelStart hsound).1⟩

end DnsProxy
