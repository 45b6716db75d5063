import DnsProxy.Infra.Sort
import DnsProxy.Properties.CertRefresh
import DnsProxy.Properties.DnsCryptWire

/-!
# 証明書の束と取り直し

provider の TXT record には、`sign_certificate` の出力と、読めない byte 列が混ざって届く。
`parse_certificates` はそこから署名したものだけを serial の大きい順に並べて返す。`refresh_cert` は
その中で今有効な最初のものを返し、取っておく。有効なものが無いとき、取り寄せに失敗したとき、
公開鍵が読めないときは失敗を返し、取ってある証明書には触れない（`refreshCert_batch`）。
-/

namespace DnsProxy

open Infra

/-! ## 束 -/

/-- `sign_certificate` に証明書の中身を渡したもの。 -/
def Certificate.signedBy (suite : CryptoSuite) (key : Block 32) (c : Certificate) : Bytes :=
  signCertificate suite key c.resolverPublicKey c.clientMagic c.serial c.tsStart c.tsEnd

/-- `txts` は、`certs` に署名したものに、読めない byte 列を混ぜたものである。 -/
inductive CertBatch (suite : CryptoSuite) (key : Block 32) : List Certificate → List Bytes → Prop
  | nil : CertBatch suite key [] []
  | signed (c : Certificate) {certs : List Certificate} {txts : List Bytes}
      (h : CertBatch suite key certs txts) :
      CertBatch suite key (c :: certs) (c.signedBy suite key :: txts)
  | junk {txt : Bytes} {certs : List Certificate} {txts : List Bytes}
      (hreject : parseOneCertificate suite txt (suite.verifyingKey key) = .err ())
      (h : CertBatch suite key certs txts) : CertBatch suite key certs (txt :: txts)

/-- serial の大きい順に並べたもの。serial の等しいものは元の順のままである。 -/
structure SerialOrder (certs sorted : List Certificate) : Prop where
  perm : sorted.Perm certs
  descending : sorted.Pairwise fun a b => b.serial ≤ a.serial
  stable : ∀ serial, sorted.filter (fun c => c.serial = serial)
    = certs.filter fun c => c.serial = serial

theorem serialOrder_mergeSort (certs : List Certificate) :
    SerialOrder certs (certs.mergeSort fun a b => b.serial ≤ a.serial) := by
  have htrans : ∀ a b c : UInt32, decide (b ≤ a) = true → decide (c ≤ b) = true →
      decide (c ≤ a) = true := by
    intro a b c hab hbc
    simp only [decide_eq_true_eq] at *
    exact UInt32.le_trans hbc hab
  have htotal : ∀ a b : UInt32, (decide (b ≤ a) || decide (a ≤ b)) = true := by
    intro a b
    simpa using UInt32.le_total b a
  refine ⟨List.mergeSort_perm _ _, ?_, ?_⟩
  · have hpair := pairwise_mergeSort_key Certificate.serial htrans htotal certs
    exact hpair.imp fun h => by simpa using h
  · exact filter_mergeSort_key Certificate.serial htrans htotal certs

section

variable {suite : CryptoSuite} {key : Block 32}
  (hverify : ∀ m, suite.verify (suite.verifyingKey key) m (suite.sign key m) = true)

include hverify

/-- 署名したものだけが、元の順に取れる。 -/
theorem collectCertificates_batch {certs : List Certificate} {txts : List Bytes}
    (h : CertBatch suite key certs txts) :
    collectCertificates suite (suite.verifyingKey key) txts = .ok certs := by
  induction h with
  | nil => rfl
  | signed c h ih =>
    have hparse : parseOneCertificate suite (c.signedBy suite key) (suite.verifyingKey key)
        = .ok c := parseOneCertificate_sign hverify _ _ _ _ _
    rw [collectCertificates, hparse]
    dsimp only
    rw [ih]
    rfl
  | junk hreject h ih =>
    rw [collectCertificates, hreject]
    exact ih

/-- 束からは、署名したものが serial の大きい順に取れる。 -/
theorem parseCertificates_batch
    (hkey : suite.verifyingKeyFromBytes (suite.verifyingKey key) = .ok (suite.verifyingKey key))
    {certs : List Certificate} {txts : List Bytes} (h : CertBatch suite key certs txts) :
    parseCertificates suite txts (suite.verifyingKey key)
      = .ok (certs.mergeSort fun a b => b.serial ≤ a.serial) := by
  unfold parseCertificates
  rw [hkey]
  dsimp only
  rw [collectCertificates_batch hverify h]
  rfl

end

/-! ## 今有効な最初のもの -/

/-- `sorted` の中で、時刻 `now` に有効な最初のものが `cert` である。 -/
def FirstValid (now : UInt32) (sorted : List Certificate) (cert : Certificate) : Prop :=
  ∃ before after, sorted = before ++ cert :: after ∧ (∀ c ∈ before, c.isValidAt now = false) ∧
    cert.isValidAt now = true

theorem firstValid_of_head? {now : UInt32} {sorted : List Certificate} {cert : Certificate}
    (h : (sorted.filter (·.isValidAt now)).head? = some cert) : FirstValid now sorted cert := by
  rw [List.head?_filter, List.find?_eq_some_iff_append] at h
  obtain ⟨hvalid, before, after, hsorted, hbefore⟩ := h
  refine ⟨before, after, hsorted, ?_, hvalid⟩
  intro c hc
  simpa using hbefore c hc

/-- 最初の有効なものは、有効なものの中で serial が最も大きい。 -/
theorem FirstValid.highest {now : UInt32} {certs sorted : List Certificate} {cert : Certificate}
    (h : FirstValid now sorted cert) (hsorted : SerialOrder certs sorted) {c : Certificate}
    (hc : c ∈ certs) (hvalid : c.isValidAt now = true) : c.serial ≤ cert.serial := by
  obtain ⟨before, after, rfl, hbefore, -⟩ := h
  have hdesc := (List.pairwise_append.mp hsorted.descending).2.1
  rcases List.mem_append.mp (hsorted.perm.mem_iff.mpr hc) with hmem | hmem
  · rw [hbefore c hmem] at hvalid
    cases hvalid
  · rcases List.mem_cons.mp hmem with rfl | hmem
    · exact UInt32.le_refl _
    · exact (List.pairwise_cons.mp hdesc).1 c hmem

/-! ## `refresh_cert` -/

section

variable {V : Type} {codec : Codec} {suite : CryptoSuite} {net : Net V} {stamp : DnsCryptStamp}
  {timeout : Option Duration}

/-- 取ってある証明書が変わらない。 -/
def CertKept (t t' : CertState × V) : Prop := t'.1.cert = t.1.cert

theorem certKept_refl (t : CertState × V) : CertKept t t := rfl

theorem certKept_trans (a b c : CertState × V) (hab : CertKept a b) (hbc : CertKept b c) :
    CertKept a c := Eq.trans hbc hab

theorem keeps_bind {α β : Type} {x : Async (CertState × V) DohError α}
    {f : α → Async (CertState × V) DohError β} (hx : x.Moves CertKept)
    (hf : ∀ a, (f a).Moves CertKept) : (x >>= f).Moves CertKept :=
  Async.Moves.bind certKept_trans hx hf

theorem keeps_lift {α : Type} (x : Outcome DohError α) :
    (Async.lift x : Async (CertState × V) DohError α).Moves CertKept :=
  Async.Moves.lift certKept_refl x

theorem keeps_io {α : Type} (op : Op V String α) :
    (io (op.onSnd : Op (CertState × V) String α)).Moves CertKept := Async.Moves.call certKept_refl

/-- `fetch_provider_txt` は、どう終わっても、取ってある証明書に触れない。 -/
theorem fetchProviderTxt_keeps :
    ((soleUpstream stamp timeout).fetchProviderTxt codec
      (net.onSnd : Net (CertState × V))).Moves CertKept := by
  refine keeps_bind (fun t => certKept_refl t) fun _ => ?_
  refine keeps_bind (keeps_lift _) fun name => keeps_bind (fun t => certKept_refl t) fun id => ?_
  refine keeps_bind (keeps_lift _) fun reqBytes => keeps_bind ?_ fun buf => ?_
  · refine keeps_bind (keeps_io _) fun sock => keeps_bind (keeps_io _) fun _ => ?_
    exact keeps_bind (keeps_io _) fun _ => keeps_bind (keeps_io _) fun buf =>
      Async.Moves.pure certKept_refl _
  · exact keeps_bind (keeps_lift _) fun resp => Async.Moves.pure certKept_refl _

theorem fetchProviderTxt_cert {t t' : CertState × V} {r : Outcome DohError (List Bytes)}
    (h : (soleUpstream stamp timeout).fetchProviderTxt codec net.onSnd t = (r, t')) :
    t'.1.cert = t.1.cert := by
  have hkept : CertKept t ((soleUpstream stamp timeout).fetchProviderTxt codec net.onSnd t).2 :=
    fetchProviderTxt_keeps t
  rw [h] at hkept
  exact hkept

/-- 取り寄せに失敗すれば、その失敗で終わる。 -/
theorem refreshCert_fetch_err {t t' : CertState × V} {e : DohError}
    (h : (soleUpstream stamp timeout).fetchProviderTxt codec net.onSnd t = (.err e, t')) :
    (soleUpstream stamp timeout).refreshCert codec suite net.onSnd t = (.err e, t') :=
  Async.bind_err h

/-- 取り寄せた後。証明書を読めなければ、その失敗で終わる。 -/
theorem refreshCert_parse_err {t t' : CertState × V} {txts : List Bytes} {e : DohError}
    (h : (soleUpstream stamp timeout).fetchProviderTxt codec net.onSnd t = (.ok txts, t'))
    (hparse : parseCertificates suite txts stamp.providerPublicKey = .err e) :
    (soleUpstream stamp timeout).refreshCert codec suite net.onSnd t = (.err e, t') := by
  unfold DnsCryptUpstream.refreshCert
  rw [Async.bind_ok h]
  refine Async.bind_err ?_
  rw [show (soleUpstream stamp timeout : DnsCryptUpstream (CertState × V)).stamp = stamp from rfl,
    hparse]
  rfl

/-- 有効な最初のものを返し、取っておく。 -/
theorem refreshCert_some {t t' : CertState × V} {txts : List Bytes} {sorted : List Certificate}
    {cert : Certificate}
    (h : (soleUpstream stamp timeout).fetchProviderTxt codec net.onSnd t = (.ok txts, t'))
    (hparse : parseCertificates suite txts stamp.providerPublicKey = .ok sorted)
    (hhead : (sorted.filter (·.isValidAt (net.nowUnix t'.2))).head? = some cert) :
    (soleUpstream stamp timeout).refreshCert codec suite net.onSnd t
      = (.ok cert, ({ t'.1 with cert := some cert }, net.lock t'.2)) := by
  have hchoose : (soleUpstream stamp timeout : DnsCryptUpstream (CertState × V)).chooseCert
      net.onSnd (net.nowUnix t'.2) sorted = .ok cert := by
    unfold DnsCryptUpstream.chooseCert
    rw [hhead]
  unfold DnsCryptUpstream.refreshCert
  rw [Async.bind_ok h,
    show (soleUpstream stamp timeout : DnsCryptUpstream (CertState × V)).stamp = stamp from rfl,
    hparse, Async.lift_bind_ok]
  show ((Async.lift ((soleUpstream stamp timeout).chooseCert net.onSnd (net.nowUnix t'.2) sorted)
    >>= fun cert => _) : Async (CertState × V) DohError Certificate) t' = _
  rw [hchoose]
  rfl

/-- 有効なものが無ければ、取り寄せた後の状態のまま失敗で終わる。 -/
theorem refreshCert_none {t t' : CertState × V} {txts : List Bytes} {sorted : List Certificate}
    (h : (soleUpstream stamp timeout).fetchProviderTxt codec net.onSnd t = (.ok txts, t'))
    (hparse : parseCertificates suite txts stamp.providerPublicKey = .ok sorted)
    (hhead : (sorted.filter (·.isValidAt (net.nowUnix t'.2))).head? = none) :
    (soleUpstream stamp timeout).refreshCert codec suite net.onSnd t
      = (.err (.dnsCrypt
          s!"no valid certificate found for provider {net.std.debug stamp.providerName}"), t') := by
  have hchoose : (soleUpstream stamp timeout : DnsCryptUpstream (CertState × V)).chooseCert
      net.onSnd (net.nowUnix t'.2) sorted = .err (.dnsCrypt
        s!"no valid certificate found for provider {net.std.debug stamp.providerName}") := by
    unfold DnsCryptUpstream.chooseCert
    rw [hhead]
    rfl
  unfold DnsCryptUpstream.refreshCert
  rw [Async.bind_ok h,
    show (soleUpstream stamp timeout : DnsCryptUpstream (CertState × V)).stamp = stamp from rfl,
    hparse, Async.lift_bind_ok]
  show ((Async.lift ((soleUpstream stamp timeout).chooseCert net.onSnd (net.nowUnix t'.2) sorted)
    >>= fun cert => _) : Async (CertState × V) DohError Certificate) t' = _
  rw [hchoose]
  rfl

/-- `refresh_cert` が失敗を返し、取ってある証明書に触れない。 -/
def RefreshFails (codec : Codec) (suite : CryptoSuite) (net : Net V) (stamp : DnsCryptStamp)
    (timeout : Option Duration) (t : CertState × V) : Prop :=
  ∃ e t', (soleUpstream stamp timeout).refreshCert codec suite net.onSnd t = (.err e, t') ∧
    t'.1.cert = t.1.cert

/-- 束を取り寄せた後の `refresh_cert`。 -/
theorem refreshCert_sorted {t t' : CertState × V} {txts : List Bytes} {certs sorted : List Certificate}
    (horder : SerialOrder certs sorted)
    (h : (soleUpstream stamp timeout).fetchProviderTxt codec net.onSnd t = (.ok txts, t'))
    (hparse : parseCertificates suite txts stamp.providerPublicKey = .ok sorted) :
    (∃ cert t'', FirstValid (net.nowUnix t'.2) sorted cert ∧
        (∀ c ∈ certs, c.isValidAt (net.nowUnix t'.2) = true → c.serial ≤ cert.serial) ∧
        (soleUpstream stamp timeout).refreshCert codec suite net.onSnd t = (.ok cert, t'') ∧
        t''.1.cert = some cert) ∨
      ((∀ c ∈ certs, c.isValidAt (net.nowUnix t'.2) = false) ∧
        RefreshFails codec suite net stamp timeout t) := by
  cases hhead : (sorted.filter (·.isValidAt (net.nowUnix t'.2))).head? with
  | some cert =>
    have hfirst := firstValid_of_head? hhead
    exact Or.inl ⟨cert, _, hfirst, fun c hc => hfirst.highest horder hc,
      refreshCert_some h hparse hhead, rfl⟩
  | none =>
    refine Or.inr ⟨?_, _, t', refreshCert_none h hparse hhead, fetchProviderTxt_cert h⟩
    intro c hc
    have hnil := List.head?_eq_none_iff.mp hhead
    simpa using List.filter_eq_nil_iff.mp hnil c (horder.perm.mem_iff.mpr hc)

end

/--
**束からは、署名したものだけが serial の大きい順（等しければ束の順）に取れる。`refresh_cert` は
その中で今有効な最初のもの、すなわち有効なものの中で serial の最も大きいものを返し、取っておく。
有効なものが無いとき・取り寄せに失敗したとき・公開鍵が読めないときは、失敗を返し、取ってある
証明書には触れない。**
-/
theorem refreshCert_batch {V : Type} {suite : CryptoSuite} {key : Block 32}
    (hkey : suite.verifyingKeyFromBytes (suite.verifyingKey key) = .ok (suite.verifyingKey key))
    (hverify : ∀ m, suite.verify (suite.verifyingKey key) m (suite.sign key m) = true)
    {certs : List Certificate} {txts : List Bytes} (hbatch : CertBatch suite key certs txts)
    (codec : Codec) (net : Net V) (stamp : DnsCryptStamp) (timeout : Option Duration)
    (t : CertState × V) :
    (∃ sorted, parseCertificates suite txts (suite.verifyingKey key) = .ok sorted ∧
        SerialOrder certs sorted ∧
        ∀ t', stamp.providerPublicKey = suite.verifyingKey key →
          (soleUpstream stamp timeout).fetchProviderTxt codec net.onSnd t = (.ok txts, t') →
          (∃ cert t'', FirstValid (net.nowUnix t'.2) sorted cert ∧
              (∀ c ∈ certs, c.isValidAt (net.nowUnix t'.2) = true → c.serial ≤ cert.serial) ∧
              (soleUpstream stamp timeout).refreshCert codec suite net.onSnd t = (.ok cert, t'') ∧
              t''.1.cert = some cert) ∨
            ((∀ c ∈ certs, c.isValidAt (net.nowUnix t'.2) = false) ∧
              RefreshFails codec suite net stamp timeout t)) ∧
      (∀ e t', (soleUpstream stamp timeout).fetchProviderTxt codec net.onSnd t = (.err e, t') →
        RefreshFails codec suite net stamp timeout t) ∧
      ∀ e txts' t', suite.verifyingKeyFromBytes stamp.providerPublicKey = .error e →
        (soleUpstream stamp timeout).fetchProviderTxt codec net.onSnd t = (.ok txts', t') →
        RefreshFails codec suite net stamp timeout t := by
  refine ⟨⟨_, parseCertificates_batch hverify hkey hbatch, serialOrder_mergeSort certs, ?_⟩, ?_, ?_⟩
  · intro t' hstamp hfetch
    refine refreshCert_sorted (serialOrder_mergeSort certs) hfetch ?_
    rw [hstamp]
    exact parseCertificates_batch hverify hkey hbatch
  · intro e t' hfetch
    exact ⟨e, t', refreshCert_fetch_err hfetch, fetchProviderTxt_cert hfetch⟩
  · intro e txts' t' herror hfetch
    have hparse : parseCertificates suite txts' stamp.providerPublicKey
        = .err (.dnsCrypt s!"invalid provider public key: {e}") := by
      unfold parseCertificates
      rw [herror]
    exact ⟨_, t', refreshCert_parse_err hfetch hparse, fetchProviderTxt_cert hfetch⟩

/-! ## 読めないものと二つの証明書の混ざった束 -/

/-- 読めない byte 列の後に、古い証明書と新しい証明書が並ぶ。 -/
def mixedTxt : List Bytes := [[7], certBytes oldCert, certBytes newCert]

theorem mixedTxt_batch :
    CertBatch CryptoSuite.trivial (Block.zeros 32) [oldCert, newCert] mixedTxt :=
  .junk (by decide) (.signed oldCert (.signed newCert .nil))

def mixedReply : Message :=
  { certReply oldCert with answers := [{ name := providerA, ttl := 60, data := .txt mixedTxt }] }

def mixedReplyWire : Bytes :=
  [0, 0, 0x80, 0, 0, 1, 0, 1, 0, 0, 0, 0, 1, 97, 0, 0, 16, 0, 1,
    0xC0, 0x0C, 0, 16, 0, 1, 0, 0, 0, 60, 0, 252, 1, 7, 124] ++ certBytes oldCert
    ++ 124 :: certBytes newCert

def mixedCodec : Codec :=
  { tableCodec [(DnsCryptUpstream.providerQuery 0 providerA, certQueryWire),
      (mixedReply, mixedReplyWire)] with
    nameFromAscii := fun _ => .ok providerA }

/-- いつも混ざった束を答える server。時刻は 100 である。 -/
def mixedNet : Net Unit :=
  { Net.unreachable StdText.none with
    udpBind := fun _ v => (.ok 0, v)
    udpConnect := fun _ _ v => (.ok (), v)
    udpSend := fun _ _ v => (.ok (), v)
    udpRecv := fun _ size v =>
      (.ok ⟨mixedReplyWire.take size, List.length_take_le size mixedReplyWire⟩, v)
    nowUnix := fun _ => 100 }

/-- 混ざった束からは、新しい方の証明書が選ばれ、取っておかれる。 -/
theorem refreshCert_batch_mixed :
    ∃ t'', (soleUpstream stampA none).refreshCert mixedCodec CryptoSuite.trivial mixedNet.onSnd
        ({ cert := some oldCert, log := [] }, ()) = (.ok newCert, t'') ∧
      t''.1.cert = some newCert := by
  obtain ⟨⟨sorted, -, horder, hrefresh⟩, -⟩ := refreshCert_batch rfl (fun _ => rfl) mixedTxt_batch
    mixedCodec mixedNet stampA none ({ cert := some oldCert, log := [] }, ())
  have hfetch : ((soleUpstream stampA none).fetchProviderTxt mixedCodec mixedNet.onSnd
      ({ cert := some oldCert, log := [] }, ())).1 = .ok mixedTxt := by
    decide +kernel
  generalize hrun : (soleUpstream stampA none).fetchProviderTxt mixedCodec mixedNet.onSnd
    ({ cert := some oldCert, log := [] }, ()) = out at hfetch hrefresh
  obtain ⟨r, t'⟩ := out
  dsimp only at hfetch
  subst hfetch
  have hvalid : newCert.isValidAt (mixedNet.nowUnix t'.2) = true :=
    show newCert.isValidAt 100 = true by decide
  rcases hrefresh t' rfl rfl with ⟨cert, t'', hfirst, hhigh, hok, hcert⟩ | ⟨hnone, -⟩
  · have hmem : cert ∈ [oldCert, newCert] := by
      obtain ⟨before, after, rfl, -, -⟩ := hfirst
      exact horder.perm.mem_iff.mp (by simp)
    have hserial := hhigh newCert (by simp) hvalid
    have hnew : cert = newCert := by
      rcases List.mem_pair.mp hmem with rfl | rfl
      · exact absurd hserial (by decide)
      · rfl
    subst hnew
    exact ⟨t'', hok, hcert⟩
  · rw [hnone newCert (by simp)] at hvalid
    cases hvalid

end DnsProxy
