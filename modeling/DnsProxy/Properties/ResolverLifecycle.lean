import DnsProxy.Infra.Lease
import DnsProxy.Infra.Machine
import DnsProxy.Main
import DnsProxy.Properties.ConfigRoundTrip
import DnsProxy.Properties.DnsCryptEndToEnd

/-!
# 鍵の file から始まる listener

`--dnscrypt-generate-config` の書いた file から、listener は何度でも起動し直される。起動のたびに、
その時刻から `DEFAULT_CERT_TTL_SECS` だけ有効な証明書が作られる。client は何人いてもよく、それぞれ
いつかの起動のときの証明書を取ってあるかもしれない。

* 取ってある証明書は、起動し直した listener にもそのまま通じる
* client が答えを得られるのは、今の listener の証明書の期限の手前までである。いつの証明書を
  取ってあるかには依らない
* 証明書を尋ね直すのは、取ってあるものの期限が過ぎたときだけである
-/

namespace DnsProxy

open Infra

/-! ## `exchange` が証明書に触れるところ -/

section

variable {V : Type} {codec : Codec} {suite : CryptoSuite} {net : Net V} {stamp : DnsCryptStamp}
  {timeout : Option Duration} {R : CertState × V → CertState × V → Prop}
  (hrefl : ∀ t, R t t) (htrans : ∀ a b c, R a b → R b c → R a c) (hsnd : ∀ t v, R t (t.1, v))
  (hnote : ∀ t log, R t ({ t.1 with log }, t.2))

include hsnd in
theorem moves_io {α : Type} (op : Op V String α) :
    (io (op.onSnd : Op (CertState × V) String α)).Moves R :=
  Async.Moves.call fun t => hsnd t (op t.2).2

include hsnd in
theorem moves_random (n : Nat) : (randomBytes (net.onSnd : Net (CertState × V)) n).Moves R :=
  fun t => hsnd t (net.random n t.2).2

include hrefl htrans hsnd

theorem moves_udp (b : Bytes) :
    ((soleUpstream stamp timeout).exchangeUdp (net.onSnd : Net (CertState × V)) b).Moves R := by
  refine Async.Moves.bind htrans (moves_io hsnd _) fun sock => ?_
  refine Async.Moves.bind htrans (moves_io hsnd _) fun _ => ?_
  refine Async.Moves.bind htrans (moves_io hsnd _) fun _ => ?_
  exact Async.Moves.bind htrans (moves_io hsnd _) fun buf => Async.Moves.pure hrefl _

theorem moves_tcp (b : Bytes) :
    ((soleUpstream stamp timeout).exchangeTcp (net.onSnd : Net (CertState × V)) b).Moves R := by
  unfold DnsCryptUpstream.exchangeTcp
  split
  · exact Async.Moves.throw hrefl _
  · refine Async.Moves.bind htrans (moves_io hsnd _) fun tcp => ?_
    refine Async.Moves.bind htrans (moves_io hsnd _) fun _ => ?_
    refine Async.Moves.bind htrans (moves_io hsnd _) fun _ => ?_
    refine Async.Moves.bind htrans (moves_io hsnd _) fun len => ?_
    exact Async.Moves.bind htrans (moves_io hsnd _) fun buf => Async.Moves.pure hrefl _

include hnote in
/-- `exchange_with_cert` が手元で動かすのは、記録だけである。 -/
theorem moves_withCert (cert : Certificate) (check : Message → Outcome DohError Unit)
    (req : Message) :
    ((soleUpstream stamp timeout).exchangeWithCertWith codec suite
      (net.onSnd : Net (CertState × V)) cert check req).Moves R := by
  have hfinish : ∀ resp, (DnsCryptUpstream.finish check resp
      : Async (CertState × V) DohError Message).Moves R := fun resp =>
    Async.Moves.bind htrans (Async.Moves.lift hrefl _) fun _ => Async.Moves.pure hrefl _
  refine Async.Moves.bind htrans (Async.Moves.lift hrefl _) fun reqBytes => ?_
  refine Async.Moves.bind htrans (Async.Moves.bind htrans (moves_random hsnd 32) fun _ =>
    Async.Moves.pure hrefl _) fun client => ?_
  refine Async.Moves.bind htrans (Async.Moves.bind htrans (moves_random hsnd 12) fun _ =>
    Async.Moves.bind htrans (Async.Moves.lift hrefl _) fun _ => Async.Moves.pure hrefl _) fun p => ?_
  refine Async.Moves.bind htrans (fun t => hnote t _) fun _ => ?_
  refine Async.Moves.bind htrans (moves_udp hrefl htrans hsnd _) fun encResp => ?_
  refine Async.Moves.bind htrans (Async.Moves.lift hrefl _) fun resp => ?_
  split
  · refine Async.Moves.bind htrans (moves_tcp hrefl htrans hsnd _) fun encResp => ?_
    exact Async.Moves.bind htrans (Async.Moves.lift hrefl _) hfinish
  · exact hfinish resp

end

/-! ## 一つの listener との間 -/

section

variable {env : LinkEnv} {codec : Codec} {suite : CryptoSuite} {s : DnsCryptService}
  {handler : Message → Except DohError Message} {timeout : Option Duration}

/-- listener の証明書の期限の外で `refresh_cert` が返す失敗。 -/
def noValidCert (std : StdText) (providerName : String) : DohError :=
  .dnsCrypt s!"no valid certificate found for provider {std.debug providerName}"

/-- 取ってある証明書は、そのままか、listener の配る `issued` になる。 -/
def KeptOr {V : Type} (issued : Certificate) (t t' : CertState × V) : Prop :=
  t'.1.cert = t.1.cert ∨ t'.1.cert = some issued

theorem KeptOr.refl {V : Type} {issued : Certificate} (t : CertState × V) : KeptOr issued t t :=
  .inl rfl

theorem KeptOr.trans {V : Type} {issued : Certificate} (a b c : CertState × V)
    (hab : KeptOr issued a b) (hbc : KeptOr issued b c) : KeptOr issued a c := by
  rcases hbc with hbc | hbc
  · rcases hab with hab | hab
    · exact .inl (hbc.trans hab)
    · exact .inr (hbc.trans hab)
  · exact .inr hbc

variable (codecLaws : codec.Laws) (laws : suite.Laws)
  (hname : LegalProviderName codec (s.config suite))

include codecLaws laws hname

theorem refreshCert_expired (hnow : (s.cert suite).isValidAt env.now = false) (c : CertState)
    (w : Link) :
    (soleUpstream (s.stamp suite env) timeout).refreshCert codec suite
        (clientNet env codec suite (s.config suite) handler).onSnd (c, w)
      = (.err (noValidCert env.std s.resolver.providerName),
          ({ c with log := c.log ++ [.fetch] }, { w with draws := w.draws + 1, datagrams := [] })) := by
  have hparse : parseCertificates suite [(s.config suite).certBytes]
      (suite.verifyingKey s.resolver.providerSigningKey) = .ok [s.cert suite] :=
    parseCertificates_sign laws _ _ _ _ _ _
  have hchoose : (soleUpstream (s.stamp suite env) timeout).chooseCert
      (clientNet env codec suite (s.config suite) handler).onSnd env.now [s.cert suite]
      = .err (noValidCert env.std s.resolver.providerName) := by
    unfold DnsCryptUpstream.chooseCert
    rw [List.filter_singleton, hnow]
    rfl
  unfold DnsCryptUpstream.refreshCert
  rw [Async.bind_ok (fetchProviderTxt_run codecLaws hname c w)]
  show (Async.lift (parseCertificates suite [(s.config suite).certBytes]
    (suite.verifyingKey s.resolver.providerSigningKey)) >>= _) _ = _
  rw [hparse, Async.lift_bind_ok]
  show (Async.lift ((soleUpstream (s.stamp suite env) timeout).chooseCert
    (clientNet env codec suite (s.config suite) handler).onSnd env.now [s.cert suite]) >>= _) _ = _
  rw [hchoose]
  rfl

theorem refreshCert_keptOr :
    ((soleUpstream (s.stamp suite env) timeout).refreshCert codec suite
      (clientNet env codec suite (s.config suite) handler).onSnd).Moves
      (KeptOr (s.cert suite)) := by
  rintro ⟨c, w⟩
  by_cases hnow : (s.cert suite).isValidAt env.now = true
  · rw [refreshCert_run codecLaws laws hname hnow c w]
    exact .inr rfl
  · rw [refreshCert_expired codecLaws laws hname (Bool.eq_false_iff.mpr hnow) c w]
    exact .inl rfl

/-- **どんな要求でも、`exchange` の後の証明書は、前のものか、listener の配るものである。** -/
theorem exchange_keptOr (req : Message) (before : Option Certificate × Link) :
    (exchangeRecord codec suite (clientNet env codec suite (s.config suite) handler)
        (s.stamp suite env) timeout req before).after.1 = before.1 ∨
      (exchangeRecord codec suite (clientNet env codec suite (s.config suite) handler)
        (s.stamp suite env) timeout req before).after.1 = some (s.cert suite) := by
  have hwith : ∀ cert, ((soleUpstream (s.stamp suite env) timeout).exchangeWithCertWith codec suite
      (clientNet env codec suite (s.config suite) handler).onSnd cert (validateResponse codec req)
      req).Moves (KeptOr (s.cert suite)) := fun cert =>
    moves_withCert KeptOr.refl KeptOr.trans (fun _ _ => .inl rfl) (fun _ _ => .inl rfl) cert _ req
  have hcurrent : ((soleUpstream (s.stamp suite env) timeout).currentCert codec suite
      (clientNet env codec suite (s.config suite) handler).onSnd).Moves
      (KeptOr (s.cert suite)) := by
    refine Async.Moves.bind KeptOr.trans (fun t => .inl rfl) fun _ => ?_
    refine Async.Moves.bind KeptOr.trans (Async.Moves.gets KeptOr.refl _) fun cached => ?_
    cases cached with
    | some cert => exact Async.Moves.pure KeptOr.refl _
    | none => exact refreshCert_keptOr codecLaws laws hname
  have hmoves : ((soleUpstream (s.stamp suite env) timeout).exchangeWith codec suite
      (clientNet env codec suite (s.config suite) handler).onSnd (validateResponse codec req)
      req).Moves (KeptOr (s.cert suite)) := by
    refine Async.Moves.timeout (Async.Moves.bind KeptOr.trans hcurrent fun cert => ?_)
    refine Async.Moves.handle KeptOr.trans (hwith cert) fun e => ?_
    split
    · exact Async.Moves.bind KeptOr.trans (refreshCert_keptOr codecLaws laws hname) hwith
    · exact Async.Moves.bind KeptOr.trans (refreshCert_keptOr codecLaws laws hname) hwith
    · exact Async.Moves.throw KeptOr.refl _
  exact hmoves ({ cert := before.1, log := [] }, before.2)

omit codecLaws laws hname in
/-- 取ってある証明書に有効なものが無ければ、`current_cert` は取りに行く。 -/
theorem currentCert_renews {cached : Option Certificate}
    (hcached : cached.filter (·.isValidAt env.now) = none) (log : List CertEvent) (w : Link) :
    (soleUpstream (s.stamp suite env) timeout).currentCert codec suite
        (clientNet env codec suite (s.config suite) handler).onSnd ({ cert := cached, log }, w)
      = (soleUpstream (s.stamp suite env) timeout).refreshCert codec suite
          (clientNet env codec suite (s.config suite) handler).onSnd ({ cert := cached, log }, w) := by
  have hvalid : (soleUpstream (s.stamp suite env) timeout).validCached
      (clientNet env codec suite (s.config suite) handler).onSnd ({ cert := cached, log }, w)
      = none := hcached
  have hlock : ∀ t : CertState × Link,
      (clientNet env codec suite (s.config suite) handler).onSnd.lock t = t := fun _ => rfl
  rw [DnsCryptUpstream.currentCert_apply, hlock, hvalid]

omit codecLaws laws hname in
/-- 有効なものがあれば、それを使う。 -/
theorem currentCert_cached {cached : Option Certificate} {cert : Certificate}
    (hcached : cached.filter (·.isValidAt env.now) = some cert) (log : List CertEvent) (w : Link) :
    (soleUpstream (s.stamp suite env) timeout).currentCert codec suite
        (clientNet env codec suite (s.config suite) handler).onSnd ({ cert := cached, log }, w)
      = (.ok cert, ({ cert := cached, log }, w)) := by
  have hvalid : (soleUpstream (s.stamp suite env) timeout).validCached
      (clientNet env codec suite (s.config suite) handler).onSnd ({ cert := cached, log }, w)
      = some cert := hcached
  have hlock : ∀ t : CertState × Link,
      (clientNet env codec suite (s.config suite) handler).onSnd.lock t = t := fun _ => rfl
  rw [DnsCryptUpstream.currentCert_apply, hlock, hvalid]
  rfl

/-- 証明書の期限の手前で起きること。 -/
def certEvents (cached : Option Certificate) (issued : Certificate) (now : UInt32) :
    List CertEvent :=
  match cached.filter (·.isValidAt now) with
  | some cert => [.encrypt cert]
  | none => if issued.isValidAt now then [.fetch, .encrypt issued] else [.fetch]

variable (env s timeout) in
/-- **取ってある証明書の鍵と client magic が listener のものなら、それで `exchange` が済む。**
無ければ、今の証明書を取って済ませ、それが残る。 -/
theorem exchange_answers {req resp : Message} {reqBytes respBytes : Bytes}
    {cached : Option Certificate}
    (hcached : ∀ cert, cached = some cert →
      cert.resolverPublicKey = suite.publicKey s.resolver.resolverSecretKey ∧
        cert.clientMagic = mainClientMagic)
    (hreq : SendsQuery codec env.server req reqBytes) (hhandler : handler req = .ok resp)
    (hvalid : validateResponse codec req resp = .ok ())
    (hresp : SendsResponse codec env.client resp respBytes)
    (husable : (cached.filter (·.isValidAt env.now)).isSome ∨ (s.cert suite).isValidAt env.now = true)
    (w : Link) :
    (exchangeRecord codec suite (clientNet env codec suite (s.config suite) handler)
        (s.stamp suite env) timeout req (cached, w)).result = .ok resp ∧
      (exchangeRecord codec suite (clientNet env codec suite (s.config suite) handler)
        (s.stamp suite env) timeout req (cached, w)).events
        = certEvents cached (s.cert suite) env.now ∧
      (exchangeRecord codec suite (clientNet env codec suite (s.config suite) handler)
        (s.stamp suite env) timeout req (cached, w)).after.1
        = (cached.filter (·.isValidAt env.now)).or (some (s.cert suite)) := by
  have hrun : ∀ {cert c' w'}, (soleUpstream (s.stamp suite env) timeout).currentCert codec suite
        (clientNet env codec suite (s.config suite) handler).onSnd
        ({ cert := cached, log := [] }, w) = (.ok cert, (c', w')) →
      cert.resolverPublicKey = suite.publicKey s.resolver.resolverSecretKey →
      cert.clientMagic = mainClientMagic →
      ∃ w'', (Upstream.dnsCrypt (soleUpstream (s.stamp suite env) timeout)).exchange codec suite
        (clientNet env codec suite (s.config suite) handler).onSnd req
        ({ cert := cached, log := [] }, w)
      = (.ok resp, ({ c' with log := c'.log ++ [.encrypt cert] }, w'')) := by
    intro cert c' w' hcurrent hkey hmagic
    obtain ⟨w'', hexchange, -⟩ := exchangeWithCert_served env s timeout codecLaws laws hkey hmagic
      hreq hhandler hresp hvalid c' w'
    refine ⟨w'', Async.timeout_ok ?_⟩
    unfold DnsCryptUpstream.attemptWith
    rw [Async.bind_ok hcurrent]
    exact Async.handle_ok hexchange
  unfold exchangeRecord certEvents
  cases hc : cached.filter (·.isValidAt env.now) with
  | some cert =>
    obtain ⟨hsome, -⟩ := Option.filter_eq_some_iff.mp hc
    obtain ⟨hkey, hmagic⟩ := hcached cert hsome
    obtain ⟨w'', hexchange⟩ := hrun (currentCert_cached hc [] w) hkey hmagic
    rw [hexchange]
    exact ⟨rfl, rfl, hsome⟩
  | none =>
    rw [hc] at husable
    have hnow : (s.cert suite).isValidAt env.now = true := by simpa using husable
    obtain ⟨w'', hexchange⟩ := hrun ((currentCert_renews hc [] w).trans
      (refreshCert_run codecLaws laws hname hnow { cert := cached, log := [] } w)) rfl rfl
    rw [hexchange, if_pos hnow]
    exact ⟨rfl, rfl, rfl⟩

variable (s timeout handler) in
/-- 有効な証明書がどこにも無ければ、尋ねてから失敗する。 -/
theorem exchange_expired (req : Message) {cached : Option Certificate}
    (hcached : cached.filter (·.isValidAt env.now) = none)
    (hnow : (s.cert suite).isValidAt env.now = false) (w : Link) :
    (exchangeRecord codec suite (clientNet env codec suite (s.config suite) handler)
        (s.stamp suite env) timeout req (cached, w)).result
        = .err (noValidCert env.std s.resolver.providerName) ∧
      (exchangeRecord codec suite (clientNet env codec suite (s.config suite) handler)
        (s.stamp suite env) timeout req (cached, w)).events
        = certEvents cached (s.cert suite) env.now := by
  have hrun : (Upstream.dnsCrypt (soleUpstream (s.stamp suite env) timeout)).exchange codec suite
        (clientNet env codec suite (s.config suite) handler).onSnd req
        ({ cert := cached, log := [] }, w)
      = (.err (noValidCert env.std s.resolver.providerName),
          ({ cert := cached, log := [.fetch] }, { w with draws := w.draws + 1, datagrams := [] })) := by
    refine Async.timeout_err ?_
    unfold DnsCryptUpstream.attemptWith
    rw [Async.bind_err ((currentCert_renews hcached [] w).trans
      (refreshCert_expired codecLaws laws hname hnow { cert := cached, log := [] } w))]
    rfl
  unfold exchangeRecord certEvents
  rw [hrun, hcached, hnow]
  exact ⟨rfl, rfl⟩

end

/-! ## 起動するたびの listener -/

/-- `DEFAULT_CERT_TTL_SECS` の後。`u32` の最大値で止まる。 -/
def certEnd (start : UInt32) : UInt32 := saturatingAdd start defaultCertTtlSecs

/-- 時刻 `start` に起動した listener。 -/
def startedService (resolver : ResolverConfig) (start : UInt32) : DnsCryptService where
  resolver
  serial := 1
  tsStart := start
  tsEnd := certEnd start

/-- 配備された一つの resolver。 -/
structure Deployment where
  codec : Codec
  suite : CryptoSuite
  /-- 時刻は、配備したときのものである。 -/
  env : LinkEnv
  handler : Message → Except DohError Message
  /-- 作った鍵と、鍵の file の場所。 -/
  resolver : ResolverConfig
  path : Text
  /-- client が stamp を読んで得たもの。 -/
  stamp : DnsCryptStamp
  timeout : Option Duration

/-- ある時点の様子。 -/
structure Site (ι : Type) where
  now : UInt32
  /-- 動いている listener と、その起動した時刻。 -/
  listener : Option (UInt32 × DnsCryptServerConfig)
  /-- client のそれぞれが取ってある証明書。 -/
  cached : ι → Option Certificate
  link : Link

inductive SiteEvent (ι : Type) where
  /-- 時計が進む。 -/
  | clock (t : UInt32)
  /-- 鍵の file を読んで、listener を起動し直す。 -/
  | start
  /-- client `i` が `req` を尋ねる。 -/
  | ask (i : ι) (req : Message)

namespace Deployment

variable (d : Deployment)

/-- 今 `main` が作る listener の設定。file の中身は、`save` が書いたものである。 -/
def listenerAt (now : UInt32) : Except Text DnsCryptServerConfig :=
  mainDnsCryptConfig d.suite d.env.std.unprintable (fun t => (d.env.std.base64Error t).toList)
    d.path (.ok d.resolver.toText) now

variable {ι : Type}

/-- client `i` が `req` を尋ねる一回の `exchange`。 -/
def record (σ : Site ι) (config : DnsCryptServerConfig) (i : ι) (req : Message) :
    ExchangeRecord Link :=
  exchangeRecord d.codec d.suite
    (clientNet { d.env with now := σ.now } d.codec d.suite config d.handler) d.stamp d.timeout req
    (σ.cached i, σ.link)

/-- 一歩。listener を起動できなければ、動いている listener は無くなる。 -/
def step [DecidableEq ι] (σ : Site ι) : SiteEvent ι → Option (Site ι)
  | .clock t => some { σ with now := t }
  | .start =>
    some { σ with listener := (d.listenerAt σ.now).toOption.map fun config => (σ.now, config) }
  | .ask i req =>
    σ.listener.map fun l =>
      { σ with
        cached := Function.update σ.cached i (d.record σ l.2 i req).after.1
        link := (d.record σ l.2 i req).after.2 }

/-- 起動と問い合わせがどう並んでもよい。時計は戻らない。 -/
def machine [DecidableEq ι] : Machine (Site ι) (SiteEvent ι) where
  init := { now := d.env.now, listener := none, cached := fun _ => none, link := Link.empty }
  allowed σ e := ∀ t, e = .clock t → σ.now ≤ t
  step := d.step

/-- 起動する listener の証明書の query と応答が書けること。 -/
def Writable (σ : Site ι) (e : SiteEvent ι) : Prop :=
  e = .start → ∀ config, d.listenerAt σ.now = .ok config → LegalProviderName d.codec config

/-- 前提。名前は鍵の file に書けて、stamp は client に渡っている。 -/
structure Ready : Prop where
  codec : d.codec.Laws
  suite : d.suite.Laws
  name_line : '\n' ∉ d.resolver.providerName.toList
  name_trim : Text.trim d.resolver.providerName.toList = d.resolver.providerName.toList
  addr : d.env.std.ReadsAddr d.env.server
  stamp : parseDnscryptStamp d.env.std (d.resolver.stamp d.suite d.env.std d.env.server) = .ok d.stamp

end Deployment

/-! ## 証明書の期限 -/

/-- `certEnd` の、自然数での値。 -/
def certExpiry (start : Nat) : Nat := min (start + defaultCertTtlSecs.toNat) (UInt32.size - 1)

theorem certExpiry_mono : Monotone certExpiry := by
  intro a b h
  unfold certExpiry
  omega

theorem certEnd_toNat (start : UInt32) : (certEnd start).toNat = certExpiry start.toNat := by
  refine UInt32.toNat_ofNat_of_lt' ?_
  have hle : certExpiry start.toNat ≤ UInt32.size - 1 := min_le_right _ _
  exact Nat.lt_of_le_of_lt hle (by decide)

/-- listener の証明書が有効なのは、起動してから `certExpiry` の手前までである。 -/
theorem started_isValidAt (suite : CryptoSuite) (resolver : ResolverConfig) (start now : UInt32) :
    ((startedService resolver start).cert suite).isValidAt now = true ↔
      Leases.Valid certExpiry now.toNat start.toNat := by
  show (decide (start ≤ now) && decide (now < certEnd start)) = true ↔ _
  rw [Bool.and_eq_true, decide_eq_true_iff, decide_eq_true_iff, UInt32.le_iff_toNat_le,
    UInt32.lt_iff_toNat_lt, certEnd_toNat]
  exact Iff.rfl

namespace Deployment

variable {d : Deployment} {ι : Type} [DecidableEq ι] {σ σ' : Site ι} {e : SiteEvent ι}

/-! ## 配備したときから変わらないもの -/

/-- 鍵の file からは、いつ起動しても、書いたときの鍵の listener ができる。 -/
theorem listenerAt_eq (h : d.Ready) (now : UInt32) :
    d.listenerAt now = .ok ((startedService d.resolver now).config d.suite) := by
  have hload : ResolverConfig.load d.env.std.unprintable
      (fun t => (d.env.std.base64Error t).toList) d.path (.ok d.resolver.toText)
      = .ok d.resolver := by
    rw [load_toText h.name_line, h.name_trim, String.ofList_toList]
  unfold listenerAt mainDnsCryptConfig
  rw [hload]
  rfl

/-- client の読んだ stamp は、listener のものである。 -/
theorem stamp_eq (h : d.Ready) {start : UInt32}
    (hname : LegalProviderName d.codec ((startedService d.resolver start).config d.suite)) :
    d.stamp = (startedService d.resolver start).stamp d.suite d.env := by
  have hparse := parse_buildStamp (d.suite.verifyingKey d.resolver.providerSigningKey) h.addr.parse
    h.addr.length hname.length
  exact Except.ok.inj (h.stamp.symm.trans hparse)

/-- 動いている listener も、取ってある証明書も、配備した鍵のものである。 -/
structure Genuine (d : Deployment) (σ : Site ι) : Prop where
  listener : ∀ start config, σ.listener = some (start, config) →
    config = (startedService d.resolver start).config d.suite ∧ LegalProviderName d.codec config
  cached : ∀ i cert, σ.cached i = some cert →
    ∃ start, cert = (startedService d.resolver start).cert d.suite

/-- 起動した時刻だけを残したもの。 -/
def leases (σ : Site ι) : Leases Nat ι where
  now := σ.now.toNat
  newest := σ.listener.map (·.1.toNat)
  held i := (σ.cached i).map (·.tsStart.toNat)

omit [DecidableEq ι] in
theorem record_eq (h : d.Ready) (hg : Genuine d σ) {start : UInt32} {config : DnsCryptServerConfig}
    (hl : σ.listener = some (start, config)) (i : ι) (req : Message) :
    d.record σ config i req
      = exchangeRecord d.codec d.suite (clientNet { d.env with now := σ.now } d.codec d.suite
          ((startedService d.resolver start).config d.suite) d.handler)
        ((startedService d.resolver start).stamp d.suite { d.env with now := σ.now }) d.timeout req
        (σ.cached i, σ.link) := by
  obtain ⟨rfl, hname⟩ := hg.listener start config hl
  unfold record
  rw [stamp_eq h hname]
  rfl

omit [DecidableEq ι] in
/-- `exchange` の後の証明書は、取ってあったものか、今の listener のものである。 -/
theorem record_keptOr (h : d.Ready) (hg : Genuine d σ) {start : UInt32}
    {config : DnsCryptServerConfig} (hl : σ.listener = some (start, config)) (i : ι)
    (req : Message) :
    (d.record σ config i req).after.1 = σ.cached i ∨
      (d.record σ config i req).after.1
        = some ((startedService d.resolver start).cert d.suite) := by
  rw [record_eq h hg hl]
  obtain ⟨rfl, hname⟩ := hg.listener start config hl
  exact exchange_keptOr h.codec h.suite hname req (σ.cached i, σ.link)

/-- 起動は、いつも成功する。 -/
theorem step_start (h : d.Ready) (σ : Site ι) :
    d.step σ .start = some { σ with
      listener := some (σ.now, (startedService d.resolver σ.now).config d.suite) } := by
  unfold step
  rw [listenerAt_eq h]
  rfl

theorem step_ask {start : UInt32} {config : DnsCryptServerConfig}
    (hl : σ.listener = some (start, config)) (i : ι) (req : Message) :
    d.step σ (.ask i req) = some { σ with
      cached := Function.update σ.cached i (d.record σ config i req).after.1
      link := (d.record σ config i req).after.2 } := by
  unfold step
  rw [hl]
  rfl

/-- **一歩は、鍵を変えず、証明書の出し直しと取り替えとして進む。** -/
theorem step_leases (h : d.Ready) (hg : Genuine d σ)
    (hallowed : (d.machine.restrict d.Writable).allowed σ e) (hs : d.step σ e = some σ') :
    Genuine d σ' ∧ Relation.ReflTransGen Leases.Step (leases σ) (leases σ') := by
  obtain ⟨hclock, hwritable⟩ := hallowed
  cases e with
  | clock t =>
    cases hs
    exact ⟨⟨hg.listener, hg.cached⟩, .single (.pass (UInt32.le_iff_toNat_le.mp (hclock t rfl)))⟩
  | start =>
    have hname := hwritable rfl _ (listenerAt_eq h σ.now)
    rw [step_start h] at hs
    cases hs
    refine ⟨⟨fun start config hl => ?_, hg.cached⟩, .single .issue⟩
    cases hl
    exact ⟨rfl, hname⟩
  | ask i req =>
    obtain ⟨⟨start, config⟩, hl, rfl⟩ := Option.map_eq_some_iff.mp hs
    rcases record_keptOr h hg hl i req with hkept | hissued
    · -- 取ってある証明書は変わらない
      rw [hkept, Function.update_eq_self]
      exact ⟨⟨hg.listener, hg.cached⟩, .refl⟩
    · rw [hissued]
      refine ⟨⟨hg.listener, fun j cert hcert => ?_⟩, ?_⟩
      · by_cases hj : j = i
        · subst hj
          change Function.update σ.cached j _ j = some cert at hcert
          rw [Function.update_self, Option.some.injEq] at hcert
          exact ⟨start, hcert.symm⟩
        · change Function.update σ.cached i _ j = some cert at hcert
          rw [Function.update_of_ne hj] at hcert
          exact hg.cached j cert hcert
      · have hheld : (fun j => (Function.update σ.cached i
              (some ((startedService d.resolver start).cert d.suite)) j).map (·.tsStart.toNat))
            = Function.update (leases σ).held i (leases σ).newest := by
          funext j
          by_cases hj : j = i
          · subst hj
            rw [Function.update_self, Function.update_self]
            show some start.toNat = σ.listener.map (·.1.toNat)
            rw [hl]
            rfl
          · rw [Function.update_of_ne hj, Function.update_of_ne hj]
            rfl
        have hrenew : Leases.Step (leases σ)
            { leases σ with held := Function.update (leases σ).held i (leases σ).newest } :=
          .renew i
        rw [← hheld] at hrenew
        exact .single hrenew

theorem reach_genuine (h : d.Ready) (hreach : (d.machine.restrict d.Writable).Reach σ) :
    Genuine d σ ∧ (leases σ).Ordered := by
  refine hreach.invariant (P := fun σ => Genuine d σ ∧ (leases σ).Ordered) ?_ ?_
  · exact ⟨⟨fun _ _ h => (by cases h), fun _ _ h => (by cases h)⟩,
      ⟨fun _ h => (by cases h), fun _ _ h => (by cases h)⟩⟩
  · intro s e s' ⟨hg, hordered⟩ hallowed hs
    obtain ⟨hg', hrun⟩ := step_leases h hg hallowed hs
    exact ⟨hg', hordered.run hrun⟩

/-- 有効な証明書が手に入るのは、今の listener の証明書の期限の手前までである。 -/
theorem usable_iff (h : d.Ready) (hreach : (d.machine.restrict d.Writable).Reach σ) {start : UInt32}
    {config : DnsCryptServerConfig} (hl : σ.listener = some (start, config)) (i : ι) :
    ((σ.cached i).filter (·.isValidAt σ.now)).isSome ∨
        ((startedService d.resolver start).cert d.suite).isValidAt σ.now = true ↔
      σ.now < certEnd start := by
  obtain ⟨hg, hordered⟩ := reach_genuine h hreach
  have hnewest : (leases σ).newest = some start.toNat := by
    show σ.listener.map (·.1.toNat) = _
    rw [hl]
    rfl
  have hcached : ((σ.cached i).filter (·.isValidAt σ.now)).isSome ↔
      ∃ s, (leases σ).held i = some s ∧ Leases.Valid certExpiry (leases σ).now s := by
    show _ ↔ ∃ s, (σ.cached i).map (·.tsStart.toNat) = some s ∧ _
    cases hc : σ.cached i with
    | none => simp
    | some cert =>
      obtain ⟨s, rfl⟩ := hg.cached i cert hc
      have hvalid := started_isValidAt d.suite d.resolver s σ.now
      rw [Option.filter_some, Option.isSome_ite]
      exact ⟨fun hv => ⟨_, rfl, hvalid.mp hv⟩, fun ⟨_, hs, hv⟩ => hvalid.mpr (by cases hs; exact hv)⟩
  rw [hcached, started_isValidAt, UInt32.lt_iff_toNat_lt, certEnd_toNat]
  have hlaw := hordered.usable_iff certExpiry_mono i
  simp only [hnewest, Option.some.injEq, exists_eq_left'] at hlaw
  exact hlaw

/-- 期限の手前で起きること。 -/
theorem record_answers (h : d.Ready) (hreach : (d.machine.restrict d.Writable).Reach σ)
    {start : UInt32} {config : DnsCryptServerConfig} (hl : σ.listener = some (start, config))
    (hnow : σ.now < certEnd start) (i : ι) {req resp : Message} {reqBytes respBytes : Bytes}
    (hreq : SendsQuery d.codec d.env.server req reqBytes) (hhandler : d.handler req = .ok resp)
    (hvalid : validateResponse d.codec req resp = .ok ())
    (hresp : SendsResponse d.codec d.env.client resp respBytes) :
    (d.record σ config i req).result = .ok resp ∧
      (d.record σ config i req).events
        = certEvents (σ.cached i) ((startedService d.resolver start).cert d.suite) σ.now ∧
      (d.record σ config i req).after.1
        = ((σ.cached i).filter (·.isValidAt σ.now)).or
            (some ((startedService d.resolver start).cert d.suite)) := by
  obtain ⟨hg, -⟩ := reach_genuine h hreach
  have husable := (usable_iff h hreach hl i).mpr hnow
  have hcached : ∀ cert, σ.cached i = some cert →
      cert.resolverPublicKey = d.suite.publicKey d.resolver.resolverSecretKey ∧
        cert.clientMagic = mainClientMagic := by
    intro cert hcert
    obtain ⟨s, rfl⟩ := hg.cached i cert hcert
    exact ⟨rfl, rfl⟩
  rw [record_eq h hg hl]
  obtain ⟨rfl, hname⟩ := hg.listener start config hl
  exact exchange_answers { d.env with now := σ.now } (startedService d.resolver start) d.timeout
    h.codec h.suite hname hcached hreq hhandler hvalid hresp husable σ.link

/-! ## 到達できる状態を続ける -/

theorem reach_start (h : d.Ready) (hreach : (d.machine.restrict d.Writable).Reach σ)
    (hname : LegalProviderName d.codec ((startedService d.resolver σ.now).config d.suite)) :
    (d.machine.restrict d.Writable).Reach { σ with
      listener := some (σ.now, (startedService d.resolver σ.now).config d.suite) } := by
  refine hreach.step (e := .start) ⟨fun t ht => (by cases ht), fun _ config hconfig => ?_⟩
    (step_start h σ)
  rw [listenerAt_eq h] at hconfig
  cases hconfig
  exact hname

theorem reach_clock (hreach : (d.machine.restrict d.Writable).Reach σ) {t : UInt32}
    (ht : σ.now ≤ t) : (d.machine.restrict d.Writable).Reach { σ with now := t } := by
  refine hreach.step (e := .clock t) ⟨fun t' ht' => ?_, fun h => (by cases h)⟩ rfl
  cases ht'
  exact ht

theorem reach_ask (hreach : (d.machine.restrict d.Writable).Reach σ) {start : UInt32}
    {config : DnsCryptServerConfig} (hl : σ.listener = some (start, config)) (i : ι)
    (req : Message) :
    (d.machine.restrict d.Writable).Reach { σ with
      cached := Function.update σ.cached i (d.record σ config i req).after.1
      link := (d.record σ config i req).after.2 } :=
  hreach.step (e := .ask i req) ⟨fun t ht => (by cases ht), fun h => (by cases h)⟩
    (step_ask hl i req)

end Deployment

/-! ## 結論 -/

/--
**鍵の file から何度起動し直しても、client が答えを得られるのは、今の listener の証明書の期限の
手前まで、かつそれまでである。** いつの起動の証明書を取ってあるかには依らない。

答えは handler の応答そのものである。要求と応答は、どちらもそのまま読み戻されて、frame が送れる
長さに収まるものとする（`SendsQuery`・`SendsResponse`）。取ってある証明書の期限が過ぎていなければ、尋ね直さずにそれで
暗号化し、過ぎていれば今の証明書を一度だけ尋ねる。期限の後は、尋ねても有効なものが無くて失敗する。
-/
theorem resolver_lifecycle {ι : Type} [DecidableEq ι] {d : Deployment} (h : d.Ready) {σ : Site ι}
    (hreach : (d.machine.restrict d.Writable).Reach σ) {start : UInt32}
    {config : DnsCryptServerConfig} (hl : σ.listener = some (start, config)) (i : ι)
    {req resp : Message} {reqBytes respBytes : Bytes}
    (hreq : SendsQuery d.codec d.env.server req reqBytes) (hhandler : d.handler req = .ok resp)
    (hvalid : validateResponse d.codec req resp = .ok ())
    (hresp : SendsResponse d.codec d.env.client resp respBytes) :
    (d.record σ config i req).result
        = (if σ.now < certEnd start then .ok resp
          else .err (noValidCert d.env.std d.resolver.providerName)) ∧
      (d.record σ config i req).events
        = certEvents (σ.cached i) ((startedService d.resolver start).cert d.suite) σ.now := by
  by_cases hnow : σ.now < certEnd start
  · obtain ⟨hresult, hevents, -⟩ := Deployment.record_answers h hreach hl hnow i hreq hhandler hvalid
      hresp
    rw [if_pos hnow]
    exact ⟨hresult, hevents⟩
  · have hnone := mt (Deployment.usable_iff h hreach hl i).mp hnow
    rw [not_or, Option.not_isSome_iff_eq_none, Bool.not_eq_true] at hnone
    obtain ⟨hg, -⟩ := Deployment.reach_genuine h hreach
    rw [Deployment.record_eq h hg hl, if_neg hnow]
    obtain ⟨rfl, hname⟩ := hg.listener start config hl
    exact exchange_expired (startedService d.resolver start) d.handler d.timeout h.codec h.suite
      hname req hnone.1 hnone.2 σ.link

/-! ## 二度の起動 -/

/-- provider `a` の listener を 100 秒と 500 秒に起動するときの message。 -/
def lifecycleMessages : List Message :=
  [DnsCryptUpstream.providerQuery 0 providerA,
    providerTxtReply ((startedService serviceA.resolver 100).config CryptoSuite.trivial) 0
      { name := providerA, queryType := RecordType.TXT },
    providerTxtReply ((startedService serviceA.resolver 500).config CryptoSuite.trivial) 0
      { name := providerA, queryType := RecordType.TXT },
    queryA.setId 0, (echo queryA).setId 0].flatMap fun m => [m, m.truncate]

theorem encodable_lifecycleMessages : Encodable lifecycleMessages where
  distinct := by decide +kernel
  queries := by decide +kernel
  truncate := by decide +kernel

/-- 100 秒に配備した provider `a` の resolver。 -/
def deploymentA : Deployment where
  codec := listCodec [("a", relativeA)] lifecycleMessages
  suite := CryptoSuite.trivial
  env := loopbackEnv
  handler := echoHandler
  resolver := serviceA.resolver
  path := text "dnscrypt.conf"
  stamp := (startedService serviceA.resolver 100).stamp CryptoSuite.trivial loopbackEnv
  timeout := some (Duration.fromSecs 5)

theorem deploymentA_toBytes {m : Message} (h : (m.setId 0).rooted ∈ lifecycleMessages) :
    deploymentA.codec.toBytes m = .ok m.encode := listCodec_toBytes_iff.mpr ⟨h, rfl⟩

theorem deploymentA_roundTrips {m : Message} (hm : m.rooted = m) :
    deploymentA.codec.RoundTrips m := listCodec_roundTrips encodable_lifecycleMessages hm

theorem deploymentA_reads {m : Message} (h : (m.setId 0).rooted ∈ lifecycleMessages) :
    ∃ b, deploymentA.codec.toBytes m = .ok b ∧ deploymentA.codec.fromBytes b = .ok m.rooted :=
  ⟨_, deploymentA_toBytes h, listCodec_reads encodable_lifecycleMessages (deploymentA_toBytes h)⟩

theorem deploymentA_ready : deploymentA.Ready where
  codec := listCodec_laws encodable_lifecycleMessages (by decide)
  suite := CryptoSuite.trivial_laws
  name_line := by decide
  name_trim := by decide
  addr := loopback_readsAddr
  stamp := parse_buildStamp _ loopback_readsAddr.parse loopback_readsAddr.length (by decide)

/-- やり取りに現れる message は、書ける。 -/
theorem mem_lifecycleMessages {m : Message}
    (h : m ∈ [DnsCryptUpstream.providerQuery 0 providerA,
      providerTxtReply ((startedService serviceA.resolver 100).config CryptoSuite.trivial) 0
        { name := providerA, queryType := RecordType.TXT },
      providerTxtReply ((startedService serviceA.resolver 500).config CryptoSuite.trivial) 0
        { name := providerA, queryType := RecordType.TXT },
      queryA.setId 0, (echo queryA).setId 0]) : m ∈ lifecycleMessages :=
  List.mem_flatMap.mpr ⟨m, h, List.mem_cons_self⟩

theorem deploymentA_legal {start : UInt32}
    (h : providerTxtReply ((startedService serviceA.resolver start).config CryptoSuite.trivial) 0
      { name := providerA, queryType := RecordType.TXT } ∈ lifecycleMessages) :
    LegalProviderName deploymentA.codec
      ((startedService serviceA.resolver start).config CryptoSuite.trivial) where
  length := by
    show (Utf8.encode "a").length < 128
    decide
  parse :=
    ⟨relativeA, rfl, fun id => deploymentA_reads (mem_lifecycleMessages List.mem_cons_self),
      fun id => deploymentA_reads h⟩

theorem deploymentA_legal_first : LegalProviderName deploymentA.codec
    ((startedService serviceA.resolver 100).config CryptoSuite.trivial) :=
  deploymentA_legal (mem_lifecycleMessages (by simp))

theorem deploymentA_legal_second : LegalProviderName deploymentA.codec
    ((startedService serviceA.resolver 500).config CryptoSuite.trivial) :=
  deploymentA_legal (mem_lifecycleMessages (by simp))

/-- 時刻 `start` に起動した listener の設定。 -/
def configA (start : UInt32) : DnsCryptServerConfig :=
  (startedService serviceA.resolver start).config CryptoSuite.trivial

/-- 100 秒に起動したところ。 -/
def siteStarted : Site Unit where
  now := 100
  listener := some (100, configA 100)
  cached _ := none
  link := Link.empty

/-- client が一度尋ねた後。 -/
def asked (σ : Site Unit) (config : DnsCryptServerConfig) : Site Unit :=
  { σ with
    cached := Function.update σ.cached () (deploymentA.record σ config () queryA).after.1
    link := (deploymentA.record σ config () queryA).after.2 }

theorem asked_cached (σ : Site Unit) (config : DnsCryptServerConfig) :
    (asked σ config).cached () = (deploymentA.record σ config () queryA).after.1 :=
  Function.update_self (β := fun _ => Option Certificate) () _ σ.cached

/-- 500 秒に起動し直す。 -/
def restart (σ : Site Unit) : Site Unit :=
  { σ with now := 500, listener := some (500, configA 500) }

theorem restart_cached (σ : Site Unit) : (restart σ).cached = σ.cached := rfl

theorem reach_restart {σ : Site Unit}
    (hreach : (deploymentA.machine.restrict deploymentA.Writable).Reach σ) (hnow : σ.now ≤ 500) :
    (deploymentA.machine.restrict deploymentA.Writable).Reach (restart σ) :=
  Deployment.reach_start deploymentA_ready (Deployment.reach_clock hreach hnow)
    deploymentA_legal_second

theorem siteStarted_reach :
    (deploymentA.machine.restrict deploymentA.Writable).Reach siteStarted :=
  Deployment.reach_start deploymentA_ready .init deploymentA_legal_first

theorem asked_reach : (deploymentA.machine.restrict deploymentA.Writable).Reach
    (asked siteStarted (configA 100)) :=
  Deployment.reach_ask siteStarted_reach rfl () queryA

theorem deploymentA_query :
    SendsQuery deploymentA.codec loopbackEnv.server queryA queryA.encode where
  bytes := deploymentA_toBytes
    (show queryA.setId 0 ∈ lifecycleMessages from mem_lifecycleMessages (by simp))
  round := deploymentA_roundTrips rfl
  frame := by decide +kernel

theorem deploymentA_response :
    SendsResponse deploymentA.codec loopbackEnv.client (echo queryA) (echo queryA).encode where
  bytes := deploymentA_toBytes
    (show (echo queryA).setId 0 ∈ lifecycleMessages from mem_lifecycleMessages (by simp))
  round := deploymentA_roundTrips rfl
  roundTruncated := deploymentA_roundTrips rfl
  frame := by decide +kernel
  datagram := by
    intro b hb
    obtain ⟨-, rfl⟩ := listCodec_toBytes_iff.mp hb
    decide +kernel

theorem deploymentA_answers : deploymentA.handler queryA = .ok (echo queryA) ∧
    validateResponse deploymentA.codec queryA (echo queryA) = .ok () := ⟨rfl, rfl⟩

/-- client は、初めの listener の証明書を取ってある。 -/
theorem siteStarted_record :
    (deploymentA.record siteStarted (configA 100) () queryA).after.1
      = some ((startedService serviceA.resolver 100).cert CryptoSuite.trivial) := by
  have hlistener : siteStarted.listener = some (100, configA 100) := rfl
  have hnow : siteStarted.now < certEnd 100 := by
    show (100 : UInt32) < _
    decide +kernel
  obtain ⟨-, -, hafter⟩ := Deployment.record_answers deploymentA_ready siteStarted_reach hlistener
    hnow () deploymentA_query deploymentA_answers.1 deploymentA_answers.2 deploymentA_response
  rw [hafter]
  rfl

/-- 起動し直した listener にも、初めの証明書で問い合わせる。 -/
theorem resolver_lifecycle_restarted :
    (deploymentA.record (restart (asked siteStarted (configA 100))) (configA 500) () queryA).result
        = .ok (echo queryA) ∧
      (deploymentA.record (restart (asked siteStarted (configA 100))) (configA 500) () queryA).events
        = [.encrypt ((startedService serviceA.resolver 100).cert CryptoSuite.trivial)] := by
  have hnow : (500 : UInt32) < certEnd 500 := by decide +kernel
  have hlater : (100 : UInt32) ≤ 500 := by decide
  obtain ⟨hresult, hevents⟩ := resolver_lifecycle deploymentA_ready (reach_restart asked_reach hlater)
    rfl () deploymentA_query deploymentA_answers.1 deploymentA_answers.2 deploymentA_response
  rw [restart_cached, asked_cached, siteStarted_record] at hevents
  exact ⟨hresult.trans (if_pos hnow), hevents⟩

end DnsProxy
