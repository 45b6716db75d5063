import Mathlib.Data.List.Chain
import DnsProxy.Client.DnsCrypt
import DnsProxy.Properties.Exchange

/-!
# 期限切れの後の証明書の取り直し

`exchange` の docstring は、期限が切れたら証明書を取り直して再試行すると言う。実際には、期限は
全体に一つ掛かるだけなので、応答を待ったまま期限が切れると、取り直しに入る前に打ち切られる。
次の `exchange` は、取ってある証明書が有効期間の中にある限り、それをそのまま使う。

一つの upstream に対する `exchange` の列を考える。列の合間には、時刻も server も自由に変わる。
要求を書けない `exchange` のように、証明書について何も起きずに終わるものも列に混じるので、取り直しが
挟まるかどうかは、列の全体で起きたことを順に並べて言う。
-/

namespace DnsProxy

open Infra

variable {V : Type}

/-! ## 一つの upstream の状態 -/

/-- upstream の持つ証明書と、その一回の `exchange` で起きたこと。 -/
structure CertState where
  cert : Option Certificate
  log : List CertEvent

/-- 状態 `CertState` を独り占めする upstream。 -/
def soleUpstream (stamp : DnsCryptStamp) (timeout : Option Duration) :
    DnsCryptUpstream (CertState × V) where
  stamp
  timeout
  cert := { get := fun t => t.1.cert, set := fun c t => ({ t.1 with cert := c }, t.2) }
  log := { get := fun t => t.1.log, set := fun l t => ({ t.1 with log := l }, t.2) }

/-- 一回の `exchange` の記録。 -/
structure ExchangeRecord (V : Type) where
  req : Message
  /-- 始まったときの、取ってある証明書と世界。 -/
  before : Option Certificate × V
  events : List CertEvent
  result : Outcome DohError Message
  after : Option Certificate × V

section

variable (codec : Codec) (suite : CryptoSuite) (net : Net V) (stamp : DnsCryptStamp)
  (timeout : Option Duration)

/-- `before` から `req` を送った記録。 -/
def exchangeRecord (req : Message) (before : Option Certificate × V) : ExchangeRecord V :=
  let out := (Upstream.dnsCrypt (soleUpstream stamp timeout)).exchange codec suite net.onSnd req
    ({ cert := before.1, log := [] }, before.2)
  { req, before, events := out.2.1.log, result := out.1, after := (out.2.1.cert, out.2.2) }

/-- 続けて行った `exchange` の列。合間に変わらないのは、取ってある証明書だけである。 -/
structure IsRun (run : List (ExchangeRecord V)) : Prop where
  step : ∀ r ∈ run, r = exchangeRecord codec suite net stamp timeout r.req r.before
  link : run.IsChain fun r r' => r'.before.1 = r.after.1

/-- 始めに証明書を見たときに、使えるもの `cert` が取ってある。 -/
def StartsWith (r : ExchangeRecord V) (cert : Certificate) : Prop :=
  r.before.1 = some cert ∧ cert.isValidAt (net.nowUnix (net.lock r.before.2)) = true

/-- 使える証明書が取ってあって、要求をそれで暗号化できる。 -/
def Reuses (r : ExchangeRecord V) (cert : Certificate) : Prop :=
  StartsWith net r cert ∧
    ∃ sent client sealed v₁ v₂, codec.toBytes r.req = .ok sent ∧
      ClientKeyPair.generate suite net (net.lock r.before.2) = (.ok client, v₁) ∧
      encryptQuery suite net cert client sent v₁ = (.ok sealed, v₂)

end

/-- 証明書 `cert` で暗号化した query の応答を待ったまま、期限が切れた。 -/
def ExchangeRecord.TimedOutOn (r : ExchangeRecord V) (cert : Certificate) : Prop :=
  (∃ d, r.result = .err (.timeout d)) ∧ r.events.getLast? = some (.encrypt cert)

/--
応答を待って期限が切れた `exchange` の後は、その先の出来事を順に並べたとき、次の query を暗号化する前に
必ず証明書を取り直している。

したがって、間に何度 `exchange` があっても、取り直しを挟まずに再び期限が切れることは無い。
-/
def RefetchesAfterTimeout (run : List (ExchangeRecord V)) : Prop :=
  ∀ past r rest cert, run = past ++ r :: rest → r.TimedOutOn cert →
    (∀ before c after, rest.flatMap ExchangeRecord.events = before ++ .encrypt c :: after →
      .fetch ∈ before) ∧
    ∀ mid r' tail c, rest = mid ++ r' :: tail → r'.TimedOutOn c →
      .fetch ∈ (mid ++ [r']).flatMap ExchangeRecord.events

/-- 最後に暗号化した query の応答を待ったまま期限が切れ、その後は何も起きていない。 -/
def EndsTimedOut (past : List (ExchangeRecord V)) : Prop :=
  ∃ before r idle cert, past = before ++ r :: idle ∧ r.TimedOutOn cert ∧ ∀ q ∈ idle, q.events = []

/-! ## 記録は伸びるだけである -/

/-- 記録が伸びる。 -/
def LogGrows (t t' : CertState × V) : Prop := t.1.log <+: t'.1.log

theorem logGrows_refl (t : CertState × V) : LogGrows t t := List.prefix_refl _

theorem logGrows_trans (a b c : CertState × V) (hab : LogGrows a b) (hbc : LogGrows b c) :
    LogGrows a c := List.IsPrefix.trans hab hbc

section

variable {codec : Codec} {suite : CryptoSuite} {net : Net V} {stamp : DnsCryptStamp}
  {timeout : Option Duration}

theorem grows_bind {α β : Type} {x : Async (CertState × V) DohError α}
    {f : α → Async (CertState × V) DohError β} (hx : x.Moves LogGrows)
    (hf : ∀ a, (f a).Moves LogGrows) : (x >>= f).Moves LogGrows :=
  Async.Moves.bind logGrows_trans hx hf

theorem grows_pure {α : Type} (a : α) :
    (pure a : Async (CertState × V) DohError α).Moves LogGrows := Async.Moves.pure logGrows_refl a

theorem grows_lift {α : Type} (x : Outcome DohError α) :
    (Async.lift x : Async (CertState × V) DohError α).Moves LogGrows :=
  Async.Moves.lift logGrows_refl x

theorem grows_io {α : Type} (op : Op V String α) :
    (io (op.onSnd : Op (CertState × V) String α)).Moves LogGrows := Async.Moves.call logGrows_refl

theorem grows_random (n : Nat) :
    (randomBytes (net.onSnd : Net (CertState × V)) n).Moves LogGrows := logGrows_refl

theorem grows_lock : (lock (net.onSnd : Net (CertState × V))).Moves LogGrows := logGrows_refl

theorem grows_note (e : CertEvent) :
    ((soleUpstream stamp timeout : DnsCryptUpstream (CertState × V)).note e).Moves LogGrows :=
  fun t => List.prefix_append t.1.log [e]

theorem grows_framed (stream : Nat) (b : Bytes) :
    (exchangeFramed (net.onSnd : Net (CertState × V)) stream b).Moves LogGrows := by
  refine grows_bind (grows_io _) fun _ => grows_bind (grows_io _) fun _ => ?_
  exact grows_bind (grows_io _) fun len => grows_bind (grows_io _) fun buf => grows_pure _

theorem grows_udp (b : Bytes) :
    ((soleUpstream stamp timeout).exchangeUdp (net.onSnd : Net (CertState × V)) b).Moves
      LogGrows := by
  refine grows_bind (grows_io _) fun sock => grows_bind (grows_io _) fun _ => ?_
  exact grows_bind (grows_io _) fun _ => grows_bind (grows_io _) fun buf => grows_pure _

theorem grows_tcp (b : Bytes) :
    ((soleUpstream stamp timeout).exchangeTcp (net.onSnd : Net (CertState × V)) b).Moves
      LogGrows := by
  unfold DnsCryptUpstream.exchangeTcp
  split
  · exact Async.Moves.throw logGrows_refl _
  · exact grows_bind (grows_io _) fun tcp => grows_framed tcp b

/-- 記録に `fetch` が加わった後は、それが残る。 -/
theorem fetched_keeps {t : CertState × V} (a b : CertState × V) (h : LogGrows a b)
    (ha : t.1.log ++ [.fetch] <+: a.1.log) : t.1.log ++ [.fetch] <+: b.1.log :=
  List.IsPrefix.trans ha h

/-- **`refresh_cert` は、どう終わっても、まず `fetch_provider_txt` を呼んでいる。** -/
theorem refreshCert_fetches (t : CertState × V) :
    t.1.log ++ [.fetch] <+: ((soleUpstream stamp timeout).refreshCert codec suite
      (net.onSnd : Net (CertState × V)) t).2.1.log := by
  have hfetch : t.1.log ++ [.fetch] <+: ((soleUpstream stamp timeout).fetchProviderTxt codec
      (net.onSnd : Net (CertState × V)) t).2.1.log := by
    refine Async.Moves.keeps fetched_keeps (List.prefix_refl (t.1.log ++ [.fetch])) fun _ => ?_
    refine grows_bind (grows_lift _) fun name => grows_bind (grows_random 2) fun id => ?_
    refine grows_bind (grows_lift _) fun reqBytes => grows_bind (grows_udp _) fun buf => ?_
    exact grows_bind (grows_lift _) fun resp => grows_pure _
  refine Async.Moves.keeps fetched_keeps hfetch fun txtRecords => ?_
  refine grows_bind (grows_lift _) fun certs => ?_
  refine grows_bind (Async.Moves.gets logGrows_refl _) fun now => ?_
  refine grows_bind (grows_lift _) fun cert => grows_bind grows_lock fun _ => ?_
  exact grows_bind (fun t => List.prefix_refl t.1.log) fun _ => grows_pure _

theorem grows_refreshCert :
    ((soleUpstream stamp timeout).refreshCert codec suite (net.onSnd : Net (CertState × V))).Moves
      LogGrows :=
  fun t => (List.prefix_append t.1.log [.fetch]).trans (refreshCert_fetches t)

theorem grows_withCert (cert : Certificate) (check : Message → Outcome DohError Unit)
    (req : Message) :
    ((soleUpstream stamp timeout).exchangeWithCertWith codec suite
      (net.onSnd : Net (CertState × V)) cert check req).Moves LogGrows := by
  have hfinish : ∀ resp, (DnsCryptUpstream.finish check resp
      : Async (CertState × V) DohError Message).Moves LogGrows :=
    fun resp => grows_bind (grows_lift _) fun _ => grows_pure _
  refine grows_bind (grows_lift _) fun reqBytes => ?_
  refine grows_bind (grows_bind (grows_random 32) fun _ => grows_pure _) fun client => ?_
  refine grows_bind (grows_bind (grows_random 12) fun _ => grows_bind (grows_lift _) fun _ =>
    grows_pure _) fun p => ?_
  refine grows_bind (grows_note _) fun _ => grows_bind (grows_udp _) fun encResp => ?_
  refine grows_bind (grows_lift _) fun resp => ?_
  split
  · refine grows_bind (grows_tcp _) fun encResp => grows_bind (grows_lift _) fun resp => ?_
    exact hfinish resp
  · exact hfinish resp

/-- 使える証明書が無ければ、`current_cert` は `fetch_provider_txt` を呼ぶ。 -/
theorem currentCert_fetches {t : CertState × V}
    (h : (soleUpstream stamp timeout).validCached (net.onSnd : Net (CertState × V))
      (t.1, net.lock t.2) = none) :
    t.1.log ++ [.fetch] <+: ((soleUpstream stamp timeout).currentCert codec suite
      (net.onSnd : Net (CertState × V)) t).2.1.log := by
  have hlock : (net.onSnd : Net (CertState × V)).lock t = (t.1, net.lock t.2) := rfl
  rw [DnsCryptUpstream.currentCert_apply, hlock, h]
  exact refreshCert_fetches (t.1, net.lock t.2)

/-- 期限は状態を変えないので、起きたことは内側だけで決まる。 -/
theorem exchangeRecord_events (req : Message) (before : Option Certificate × V) :
    (exchangeRecord codec suite net stamp timeout req before).events
      = ((soleUpstream stamp timeout).attemptWith codec suite net.onSnd (validateResponse codec req)
          req ({ cert := before.1, log := [] }, before.2)).2.1.log :=
  congrArg (fun t : CertState × V => t.1.log) (Async.timeout_snd _)

/-- 期限切れか I/O の失敗なら、証明書を取り直してもう一度送る。 -/
def retryArm (codec : Codec) (suite : CryptoSuite) (net : Net V) (stamp : DnsCryptStamp)
    (timeout : Option Duration) (req : Message) (e : DohError) :
    Async (CertState × V) DohError Message :=
  match e with
  | .timeout _ | .io _ => do
    let cert ← (soleUpstream stamp timeout).refreshCert codec suite net.onSnd
    (soleUpstream stamp timeout).exchangeWithCertWith codec suite net.onSnd cert
      (validateResponse codec req) req
  | e => Async.throw e

theorem attemptWith_eq (req : Message) :
    (soleUpstream stamp timeout).attemptWith codec suite (net.onSnd : Net (CertState × V))
        (validateResponse codec req) req
      = (soleUpstream stamp timeout).currentCert codec suite net.onSnd >>= fun cert =>
        ((soleUpstream stamp timeout).exchangeWithCertWith codec suite net.onSnd cert
          (validateResponse codec req) req).handle (retryArm codec suite net stamp timeout req) := rfl

theorem grows_retryArm (req : Message) (e : DohError) :
    (retryArm codec suite net stamp timeout req e).Moves LogGrows := by
  unfold retryArm
  split
  · exact grows_bind grows_refreshCert fun cert => grows_withCert cert _ req
  · exact grows_bind grows_refreshCert fun cert => grows_withCert cert _ req
  · exact Async.Moves.throw logGrows_refl _

/-- **使える証明書の無いところから始まる `exchange` は、暗号化の前に `fetch_provider_txt` を呼ぶ。** -/
theorem exchangeRecord_fetches {req : Message} {before : Option Certificate × V}
    (h : ∀ cert, before.1 = some cert →
      cert.isValidAt (net.nowUnix (net.lock before.2)) = false) :
    [CertEvent.fetch] <+: (exchangeRecord codec suite net stamp timeout req before).events := by
  have hcached : (soleUpstream stamp timeout).validCached (net.onSnd : Net (CertState × V))
      ({ cert := before.1, log := [] }, net.lock before.2) = none := by
    show Option.filter _ before.1 = none
    cases hb : before.1 with
    | none => rfl
    | some cert =>
      show (if cert.isValidAt (net.nowUnix (net.lock before.2)) then some cert else none) = none
      rw [h cert hb]
      rfl
  rw [exchangeRecord_events]
  have hfetch : [CertEvent.fetch] <+: ((soleUpstream stamp timeout).currentCert codec suite
      net.onSnd ({ cert := before.1, log := [] }, before.2)).2.1.log :=
    currentCert_fetches (t := ({ cert := before.1, log := [] }, before.2)) hcached
  rw [attemptWith_eq]
  exact Async.Moves.keeps (P := fun t : CertState × V => [CertEvent.fetch] <+: t.1.log)
    (fun a b hab ha => List.IsPrefix.trans ha hab) hfetch fun cert =>
      Async.Moves.handle logGrows_trans (grows_withCert cert _ req) (grows_retryArm req)

/-- 使える証明書が取ってあれば、`current_cert` はそれを返すだけである。 -/
theorem currentCert_startsWith {r : ExchangeRecord V} {cert : Certificate} (h : StartsWith net r cert) :
    (soleUpstream stamp timeout).currentCert codec suite (net.onSnd : Net (CertState × V))
        ({ cert := r.before.1, log := [] }, r.before.2)
      = (.ok cert, ({ cert := r.before.1, log := [] }, net.lock r.before.2)) := by
  have hcached : (soleUpstream stamp timeout).validCached (net.onSnd : Net (CertState × V))
      ({ cert := r.before.1, log := [] }, net.lock r.before.2) = some cert := by
    show Option.filter _ r.before.1 = some cert
    rw [h.1]
    exact Option.filter_eq_some_iff.mpr ⟨rfl, h.2⟩
  have hlock : (net.onSnd : Net (CertState × V)).lock ({ cert := r.before.1, log := [] }, r.before.2)
      = ({ cert := r.before.1, log := [] }, net.lock r.before.2) := rfl
  rw [DnsCryptUpstream.currentCert_apply, hlock, hcached]
  rfl

theorem encryptQuery_onSnd (cert : Certificate) (client : ClientKeyPair) (sent : Bytes) :
    encryptQuery suite (net.onSnd : Net (CertState × V)) cert client sent
      = (encryptQuery suite net cert client sent).onSnd := by
  unfold encryptQuery
  rw [Async.onSnd_bind]
  refine congrArg _ (funext fun nonce => ?_)
  dsimp only
  rw [Async.onSnd_bind]
  rfl

/-- `encrypt_query` は、値を返すか、`DohError::DnsCrypt` で失敗する。 -/
theorem encryptQuery_cases (cert : Certificate) (client : ClientKeyPair) (sent : Bytes) (v : V) :
    (∃ sealed v', encryptQuery suite net cert client sent v = (.ok sealed, v')) ∨
      ∃ m v', encryptQuery suite net cert client sent v = (.err (.dnsCrypt m), v') := by
  have hnonce : randomBytes net 12 v = (.ok (net.random 12 v).1, (net.random 12 v).2) := rfl
  unfold encryptQuery
  rw [Async.bind_ok hnonce]
  unfold sealBox
  cases suite.encrypt _ _ _ with
  | ok c => exact Or.inl ⟨_, _, rfl⟩
  | error e => exact Or.inr ⟨_, _, rfl⟩

/-- 取ってある証明書で暗号化できれば、最初に起きるのはその暗号化である。 -/
theorem exchangeRecord_reuses {r : ExchangeRecord V} {cert : Certificate}
    (h : Reuses codec suite net r cert) : [CertEvent.encrypt cert] <+:
      (exchangeRecord codec suite net stamp timeout r.req r.before).events := by
  obtain ⟨hstart, sent, client, sealed, v₁, v₂, hsent, hkeys, hseal⟩ := h
  let t : CertState := { cert := r.before.1, log := [] }
  have hkeys' : ClientKeyPair.generate suite (net.onSnd : Net (CertState × V))
      (t, net.lock r.before.2) = (.ok client, (t, v₁)) := by
    cases hkeys
    rfl
  have hseal' : encryptQuery suite (net.onSnd : Net (CertState × V)) cert client sent (t, v₁)
      = (.ok sealed, (t, v₂)) := by
    rw [encryptQuery_onSnd]
    exact Async.onSnd_apply hseal
  have hgrows : ∀ a b : CertState × V, LogGrows a b → [CertEvent.encrypt cert] <+: a.1.log →
      [CertEvent.encrypt cert] <+: b.1.log := fun a b hab ha => List.IsPrefix.trans ha hab
  rw [exchangeRecord_events, attemptWith_eq, Async.bind_ok (currentCert_startsWith hstart)]
  refine Async.Moves.keeps_handle hgrows ?_ (grows_retryArm r.req)
  unfold DnsCryptUpstream.exchangeWithCertWith
  rw [pack_ok_iff.mpr hsent, Async.lift_bind_ok, Async.bind_ok hkeys', Async.bind_ok hseal']
  refine Async.Moves.keeps hgrows (List.prefix_refl _) fun _ => ?_
  refine grows_bind (grows_udp _) fun encResp => grows_bind (grows_lift _) fun resp => ?_
  have hfinish : ∀ resp, (DnsCryptUpstream.finish (validateResponse codec r.req) resp
      : Async (CertState × V) DohError Message).Moves LogGrows :=
    fun resp => grows_bind (grows_lift _) fun _ => grows_pure _
  split
  · exact grows_bind (grows_tcp _) fun encResp => grows_bind (grows_lift _) fun resp => hfinish resp
  · exact hfinish resp

/-- 使える証明書が取ってあっても、要求を書けないか暗号化できなければ、何も起きない。 -/
theorem exchangeRecord_idle {r : ExchangeRecord V} {cert : Certificate}
    (hstart : StartsWith net r cert) (h : ¬ Reuses codec suite net r cert) :
    (exchangeRecord codec suite net stamp timeout r.req r.before).events = [] := by
  let t : CertState := { cert := r.before.1, log := [] }
  -- 暗号化の前に失敗すれば、再試行もせずに終わる
  have hfail : ∀ e v, (∀ d, e ≠ .timeout d) → (∀ m, e ≠ .io m) →
      (soleUpstream stamp timeout).exchangeWithCertWith codec suite net.onSnd cert
        (validateResponse codec r.req) r.req (t, net.lock r.before.2) = (.err e, (t, v)) →
      (exchangeRecord codec suite net stamp timeout r.req r.before).events = [] := by
    intro e v htimeout hio he
    rw [exchangeRecord_events, attemptWith_eq, Async.bind_ok (currentCert_startsWith hstart),
      Async.handle_err he]
    unfold retryArm
    split
    · exact absurd rfl (htimeout _)
    · exact absurd rfl (hio _)
    · rfl
  cases hsent : codec.toBytes r.req with
  | error m =>
    refine hfail (.pack m) (net.lock r.before.2) (by simp) (by simp) ?_
    have hpack : pack codec r.req = .err (.pack m) := by
      unfold pack
      rw [hsent]
    unfold DnsCryptUpstream.exchangeWithCertWith
    rw [hpack]
    rfl
  | ok sent =>
    have hkeys : ∃ client v₁, ClientKeyPair.generate suite net (net.lock r.before.2)
        = (.ok client, v₁) := ⟨_, _, rfl⟩
    obtain ⟨client, v₁, hkeys⟩ := hkeys
    have hkeys' : ClientKeyPair.generate suite (net.onSnd : Net (CertState × V))
        (t, net.lock r.before.2) = (.ok client, (t, v₁)) := by
      cases hkeys
      rfl
    have hseals : (∃ sealed v₂, encryptQuery suite net cert client sent v₁ = (.ok sealed, v₂)) ∨
        ∃ m v₂, encryptQuery suite net cert client sent v₁ = (.err (.dnsCrypt m), v₂) :=
      encryptQuery_cases cert client sent v₁
    rcases hseals with ⟨sealed, v₂, hseal⟩ | ⟨m, v₂, hseal⟩
    · exact absurd ⟨hstart, sent, client, sealed, v₁, v₂, hsent, hkeys, hseal⟩ h
    · have hseal' : encryptQuery suite (net.onSnd : Net (CertState × V)) cert client sent (t, v₁)
          = (.err (.dnsCrypt m), (t, v₂)) := by
        rw [encryptQuery_onSnd]
        exact Async.onSnd_apply hseal
      refine hfail (.dnsCrypt m) v₂ (by simp) (by simp) ?_
      unfold DnsCryptUpstream.exchangeWithCertWith
      rw [pack_ok_iff.mpr hsent, Async.lift_bind_ok, Async.bind_ok hkeys', Async.bind_err hseal']

/-- **使える証明書が取ってあるか、それで暗号化できるかで、最初に起きることが決まる。** -/
theorem exchangeRecord_cases {r : ExchangeRecord V}
    (hr : r = exchangeRecord codec suite net stamp timeout r.req r.before) :
    [CertEvent.fetch] <+: r.events ∨ (∃ cert, Reuses codec suite net r cert ∧
      [CertEvent.encrypt cert] <+: r.events) ∨ r.events = [] := by
  have hevents := congrArg ExchangeRecord.events hr
  rw [hevents]
  by_cases hstart : ∃ cert, StartsWith net r cert
  · obtain ⟨cert, hstart⟩ := hstart
    by_cases hreuse : Reuses codec suite net r cert
    · exact Or.inr (Or.inl ⟨cert, hreuse, exchangeRecord_reuses hreuse⟩)
    · exact Or.inr (Or.inr (exchangeRecord_idle hstart hreuse))
  · refine Or.inl (exchangeRecord_fetches fun cert hcert => ?_)
    cases hvalid : cert.isValidAt (net.nowUnix (net.lock r.before.2)) with
    | false => rfl
    | true => exact absurd ⟨cert, hcert, hvalid⟩ hstart

end

/-! ## 列についての結論 -/

/--
何も起きない `exchange` を除いて、次の `exchange` が証明書を使い回さないなら、先の出来事は取り直しから
始まる。帰納法は残りの列の長さについてのもので、`idle` は何も起きずに過ぎた部分である。
-/
theorem events_start_with_fetch {codec : Codec} {suite : CryptoSuite} {net : Net V}
    {stamp : DnsCryptStamp} {timeout : Option Duration} {idle rest : List (ExchangeRecord V)}
    (hstep : ∀ r ∈ rest, r = exchangeRecord codec suite net stamp timeout r.req r.before)
    (hidle : ∀ q ∈ idle, q.events = [])
    (h : ∀ past r tail cert, idle ++ rest = past ++ r :: tail → (∀ q ∈ past, q.events = []) →
      ¬ Reuses codec suite net r cert) :
    rest.flatMap ExchangeRecord.events = [] ∨
      ∃ es, rest.flatMap ExchangeRecord.events = .fetch :: es := by
  induction rest generalizing idle with
  | nil => exact Or.inl rfl
  | cons r rest ih =>
    rw [List.flatMap_cons]
    rcases exchangeRecord_cases (hstep r List.mem_cons_self) with
      ⟨es, hes⟩ | ⟨cert, hreuse, -⟩ | hnil
    · exact Or.inr ⟨es ++ rest.flatMap ExchangeRecord.events, by rw [← hes]; rfl⟩
    · exact absurd hreuse (h idle r rest cert rfl hidle)
    · rw [hnil, List.nil_append]
      have hidle' : ∀ q ∈ idle ++ [r], q.events = [] := by
        intro q hq
        rcases List.mem_append.mp hq with hq | hq
        · exact hidle q hq
        · rw [List.mem_singleton.mp hq, hnil]
      exact ih (fun q hq => hstep q (List.mem_cons_of_mem r hq)) hidle' (by simpa using h)

/-- 出来事の列の頭は、どの出来事で切っても、そこまでの部分に入る。 -/
theorem mem_upTo_of_head {events : List CertEvent} {first : CertEvent}
    (h : events = [] ∨ ∃ es, events = first :: es) {before after : List CertEvent} {e : CertEvent}
    (hsplit : events = before ++ e :: after) : first ∈ before ++ [e] := by
  subst hsplit
  cases before with
  | nil =>
    obtain hnil | ⟨es, hes⟩ := h
    · cases hnil
    · cases hes
      exact List.mem_cons_self
  | cons b before =>
    obtain hnil | ⟨es, hes⟩ := h
    · cases hnil
    · cases hes
      exact List.mem_cons_self

/--
**期限切れの後に必ず取り直しが挟まるのは、最後に暗号化した query の期限が切れたままのところから始まる
どの `exchange` も、取ってある証明書で暗号化しないとき、かつそのときに限る。**

暗号化しないのは、有効な証明書が取ってないときか、要求を書けないか暗号化できないときである。
-/
theorem refetch_after_timeout {codec : Codec} {suite : CryptoSuite} {net : Net V}
    {stamp : DnsCryptStamp} {timeout : Option Duration} {run : List (ExchangeRecord V)}
    (hrun : IsRun codec suite net stamp timeout run) :
    (∀ past r rest cert, run = past ++ r :: rest → EndsTimedOut past →
      ¬ Reuses codec suite net r cert) ↔ RefetchesAfterTimeout run := by
  constructor
  · rintro hcond past r rest cert rfl htimeout
    have hfetch : rest.flatMap ExchangeRecord.events = [] ∨
        ∃ es, rest.flatMap ExchangeRecord.events = .fetch :: es := by
      have hnone : ∀ q ∈ ([] : List (ExchangeRecord V)), q.events = [] := fun q hq => by cases hq
      refine events_start_with_fetch (fun q hq => hrun.step q (by simp [hq])) hnone
        fun idle r' tail c hsplit hidle => ?_
      rw [List.nil_append] at hsplit
      subst hsplit
      exact hcond (past ++ r :: idle) r' tail c (by simp) ⟨past, r, idle, cert, rfl, htimeout, hidle⟩
    have hhead : ∀ before e after, rest.flatMap ExchangeRecord.events = before ++ e :: after →
        .fetch ∈ before ++ [e] := fun before e after => mem_upTo_of_head hfetch
    constructor
    · intro before c after hsplit
      rcases List.mem_append.mp (hhead before _ after hsplit) with hmem | hmem
      · exact hmem
      · cases List.mem_singleton.mp hmem
    · rintro mid r' tail c rfl htimeout'
      have hlast : r'.events = r'.events.dropLast ++ [.encrypt c] :=
        (List.dropLast_append_getLast? _ htimeout'.2).symm
      have hsplit : (mid ++ r' :: tail).flatMap ExchangeRecord.events
          = (mid.flatMap ExchangeRecord.events ++ r'.events.dropLast) ++
            .encrypt c :: tail.flatMap ExchangeRecord.events := by
        rw [List.flatMap_append, List.flatMap_cons, hlast]
        simp
      have hmem := hhead _ _ _ hsplit
      rw [List.append_assoc, ← hlast] at hmem
      simpa using hmem
  · rintro h past r rest cert rfl ⟨before, q, idle, c, rfl, htimeout, hidle⟩ hreuse
    have hcases : [CertEvent.encrypt cert] <+: r.events := by
      rw [hrun.step r (by simp)]
      exact exchangeRecord_reuses hreuse
    obtain ⟨es, hes⟩ := hcases
    have hnil : idle.flatMap ExchangeRecord.events = [] :=
      List.flatMap_eq_nil_iff.mpr fun q hq => hidle q hq
    have hflat : (idle ++ r :: rest).flatMap ExchangeRecord.events
        = [] ++ .encrypt cert :: (es ++ rest.flatMap ExchangeRecord.events) := by
      rw [List.flatMap_append, List.flatMap_cons, hnil, ← hes]
      rfl
    have hmem := (h before q (idle ++ r :: rest) c (by simp) htimeout).1 [] cert _ hflat
    cases hmem

/-! ## 鍵を替えた server -/

/-- 送られた datagram・鍵を替えたかどうか・時刻。 -/
structure RotatingServer where
  sent : Bytes
  rotated : Bool
  now : UInt32
  deriving DecidableEq

/-- 提供者の名前 `a.`。 -/
def providerA : Name := ⟨[[97]], true⟩

def oldCert : Certificate where
  resolverPublicKey := Block.zeros 32
  clientMagic := mainClientMagic
  serial := 1
  tsStart := 0
  tsEnd := 1000

def newCert : Certificate :=
  { oldCert with clientMagic := ⟨[0x44, 0x4E, 0x53, 0x43, 0, 0, 0, 1], rfl⟩, serial := 2, tsEnd := 5000 }

/-- 証明書の TXT record の中身。 -/
def certBytes (c : Certificate) : Bytes :=
  signCertificate CryptoSuite.trivial (Block.zeros 32) c.resolverPublicKey c.clientMagic c.serial
    c.tsStart c.tsEnd

/-- 証明書を載せた TXT の応答と、その wire 形式。 -/
def certReply (c : Certificate) : Message :=
  { Message.new 0 .response .query with
    queries := [{ name := providerA, queryType := RecordType.TXT }]
    answers := [{ name := providerA, ttl := 60, data := .txt [certBytes c] }] }

def certReplyWire (c : Certificate) : Bytes :=
  [0, 0, 0x80, 0, 0, 1, 0, 1, 0, 0, 0, 0, 1, 97, 0, 0, 16, 0, 1,
    0xC0, 0x0C, 0, 16, 0, 1, 0, 0, 0, 60, 0, 125, 124] ++ certBytes c

def certQueryWire : Bytes := [0, 0, 1, 0, 0, 1, 0, 0, 0, 0, 0, 0, 1, 97, 0, 0, 16, 0, 1]

def certCodec : Codec :=
  { tableCodec [(queryA, wireA 1 0),
      (DnsCryptUpstream.providerQuery 0 providerA, certQueryWire),
      (certReply oldCert, certReplyWire oldCert), (certReply newCert, certReplyWire newCert)] with
    nameFromAscii := fun _ => .ok providerA }

/--
証明書の query には今の証明書を答え、ほかの datagram は黙って捨てる server。

最初の証明書を配った直後に鍵を替える。
-/
def rotatingNet : Net RotatingServer :=
  { Net.unreachable StdText.none with
    udpBind := fun _ v => (.ok 0, v)
    udpConnect := fun _ _ v => (.ok (), v)
    udpSend := fun _ b v => (.ok (), { v with sent := b })
    udpRecv := fun _ size v =>
      if v.sent = certQueryWire then
        let reply := certReplyWire (if v.rotated then newCert else oldCert)
        (.ok ⟨reply.take size, List.length_take_le size reply⟩, { v with rotated := true })
      else (.pending, v)
    nowUnix := fun v => v.now }

def stampA : DnsCryptStamp where
  addr := { ip := .v4 0x7F000001, port := 443 }
  providerPublicKey := Block.zeros 32
  providerName := "a"

/-- 時刻 `before.2.now` に `a.` を問い合わせた記録。 -/
def rotatingRecord (before : Option Certificate × RotatingServer) : ExchangeRecord RotatingServer :=
  exchangeRecord certCodec CryptoSuite.trivial rotatingNet stampA (some (Duration.fromSecs 10)) queryA
    before

/-- 最初の問い合わせ。証明書を取り、応答を待ったまま期限が切れる。 -/
@[irreducible] def firstRecord : ExchangeRecord RotatingServer :=
  rotatingRecord (none, { sent := [], rotated := false, now := 100 })

/-- 二度目の問い合わせ。時刻は `now` である。 -/
def secondRecord (now : UInt32) : ExchangeRecord RotatingServer :=
  rotatingRecord (firstRecord.after.1, { firstRecord.after.2 with now })

theorem firstRecord_timedOut : firstRecord.TimedOutOn oldCert :=
  ⟨⟨Duration.fromSecs 10, by decide +kernel⟩, by decide +kernel⟩

theorem firstRecord_cert : firstRecord.after.1 = some oldCert := by decide +kernel

/-- 二度目の問い合わせは、最初の問い合わせが残した証明書から始まる。 -/
theorem secondRecord_before (now : UInt32) : (secondRecord now).before.1 = firstRecord.after.1 := by
  have hbefore : ∀ before, (rotatingRecord before).before = before := fun _ => rfl
  rw [secondRecord, hbefore]

theorem isRun_records (now : UInt32) :
    IsRun certCodec CryptoSuite.trivial rotatingNet stampA (some (Duration.fromSecs 10))
      [firstRecord, secondRecord now] where
  step := by
    have hself : ∀ before, rotatingRecord before
        = exchangeRecord certCodec CryptoSuite.trivial rotatingNet stampA
            (some (Duration.fromSecs 10)) (rotatingRecord before).req
            (rotatingRecord before).before := fun _ => rfl
    intro r hr
    rcases List.mem_pair.mp hr with hr | hr
    · rw [hr, firstRecord]
      exact hself _
    · rw [hr]
      exact hself _
  link := List.isChain_pair.mpr (secondRecord_before now)

/-- 証明書の期限が切れてからの問い合わせなら、取り直しが挟まる。 -/
theorem refetch_after_timeout_expired :
    firstRecord.TimedOutOn oldCert ∧ RefetchesAfterTimeout [firstRecord, secondRecord 2000] := by
  refine ⟨firstRecord_timedOut, (refetch_after_timeout (isRun_records 2000)).mp ?_⟩
  intro past r rest cert hsplit htimeout hreuse
  cases past with
  | nil =>
    obtain ⟨before, q, idle, c, hnil, -⟩ := htimeout
    cases before <;> cases hnil
  | cons q past =>
    obtain ⟨-, htail⟩ := List.cons.inj hsplit
    cases past with
    | nil =>
      obtain ⟨hr, -⟩ := List.cons.inj htail
      obtain ⟨⟨hcert, hvalid⟩, -⟩ := hreuse
      rw [← hr, secondRecord_before, firstRecord_cert] at hcert
      cases hcert
      rw [← hr] at hvalid
      have htime : oldCert.isValidAt 2000 = false := by decide
      exact absurd (htime.symm.trans hvalid) (by decide)
    | cons q' past =>
      have hlen := congrArg List.length htail
      simp at hlen

/-- 有効期間の中では、同じ証明書のまま、取り直さずに二度続けて期限が切れる。 -/
theorem timeouts_without_refetch :
    IsRun certCodec CryptoSuite.trivial rotatingNet stampA (some (Duration.fromSecs 10))
        [firstRecord, secondRecord 200] ∧
      firstRecord.TimedOutOn oldCert ∧ (secondRecord 200).TimedOutOn oldCert ∧
      ¬ RefetchesAfterTimeout [firstRecord, secondRecord 200] := by
  have hsecond : (secondRecord 200).events = [.encrypt oldCert] := by decide +kernel
  have htimeout : (secondRecord 200).TimedOutOn oldCert :=
    ⟨⟨Duration.fromSecs 10, by decide +kernel⟩, by rw [hsecond]; rfl⟩
  refine ⟨isRun_records 200, firstRecord_timedOut, htimeout, fun hrefetch => ?_⟩
  have hmem := (hrefetch [] firstRecord [secondRecord 200] oldCert rfl firstRecord_timedOut).1 []
    oldCert [] (by rw [List.flatMap_singleton, hsecond]; rfl)
  cases hmem

end DnsProxy
