import DnsProxy.Client.Resolvers
import DnsProxy.Properties.Exchange

/-!
# bootstrap が返す address の出所

`resolve_addrs` が返す address の一つ一つは、引いている名前についての query のどれかに届いた
応答から取られる。DoH の応答は ID と question を確かめてあるが、`PlainResolver` は届いた datagram を
そのまま読むので、別の ID や question の datagram でも address が採られる。

出所を添えて引く（`tagged`）ことは、添えずに引いてから捨てることに等しい。したがって、正しい応答から
取られることは、address の取られた datagram がどれも query に合うことに等しい
（`resolveAddrs_origin_iff`）。
-/

namespace DnsProxy

open Infra

variable {W α β : Type}

/-! ## 取り出すものを替える -/

section

variable {codec : Codec} {net : Net W} {view : LookupReply → List α} (f : α → β)

theorem plainQuery_map (r : PlainResolver) (host : String) (qtype : RecordType) :
    r.query codec net (fun reply => (view reply).map f) host qtype
      = Async.mapOk (List.map f) (r.query codec net view host qtype) := by
  unfold PlainResolver.query
  simp only [Async.mapOk_bind]
  rfl

theorem dohQuery_map (u : DohUpstream W) (host : String) (qtype : RecordType) :
    DohResolver.query codec net (fun reply => (view reply).map f) u host qtype
      = Async.mapOk (List.map f) (DohResolver.query codec net view u host qtype) := by
  unfold DohResolver.query
  simp only [Async.mapOk_bind]
  rfl

theorem settle_mapOk (x : Async W DohError (List α)) :
    settle (Async.mapOk (List.map f) x)
      = Async.mapOk (Option.map (Except.map (List.map f))) (settle x) := by
  funext w
  unfold Async.mapOk settle
  dsimp only
  cases x w with
  | mk r w' =>
    cases r with
    | ok a => rfl
    | err e => rfl
    | pending => rfl
    | panic => rfl

/-- 空かどうかは写しても変わらないので、合わせ方も変わらない。 -/
theorem joinAnswers_map (a aaaa : Except DohError (List α)) :
    (Async.lift (joinAnswers (a.map (List.map f)) (aaaa.map (List.map f)))
        : Async W DohError (List β))
      = Async.mapOk (List.map f) (Async.lift (joinAnswers a aaaa)) := by
  funext w
  unfold Async.lift Async.mapOk
  cases a with
  | error e =>
    cases aaaa with
    | error e' => rfl
    | ok l =>
      cases l with
      | nil => rfl
      | cons x l => rfl
  | ok k =>
    cases aaaa with
    | error e =>
      cases k with
      | nil => rfl
      | cons x k => simp [joinAnswers, Except.map, Except.toOption]
    | ok l => simp [joinAnswers, Except.map, Except.toOption, lastErr]

theorem lookupBoth_map {query : RecordType → Async W DohError (List α)}
    {query' : RecordType → Async W DohError (List β)}
    (h : ∀ qtype, query' qtype = Async.mapOk (List.map f) (query qtype)) :
    lookupBoth query' = Async.mapOk (List.map f) (lookupBoth query) := by
  unfold lookupBoth
  simp only [h, Async.attempt_mapOk, Async.bind_mapOk, Async.mapOk_bind, joinAnswers_map]

theorem raceLoop_map (env : RaceEnv W) (futs : List (Async W DohError (List α)))
    (errs : List DohError) (stuck : Bool) :
    raceLoop env (futs.map (Async.mapOk (List.map f))) errs stuck
      = Async.mapOk (List.map f) (raceLoop env futs errs stuck) := by
  induction futs generalizing errs stuck with
  | nil =>
    unfold raceLoop
    cases stuck with
    | true => rfl
    | false => rfl
  | cons fut rest ih =>
    rw [List.map_cons, raceLoop, raceLoop, settle_mapOk, Async.bind_mapOk, Async.mapOk_bind]
    congr 1
    funext settled
    cases settled with
    | none => exact ih errs true
    | some r =>
      cases r with
      | error e => exact ih (errs ++ [e]) stuck
      | ok addrs =>
        cases addrs with
        | nil => exact ih errs stuck
        | cons addr addrs => rfl

theorem parallelLookup_map (env : RaceEnv W) (futs : List (Async W DohError (List α))) :
    parallelLookup env (futs.map (Async.mapOk (List.map f)))
      = Async.mapOk (List.map f) (parallelLookup env futs) := by
  unfold parallelLookup
  rw [List.length_map, List.isEmpty_map]
  split
  · rfl
  · rw [Async.mapOk_bind]
    congr 1
    funext order
    rw [← raceLoop_map, List.map_filterMap]
    simp only [List.getElem?_map]

variable (codec net view)

mutual

theorem BootstrapResolver.lookupWith_map (env : RaceEnv W) (host : String) :
    (r : BootstrapResolver W) →
      r.lookupWith codec net env (fun reply => (view reply).map f) host
        = Async.mapOk (List.map f) (r.lookupWith codec net env view host)
  | .plain r => by
    rw [BootstrapResolver.lookupWith, BootstrapResolver.lookupWith]
    exact lookupBoth_map f fun qtype => plainQuery_map f r host qtype
  | .doh u => by
    rw [BootstrapResolver.lookupWith, BootstrapResolver.lookupWith]
    exact lookupBoth_map f fun qtype => dohQuery_map f u host qtype
  | .parallel resolvers => by
    rw [BootstrapResolver.lookupWith, BootstrapResolver.lookupWith,
      BootstrapResolver.lookupsWith_map env host resolvers, parallelLookup_map]

theorem BootstrapResolver.lookupsWith_map (env : RaceEnv W) (host : String) :
    (rs : List (BootstrapResolver W)) →
      BootstrapResolver.lookupsWith codec net env (fun reply => (view reply).map f) host rs
        = (BootstrapResolver.lookupsWith codec net env view host rs).map (Async.mapOk (List.map f))
  | [] => by
    rw [BootstrapResolver.lookupsWith, BootstrapResolver.lookupsWith]
    rfl
  | r :: rest => by
    rw [BootstrapResolver.lookupsWith, BootstrapResolver.lookupsWith, List.map_cons,
      BootstrapResolver.lookupWith_map env host r, BootstrapResolver.lookupsWith_map env host rest]

end

end

/-! ## 出所 -/

/-- address に、その応答を添えて取り出す。 -/
def tagged (reply : LookupReply) : List (IpAddr × LookupReply) := reply.ips.map fun ip => (ip, reply)

/-- 添えたものを捨てれば、添えずに引いたものになる。 -/
theorem lookup_eq_tagged (codec : Codec) (net : Net W) (env : RaceEnv W) (host : String)
    (r : BootstrapResolver W) :
    r.lookupWith codec net env LookupReply.ips host
      = Async.mapOk (List.map Prod.fst) (r.lookupWith codec net env tagged host) := by
  have hview : (fun reply => (tagged reply).map Prod.fst) = LookupReply.ips := by
    funext reply
    simp [tagged, Function.comp_def]
  rw [← hview]
  exact r.lookupWith_map codec net tagged Prod.fst env host

/-- `req` は、`host` を引くための query である。 -/
def AsksFor (codec : Codec) (host : String) (req : Message) : Prop :=
  ∃ id name qtype, codec.nameFromAscii host = .ok name ∧
    (qtype = RecordType.A ∨ qtype = RecordType.AAAA) ∧ req = lookupQuery id name qtype

/-- address の出所。UDP では届いた datagram を読んだだけで、DoH では query への答えである。 -/
structure HasOrigin (codec : Codec) (host : String) (p : IpAddr × LookupReply) : Prop where
  mem : p.1 ∈ p.2.ips
  asks : AsksFor codec host p.2.req
  source : (∃ b, p.2.datagram = some b ∧ codec.fromBytes b = .ok p.2.resp) ∨
    (p.2.datagram = none ∧ IsReplyTo p.2.req p.2.resp)

/-- `x` が返すものは、どれも `P` を満たす。 -/
def AllEnsured (P : α → Prop) (x : Async W DohError (List α)) : Prop :=
  x.Ensures fun l => ∀ a ∈ l, P a

section

variable {codec : Codec} {net : Net W} {host : String}

theorem ensures_bootstrapResult {γ : Type} (x : Except String γ) :
    (Async.lift (bootstrapResult x) : Async W DohError γ).Ensures fun a => x = .ok a := by
  refine Async.Ensures.lift fun a h => ?_
  cases x with
  | error e => cases h
  | ok b =>
    cases h
    rfl

theorem tagged_hasOrigin {reply : LookupReply} (hasks : AsksFor codec host reply.req)
    (hsource : (∃ b, reply.datagram = some b ∧ codec.fromBytes b = .ok reply.resp) ∨
      (reply.datagram = none ∧ IsReplyTo reply.req reply.resp)) :
    ∀ p ∈ tagged reply, HasOrigin codec host p := by
  intro p hp
  obtain ⟨ip, hip, rfl⟩ := List.mem_map.mp hp
  exact ⟨hip, hasks, hsource⟩

theorem plainQuery_origin (r : PlainResolver) {qtype : RecordType}
    (hqtype : qtype = RecordType.A ∨ qtype = RecordType.AAAA) :
    AllEnsured (HasOrigin codec host) (r.query codec net tagged host qtype) := by
  refine Async.Ensures.seq (ensures_bootstrapResult _) fun name hname => ?_
  refine Async.Ensures.bind fun id => Async.Ensures.bind fun reqBytes => ?_
  have hreply : (r.askOnce codec net (lookupQuery id.be16 name qtype) reqBytes).Ensures fun reply =>
      reply.req = lookupQuery id.be16 name qtype ∧
        ∃ b, reply.datagram = some b ∧ codec.fromBytes b = .ok reply.resp := by
    refine Async.Ensures.bind fun sock => Async.Ensures.bind fun _ => ?_
    refine Async.Ensures.bind fun _ => Async.Ensures.bind fun buf => ?_
    refine Async.Ensures.seq (ensures_bootstrapResult _) fun resp hresp => ?_
    exact Async.Ensures.pure ⟨rfl, buf.1, rfl, hresp⟩
  refine Async.Ensures.seq hreply.timeout fun reply hr => Async.Ensures.pure ?_
  exact tagged_hasOrigin ⟨id.be16, name, qtype, hname, hqtype, hr.1⟩ (Or.inl hr.2)

/-- DoH の応答は、ID も question も確かめてある。 -/
theorem dohExchange_isReplyTo (u : DohUpstream W) (req : Message) :
    (u.exchangeWith codec net (validateResponse codec req) req).Ensures (IsReplyTo req) := by
  intro w resp w' hok
  have hexchange : (Upstream.doh u).exchange codec CryptoSuite.trivial net req w = (.ok resp, w') :=
    hok
  obtain ⟨hrecv, hmatch⟩ := ((Upstream.doh u).exchange_ok_iff req resp w w').mp hexchange
  exact ⟨Upstream.ensures_id rfl req w resp w' hrecv, hmatch⟩

theorem dohQuery_origin (u : DohUpstream W) {qtype : RecordType}
    (hqtype : qtype = RecordType.A ∨ qtype = RecordType.AAAA) :
    AllEnsured (HasOrigin codec host) (DohResolver.query codec net tagged u host qtype) := by
  refine Async.Ensures.seq (ensures_bootstrapResult _) fun name hname => ?_
  refine Async.Ensures.bind fun id => ?_
  refine Async.Ensures.seq (dohExchange_isReplyTo u _) fun resp hresp => Async.Ensures.pure ?_
  exact tagged_hasOrigin ⟨id.be16, name, qtype, hname, hqtype, rfl⟩ (Or.inr ⟨rfl, hresp⟩)

/-! ## 合わせても競わせても出所は変わらない -/

variable {P : α → Prop}

theorem ensures_attempt {x : Async W DohError (List α)} (h : AllEnsured P x) :
    x.attempt.Ensures fun r => ∀ l, r = .ok l → ∀ a ∈ l, P a := by
  intro w r w' hr l hl
  subst hl
  unfold Async.attempt at hr
  split at hr
  · next l' w₁ hx =>
    cases hr
    exact h w _ _ hx
  · cases hr
  · cases hr
  · cases hr

theorem joinAnswers_mem {a aaaa : Except DohError (List α)} {l : List α}
    (h : joinAnswers a aaaa = .ok l) {x : α} (hx : x ∈ l) :
    (∃ k, a = .ok k ∧ x ∈ k) ∨ ∃ k, aaaa = .ok k ∧ x ∈ k := by
  have hl : l = (a.toOption.getD []) ++ (aaaa.toOption.getD []) := by
    unfold joinAnswers at h
    dsimp only at h
    split at h
    · cases h
    · cases h
      rfl
  rw [hl] at hx
  rcases List.mem_append.mp hx with hx | hx
  · cases a with
    | error e => simp [Except.toOption] at hx
    | ok k => exact Or.inl ⟨k, rfl, hx⟩
  · cases aaaa with
    | error e => simp [Except.toOption] at hx
    | ok k => exact Or.inr ⟨k, rfl, hx⟩

theorem lookupBoth_origin {query : RecordType → Async W DohError (List α)}
    (h : ∀ qtype, qtype = RecordType.A ∨ qtype = RecordType.AAAA → AllEnsured P (query qtype)) :
    AllEnsured P (lookupBoth query) := by
  refine Async.Ensures.seq (ensures_attempt (h _ (Or.inl rfl))) fun a ha => ?_
  refine Async.Ensures.seq (ensures_attempt (h _ (Or.inr rfl))) fun aaaa haaaa => ?_
  refine Async.Ensures.lift fun l hl x hx => ?_
  rcases joinAnswers_mem hl hx with ⟨k, hk, hxk⟩ | ⟨k, hk, hxk⟩
  · exact ha k hk x hxk
  · exact haaaa k hk x hxk

theorem ensures_settle {x : Async W DohError (List α)} (h : AllEnsured P x) :
    (settle x).Ensures fun r => ∀ l, r = some (.ok l) → ∀ a ∈ l, P a := by
  intro w r w' hr l hl
  subst hl
  unfold settle at hr
  split at hr
  · next l' w₁ hx =>
    cases hr
    exact h w _ _ hx
  · cases hr
  · cases hr
  · cases hr

theorem raceLoop_origin {env : RaceEnv W} {futs : List (Async W DohError (List α))}
    (h : ∀ fut ∈ futs, AllEnsured P fut) (errs : List DohError) (stuck : Bool) :
    AllEnsured P (raceLoop env futs errs stuck) := by
  induction futs generalizing errs stuck with
  | nil =>
    unfold raceLoop
    split
    · exact Async.Ensures.lift fun _ hpending => by cases hpending
    · exact Async.Ensures.throw _
  | cons fut rest ih =>
    have hrest := ih fun fut' hmem => h fut' (List.mem_cons_of_mem fut hmem)
    unfold raceLoop
    refine Async.Ensures.seq (ensures_settle (h fut List.mem_cons_self)) fun settled hsettled => ?_
    split
    · exact hrest errs stuck
    · exact Async.Ensures.pure (hsettled _ rfl)
    · exact hrest _ stuck
    · exact hrest errs true

theorem parallelLookup_origin {env : RaceEnv W} {futs : List (Async W DohError (List α))}
    (h : ∀ fut ∈ futs, AllEnsured P fut) : AllEnsured P (parallelLookup env futs) := by
  unfold parallelLookup
  split
  · exact Async.Ensures.throw _
  · refine Async.Ensures.bind fun order => raceLoop_origin ?_ [] false
    intro fut hmem
    obtain ⟨i, -, hi⟩ := List.mem_filterMap.mp hmem
    exact h fut (List.mem_of_getElem? hi)

end

/-- 一つ一つの query が返すものは、どれも `P` を満たす。 -/
structure QueriesEnsure (codec : Codec) (net : Net W) (host : String)
    (P : IpAddr × LookupReply → Prop) : Prop where
  plain : ∀ (r : PlainResolver) {qtype}, qtype = RecordType.A ∨ qtype = RecordType.AAAA →
    AllEnsured P (r.query codec net tagged host qtype)
  doh : ∀ (u : DohUpstream W) {qtype}, qtype = RecordType.A ∨ qtype = RecordType.AAAA →
    AllEnsured P (DohResolver.query codec net tagged u host qtype)

section

variable {codec : Codec} {net : Net W} {host : String} {P : IpAddr × LookupReply → Prop}

mutual

/-- 一つ一つの query が返すものについて言えることは、引いた結果についても言える。 -/
theorem QueriesEnsure.lookupWith (h : QueriesEnsure codec net host P) (env : RaceEnv W) :
    (r : BootstrapResolver W) → AllEnsured P (r.lookupWith codec net env tagged host)
  | .plain r => by
    rw [BootstrapResolver.lookupWith]
    exact lookupBoth_origin fun qtype hqtype => h.plain r hqtype
  | .doh u => by
    rw [BootstrapResolver.lookupWith]
    exact lookupBoth_origin fun qtype hqtype => h.doh u hqtype
  | .parallel resolvers => by
    rw [BootstrapResolver.lookupWith]
    exact parallelLookup_origin (h.lookupsWith env resolvers)

theorem QueriesEnsure.lookupsWith (h : QueriesEnsure codec net host P) (env : RaceEnv W) :
    (rs : List (BootstrapResolver W)) →
      ∀ fut ∈ BootstrapResolver.lookupsWith codec net env tagged host rs, AllEnsured P fut
  | [] => by simp [BootstrapResolver.lookupsWith]
  | r :: rest => by
    intro fut hmem
    rw [BootstrapResolver.lookupsWith] at hmem
    rcases List.mem_cons.mp hmem with rfl | hmem
    · exact h.lookupWith env r
    · exact h.lookupsWith env rest fut hmem

end

theorem queriesEnsure_origin : QueriesEnsure codec net host (HasOrigin codec host) where
  plain r _ hqtype := plainQuery_origin r hqtype
  doh u _ hqtype := dohQuery_origin u hqtype

end

/-! ## 届く datagram -/

/--
`host` を引く query に対して socket に届く datagram は、読めて address を含むなら、同じ ID と question
の答えである。
-/
def DeliversReplies (codec : Codec) (net : Net W) (host : String) : Prop :=
  ∀ (addr : SocketAddr) (req : Message) (reqBytes : Bytes) (w w₁ w₂ w₃ w₄ : W) sock buf m,
    AsksFor codec host req → codec.toBytes req = .ok reqBytes →
    net.udpBind addr.ip.isIpv4 w = (.ok sock, w₁) → net.udpConnect sock addr w₁ = (.ok (), w₂) →
    net.udpSend sock reqBytes w₂ = (.ok (), w₃) → net.udpRecv sock 4096 w₃ = (.ok buf, w₄) →
    codec.fromBytes buf.1 = .ok m → (∃ rec ∈ m.answers, rec.data.ipAddr.isSome = true) →
    IsReplyTo req m

/-- 添えた datagram は、query への答えである。 -/
def Answered (codec : Codec) (p : IpAddr × LookupReply) : Prop :=
  ∀ b m, p.2.datagram = some b → codec.fromBytes b = .ok m → IsReplyTo p.2.req m

theorem askOnce_answered {codec : Codec} {net : Net W} {host : String} {req : Message}
    {reqBytes : Bytes} (h : DeliversReplies codec net host) (hasks : AsksFor codec host req)
    (hbytes : codec.toBytes req = .ok reqBytes) (r : PlainResolver) :
    (r.askOnce codec net req reqBytes).Ensures fun reply =>
      ∀ p ∈ tagged reply, Answered codec p := by
  intro w reply w' hrun p hp b m hb hm
  obtain ⟨sock, w₁, hbind, hrun⟩ := Async.bind_ok_iff.mp hrun
  obtain ⟨⟨⟩, w₂, hconnect, hrun⟩ := Async.bind_ok_iff.mp hrun
  obtain ⟨⟨⟩, w₃, hsend, hrun⟩ := Async.bind_ok_iff.mp hrun
  obtain ⟨buf, w₄, hrecv, hrun⟩ := Async.bind_ok_iff.mp hrun
  obtain ⟨resp, w₅, hresp, hrun⟩ := Async.bind_ok_iff.mp hrun
  have hread := ensures_bootstrapResult _ _ _ _ hresp
  cases hrun
  obtain ⟨ip, hip, rfl⟩ := List.mem_map.mp hp
  cases hb
  rw [hread] at hm
  cases hm
  obtain ⟨rec, hrec, hdata⟩ := List.mem_filterMap.mp hip
  exact h r.addr req reqBytes w w₁ w₂ w₃ w₄ sock buf _ hasks hbytes (Async.call_ok_iff.mp hbind)
    (Async.call_ok_iff.mp hconnect) (Async.call_ok_iff.mp hsend) (Async.call_ok_iff.mp hrecv) hread
    ⟨rec, hrec, by rw [hdata]; rfl⟩

/-- **答えだけが届くなら、引いた address に添えた datagram はどれも答えである。** -/
theorem queriesEnsure_answered {codec : Codec} {net : Net W} {host : String}
    (h : DeliversReplies codec net host) : QueriesEnsure codec net host (Answered codec) where
  plain := by
    intro r qtype hqtype
    refine Async.Ensures.seq (ensures_bootstrapResult _) fun name hname => ?_
    refine Async.Ensures.bind fun id => ?_
    refine Async.Ensures.seq (ensures_bootstrapResult _) fun reqBytes hbytes => ?_
    have hasks : AsksFor codec host (lookupQuery id.be16 name qtype) :=
      ⟨id.be16, name, qtype, hname, hqtype, rfl⟩
    refine Async.Ensures.seq (askOnce_answered h hasks hbytes r).timeout fun reply hreply => ?_
    exact Async.Ensures.pure hreply
  doh := by
    intro u qtype hqtype
    refine Async.Ensures.bind fun name => Async.Ensures.bind fun id => ?_
    refine Async.Ensures.bind fun resp => Async.Ensures.pure ?_
    intro p hp b m hb hm
    obtain ⟨ip, -, rfl⟩ := List.mem_map.mp hp
    cases hb

/-! ## `resolve_addrs` -/

section

variable (codec : Codec) (net : Net W) (env : RaceEnv W) (r : BootstrapResolver W) (host : String)
  (port : UInt16) (timeout : Option Duration) (preferV6 : Bool) (w : W)

/-- 返す宛先は、出所の分かる address を並べ替えて port を付けたものである。 -/
theorem resolveAddrs_ok_iff {addrs : List SocketAddr} {w' : W}
    (hhost : net.std.parseIp host = none) :
    resolveAddrs net host port timeout (r.toResolver codec net env) preferV6 w = (.ok addrs, w') ↔
      ∃ origins, r.lookupWith codec net env tagged host w = (.ok origins, w') ∧ origins ≠ [] ∧
        addrs = (sortByFamily preferV6 (origins.map Prod.fst)).map fun ip => { ip, port } := by
  have hips : ∀ ips w₁,
      resolveIps net host timeout (r.toResolver codec net env) w = (.ok ips, w₁) ↔
        ∃ origins, r.lookupWith codec net env tagged host w = (.ok origins, w₁) ∧
          origins.map Prod.fst = ips := by
    intro ips w₁
    unfold resolveIps
    rw [hhost]
    dsimp only
    rw [Async.timeout_ok_iff, ← Async.mapOk_ok_iff, ← lookup_eq_tagged]
    rfl
  unfold resolveAddrs
  rw [Async.bind_ok_iff]
  constructor
  · rintro ⟨ips, w₁, hrun, h⟩
    obtain ⟨origins, horigins, rfl⟩ := (hips ips w₁).mp hrun
    split at h
    · cases h
    · next hne =>
      cases h
      exact ⟨origins, horigins, by simpa using hne, rfl⟩
  · rintro ⟨origins, horigins, hne, rfl⟩
    refine ⟨origins.map Prod.fst, w', (hips _ w').mpr ⟨origins, horigins, rfl⟩, ?_⟩
    rw [if_neg (by simpa using hne)]
    rfl

/--
`resolve_addrs` の返す宛先は、どれも、`host` を引くために送った query の一つへの答えから
取られている。答えは、ID が同じで、ただ一つの question が query のものに等しい。
-/
def AddrsFromReplies : Prop :=
  ∀ addrs w', resolveAddrs net host port timeout (r.toResolver codec net env) preferV6 w
      = (.ok addrs, w') →
    ∃ origins, r.lookupWith codec net env tagged host w = (.ok origins, w') ∧
      addrs.Perm (origins.map fun p => { ip := p.1, port }) ∧
      ∀ p ∈ origins, p.1 ∈ p.2.ips ∧ AsksFor codec host p.2.req ∧ IsReplyTo p.2.req p.2.resp

/-- address の取られた datagram は、どれも、同じ socket から送った query への答えである。 -/
def DatagramsAnswer : Prop :=
  ∀ origins w', r.lookupWith codec net env tagged host w = (.ok origins, w') →
    ∀ p ∈ origins, ∀ b m, p.2.datagram = some b → codec.fromBytes b = .ok m →
      IsReplyTo p.2.req m

/-- 返す宛先の出所は、address の取られた datagram の出所である。 -/
theorem addrsFromReplies_iff (hhost : net.std.parseIp host = none) :
    AddrsFromReplies codec net env r host port timeout preferV6 w ↔
      DatagramsAnswer codec net env r host w := by
  constructor
  · intro h origins w' hlookup p hp b m hb hm
    have hok := (resolveAddrs_ok_iff codec net env r host port timeout preferV6 w hhost).mpr
      ⟨origins, hlookup, List.ne_nil_of_mem hp, rfl⟩
    obtain ⟨origins', hlookup', -, hall⟩ := h _ w' hok
    rw [hlookup] at hlookup'
    cases hlookup'
    rcases (queriesEnsure_origin.lookupWith env r w origins w' hlookup p hp).source with
      ⟨b', hb', hm'⟩ | ⟨hnone, -⟩
    · rw [hb'] at hb
      cases hb
      rw [hm'] at hm
      cases hm
      exact (hall p hp).2.2
    · rw [hnone] at hb
      cases hb
  · intro h addrs w' hok
    obtain ⟨origins, hlookup, -, rfl⟩ :=
      (resolveAddrs_ok_iff codec net env r host port timeout preferV6 w hhost).mp hok
    refine ⟨origins, hlookup, ?_, ?_⟩
    · have hperm : (sortByFamily preferV6 (origins.map Prod.fst)).Perm (origins.map Prod.fst) :=
        List.mergeSort_perm _ _
      have hmap := hperm.map fun ip => ({ ip, port } : SocketAddr)
      rw [List.map_map] at hmap
      exact hmap
    · intro p hp
      have horigin := queriesEnsure_origin.lookupWith env r w origins w' hlookup p hp
      refine ⟨horigin.mem, horigin.asks, ?_⟩
      rcases horigin.source with ⟨b, hb, hm⟩ | ⟨-, hreply⟩
      · exact h origins w' hlookup p hp b _ hb hm
      · exact hreply

/--
**`resolve_addrs` の返す宛先がどれも query への答えから取られるのは、address の取られた datagram が
どれも、その socket から送った query と同じ ID と question を持つとき、かつそのときに限る。
address を含む datagram が答えのほかに届かなければ、そうなる。**
-/
theorem resolveAddrs_origin_iff (hhost : net.std.parseIp host = none) :
    (AddrsFromReplies codec net env r host port timeout preferV6 w ↔
      DatagramsAnswer codec net env r host w) ∧
    (DeliversReplies codec net host →
      AddrsFromReplies codec net env r host port timeout preferV6 w) := by
  have hiff := addrsFromReplies_iff codec net env r host port timeout preferV6 w hhost
  refine ⟨hiff, fun hdelivers => hiff.mpr ?_⟩
  intro origins w' hlookup p hp
  exact (queriesEnsure_answered hdelivers).lookupWith env r w origins w' hlookup p hp

end

/-! ## 偽の datagram -/

/-- 終わる順が並べた順である競走。 -/
def RaceEnv.inOrder : RaceEnv W where
  order n w := (List.range n, w)
  order_perm _ _ := List.Perm.refl _
  debugErrs _ := ""

/-- `a.` を引く query の wire 形式。 -/
def lookupWire (qtype : UInt8) : Bytes :=
  [0, 0, 1, 0, 0, 1, 0, 0, 0, 0, 0, 0, 1, 97, 0, 0, qtype, 0, 1]

/-- 名前 `label.` の A を一つ答える応答と、その wire 形式。 -/
def addressReply (id : UInt16) (label : UInt8) : Message :=
  { Message.new id .response .query with
    queries := [{ name := ⟨[[label]], true⟩, queryType := RecordType.A }]
    answers := [{ name := ⟨[[label]], true⟩, ttl := 60, data := .a 0x06060606 }] }

def addressReplyWire (id label : UInt8) : Bytes :=
  [0, id, 0x80, 0, 0, 1, 0, 1, 0, 0, 0, 0, 1, label, 0, 0, 1, 0, 1,
    0xC0, 0x0C, 0, 1, 0, 1, 0, 0, 0, 60, 0, 4, 6, 6, 6, 6]

def lookupCodec : Codec :=
  { tableCodec [(lookupQuery 0 ⟨[[97]], true⟩ RecordType.A, lookupWire 1),
      (lookupQuery 0 ⟨[[97]], true⟩ RecordType.AAAA, lookupWire 28),
      (addressReply 0 97, addressReplyWire 0 97), (addressReply 2 98, addressReplyWire 2 98)] with
    nameFromAscii := fun _ => .ok ⟨[[97]], true⟩ }

def sampleResolver (W : Type) : BootstrapResolver W :=
  .parallel [.plain { addr := { ip := .v4 0x7F000001, port := 53 }, timeout := none }]

/-- 送った datagram を覚えておき、A の query にだけ正しく答える server。 -/
def honestNet : Net Bytes :=
  { Net.unreachable StdText.none with
    udpBind := fun _ w => (.ok 0, w)
    udpConnect := fun _ _ w => (.ok (), w)
    udpSend := fun _ b _ => (.ok (), b)
    udpRecv := fun _ size w =>
      if w = lookupWire 1 then
        (.ok ⟨(addressReplyWire 0 97).take size, List.length_take_le size _⟩, w)
      else (.err "connection refused", w) }

/-- `honestNet` が答えるのは A の query にだけで、その答えは正しい。 -/
theorem honestNet_delivers : DeliversReplies lookupCodec honestNet "a" := by
  rintro addr req reqBytes w w₁ w₂ w₃ w₄ sock buf m - hbytes - - hsend hrecv hm -
  obtain rfl : reqBytes = w₃ := congrArg Prod.snd hsend
  by_cases hquery : reqBytes = lookupWire 1
  · subst hquery
    have hread : lookupCodec.fromBytes (lookupWire 1) = .ok req :=
      tableCodec_fromBytes (by decide +kernel) hbytes
    have hreq : lookupCodec.fromBytes (lookupWire 1)
        = .ok (lookupQuery 0 ⟨[[97]], true⟩ RecordType.A) := by decide +kernel
    rw [hreq] at hread
    cases hread
    have hreply : lookupCodec.fromBytes (addressReplyWire 0 97) = .ok (addressReply 0 97) := by
      decide +kernel
    cases hrecv
    rw [show lookupCodec.fromBytes ((addressReplyWire 0 97).take 4096) = _ from hreply] at hm
    cases hm
    exact ⟨rfl, _, _, rfl, rfl, rfl, rfl⟩
  · have hrefused : honestNet.udpRecv sock 4096 reqBytes = (.err "connection refused", reqBytes) :=
      if_neg hquery
    rw [hrefused] at hrecv
    cases hrecv

/-- 正しく答える server から取った address は、query への答えから取られている。 -/
theorem resolveAddrs_origin_iff_honest :
    resolveAddrs honestNet "a" 443 none
        ((sampleResolver Bytes).toResolver lookupCodec honestNet RaceEnv.inOrder) false []
      = (.ok [{ ip := .v4 0x06060606, port := 443 }], lookupWire 28) ∧
    AddrsFromReplies lookupCodec honestNet RaceEnv.inOrder (sampleResolver Bytes) "a" 443 none false
      [] := by
  have hrun : (sampleResolver Bytes).lookupWith lookupCodec honestNet RaceEnv.inOrder tagged "a" []
      = (.ok [(.v4 0x06060606, {
          req := lookupQuery 0 ⟨[[97]], true⟩ RecordType.A
          resp := addressReply 0 97
          datagram := some (addressReplyWire 0 97) })], lookupWire 28) := by
    decide +kernel
  constructor
  · refine (resolveAddrs_ok_iff lookupCodec honestNet RaceEnv.inOrder (sampleResolver Bytes) "a" 443
      none false [] rfl).mpr ⟨_, hrun, by simp, ?_⟩
    rw [List.map_singleton, sortByFamily, List.mergeSort_singleton]
    rfl
  · exact (resolveAddrs_origin_iff lookupCodec honestNet RaceEnv.inOrder (sampleResolver Bytes) "a"
      443 none false [] rfl).2 honestNet_delivers

/-- 別の ID で別の名前を答える datagram から、`a` の address が取られる。 -/
theorem resolveAddrs_forged_datagram :
    ¬ AddrsFromReplies lookupCodec (Net.replying (addressReplyWire 2 98)) RaceEnv.inOrder
      (sampleResolver Unit) "a" 443 none false () := by
  have hrun : (sampleResolver Unit).lookupWith lookupCodec (Net.replying (addressReplyWire 2 98))
      RaceEnv.inOrder tagged "a" () = (.ok
        [(.v4 0x06060606, {
          req := lookupQuery 0 ⟨[[97]], true⟩ RecordType.A
          resp := addressReply 2 98
          datagram := some (addressReplyWire 2 98) }),
        (.v4 0x06060606, {
          req := lookupQuery 0 ⟨[[97]], true⟩ RecordType.AAAA
          resp := addressReply 2 98
          datagram := some (addressReplyWire 2 98) })], ()) := by
    decide +kernel
  intro h
  have hok := (resolveAddrs_ok_iff lookupCodec (Net.replying (addressReplyWire 2 98)) RaceEnv.inOrder
    (sampleResolver Unit) "a" 443 none false () rfl).mpr ⟨_, hrun, by simp, rfl⟩
  obtain ⟨origins, hlookup, -, hall⟩ := h _ () hok
  rw [hrun] at hlookup
  cases hlookup
  exact absurd (hall _ List.mem_cons_self).2.2.1 (by decide)

end DnsProxy
