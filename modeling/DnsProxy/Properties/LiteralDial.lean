import DnsProxy.Client.Upstream

/-!
# 宛先と名前引き

`resolve_addrs` は、host が IP の綴りなら名前を引かずにその宛先を返す。このとき、名前を引く者を
何に替えても、上流のやりとりは変わらない（`Upstream.exchangeWith_withResolver`）。
-/

namespace DnsProxy

open Infra

variable {W : Type}

/-! ## 宛先 -/

/-- 上流が繋ぐ宛先の列。どの transport も、繋ぐ前にこれを求める。 -/
def Upstream.dialAddrs (net : Net W) : Upstream W → Async W DohError (List SocketAddr)
  | .doh u => resolveAddrs net u.host u.port u.timeout u.resolver u.preferIpv6
  | .dot u => resolveAddrs net u.host u.port u.timeout u.resolver u.preferIpv6
  | .doq u => resolveAddrs net u.host u.port u.timeout u.resolver u.preferIpv6
  | .dnsCrypt u => pure [u.stamp.addr]
  | .plainUdp u => pure [u.addr]
  | .plainTcp u => resolveAddrs net u.host u.port u.timeout u.resolver u.preferIpv6

/-- 名前を引く者を替えた上流。 -/
def Upstream.withResolver (resolver : Resolver W) : Upstream W → Upstream W
  | .doh u => .doh { u with resolver }
  | .dot u => .dot { u with resolver }
  | .doq u => .doq { u with resolver }
  | .dnsCrypt u => .dnsCrypt u
  | .plainUdp u => .plainUdp u
  | .plainTcp u => .plainTcp { u with resolver }

/-- 上流が引くかもしれない名前。 -/
def Upstream.host? : Upstream W → Option String
  | .doh u => some u.host
  | .dot u => some u.host
  | .doq u => some u.host
  | .dnsCrypt _ => none
  | .plainUdp _ => none
  | .plainTcp u => some u.host

/--
上流が `addr` だけに繋ぎ、名前を引かない。

`silent` は、名前を引く者を何に替えても問い合わせのやりとりが変わらないことである。
-/
structure Dials (codec : Codec) (suite : CryptoSuite) (net : Net W) (addr : SocketAddr)
    (u : Upstream W) : Prop where
  addrs : u.dialAddrs net = pure [addr]
  silent : ∀ resolver check req, (u.withResolver resolver).exchangeWith codec suite net check req
    = u.exchangeWith codec suite net check req

section

variable {codec : Codec} {suite : CryptoSuite} {net : Net W} {ip : IpAddr} {host : String}

/-- host が IP の綴りなら、`resolve_addrs` は引かずにその宛先を返す。 -/
theorem resolveAddrs_literal (hip : net.std.parseIp host = some ip) (port : UInt16)
    (timeout : Option Duration) (resolver : Resolver W) (preferV6 : Bool) :
    resolveAddrs net host port timeout resolver preferV6 = pure [{ ip, port }] := by
  have hsort : sortByFamily preferV6 [ip] = [ip] := List.mergeSort_singleton ip
  funext w
  have hips : resolveIps net host timeout resolver w = (.ok [ip], w) := by
    unfold resolveIps
    rw [hip]
    rfl
  unfold resolveAddrs
  rw [Async.bind_ok hips, if_neg (by simp), hsort]
  rfl

/-- 名前を引く者は、IP の綴りの宛先に関わらない。 -/
theorem resolveAddrs_resolver (hip : net.std.parseIp host = some ip) (port : UInt16)
    (timeout : Option Duration) (r r' : Resolver W) (preferV6 : Bool) :
    resolveAddrs net host port timeout r preferV6
      = resolveAddrs net host port timeout r' preferV6 := by
  rw [resolveAddrs_literal hip, resolveAddrs_literal hip]

theorem dialTcp_resolver (hip : net.std.parseIp host = some ip) (port : UInt16)
    (timeout : Option Duration) (r r' : Resolver W) (preferV6 : Bool) :
    dialTcp net host port timeout r preferV6 = dialTcp net host port timeout r' preferV6 := by
  unfold dialTcp resolveDialContext
  rw [resolveAddrs_resolver hip port timeout r r' preferV6]

/-- 名前を引く者は、IP の綴りの host を持つ DoQ の上流に関わらない。 -/
theorem DoqUpstream.exchangeWith_resolver (u : DoqUpstream W)
    (hip : net.std.parseIp u.host = some ip) (resolver : Resolver W)
    (check : Message → Outcome DohError Unit) (req : Message) :
    ({ u with resolver } : DoqUpstream W).exchangeWith codec net check req
      = u.exchangeWith codec net check req := by
  have hdial : ({ u with resolver } : DoqUpstream W).dial net = u.dial net := by
    unfold DoqUpstream.dial
    rw [resolveAddrs_resolver hip u.port u.timeout resolver u.resolver u.preferIpv6]
  have hget : ({ u with resolver } : DoqUpstream W).getConn net = u.getConn net := by
    unfold DoqUpstream.getConn
    rw [hdial]
  have hreset : ({ u with resolver } : DoqUpstream W).resetConn net = u.resetConn net := by
    unfold DoqUpstream.resetConn
    rw [hdial]
  unfold DoqUpstream.exchangeWith
  rw [hget, hreset]
  rfl

/-- 名前を引く者は、IP の綴りの host を持つ DoH の上流に関わらない。 -/
theorem DohUpstream.exchangeWith_resolver (u : DohUpstream W)
    (hip : net.std.parseIp u.host = some ip) (resolver : Resolver W)
    (check : Message → Outcome DohError Unit) (req : Message) :
    ({ u with resolver } : DohUpstream W).exchangeWith codec net check req
      = u.exchangeWith codec net check req := by
  have haddrs := resolveAddrs_resolver hip u.port u.timeout resolver u.resolver u.preferIpv6
  have huse : ({ u with resolver } : DohUpstream W).shouldUseHttp3 net = u.shouldUseHttp3 net := by
    unfold DohUpstream.shouldUseHttp3
    rw [haddrs]
    rfl
  have hh3 : ({ u with resolver } : DohUpstream W).getH3Transport net = u.getH3Transport net := by
    unfold DohUpstream.getH3Transport
    rw [haddrs]
  have hcreate : ({ u with resolver } : DohUpstream W).createClient net = u.createClient net := by
    unfold DohUpstream.createClient resolveDialContext
    rw [haddrs]
  have hget : ({ u with resolver } : DohUpstream W).getClient net = u.getClient net := by
    unfold DohUpstream.getClient
    rw [hcreate]
    rfl
  have hreset : ({ u with resolver } : DohUpstream W).resetClient net = u.resetClient net := by
    unfold DohUpstream.resetClient
    rw [hcreate]
  unfold DohUpstream.exchangeWith DohUpstream.exchangeH3With
  rw [huse, hh3, hget, hreset]
  rfl

/-- **host が IP の綴りなら、上流はその宛先だけに繋ぎ、名前を引かない。** -/
theorem Upstream.exchangeWith_withResolver {u : Upstream W}
    (h : ∀ host, u.host? = some host → ∃ ip, net.std.parseIp host = some ip)
    (resolver : Resolver W) (check : Message → Outcome DohError Unit) (req : Message) :
    (u.withResolver resolver).exchangeWith codec suite net check req
      = u.exchangeWith codec suite net check req := by
  cases u with
  | doh u =>
    obtain ⟨ip, hip⟩ := h u.host rfl
    exact u.exchangeWith_resolver hip resolver check req
  | dot u =>
    obtain ⟨ip, hip⟩ := h u.host rfl
    have hdial : ({ u with resolver } : DotUpstream W).dial net = u.dial net := by
      unfold DotUpstream.dial
      rw [dialTcp_resolver hip u.port _ resolver u.resolver u.preferIpv6]
    show DotUpstream.exchangeWith codec net { u with resolver } check req
      = u.exchangeWith codec net check req
    unfold DotUpstream.exchangeWith
    rw [hdial]
  | doq u =>
    obtain ⟨ip, hip⟩ := h u.host rfl
    exact u.exchangeWith_resolver hip resolver check req
  | dnsCrypt u => rfl
  | plainUdp u => rfl
  | plainTcp u =>
    obtain ⟨ip, hip⟩ := h u.host rfl
    have hdial : ({ u with resolver } : PlainTcpUpstream W).dial net = u.dial net := by
      unfold PlainTcpUpstream.dial
      rw [dialTcp_resolver hip u.port _ resolver u.resolver u.preferIpv6]
    show PlainTcpUpstream.exchangeWith codec net { u with resolver } check req
      = u.exchangeWith codec net check req
    unfold PlainTcpUpstream.exchangeWith
    rw [hdial]

/-- いつも失敗する者。 -/
def Resolver.failing : Resolver W where
  lookup _ := Async.throw (.bootstrap "no such host")
  noPanic _ := Async.NoPanic.throw _

/-- 引けない者を渡しても宛先が得られるのは、host が IP の綴りのときに限る。 -/
theorem resolveAddrs_failing [Inhabited W] {port p : UInt16} {timeout : Option Duration}
    {preferV6 : Bool}
    (h : resolveAddrs net host port timeout Resolver.failing preferV6 = pure [{ ip, port := p }]) :
    net.std.parseIp host = some ip ∧ port = p := by
  cases hhost : net.std.parseIp host with
  | some ip' =>
    rw [resolveAddrs_literal hhost] at h
    have hw := congrArg Prod.fst (congrFun h default)
    have haddrs : [({ ip := ip', port } : SocketAddr)] = [{ ip, port := p }] := Outcome.ok.inj hw
    cases haddrs
    exact ⟨rfl, rfl⟩
  | none =>
    have hips : resolveIps net host timeout (Resolver.failing : Resolver W) default
        = (.err (.bootstrap "no such host"), default) := by
      unfold resolveIps
      rw [hhost]
      exact Async.timeout_err rfl
    have hw := congrFun h default
    unfold resolveAddrs at hw
    rw [Async.bind_err hips] at hw
    cases hw

/-- host が IP の綴りである上流は、その宛先に繋ぐ。 -/
theorem dials_of_literal {u : Upstream W} {port : UInt16} {timeout : Option Duration}
    {resolver : Resolver W} {preferV6 : Bool} (hhost : u.host? = some host)
    (haddrs : u.dialAddrs net = resolveAddrs net host port timeout resolver preferV6)
    (hip : net.std.parseIp host = some ip) : Dials codec suite net { ip, port } u := by
  refine ⟨?_, Upstream.exchangeWith_withResolver ?_⟩
  · rw [haddrs, resolveAddrs_literal hip]
  · intro host' hhost'
    obtain rfl : host = host' := Option.some.inj (hhost.symm.trans hhost')
    exact ⟨ip, hip⟩

end

end DnsProxy
