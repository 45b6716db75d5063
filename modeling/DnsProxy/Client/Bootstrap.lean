import DnsProxy.Client.Net

/-!
# 名前引きと接続（`client/bootstrap.rs`）

upstream の host 名を引いて宛先の列にし、順に繋いでみる。それぞれの待ちには期限が付く。
名前を引く者（`Resolver`）は trait で、panic しないことだけを要る性質として持たせる。
-/

namespace DnsProxy

open Infra

variable {W : Type}

/-- `trait Resolver`。呼び手の期限に間に合わない `lookup` は、終わらない `lookup` として与える。 -/
structure Resolver (W : Type) where
  lookup : String → Async W DohError (List IpAddr)
  noPanic : ∀ host, (lookup host).NoPanic

/-- `StaticResolver`。 -/
def Resolver.static (ips : List IpAddr) : Resolver W where
  lookup _ := pure ips
  noPanic _ := Async.NoPanic.pure _

/-- 手元の状態 `S` を添えた世界での `Resolver`。`S` には触れない。 -/
def Resolver.onSnd {S : Type} (r : Resolver W) : Resolver (S × W) where
  lookup host := (r.lookup host).onSnd
  noPanic host t := r.noPanic host t.2

/-! ## 名前引き -/

/-- `ips.sort_by_key(..)`。好みの family を前に寄せる。 -/
def sortByFamily (preferV6 : Bool) (ips : List IpAddr) : List IpAddr :=
  let key := fun ip : IpAddr => if preferV6 then ip.isIpv4 else !ip.isIpv4
  -- `false < true`
  ips.mergeSort fun a b => !key a || key b

/-- `resolve_addrs` の前半。IP の綴りなら引かずに使う。 -/
def resolveIps (net : Net W) (host : String) (timeout : Option Duration) (resolver : Resolver W) :
    Async W DohError (List IpAddr) :=
  match net.std.parseIp host with
  | some ip => pure [ip]
  | none =>
    (resolver.lookup host).timeout timeout fun _ => .bootstrap s!"resolving {host}: timed out"

/-- `resolve_addrs`。 -/
def resolveAddrs (net : Net W) (host : String) (port : UInt16) (timeout : Option Duration)
    (resolver : Resolver W) (preferV6 : Bool) : Async W DohError (List SocketAddr) := do
  let ips ← resolveIps net host timeout resolver
  if ips.isEmpty then Async.throw (.bootstrap s!"no addresses for {host}")
  else pure ((sortByFamily preferV6 ips).map fun ip => { ip, port })

theorem resolveIps_onSnd {S : Type} (net : Net W) (host : String) (timeout : Option Duration)
    (resolver : Resolver W) :
    resolveIps (net.onSnd : Net (S × W)) host timeout resolver.onSnd
      = (resolveIps net host timeout resolver).onSnd := by
  unfold resolveIps
  show (match net.std.parseIp host with
    | some ip => _
    | none => _) = _
  cases net.std.parseIp host with
  | some ip => rfl
  | none => exact Async.timeout_onSnd _ _ _

/-- 引けたなら、期限がどうであっても引ける。 -/
theorem resolveIps_ok_of {net : Net W} {host : String} {timeout : Option Duration}
    {resolver : Resolver W} {ips : List IpAddr} {w w' : W}
    (h : resolveIps net host timeout resolver w = (.ok ips, w')) (timeout' : Option Duration) :
    resolveIps net host timeout' resolver w = (.ok ips, w') := by
  unfold resolveIps at h ⊢
  cases hip : net.std.parseIp host with
  | some ip =>
    rw [hip] at h
    exact h
  | none =>
    rw [hip] at h
    exact Async.timeout_ok (Async.timeout_ok_iff.mp h)

theorem sortByFamily_ne_nil {preferV6 : Bool} {ips : List IpAddr} (h : ips ≠ []) :
    sortByFamily preferV6 ips ≠ [] := by
  intro hnil
  have hperm : (sortByFamily preferV6 ips).Perm ips := List.mergeSort_perm _ _
  rw [hnil] at hperm
  exact h hperm.nil_eq.symm

/-- 名前を引ければ、宛先が少なくとも一つ得られる。 -/
theorem resolveAddrs_ok {net : Net W} {host : String} {timeout : Option Duration}
    {resolver : Resolver W} {ips : List IpAddr} {w w' : W} (port : UInt16) (preferV6 : Bool)
    (hne : ips ≠ []) (h : resolveIps net host timeout resolver w = (.ok ips, w')) :
    ∃ addr rest, resolveAddrs net host port timeout resolver preferV6 w
      = (.ok (addr :: rest), w') := by
  obtain ⟨ip, rest, hsort⟩ := List.exists_cons_of_ne_nil (@sortByFamily_ne_nil preferV6 ips hne)
  refine ⟨{ ip, port }, rest.map fun ip => { ip, port }, ?_⟩
  unfold resolveAddrs
  rw [Async.bind_ok h, if_neg (by simpa using hne), hsort]
  rfl

/-! ## 接続 -/

inductive Network where
  | tcp
  | udp
  deriving DecidableEq, Repr

inductive Conn where
  | tcp (stream : Nat)
  | udp (sock : Nat) (addr : SocketAddr)
  deriving DecidableEq, Repr

/-- 失敗の文面を `DohError::Bootstrap` に包む操作。 -/
def bootstrapOp {α : Type} (op : Op W String α) : Async W DohError α :=
  Async.call DohError.bootstrap op

/-- `dial_one`。 -/
def dialOne (net : Net W) (addr : SocketAddr) (network : Network) (timeout : Option Duration) :
    Async W DohError Conn :=
  Async.timeout timeout
    (fun _ => .bootstrap s!"dialing {net.std.toString addr}: timed out") <|
    match network with
    | .tcp => do
      let stream ← bootstrapOp (net.tcpConnect addr)
      pure (.tcp stream)
    | .udp => do
      let sock ← bootstrapOp (net.udpBind addr.ip.isIpv4)
      bootstrapOp (net.udpConnect sock addr)
      pure (.udp sock addr)

/-- `new_dial_context` の loop。 -/
def dialLoop (net : Net W) (network : Network) (timeout : Option Duration) :
    List SocketAddr → Option DohError → Async W DohError Conn
  | [], lastErr => Async.throw (lastErr.getD (.bootstrap "no addresses"))
  | addr :: rest, _ => do
    match ← (dialOne net addr network timeout).attempt with
    | .ok conn => pure conn
    | .error e => dialLoop net network timeout rest (some e)

/-- `new_dial_context` が返す関数。 -/
def DialHandler.dial (net : Net W) (h : DialHandler) (network : Network) :
    Async W DohError Conn :=
  if h.addrs.isEmpty then Async.throw (.bootstrap "no addresses to dial")
  else dialLoop net network h.timeout h.addrs none

/-- `resolve_dial_context`。 -/
def resolveDialContext (net : Net W) (host : String) (port : UInt16) (timeout : Option Duration)
    (resolver : Resolver W) (preferV6 : Bool) : Async W DohError DialHandler := do
  let addrs ← resolveAddrs net host port timeout resolver preferV6
  pure { timeout, addrs }

/-! ## panic しないこと -/

theorem noPanic_resolveIps (net : Net W) (host : String) (timeout : Option Duration)
    (resolver : Resolver W) : (resolveIps net host timeout resolver).NoPanic := by
  unfold resolveIps
  split
  · exact Async.NoPanic.pure _
  · exact (resolver.noPanic host).timeout

theorem noPanic_resolveAddrs (net : Net W) (host : String) (port : UInt16)
    (timeout : Option Duration) (resolver : Resolver W) (preferV6 : Bool) :
    (resolveAddrs net host port timeout resolver preferV6).NoPanic := by
  refine (noPanic_resolveIps net host timeout resolver).bind fun ips => ?_
  split
  · exact Async.NoPanic.throw _
  · exact Async.NoPanic.pure _

theorem noPanic_bootstrapOp {α : Type} (op : Op W String α) : (bootstrapOp op).NoPanic :=
  Async.NoPanic.call _ op

theorem noPanic_dialOne (net : Net W) (addr : SocketAddr) (network : Network)
    (timeout : Option Duration) : (dialOne net addr network timeout).NoPanic := by
  unfold dialOne
  apply Async.NoPanic.timeout
  cases network with
  | tcp => exact (noPanic_bootstrapOp _).bind fun _ => Async.NoPanic.pure _
  | udp =>
    refine (noPanic_bootstrapOp _).bind fun sock => ?_
    exact (noPanic_bootstrapOp _).bind fun _ => Async.NoPanic.pure _

theorem noPanic_dialLoop (net : Net W) (network : Network) (timeout : Option Duration)
    (addrs : List SocketAddr) (lastErr : Option DohError) :
    (dialLoop net network timeout addrs lastErr).NoPanic := by
  induction addrs generalizing lastErr with
  | nil => exact Async.NoPanic.throw _
  | cons addr rest ih =>
    unfold dialLoop
    refine (noPanic_dialOne net addr network timeout).attempt.bind fun r => ?_
    cases r with
    | ok conn => exact Async.NoPanic.pure _
    | error e => exact ih (some e)

theorem noPanic_dial (net : Net W) (h : DialHandler) (network : Network) :
    (h.dial net network).NoPanic := by
  unfold DialHandler.dial
  split
  · exact Async.NoPanic.throw _
  · exact noPanic_dialLoop net network h.timeout h.addrs none

theorem noPanic_resolveDialContext (net : Net W) (host : String) (port : UInt16)
    (timeout : Option Duration) (resolver : Resolver W) (preferV6 : Bool) :
    (resolveDialContext net host port timeout resolver preferV6).NoPanic :=
  (noPanic_resolveAddrs net host port timeout resolver preferV6).bind fun _ => Async.NoPanic.pure _

end DnsProxy
