import DnsProxy.Client.Upstream

/-!
# 上流の綴り（`client/upstream_url.rs`）

一つの上流の綴りを読んで `Upstream` を作る。`https://` と `h3://` は `hyper` の `Uri` で解き、
`tcp://` などは `host[:port]` を自分で分ける。`udp://` は IP だけを許す。

`Uri` は外の library なので、解く関数を `UrlEnv` に取る。feature はすべて入れた build を書く。
-/

namespace DnsProxy

open Infra

variable {W : Type}

/-- `hyper::Uri` のうち使うところ。 -/
structure Uri where
  host : Option Text
  path : Text
  portU16 : Option UInt16
  deriving DecidableEq

/-- 上流を作るときに外から決まるもの。`Mutex` などの置き場所も含む。 -/
structure UrlEnv (W : Type) where
  std : StdText
  /-- `str::parse::<Uri>`。失敗は `InvalidUri` の文面である。 -/
  parseUri : Text → Except Text Uri
  /-- `SystemResolver`。 -/
  systemResolver : Resolver W
  dohSlots : DohSlots W
  doqConn : Cell W (Option Nat)
  dnsCryptCert : Cell W (Option Certificate)
  dnsCryptLog : Cell W (List CertEvent)

/-- `{:?}`。 -/
def UrlEnv.debug (env : UrlEnv W) (s : Text) : Text := s.debug env.std.unprintable

/-- `str::parse::<IpAddr>`。 -/
def UrlEnv.parseIp (env : UrlEnv W) (s : Text) : Option IpAddr := env.std.parseIp (String.ofList s)

/-- `str::parse::<SocketAddr>`。 -/
def UrlEnv.parseSocketAddr (env : UrlEnv W) (s : Text) : Option SocketAddr :=
  env.std.parseSocketAddr (String.ofList s)

/-! ## DoH -/

/-- `extract_userinfo`。`rfind('@')` は path まで含めた残り全体を探す。 -/
def extractUserinfo (url : Text) : Except Text (Option (Text × Text) × Text) :=
  match Text.splitOnce (text "://") url with
  | none => .error (text "upstream must be an absolute URL")
  | some (schemeSep, rest) =>
    match Text.rsplitOnce '@' rest with
    | none => .ok (none, url)
    | some (userinfo, hostAndPath) =>
      match Text.splitOnce [':'] userinfo with
      | none => .error (text "userinfo in upstream must be user:pass")
      | some (user, pass) => .ok (some (user, pass), schemeSep ++ text "://" ++ hostAndPath)

/-- `parse_upstream` の、scheme で決まる `http_versions`。 -/
def httpVersionsFor (env : UrlEnv W) (addr scheme : Text) :
    Except Text (Option (List HttpVersion)) :=
  if scheme = text "https" then .ok none
  else if scheme = text "h3" then .ok (some [.http3])
  else
    .error (text "unsupported upstream scheme " ++ env.debug scheme ++ text " in "
      ++ env.debug addr)

/-- `h3://` を `https://` に直す。`stripped` には必ず `://` がある。 -/
def normalizeUrl (scheme stripped : Text) : Text :=
  if scheme = text "h3" then
    text "https://" ++ ((Text.splitOnce (text "://") stripped).map Prod.snd).getD []
  else stripped

/-- `parse_upstream`。 -/
def parseUpstream (env : UrlEnv W) (addr : Text) (baseOpts : Options W) :
    Except Text (DohUpstream W) :=
  match Text.splitOnce (text "://") addr with
  | none => .error (text "upstream " ++ env.debug addr ++ text " must be an absolute URL")
  | some (scheme, _) => do
    let httpVersions ← httpVersionsFor env addr scheme
    let (basicAuth, stripped) ← extractUserinfo addr
    let uri ← (env.parseUri (normalizeUrl scheme stripped)).mapError fun e =>
      text "invalid upstream " ++ env.debug addr ++ text ": " ++ e
    match uri.host with
    | none => .error (text "upstream " ++ env.debug addr ++ text " must include a host")
    | some host =>
      let opts : Options W :=
        { httpVersions := httpVersions.getD baseOpts.httpVersions
          basicAuth := basicAuth.map fun (user, pass) => (String.ofList user, String.ofList pass)
          bootstrap := baseOpts.bootstrap
          timeout := baseOpts.timeout
          insecureSkipVerify := baseOpts.insecureSkipVerify
          preferIpv6 := baseOpts.preferIpv6 }
      .ok (DohUpstream.new env.dohSlots env.systemResolver (String.ofList host) uri.portU16
        (String.ofList uri.path) opts)

/-! ## そのほかの transport -/

/-- `clone_opts`。DoH だけの項目は既定に戻す。 -/
def cloneOpts (base : Options W) : Options W :=
  { bootstrap := base.bootstrap
    httpVersions := []
    timeout := base.timeout
    insecureSkipVerify := base.insecureSkipVerify
    preferIpv6 := base.preferIpv6
    basicAuth := none }

/-- `split_host_port` の、port の綴り。 -/
def parsePort (env : UrlEnv W) (rest port : Text) : Except Text UInt16 :=
  match Text.parseU16 port with
  | some port => .ok port
  | none => .error (text "invalid port in " ++ env.debug rest ++ text ": " ++ Text.u16Error port)

/-- `split_host_port`。 -/
def splitHostPort (env : UrlEnv W) (rest : Text) : Except Text (Text × Option UInt16) :=
  match rest with
  | '[' :: stripped =>
    match Text.splitOnce [']'] stripped with
    | none => .error (text "invalid host " ++ env.debug rest ++ text ": unterminated \"[\"")
    | some (host, after) =>
      match after with
      | ':' :: p => (parsePort env rest p).map fun port => (host, some port)
      | [] => .ok (host, none)
      | _ => .error (text "invalid host " ++ env.debug rest)
  | _ =>
    match Text.rsplitOnce ':' rest with
    | some (host, port) =>
      if ':' ∉ host then (parsePort env rest port).map fun port => (host, some port)
      else .ok (rest, none)
    | none => .ok (rest, none)

/-- `PlainTcpUpstream::new`（`client/plain_tcp.rs`）。 -/
def PlainTcpUpstream.new (env : UrlEnv W) (host : Text) (port : Option UInt16) (opts : Options W) :
    PlainTcpUpstream W :=
  { host := String.ofList host
    port := port.getD 53
    resolver := opts.bootstrap.getD env.systemResolver
    preferIpv6 := opts.preferIpv6
    timeout := opts.timeout }

/-- `DotUpstream::new`（`client/dot.rs`）。 -/
def DotUpstream.new (env : UrlEnv W) (host : Text) (port : Option UInt16) (opts : Options W) :
    DotUpstream W :=
  { host := String.ofList host
    port := port.getD 853
    resolver := opts.bootstrap.getD env.systemResolver
    preferIpv6 := opts.preferIpv6
    timeout := opts.timeout
    insecureSkipVerify := opts.insecureSkipVerify }

/-- `DoqUpstream::new`（`client/doq.rs`）。 -/
def DoqUpstream.new (env : UrlEnv W) (host : Text) (port : Option UInt16) (opts : Options W) :
    DoqUpstream W :=
  { host := String.ofList host
    port := port.getD 853
    resolver := opts.bootstrap.getD env.systemResolver
    preferIpv6 := opts.preferIpv6
    timeout := opts.timeout
    insecureSkipVerify := opts.insecureSkipVerify
    conn := env.doqConn }

/-- `DnsCryptUpstream::new`（`client/dnscrypt.rs`）。 -/
def DnsCryptUpstream.new (env : UrlEnv W) (stampUrl : Text) (opts : Options W) :
    Except Text (DnsCryptUpstream W) :=
  match parseDnscryptStamp env.std (String.ofList stampUrl) with
  | .error e => .error e.toList
  | .ok stamp =>
    .ok { stamp, timeout := opts.timeout, cert := env.dnsCryptCert, log := env.dnsCryptLog }

/-- `parse_any_upstream` の、`udp://` の宛先。 -/
def parseUdpAddr (env : UrlEnv W) (rest : Text) : Option SocketAddr :=
  match env.parseSocketAddr rest with
  | some sockAddr => some sockAddr
  | none => (env.parseIp rest).map fun ip => { ip, port := 53 }

/-- `parse_any_upstream`。scheme の無い綴りは `udp://` である。 -/
def parseAnyUpstream (env : UrlEnv W) (baseOpts : Options W) (addr : Text) :
    Except Text (Upstream W) :=
  let (scheme, rest) := (Text.splitOnce (text "://") addr).getD (text "udp", addr)
  if scheme = text "udp" then
    match parseUdpAddr env rest with
    | some addr => .ok (.plainUdp { addr, timeout := baseOpts.timeout })
    | none =>
      .error (text "plain upstream " ++ env.debug addr ++ text " must use a literal IP host")
  else if scheme = text "tcp" then
    (splitHostPort env rest).map fun (host, port) =>
      .plainTcp (PlainTcpUpstream.new env host port (cloneOpts baseOpts))
  else if scheme = text "tls" then
    (splitHostPort env rest).map fun (host, port) =>
      .dot (DotUpstream.new env host port (cloneOpts baseOpts))
  else if scheme = text "quic" then
    (splitHostPort env rest).map fun (host, port) =>
      .doq (DoqUpstream.new env host port (cloneOpts baseOpts))
  else if scheme = text "sdns" then
    (DnsCryptUpstream.new env addr (cloneOpts baseOpts)).map .dnsCrypt
  else (parseUpstream env addr baseOpts).map .doh

/-! ## 作られる upstream -/

/-- `opts` から作られる upstream の形。綴りで決まるのは、宛先と DoH の項目だけである。 -/
inductive Upstream.MadeFrom (env : UrlEnv W) (opts : Options W) : Upstream W → Prop
  | plainUdp (addr : SocketAddr) : MadeFrom env opts (.plainUdp { addr, timeout := opts.timeout })
  | plainTcp (host : Text) (port : Option UInt16) :
      MadeFrom env opts (.plainTcp (PlainTcpUpstream.new env host port (cloneOpts opts)))
  | dot (host : Text) (port : Option UInt16) :
      MadeFrom env opts (.dot (DotUpstream.new env host port (cloneOpts opts)))
  | doq (host : Text) (port : Option UInt16) :
      MadeFrom env opts (.doq (DoqUpstream.new env host port (cloneOpts opts)))
  | dnsCrypt (stamp : DnsCryptStamp) :
      MadeFrom env opts (.dnsCrypt
        { stamp, timeout := opts.timeout, cert := env.dnsCryptCert, log := env.dnsCryptLog })
  | doh (host path : String) (port : Option UInt16) (versions : List HttpVersion)
      (auth : Option (String × String)) :
      MadeFrom env opts (.doh (DohUpstream.new env.dohSlots env.systemResolver host port path
        { opts with httpVersions := versions, basicAuth := auth }))

theorem parseAnyUpstream_made {env : UrlEnv W} {opts : Options W} {addr : Text} {u : Upstream W}
    (h : parseAnyUpstream env opts addr = .ok u) : u.MadeFrom env opts := by
  unfold parseAnyUpstream at h
  dsimp only at h
  split at h
  · split at h
    · cases h
      exact .plainUdp _
    · cases h
  split at h
  · obtain ⟨p, -, rfl⟩ := Except.map_eq_ok_iff.mp h
    exact .plainTcp _ _
  split at h
  · obtain ⟨p, -, rfl⟩ := Except.map_eq_ok_iff.mp h
    exact .dot _ _
  split at h
  · obtain ⟨p, -, rfl⟩ := Except.map_eq_ok_iff.mp h
    exact .doq _ _
  split at h
  · obtain ⟨u, hu, rfl⟩ := Except.map_eq_ok_iff.mp h
    unfold DnsCryptUpstream.new at hu
    split at hu
    · cases hu
    · cases hu
      exact .dnsCrypt _
  · obtain ⟨u, hu, rfl⟩ := Except.map_eq_ok_iff.mp h
    unfold parseUpstream at hu
    split at hu
    · cases hu
    · obtain ⟨versions, -, hu⟩ := Except.bind_eq_ok_iff.mp hu
      obtain ⟨⟨auth, stripped⟩, -, hu⟩ := Except.bind_eq_ok_iff.mp hu
      obtain ⟨uri, -, hu⟩ := Except.bind_eq_ok_iff.mp hu
      split at hu
      · cases hu
      · cases hu
        exact .doh _ _ _ _ _

end DnsProxy
