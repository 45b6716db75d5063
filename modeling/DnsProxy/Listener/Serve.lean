import DnsProxy.Infra.Launch
import DnsProxy.Listener.DnsCrypt
import DnsProxy.Listener.DohAuth

/-!
# listener を始める（`listener/*.rs` の `serve`・`listener/tls_config.rs`）

socket を bind し、受け付ける loop を task として始める。始めた task は手元の列に順に積む。
bind も file の読み込みも、すぐに値か失敗で終わる。

OS と `rustls`・`quinn` の操作は `Host` に取る。socket の設定は、設定した値を socket に書いておく。
-/

namespace DnsProxy

open Infra

/-! ## socket -/

/-- `socket2::Domain`。 -/
inductive Domain where
  | ipv4
  | ipv6
  deriving DecidableEq, Repr

/-- `socket2::Type`。 -/
inductive SockType where
  | dgram
  | stream
  deriving DecidableEq, Repr

/-- `socket2::Protocol`。 -/
inductive Protocol where
  | udp
  | tcp
  deriving DecidableEq, Repr

/-- socket と、設定した値。設定していないものは `none` である。 -/
structure Socket where
  fd : Nat
  domain : Domain
  ty : SockType
  protocol : Protocol
  onlyV6 : Option Bool := none
  reuseAddress : Option Bool := none
  addr : Option SocketAddr := none
  nonblocking : Option Bool := none
  backlog : Option Nat := none
  deriving DecidableEq

/-- `rustls::ServerConfig` のうち、場合によって変わるところ。client の認証は求めない。 -/
structure ServerTlsConfig where
  certs : List Bytes
  key : Bytes
  alpnProtocols : List Bytes
  deriving DecidableEq

/-- `quinn::Endpoint`。 -/
structure Endpoint where
  id : Nat
  tlsConfig : ServerTlsConfig
  addr : SocketAddr
  deriving DecidableEq

/-- 起動に使う、OS と library の操作。どれも待たない。 -/
structure Host (W : Type) where
  socket : Domain → SockType → Protocol → W → Except String Nat × W
  setOnlyV6 : Nat → Bool → W → Except String Unit × W
  setReuseAddress : Nat → Bool → W → Except String Unit × W
  bind : Nat → SocketAddr → W → Except String Unit × W
  setNonblocking : Nat → Bool → W → Except String Unit × W
  listen : Nat → Nat → W → Except String Unit × W
  /-- `UdpSocket::from_std` と `TcpListener::from_std`。 -/
  fromStd : Nat → W → Except String Unit × W
  localAddr : Nat → W → Except String SocketAddr × W
  /-- `QuicServerConfig::try_from`。 -/
  quicServerConfig : ServerTlsConfig → Except String Unit
  /-- `Endpoint::server`。 -/
  endpointServer : ServerTlsConfig → SocketAddr → W → Except String Nat × W
  endpointLocalAddr : Nat → W → Except String SocketAddr × W
  isFile : Text → W → Bool × W
  /-- `std::fs::read`。 -/
  read : Text → W → Except String Bytes × W
  /-- `std::fs::read_to_string`。 -/
  readToString : Text → W → Except Text Text × W
  /-- `std::fs::write`。 -/
  write : Text → Text → W → Except Text Unit × W
  /-- `rustls_pemfile::certs`。 -/
  pemCerts : Bytes → Except String (List Bytes)
  /-- `rustls_pemfile::private_key`。 -/
  pemPrivateKey : Bytes → Except String (Option Bytes)
  /-- `with_single_cert`。 -/
  withSingleCert : List Bytes → Bytes → Except String Unit

variable {W : Type}

/-- 待たない操作の失敗を `DohError::Io` にする。 -/
def sysIo {α : Type} (op : W → Except String α × W) : Async W DohError α :=
  Async.sync DohError.io op

/-- 待たない操作の失敗を `DohError::Quic` にする。 -/
def sysQuic {α : Type} (op : W → Except String α × W) : Async W DohError α :=
  Async.sync DohError.quic op

section

variable (host : Host W)

namespace Socket

def setOnlyV6 (s : Socket) (v : Bool) : Async W DohError Socket := do
  sysIo (host.setOnlyV6 s.fd v)
  pure { s with onlyV6 := some v }

def setReuseAddress (s : Socket) (v : Bool) : Async W DohError Socket := do
  sysIo (host.setReuseAddress s.fd v)
  pure { s with reuseAddress := some v }

def bind (s : Socket) (addr : SocketAddr) : Async W DohError Socket := do
  sysIo (host.bind s.fd addr)
  pure { s with addr := some addr }

def setNonblocking (s : Socket) (v : Bool) : Async W DohError Socket := do
  sysIo (host.setNonblocking s.fd v)
  pure { s with nonblocking := some v }

def listen (s : Socket) (backlog : Nat) : Async W DohError Socket := do
  sysIo (host.listen s.fd backlog)
  pure { s with backlog := some backlog }

end Socket

/-- `new_socket`。IPv6 の socket には、bind の前に `IPV6_V6ONLY` を設定する。 -/
def newSocket (addr : SocketAddr) (ty : SockType) (protocol : Protocol) :
    Async W DohError Socket := do
  let domain := if addr.ip.isIpv4 then Domain.ipv4 else .ipv6
  let fd ← sysIo (host.socket domain ty protocol)
  let socket : Socket := { fd, domain, ty, protocol }
  let socket ← if addr.ip.isIpv4 then pure socket else socket.setOnlyV6 host true
  let socket ← socket.setReuseAddress host true
  let socket ← socket.bind host addr
  socket.setNonblocking host true

/-- `bind_udp`。 -/
def bindUdp (addr : SocketAddr) : Async W DohError Socket := do
  let socket ← newSocket host addr .dgram .udp
  sysIo (host.fromStd socket.fd)
  pure socket

/-- `bind_tcp`。 -/
def bindTcp (addr : SocketAddr) : Async W DohError Socket := do
  let socket ← newSocket host addr .stream .tcp
  let socket ← socket.listen host 1024
  sysIo (host.fromStd socket.fd)
  pure socket

/-! ## TLS の設定 -/

/-- `load_server_tls_config`。 -/
def loadServerTlsConfig (certPath keyPath : Text) (alpn : List Bytes) :
    Async W DohError ServerTlsConfig := do
  let certFile ← sysIo (host.read certPath)
  let certs ← Async.lift (.ofExcept ((host.pemCerts certFile).mapError fun e =>
    .http s!"reading {String.ofList certPath}: {e}"))
  if certs.isEmpty then
    Async.throw (.http s!"no certificates found in {String.ofList certPath}")
  else do
    let keyFile ← sysIo (host.read keyPath)
    let key ← Async.lift (.ofExcept ((host.pemPrivateKey keyFile).mapError fun e =>
      .http s!"reading {String.ofList keyPath}: {e}"))
    match key with
    | none => Async.throw (.http s!"no private key found in {String.ofList keyPath}")
    | some key => do
      Async.lift (.ofExcept ((host.withSingleCert certs key).mapError fun e =>
        .http s!"building tls config: {e}"))
      pure { certs, key, alpnProtocols := alpn }

/-- `DOQ_ALPN`。 -/
def doqAlpn : Bytes := Utf8.encode "doq"

/-- `DOH_ALPN`。 -/
def dohAlpn : List Bytes := [Utf8.encode "h2", Utf8.encode "http/1.1"]

/-- `DOH3_ALPN`。 -/
def doh3Alpn : List Bytes := [Utf8.encode "h3"]

/-! ## 受け付ける loop を始める -/

/-- `tokio::spawn` された loop と、それが持つもの。 -/
inductive ListenLoop (W : Type) where
  | udp (socket : Socket) (handler : Handler W)
  | tcp (listener : Socket) (handler : Handler W)
  | doq (endpoint : Endpoint) (handler : Handler W)
  | dot (listener : Socket) (acceptor : ServerTlsConfig) (handler : Handler W)
  | doh (listener : Socket) (acceptor : ServerTlsConfig) (handler : Handler W)
      (credentials : Credentials)
  | doh3 (endpoint : Endpoint) (handler : Handler W) (credentials : Credentials)
  | dnsCryptUdp (socket : Socket) (config : DnsCryptServerConfig) (handler : Handler W)
  | dnsCryptTcp (listener : Socket) (config : DnsCryptServerConfig) (handler : Handler W)

/-- 始めた task の列を添えた世界での計算。 -/
abbrev Boot (W : Type) (ε α : Type) := Async (List (ListenLoop W) × W) ε α

/-- `listener::io::serve`。二つとも bind してから、二つの loop を始める。 -/
def serveIo (addr : SocketAddr) (handler : Handler W) : Boot W DohError Unit := do
  let udp ← (bindUdp host addr).onSnd
  let tcp ← (bindTcp host addr).onSnd
  Async.spawn (.udp udp handler)
  Async.spawn (.tcp tcp handler)

/-- `listener::io::serve_all`。 -/
def serveIoAll (addrs : List SocketAddr) (handler : Handler W) : Boot W DohError Unit :=
  addrs.forM fun addr => serveIo host addr handler

/-- TCP の上の listener の `serve`。`local_addr` の結果は log と戻り値にだけ使う。 -/
def serveTcpWith (task : Socket → ListenLoop W) (addr : SocketAddr) :
    Boot W DohError SocketAddr := do
  let listener ← (bindTcp host addr).onSnd
  let boundAddr ← (sysIo (host.localAddr listener.fd)).onSnd
  Async.spawn (task listener)
  pure boundAddr

/-- QUIC の上の listener の `serve`。 -/
def serveQuicWith (task : Endpoint → ListenLoop W) (addr : SocketAddr)
    (tlsConfig : ServerTlsConfig) : Boot W DohError SocketAddr := do
  Async.lift (.ofExcept ((host.quicServerConfig tlsConfig).mapError DohError.quic))
  let id ← (sysQuic (host.endpointServer tlsConfig addr)).onSnd
  let boundAddr ← (sysQuic (host.endpointLocalAddr id)).onSnd
  Async.spawn (task { id, tlsConfig, addr })
  pure boundAddr

/-- `listener::dot::serve`。 -/
def serveDot (addr : SocketAddr) (tlsConfig : ServerTlsConfig) (handler : Handler W) :
    Boot W DohError SocketAddr := serveTcpWith host (.dot · tlsConfig handler) addr

/-- `listener::dot::serve_all`。 -/
def serveDotAll (addrs : List SocketAddr) (tlsConfig : ServerTlsConfig) (handler : Handler W) :
    Boot W DohError Unit :=
  addrs.forM fun addr => do let _ ← serveDot host addr tlsConfig handler

/-- `listener::doh::serve`。 -/
def serveDoh (addr : SocketAddr) (tlsConfig : ServerTlsConfig) (handler : Handler W)
    (credentials : Credentials) : Boot W DohError SocketAddr :=
  serveTcpWith host (.doh · tlsConfig handler credentials) addr

/-- `listener::doh::serve_all`。 -/
def serveDohAll (addrs : List SocketAddr) (tlsConfig : ServerTlsConfig) (handler : Handler W)
    (credentials : Credentials) : Boot W DohError Unit :=
  addrs.forM fun addr => do let _ ← serveDoh host addr tlsConfig handler credentials

/-- `listener::doq::serve`。 -/
def serveDoq (addr : SocketAddr) (tlsConfig : ServerTlsConfig) (handler : Handler W) :
    Boot W DohError SocketAddr := serveQuicWith host (.doq · handler) addr tlsConfig

/-- `listener::doq::serve_all`。 -/
def serveDoqAll (addrs : List SocketAddr) (tlsConfig : ServerTlsConfig) (handler : Handler W) :
    Boot W DohError Unit :=
  addrs.forM fun addr => do let _ ← serveDoq host addr tlsConfig handler

/-- `listener::doh3::serve`。 -/
def serveDoh3 (addr : SocketAddr) (tlsConfig : ServerTlsConfig) (handler : Handler W)
    (credentials : Credentials) : Boot W DohError SocketAddr :=
  serveQuicWith host (.doh3 · handler credentials) addr tlsConfig

/-- `listener::doh3::serve_all`。 -/
def serveDoh3All (addrs : List SocketAddr) (tlsConfig : ServerTlsConfig) (handler : Handler W)
    (credentials : Credentials) : Boot W DohError Unit :=
  addrs.forM fun addr => do let _ ← serveDoh3 host addr tlsConfig handler credentials

/-- `listener::dnscrypt::serve_udp`。 -/
def serveDnsCryptUdp (addr : SocketAddr) (config : DnsCryptServerConfig) (handler : Handler W) :
    Boot W DohError SocketAddr := do
  let socket ← (bindUdp host addr).onSnd
  let boundAddr ← (sysIo (host.localAddr socket.fd)).onSnd
  Async.spawn (.dnsCryptUdp socket config handler)
  pure boundAddr

/-- `listener::dnscrypt::serve_tcp`。 -/
def serveDnsCryptTcp (addr : SocketAddr) (config : DnsCryptServerConfig) (handler : Handler W) :
    Boot W DohError SocketAddr := serveTcpWith host (.dnsCryptTcp · config handler) addr

/-- `listener::dnscrypt::serve_all`。UDP をすべて始めてから TCP を始める。 -/
def serveDnsCryptAll (udpAddrs tcpAddrs : List SocketAddr) (config : DnsCryptServerConfig)
    (handler : Handler W) : Boot W DohError Unit := do
  udpAddrs.forM fun addr => do let _ ← serveDnsCryptUdp host addr config handler
  tcpAddrs.forM fun addr => do let _ ← serveDnsCryptTcp host addr config handler

end

end DnsProxy
