import DnsProxy.Listener.Serve
import DnsProxy.Main

/-!
# 起動（`main.rs` の `main`）

引数から listener を始めるまでを、`main` の書いてある順に書く。素の DNS の listener を始めるより前に、
上流の規則・DoH の認証・cache の設定がすべて読まれる。TLS の証明書と DNSCrypt の鍵の file は、それを使う
listener の直前に読まれる。listener をすべて始めた後は、いつまでも待つ。

`clap` が引数を読んだ後から書く。log と標準出力への表示は写さない。
-/

namespace DnsProxy

open Infra

/-- `Args`。log に関わるものは写さない。 -/
structure Args where
  listen : List SocketAddr := []
  port : Option UInt16 := none
  upstreams : List Text := []
  upstreamFile : Option Text := none
  timeout : UInt64 := 10
  upstreamMode : UpstreamMode := .ordered
  bootstrap : List Text := []
  insecure : Bool := false
  preferIpv6 : Bool := false
  http3 : Bool := false
  cache : Bool := false
  cacheSize : UInt64 := 1000
  cacheMinTtl : UInt64 := 0
  cacheMaxTtl : UInt64 := 0
  privateUpstream : Option Text := none
  quicListen : List SocketAddr := []
  quicPort : Option UInt16 := none
  tlsListen : List SocketAddr := []
  tlsPort : Option UInt16 := none
  httpsListen : List SocketAddr := []
  httpsPort : Option UInt16 := none
  listenerTlsCert : Option Text := none
  listenerTlsKey : Option Text := none
  dohAuth : List Text := []
  dohAuthFile : Option Text := none
  dnscryptListen : List SocketAddr := []
  dnscryptPort : Option UInt16 := none
  dnscryptConfig : Option Text := none
  dnscryptGenerateConfig : Option Text := none
  dnscryptProviderName : Option Text := none

/-- `port` の、IPv4 と IPv6 の `UNSPECIFIED`。 -/
def wildcards (port : UInt16) : List SocketAddr :=
  [{ ip := .v4 0, port }, { ip := .v6 0 0, port }]

/-- `expand_listen`。 -/
def expandListen (listen : List SocketAddr) (port : Option UInt16) : List SocketAddr :=
  match port with
  | some port => wildcards port
  | none => listen

namespace Args

/-- `secure_listener_enabled`。 -/
def secureListenerEnabled (args : Args) : Bool :=
  let quic := !args.quicListen.isEmpty || args.quicPort.isSome
  let tls := !args.tlsListen.isEmpty || args.tlsPort.isSome
  let https := !args.httpsListen.isEmpty || args.httpsPort.isSome
  let dnscrypt := !args.dnscryptListen.isEmpty || args.dnscryptPort.isSome
  quic || tls || https || dnscrypt

/-- `listen_addrs`。 -/
def listenAddrs (args : Args) : List SocketAddr :=
  match args.port with
  | some port => wildcards port
  | none =>
    if !args.listen.isEmpty then args.listen
    else if args.secureListenerEnabled then []
    else [{ ip := .v4 0x7F000001, port := 53 }]

end Args

/-- `main` の失敗。`Box<dyn Error>` に入るのは文面か `DohError` である。 -/
inductive MainError where
  | message (s : Text)
  | doh (e : DohError)
  deriving DecidableEq

/-- 起動のときに外から決まるもの。 -/
structure MainEnv (W : Type) where
  url : UrlEnv W
  race : RaceEnv W
  proxy : Proxy W
  host : Host W

variable {W : Type} (env : MainEnv W)

/-- 文面で終わる、待たない操作。 -/
def sysText {α : Type} (op : W → Except Text α × W) : Async W MainError α :=
  Async.sync MainError.message op

/-- 文面で終わる、外に触れない計算。 -/
def liftText {α : Type} (x : Except Text α) : Async W MainError α :=
  Async.lift (.ofExcept (x.mapError MainError.message))

/-- `ok_or(..)`。 -/
def okOr {α : Type} (msg : String) : Option α → Async W MainError α
  | some a => pure a
  | none => Async.throw (.message (text msg))

/-- `std::fs::read_to_string(path).map_err(..)`。 -/
def readText (path : Text) : Async W MainError Text :=
  sysText fun w =>
    let (content, w') := env.host.readToString path w
    (content.mapError fun e => text "reading " ++ path ++ text ": " ++ e, w')

/-- `.as_ref().map(read).transpose()?`。 -/
def readOption (path : Option Text) : Async W MainError (Option Text) :=
  match path with
  | none => pure none
  | some path => do
    let content ← readText env path
    pure (some content)

/-! ## 上流 -/

/-- `main` の `bootstrap_opts` と `base_opts` に共通のもの。 -/
def mainOpts (args : Args) : Options W :=
  { httpVersions := [.http11, .http2] ++ (if args.http3 then [.http3] else [])
    timeout := some (Duration.fromSecs args.timeout.toNat)
    insecureSkipVerify := args.insecure
    preferIpv6 := args.preferIpv6 }

/-- `main` の `base_opts`。 -/
def mainBaseOpts (args : Args) : Except Text (Options W) := do
  let bootstrap ← mainBootstrap env.url args.bootstrap (mainOpts args)
  let opts : Options W := mainOpts args
  .ok { opts with
    bootstrap := bootstrap.map
      (BootstrapResolver.toResolver env.proxy.codec env.proxy.net env.race) }

/-- `--upstream` の値を一つずつ読む。file の名前なら、その中身である。 -/
def upstreamArgText : List Text → Async W MainError (List Text)
  | [] => pure []
  | s :: rest => do
    let isFile ← fun w => (.ok (env.host.isFile s w).1, (env.host.isFile s w).2)
    let content ← if isFile then readText env s else pure s
    let contents ← upstreamArgText rest
    pure (content :: contents)

/-- 読めなかった行の知らせ。 -/
def parsingUpstreams (errs : List (Nat × Text)) : Text :=
  text "parsing upstreams: " ++ (text "; ").intercalate (errs.map fun p =>
    text "line " ++ Nat.toDigits 10 (p.1 + 1) ++ text ": " ++ p.2)

/-- `main` の `upstream_config`。 -/
def mainUpstreamConfig (args : Args) : Async W MainError (UpstreamConfig (Upstream W)) := do
  let baseOpts ← liftText (mainBaseOpts env args)
  if args.upstreams.isEmpty && args.upstreamFile.isNone then
    Async.throw (.message (text "at least one of --upstream or --upstream-file is required"))
  else do
    let upstreamFileText ← readOption env args.upstreamFile
    let upstreamArgText ← upstreamArgText env args.upstreams
    let lines := ruleLines args.privateUpstream upstreamArgText upstreamFileText
    liftText ((UpstreamConfig.parseWithMode env.url.std.unprintable
      (parseAnyUpstream env.url baseOpts) lines args.upstreamMode).mapError parsingUpstreams)

/-! ## DoH の認証と handler -/

/-- `main` の `doh_credentials`。 -/
def mainDohCredentials (args : Args) : Async W MainError Credentials := do
  let file ← match args.dohAuthFile with
    | none => pure (.error [])
    | some path => fun w =>
      (.ok (env.host.readToString path w).1, (env.host.readToString path w).2)
  liftText ((dohCredentials env.proxy.net.std
    (fun _ => (file.map String.ofList).mapError String.ofList)
    { dohAuth := args.dohAuth.map String.ofList
      dohAuthFile := args.dohAuthFile.map String.ofList }).mapError String.toList)

/-- 引数の選ぶ handler。 -/
def mainHandler (args : Args) : Handler W :=
  if args.cache then env.proxy.cachedHandler env.proxy.handler else env.proxy.handler

/-- `main` の `handler`。`Cache` は新しく作られる。 -/
def mainServed (args : Args) (config : UpstreamConfig (Upstream W)) :
    Async W MainError (Handler W) := do
  Async.write env.proxy.config config
  let cacheOpts ← liftText
    (mainCacheOpts args.cache args.cacheSize args.cacheMinTtl args.cacheMaxTtl)
  match cacheOpts with
  | none => pure (mainHandler env args)
  | some opts => do
    Async.write env.proxy.cache (Cache.new env.proxy.lru opts)
    pure (mainHandler env args)

/-! ## listener -/

def tlsCertRequired : String :=
  "--tls-cert is required to enable any of --quic-listen/--tls-listen/--https-listen"

def dnscryptConfigRequired : String :=
  "--dnscrypt-config is required to enable --dnscrypt-listen/--dnscrypt-port"

/-- DoQ の listener。 -/
def startDoq (addrs : List SocketAddr) (cert key : Text) (handler : Handler W) :
    Boot W MainError Unit :=
  if addrs.isEmpty then pure ()
  else do
    let tlsConfig ← ((loadServerTlsConfig env.host cert key [doqAlpn]).mapErr MainError.doh).onSnd
    (serveDoqAll env.host addrs tlsConfig handler).mapErr MainError.doh

/-- DoT の listener。 -/
def startDot (addrs : List SocketAddr) (cert key : Text) (handler : Handler W) :
    Boot W MainError Unit :=
  if addrs.isEmpty then pure ()
  else do
    let tlsConfig ← ((loadServerTlsConfig env.host cert key []).mapErr MainError.doh).onSnd
    (serveDotAll env.host addrs tlsConfig handler).mapErr MainError.doh

/-- DoH と DoH3 の listener。 -/
def startDoh (addrs : List SocketAddr) (cert key : Text) (handler : Handler W)
    (credentials : Credentials) : Boot W MainError Unit :=
  if addrs.isEmpty then pure ()
  else do
    let alpn := dohAlpn ++ doh3Alpn
    let tlsConfig ← ((loadServerTlsConfig env.host cert key alpn).mapErr MainError.doh).onSnd
    (serveDohAll env.host addrs tlsConfig handler credentials).mapErr MainError.doh
    (serveDoh3All env.host addrs tlsConfig handler credentials).mapErr MainError.doh

/-- TLS を使う listener。証明書と鍵は、そのどれかが有るときだけ要る。 -/
def startTls (args : Args) (handler : Handler W) (credentials : Credentials) :
    Boot W MainError Unit :=
  let quicAddrs := expandListen args.quicListen args.quicPort
  let tlsAddrs := expandListen args.tlsListen args.tlsPort
  let httpsAddrs := expandListen args.httpsListen args.httpsPort
  if !quicAddrs.isEmpty || !tlsAddrs.isEmpty || !httpsAddrs.isEmpty then do
    let cert ← (okOr tlsCertRequired args.listenerTlsCert).onSnd
    let key ← (okOr "--tls-key is required" args.listenerTlsKey).onSnd
    startDoq env quicAddrs cert key handler
    startDot env tlsAddrs cert key handler
    startDoh env httpsAddrs cert key handler credentials
  else pure ()

/-- `--dnscrypt-config` の file を読んで作る設定。 -/
def startDnsCryptConfig (path : Text) : Async W MainError DnsCryptServerConfig := do
  let file ← fun w => (.ok (env.host.readToString path w).1, (env.host.readToString path w).2)
  let now ← Async.gets env.proxy.net.nowUnix
  liftText (mainDnsCryptConfig env.proxy.suite env.proxy.net.std.unprintable
    (fun t => (env.proxy.net.std.base64Error t).toList) path file now)

/-- DNSCrypt の listener。 -/
def startDnsCrypt (args : Args) (handler : Handler W) : Boot W MainError Unit :=
  let dnscryptAddrs := expandListen args.dnscryptListen args.dnscryptPort
  if dnscryptAddrs.isEmpty then pure ()
  else do
    let configPath ← (okOr dnscryptConfigRequired args.dnscryptConfig).onSnd
    let serverConfig ← (startDnsCryptConfig env configPath).onSnd
    (serveDnsCryptAll env.host dnscryptAddrs dnscryptAddrs serverConfig handler).mapErr
      MainError.doh

/-! ## `main` -/

def providerNameRequired : String :=
  "--dnscrypt-provider-name is required with --dnscrypt-generate-config"

/-- `ResolverConfig::generate`。 -/
def ResolverConfig.generate (providerName : Text) : Async W DohError ResolverConfig := do
  let providerSigningKey ← randomBytes env.proxy.net 32
  let resolverSecretKey ← randomBytes env.proxy.net 32
  pure { providerName := String.ofList providerName, providerSigningKey, resolverSecretKey }

/-- `run_dnscrypt_generate_config`。 -/
def runDnscryptGenerateConfig (path providerName : Text) : Async W MainError Unit := do
  let config ← (ResolverConfig.generate env providerName).mapErr MainError.doh
  sysText fun w =>
    (config.save (fun _ _ => (env.host.write path config.toText w).1) path,
      (env.host.write path config.toText w).2)

/-- listener を始めるより前に読むもの。 -/
def mainSetup (args : Args) : Async W MainError (Handler W × Credentials) := do
  let upstreamConfig ← mainUpstreamConfig env args
  let credentials ← mainDohCredentials env args
  let handler ← mainServed env args upstreamConfig
  pure (handler, credentials)

/-- listener を順に始める。 -/
def startListeners (args : Args) (handler : Handler W) (credentials : Credentials) :
    Boot W MainError Unit := do
  (serveIoAll env.host args.listenAddrs handler).mapErr MainError.doh
  startTls env args handler credentials
  startDnsCrypt env args handler

/-- `main`。 -/
def main (args : Args) : Boot W MainError Unit :=
  match args.dnscryptGenerateConfig with
  | some path => do
    let providerName ← (okOr providerNameRequired args.dnscryptProviderName).onSnd
    (runDnscryptGenerateConfig env path providerName).onSnd
  | none => do
    let setup ← (mainSetup env args).onSnd
    startListeners env args setup.1 setup.2
    Async.lift .pending

end DnsProxy
