import DnsProxy.Dns.Codec
import DnsProxy.Main.Run
import DnsProxy.Properties.Exchange

/-!
# 起動したものは、引数のとおりである

`main` が listener を始める順は、引数だけで決まる（`Args.posts`）。

* 上流の規則・DoH の認証・cache の設定のどれかが読めなければ、listener は一つも始まらない
* 途中で失敗すれば、始まっているのは `posts` の先頭の、全部に満たない部分である
* 待ち続けている（動いている）なら、`posts` の全部が始まっている
* どの loop も同じ handler を持ち、DoH の loop は引数の認証を、TLS の loop は引数の file から読んだ証明書を
  持つ。TCP と UDP の IPv6 の socket は、どれも IPv6 だけを受け付ける
* `main` が記憶に残すのは、引数の規則から読んだ上流の設定と、空の cache である。先に始まった loop が、
  残りを始める間に答えた query は、どちらにも数えない

`--dnscrypt-generate-config` が無ければ、`main` が値を返すことは無い。
-/

namespace DnsProxy

open Infra

/--
OS と library の操作が、process の記憶についての `I` を壊さないこと。

始まった loop がその間に query に答えて、記憶（cache や cursor）を動かすことは考えない。
-/
structure Host.Respects {W : Type} (host : Host W) (I : W → Prop) : Prop where
  socket : ∀ domain ty protocol w, I w → I (host.socket domain ty protocol w).2
  setOnlyV6 : ∀ fd v w, I w → I (host.setOnlyV6 fd v w).2
  setReuseAddress : ∀ fd v w, I w → I (host.setReuseAddress fd v w).2
  bind : ∀ fd addr w, I w → I (host.bind fd addr w).2
  setNonblocking : ∀ fd v w, I w → I (host.setNonblocking fd v w).2
  listen : ∀ fd backlog w, I w → I (host.listen fd backlog w).2
  fromStd : ∀ fd w, I w → I (host.fromStd fd w).2
  localAddr : ∀ fd w, I w → I (host.localAddr fd w).2
  endpointServer : ∀ tlsConfig addr w, I w → I (host.endpointServer tlsConfig addr w).2
  endpointLocalAddr : ∀ id w, I w → I (host.endpointLocalAddr id w).2
  isFile : ∀ path w, I w → I (host.isFile path w).2
  read : ∀ path w, I w → I (host.read path w).2
  readToString : ∀ path w, I w → I (host.readToString path w).2

theorem Host.respects_true {W : Type} (host : Host W) : host.Respects fun _ => True := by
  constructor <;> intros <;> trivial

/-! ## socket -/

/-- `new_socket` の作る socket。 -/
def boundSocket (addr : SocketAddr) (ty : SockType) (protocol : Protocol) (fd : Nat) : Socket where
  fd
  domain := if addr.ip.isIpv4 then .ipv4 else .ipv6
  ty
  protocol
  onlyV6 := if addr.ip.isIpv4 then none else some true
  reuseAddress := some true
  addr := some addr
  nonblocking := some true

/-- `bind_udp` の作る socket。 -/
def udpSocket (addr : SocketAddr) (fd : Nat) : Socket := boundSocket addr .dgram .udp fd

/-- `bind_tcp` の作る socket。 -/
def tcpListener (addr : SocketAddr) (fd : Nat) : Socket :=
  { boundSocket addr .stream .tcp fd with backlog := some 1024 }

theorem mapError_ok {α ε ε' : Type} {x : Except ε α} {f : ε → ε'} {a : α}
    (h : x.mapError f = .ok a) : x = .ok a := by
  cases x with
  | error e => cases h
  | ok b => cases h; rfl

section

variable {W : Type} {host : Host W} {I : W → Prop} (hI : host.Respects I)

include hI

/-- `new_socket` の、bind するところから後。 -/
theorem bindSocket_prompt (s : Socket) (addr : SocketAddr) :
    (do let s ← s.setReuseAddress host true
        let s ← s.bind host addr
        s.setNonblocking host true : Async W DohError Socket).Prompt I fun s' =>
      s' = { s with reuseAddress := some true, addr := some addr, nonblocking := some true } := by
  refine Async.Prompt.bind (P := (· = { s with reuseAddress := some true })) ?_ ?_
  · exact Async.Prompt.bind (Async.Prompt.sync (hI.setReuseAddress s.fd true)) fun _ _ =>
      Async.Prompt.pure rfl
  rintro s rfl
  refine Async.Prompt.bind
    (P := (· = { s with reuseAddress := some true, addr := some addr })) ?_ ?_
  · exact Async.Prompt.bind (Async.Prompt.sync (hI.bind s.fd addr)) fun _ _ =>
      Async.Prompt.pure rfl
  rintro s rfl
  exact Async.Prompt.bind (Async.Prompt.sync (hI.setNonblocking _ true)) fun _ _ =>
    Async.Prompt.pure rfl

theorem newSocket_prompt (addr : SocketAddr) (ty : SockType) (protocol : Protocol) :
    (newSocket host addr ty protocol).Prompt I
      fun s => ∃ fd, s = boundSocket addr ty protocol fd := by
  refine Async.Prompt.bind (Async.Prompt.sync (hI.socket _ ty protocol)) fun fd _ => ?_
  dsimp only
  by_cases hip : addr.ip.isIpv4
  · rw [if_pos hip]
    refine (bindSocket_prompt hI _ addr).mono fun s hs => ⟨fd, ?_⟩
    rw [hs, boundSocket, if_pos hip, if_pos hip]
  · rw [if_neg hip]
    refine Async.Prompt.bind (P := (· = _)) (Async.Prompt.bind
      (Async.Prompt.sync (hI.setOnlyV6 fd true)) fun _ _ => Async.Prompt.pure rfl) ?_
    rintro s rfl
    refine (bindSocket_prompt hI _ addr).mono fun s hs => ⟨fd, ?_⟩
    rw [hs, boundSocket, if_neg hip, if_neg hip]

theorem bindUdp_prompt (addr : SocketAddr) :
    (bindUdp host addr).Prompt I fun s => ∃ fd, s = udpSocket addr fd := by
  refine (newSocket_prompt hI addr .dgram .udp).bind fun s hs => ?_
  exact Async.Prompt.bind (Async.Prompt.sync (hI.fromStd s.fd)) fun _ _ => Async.Prompt.pure hs

theorem bindTcp_prompt (addr : SocketAddr) :
    (bindTcp host addr).Prompt I fun s => ∃ fd, s = tcpListener addr fd := by
  refine (newSocket_prompt hI addr .stream .tcp).bind ?_
  rintro s ⟨fd, rfl⟩
  refine Async.Prompt.bind (P := (· = tcpListener addr fd)) ?_ ?_
  · exact Async.Prompt.bind (Async.Prompt.sync (hI.listen fd 1024)) fun _ _ =>
      Async.Prompt.pure rfl
  rintro s rfl
  exact Async.Prompt.bind (Async.Prompt.sync (hI.fromStd _)) fun _ _ =>
    Async.Prompt.pure ⟨fd, rfl⟩

/-! ## TLS の設定 -/

/-- `cert` と `key` の file から読み込んだ TLS の設定が、どれも満たすこと。 -/
structure TlsLoaded (host : Host W) (cert key : Text) (alpn : List Bytes)
    (tlsConfig : ServerTlsConfig) : Prop where
  alpn_eq : tlsConfig.alpnProtocols = alpn
  certs_ne : tlsConfig.certs ≠ []
  certs_from : ∃ w file, (host.read cert w).1 = .ok file ∧
    host.pemCerts file = .ok tlsConfig.certs
  key_from : ∃ w file, (host.read key w).1 = .ok file ∧
    host.pemPrivateKey file = .ok (some tlsConfig.key)
  usable : host.withSingleCert tlsConfig.certs tlsConfig.key = .ok ()

theorem loadServerTlsConfig_prompt (cert key : Text) (alpn : List Bytes) :
    (loadServerTlsConfig host cert key alpn).Prompt I (TlsLoaded host cert key alpn) := by
  refine Async.Prompt.bind (Async.Prompt.sync (hI.read cert)) ?_
  rintro certFile ⟨w, hcert⟩
  refine Async.Prompt.bind (Async.Prompt.ofExcept fun certs => mapError_ok) fun certs hcerts => ?_
  split
  · exact Async.Prompt.throw _
  next hne =>
  refine Async.Prompt.bind (Async.Prompt.sync (hI.read key)) ?_
  rintro keyFile ⟨w', hkey⟩
  refine Async.Prompt.bind (Async.Prompt.ofExcept fun found => mapError_ok) fun found hfound => ?_
  cases found with
  | none => exact Async.Prompt.throw _
  | some found =>
    refine Async.Prompt.bind (Async.Prompt.ofExcept fun u => mapError_ok) fun u husable => ?_
    exact Async.Prompt.pure
      ⟨rfl, by simpa using hne, ⟨w, certFile, hcert, hcerts⟩, ⟨w', keyFile, hkey, hfound⟩, husable⟩

end

/-! ## 求められたとおりの loop -/

/-- listener の loop の種類。 -/
inductive ListenKind where
  | udp
  | tcp
  | doq
  | dot
  | doh
  | doh3
  | dnsCryptUdp
  | dnsCryptTcp
  deriving DecidableEq, Repr

/-- TLS を使う loop の、始まる順。 -/
def Args.tlsPosts (args : Args) : List (ListenKind × SocketAddr) :=
  let httpsAddrs := expandListen args.httpsListen args.httpsPort
  (expandListen args.quicListen args.quicPort).map (ListenKind.doq, ·)
    ++ ((expandListen args.tlsListen args.tlsPort).map (ListenKind.dot, ·)
    ++ (httpsAddrs.map (ListenKind.doh, ·) ++ httpsAddrs.map (ListenKind.doh3, ·)))

/-- DNSCrypt の loop の、始まる順。 -/
def Args.dnsCryptPosts (args : Args) : List (ListenKind × SocketAddr) :=
  let addrs := expandListen args.dnscryptListen args.dnscryptPort
  addrs.map (ListenKind.dnsCryptUdp, ·) ++ addrs.map (ListenKind.dnsCryptTcp, ·)

theorem Args.tlsPosts_eq_nil_iff (args : Args) :
    args.tlsPosts = [] ↔ expandListen args.quicListen args.quicPort = [] ∧
      expandListen args.tlsListen args.tlsPort = [] ∧
      expandListen args.httpsListen args.httpsPort = [] := by
  simp [Args.tlsPosts]

/-- 引数の求める loop の、始まる順。 -/
def Args.posts (args : Args) : List (ListenKind × SocketAddr) :=
  args.listenAddrs.flatMap (fun addr => [(.udp, addr), (.tcp, addr)])
    ++ (args.tlsPosts ++ args.dnsCryptPosts)

section

variable {W : Type}

/-- 引数の file から読んだ TLS の設定。 -/
def ArgsTls (env : MainEnv W) (args : Args) (alpn : List Bytes) (tlsConfig : ServerTlsConfig) :
    Prop :=
  ∃ cert key, args.listenerTlsCert = some cert ∧ args.listenerTlsKey = some key ∧
    TlsLoaded env.host cert key alpn tlsConfig

/-- 引数の file から、いつかの時刻に作った DNSCrypt の設定。 -/
def ArgsDnsCrypt (env : MainEnv W) (args : Args) (config : DnsCryptServerConfig) : Prop :=
  ∃ path w now, args.dnscryptConfig = some path ∧
    mainDnsCryptConfig env.proxy.suite env.proxy.net.std.unprintable
      (fun t => (env.proxy.net.std.base64Error t).toList) path (env.host.readToString path w).1 now
      = .ok config

/-- 求められた種類と宛先の loop。 -/
inductive Fulfils (env : MainEnv W) (args : Args) (handler : Handler W)
    (credentials : Credentials) : ListenKind × SocketAddr → ListenLoop W → Prop
  | udp {addr : SocketAddr} (fd : Nat) :
      Fulfils env args handler credentials (.udp, addr) (.udp (udpSocket addr fd) handler)
  | tcp {addr : SocketAddr} (fd : Nat) :
      Fulfils env args handler credentials (.tcp, addr) (.tcp (tcpListener addr fd) handler)
  | doq {addr : SocketAddr} {tlsConfig : ServerTlsConfig} (id : Nat)
      (h : ArgsTls env args [doqAlpn] tlsConfig)
      (hquic : env.host.quicServerConfig tlsConfig = .ok ()) :
      Fulfils env args handler credentials (.doq, addr) (.doq { id, tlsConfig, addr } handler)
  | dot {addr : SocketAddr} {tlsConfig : ServerTlsConfig} (fd : Nat)
      (h : ArgsTls env args [] tlsConfig) :
      Fulfils env args handler credentials (.dot, addr)
        (.dot (tcpListener addr fd) tlsConfig handler)
  | doh {addr : SocketAddr} {tlsConfig : ServerTlsConfig} (fd : Nat)
      (h : ArgsTls env args (dohAlpn ++ doh3Alpn) tlsConfig) :
      Fulfils env args handler credentials (.doh, addr)
        (.doh (tcpListener addr fd) tlsConfig handler credentials)
  | doh3 {addr : SocketAddr} {tlsConfig : ServerTlsConfig} (id : Nat)
      (h : ArgsTls env args (dohAlpn ++ doh3Alpn) tlsConfig)
      (hquic : env.host.quicServerConfig tlsConfig = .ok ()) :
      Fulfils env args handler credentials (.doh3, addr)
        (.doh3 { id, tlsConfig, addr } handler credentials)
  | dnsCryptUdp {addr : SocketAddr} {config : DnsCryptServerConfig} (fd : Nat)
      (h : ArgsDnsCrypt env args config) :
      Fulfils env args handler credentials (.dnsCryptUdp, addr)
        (.dnsCryptUdp (udpSocket addr fd) config handler)
  | dnsCryptTcp {addr : SocketAddr} {config : DnsCryptServerConfig} (fd : Nat)
      (h : ArgsDnsCrypt env args config) :
      Fulfils env args handler credentials (.dnsCryptTcp, addr)
        (.dnsCryptTcp (tcpListener addr fd) config handler)

end

/-! ## `serve` -/

section

variable {W : Type} {env : MainEnv W} {args : Args} {handler : Handler W}
  {credentials : Credentials} {I : W → Prop} (hI : env.host.Respects I)

include hI

theorem serveIo_launches (addr : SocketAddr) :
    (serveIo env.host addr handler).Launches (Fulfils env args handler credentials) I
      [(.udp, addr), (.tcp, addr)] := by
  refine Async.Launches.after (by simp) (bindUdp_prompt hI addr).onSnd ?_
  rintro udp ⟨fd, rfl⟩
  refine Async.Launches.after (by simp) (bindTcp_prompt hI addr).onSnd ?_
  rintro tcp ⟨fd', rfl⟩
  exact (Async.Launches.spawn (Fulfils.udp fd)).bind fun _ => Async.Launches.spawn (Fulfils.tcp fd')

/-- TCP の上の `serve` は、一つの loop を始める。 -/
theorem serveTcpWith_launches {kind : ListenKind} {task : Socket → ListenLoop W}
    (addr : SocketAddr)
    (htask : ∀ fd, Fulfils env args handler credentials (kind, addr) (task (tcpListener addr fd))) :
    (serveTcpWith env.host task addr).Launches (Fulfils env args handler credentials) I
      [(kind, addr)] := by
  refine Async.Launches.after (by simp) (bindTcp_prompt hI addr).onSnd ?_
  rintro listener ⟨fd, rfl⟩
  refine Async.Launches.after (by simp) (Async.Prompt.sync (hI.localAddr _)).onSnd fun _ _ => ?_
  exact (Async.Launches.spawn (htask fd)).bind fun _ => Async.Launches.pure _

/-- QUIC の上の `serve` も、一つの loop を始める。 -/
theorem serveQuicWith_launches {kind : ListenKind} {task : Endpoint → ListenLoop W}
    (addr : SocketAddr) (tlsConfig : ServerTlsConfig)
    (htask : ∀ id, env.host.quicServerConfig tlsConfig = .ok () →
      Fulfils env args handler credentials (kind, addr) (task { id, tlsConfig, addr })) :
    (serveQuicWith env.host task addr tlsConfig).Launches (Fulfils env args handler credentials) I
      [(kind, addr)] := by
  refine Async.Launches.after (by simp) (Async.Prepares.ofExcept fun u => mapError_ok)
    fun u hquic => ?_
  refine Async.Launches.after (by simp) (Async.Prompt.sync (hI.endpointServer _ _)).onSnd
    fun id _ => ?_
  refine Async.Launches.after (by simp) (Async.Prompt.sync (hI.endpointLocalAddr _)).onSnd
    fun _ _ => ?_
  exact (Async.Launches.spawn (htask id hquic)).bind fun _ => Async.Launches.pure _

/-- 証明書と鍵を読んでから、何かを始める。 -/
theorem launches_afterTls {cert key : Text} (hcert : args.listenerTlsCert = some cert)
    (hkey : args.listenerTlsKey = some key) {alpn : List Bytes}
    {plan : List (ListenKind × SocketAddr)} (hplan : plan ≠ [])
    {f : ServerTlsConfig → Boot W MainError Unit}
    (hf : ∀ tlsConfig, ArgsTls env args alpn tlsConfig →
      (f tlsConfig).Launches (Fulfils env args handler credentials) I plan) :
    (((loadServerTlsConfig env.host cert key alpn).mapErr MainError.doh).onSnd >>= f).Launches
      (Fulfils env args handler credentials) I plan :=
  Async.Launches.after hplan ((loadServerTlsConfig_prompt hI cert key alpn).mapErr _).onSnd
    fun tlsConfig htls => hf tlsConfig ⟨cert, key, hcert, hkey, htls⟩

theorem startDoq_launches {cert key : Text} (hcert : args.listenerTlsCert = some cert)
    (hkey : args.listenerTlsKey = some key) (addrs : List SocketAddr) :
    (startDoq env addrs cert key handler).Launches (Fulfils env args handler credentials) I
      (addrs.map (ListenKind.doq, ·)) := by
  unfold startDoq
  cases addrs with
  | nil => exact Async.Launches.pure ()
  | cons addr rest =>
    refine launches_afterTls hI hcert hkey (by simp) fun tlsConfig htls => ?_
    refine Async.Launches.mapErr (Async.Launches.each (fun a => ?_) _) _
    exact serveQuicWith_launches hI a tlsConfig fun id => Fulfils.doq id htls

theorem startDot_launches {cert key : Text} (hcert : args.listenerTlsCert = some cert)
    (hkey : args.listenerTlsKey = some key) (addrs : List SocketAddr) :
    (startDot env addrs cert key handler).Launches (Fulfils env args handler credentials) I
      (addrs.map (ListenKind.dot, ·)) := by
  unfold startDot
  cases addrs with
  | nil => exact Async.Launches.pure ()
  | cons addr rest =>
    refine launches_afterTls hI hcert hkey (by simp) fun tlsConfig htls => ?_
    refine Async.Launches.mapErr (Async.Launches.each (fun a => ?_) _) _
    exact serveTcpWith_launches hI a fun fd => Fulfils.dot fd htls

theorem startDoh_launches {cert key : Text} (hcert : args.listenerTlsCert = some cert)
    (hkey : args.listenerTlsKey = some key) (addrs : List SocketAddr) :
    (startDoh env addrs cert key handler credentials).Launches
      (Fulfils env args handler credentials) I
      (addrs.map (ListenKind.doh, ·) ++ addrs.map (ListenKind.doh3, ·)) := by
  unfold startDoh
  cases addrs with
  | nil => exact Async.Launches.pure ()
  | cons addr rest =>
    refine launches_afterTls hI hcert hkey (by simp) fun tlsConfig htls => ?_
    refine (Async.Launches.mapErr (Async.Launches.each (fun a => ?_) _) _).bind fun _ => ?_
    · exact serveTcpWith_launches hI a fun fd => Fulfils.doh fd htls
    · refine Async.Launches.mapErr (Async.Launches.each (fun a => ?_) _) _
      exact serveQuicWith_launches hI a tlsConfig fun id => Fulfils.doh3 id htls

omit hI in
theorem okOr_prompt {α : Type} (msg : String) (x : Option α) :
    (okOr msg x : Async W MainError α).Prompt I (x = some ·) := by
  cases x with
  | none => exact Async.Prompt.throw _
  | some a => exact Async.Prompt.pure rfl

theorem startTls_launches :
    (startTls env args handler credentials).Launches (Fulfils env args handler credentials) I
      args.tlsPosts := by
  unfold startTls
  dsimp only
  split
  next hany =>
    have hne : args.tlsPosts ≠ [] := by
      intro hnil
      obtain ⟨hquic, htls, hhttps⟩ := args.tlsPosts_eq_nil_iff.mp hnil
      simp [hquic, htls, hhttps] at hany
    refine Async.Launches.after hne (okOr_prompt _ _).onSnd fun cert hcert => ?_
    refine Async.Launches.after hne (okOr_prompt _ _).onSnd fun key hkey => ?_
    exact (startDoq_launches hI hcert hkey _).bind fun _ =>
      (startDot_launches hI hcert hkey _).bind fun _ => startDoh_launches hI hcert hkey _
  next hnone =>
    rw [args.tlsPosts_eq_nil_iff.mpr (by simpa [and_assoc] using hnone)]
    exact Async.Launches.pure ()

theorem startDnsCryptConfig_prompt {path : Text} (hpath : args.dnscryptConfig = some path) :
    (startDnsCryptConfig env path).Prompt I (ArgsDnsCrypt env args) := by
  refine Async.Prompt.bind (Async.Prompt.observe (hI.readToString path)) ?_
  rintro file ⟨w, rfl⟩
  refine Async.Prompt.bind (Async.Prompt.gets env.proxy.net.nowUnix) fun now _ => ?_
  exact Async.Prompt.ofExcept fun config h => ⟨path, w, now, hpath, mapError_ok h⟩

theorem startDnsCrypt_launches :
    (startDnsCrypt env args handler).Launches (Fulfils env args handler credentials) I
      args.dnsCryptPosts := by
  unfold startDnsCrypt Args.dnsCryptPosts
  dsimp only
  generalize expandListen args.dnscryptListen args.dnscryptPort = addrs
  cases addrs with
  | nil => exact Async.Launches.pure ()
  | cons addr rest =>
    refine Async.Launches.after (by simp) (okOr_prompt _ _).onSnd fun path hpath => ?_
    refine Async.Launches.after (by simp) (startDnsCryptConfig_prompt hI hpath).onSnd
      fun config hconfig => ?_
    refine Async.Launches.mapErr ((Async.Launches.each (fun a => ?_) _).bind fun _ =>
      Async.Launches.each (fun a => ?_) _) _
    · refine Async.Launches.after (by simp) (bindUdp_prompt hI a).onSnd ?_
      rintro socket ⟨fd, rfl⟩
      refine Async.Launches.after (by simp) (Async.Prompt.sync (hI.localAddr _)).onSnd
        fun _ _ => ?_
      exact (Async.Launches.spawn (Fulfils.dnsCryptUdp fd hconfig)).bind fun _ =>
        Async.Launches.pure _
    · exact serveTcpWith_launches hI a fun fd => Fulfils.dnsCryptTcp fd hconfig

theorem startListeners_launches :
    (startListeners env args handler credentials).Launches
      (Fulfils env args handler credentials) I args.posts := by
  refine Async.Launches.bind (Async.Launches.mapErr (Async.Launches.forM (fun addr => ?_) _) _)
    fun _ => (startTls_launches hI).bind fun _ => startDnsCrypt_launches hI
  exact serveIo_launches hI addr

end

/-- 引数の求める loop は、必ず有る。 -/
theorem Args.posts_ne_nil (args : Args) : args.posts ≠ [] := by
  have hexpand : ∀ {listen : List SocketAddr} {port : Option UInt16},
      (!listen.isEmpty || port.isSome) = true → expandListen listen port ≠ [] := by
    intro listen port h
    cases port with
    | none => simpa [expandListen] using h
    | some port => simp [expandListen, wildcards]
  unfold Args.posts Args.listenAddrs
  cases args.port with
  | some port => simp [wildcards]
  | none =>
    dsimp only
    split
    next hlisten =>
      cases hl : args.listen with
      | nil => simp [hl] at hlisten
      | cons addr rest => simp
    split
    next hsecure =>
      simp only [Args.secureListenerEnabled, Bool.or_eq_true] at hsecure
      simp only [List.flatMap_nil, List.nil_append, ne_eq, List.append_eq_nil_iff, not_and]
      intro htls
      obtain ⟨hquic, hdot, hhttps⟩ := args.tlsPosts_eq_nil_iff.mp htls
      rcases hsecure with ((h | h) | h) | h
      · exact absurd hquic (hexpand (by simpa using h))
      · exact absurd hdot (hexpand (by simpa using h))
      · exact absurd hhttps (hexpand (by simpa using h))
      · simpa [Args.dnsCryptPosts] using hexpand (by simpa using h)
    · simp

/-! ## 設定を読む -/

section

variable {W : Type}

/-- `path` の file の、いつかの中身。 -/
def FileText (host : Host W) (path content : Text) : Prop :=
  ∃ w, (host.readToString path w).1 = .ok content

/-- `--upstream` の値の読まれ方。 -/
def UpstreamArg (host : Host W) (s content : Text) : Prop :=
  (∃ w, (host.isFile s w).1 = false) ∧ content = s ∨
    (∃ w, (host.isFile s w).1 = true) ∧ FileText host s content

/-- `config` は、引数の規則の行から読まれた。 -/
def RulesRead (env : MainEnv W) (args : Args) (config : UpstreamConfig (Upstream W)) : Prop :=
  ∃ baseOpts argText fileText, mainBaseOpts env args = .ok baseOpts ∧
    List.Forall₂ (UpstreamArg env.host) args.upstreams argText ∧
    Option.Rel (FileText env.host) args.upstreamFile fileText ∧
    UpstreamConfig.parseWithMode env.url.std.unprintable (parseAnyUpstream env.url baseOpts)
      (ruleLines args.privateUpstream argText fileText) args.upstreamMode = .ok config

/-- `credentials` は、引数の認証から読まれた。 -/
def AuthRead (env : MainEnv W) (args : Args) (credentials : Credentials) : Prop :=
  ∃ file : Except Text Text,
    (∀ path, args.dohAuthFile = some path → ∃ w, (env.host.readToString path w).1 = file) ∧
    dohCredentials env.proxy.net.std (fun _ => (file.map String.ofList).mapError String.ofList)
      { dohAuth := args.dohAuth.map String.ofList
        dohAuthFile := args.dohAuthFile.map String.ofList } = .ok credentials

/-- 引数から読まれた設定。 -/
structure Configured (env : MainEnv W) (args : Args) (config : UpstreamConfig (Upstream W))
    (credentials : Credentials) (cacheOpts : Option CacheOptions) : Prop where
  given : args.upstreams ≠ [] ∨ args.upstreamFile ≠ none
  rules : RulesRead env args config
  auth : AuthRead env args credentials
  cache : mainCacheOpts args.cache args.cacheSize args.cacheMinTtl args.cacheMaxTtl = .ok cacheOpts

/-- 設定を読み終えた process の記憶。 -/
structure Memory (env : MainEnv W) (config : UpstreamConfig (Upstream W))
    (cacheOpts : Option CacheOptions) (w : W) : Prop where
  config_eq : env.proxy.config.get w = config
  cache_eq : ∀ opts, cacheOpts = some opts → env.proxy.cache.get w = Cache.new env.proxy.lru opts

/--
二つの置き場所が、書いたものを保ち、互いに別であること。

`Upstream W` は `W` の上の計算を含むので、どんな設定でも保つ置き場所は作れない。そこで、保つべき設定を
`P` で限る。
-/
structure Proxy.Stored (p : Proxy W) (P : UpstreamConfig (Upstream W) → Prop) : Prop where
  config_get : ∀ v w, P v → p.config.get (p.config.set v w) = v
  cache_get : ∀ v w, p.cache.get (p.cache.set v w) = v
  config_cache : ∀ v w, p.config.get (p.cache.set v w) = p.config.get w

variable {env : MainEnv W} {args : Args}

theorem liftText_prompt {α : Type} {I : W → Prop} (x : Except Text α) :
    (liftText x : Async W MainError α).Prompt I (x = .ok ·) :=
  Async.Prompt.ofExcept fun _ => mapError_ok

section

variable {I : W → Prop} (hI : env.host.Respects I)

include hI

theorem readText_prompt (path : Text) :
    (readText env path).Prompt I (FileText env.host path) := by
  unfold readText sysText
  refine Async.Prompt.mono (Async.Prompt.sync ?_) ?_
  · exact hI.readToString path
  · rintro content ⟨w, hw⟩
    exact ⟨w, mapError_ok hw⟩

theorem readOption_prompt (path : Option Text) :
    (readOption env path).Prompt I (Option.Rel (FileText env.host) path) := by
  cases path with
  | none => exact Async.Prompt.pure .none
  | some path =>
    exact (readText_prompt hI path).bind fun content h => Async.Prompt.pure (.some h)

theorem upstreamArgText_prompt : ∀ l : List Text,
    (upstreamArgText env l).Prompt I (List.Forall₂ (UpstreamArg env.host) l)
  | [] => Async.Prompt.pure .nil
  | s :: rest => by
    refine Async.Prompt.bind (Async.Prompt.observe (hI.isFile s)) fun b hb => ?_
    have htail : ∀ content, UpstreamArg env.host s content →
        (do let contents ← upstreamArgText env rest
            pure (content :: contents) : Async W MainError (List Text)).Prompt I
          (List.Forall₂ (UpstreamArg env.host) (s :: rest)) := fun content hcontent =>
      (upstreamArgText_prompt rest).bind fun contents h => Async.Prompt.pure (.cons hcontent h)
    cases b with
    | true =>
      exact (readText_prompt hI s).bind fun content h => htail content (Or.inr ⟨hb, h⟩)
    | false =>
      exact Async.Prompt.bind (P := (s = ·)) (Async.Prompt.pure rfl) fun content h =>
        htail content (Or.inl ⟨hb, h.symm⟩)

theorem mainUpstreamConfig_prompt :
    (mainUpstreamConfig env args).Prompt I fun config =>
      (args.upstreams ≠ [] ∨ args.upstreamFile ≠ none) ∧ RulesRead env args config := by
  refine (liftText_prompt _).bind fun baseOpts hbase => ?_
  split
  · exact Async.Prompt.throw _
  next hgiven =>
  refine (readOption_prompt hI _).bind fun fileText hfile => ?_
  refine (upstreamArgText_prompt hI _).bind fun argText harg => ?_
  refine (liftText_prompt _).mono fun config hconfig => ⟨?_, baseOpts, argText, fileText, hbase,
    harg, hfile, mapError_ok hconfig⟩
  cases hfile' : args.upstreamFile with
  | none => exact Or.inl (by simpa [hfile'] using hgiven)
  | some path => exact Or.inr (by simp)

theorem mainDohCredentials_prompt :
    (mainDohCredentials env args).Prompt I (AuthRead env args) := by
  have htail : ∀ file : Except Text Text,
      (∀ path, args.dohAuthFile = some path → ∃ w, (env.host.readToString path w).1 = file) →
      (liftText ((dohCredentials env.proxy.net.std
        (fun _ => (file.map String.ofList).mapError String.ofList)
        { dohAuth := args.dohAuth.map String.ofList
          dohAuthFile := args.dohAuthFile.map String.ofList }).mapError String.toList)
        : Async W MainError Credentials).Prompt I (AuthRead env args) := fun file hfile =>
    (liftText_prompt _).mono fun credentials h => ⟨file, hfile, mapError_ok h⟩
  unfold mainDohCredentials
  cases hauth : args.dohAuthFile with
  | none =>
    rw [hauth] at htail
    exact Async.Prompt.bind (P := fun _ => True) (Async.Prompt.pure trivial) fun file _ =>
      htail file fun path h => by cases h
  | some path =>
    rw [hauth] at htail
    refine Async.Prompt.bind (Async.Prompt.observe (hI.readToString path)) fun file hfile =>
      htail file fun path' h => ?_
    cases h
    exact hfile

end

variable (args) in
/-- `main` の `handler` を作るところは、`Cache` の大きさの検査で失敗するか、二つの置き場所を整える。 -/
theorem mainServed_run {P : UpstreamConfig (Upstream W) → Prop} (hstored : env.proxy.Stored P)
    {config : UpstreamConfig (Upstream W)} (hconfig : P config) (w : W) :
    (∃ e w', mainServed env args config w = (.err e, w')) ∨
      ∃ cacheOpts w', mainServed env args config w = (.ok (mainHandler env args), w') ∧
        mainCacheOpts args.cache args.cacheSize args.cacheMinTtl args.cacheMaxTtl
          = .ok cacheOpts ∧ Memory env config cacheOpts w' := by
  unfold mainServed
  cases hopts : mainCacheOpts args.cache args.cacheSize args.cacheMinTtl args.cacheMaxTtl with
  | error e => exact Or.inl ⟨.message e, _, rfl⟩
  | ok cacheOpts =>
    cases cacheOpts with
    | none =>
      exact Or.inr ⟨none, _, rfl, rfl, hstored.config_get _ _ hconfig, fun opts h => by cases h⟩
    | some opts =>
      refine Or.inr ⟨some opts, _, rfl, rfl, ?_, fun opts' h => ?_⟩
      · exact (hstored.config_cache _ _).trans (hstored.config_get _ _ hconfig)
      · cases h
        exact hstored.cache_get _ _

/-- 設定を読むところは、失敗するか、引数のとおりの設定と記憶を整える。 -/
theorem mainSetup_run (hstored : env.proxy.Stored (RulesRead env args)) (w : W) :
    (∃ e w', mainSetup env args w = (.err e, w')) ∨
      ∃ config credentials cacheOpts w',
        mainSetup env args w = (.ok (mainHandler env args, credentials), w') ∧
        Configured env args config credentials cacheOpts ∧ Memory env config cacheOpts w' := by
  have hprompt : (mainUpstreamConfig env args).Prompt (fun _ => True) _ :=
    mainUpstreamConfig_prompt env.host.respects_true
  have hread := hprompt w trivial
  unfold mainSetup
  cases hconfig : mainUpstreamConfig env args w with
  | mk r w₁ =>
    rw [hconfig] at hread
    obtain ⟨hret, -, hP⟩ := hread
    rcases hret with ⟨config, rfl⟩ | ⟨e, rfl⟩
    · obtain ⟨hgiven, hrules⟩ := hP config rfl
      rw [Async.bind_ok hconfig]
      have hprompt : (mainDohCredentials env args).Prompt (fun _ => True) _ :=
        mainDohCredentials_prompt env.host.respects_true
      have hread := hprompt w₁ trivial
      cases hauth : mainDohCredentials env args w₁ with
      | mk r w₂ =>
        rw [hauth] at hread
        obtain ⟨hret, -, hP⟩ := hread
        rcases hret with ⟨credentials, rfl⟩ | ⟨e, rfl⟩
        · rw [Async.bind_ok hauth]
          rcases mainServed_run args hstored hrules w₂ with
            ⟨e, w₃, hrun⟩ | ⟨cacheOpts, w₃, hrun, hcache, hmem⟩
          · exact Or.inl ⟨e, w₃, Async.bind_err hrun⟩
          · exact Or.inr ⟨config, credentials, cacheOpts, w₃, Async.bind_ok hrun,
              ⟨hgiven, hrules, hP credentials rfl, hcache⟩, hmem⟩
        · exact Or.inl ⟨e, w₂, Async.bind_err hauth⟩
    · exact Or.inl ⟨e, w₁, Async.bind_err hconfig⟩

end

/-! ## `main` -/

section

variable {W : Type}

/-- `main` の終わり方と、始めた loop。`w₀` は始まりの世界である。 -/
inductive Booted (env : MainEnv W) (args : Args) (w₀ : W) :
    Outcome MainError Unit × (List (ListenLoop W) × W) → Prop
  /-- 鍵の file を書いて終わる。 -/
  | generated {path providerName : Text} {config : ResolverConfig} {w : W}
      (hpath : args.dnscryptGenerateConfig = some path)
      (hname : args.dnscryptProviderName = some providerName)
      (hconfig : config.providerName = String.ofList providerName)
      (hwrite : ∃ w', env.host.write path config.toText w' = (.ok (), w)) :
      Booted env args w₀ (.ok (), ([], w))
  /-- 鍵の file を書けずに終わる。 -/
  | notGenerated {e : MainError} {w : W} (hpath : args.dnscryptGenerateConfig.isSome) :
      Booted env args w₀ (.err e, ([], w))
  /-- 設定を読めずに終わる。 -/
  | refused {e : MainError} {w : W} (hgenerate : args.dnscryptGenerateConfig = none)
      (hsetup : mainSetup env args w₀ = (.err e, w)) : Booted env args w₀ (.err e, ([], w))
  /-- 途中で失敗する。 -/
  | stopped {e : MainError} {w : W} {config : UpstreamConfig (Upstream W)}
      {credentials : Credentials} {cacheOpts : Option CacheOptions}
      {begun rest : List (ListenKind × SocketAddr)} {loops : List (ListenLoop W)}
      (hgenerate : args.dnscryptGenerateConfig = none)
      (hconfig : Configured env args config credentials cacheOpts)
      (hmemory : Memory env config cacheOpts w)
      (hposts : args.posts = begun ++ rest) (hrest : rest ≠ [])
      (hloops : List.Forall₂ (Fulfils env args (mainHandler env args) credentials) begun loops) :
      Booted env args w₀ (.err e, (loops, w))
  /-- すべてを始めて、待ち続ける。 -/
  | serving {w : W} {config : UpstreamConfig (Upstream W)} {credentials : Credentials}
      {cacheOpts : Option CacheOptions} {loops : List (ListenLoop W)}
      (hgenerate : args.dnscryptGenerateConfig = none)
      (hconfig : Configured env args config credentials cacheOpts)
      (hmemory : Memory env config cacheOpts w)
      (hloops : List.Forall₂ (Fulfils env args (mainHandler env args) credentials) args.posts
        loops) :
      Booted env args w₀ (.pending, (loops, w))

variable {env : MainEnv W} {args : Args}

variable (env) in
/-- 鍵を作る枝は、file を書けたかどうかで終わる。 -/
theorem runDnscryptGenerateConfig_run (path providerName : Text) (w : W) :
    (∃ e w', runDnscryptGenerateConfig env path providerName w = (.err e, w')) ∨
      ∃ (config : ResolverConfig) (w₁ w' : W),
        runDnscryptGenerateConfig env path providerName w = (.ok (), w') ∧
        config.providerName = String.ofList providerName ∧
        env.host.write path config.toText w₁ = (.ok (), w') := by
  let config : ResolverConfig :=
    { providerName := String.ofList providerName
      providerSigningKey := (env.proxy.net.random 32 w).1
      resolverSecretKey := (env.proxy.net.random 32 (env.proxy.net.random 32 w).2).1 }
  have hgen : (ResolverConfig.generate env providerName).mapErr MainError.doh w
      = (.ok config, (env.proxy.net.random 32 (env.proxy.net.random 32 w).2).2) := rfl
  generalize (env.proxy.net.random 32 (env.proxy.net.random 32 w).2).2 = w₁ at hgen
  unfold runDnscryptGenerateConfig
  rw [Async.bind_ok hgen]
  unfold sysText Async.sync
  beta_reduce
  cases hwrite : env.host.write path config.toText w₁ with
  | mk written w' =>
    cases written with
    | error e => exact Or.inl ⟨_, w', rfl⟩
    | ok u => exact Or.inr ⟨config, w₁, w', rfl, rfl, hwrite⟩

/--
**起動したものは、引数のとおりである。**

`main` は、鍵の file を書いたときのほかは値を返さない。設定を読めなければ listener を一つも始めず、途中で
失敗すれば求められた順の先頭の部分だけを、動き続けているなら全部を始めている。

記憶についての部分（`Memory`）は、`main` 自身の残したものについてのもので、先に始まった loop が起動の間に
query に答えて cache や cursor を動かすことは含まない（`Host.Respects`）。
-/
theorem main_boots (hstored : env.proxy.Stored (RulesRead env args))
    (hhost : ∀ config cacheOpts, env.host.Respects (Memory env config cacheOpts)) (w : W) :
    args.posts ≠ [] ∧ Booted env args w (main env args ([], w)) := by
  refine ⟨args.posts_ne_nil, ?_⟩
  unfold main
  cases hpath : args.dnscryptGenerateConfig with
  | some path =>
    have hsome : args.dnscryptGenerateConfig.isSome := by rw [hpath]; rfl
    dsimp only
    cases hname : args.dnscryptProviderName with
    | none => exact .notGenerated hsome
    | some providerName =>
      have hok : (okOr providerNameRequired (some providerName) : Async W MainError Text).onSnd
          (([] : List (ListenLoop W)), w) = (.ok providerName, ([], w)) := rfl
      rw [Async.bind_ok hok]
      rcases runDnscryptGenerateConfig_run env path providerName w with
        ⟨e, w', hrun⟩ | ⟨config, w₁, w', hrun, hconfig, hwrite⟩
      · have hboot : (runDnscryptGenerateConfig env path providerName).onSnd
            (([] : List (ListenLoop W)), w) = (.err e, ([], w')) := Async.onSnd_apply hrun
        rw [hboot]
        exact .notGenerated hsome
      · have hboot : (runDnscryptGenerateConfig env path providerName).onSnd
            (([] : List (ListenLoop W)), w) = (.ok (), ([], w')) := Async.onSnd_apply hrun
        rw [hboot]
        exact .generated hpath hname hconfig ⟨w₁, hwrite⟩
  | none =>
    dsimp only
    rcases mainSetup_run hstored w with ⟨e, w₁, hsetup⟩ |
      ⟨config, credentials, cacheOpts, w₁, hsetup, hconfig, hmemory⟩
    · rw [Async.bind_err (Async.onSnd_apply hsetup)]
      exact .refused hpath hsetup
    · rw [Async.bind_ok (Async.onSnd_apply hsetup)]
      have hlaunch : (startListeners env args (mainHandler env args) credentials).Launches
          (Fulfils env args (mainHandler env args) credentials) (Memory env config cacheOpts)
          args.posts := startListeners_launches (hhost config cacheOpts)
      obtain ⟨loops, hfst, hmem, hend⟩ := hlaunch ([], w₁) hmemory
      cases hrun : startListeners env args (mainHandler env args) credentials ([], w₁) with
      | mk r t =>
        rw [hrun] at hfst hmem hend
        obtain ⟨started, w₂⟩ := t
        rw [List.nil_append] at hfst
        dsimp only at hfst hmem hend
        subst hfst
        cases hend with
        | all h =>
          rw [Async.bind_ok hrun]
          exact .serving hpath hconfig hmem h
        | stopped begun rest hposts hrest h =>
          rw [Async.bind_err hrun]
          exact .stopped hpath hconfig hmem hposts hrest h

end

/-! ## `--https-port` での起動 -/

def bootStd : StdText :=
  { StdText.none with parseSocketAddr := fun _ => some { ip := .v4 0x7F000001, port := 53 } }

/-- 起動の計算例の cache。 -/
abbrev BootCache : Type := Cache (Lru.cache CacheKey CacheEntry)

/-- どの操作も成り、file は鍵と証明書だけが有る OS。 -/
def bootHost : Host BootCache where
  socket _ _ _ w := (.ok 3, w)
  setOnlyV6 _ _ w := (.ok (), w)
  setReuseAddress _ _ w := (.ok (), w)
  bind _ _ w := (.ok (), w)
  setNonblocking _ _ w := (.ok (), w)
  listen _ _ w := (.ok (), w)
  fromStd _ w := (.ok (), w)
  localAddr _ w := (.ok { ip := .v4 0, port := 443 }, w)
  quicServerConfig _ := .ok ()
  endpointServer _ _ w := (.ok 1, w)
  endpointLocalAddr _ w := (.ok { ip := .v4 0, port := 443 }, w)
  isFile _ w := (false, w)
  read _ w := (.ok [1], w)
  readToString _ w := (.error (text "not found"), w)
  write _ _ w := (.ok (), w)
  pemCerts file := .ok [file]
  pemPrivateKey file := .ok (some file)
  withSingleCert _ _ := .ok ()

/-- 起動の計算例の世界は、cache だけである。上流の設定は `bootConfig` に決まっている。 -/
def bootUrls : UrlEnv BootCache where
  std := bootStd
  parseUri _ := .error (text "invalid uri character")
  systemResolver := Resolver.static []
  dohSlots := ⟨⟨fun _ => none, fun _ w => w⟩, ⟨fun _ => none, fun _ w => w⟩,
    ⟨fun _ => none, fun _ w => w⟩, fun _ => ⟨fun _ => none, fun _ w => w⟩⟩
  doqConn := ⟨fun _ => none, fun _ w => w⟩
  dnsCryptCert := ⟨fun _ => none, fun _ w => w⟩
  dnsCryptLog := ⟨fun _ => [], fun _ w => w⟩

def bootArgs : Args where
  upstreams := [text "127.0.0.1:53"]
  cache := true
  httpsPort := some 443
  listenerTlsCert := some (text "cert.pem")
  listenerTlsKey := some (text "key.pem")

def bootOptions : CacheOptions :=
  { size := 1000, size_pos := Nat.succ_pos 999, minTtl := 0, maxTtl := none }

def bootConfig : UpstreamConfig (Upstream BootCache) where
  domainUpstreams := ∅
  defaultUpstreams :=
    { upstreams := [{ id := 0
                      upstream := .plainUdp { addr := { ip := .v4 0x7F000001, port := 53 }
                                              timeout := some (Duration.fromSecs 10) } }] }
  mode := .ordered

def bootEnv : MainEnv BootCache where
  url := bootUrls
  race := ⟨fun n w => (List.range n, w), fun _ _ => .refl _, fun _ => ""⟩
  proxy :=
    { codec := listCodec [] []
      suite := .trivial
      net := Net.unreachable bootStd
      escape := hickoryEscape
      ema := fun a _ => a
      config := ⟨fun _ => bootConfig, fun _ w => w⟩
      latency := fun _ => ⟨fun _ => {}, fun _ w => w⟩
      shuffle := fun _ l => l
      shuffle_perm := fun _ l => .refl l
      lru := Lru.cache _ _
      cache := ⟨id, fun c _ => c⟩ }
  host := bootHost

theorem bootRules {config : UpstreamConfig (Upstream BootCache)}
    (h : RulesRead bootEnv bootArgs config) : config = bootConfig := by
  obtain ⟨baseOpts, argText, fileText, hbase, harg, hfile, hparse⟩ := h
  have hargText : argText = bootArgs.upstreams := by
    cases harg with
    | cons hs hrest =>
      cases hrest
      rcases hs with ⟨-, rfl⟩ | ⟨⟨w, hw⟩, -⟩
      · rfl
      · cases hw
  cases hfile
  cases hbase
  rw [hargText] at hparse
  exact (Except.ok.inj hparse).symm

theorem bootRespects (config : UpstreamConfig (Upstream BootCache))
    (cacheOpts : Option CacheOptions) :
    bootHost.Respects (Memory bootEnv config cacheOpts) := by
  constructor <;> intros <;> assumption

/-- `--https-port 443` は、DoH と DoH3 の loop を二つずつ始めて待ち続ける。 -/
theorem main_boots_https :
    (bootArgs.posts ≠ [] ∧
      Booted bootEnv bootArgs (Cache.new _ bootOptions)
        (main bootEnv bootArgs ([], Cache.new _ bootOptions))) ∧
      (main bootEnv bootArgs ([], Cache.new _ bootOptions)).1 = .pending ∧
      (main bootEnv bootArgs ([], Cache.new _ bootOptions)).2.1.length = 4 :=
  ⟨main_boots ⟨fun _ _ h => (bootRules h).symm, fun _ _ => rfl, fun _ _ => rfl⟩ bootRespects _,
    by decide +kernel, by decide +kernel⟩

end DnsProxy
