import DnsProxy.Main
import DnsProxy.Properties.LiteralDial
import DnsProxy.Properties.LiteralSpelling
import DnsProxy.Properties.Userinfo

/-!
# IP で書いた上流

`https://1.1.1.1/dns-query` のように host を IP で書いた上流は、名前を引かずにその宛先へ繋がる
はずである。`udp://` と `split_host_port` のほかに、`https://` と `h3://` は `Uri` が読む。
`Uri::host` は IPv6 の host を `[..]` のまま返し、`resolve_addrs` はそれを IP と見ない。

どの綴りなら読めてその宛先へ繋がるかを、過不足なく述べる（`literal_upstream_iff`）。
-/

namespace DnsProxy

open Infra

variable {W : Type}

/-! ## scheme ごとの読み方 -/

section

variable {env : UrlEnv W} {codec : Codec} {suite : CryptoSuite} {net : Net W} {ip : IpAddr}
  {host : Text}

/-- `url` が読めて、どんな設定でも `addr` に繋がる。 -/
def ReachesAddr (env : UrlEnv W) (codec : Codec) (suite : CryptoSuite) (net : Net W) (url : Text)
    (addr : SocketAddr) : Prop :=
  ∀ opts, ∃ u, parseAnyUpstream env opts url = .ok u ∧ Dials codec suite net addr u

/-- `udp://` は、宛先の読める綴りだけを許す。 -/
theorem parseAnyUpstream_udp (opts : Options W) (rest : Text) (u : Upstream W) :
    parseAnyUpstream env opts (text "udp" ++ (text "://" ++ rest)) = .ok u ↔
      ∃ addr, parseUdpAddr env rest = some addr ∧
        u = .plainUdp { addr, timeout := opts.timeout } := by
  unfold parseAnyUpstream
  rw [splitOnce_scheme (by simp [text]), Option.getD_some]
  dsimp only
  rw [if_pos rfl]
  cases parseUdpAddr env rest with
  | none => simp
  | some addr => simp [eq_comm]

theorem parseAnyUpstream_tcp (opts : Options W) (rest : Text) (u : Upstream W) :
    parseAnyUpstream env opts (text "tcp" ++ (text "://" ++ rest)) = .ok u ↔
      ∃ r, splitHostPort env rest = .ok r ∧
        .plainTcp (PlainTcpUpstream.new env r.1 r.2 (cloneOpts opts)) = u := by
  unfold parseAnyUpstream
  rw [splitOnce_scheme (by simp [text]), Option.getD_some]
  dsimp only
  rw [if_neg (by decide), if_pos rfl]
  exact Except.map_eq_ok_iff

theorem parseAnyUpstream_tls (opts : Options W) (rest : Text) (u : Upstream W) :
    parseAnyUpstream env opts (text "tls" ++ (text "://" ++ rest)) = .ok u ↔
      ∃ r, splitHostPort env rest = .ok r ∧
        .dot (DotUpstream.new env r.1 r.2 (cloneOpts opts)) = u := by
  unfold parseAnyUpstream
  rw [splitOnce_scheme (by simp [text]), Option.getD_some]
  dsimp only
  rw [if_neg (by decide), if_neg (by decide), if_pos rfl]
  exact Except.map_eq_ok_iff

theorem parseAnyUpstream_quic (opts : Options W) (rest : Text) (u : Upstream W) :
    parseAnyUpstream env opts (text "quic" ++ (text "://" ++ rest)) = .ok u ↔
      ∃ r, splitHostPort env rest = .ok r ∧
        .doq (DoqUpstream.new env r.1 r.2 (cloneOpts opts)) = u := by
  unfold parseAnyUpstream
  rw [splitOnce_scheme (by simp [text]), Option.getD_some]
  dsimp only
  rw [if_neg (by decide), if_neg (by decide), if_neg (by decide), if_pos rfl]
  exact Except.map_eq_ok_iff

theorem parseAnyUpstream_doh {scheme : Text} (hscheme : IsDohScheme scheme) (opts : Options W)
    (rest : Text) (u : Upstream W) :
    parseAnyUpstream env opts (scheme ++ (text "://" ++ rest)) = .ok u ↔
      ∃ d, parseUpstream env (scheme ++ (text "://" ++ rest)) opts = .ok d ∧ .doh d = u := by
  unfold parseAnyUpstream
  rw [splitOnce_scheme hscheme.notMem, Option.getD_some]
  dsimp only
  rcases hscheme with rfl | rfl
  all_goals
    rw [if_neg (by decide), if_neg (by decide), if_neg (by decide), if_neg (by decide),
      if_neg (by decide)]
    exact Except.map_eq_ok_iff

/-- `udp://` で読めるのは、path が無く、IPv6 なら port のあるものである。 -/
theorem reachesAddr_udp_iff (laws : env.std.ReadsLiterals) (hip : env.parseIp host = some ip)
    {port : Option UInt16} {path : Text} (hpath : IsUriPath path) :
    ReachesAddr env codec suite net (literalUrl .udp ip host port path)
        { ip, port := port.getD 53 } ↔
      path = [] ∧ (ip.isIpv4 = true ∨ port.isSome = true) := by
  have hparse : ∀ opts u, parseAnyUpstream env opts (literalUrl .udp ip host port path) = .ok u ↔
      ∃ addr, parseUdpAddr env (literalAuthority ip host port ++ path) = some addr ∧
        u = .plainUdp { addr, timeout := opts.timeout } := fun opts u =>
    parseAnyUpstream_udp opts (literalAuthority ip host port ++ path) u
  constructor
  · intro h
    obtain ⟨u, hu, -⟩ := h {}
    obtain ⟨addr, haddr, -⟩ := (hparse {} u).mp hu
    rcases hpath.eq_nil_or with rfl | ⟨rest, rfl⟩
    · refine ⟨rfl, ?_⟩
      rw [List.append_nil] at haddr
      cases ip with
      | v4 octets => exact Or.inl rfl
      | v6 hi lo =>
        cases port with
        | some port => exact Or.inr rfl
        | none =>
          rw [parseUdpAddr_v6 laws] at haddr
          cases haddr
    · rw [parseUdpAddr_slash laws (by simp)] at haddr
      cases haddr
  · rintro ⟨rfl, hport⟩ opts
    have haddr : parseUdpAddr env (literalAuthority ip host port ++ [])
        = some { ip, port := port.getD 53 } := by
      rw [List.append_nil]
      cases port with
      | some port => exact parseUdpAddr_port laws hip port
      | none =>
        cases ip with
        | v4 octets => exact parseUdpAddr_v4 laws hip
        | v6 hi lo =>
          rcases hport with h | h
          · cases h
          · cases h
    refine ⟨_, (hparse opts _).mpr ⟨_, haddr, rfl⟩, rfl, ?_⟩
    exact Upstream.exchangeWith_withResolver fun _ h => nomatch h

/--
`split_host_port` で読む scheme で読めるのは、path の無いものである。

`make` は読んだ host と port から上流を作る関数である。
-/
theorem reachesAddr_stream_iff [Inhabited W] (hstd : net.std = env.std)
    (laws : env.std.ReadsLiterals) (hip : env.parseIp host = some ip) {port : Option UInt16}
    {path : Text} (hpath : IsUriPath path) {scheme : LiteralScheme}
    {make : Options W → Text × Option UInt16 → Upstream W}
    (hparse : ∀ opts rest u, parseAnyUpstream env opts (scheme.name ++ (text "://" ++ rest)) = .ok u ↔
      ∃ r, splitHostPort env rest = .ok r ∧ make opts r = u)
    (hhost : ∀ opts r, (make opts r).host? = some (String.ofList r.1))
    (haddrs : ∀ opts r, (make opts r).dialAddrs net
      = resolveAddrs net (String.ofList r.1) (r.2.getD scheme.defaultPort) opts.timeout
          (opts.bootstrap.getD env.systemResolver) opts.preferIpv6) :
    ReachesAddr env codec suite net (literalUrl scheme ip host port path)
        { ip, port := port.getD scheme.defaultPort } ↔ path = [] := by
  constructor
  · intro h
    obtain ⟨u, hu, hdials⟩ := h { bootstrap := some Resolver.failing }
    obtain ⟨r, hr, rfl⟩ := (hparse _ _ u).mp hu
    rcases hpath.eq_nil_or with rfl | ⟨rest, rfl⟩
    · rfl
    · -- path は host の綴りに混ざり、IP ではなくなる
      have hslash := splitHostPort_path laws hip port hr
      have hlit := resolveAddrs_failing ((haddrs _ r).symm.trans hdials.addrs)
      rw [hstd, laws.parseIp_eq_none hslash (by decide)] at hlit
      cases hlit.1
  · rintro rfl opts
    have hr : splitHostPort env (literalAuthority ip host port ++ []) = .ok (host, port) := by
      rw [List.append_nil, splitHostPort_literal laws hip]
    refine ⟨_, (hparse opts _ _).mpr ⟨_, hr, rfl⟩, ?_⟩
    refine dials_of_literal (hhost opts _) (haddrs opts _) ?_
    rw [hstd]
    exact hip

/-! ## `https://` と `h3://` -/

/-- `Uri` が `https://` の後を読み、host が `ip` の綴り、port が `port` になる。 -/
def NamesAddr (env : UrlEnv W) (rest : Text) (ip : IpAddr) (port : UInt16) : Prop :=
  ∃ uri host, env.parseUri (text "https://" ++ rest) = .ok uri ∧ uri.host = some host ∧
    env.parseIp host = some ip ∧ uri.portU16.getD 443 = port

/-- `url` を `--bootstrap` に書ける。 -/
def BootstrapAccepts (env : UrlEnv W) (url : Text) : Prop :=
  ∀ opts, ∃ r, parseBootstrap env url opts = .ok r

/-- 切り出した綴りが宛先を指すとき、かつそのときに限り、その宛先に繋がる。 -/
theorem reachesAddr_doh_iff [Inhabited W] (hstd : net.std = env.std) {scheme rest rest' : Text}
    {auth : Option (Text × Text)} {port : UInt16} (hscheme : IsDohScheme scheme)
    (hextract : extractUserinfo (scheme ++ (text "://" ++ rest))
      = .ok (auth, scheme ++ (text "://" ++ rest'))) :
    ReachesAddr env codec suite net (scheme ++ (text "://" ++ rest)) { ip, port } ↔
      NamesAddr env rest' ip port := by
  have hparse : ∀ opts u, parseAnyUpstream env opts (scheme ++ (text "://" ++ rest)) = .ok u ↔
      ∃ uri host, env.parseUri (text "https://" ++ rest') = .ok uri ∧ uri.host = some host ∧
        u = .doh (dohUpstreamAt env opts scheme auth uri host) := by
    intro opts u
    rw [parseAnyUpstream_doh hscheme]
    constructor
    · rintro ⟨d, hd, rfl⟩
      obtain ⟨uri, host, huri, hhost, rfl⟩ :=
        (parseUpstream_eq_ok hscheme (splitOnce_scheme hscheme.notMem rest) hextract).mp hd
      exact ⟨uri, host, huri, hhost, rfl⟩
    · rintro ⟨uri, host, huri, hhost, rfl⟩
      exact ⟨_, (parseUpstream_eq_ok hscheme (splitOnce_scheme hscheme.notMem rest) hextract).mpr
        ⟨uri, host, huri, hhost, rfl⟩, rfl⟩
  constructor
  · intro h
    obtain ⟨u, hu, hdials⟩ := h { bootstrap := some Resolver.failing }
    obtain ⟨uri, host, huri, hhost, rfl⟩ := (hparse _ u).mp hu
    obtain ⟨hip, hport⟩ := resolveAddrs_failing hdials.addrs
    rw [hstd] at hip
    exact ⟨uri, host, huri, hhost, hip, hport⟩
  · rintro ⟨uri, host, huri, hhost, hip, rfl⟩ opts
    refine ⟨_, (hparse opts _).mpr ⟨uri, host, huri, hhost, rfl⟩, ?_⟩
    refine dials_of_literal rfl rfl ?_
    rw [hstd]
    exact hip

/-- 宛先を指す綴りは、`--bootstrap` にも書ける。 -/
theorem bootstrapAccepts_of_names {scheme rest rest' : Text} {auth : Option (Text × Text)}
    {port : UInt16} (hscheme : IsDohScheme scheme)
    (hextract : extractUserinfo (scheme ++ (text "://" ++ rest))
      = .ok (auth, scheme ++ (text "://" ++ rest')))
    (h : NamesAddr env rest' ip port) :
    BootstrapAccepts env (scheme ++ (text "://" ++ rest)) := by
  obtain ⟨uri, host, huri, hhost, hip, -⟩ := h
  intro opts
  have hsplit := splitOnce_scheme hscheme.notMem rest
  have hdoh : parseUpstream env (scheme ++ (text "://" ++ rest)) opts
      = .ok (dohUpstreamAt env opts scheme auth uri host) :=
    (parseUpstream_eq_ok hscheme hsplit hextract).mpr ⟨uri, host, huri, hhost, rfl⟩
  have hliteral : env.std.parseIp (dohUpstreamAt env opts scheme auth uri host).host = some ip := hip
  refine ⟨.doh (dohUpstreamAt env opts scheme auth uri host), ?_⟩
  unfold parseBootstrap
  simp only [hsplit, Option.isSome_some, if_true, hdoh, bind, Except.bind, hliteral]

/-- `Uri` が読んだ host は、IPv4 のときだけ IP の綴りである。 -/
theorem namesAddr_literal_iff (laws : env.std.ReadsLiterals) (uris : env.ReadsUris)
    (hip : env.parseIp host = some ip) {port : Option UInt16} {path : Text}
    (hpath : IsUriPath path) :
    NamesAddr env (literalAuthority ip host port ++ path) ip (port.getD 443) ↔
      ip.isIpv4 = true ∧
        (text "https://" ++ (literalAuthority ip host port ++ path)).length ≤ 65534 := by
  constructor
  · rintro ⟨uri, h, huri, hhost, hliteral, -⟩
    have hlen : (text "https://" ++ (literalAuthority ip host port ++ path)).length ≤ 65534 := by
      by_contra hlong
      obtain ⟨e, he⟩ := uris.tooLong _ (Nat.lt_of_not_le hlong)
      rw [huri] at he
      cases he
    refine ⟨?_, hlen⟩
    obtain ⟨uri', huri', hhost', -⟩ := uris.literal ip host port path hip hpath hlen
    obtain rfl : uri = uri' := Except.ok.inj (huri.symm.trans huri')
    obtain rfl : h = bracketed ip host := Option.some.inj (hhost.symm.trans hhost')
    cases ip with
    | v4 octets => rfl
    | v6 hi lo =>
      have hbracket : '[' ∈ bracketed (.v6 hi lo) host := by simp [bracketed, IpAddr.isIpv4]
      have hnone : env.parseIp (bracketed (.v6 hi lo) host) = none :=
        laws.parseIp_eq_none hbracket (by decide)
      rw [hnone] at hliteral
      cases hliteral
  · rintro ⟨hv4, hlen⟩
    obtain ⟨uri, huri, hhost, hport⟩ := uris.literal ip host port path hip hpath hlen
    have hhost' : uri.host = some host := by rw [hhost, bracketed, if_pos hv4]
    exact ⟨uri, host, huri, hhost', hip, by rw [hport]⟩

/-- `https://` と `h3://` で、path に `@` のある綴りが読めること。authority ごと資格と見なされる。 -/
def AtReadable (env : UrlEnv W) (ip : IpAddr) (host : Text) (port : Option UInt16)
    (path : Text) : Prop :=
  ∃ before after, path = before ++ '@' :: after ∧ '@' ∉ after ∧
    ':' ∈ literalAuthority ip host port ++ before ∧ NamesAddr env after ip (port.getD 443)

/-- path に `@` が無ければ、host の綴りがそのまま `Uri` に渡る。 -/
theorem doh_noAt_iff [Inhabited W] (hstd : net.std = env.std) (laws : env.std.ReadsLiterals)
    (uris : env.ReadsUris) (hip : env.parseIp host = some ip) {port : Option UInt16} {path : Text}
    (hpath : IsUriPath path) {scheme : Text} (hscheme : IsDohScheme scheme) (hat : '@' ∉ path) :
    (ReachesAddr env codec suite net
        (scheme ++ (text "://" ++ (literalAuthority ip host port ++ path)))
        { ip, port := port.getD 443 } ∧
      BootstrapAccepts env (scheme ++ (text "://" ++ (literalAuthority ip host port ++ path)))) ↔
      ip.isIpv4 = true ∧
        (text "https://" ++ (literalAuthority ip host port ++ path)).length ≤ 65534 := by
  have hauthority : '@' ∉ literalAuthority ip host port :=
    notMem_authority laws hip port (by decide) (by decide) (by decide)
  have hextract := extractUserinfo_plain hscheme.notMem hauthority hat
  rw [← namesAddr_literal_iff laws uris hip hpath, ← reachesAddr_doh_iff hstd hscheme hextract]
  refine and_iff_left_of_imp fun h => ?_
  exact bootstrapAccepts_of_names hscheme hextract ((reachesAddr_doh_iff hstd hscheme hextract).mp h)

/-- path に `@` があれば、最後の `@` の後だけが `Uri` に渡る。 -/
theorem doh_at_iff [Inhabited W] (hstd : net.std = env.std) {port : Option UInt16} {path : Text}
    {scheme : Text} (hscheme : IsDohScheme scheme) (hat : '@' ∈ path) :
    (ReachesAddr env codec suite net
        (scheme ++ (text "://" ++ (literalAuthority ip host port ++ path)))
        { ip, port := port.getD 443 } ∧
      BootstrapAccepts env (scheme ++ (text "://" ++ (literalAuthority ip host port ++ path)))) ↔
      AtReadable env ip host port path := by
  have hurl : ∀ before after : Text, literalAuthority ip host port ++ (before ++ '@' :: after)
      = (literalAuthority ip host port ++ before) ++ '@' :: after := fun before after =>
    (List.append_assoc _ _ _).symm
  constructor
  · rintro ⟨hreach, -⟩
    obtain ⟨before, after, rfl, hafter⟩ := Text.exists_last_split hat
    rw [hurl] at hreach
    rcases Text.splitOnce_char ':' (literalAuthority ip host port ++ before) with
      ⟨user, pass, hsplit, hparts, -⟩ | ⟨hsplit, -⟩
    · have hextract := extractUserinfo_last hscheme.notMem hafter hsplit
      rw [List.append_assoc scheme] at hextract
      refine ⟨before, after, rfl, hafter, ?_, (reachesAddr_doh_iff hstd hscheme hextract).mp hreach⟩
      rw [hparts]
      simp
    · -- 資格の形をしていないので読めない
      obtain ⟨u, hu, -⟩ := hreach {}
      obtain ⟨d, hd, -⟩ := (parseAnyUpstream_doh hscheme _ _ u).mp hu
      exact absurd hd (parseUpstream_of_extract_error (splitOnce_scheme hscheme.notMem _)
        (extractUserinfo_noColon hscheme.notMem hafter hsplit) d)
  · rintro ⟨before, after, rfl, hafter, hcolon, hnames⟩
    rw [hurl]
    rcases Text.splitOnce_char ':' (literalAuthority ip host port ++ before) with
      ⟨user, pass, hsplit, -⟩ | ⟨-, hno⟩
    · have hextract := extractUserinfo_last hscheme.notMem hafter hsplit
      rw [List.append_assoc scheme] at hextract
      exact ⟨(reachesAddr_doh_iff hstd hscheme hextract).mpr hnames,
        bootstrapAccepts_of_names hscheme hextract hnames⟩
    · exact absurd hcolon hno

/-! ## 主定理 -/

/-- IP で書いた上流が読めて、その宛先に名前を引かずに繋がる。DoH なら `--bootstrap` にも書ける。 -/
def AcceptsLiteral (env : UrlEnv W) (codec : Codec) (suite : CryptoSuite) (net : Net W)
    (scheme : LiteralScheme) (ip : IpAddr) (host : Text) (port : Option UInt16) (path : Text) :
    Prop :=
  ReachesAddr env codec suite net (literalUrl scheme ip host port path)
      { ip, port := port.getD scheme.defaultPort } ∧
    (scheme = .https ∨ scheme = .h3 →
      BootstrapAccepts env (literalUrl scheme ip host port path))

/-- IP で書いた上流が、綴りのとおりに読める条件。 -/
def LiteralReadable (env : UrlEnv W) (ip : IpAddr) (host : Text) (port : Option UInt16)
    (path : Text) : LiteralScheme → Prop
  | .udp => path = [] ∧ (ip.isIpv4 = true ∨ port.isSome = true)
  | .tcp => path = []
  | .tls => path = []
  | .quic => path = []
  | .https | .h3 =>
    ('@' ∉ path ∧ ip.isIpv4 = true ∧
      (text "https://" ++ (literalAuthority ip host port ++ path)).length ≤ 65534) ∨
    AtReadable env ip host port path

theorem acceptsLiteral_of_not_doh {scheme : LiteralScheme} (hhttps : scheme ≠ .https)
    (hh3 : scheme ≠ .h3) {port : Option UInt16} {path : Text} :
    AcceptsLiteral env codec suite net scheme ip host port path ↔
      ReachesAddr env codec suite net (literalUrl scheme ip host port path)
        { ip, port := port.getD scheme.defaultPort } := by
  refine and_iff_left_of_imp fun _ hscheme => ?_
  rcases hscheme with h | h
  · exact absurd h hhttps
  · exact absurd h hh3

theorem acceptsLiteral_of_doh {scheme : LiteralScheme} (hscheme : scheme = .https ∨ scheme = .h3)
    {port : Option UInt16} {path : Text} :
    AcceptsLiteral env codec suite net scheme ip host port path ↔
      ReachesAddr env codec suite net (literalUrl scheme ip host port path)
          { ip, port := port.getD scheme.defaultPort } ∧
        BootstrapAccepts env (literalUrl scheme ip host port path) :=
  and_congr_right fun _ => forall_prop_of_true hscheme

/-- `https://` と `h3://` の場合。 -/
theorem doh_literal_iff [Inhabited W] (hstd : net.std = env.std) (laws : env.std.ReadsLiterals)
    (uris : env.ReadsUris) (hip : env.parseIp host = some ip) {port : Option UInt16} {path : Text}
    (hpath : IsUriPath path) {scheme : Text} (hscheme : IsDohScheme scheme) :
    (ReachesAddr env codec suite net
        (scheme ++ (text "://" ++ (literalAuthority ip host port ++ path)))
        { ip, port := port.getD 443 } ∧
      BootstrapAccepts env (scheme ++ (text "://" ++ (literalAuthority ip host port ++ path)))) ↔
      ('@' ∉ path ∧ ip.isIpv4 = true ∧
        (text "https://" ++ (literalAuthority ip host port ++ path)).length ≤ 65534) ∨
      AtReadable env ip host port path := by
  by_cases hat : '@' ∈ path
  · rw [doh_at_iff hstd hscheme hat]
    simp [hat]
  · have hno : ¬ AtReadable env ip host port path := by
      rintro ⟨before, after, rfl, -⟩
      exact hat (by simp)
    rw [doh_noAt_iff hstd laws uris hip hpath hscheme hat]
    simp [hat, hno]

/--
**IP で書いた上流が、綴りのとおりの宛先に名前を引かずに繋がるのは、次のとき、かつそのときに限る。**

* `udp://` なら、path が無く、IPv6 には port が付いている
* `tcp://`・`tls://`・`quic://` なら、path が無い
* `https://`・`h3://` なら、IPv4 で path に `@` が無い（`@` があれば、その後が同じ宛先を指す）
-/
theorem literal_upstream_iff [Inhabited W] (hstd : net.std = env.std)
    (laws : env.std.ReadsLiterals) (uris : env.ReadsUris) (hip : env.parseIp host = some ip)
    {path : Text} (hpath : IsUriPath path) (port : Option UInt16) (scheme : LiteralScheme) :
    AcceptsLiteral env codec suite net scheme ip host port path ↔
      LiteralReadable env ip host port path scheme := by
  cases scheme with
  | udp =>
    rw [acceptsLiteral_of_not_doh (by decide) (by decide)]
    exact reachesAddr_udp_iff laws hip hpath
  | tcp =>
    rw [acceptsLiteral_of_not_doh (by decide) (by decide)]
    exact reachesAddr_stream_iff hstd laws hip hpath parseAnyUpstream_tcp (fun _ _ => rfl)
      (fun _ _ => rfl)
  | tls =>
    rw [acceptsLiteral_of_not_doh (by decide) (by decide)]
    exact reachesAddr_stream_iff hstd laws hip hpath parseAnyUpstream_tls (fun _ _ => rfl)
      (fun _ _ => rfl)
  | quic =>
    rw [acceptsLiteral_of_not_doh (by decide) (by decide)]
    exact reachesAddr_stream_iff hstd laws hip hpath parseAnyUpstream_quic (fun _ _ => rfl)
      (fun _ _ => rfl)
  | https =>
    rw [acceptsLiteral_of_doh (Or.inl rfl)]
    exact doh_literal_iff hstd laws uris hip hpath (Or.inl rfl)
  | h3 =>
    rw [acceptsLiteral_of_doh (Or.inr rfl)]
    exact doh_literal_iff hstd laws uris hip hpath (Or.inr rfl)

end

/-! ## loopback だけを読む環境 -/

def readLoopback (s : Text) : Option IpAddr :=
  if s = text "127.0.0.1" then some (.v4 0x7F000001)
  else if s = text "::1" then some (.v6 0 1)
  else none

def readLoopbackHost (s : Text) : Option IpAddr :=
  if s = text "127.0.0.1" then some (.v4 0x7F000001)
  else if s = text "[::1]" then some (.v6 0 1)
  else none

/-- host の後の、十進の port。 -/
def loopbackPort (s : Text) : Option (Text × Text) :=
  (Text.rsplitOnce ':' s).filter fun r => (readLoopbackHost r.1).isSome && r.2.all Char.isDigit

def readLoopbackSocket (s : Text) : Option SocketAddr := do
  let r ← loopbackPort s
  let ip ← readLoopbackHost r.1
  let port ← Text.parseU16 r.2
  some { ip, port }

/-- authority の host と port。 -/
def readLoopbackAuthority (s : Text) : Option (Text × Option UInt16) :=
  match loopbackPort s with
  | some r => (Text.parseU16 r.2).map fun port => (r.1, some port)
  | none => (readLoopbackHost s).map fun _ => (s, none)

def loopbackStd : StdText :=
  { StdText.none with
    parseIp := fun s => readLoopback s.toList
    parseSocketAddr := fun s => readLoopbackSocket s.toList }

/-- host が loopback である `https://` の綴りだけを読む。 -/
def readLoopbackUri (url : Text) : Except Text Uri :=
  if 65534 < url.length then .error (text "uri too long")
  else
    match (text "https://").isPrefixOf? url with
    | none => .error (text "invalid format")
    | some rest =>
      let path := rest.dropWhile (· != '/')
      match readLoopbackAuthority (rest.takeWhile (· != '/')) with
      | none => .error (text "invalid authority")
      | some r =>
        .ok { host := some r.1, path := if path.isEmpty then ['/'] else path, portU16 := r.2 }

def loopbackUrls : UrlEnv Unit := UrlEnv.fixed loopbackStd readLoopbackUri

theorem readLoopback_eq {s : Text} {ip : IpAddr} (h : readLoopback s = some ip) :
    (s = text "127.0.0.1" ∧ ip = .v4 0x7F000001) ∨ (s = text "::1" ∧ ip = .v6 0 1) := by
  unfold readLoopback at h
  split at h
  · next hs => exact Or.inl ⟨hs, (Option.some.inj h).symm⟩
  · split at h
    · next hs => exact Or.inr ⟨hs, (Option.some.inj h).symm⟩
    · cases h

/-- IP の綴りは、`[..]` を付ければ host として読める。 -/
theorem readLoopbackHost_bracketed {s : Text} {ip : IpAddr} (h : readLoopback s = some ip) :
    readLoopbackHost (bracketed ip s) = some ip := by
  rcases readLoopback_eq h with ⟨rfl, rfl⟩ | ⟨rfl, rfl⟩
  · rfl
  · rfl

theorem loopbackPort_append {host : Text} {ip : IpAddr} (h : readLoopbackHost host = some ip)
    (port : UInt16) :
    loopbackPort (host ++ ':' :: Nat.toDigits 10 port.toNat)
      = some (host, Nat.toDigits 10 port.toNat) := by
  have hcolon : ':' ∉ Nat.toDigits 10 port.toNat := fun hmem =>
    absurd (Text.isDigit_of_mem_toDigits hmem) (by decide)
  have hdigits : (Nat.toDigits 10 port.toNat).all Char.isDigit = true :=
    List.all_eq_true.mpr fun c hc => Text.isDigit_of_mem_toDigits hc
  unfold loopbackPort
  rw [Text.rsplitOnce_append hcolon]
  simp [Option.filter, h, hdigits]

/-- port を付けた綴りは、`SocketAddr` として読める。 -/
theorem readLoopbackSocket_append {host : Text} {ip : IpAddr}
    (h : readLoopbackHost host = some ip) (port : UInt16) :
    readLoopbackSocket (host ++ ':' :: Nat.toDigits 10 port.toNat) = some { ip, port } := by
  unfold readLoopbackSocket
  simp [loopbackPort_append h, h, Text.parseU16_toDigits]

theorem readLoopbackAuthority_literal {host : Text} {ip : IpAddr} (h : readLoopback host = some ip)
    (port : Option UInt16) :
    readLoopbackAuthority (literalAuthority ip host port) = some (bracketed ip host, port) := by
  cases port with
  | none =>
    rcases readLoopback_eq h with ⟨rfl, rfl⟩ | ⟨rfl, rfl⟩
    · decide
    · decide
  | some port =>
    show readLoopbackAuthority (bracketed ip host ++ ':' :: Nat.toDigits 10 port.toNat) = _
    unfold readLoopbackAuthority
    rw [loopbackPort_append (readLoopbackHost_bracketed h)]
    dsimp only
    rw [Text.parseU16_toDigits]
    rfl

theorem loopbackPort_eq {s : Text} {r : Text × Text} (h : loopbackPort s = some r) :
    s = r.1 ++ ':' :: r.2 ∧ '/' ∉ r.1 ∧ ∀ c ∈ r.2, c.isDigit = true := by
  obtain ⟨hsplit, hread⟩ := Option.filter_eq_some_iff.mp h
  rw [Bool.and_eq_true, List.all_eq_true] at hread
  refine ⟨Text.eq_of_rsplitOnce hsplit, ?_, hread.2⟩
  have hhost := hread.1
  unfold readLoopbackHost at hhost
  split at hhost
  · next hs =>
    rw [hs]
    decide
  · split at hhost
    · next hs =>
      rw [hs]
      decide
    · cases hhost

theorem loopbackStd_readsLiterals : loopbackStd.ReadsLiterals where
  v4_chars := by
    intro s octets h
    rcases readLoopback_eq (by simpa [loopbackStd] using h) with ⟨rfl, -⟩ | ⟨-, hip⟩
    · simp [text]
    · cases hip
  v6_chars := by
    intro s hi lo h
    rcases readLoopback_eq (by simpa [loopbackStd] using h) with ⟨-, hip⟩ | ⟨rfl, -⟩
    · cases hip
    · exact List.all_eq_true.mp (by decide)
  socket_v4 := by
    intro s octets port h
    have hread : readLoopback s = some (.v4 octets) := by simpa [loopbackStd] using h
    have hsocket := readLoopbackSocket_append (readLoopbackHost_bracketed hread) port
    simpa [loopbackStd, bracketed, IpAddr.isIpv4] using hsocket
  socket_v6 := by
    intro s hi lo port h
    have hread : readLoopback s = some (.v6 hi lo) := by simpa [loopbackStd] using h
    have hsocket := readLoopbackSocket_append (readLoopbackHost_bracketed hread) port
    simpa [loopbackStd, bracketed, IpAddr.isIpv4] using hsocket
  socket_shape := by
    intro s addr h
    have hread : readLoopbackSocket s = some addr := by simpa [loopbackStd] using h
    unfold readLoopbackSocket at hread
    obtain ⟨r, hr, hread⟩ := Option.bind_eq_some_iff.mp hread
    obtain ⟨ip, -, hread⟩ := Option.bind_eq_some_iff.mp hread
    obtain ⟨port, hport, -⟩ := Option.bind_eq_some_iff.mp hread
    obtain ⟨hs, hslash, hdigits⟩ := loopbackPort_eq hr
    have hslash' : '/' ∉ r.2 := fun hc => absurd (hdigits '/' hc) (by decide)
    refine ⟨?_, r.1, r.2, hs, ?_, hdigits⟩
    · rw [hs]
      simp [hslash, hslash']
    · intro hnil
      rw [hnil] at hport
      cases hport

/-- authority に `/` は無く、path は `/` で始まるので、`/` の前が authority である。 -/
theorem takeWhile_authority {authority path : Text} (hauthority : '/' ∉ authority)
    (hpath : IsUriPath path) : (authority ++ path).takeWhile (· != '/') = authority := by
  have hall : ∀ c ∈ authority, (c != '/') = true := by
    intro c hc
    simp only [bne_iff_ne]
    rintro rfl
    exact hauthority hc
  rw [List.takeWhile_append_of_pos hall]
  rcases hpath.eq_nil_or with rfl | ⟨rest, rfl⟩
  · simp
  · simp

theorem loopbackUrls_readsUris : loopbackUrls.ReadsUris where
  literal := by
    intro ip host port path hip hpath hlen
    have hread : readLoopback host = some ip := by
      simpa [loopbackUrls, UrlEnv.fixed, UrlEnv.parseIp, loopbackStd] using hip
    have hslash : '/' ∉ literalAuthority ip host port :=
      notMem_authority loopbackStd_readsLiterals hip port (by decide) (by decide) (by decide)
    have hstrip : (text "https://").isPrefixOf?
        (text "https://" ++ (literalAuthority ip host port ++ path))
          = some (literalAuthority ip host port ++ path) :=
      List.isPrefixOf?_eq_some_iff_append_eq.mpr rfl
    let rest := (literalAuthority ip host port ++ path).dropWhile (· != '/')
    refine ⟨{ host := some (bracketed ip host), path := if rest.isEmpty then ['/'] else rest,
              portU16 := port }, ?_, rfl, rfl⟩
    show readLoopbackUri _ = _
    unfold readLoopbackUri
    rw [if_neg (Nat.not_lt.mpr hlen), hstrip]
    dsimp only
    rw [takeWhile_authority hslash hpath, readLoopbackAuthority_literal hread]
  tooLong := by
    intro url hlong
    exact ⟨_, if_pos hlong⟩

/-- `h3://127.0.0.1:8443/dns-query` は、その宛先に繋がる。`udp://[::1]:5353` もそうである。 -/
theorem literal_upstream_loopback :
    AcceptsLiteral loopbackUrls forgedCodec CryptoSuite.trivial (Net.unreachable loopbackStd)
        .h3 (.v4 0x7F000001) (text "127.0.0.1") (some 8443) (text "/dns-query") ∧
      AcceptsLiteral loopbackUrls forgedCodec CryptoSuite.trivial
        (Net.unreachable loopbackStd) .udp (.v6 0 1) (text "::1") (some 5353) [] := by
  have hquery : IsUriPath (text "/dns-query") :=
    Or.inr ⟨text "dns-query", rfl, List.all_eq_true.mp (by decide)⟩
  constructor
  · refine (literal_upstream_iff rfl loopbackStd_readsLiterals loopbackUrls_readsUris (by decide)
      hquery (some 8443) .h3).mpr (Or.inl ⟨by decide, rfl, by decide⟩)
  · exact (literal_upstream_iff rfl loopbackStd_readsLiterals loopbackUrls_readsUris (by decide)
      (Or.inl rfl) (some 5353) .udp).mpr ⟨rfl, Or.inr rfl⟩

/-- `https://[::1]/dns-query` の host は名前と見なされる。 -/
theorem literal_upstream_bracketed_host :
    literalUrl .https (.v6 0 1) (text "::1") none (text "/dns-query")
        = text "https://[::1]/dns-query" ∧
      parseBootstrap loopbackUrls (text "https://[::1]/dns-query") {}
        = .error (text "bootstrap \"https://[::1]/dns-query\" must use a literal IP host, "
          ++ text "not a hostname") ∧
      ¬ AcceptsLiteral loopbackUrls forgedCodec CryptoSuite.trivial
        (Net.unreachable loopbackStd) .https (.v6 0 1) (text "::1") none (text "/dns-query") := by
  have hquery : IsUriPath (text "/dns-query") :=
    Or.inr ⟨text "dns-query", rfl, List.all_eq_true.mp (by decide)⟩
  refine ⟨by decide, ?_, ?_⟩
  · rfl
  · intro h
    have hdoh := (doh_noAt_iff rfl loopbackStd_readsLiterals loopbackUrls_readsUris (by decide)
      hquery (Or.inl rfl) (by decide)).mp ((acceptsLiteral_of_doh (Or.inl rfl)).mp h)
    cases hdoh.1

end DnsProxy
