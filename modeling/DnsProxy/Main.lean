import DnsProxy.Cache
import DnsProxy.Client.DnsCrypt.Config
import DnsProxy.Client.Resolvers
import DnsProxy.Client.UpstreamConfig
import DnsProxy.Client.UpstreamUrl
import DnsProxy.Listener.DnsCrypt

/-!
# 起動時の設定（`main.rs`）

引数から規則の行を集めるところと、`--bootstrap` と cache の設定を読むところ、DNSCrypt の listener の
設定を作るところを書く。`--private-upstream` は、私用の宛先の逆引き zone をすべて挙げた一行になり、
`--upstream` と `--upstream-file` の行の前に置かれる。
-/

namespace DnsProxy

open Infra

/-- `PRIVATE_REVERSE_ZONES`。 -/
def privateReverseZones : List Text := [
    -- RFC 1918 IPv4 private-use ranges.
    text "10.in-addr.arpa",
    text "16.172.in-addr.arpa",
    text "17.172.in-addr.arpa",
    text "18.172.in-addr.arpa",
    text "19.172.in-addr.arpa",
    text "20.172.in-addr.arpa",
    text "21.172.in-addr.arpa",
    text "22.172.in-addr.arpa",
    text "23.172.in-addr.arpa",
    text "24.172.in-addr.arpa",
    text "25.172.in-addr.arpa",
    text "26.172.in-addr.arpa",
    text "27.172.in-addr.arpa",
    text "28.172.in-addr.arpa",
    text "29.172.in-addr.arpa",
    text "30.172.in-addr.arpa",
    text "31.172.in-addr.arpa",
    text "168.192.in-addr.arpa",
    -- RFC 6303 special-use ranges.
    text "127.in-addr.arpa",
    text "254.169.in-addr.arpa",
    text "c.f.ip6.arpa",
    text "d.f.ip6.arpa",
    text "8.e.f.ip6.arpa",
    text "9.e.f.ip6.arpa",
    text "a.e.f.ip6.arpa",
    text "b.e.f.ip6.arpa",
    text "0.0.0.0.0.0.0.0.0.0.0.0.0.0.0.0.0.0.0.0.0.0.0.0.0.0.0.0.0.0.0.ip6.arpa"]

/-- `private_upstream_line`。 -/
def privateUpstreamLine (upstream : Text) : Text :=
  text "[/" ++ ['/'].intercalate privateReverseZones ++ text "/]" ++ upstream

/--
`main` が `parse_with_mode` に渡す行。

`upstreamArgText` は `--upstream` の値（file の名前ならその中身）、`upstreamFileText` は
`--upstream-file` の中身である。
-/
def ruleLines (privateUpstream : Option Text) (upstreamArgText : List Text)
    (upstreamFileText : Option Text) : List Text :=
  privateUpstream.toList.map privateUpstreamLine ++ upstreamArgText.flatMap Text.lines
    ++ upstreamFileText.toList.flatMap Text.lines

/-! ## `--bootstrap` -/

section

variable {W : Type} (env : UrlEnv W)

/-- `parse_bootstrap`。`s.contains("://")` は、`://` で分けられることである。 -/
def parseBootstrap (s : Text) (dohOpts : Options W) : Except Text (BootstrapResolver W) :=
  if (Text.splitOnce (text "://") s).isSome then do
    let upstream ← parseUpstream env s dohOpts
    match env.std.parseIp upstream.host with
    | none =>
      .error (text "bootstrap " ++ env.debug s
        ++ text " must use a literal IP host, not a hostname")
    | some _ => .ok (.doh upstream)
  else
    match env.parseSocketAddr s with
    | some addr => .ok (.plain { addr, timeout := dohOpts.timeout })
    | none =>
      match env.parseIp s with
      | some ip => .ok (.plain { addr := { ip, port := 53 }, timeout := dohOpts.timeout })
      | none => .error (text "invalid bootstrap address: " ++ s)

/-- `main` の `bootstrap`。一つだけでも `ParallelResolver` に入れる。 -/
def mainBootstrap (args : List Text) (bootstrapOpts : Options W) :
    Except Text (Option (BootstrapResolver W)) :=
  if args.isEmpty then .ok none
  else do
    let resolvers ← args.mapM fun s => parseBootstrap env s bootstrapOpts
    .ok (some (.parallel resolvers))

end

/-! ## `--cache` -/

/-- `main` の `cache_opts`。`--cache` が無ければ cache を置かない。上限の 0 は「上限なし」である。 -/
def mainCacheOpts (cache : Bool) (cacheSize cacheMinTtl cacheMaxTtl : UInt64) :
    Except Text (Option CacheOptions) :=
  if cache then
    if h : 0 < cacheSize.toNat then
      .ok (some
        { size := cacheSize.toNat
          size_pos := h
          minTtl := Duration.fromSecs cacheMinTtl.toNat
          maxTtl :=
            if 0 < cacheMaxTtl.toNat then some (Duration.fromSecs cacheMaxTtl.toNat) else none })
    else .error (text "--cache-size must be nonzero")
  else .ok none

/-! ## `--dnscrypt-listen` -/

/-- `u32::saturating_add`。 -/
def saturatingAdd (a b : UInt32) : UInt32 :=
  UInt32.ofNat (min (a.toNat + b.toNat) (UInt32.size - 1))

/--
`main` の `server_config`。

`file` は `--dnscrypt-config` の file を読んだ結果、`now` は起動した時刻である。証明書の serial は
いつも 1 である。
-/
def mainDnsCryptConfig (suite : CryptoSuite) (unprintable : Char → Bool)
    (base64Error : Text → Text) (path : Text) (file : Except Text Text) (now : UInt32) :
    Except Text DnsCryptServerConfig := do
  let resolverConfig ← ResolverConfig.load unprintable base64Error path file
  .ok (DnsCryptServerConfig.new suite resolverConfig.resolverSecretKey
    resolverConfig.providerSigningKey resolverConfig.providerName mainClientMagic 1 now
    (saturatingAdd now defaultCertTtlSecs))

end DnsProxy
