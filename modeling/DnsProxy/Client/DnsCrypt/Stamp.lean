import DnsProxy.Client.DnsCrypt.Crypto
import DnsProxy.Infra.Base64

/-!
# stamp と鍵（`client/dnscrypt/stamp.rs`・`client/dnscrypt/keygen.rs`）

`sdns://` の後に base64url で次を並べる。

* protocol の種類 `0x01` と、8 byte の性質
* 宛先・provider の公開鍵・provider の名前（それぞれ長さの byte が前に付く）

読む側は長さの byte の最上位 bit を「続きがある」印と見る。書く側はこの印を知らず、
長さを 1 byte に切り詰めて書く。
-/

namespace DnsProxy

open Infra

structure DnsCryptStamp where
  addr : SocketAddr
  providerPublicKey : Block 32
  providerName : String
  deriving DecidableEq

/-! ## 読む側 -/

/--
`read_lp`。`buf[pos..]` を持ち回り、読んだ中身と残りを返す。

一周ごとに残りは短くなるので、`fuel` は長さより多ければ足りる。
-/
def readLp : (fuel : Nat) → Bytes → Except String (Bytes × Bytes)
  | 0, _ => .error "truncated stamp: missing length byte"
  | _ + 1, [] => .error "truncated stamp: missing length byte"
  | fuel + 1, lenByte :: rest =>
    let len := (lenByte &&& 0x7f).toNat
    if rest.length < len then .error "truncated stamp: segment exceeds buffer"
    else if lenByte &&& 0x80 = 0 then .ok (rest.take len, rest.drop len)
    else do
      let (more, rest') ← readLp fuel (rest.drop len)
      .ok (rest.take len ++ more, rest')

/--
`read_lp` の loop を、source のとおり `buf` と `pos` と `out` で書いたもの。

`fuel` 周で終わらなければ `none` である。`pos + len` は溢れない（`len` は 127 以下で、slice の
長さは `isize::MAX` 以下である）。
-/
def readLpLoop (buf : Bytes) : (fuel pos : Nat) → (out : Bytes) →
    Option (Except String (Bytes × Nat))
  | 0, _, _ => none
  | fuel + 1, pos, out =>
    match buf[pos]? with
    | none => some (.error "truncated stamp: missing length byte")
    | some lenByte =>
      let pos := pos + 1
      let stop := pos + (lenByte &&& 0x7f).toNat
      -- `buf.get(pos..end)`
      if stop ≤ buf.length then
        let out := out ++ (buf.drop pos).take (stop - pos)
        if lenByte &&& 0x80 = 0 then some (.ok (out, stop)) else readLpLoop buf fuel stop out
      else some (.error "truncated stamp: segment exceeds buffer")

/-- `parse_stamp_addr`。 -/
def parseStampAddr (std : StdText) (s : String) : Option SocketAddr :=
  match std.parseSocketAddr s with
  | some addr => some addr
  | none =>
    match std.parseIp s with
    | some ip => some { ip, port := 443 }
    | none =>
      match s.toList with
      | '[' :: inner =>
        match Text.splitOnce [']'] inner with
        | none => none
        | some (host, rest) =>
          match std.parseIp (String.ofList host) with
          | none => none
          | some ip =>
            match rest with
            | [] => some { ip, port := 443 }
            | ':' :: portStr => (Text.parseU16 portStr).map fun port => { ip, port }
            | _ => none
      | _ => none

/-- `{:#04x}`。 -/
def hexByte (b : UInt8) : String :=
  String.ofList ('0' :: 'x' :: [b.toNat / 16, b.toNat % 16].map Nat.digitChar)

/-- `String::from_utf8(..).map_err(..)`。 -/
def fromUtf8 (std : StdText) (what : String) (b : Bytes) : Except String String :=
  match Utf8.decode b with
  | some s => .ok s
  | none => .error s!"{what}: {std.utf8Error b}"

/-- `parse_dnscrypt_stamp` の、base64 を解いた後。 -/
def parseStampBytes (std : StdText) (stamp : String) (bytes : Bytes) :
    Except String DnsCryptStamp :=
  match bytes with
  | [] => .error s!"stamp {stamp} is empty"
  | proto :: rest =>
    if proto ≠ 0x01 then
      .error s!"stamp {stamp} has unsupported protocol type {hexByte proto}; only DNSCrypt (0x01) is supported"
    else if rest.length < 8 then .error s!"stamp {stamp} is truncated in properties"
    else do
      let fuel := bytes.length
      let (addrBytes, rest) ← readLp fuel (rest.drop 8)
      let addrStr ← fromUtf8 std s!"stamp {stamp} has invalid address" addrBytes
      let (pkBytes, rest) ← readLp fuel rest
      let (nameBytes, _) ← readLp fuel rest
      let providerName ← fromUtf8 std s!"stamp {stamp} has invalid provider name" nameBytes
      match Block.ofBytes? 32 pkBytes with
      | none =>
        .error s!"stamp {stamp} has a {pkBytes.length}-byte provider public key; expected 32"
      | some providerPublicKey =>
        match parseStampAddr std addrStr with
        | none => .error s!"stamp {stamp} has invalid server address {std.debug addrStr}"
        | some addr => .ok { addr, providerPublicKey, providerName }

/-- `parse_dnscrypt_stamp`。 -/
def parseDnscryptStamp (std : StdText) (addr : String) : Except String DnsCryptStamp :=
  let stamp := std.debug addr
  match "sdns://".toList.isPrefixOf? addr.toList with
  | none => .error s!"stamp {stamp} must start with \"sdns://\""
  | some payload =>
    match Base64.decode payload with
    | none => .error s!"invalid stamp {stamp}: {std.base64Error payload}"
    | some bytes => parseStampBytes std stamp bytes

/-! ## 書く側 -/

/-- 長さの byte を前に付ける。`len() as u8` は上の桁を捨てる。 -/
def lengthPrefixed (b : Bytes) : Bytes := UInt8.ofNat b.length :: b

/-- `build_stamp` の byte 列。 -/
def stampBytes (std : StdText) (addr : SocketAddr) (providerPublicKey : Block 32)
    (providerName : String) : Bytes :=
  [0x01] ++ List.replicate 8 0 ++ lengthPrefixed (Utf8.encode (std.toString addr))
    ++ lengthPrefixed providerPublicKey.1 ++ lengthPrefixed (Utf8.encode providerName)

/-- `build_stamp`。 -/
def buildStamp (std : StdText) (addr : SocketAddr) (providerPublicKey : Block 32)
    (providerName : String) : String :=
  String.ofList ("sdns://".toList ++ Base64.encode (stampBytes std addr providerPublicKey providerName))

/-- `DEFAULT_CERT_TTL_SECS`。 -/
def defaultCertTtlSecs : UInt32 := 365 * 24 * 60 * 60

/-- `ResolverConfig`。 -/
structure ResolverConfig where
  providerName : String
  providerSigningKey : Block 32
  resolverSecretKey : Block 32

/-- `ResolverConfig::stamp`。 -/
def ResolverConfig.stamp (suite : CryptoSuite) (std : StdText) (c : ResolverConfig)
    (addr : SocketAddr) : String :=
  buildStamp std addr (suite.verifyingKey c.providerSigningKey) c.providerName

/-! ## 往復 -/

theorem readLp_lengthPrefixed {b rest : Bytes} (fuel : Nat) (h : b.length < 128) :
    readLp (fuel + 1) (lengthPrefixed b ++ rest) = .ok (b, rest) := by
  have hn : ∀ n : Fin 128, (UInt8.ofNat n.1 &&& 0x7f).toNat = n.1 ∧ UInt8.ofNat n.1 &&& 0x80 = 0 := by
    decide
  obtain ⟨hlen, hbit⟩ := hn ⟨b.length, h⟩
  dsimp only at hlen hbit
  unfold lengthPrefixed
  rw [List.cons_append]
  unfold readLp
  dsimp only
  rw [hlen, if_neg (by simp), if_pos hbit, List.take_left, List.drop_left]

/--
宛先の綴りが読み戻せて 128 byte に満たなければ、残るのは名前を読むところだけである。

`fuel` は byte 列の長さで、`readLp` を二周させるには必ず足りる。
-/
theorem parse_buildStamp_name {std : StdText} {addr : SocketAddr} (providerPublicKey : Block 32)
    (providerName : String) (haddr : std.parseSocketAddr (std.toString addr) = some addr)
    (haddrLen : (Utf8.encode (std.toString addr)).length < 128) :
    ∃ fuel what, parseDnscryptStamp std (buildStamp std addr providerPublicKey providerName)
      = (readLp (fuel + 2) (lengthPrefixed (Utf8.encode providerName)) >>= fun p =>
          fromUtf8 std what p.1 >>= fun providerName =>
            .ok ({ addr, providerPublicKey, providerName } : DnsCryptStamp)) := by
  have hpk : providerPublicKey.1.length < 128 := by rw [providerPublicKey.2]; omega
  have htext : (buildStamp std addr providerPublicKey providerName).toList
      = "sdns://".toList ++ Base64.encode (stampBytes std addr providerPublicKey providerName) :=
    String.toList_ofList
  have hbytes : stampBytes std addr providerPublicKey providerName
      = 0x01 :: (List.replicate 8 0 ++ (lengthPrefixed (Utf8.encode (std.toString addr))
        ++ (lengthPrefixed providerPublicKey.1 ++ lengthPrefixed (Utf8.encode providerName)))) := by
    simp [stampBytes, List.append_assoc]
  unfold parseDnscryptStamp
  dsimp only
  rw [List.isPrefixOf?_eq_some_iff_append_eq.mpr htext.symm]
  dsimp only
  rw [Base64.decode_encode]
  dsimp only
  generalize std.debug (buildStamp std addr providerPublicKey providerName) = stamp
  rw [hbytes]
  unfold parseStampBytes
  dsimp only
  rw [if_neg (by simp), if_neg (by simp), List.drop_left' List.length_replicate]
  refine ⟨(List.replicate 7 (0 : UInt8) ++ (lengthPrefixed (Utf8.encode (std.toString addr))
    ++ (lengthPrefixed providerPublicKey.1 ++ lengthPrefixed (Utf8.encode providerName)))).length,
    s!"stamp {stamp} has invalid provider name", ?_⟩
  have hfuel : ∀ rest : Bytes, (0x01 :: (List.replicate 8 0 ++ rest)).length
      = (List.replicate 7 (0 : UInt8) ++ rest).length + 2 := by
    intro rest
    simp only [List.length_cons, List.length_append, List.length_replicate]
    omega
  rw [hfuel]
  simp only [readLp_lengthPrefixed _ haddrLen, readLp_lengthPrefixed _ hpk, fromUtf8,
    Utf8.decode_encode, Block.ofBytes?_self, parseStampAddr, haddr, bind, Except.bind]

/-- **`build_stamp` の逆。** 宛先の綴りが読み戻せ、綴りと名前が 128 byte に満たないとき、
`parse_dnscrypt_stamp` は元の組を返す。 -/
theorem parse_buildStamp {std : StdText} {addr : SocketAddr} (providerPublicKey : Block 32)
    {providerName : String} (haddr : std.parseSocketAddr (std.toString addr) = some addr)
    (haddrLen : (Utf8.encode (std.toString addr)).length < 128)
    (hname : (Utf8.encode providerName).length < 128) :
    parseDnscryptStamp std (buildStamp std addr providerPublicKey providerName)
      = .ok { addr, providerPublicKey, providerName } := by
  obtain ⟨fuel, what, hparse⟩ :=
    parse_buildStamp_name providerPublicKey providerName haddr haddrLen
  have hread : readLp (fuel + 2) (lengthPrefixed (Utf8.encode providerName) ++ [])
      = .ok (Utf8.encode providerName, []) := readLp_lengthPrefixed (fuel + 1) hname
  rw [List.append_nil] at hread
  rw [hparse, hread]
  simp only [fromUtf8, Utf8.decode_encode, bind, Except.bind]

end DnsProxy
