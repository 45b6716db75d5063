import DnsProxy.Client.UpstreamUrl

/-!
# IP で書いた宛先の綴り

host を IP で書いた上流の綴りと、それを読む二つの関数を調べる。`udp://` は `SocketAddr` か `IpAddr`
として読み、port の無い `[..]` はどちらでもない。`split_host_port` は `[..]` を外すが、path は
読めない。IP の綴りは標準 library が、DoH の綴りは `hyper` の `Uri` が読むので、その文書の約束を
仮定に置く（`StdText.ReadsLiterals`・`UrlEnv.ReadsUris`）。
-/

namespace DnsProxy

open Infra

variable {W : Type}

/-! ## 綴り -/

/-- host を IP で書ける scheme。 -/
inductive LiteralScheme where
  | udp
  | tcp
  | tls
  | quic
  | https
  | h3
  deriving DecidableEq

def LiteralScheme.name : LiteralScheme → Text
  | .udp => text "udp"
  | .tcp => text "tcp"
  | .tls => text "tls"
  | .quic => text "quic"
  | .https => text "https"
  | .h3 => text "h3"

/-- port を略したときのもの。 -/
def LiteralScheme.defaultPort : LiteralScheme → UInt16
  | .udp => 53
  | .tcp => 53
  | .tls => 853
  | .quic => 853
  | .https => 443
  | .h3 => 443

/-- 綴りの中の host。IPv6 は `[..]` で囲む。 -/
def bracketed (ip : IpAddr) (host : Text) : Text :=
  if ip.isIpv4 then host else '[' :: (host ++ [']'])

def portSuffix : Option UInt16 → Text
  | none => []
  | some port => ':' :: Nat.toDigits 10 port.toNat

def literalAuthority (ip : IpAddr) (host : Text) (port : Option UInt16) : Text :=
  bracketed ip host ++ portSuffix port

/-- 上流の綴り。 -/
def literalUrl (scheme : LiteralScheme) (ip : IpAddr) (host : Text) (port : Option UInt16)
    (path : Text) : Text :=
  scheme.name ++ (text "://" ++ (literalAuthority ip host port ++ path))

/-- RFC 3986 の `pchar` と `/`。 -/
def isPathChar (c : Char) : Bool := c.isAlphanum || (text "-._~%!$&'()*+,;=:@/").contains c

/-- 空か、`/` で始まる path。 -/
def IsUriPath (path : Text) : Prop :=
  path = [] ∨ ∃ rest, path = '/' :: rest ∧ ∀ c ∈ rest, isPathChar c = true

/-- path は空か、`/` で始まる。 -/
theorem IsUriPath.eq_nil_or {path : Text} (h : IsUriPath path) :
    path = [] ∨ ∃ rest, path = '/' :: rest := by
  rcases h with h | ⟨rest, h, -⟩
  · exact Or.inl h
  · exact Or.inr ⟨rest, h⟩

/-! ## 標準 library と `Uri` の約束 -/

/-- IPv6 の綴りに使える文字。 -/
def isIpv6Char (c : Char) : Bool :=
  c.isDigit || ('a' ≤ c && c ≤ 'f') || ('A' ≤ c && c ≤ 'F') || c == ':' || c == '.'

/-- 標準 library の文書が約束する、IP と `SocketAddr` の綴り。 -/
structure StdText.ReadsLiterals (std : StdText) : Prop where
  v4_chars : ∀ s octets, std.parseIp (String.ofList s) = some (.v4 octets) →
    ∀ c ∈ s, c.isDigit = true ∨ c = '.'
  v6_chars : ∀ s hi lo, std.parseIp (String.ofList s) = some (.v6 hi lo) →
    ∀ c ∈ s, isIpv6Char c = true
  socket_v4 : ∀ s octets (port : UInt16), std.parseIp (String.ofList s) = some (.v4 octets) →
    std.parseSocketAddr (String.ofList (s ++ ':' :: Nat.toDigits 10 port.toNat))
      = some { ip := .v4 octets, port }
  socket_v6 : ∀ s hi lo (port : UInt16), std.parseIp (String.ofList s) = some (.v6 hi lo) →
    std.parseSocketAddr (String.ofList ('[' :: (s ++ [']']) ++ ':' :: Nat.toDigits 10 port.toNat))
      = some { ip := .v6 hi lo, port }
  /-- `SocketAddr` の綴りは port で終わり、`/` を含まない。 -/
  socket_shape : ∀ s addr, std.parseSocketAddr (String.ofList s) = some addr →
    '/' ∉ s ∧ ∃ host port, s = host ++ ':' :: port ∧ port ≠ [] ∧ ∀ c ∈ port, c.isDigit = true

/-- `hyper` の `Uri` の文書が約束すること。長さの上限は 65534 byte である。 -/
structure UrlEnv.ReadsUris (env : UrlEnv W) : Prop where
  /-- `Uri::host` は IPv6 の host を `[..]` のまま返す。 -/
  literal : ∀ ip host port path, env.parseIp host = some ip → IsUriPath path →
    (text "https://" ++ (literalAuthority ip host port ++ path)).length ≤ 65534 →
    ∃ uri, env.parseUri (text "https://" ++ (literalAuthority ip host port ++ path)) = .ok uri ∧
      uri.host = some (bracketed ip host) ∧ uri.portU16 = port
  tooLong : ∀ url : Text, 65534 < url.length → ∃ e, env.parseUri url = .error e

section

variable {env : UrlEnv W} {ip : IpAddr} {host : Text}

/-- IP の綴りの文字は、どれも IPv6 の綴りに使える文字である。 -/
theorem StdText.ReadsLiterals.chars {std : StdText} (laws : std.ReadsLiterals) {s : Text}
    {ip : IpAddr} (h : std.parseIp (String.ofList s) = some ip) :
    ∀ c ∈ s, isIpv6Char c = true := by
  intro c hc
  cases ip with
  | v4 octets =>
    rcases laws.v4_chars s octets h c hc with hdigit | rfl
    · simp [isIpv6Char, hdigit]
    · decide
  | v6 hi lo => exact laws.v6_chars s hi lo h c hc

/-- IP の綴りに使えない文字があれば、IP ではない。 -/
theorem StdText.ReadsLiterals.parseIp_eq_none {std : StdText} (laws : std.ReadsLiterals) {s : Text}
    {c : Char} (hc : c ∈ s) (hchar : isIpv6Char c = false) :
    std.parseIp (String.ofList s) = Option.none := by
  cases h : std.parseIp (String.ofList s) with
  | none => rfl
  | some ip =>
    rw [laws.chars h c hc] at hchar
    cases hchar

/-! ## `udp://` -/

/-- path があれば `SocketAddr` でも IP でもない。 -/
theorem parseUdpAddr_slash (laws : env.std.ReadsLiterals) {rest : Text} (h : '/' ∈ rest) :
    parseUdpAddr env rest = none := by
  have hsocket : env.parseSocketAddr rest = none := by
    cases hs : env.parseSocketAddr rest with
    | none => rfl
    | some addr => exact absurd h (laws.socket_shape rest addr hs).1
  have hip : env.parseIp rest = none := laws.parseIp_eq_none h (by decide)
  unfold parseUdpAddr
  rw [hsocket, hip]
  rfl

/-- port を付ければ、その宛先が読める。 -/
theorem parseUdpAddr_port (laws : env.std.ReadsLiterals) (hip : env.parseIp host = some ip)
    (port : UInt16) : parseUdpAddr env (literalAuthority ip host (some port)) = some { ip, port } := by
  have hsocket : env.parseSocketAddr (literalAuthority ip host (some port)) = some { ip, port } := by
    cases ip with
    | v4 octets => exact laws.socket_v4 host octets port hip
    | v6 hi lo => exact laws.socket_v6 host hi lo port hip
  unfold parseUdpAddr
  rw [hsocket]

/-- port を略した IPv4 は、53 番になる。 -/
theorem parseUdpAddr_v4 (laws : env.std.ReadsLiterals) {octets : UInt32}
    (hip : env.parseIp host = some (.v4 octets)) :
    parseUdpAddr env (literalAuthority (.v4 octets) host none)
      = some { ip := .v4 octets, port := 53 } := by
  have hauthority : literalAuthority (.v4 octets) host none = host := List.append_nil host
  have hsocket : env.parseSocketAddr host = none := by
    cases hs : env.parseSocketAddr host with
    | none => rfl
    | some addr =>
      obtain ⟨-, before, port, hhost, -⟩ := laws.socket_shape host addr hs
      have hcolon : ':' ∈ host := by simp [hhost]
      rcases laws.v4_chars host octets hip ':' hcolon with hdigit | hdot
      · exact absurd hdigit (by decide)
      · exact absurd hdot (by decide)
  unfold parseUdpAddr
  rw [hauthority, hsocket, hip]
  rfl

/-- port を略した `[..]` は、`SocketAddr` でも IP でもない。 -/
theorem parseUdpAddr_v6 (laws : env.std.ReadsLiterals) {hi lo : UInt64} :
    parseUdpAddr env (literalAuthority (.v6 hi lo) host none) = none := by
  have hauthority : literalAuthority (.v6 hi lo) host none = '[' :: host ++ [']'] := by
    simp [literalAuthority, bracketed, portSuffix, IpAddr.isIpv4]
  have hsocket : env.parseSocketAddr ('[' :: host ++ [']']) = none := by
    cases hs : env.parseSocketAddr ('[' :: host ++ [']']) with
    | none => rfl
    | some addr =>
      -- 綴りの最後は port の数字でなければならない
      obtain ⟨-, before, port, hparts, hne, hdigits⟩ := laws.socket_shape _ addr hs
      have hlast := congrArg List.getLast? hparts
      rw [List.getLast?_concat, List.getLast?_append_of_ne_nil _ (by simp),
        List.getLast?_cons_of_ne_nil hne] at hlast
      have hmem : ']' ∈ port := List.mem_of_getLast? hlast.symm
      exact absurd (hdigits ']' hmem) (by decide)
  have hip : env.parseIp ('[' :: host ++ [']']) = none :=
    laws.parseIp_eq_none (List.mem_append_left _ List.mem_cons_self) (by decide)
  unfold parseUdpAddr
  rw [hauthority, hsocket, hip]
  rfl

/-! ## `split_host_port` -/

/-- IPv4 の綴りには `:` も `[` も無い。 -/
theorem notMem_v4 (laws : env.std.ReadsLiterals) {octets : UInt32}
    (hip : env.parseIp host = some (.v4 octets)) {c : Char} (hdigit : c.isDigit = false)
    (hdot : c ≠ '.') : c ∉ host := by
  intro hc
  rcases laws.v4_chars host octets hip c hc with h | h
  · rw [hdigit] at h
    cases h
  · exact hdot h

theorem notMem_literal (laws : env.std.ReadsLiterals) (hip : env.parseIp host = some ip) {c : Char}
    (hchar : isIpv6Char c = false) : c ∉ host := by
  intro hc
  rw [laws.chars hip c hc] at hchar
  cases hchar

/-- IP の綴りと port には、IPv6 の文字と `[`・`]` のほかは無い。 -/
theorem notMem_authority (laws : env.std.ReadsLiterals) (hip : env.parseIp host = some ip)
    (port : Option UInt16) {c : Char} (hchar : isIpv6Char c = false) (hopen : c ≠ '[')
    (hclose : c ≠ ']') : c ∉ literalAuthority ip host port := by
  have hcolon : c ≠ ':' := by
    rintro rfl
    exact absurd hchar (by decide)
  have hdigit : c.isDigit = false := by
    simp only [isIpv6Char, Bool.or_eq_false_iff] at hchar
    exact hchar.1.1.1.1
  have hhost : c ∉ bracketed ip host := by
    have hliteral : c ∉ host := notMem_literal laws hip hchar
    unfold bracketed
    split
    · exact hliteral
    · simp [hliteral, hopen, hclose]
  have hport : c ∉ portSuffix port := by
    cases port with
    | none => simp [portSuffix]
    | some port =>
      have hdigits : c ∉ Nat.toDigits 10 port.toNat := by
        intro hmem
        rw [Text.isDigit_of_mem_toDigits hmem] at hdigit
        cases hdigit
      simp [portSuffix, hdigits, hcolon]
  simp [literalAuthority, hhost, hport]

/-- 十進の port は読める。 -/
theorem parsePort_toDigits (rest : Text) (port : UInt16) :
    parsePort env rest (Nat.toDigits 10 port.toNat) = .ok port := by
  unfold parsePort
  rw [Text.parseU16_toDigits]

theorem parsePort_slash {rest port : Text} (h : '/' ∈ port) (p : UInt16) :
    parsePort env rest port ≠ .ok p := by
  unfold parsePort
  rw [Text.parseU16_eq_none h (by decide) (by decide)]
  simp

/-- `[` で始まらず `:` のある綴りは、最後の `:` で分かれる。 -/
theorem splitHostPort_colon {rest before after : Text} (hhead : ∀ stripped, rest ≠ '[' :: stripped)
    (hsplit : Text.rsplitOnce ':' rest = some (before, after)) :
    splitHostPort env rest
      = if ':' ∉ before then (parsePort env rest after).map fun port => (before, some port)
        else .ok (rest, none) := by
  unfold splitHostPort
  split
  · next stripped => exact absurd rfl (hhead stripped)
  · rw [hsplit]

theorem splitHostPort_noColon {rest : Text} (hhead : ∀ stripped, rest ≠ '[' :: stripped)
    (hcolon : ':' ∉ rest) : splitHostPort env rest = .ok (rest, none) := by
  unfold splitHostPort
  split
  · next stripped => exact absurd rfl (hhead stripped)
  · rw [Text.rsplitOnce_eq_none hcolon]

/-- IPv4 の綴りで始まるものは、`[` では始まらない。 -/
theorem v4_ne_bracket (laws : env.std.ReadsLiterals) {octets : UInt32}
    (hip : env.parseIp host = some (.v4 octets)) {tail : Text} (htail : tail.head? ≠ some '[') :
    ∀ stripped, host ++ tail ≠ '[' :: stripped := by
  intro stripped h
  cases host with
  | nil =>
    rw [List.nil_append] at h
    rw [h] at htail
    exact htail rfl
  | cons c host =>
    obtain rfl : c = '[' := (List.cons.inj h).1
    exact notMem_v4 laws hip (by decide) (by decide) List.mem_cons_self

theorem splitHostPort_bracket_end (hhost : ']' ∉ host) :
    splitHostPort env ('[' :: (host ++ ']' :: [])) = .ok (host, none) := by
  unfold splitHostPort
  simp only [Text.splitOnce_char_append hhost]

theorem splitHostPort_bracket_port (hhost : ']' ∉ host) (port : Text) :
    splitHostPort env ('[' :: (host ++ ']' :: ':' :: port))
      = (parsePort env ('[' :: (host ++ ']' :: ':' :: port)) port).map fun p => (host, some p) := by
  unfold splitHostPort
  simp only [Text.splitOnce_char_append hhost]

theorem splitHostPort_bracket_slash (hhost : ']' ∉ host) (path : Text) :
    splitHostPort env ('[' :: (host ++ ']' :: '/' :: path))
      = .error (text "invalid host " ++ env.debug ('[' :: (host ++ ']' :: '/' :: path))) := by
  unfold splitHostPort
  simp only [Text.splitOnce_char_append hhost]
  rfl

/-- `split_host_port` は、IP と port を綴りのとおりに分ける。 -/
theorem splitHostPort_literal (laws : env.std.ReadsLiterals) (hip : env.parseIp host = some ip)
    (port : Option UInt16) :
    splitHostPort env (literalAuthority ip host port) = .ok (host, port) := by
  cases ip with
  | v4 octets =>
    have hcolon : ':' ∉ host := notMem_v4 laws hip (by decide) (by decide)
    have hauthority : literalAuthority (.v4 octets) host port = host ++ portSuffix port := rfl
    rw [hauthority]
    cases port with
    | none =>
      have hnil : host ++ portSuffix none = host := List.append_nil host
      have hhead := v4_ne_bracket laws hip (show ([] : Text).head? ≠ some '[' by simp)
      rw [List.append_nil] at hhead
      rw [hnil, splitHostPort_noColon hhead hcolon]
    | some port =>
      have hdigits : ':' ∉ Nat.toDigits 10 port.toNat := fun h =>
        absurd (Text.isDigit_of_mem_toDigits h) (by decide)
      have hhead := v4_ne_bracket laws hip
        (show (portSuffix (some port)).head? ≠ some '[' by simp [portSuffix])
      rw [splitHostPort_colon hhead (Text.rsplitOnce_append hdigits host), if_pos hcolon,
        parsePort_toDigits]
      rfl
  | v6 hi lo =>
    have hbracket : ']' ∉ host := notMem_literal laws hip (by decide)
    have hauthority : literalAuthority (.v6 hi lo) host port
        = '[' :: (host ++ ']' :: portSuffix port) := by
      simp [literalAuthority, bracketed, IpAddr.isIpv4]
    rw [hauthority]
    cases port with
    | none => exact splitHostPort_bracket_end hbracket
    | some port =>
      show splitHostPort env ('[' :: (host ++ ']' :: ':' :: Nat.toDigits 10 port.toNat)) = _
      rw [splitHostPort_bracket_port hbracket, parsePort_toDigits]
      rfl

/-- `[` で始まらない綴りに `/` があれば、取れる host も `/` を含む。 -/
theorem splitHostPort_slash {rest : Text} (hhead : ∀ stripped, rest ≠ '[' :: stripped)
    (hslash : '/' ∈ rest) {r : Text × Option UInt16} (h : splitHostPort env rest = .ok r) :
    '/' ∈ r.1 := by
  by_cases hcolon : ':' ∈ rest
  · obtain ⟨before, after, rfl, hafter⟩ := Text.exists_last_split hcolon
    rw [splitHostPort_colon hhead (Text.rsplitOnce_append hafter before)] at h
    split at h
    · -- 最後の `:` の後が port になるので、`/` はその前にしか無い
      obtain ⟨p, hport, rfl⟩ := Except.map_eq_ok_iff.mp h
      rcases List.mem_append.mp hslash with hbefore | hafter
      · exact hbefore
      · rcases List.mem_cons.mp hafter with hc | hc
        · exact absurd hc (by decide)
        · exact absurd hport (parsePort_slash hc p)
    · cases h
      exact hslash
  · rw [splitHostPort_noColon hhead hcolon] at h
    cases h
    exact hslash

/-- path のある綴りから取れる host は、`/` を含む。 -/
theorem splitHostPort_path (laws : env.std.ReadsLiterals) (hip : env.parseIp host = some ip)
    (port : Option UInt16) {path : Text} {r : Text × Option UInt16}
    (h : splitHostPort env (literalAuthority ip host port ++ '/' :: path) = .ok r) : '/' ∈ r.1 := by
  cases ip with
  | v4 octets =>
    have hrest : literalAuthority (.v4 octets) host port ++ '/' :: path
        = host ++ (portSuffix port ++ '/' :: path) := List.append_assoc _ _ _
    have hhead := v4_ne_bracket laws hip (show (portSuffix port ++ '/' :: path).head? ≠ some '[' by
      cases port with
      | none => simp [portSuffix]
      | some port => simp [portSuffix])
    rw [hrest] at h
    exact splitHostPort_slash hhead (by simp) h
  | v6 hi lo =>
    have hbracket : ']' ∉ host := notMem_literal laws hip (by decide)
    have hrest : literalAuthority (.v6 hi lo) host port ++ '/' :: path
        = '[' :: (host ++ ']' :: (portSuffix port ++ '/' :: path)) := by
      simp [literalAuthority, bracketed, IpAddr.isIpv4]
    rw [hrest] at h
    cases port with
    | none =>
      change splitHostPort env ('[' :: (host ++ ']' :: '/' :: path)) = _ at h
      rw [splitHostPort_bracket_slash hbracket] at h
      cases h
    | some port =>
      change splitHostPort env
        ('[' :: (host ++ ']' :: ':' :: (Nat.toDigits 10 port.toNat ++ '/' :: path))) = _ at h
      rw [splitHostPort_bracket_port hbracket] at h
      obtain ⟨p, hport, -⟩ := Except.map_eq_ok_iff.mp h
      exact absurd hport (parsePort_slash (by simp) p)

end

end DnsProxy
