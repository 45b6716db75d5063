import DnsProxy.Client.DnsCrypt.Stamp

/-!
# stamp の往復

`build_stamp` と `parse_dnscrypt_stamp` は、どちらの文書も互いの逆だと言う。
書く側は長さを 1 byte にそのまま書き、読む側はその最上位 bit を「続きがある」印と見る。

名前が 127 byte までなら両者は合う。128 byte からは、読む側が名前の途中の一文字を次の長さと見て
読み進む。ASCII の文字は 128 に満たないので、そこで必ず止まり、少なくとも一文字を失った名前が返る
（`stamp_round_trip_iff`）。

宛先の綴りは最も長くても 58 文字なので、こちらは合う。
-/

namespace DnsProxy

open Infra

/-! ## 宛先の綴り -/

section Display

theorem digitChar_lt (n : Nat) : (Nat.digitChar n).toNat < 128 := by
  have hsmall : ∀ k : Fin 16, (Nat.digitChar k.val).toNat < 128 := by decide
  by_cases h : n < 16
  · exact hsmall ⟨n, h⟩
  · have hstar : Nat.digitChar n = '*' := by
      unfold Nat.digitChar
      simp only [show ∀ k, k < 16 → n ≠ k by omega, Nat.reduceLT, if_false]
    rw [hstar]
    decide

theorem isAscii_toDigits {base : Nat} (hb : 1 < base) (n : Nat) :
    Utf8.IsAscii (Nat.toDigits base n) := Text.toDigits_forall hb (fun k _ => digitChar_lt k) n

/-- 区切りを挟んで並べた綴り。 -/
theorem isAscii_intercalate {sep : Char} (hsep : sep.toNat < 128) :
    ∀ {parts : List Text}, (∀ p ∈ parts, Utf8.IsAscii p) → Utf8.IsAscii ([sep].intercalate parts)
  | [], _ => by
    intro c hc
    simp at hc
  | [p], h => by
    rw [List.intercalate_singleton]
    exact h p List.mem_cons_self
  | p :: q :: rest, h => by
    rw [List.intercalate_cons_cons]
    refine ((h p List.mem_cons_self).append ?_).append
      (isAscii_intercalate hsep fun x hx => h x (List.mem_cons_of_mem p hx))
    intro c hc
    rw [List.mem_singleton.mp hc]
    exact hsep

theorem length_intercalate_le (sep : Char) {k : Nat} :
    ∀ {parts : List Text}, (∀ p ∈ parts, p.length ≤ k) →
      ([sep].intercalate parts).length ≤ (k + 1) * parts.length
  | [], _ => by simp
  | [p], h => by
    have := h p List.mem_cons_self
    rw [List.intercalate_singleton, List.length_singleton]
    omega
  | p :: q :: rest, h => by
    have hp := h p List.mem_cons_self
    have ih := length_intercalate_le sep fun x hx => h x (List.mem_cons_of_mem p hx)
    rw [List.intercalate_cons_cons, List.length_append, List.length_append, List.length_singleton,
      List.length_cons (a := p), Nat.mul_succ]
    omega

/-- 数字の列を区切って並べた綴りは ASCII で、一つの数の桁数に区切りを足した分より長くならない。 -/
theorem ipv4Text_spec (octets : UInt32) :
    Utf8.IsAscii (ipv4Text octets) ∧ (ipv4Text octets).length ≤ 16 := by
  unfold ipv4Text
  constructor
  · refine isAscii_intercalate (by decide) fun p hp => ?_
    obtain ⟨b, _, rfl⟩ := List.mem_map.mp hp
    exact isAscii_toDigits (by decide) _
  · have hle : ∀ p ∈ (Bytes.toBe32 octets).map (fun b => Nat.toDigits 10 b.toNat),
        p.length ≤ 3 := by
      intro p hp
      obtain ⟨b, _, rfl⟩ := List.mem_map.mp hp
      have := b.toNat_lt
      rw [Nat.length_toDigits_le_iff (by decide) (by decide)]
      omega
    have := length_intercalate_le '.' hle
    simpa using this

theorem fmtSubslice_spec {segments : List Nat} (h : ∀ n ∈ segments, n < 65536) :
    Utf8.IsAscii (fmtSubslice segments) ∧ (fmtSubslice segments).length ≤ 5 * segments.length := by
  unfold fmtSubslice
  constructor
  · refine isAscii_intercalate (by decide) fun p hp => ?_
    obtain ⟨n, _, rfl⟩ := List.mem_map.mp hp
    exact isAscii_toDigits (by decide) _
  · have hle : ∀ p ∈ segments.map (fun n => Nat.toDigits 16 n), p.length ≤ 4 := by
      intro p hp
      obtain ⟨n, hn, rfl⟩ := List.mem_map.mp hp
      rw [Nat.length_toDigits_le_iff (by decide) (by decide)]
      exact h n hn
    have := length_intercalate_le ':' hle
    simpa using this

theorem ipv6Segments_lt (hi lo : UInt64) : ∀ n ∈ ipv6Segments hi lo, n < 65536 := by
  intro n hn
  have := hi.toNat_lt
  have := lo.toNat_lt
  simp only [ipv6Segments, List.flatMap_cons, List.flatMap_nil, List.append_nil, List.mem_append,
    List.mem_cons, List.not_mem_nil, or_false] at hn
  omega

theorem IpAddr.display_spec (ip : IpAddr) :
    Utf8.IsAscii ip.display ∧ ip.display.length ≤ 42 := by
  cases ip with
  | v4 octets =>
    obtain ⟨hascii, hlen⟩ := ipv4Text_spec octets
    exact ⟨hascii, hlen.trans (by decide)⟩
  | v6 hi lo =>
    have hseg := ipv6Segments_lt hi lo
    have hcount : (ipv6Segments hi lo).length = 8 := rfl
    have hascii : ∀ s : String, s = "::ffff:" ∨ s = "::" → Utf8.IsAscii (text s) := by
      rintro s (rfl | rfl) <;> simp [Utf8.IsAscii, text]
    unfold IpAddr.display
    dsimp only
    split
    · obtain ⟨hv4, hlen⟩ := ipv4Text_spec (UInt32.ofNat (lo.toNat % 4294967296))
      refine ⟨(hascii _ (Or.inl rfl)).append hv4, ?_⟩
      rw [List.length_append, show (text "::ffff:").length = 7 from rfl]
      omega
    · split
      · -- `::` の前と後を合わせても、segment は 8 つまでである
        have hbefore : ∀ n ∈ (ipv6Segments hi lo).take (longestZeroes (ipv6Segments hi lo)).1,
            n < 65536 := fun n hn => hseg n (List.mem_of_mem_take hn)
        have hafter : ∀ n ∈ (ipv6Segments hi lo).drop ((longestZeroes (ipv6Segments hi lo)).1
            + (longestZeroes (ipv6Segments hi lo)).2), n < 65536 :=
          fun n hn => hseg n (List.mem_of_mem_drop hn)
        obtain ⟨hpre, hpreLen⟩ := fmtSubslice_spec hbefore
        obtain ⟨hpost, hpostLen⟩ := fmtSubslice_spec hafter
        refine ⟨(hpre.append (hascii _ (Or.inr rfl))).append hpost, ?_⟩
        rw [List.length_take] at hpreLen
        rw [List.length_drop] at hpostLen
        rw [List.length_append, List.length_append, show (text "::").length = 2 from rfl]
        omega
      · obtain ⟨hall, hlen⟩ := fmtSubslice_spec hseg
        exact ⟨hall, by omega⟩

/-- **宛先の綴りは ASCII で、128 文字に遠く満たない。** -/
theorem SocketAddr.display_spec (a : SocketAddr) :
    Utf8.IsAscii a.display ∧ a.display.length ≤ 61 := by
  obtain ⟨hip, hipLen⟩ := a.ip.display_spec
  have hport := isAscii_toDigits (show 1 < 10 by decide) a.port.toNat
  have hportLen : (Nat.toDigits 10 a.port.toNat).length ≤ 5 := by
    have := a.port.toNat_lt
    rw [Nat.length_toDigits_le_iff (by decide) (by decide)]
    omega
  have hscopeLen : (Nat.toDigits 10 a.scopeId.toNat).length ≤ 10 := by
    have := a.scopeId.toNat_lt
    rw [Nat.length_toDigits_le_iff (by decide) (by decide)]
    omega
  have hmark : ∀ l : Text, l ∈ [[':'], ['['], text "]:", ['%']] → Utf8.IsAscii l := by
    simp [Utf8.IsAscii, text]
  have hscope : Utf8.IsAscii (if a.scopeId = 0 then [] else '%' :: Nat.toDigits 10 a.scopeId.toNat)
      ∧ (if a.scopeId = 0 then [] else '%' :: Nat.toDigits 10 a.scopeId.toNat).length ≤ 11 := by
    split
    · exact ⟨fun c hc => absurd hc List.not_mem_nil, by simp⟩
    · refine ⟨(hmark ['%'] (by decide)).append (isAscii_toDigits (by decide) _), ?_⟩
      rw [List.length_cons]
      omega
  obtain ⟨hscope, hscopeLen⟩ := hscope
  unfold SocketAddr.display
  dsimp only
  split
  · refine ⟨(hip.append (hmark [':'] (by decide))).append hport, ?_⟩
    simp only [List.length_append, List.length_singleton]
    omega
  · refine ⟨((((hmark ['['] (by decide)).append hip).append hscope).append
      (hmark (text "]:") (by decide))).append hport, ?_⟩
    simp only [List.length_append, List.length_singleton, show (text "]:").length = 2 from rfl]
    omega

end Display

/-! ## 128 byte からの名前 -/

/-- 最上位 bit の立った長さと、立っていない長さ。 -/
theorem lengthByte_long {n : Nat} (h : 128 ≤ n) (h' : n ≤ 255) :
    (UInt8.ofNat n &&& 0x7f).toNat = n - 128 ∧ ¬ UInt8.ofNat n &&& 0x80 = 0 := by
  have hn : ∀ k : Fin 128, (UInt8.ofNat (128 + k.val) &&& 0x7f).toNat = k.val ∧
      ¬ UInt8.ofNat (128 + k.val) &&& 0x80 = 0 := by decide
  have hk := hn ⟨n - 128, by omega⟩
  dsimp only at hk
  rwa [show 128 + (n - 128) = n by omega] at hk

theorem lengthByte_short {b : UInt8} (h : b.toNat < 128) :
    (b &&& 0x7f).toNat = b.toNat ∧ b &&& 0x80 = 0 := by
  have hn : ∀ k : Fin 128, (UInt8.ofNat k.val &&& 0x7f).toNat = k.val ∧
      UInt8.ofNat k.val &&& 0x80 = 0 := by decide
  have hk := hn ⟨b.toNat, h⟩
  rwa [show UInt8.ofNat b.toNat = b by simp] at hk

/--
**長さに「続きがある」印が立つと、読み戻した中身は短くなる。**

一周目は `b.length - 128` byte を読む。残りは 128 byte で、その先頭を次の長さと見る二周目は
127 byte までしか読めない。
-/
theorem readLp_long {b : Bytes} (fuel : Nat) (h : 128 ≤ b.length) (h' : b.length ≤ 255)
    (hascii : ∀ x ∈ b, x.toNat < 128) :
    ∃ out rest, readLp (fuel + 2) (lengthPrefixed b) = .ok (out, rest) ∧
      out.length < b.length := by
  obtain ⟨hlen, hbit⟩ := lengthByte_long h h'
  have hdrop : (b.drop (b.length - 128)).length = 128 := by rw [List.length_drop]; omega
  cases hnext : b.drop (b.length - 128) with
  | nil =>
    rw [hnext] at hdrop
    cases hdrop
  | cons x tail =>
    rw [hnext, List.length_cons] at hdrop
    have hx := hascii x (List.mem_of_mem_drop (hnext ▸ List.mem_cons_self))
    obtain ⟨hxlen, hxbit⟩ := lengthByte_short hx
    refine ⟨b.take (b.length - 128) ++ tail.take x.toNat, tail.drop x.toNat, ?_, ?_⟩
    · unfold lengthPrefixed readLp
      dsimp only
      rw [hlen, if_neg (by omega), if_neg hbit, hnext]
      unfold readLp
      dsimp only
      rw [hxlen, if_neg (by omega), if_pos hxbit]
      rfl
    · simp only [List.length_append, List.length_take]
      omega

/-- 128 byte からの名前は、別の名前として読まれる。 -/
theorem parse_buildStamp_long {std : StdText} {addr : SocketAddr} (providerPublicKey : Block 32)
    {providerName : String} (haddr : std.parseSocketAddr (std.toString addr) = some addr)
    (haddrLen : (Utf8.encode (std.toString addr)).length < 128)
    (h : 128 ≤ (Utf8.encode providerName).length) (h' : (Utf8.encode providerName).length ≤ 255)
    (hascii : ∀ x ∈ Utf8.encode providerName, x.toNat < 128) :
    parseDnscryptStamp std (buildStamp std addr providerPublicKey providerName)
      ≠ .ok { addr, providerPublicKey, providerName } := by
  obtain ⟨fuel, what, hparse⟩ :=
    parse_buildStamp_name providerPublicKey providerName haddr haddrLen
  obtain ⟨out, rest, hread, hout⟩ := readLp_long fuel h h' hascii
  rw [hparse, hread]
  intro heq
  unfold fromUtf8 at heq
  simp only [bind, Except.bind] at heq
  cases hdec : Utf8.decode out with
  | none =>
    rw [hdec] at heq
    cases heq
  | some name =>
    rw [hdec] at heq
    cases heq
    rw [Utf8.encode_of_decode hdec] at hout
    omega

/-! ## 主定理 -/

/-- 標準 library の綴り方をする環境。 -/
def StdText.Displays (std : StdText) : Prop := ∀ a, std.toString a = String.ofList a.display

theorem StdText.Displays.length_lt {std : StdText} (h : std.Displays) (addr : SocketAddr) :
    (Utf8.encode (std.toString addr)).length < 128 := by
  obtain ⟨hascii, hlen⟩ := addr.display_spec
  rw [h addr, Utf8.encode_ascii_length hascii]
  omega

/--
**stamp が往復するのは、provider の名前が 127 文字までのとき、かつそのときに限る。**

名前は ASCII で 253 文字までであればよい。legal な DNS 名はどれもそうである。
-/
theorem stamp_round_trip_iff {std : StdText} (hstd : std.Displays) {addr : SocketAddr}
    (haddr : std.parseSocketAddr (std.toString addr) = some addr) (providerPublicKey : Block 32)
    {providerName : Text} (hascii : Utf8.IsAscii providerName) (hlen : providerName.length ≤ 253) :
    parseDnscryptStamp std
        (buildStamp std addr providerPublicKey (String.ofList providerName))
      = .ok { addr, providerPublicKey, providerName := String.ofList providerName } ↔
      providerName.length ≤ 127 := by
  have hname := Utf8.encode_ascii_length hascii
  constructor
  · intro hparse
    by_contra hlong
    refine parse_buildStamp_long providerPublicKey haddr (hstd.length_lt addr) ?_ ?_ ?_ hparse
    · omega
    · omega
    · exact fun x hx => Utf8.encode_ascii_lt hascii hx
  · intro hshort
    exact parse_buildStamp providerPublicKey haddr (hstd.length_lt addr) (by omega)

/-- `203.0.113.1:443`。 -/
def stampAddr : SocketAddr := { ip := .v4 0xCB007101, port := 443 }

/-- 標準 library の綴り方をし、`stampAddr` の綴りだけを読む。 -/
def stampStd : StdText where
  toString a := String.ofList a.display
  parseSocketAddr s := if s = String.ofList stampAddr.display then some stampAddr else none
  parseIp _ := none
  unprintable _ := false
  base64Error _ := "Invalid symbol"
  utf8Error _ := "invalid utf-8 sequence"

theorem stampStd_parse :
    stampStd.parseSocketAddr (stampStd.toString stampAddr) = some stampAddr := by
  show (if String.ofList stampAddr.display = String.ofList stampAddr.display then some stampAddr
    else none) = some stampAddr
  exact if_pos rfl

/-- 短い名前の stamp は往復する。 -/
theorem stamp_round_trip_short :
    parseDnscryptStamp stampStd
        (buildStamp stampStd stampAddr (Block.zeros 32) (String.ofList (text "2.dnscrypt.example.org")))
      = .ok { addr := stampAddr, providerPublicKey := Block.zeros 32,
              providerName := String.ofList (text "2.dnscrypt.example.org") } :=
  (stamp_round_trip_iff (fun _ => rfl) stampStd_parse (Block.zeros 32)
    (show Utf8.IsAscii (text "2.dnscrypt.example.org") by simp [Utf8.IsAscii, text])
    (by decide)).mpr (by decide)

/-- 63 文字・62 文字・1 文字の label から成る、128 文字の legal な名前。 -/
def longProviderName : Text :=
  List.replicate 63 'a' ++ ['.'] ++ List.replicate 62 'a' ++ ['.', 'a']

/-- 128 文字の名前の stamp からは、元の名前が読み戻せない。 -/
theorem stamp_long_name_lost :
    longProviderName.length = 128 ∧
      parseDnscryptStamp stampStd
        (buildStamp stampStd stampAddr (Block.zeros 32) (String.ofList longProviderName))
        ≠ .ok { addr := stampAddr, providerPublicKey := Block.zeros 32,
                providerName := String.ofList longProviderName } := by
  have hascii : Utf8.IsAscii longProviderName := by
    intro c hc
    simp only [longProviderName, List.mem_append, List.mem_replicate, List.mem_cons,
      List.not_mem_nil, or_false] at hc
    rcases hc with ((⟨-, rfl⟩ | rfl) | ⟨-, rfl⟩) | rfl | rfl <;> decide
  have hlen := Utf8.encode_ascii_length hascii
  have hcount : longProviderName.length = 128 := rfl
  refine ⟨hcount, parse_buildStamp_long _ stampStd_parse ?_ ?_ ?_ ?_⟩
  · exact StdText.Displays.length_lt (fun _ => rfl) stampAddr
  · omega
  · omega
  · exact fun x hx => Utf8.encode_ascii_lt hascii hx

end DnsProxy
