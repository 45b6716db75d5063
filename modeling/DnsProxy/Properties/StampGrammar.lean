import DnsProxy.Client.DnsCrypt.Stamp

/-!
# stamp の文法

`parse_dnscrypt_stamp` が受け付けるのは、次の形の byte 列を base64url で綴ったものだけである
（`parseDnscryptStamp_iff`）。

* `0x01`、8 byte の性質、宛先、公開鍵、名前。後に何が続いてもよい
* 宛先・公開鍵・名前は、127 byte 以下に切って、長さの byte を前に付けて並べたもの（`IsLp`）。
  切り方は問わない

`read_lp` は、どの `buf` のどの位置からも止まり、`buf` の外を読まない（`readLpLoop_total`）。
-/

namespace DnsProxy

open Infra

/-! ## 長さの付いた並び -/

/-- 切ったものを並べる。最後のもの以外は、長さの byte の最上位 bit が立つ。 -/
def lpChunks : (chunk : Bytes) → (more : List Bytes) → Bytes
  | chunk, [] => UInt8.ofNat chunk.length :: chunk
  | chunk, next :: more => UInt8.ofNat (chunk.length + 128) :: (chunk ++ lpChunks next more)

/-- `b` は、`x` を切って長さを付けたものである。 -/
def IsLp (x b : Bytes) : Prop :=
  ∃ chunk more, (∀ c ∈ chunk :: more, c.length ≤ 127) ∧ x = (chunk :: more).flatten ∧
    b = lpChunks chunk more

/-- 最後の切れ端だけのもの。 -/
theorem IsLp.last {x : Bytes} (h : x.length ≤ 127) : IsLp x (UInt8.ofNat x.length :: x) := by
  refine ⟨x, [], ?_, by simp, rfl⟩
  intro c hc
  rw [List.mem_singleton.mp hc]
  exact h

/-- 続きの前に切れ端を足したもの。 -/
theorem IsLp.more {chunk x b : Bytes} (h : chunk.length ≤ 127) (hx : IsLp x b) :
    IsLp (chunk ++ x) (UInt8.ofNat (chunk.length + 128) :: (chunk ++ b)) := by
  obtain ⟨next, more, hlen, rfl, rfl⟩ := hx
  refine ⟨chunk, next :: more, ?_, rfl, rfl⟩
  intro c hc
  rcases List.mem_cons.mp hc with rfl | hc
  · exact h
  · exact hlen c hc

/-- `IsLp` は、最後の切れ端と、切れ端を一つ足すことだけでできる。 -/
theorem IsLp.cases {x b : Bytes} (h : IsLp x b) :
    (x.length ≤ 127 ∧ b = UInt8.ofNat x.length :: x) ∨
      ∃ chunk x' b', chunk.length ≤ 127 ∧ IsLp x' b' ∧ x = chunk ++ x' ∧
        b = UInt8.ofNat (chunk.length + 128) :: (chunk ++ b') := by
  obtain ⟨chunk, more, hlen, rfl, rfl⟩ := h
  have hchunk := hlen chunk List.mem_cons_self
  cases more with
  | nil => exact Or.inl ⟨by simpa using hchunk, by simp [lpChunks]⟩
  | cons next more =>
    refine Or.inr ⟨chunk, (next :: more).flatten, lpChunks next more, hchunk, ?_, rfl, rfl⟩
    exact ⟨next, more, fun c hc => hlen c (List.mem_cons_of_mem chunk hc), rfl, rfl⟩

/-! ## `read_lp` -/

/-- 長さの byte は、下の 7 bit と最上位 bit に分かれる。 -/
theorem lenByte_cases (lenByte : UInt8) :
    (lenByte &&& 0x80 = 0 ∧ lenByte = UInt8.ofNat (lenByte &&& 0x7f).toNat) ∨
      (lenByte &&& 0x80 ≠ 0 ∧ lenByte = UInt8.ofNat ((lenByte &&& 0x7f).toNat + 128)) := by
  have hall : ∀ n : Fin 256, let b := UInt8.ofNat n.1
      (b &&& 0x80 = 0 ∧ b = UInt8.ofNat (b &&& 0x7f).toNat) ∨
        (b &&& 0x80 ≠ 0 ∧ b = UInt8.ofNat ((b &&& 0x7f).toNat + 128)) := by
    decide +kernel
  have h := hall ⟨lenByte.toNat, lenByte.toNat_lt⟩
  rwa [UInt8.ofNat_toNat] at h

theorem lenByte_le (lenByte : UInt8) : (lenByte &&& 0x7f).toNat ≤ 127 := by
  rw [UInt8.toNat_and]
  exact Nat.and_le_right

/-- 127 以下の長さは、どちらの印を付けても読み戻せる。 -/
theorem lenByte_ofNat {n : Nat} (h : n ≤ 127) :
    ((UInt8.ofNat n &&& 0x7f).toNat = n ∧ UInt8.ofNat n &&& 0x80 = 0) ∧
      (UInt8.ofNat (n + 128) &&& 0x7f).toNat = n ∧ UInt8.ofNat (n + 128) &&& 0x80 ≠ 0 := by
  have hall : ∀ n : Fin 128,
      ((UInt8.ofNat n.1 &&& 0x7f).toNat = n.1 ∧ UInt8.ofNat n.1 &&& 0x80 = 0) ∧
        (UInt8.ofNat (n.1 + 128) &&& 0x7f).toNat = n.1 ∧ UInt8.ofNat (n.1 + 128) &&& 0x80 ≠ 0 := by
    decide
  exact hall ⟨n, by omega⟩

/-- 長さの付いた並びは、後に何が続いても、ちょうどその終わりまで読まれる。 -/
theorem readLp_of_isLp {x p : Bytes} (rest : Bytes) {fuel : Nat} (h : IsLp x p)
    (hfuel : p.length ≤ fuel) : readLp fuel (p ++ rest) = .ok (x, rest) := by
  induction fuel generalizing x p with
  | zero =>
    rcases h.cases with ⟨_, rfl⟩ | ⟨chunk, x', b', _, _, rfl, rfl⟩
    · simp at hfuel
    · simp at hfuel
  | succ fuel ih =>
    rcases h.cases with ⟨hlen, rfl⟩ | ⟨chunk, x', b', hlen, hx', rfl, rfl⟩
    · obtain ⟨⟨hval, hbit⟩, -⟩ := lenByte_ofNat hlen
      rw [List.cons_append, readLp]
      simp only [hval, hbit]
      simp
    · obtain ⟨-, hval, hbit⟩ := lenByte_ofNat hlen
      have hb' : b'.length ≤ fuel := by
        simp only [List.length_cons, List.length_append] at hfuel
        omega
      rw [List.cons_append, readLp]
      simp only [hval, if_neg hbit, List.append_assoc, List.drop_left, List.take_left, ih hx' hb']
      simp [bind, Except.bind]

/-- 読めたなら、そこには長さの付いた並びがあった。 -/
theorem isLp_of_readLp {fuel : Nat} {b x rest : Bytes} (h : readLp fuel b = .ok (x, rest)) :
    ∃ p, IsLp x p ∧ b = p ++ rest := by
  induction fuel generalizing b x with
  | zero => cases h
  | succ fuel ih =>
    cases b with
    | nil => cases h
    | cons lenByte tail =>
      rw [readLp] at h
      dsimp only at h
      have hle := lenByte_le lenByte
      split at h
      · cases h
      · next hlen =>
        have htake : (tail.take (lenByte &&& 0x7f).toNat).length = (lenByte &&& 0x7f).toNat := by
          rw [List.length_take]
          omega
        rcases lenByte_cases lenByte with ⟨hbit, hbyte⟩ | ⟨hbit, hbyte⟩
        · rw [if_pos hbit] at h
          cases h
          refine ⟨_, IsLp.last (by omega), ?_⟩
          rw [htake, ← hbyte, List.cons_append, List.take_append_drop]
        · rw [if_neg hbit] at h
          cases hmore : readLp fuel (tail.drop (lenByte &&& 0x7f).toNat) with
          | error e =>
            rw [hmore] at h
            cases h
          | ok r =>
            rw [hmore] at h
            cases h
            obtain ⟨p, hp, hdrop⟩ := ih hmore
            refine ⟨_, hp.more (by omega), ?_⟩
            rw [htake, ← hbyte, List.cons_append, List.append_assoc, ← hdrop,
              List.take_append_drop]

/-- **読めるのは、長さの付いた並びで始まるとき、かつそのときに限る。** -/
theorem readLp_ok_iff {fuel : Nat} {b x rest : Bytes} (hfuel : b.length ≤ fuel) :
    readLp fuel b = .ok (x, rest) ↔ ∃ p, IsLp x p ∧ b = p ++ rest := by
  constructor
  · exact isLp_of_readLp
  · rintro ⟨p, hp, rfl⟩
    rw [List.length_append] at hfuel
    exact readLp_of_isLp rest hp (by omega)

/-! ## loop としての `read_lp` -/

/-- 残りの長さがあれば、`fuel` は結果に関わらない。 -/
theorem readLp_fuel {fuel fuel' : Nat} {b : Bytes} (h : b.length ≤ fuel) (h' : b.length ≤ fuel') :
    readLp fuel b = readLp fuel' b := by
  induction fuel generalizing fuel' b with
  | zero =>
    have hb : b = [] := List.length_eq_zero_iff.mp (by omega)
    subst hb
    cases fuel' with
    | zero => rfl
    | succ fuel' => rfl
  | succ fuel ih =>
    cases b with
    | nil =>
      cases fuel' with
      | zero => rfl
      | succ fuel' => rfl
    | cons lenByte tail =>
      cases fuel' with
      | zero => simp at h'
      | succ fuel' =>
        have hlen : (tail.drop (lenByte &&& 0x7f).toNat).length ≤ tail.length := by simp
        simp only [List.length_cons] at h h'
        rw [readLp, readLp]
        dsimp only
        rw [ih (by omega) (by omega : (tail.drop (lenByte &&& 0x7f).toNat).length ≤ fuel')]

/-- `pos` と `out` の loop は、`buf[pos..]` を読むことに等しい。 -/
theorem readLpLoop_eq {buf : Bytes} {fuel pos : Nat} (hfuel : buf.length - pos < fuel)
    (out : Bytes) :
    readLpLoop buf fuel pos out
      = some ((readLp fuel (buf.drop pos)).map fun r => (out ++ r.1, buf.length - r.2.length)) := by
  induction fuel generalizing pos out with
  | zero => omega
  | succ fuel ih =>
    by_cases hpos : pos < buf.length
    · rw [readLpLoop, List.getElem?_eq_getElem hpos, List.drop_eq_getElem_cons hpos, readLp]
      dsimp only
      generalize buf[pos] = lenByte
      have hlen : (buf.drop (pos + 1)).length = buf.length - (pos + 1) := List.length_drop
      by_cases hstop : pos + 1 + (lenByte &&& 0x7f).toNat ≤ buf.length
      · have hfit : ¬ (buf.drop (pos + 1)).length < (lenByte &&& 0x7f).toNat := by omega
        rw [if_pos hstop, if_neg hfit, Nat.add_sub_cancel_left]
        by_cases hbit : lenByte &&& 0x80 = 0
        · rw [if_pos hbit, if_pos hbit]
          simp only [Except.map, List.length_drop, Option.some.injEq, Except.ok.injEq, Prod.mk.injEq,
            true_and]
          omega
        · rw [if_neg hbit, if_neg hbit, ih (by omega), List.drop_drop]
          cases readLp fuel (buf.drop (pos + 1 + (lenByte &&& 0x7f).toNat)) with
          | error e => rfl
          | ok r => simp [Except.map, bind, Except.bind]
      · rw [if_neg hstop, if_pos (by omega)]
        rfl
    · have hnil : buf.drop pos = [] := List.drop_eq_nil_of_le (by omega)
      rw [readLpLoop, List.getElem?_eq_none (by omega), hnil]
      rfl

/-- `read_lp` は必ず止まり、読めたものは `buf` の中の、長さの付いた並びである。 -/
theorem readLpLoop_total (buf : Bytes) (pos : Nat) :
    ∃ r, (∀ fuel, buf.length - pos < fuel → readLpLoop buf fuel pos [] = some r) ∧
      ∀ out stop, r = .ok (out, stop) → pos < stop ∧ stop ≤ buf.length ∧
        IsLp out ((buf.drop pos).take (stop - pos)) := by
  have hdrop : (buf.drop pos).length = buf.length - pos := List.length_drop
  refine ⟨(readLp (buf.length - pos) (buf.drop pos)).map fun r => ([] ++ r.1, buf.length - r.2.length),
    ?_, ?_⟩
  · intro fuel hfuel
    rw [readLpLoop_eq hfuel, readLp_fuel (by omega) (by omega : _ ≤ buf.length - pos)]
  · intro out stop hr
    cases hread : readLp (buf.length - pos) (buf.drop pos) with
    | error e =>
      rw [hread] at hr
      cases hr
    | ok r =>
      obtain ⟨x, rest⟩ := r
      rw [hread] at hr
      simp only [Except.map, List.nil_append, Except.ok.injEq, Prod.mk.injEq] at hr
      obtain ⟨rfl, rfl⟩ := hr
      obtain ⟨p, hp, hbuf⟩ := isLp_of_readLp hread
      have hlen : p.length + rest.length = buf.length - pos := by
        rw [← hdrop, hbuf, List.length_append]
      have hpos : 0 < p.length := by
        rcases hp.cases with ⟨_, rfl⟩ | ⟨chunk, x', b', _, _, _, rfl⟩
        · simp
        · simp
      refine ⟨by omega, by omega, ?_⟩
      rw [hbuf, show buf.length - rest.length - pos = p.length by omega, List.take_left]
      exact hp

/-! ## `parse_stamp_addr` -/

/-- stamp の宛先の綴り。IP だけか、port の付いたもので、IPv6 は `[..]` で囲んでよい。 -/
inductive StampAddr (std : StdText) (s : String) : SocketAddr → Prop
  | socket {addr : SocketAddr} (h : std.parseSocketAddr s = some addr) : StampAddr std s addr
  /-- port を略した IP。 -/
  | bare {ip : IpAddr} (hsocket : std.parseSocketAddr s = none) (h : std.parseIp s = some ip) :
      StampAddr std s { ip, port := 443 }
  /-- `[..]` で囲み、port を略した IP。 -/
  | bracketed {ip : IpAddr} {host : Text} (hsocket : std.parseSocketAddr s = none)
      (hip : std.parseIp s = none) (hs : s.toList = '[' :: (host ++ [']'])) (hhost : ']' ∉ host)
      (h : std.parseIp (String.ofList host) = some ip) : StampAddr std s { ip, port := 443 }
  /-- `[..]` で囲み、port を付けた IP。 -/
  | bracketedPort {ip : IpAddr} {host portStr : Text} {port : UInt16}
      (hsocket : std.parseSocketAddr s = none) (hip : std.parseIp s = none)
      (hs : s.toList = '[' :: (host ++ ']' :: ':' :: portStr)) (hhost : ']' ∉ host)
      (h : std.parseIp (String.ofList host) = some ip) (hport : Text.parseU16 portStr = some port) :
      StampAddr std s { ip, port }

/-- **`parse_stamp_addr` が読めるのは、`StampAddr` の綴り、かつそれだけである。** -/
theorem parseStampAddr_iff {std : StdText} {s : String} {addr : SocketAddr} :
    parseStampAddr std s = some addr ↔ StampAddr std s addr := by
  constructor
  · intro h
    unfold parseStampAddr at h
    split at h
    · next a hsocket =>
      cases h
      exact .socket hsocket
    next hsocket =>
    split at h
    · next ip hip =>
      cases h
      exact .bare hsocket hip
    next hip =>
    split at h
    · next inner hs =>
      rcases Text.splitOnce_char ']' inner with ⟨host, rest, hsplit, rfl, hhost⟩ | ⟨hsplit, _⟩
      · rw [hsplit] at h
        dsimp only at h
        split at h
        · cases h
        next ip hparse =>
        split at h
        · cases h
          exact .bracketed hsocket hip hs hhost hparse
        · next portStr =>
          obtain ⟨port, hport, rfl⟩ := Option.map_eq_some_iff.mp h
          exact .bracketedPort hsocket hip hs hhost hparse hport
        · cases h
      · rw [hsplit] at h
        cases h
    · cases h
  · intro h
    unfold parseStampAddr
    cases h with
    | socket h => rw [h]
    | bare hsocket h => rw [hsocket, h]
    | bracketed hsocket hip hs hhost h =>
      simp only [hsocket, hip, hs, Text.splitOnce_char_append hhost, h]
    | bracketedPort hsocket hip hs hhost h hport =>
      simp only [hsocket, hip, hs, Text.splitOnce_char_append hhost, h, hport, Option.map_some]

/-! ## `parse_dnscrypt_stamp` -/

theorem fromUtf8_ok_iff {std : StdText} {what s : String} {b : Bytes} :
    fromUtf8 std what b = .ok s ↔ b = Utf8.encode s := by
  unfold fromUtf8
  constructor
  · intro h
    cases hdec : Utf8.decode b with
    | none =>
      rw [hdec] at h
      cases h
    | some t =>
      rw [hdec] at h
      cases h
      exact (Utf8.encode_of_decode hdec).symm
  · rintro rfl
    rw [Utf8.decode_encode]

theorem ofBytes?_eq_some_iff {n : Nat} {b : Bytes} {block : Block n} :
    Block.ofBytes? n b = some block ↔ b = block.1 := by
  constructor
  · intro h
    unfold Block.ofBytes? at h
    split at h
    · cases h
      rfl
    · cases h
  · rintro rfl
    exact Block.ofBytes?_self block

/-- stamp の byte 列。最後の `trailing` は読まれない。 -/
def IsStampBytes (std : StdText) (bytes : Bytes) (stamp : DnsCryptStamp) : Prop :=
  ∃ props addr key name trailing addrStr,
    bytes = 0x01 :: (props ++ (addr ++ (key ++ (name ++ trailing)))) ∧ props.length = 8 ∧
      IsLp (Utf8.encode addrStr) addr ∧ StampAddr std addrStr stamp.addr ∧
      IsLp stamp.providerPublicKey.1 key ∧ IsLp (Utf8.encode stamp.providerName) name

/-- base64 を解いた後。 -/
theorem parseStampBytes_iff {std : StdText} {text : String} {bytes : Bytes}
    {stamp : DnsCryptStamp} :
    parseStampBytes std text bytes = .ok stamp ↔ IsStampBytes std bytes stamp := by
  unfold parseStampBytes IsStampBytes
  cases bytes with
  | nil => simp
  | cons proto tail =>
    dsimp only
    by_cases hproto : proto = 0x01
    · subst hproto
      rw [if_neg (by simp)]
      by_cases hprops : tail.length < 8
      · rw [if_pos hprops]
        constructor
        · intro h
          cases h
        · rintro ⟨props, addr, key, name, trailing, addrStr, hbytes, hlen, -⟩
          have htail := (List.cons.inj hbytes).2
          rw [htail, List.length_append] at hprops
          omega
      · rw [if_neg hprops]
        simp only [Except.bind_eq_ok_iff, Prod.exists, fromUtf8_ok_iff]
        constructor
        · rintro ⟨addrBytes, rest, haddr, addrStr, rfl, pkBytes, rest', hkey, nameBytes, trailing,
            hname, providerName, rfl, h⟩
          split at h
          · cases h
          next providerPublicKey hpk =>
          split at h
          · cases h
          next sockAddr hsockAddr =>
          cases h
          obtain rfl := ofBytes?_eq_some_iff.mp hpk
          obtain ⟨addr, hisAddr, htail⟩ := isLp_of_readLp haddr
          obtain ⟨key, hisKey, rfl⟩ := isLp_of_readLp hkey
          obtain ⟨name, hisName, rfl⟩ := isLp_of_readLp hname
          refine ⟨tail.take 8, addr, key, name, trailing, addrStr, ?_, ?_, hisAddr,
            parseStampAddr_iff.mp hsockAddr, hisKey, hisName⟩
          · rw [← htail, List.take_append_drop]
          · rw [List.length_take]
            omega
        · rintro ⟨props, addr, key, name, trailing, addrStr, hbytes, hlen, hisAddr, hstamp, hisKey,
            hisName⟩
          obtain rfl := (List.cons.inj hbytes).2
          rw [List.drop_left' hlen]
          simp only [List.length_cons, List.length_append]
          refine ⟨_, _, readLp_of_isLp _ hisAddr (by omega), addrStr, rfl, _, _,
            readLp_of_isLp _ hisKey (by omega), _, _, readLp_of_isLp _ hisName (by omega), _, rfl,
            ?_⟩
          rw [Block.ofBytes?_self, parseStampAddr_iff.mpr hstamp]
    · rw [if_pos hproto]
      constructor
      · intro h
        cases h
      · rintro ⟨props, addr, key, name, trailing, addrStr, hbytes, -⟩
        exact absurd (List.cons.inj hbytes).1 hproto

/-- stamp の綴り。 -/
def IsStamp (std : StdText) (s : String) (stamp : DnsCryptStamp) : Prop :=
  ∃ bytes, s.toList = "sdns://".toList ++ Base64.encode bytes ∧ IsStampBytes std bytes stamp

/--
**`parse_dnscrypt_stamp` が受け付けるのは `IsStamp` の綴りだけで、その宛先・鍵・名前を返す。
`read_lp` はどの入力でも止まり、`buf` の外を読まない。**
-/
theorem parseDnscryptStamp_iff (std : StdText) :
    (∀ s stamp, parseDnscryptStamp std s = .ok stamp ↔ IsStamp std s stamp) ∧
      ∀ buf pos, ∃ r, (∀ fuel, buf.length - pos < fuel → readLpLoop buf fuel pos [] = some r) ∧
        ∀ out stop, r = .ok (out, stop) → pos < stop ∧ stop ≤ buf.length ∧
          IsLp out ((buf.drop pos).take (stop - pos)) := by
  refine ⟨fun s stamp => ?_, readLpLoop_total⟩
  unfold parseDnscryptStamp IsStamp
  dsimp only
  cases hprefix : "sdns://".toList.isPrefixOf? s.toList with
  | none =>
    constructor
    · intro h
      cases h
    · rintro ⟨bytes, hs, -⟩
      rw [List.isPrefixOf?_eq_some_iff_append_eq.mpr hs.symm] at hprefix
      cases hprefix
  | some payload =>
    have hs : s.toList = "sdns://".toList ++ payload :=
      (List.isPrefixOf?_eq_some_iff_append_eq.mp hprefix).symm
    simp only [hs, List.append_cancel_left_eq, ← Base64.decode_eq_some_iff]
    cases Base64.decode payload with
    | none => simp
    | some bytes => simp [parseStampBytes_iff]

end DnsProxy
