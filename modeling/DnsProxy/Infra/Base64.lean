import DnsProxy.Infra.Bytes
import Mathlib.Data.List.DropRight

/-!
# base64

RFC 4648 §5 の URL-safe な base64 で、padding を付けない（`URL_SAFE_NO_PAD`）。
三 byte を四文字に、余りの二 byte を三文字に、一 byte を二文字にする。
§4 の標準の base64（`STANDARD`）は、二つの文字を替えて padding を付けたものである。

decode は strict で、padding も、余りの bit が零でないものも受け付けない。
`decode_encode` が往復であり、読めるのは符号化したものだけである（`decode_eq_some_iff`）。
-/

namespace Infra.Base64

/-! ## 文字と 6 bit の値 -/

/-- 6 bit の値の文字。 -/
def toChar (n : Nat) : Char :=
  if n < 26 then Char.ofNat (0x41 + n)
  else if n < 52 then Char.ofNat (0x61 + (n - 26))
  else if n < 62 then Char.ofNat (0x30 + (n - 52))
  else if n = 62 then '-'
  else '_'

/-- 文字の 6 bit の値。 -/
def ofChar (c : Char) : Option Nat :=
  let n := c.toNat
  if 0x41 ≤ n ∧ n ≤ 0x5A then some (n - 0x41)
  else if 0x61 ≤ n ∧ n ≤ 0x7A then some (n - 0x61 + 26)
  else if 0x30 ≤ n ∧ n ≤ 0x39 then some (n - 0x30 + 52)
  else if c = '-' then some 62
  else if c = '_' then some 63
  else none

theorem ofChar_toChar {n : Nat} (h : n < 64) : ofChar (toChar n) = some n := by
  have hall : ∀ k : Fin 64, ofChar (toChar k.val) = some k.val := by decide
  exact hall ⟨n, h⟩

/-- 値のある文字は、その値の文字である。 -/
theorem toChar_ofChar {c : Char} {n : Nat} (h : ofChar c = some n) : toChar n = c ∧ n < 64 := by
  have hall : ∀ k : Fin 128, ∀ n ∈ ofChar (Char.ofNat k.1), toChar n = Char.ofNat k.1 ∧ n < 64 := by
    decide
  have hc : c.toNat < 128 := by
    unfold ofChar at h
    dsimp only at h
    split at h
    · omega
    · split at h
      · omega
      · split at h
        · omega
        · split at h
          · next he => subst he; decide
          · split at h
            · next he => subst he; decide
            · cases h
  have hk := hall ⟨c.toNat, hc⟩ n
  dsimp only at hk
  rw [Char.ofNat_toNat] at hk
  exact hk h

/-! ## 符号化 -/

def encode : Bytes → List Char
  | a :: b :: c :: rest =>
    let n := a.toNat * 65536 + b.toNat * 256 + c.toNat
    toChar (n / 262144) :: toChar (n / 4096 % 64) :: toChar (n / 64 % 64) :: toChar (n % 64) ::
      encode rest
  | [a, b] =>
    let n := a.toNat * 1024 + b.toNat * 4
    [toChar (n / 4096), toChar (n / 64 % 64), toChar (n % 64)]
  | [a] =>
    let n := a.toNat * 16
    [toChar (n / 64), toChar (n % 64)]
  | [] => []

def decode : List Char → Option Bytes
  | w :: x :: y :: z :: rest =>
    match ofChar w, ofChar x, ofChar y, ofChar z, decode rest with
    | some w, some x, some y, some z, some tail =>
      let n := w * 262144 + x * 4096 + y * 64 + z
      some (UInt8.ofNat (n / 65536) :: UInt8.ofNat (n / 256 % 256) :: UInt8.ofNat (n % 256) :: tail)
    | _, _, _, _, _ => none
  | [w, x, y] =>
    match ofChar w, ofChar x, ofChar y with
    | some w, some x, some y =>
      let n := w * 4096 + x * 64 + y
      -- 余りの 2 bit は零でなければならない
      if n % 4 = 0 then some [UInt8.ofNat (n / 1024), UInt8.ofNat (n / 4 % 256)] else none
    | _, _, _ => none
  | [w, x] =>
    match ofChar w, ofChar x with
    | some w, some x =>
      let n := w * 64 + x
      if n % 16 = 0 then some [UInt8.ofNat (n / 16)] else none
    | _, _ => none
  | [_] => none
  | [] => some []

/-- 元の byte に等しい数から作った byte は元の byte である。 -/
theorem ofNat_eq {a : UInt8} {n : Nat} (h : n = a.toNat) : UInt8.ofNat n = a := by
  rw [h]
  simp

/-- **符号化したものは読み戻せる。** -/
theorem decode_encode : ∀ b : Bytes, decode (encode b) = some b
  | [] => rfl
  | [a] => by
    have ha := a.toNat_lt
    simp only [encode, decode]
    rw [ofChar_toChar (by omega), ofChar_toChar (by omega)]
    dsimp only
    rw [if_pos (by omega), ofNat_eq (a := a) (by omega)]
  | [a, b] => by
    have ha := a.toNat_lt
    have hb := b.toNat_lt
    simp only [encode, decode]
    rw [ofChar_toChar (by omega), ofChar_toChar (by omega), ofChar_toChar (by omega)]
    dsimp only
    rw [if_pos (by omega), ofNat_eq (a := a) (by omega), ofNat_eq (a := b) (by omega)]
  | a :: b :: c :: rest => by
    have ha := a.toNat_lt
    have hb := b.toNat_lt
    have hc := c.toNat_lt
    simp only [encode, decode]
    rw [ofChar_toChar (by omega), ofChar_toChar (by omega), ofChar_toChar (by omega),
      ofChar_toChar (by omega), decode_encode rest]
    dsimp only
    rw [ofNat_eq (a := a) (by omega), ofNat_eq (a := b) (by omega), ofNat_eq (a := c) (by omega)]

/-- 読めるのは、符号化したものだけである。 -/
theorem encode_of_decode : ∀ {s : List Char} {b : Bytes}, decode s = some b → encode b = s
  | [], b, h => by
    cases h
    rfl
  | [_], b, h => by cases h
  | [w, x], b, h => by
    unfold decode at h
    split at h
    · next w' x' hw hx =>
      obtain ⟨rfl, hw⟩ := toChar_ofChar hw
      obtain ⟨rfl, hx⟩ := toChar_ofChar hx
      dsimp only at h
      split at h
      · next hz =>
        cases h
        obtain ⟨n, hn⟩ : ∃ n, n = w' * 64 + x' := ⟨_, rfl⟩
        have hback : n / 16 % 2 ^ 8 * 16 = n := by
          rw [← hn] at hz
          omega
        simp only [encode, UInt8.toNat_ofNat', ← hn, hback]
        rw [show n / 64 = w' by omega, show n % 64 = x' by omega]
      · cases h
    · cases h
  | [w, x, y], b, h => by
    unfold decode at h
    split at h
    · next w' x' y' hw hx hy =>
      obtain ⟨rfl, hw⟩ := toChar_ofChar hw
      obtain ⟨rfl, hx⟩ := toChar_ofChar hx
      obtain ⟨rfl, hy⟩ := toChar_ofChar hy
      dsimp only at h
      split at h
      · next hz =>
        cases h
        -- 三文字の値 `n` は、余りの bit を除いて元に戻る
        obtain ⟨n, hn⟩ : ∃ n, n = w' * 4096 + x' * 64 + y' := ⟨_, rfl⟩
        have hback : n / 1024 % 2 ^ 8 * 1024 + n / 4 % 256 % 2 ^ 8 * 4 = n := by
          rw [← hn] at hz
          omega
        simp only [encode, UInt8.toNat_ofNat', ← hn, hback]
        rw [show n / 4096 = w' by omega, show n / 64 % 64 = x' by omega, show n % 64 = y' by omega]
      · cases h
    · cases h
  | w :: x :: y :: z :: rest, b, h => by
    rw [decode] at h
    split at h
    · next w' x' y' z' tail hw hx hy hz htail =>
      obtain ⟨rfl, hw⟩ := toChar_ofChar hw
      obtain ⟨rfl, hx⟩ := toChar_ofChar hx
      obtain ⟨rfl, hy⟩ := toChar_ofChar hy
      obtain ⟨rfl, hz⟩ := toChar_ofChar hz
      cases h
      obtain ⟨n, hn⟩ : ∃ n, n = w' * 262144 + x' * 4096 + y' * 64 + z' := ⟨_, rfl⟩
      have hback : n / 65536 % 2 ^ 8 * 65536 + n / 256 % 256 % 2 ^ 8 * 256 + n % 256 % 2 ^ 8 = n := by
        omega
      simp only [encode, UInt8.toNat_ofNat', ← hn, hback, encode_of_decode htail]
      rw [show n / 262144 = w' by omega, show n / 4096 % 64 = x' by omega,
        show n / 64 % 64 = y' by omega, show n % 64 = z' by omega]
    · cases h

/-- **読めて `b` になるのは、`b` を符号化したもの、かつそれだけである。** -/
theorem decode_eq_some_iff {s : List Char} {b : Bytes} : decode s = some b ↔ s = encode b := by
  constructor
  · intro h
    exact (encode_of_decode h).symm
  · rintro rfl
    exact decode_encode b

/-- 符号の文字は、どれも 6 bit の値の文字である。 -/
theorem mem_encode : ∀ {b : Bytes} {c : Char}, c ∈ encode b → ∃ n : Fin 64, c = toChar n.val
  | [], c, h => by simp [encode] at h
  | [a], c, h => by
    have ha := a.toNat_lt
    simp only [encode, List.mem_cons, List.not_mem_nil, or_false] at h
    rcases h with rfl | rfl
    · exact ⟨⟨_, by omega⟩, rfl⟩
    · exact ⟨⟨_, by omega⟩, rfl⟩
  | [a, b], c, h => by
    have ha := a.toNat_lt
    have hb := b.toNat_lt
    simp only [encode, List.mem_cons, List.not_mem_nil, or_false] at h
    rcases h with rfl | rfl | rfl
    · exact ⟨⟨_, by omega⟩, rfl⟩
    · exact ⟨⟨_, by omega⟩, rfl⟩
    · exact ⟨⟨_, by omega⟩, rfl⟩
  | a :: b :: c :: rest, d, h => by
    have ha := a.toNat_lt
    have hb := b.toNat_lt
    have hc := c.toNat_lt
    simp only [encode, List.mem_cons] at h
    rcases h with rfl | rfl | rfl | rfl | h
    · exact ⟨⟨_, by omega⟩, rfl⟩
    · exact ⟨⟨_, by omega⟩, rfl⟩
    · exact ⟨⟨_, by omega⟩, rfl⟩
    · exact ⟨⟨_, by omega⟩, rfl⟩
    · exact mem_encode h

theorem encode_injective {a b : Bytes} (h : encode a = encode b) : a = b := by
  have hdec := decode_encode a
  rw [h, decode_encode] at hdec
  exact (Option.some.inj hdec).symm

/-! ## 標準の base64 -/

/-- RFC 4648 §4 の表は、末尾の二文字だけが URL-safe なものと違う。 -/
def standardChar (c : Char) : Char :=
  if c = '-' then '+' else if c = '_' then '/' else c

/-- URL-safe な文字に戻す。 -/
def urlChar (c : Char) : Char :=
  if c = '+' then '-' else if c = '/' then '_' else c

/-- 四文字の組に足りない分の `=`。 -/
def padding (b : Bytes) : List Char := List.replicate ((3 - b.length % 3) % 3) '='

/-- RFC 4648 §4 の、padding の付いた base64（`STANDARD`）。 -/
def encodeStandard (b : Bytes) : List Char := (encode b).map standardChar ++ padding b

/-- 標準の base64 を読む。padding は過不足なく付いていなければならない。 -/
def decodeStandard (s : List Char) : Option Bytes :=
  let code := s.rdropWhile (· = '=')
  -- `-` と `_` は標準の表に無い
  if '-' ∈ code ∨ '_' ∈ code then none
  else
    match decode (code.map urlChar) with
    | none => none
    | some b => if s = code ++ padding b then some b else none

/-- 標準の文字は `=` ではなく、元の文字に戻せる。 -/
theorem standardChar_toChar : ∀ n : Fin 64,
    standardChar (toChar n.val) ≠ '=' ∧ urlChar (standardChar (toChar n.val)) = toChar n.val := by
  decide

theorem mem_map_standardChar {b : Bytes} {c : Char} (h : c ∈ (encode b).map standardChar) :
    ∃ n : Fin 64, c = standardChar (toChar n.val) := by
  obtain ⟨d, hd, rfl⟩ := List.mem_map.mp h
  obtain ⟨n, rfl⟩ := mem_encode hd
  exact ⟨n, rfl⟩

theorem map_urlChar (b : Bytes) : ((encode b).map standardChar).map urlChar = encode b := by
  have hback : ∀ c ∈ encode b, (urlChar ∘ standardChar) c = id c := by
    intro c hc
    obtain ⟨n, rfl⟩ := mem_encode hc
    exact (standardChar_toChar n).2
  rw [List.map_map, List.map_congr_left hback, List.map_id]

/-- padding を落とすと、符号だけが残る。 -/
theorem rdropWhile_encodeStandard (b : Bytes) :
    (encodeStandard b).rdropWhile (· = '=') = (encode b).map standardChar := by
  have hcode : ((encode b).map standardChar).rdropWhile (· = '=') = (encode b).map standardChar := by
    rw [List.rdropWhile_eq_self_iff]
    intro hne
    obtain ⟨n, hn⟩ := mem_map_standardChar (List.getLast_mem hne)
    rw [hn]
    simpa using (standardChar_toChar n).1
  unfold encodeStandard padding
  rw [List.rdropWhile, List.reverse_append, List.reverse_replicate,
    List.dropWhile_append_of_pos (by simp), ← List.rdropWhile, hcode]

/-- **標準の base64 も読み戻せる。** -/
theorem decodeStandard_encodeStandard (b : Bytes) : decodeStandard (encodeStandard b) = some b := by
  have hstd : ∀ c ∈ (encode b).map standardChar, c ≠ '-' ∧ c ≠ '_' := by
    have hall : ∀ n : Fin 64, standardChar (toChar n.val) ≠ '-' ∧ standardChar (toChar n.val) ≠ '_' := by
      decide
    intro c hc
    obtain ⟨n, rfl⟩ := mem_map_standardChar hc
    exact hall n
  unfold decodeStandard
  dsimp only
  rw [rdropWhile_encodeStandard, if_neg, map_urlChar, decode_encode]
  · exact if_pos rfl
  · rintro (h | h)
    · exact (hstd _ h).1 rfl
    · exact (hstd _ h).2 rfl

theorem encodeStandard_injective {a b : Bytes} (h : encodeStandard a = encodeStandard b) : a = b := by
  have hdec := decodeStandard_encodeStandard a
  rw [h, decodeStandard_encodeStandard] at hdec
  exact (Option.some.inj hdec).symm

end Infra.Base64
