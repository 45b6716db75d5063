import Mathlib.Data.List.Basic

/-!
# byte 列

Rust の `Vec<u8>` / `&[u8]` を `List UInt8` で写す。長さと中身だけが意味を持ち、
容量や所有権には誰も触れないので、これで足りる。

整数は network byte order（big-endian）で並ぶ。`u16::to_be_bytes` と
`u16::from_be_bytes` は互いに逆であり、その往復だけをここで示す。
-/

namespace Infra

/-- byte の列。 -/
abbrev Bytes := List UInt8

namespace Bytes

/-! ## big-endian の 16 bit -/

/-- `u16::to_be_bytes`。 -/
def toBe16 (n : UInt16) : Bytes := [UInt8.ofNat (n.toNat / 256), UInt8.ofNat (n.toNat % 256)]

/-- `u16::from_be_bytes`。 -/
def ofBe16 (hi lo : UInt8) : UInt16 := UInt16.ofNat (hi.toNat * 256 + lo.toNat)

@[simp] theorem toBe16_length (n : UInt16) : (toBe16 n).length = 2 := rfl

theorem ofBe16_toBe16 (n : UInt16) :
    ofBe16 (UInt8.ofNat (n.toNat / 256)) (UInt8.ofNat (n.toNat % 256)) = n := by
  have hn : n.toNat < 65536 := n.toNat_lt
  have h1 : (UInt8.ofNat (n.toNat / 256)).toNat = n.toNat / 256 := by
    rw [UInt8.toNat_ofNat']; omega
  have h2 : (UInt8.ofNat (n.toNat % 256)).toNat = n.toNat % 256 := by
    rw [UInt8.toNat_ofNat']; omega
  unfold ofBe16
  rw [h1, h2, show n.toNat / 256 * 256 + n.toNat % 256 = n.toNat by omega]
  simp

/-! ## big-endian の 32 bit -/

/-- `u32::to_be_bytes`。 -/
def toBe32 (n : UInt32) : Bytes :=
  [UInt8.ofNat (n.toNat / 16777216), UInt8.ofNat (n.toNat / 65536 % 256),
    UInt8.ofNat (n.toNat / 256 % 256), UInt8.ofNat (n.toNat % 256)]

/-- `u32::from_be_bytes`。 -/
def ofBe32 (a b c d : UInt8) : UInt32 :=
  UInt32.ofNat (a.toNat * 16777216 + b.toNat * 65536 + c.toNat * 256 + d.toNat)

@[simp] theorem toBe32_length (n : UInt32) : (toBe32 n).length = 4 := rfl

theorem ofBe32_toBe32 (n : UInt32) :
    ofBe32 (UInt8.ofNat (n.toNat / 16777216)) (UInt8.ofNat (n.toNat / 65536 % 256))
      (UInt8.ofNat (n.toNat / 256 % 256)) (UInt8.ofNat (n.toNat % 256)) = n := by
  have hn : n.toNat < 4294967296 := n.toNat_lt
  have h1 : (UInt8.ofNat (n.toNat / 16777216)).toNat = n.toNat / 16777216 := by
    rw [UInt8.toNat_ofNat']; omega
  have h2 : (UInt8.ofNat (n.toNat / 65536 % 256)).toNat = n.toNat / 65536 % 256 := by
    rw [UInt8.toNat_ofNat']; omega
  have h3 : (UInt8.ofNat (n.toNat / 256 % 256)).toNat = n.toNat / 256 % 256 := by
    rw [UInt8.toNat_ofNat']; omega
  have h4 : (UInt8.ofNat (n.toNat % 256)).toNat = n.toNat % 256 := by
    rw [UInt8.toNat_ofNat']; omega
  unfold ofBe32
  rw [h1, h2, h3, h4]
  rw [show n.toNat / 16777216 * 16777216 + n.toNat / 65536 % 256 * 65536
      + n.toNat / 256 % 256 * 256 + n.toNat % 256 = n.toNat by omega]
  simp

theorem toBe32_ofBe32 (a b c d : UInt8) : toBe32 (ofBe32 a b c d) = [a, b, c, d] := by
  have ha := a.toNat_lt
  have hb := b.toNat_lt
  have hc := c.toNat_lt
  have hd := d.toNat_lt
  have hn : (ofBe32 a b c d).toNat
      = a.toNat * 16777216 + b.toNat * 65536 + c.toNat * 256 + d.toNat := by
    unfold ofBe32
    rw [UInt32.toNat_ofNat']
    omega
  have h1 : (ofBe32 a b c d).toNat / 16777216 = a.toNat := by omega
  have h2 : (ofBe32 a b c d).toNat / 65536 % 256 = b.toNat := by omega
  have h3 : (ofBe32 a b c d).toNat / 256 % 256 = c.toNat := by omega
  have h4 : (ofBe32 a b c d).toNat % 256 = d.toNat := by omega
  unfold toBe32
  rw [h1, h2, h3, h4]
  simp

end Bytes

/-! ## 長さの決まった列 -/

/-- `[u8; n]`。 -/
abbrev Block (n : Nat) := { b : Bytes // b.length = n }

namespace Block

/-- `u16::from_be_bytes`。 -/
def be16 : Block 2 → UInt16
  | ⟨[hi, lo], _⟩ => Bytes.ofBe16 hi lo

/-- `u32::from_be_bytes`。 -/
def be32 : Block 4 → UInt32
  | ⟨[a, b, c, d], _⟩ => Bytes.ofBe32 a b c d

/-- `slice.try_into()`。長さが合わなければ無い。 -/
def ofBytes? (n : Nat) (b : Bytes) : Option (Block n) := if h : b.length = n then some ⟨b, h⟩ else none

/-- 二つを繋いだもの。 -/
def append {m n : Nat} (a : Block m) (b : Block n) : Block (m + n) :=
  ⟨a.1 ++ b.1, by rw [List.length_append, a.2, b.2]⟩

/-- 零を並べたもの。 -/
def zeros (n : Nat) : Block n := ⟨List.replicate n 0, List.length_replicate⟩

theorem be16_toBe16 (n : UInt16) : be16 ⟨Bytes.toBe16 n, rfl⟩ = n := Bytes.ofBe16_toBe16 n

theorem be32_toBe32 (n : UInt32) : be32 ⟨Bytes.toBe32 n, rfl⟩ = n := Bytes.ofBe32_toBe32 n

theorem ofBytes?_self {n : Nat} (b : Block n) : ofBytes? n b.1 = some b := dif_pos b.2

end Block

/-! ## 溜まった列から読む -/

/-- 溜まった byte 列から、ちょうど `n` byte を取る。 -/
def takeExact (n : Nat) (b : Bytes) : Option (Block n) :=
  if h : n ≤ b.length then some ⟨b.take n, by rw [List.length_take]; omega⟩ else none

theorem takeExact_append {n : Nat} (a : Block n) (rest : Bytes) :
    takeExact n (a.1 ++ rest) = some a := by
  have hn : n ≤ (a.1 ++ rest).length := by rw [List.length_append, a.2]; omega
  unfold takeExact
  rw [dif_pos hn]
  congr 1
  exact Subtype.ext (List.take_left' a.2)

theorem takeExact_none {n : Nat} {b : Bytes} (h : b.length < n) : takeExact n b = none :=
  dif_neg (by omega)

/-- `u16` の長さは、そのまま読み戻せる。 -/
theorem be16_length {b : Bytes} (h : b.length ≤ 65535) :
    b.length = (Block.be16 ⟨Bytes.toBe16 (UInt16.ofNat b.length), rfl⟩).toNat := by
  rw [Block.be16_toBe16, UInt16.toNat_ofNat']
  omega

end Infra
