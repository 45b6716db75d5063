import DnsProxy.Infra.Bytes
import DnsProxy.Infra.Text

/-!
# domain name

hickory の `Name` を、label の列と「絶対名かどうか」の組で写す。wire から読んだ label は
任意の byte を含みうるので、label は文字列ではなく byte 列である。

比較は三種類ある。

* `=` — 綴りまで同じ
* `Name.ciEq` — Rust の `==`。ASCII の大小を無視するが、絶対名かどうかは見る
* `Name.eqIgnoreRoot` — さらに絶対名かどうかも見ない
-/

namespace DnsProxy

open Infra

/-- 一つの label。 -/
abbrev Label := Bytes

/-- `u8::to_ascii_lowercase`。 -/
def lowerByte (b : UInt8) : UInt8 := if 0x41 ≤ b ∧ b ≤ 0x5A then b + 0x20 else b

/-- label の ASCII 小文字化。 -/
def lowerLabel (l : Label) : Label := l.map lowerByte

/-- label の列と、絶対名（末尾の `.` を持つ）かどうか。 -/
structure Name where
  labels : List Label
  isFqdn : Bool
  deriving DecidableEq, Repr, Inhabited

namespace Name

/-- ASCII の大小を潰した label の列。比較はすべてこれを通る。 -/
def lowerLabels (n : Name) : List Label := n.labels.map lowerLabel

/-- `Name::eq_ignore_root`。 -/
def eqIgnoreRoot (a b : Name) : Bool := a.lowerLabels == b.lowerLabels

/-- `Name` の `PartialEq::eq`。 -/
def ciEq (a b : Name) : Bool := a.isFqdn == b.isFqdn && a.eqIgnoreRoot b

theorem eqIgnoreRoot_iff (a b : Name) : a.eqIgnoreRoot b = true ↔ a.lowerLabels = b.lowerLabels := by
  simp [eqIgnoreRoot]

theorem ciEq_iff (a b : Name) :
    a.ciEq b = true ↔ a.isFqdn = b.isFqdn ∧ a.lowerLabels = b.lowerLabels := by
  simp [ciEq, eqIgnoreRoot_iff]

@[simp] theorem ciEq_refl (a : Name) : a.ciEq a = true := by simp [ciEq_iff]

@[simp] theorem eqIgnoreRoot_refl (a : Name) : a.eqIgnoreRoot a = true := by
  simp [eqIgnoreRoot_iff]

end Name

/-! ## 表示形式 -/

/--
`Label::write_ascii` の一 byte 分。`escapeByte first b` の `first` は label の先頭かどうかである。

hickory の中の話なので、使う性質だけを挙げる。label の中の `.` は `\.` と書かれ、
ほかの byte から `.` が出ることはなく、英字の大小は綴りの大小にしか現れない。
-/
structure LabelEscape where
  escapeByte : Bool → UInt8 → Text
  dot : ∀ first, escapeByte first 0x2E = ['\\', '.']
  noDot : ∀ first b, b ≠ 0x2E → '.' ∉ escapeByte first b
  lower : ∀ first b, (escapeByte first (lowerByte b)).toAsciiLowercase
    = (escapeByte first b).toAsciiLowercase

/-- 一つの label を書き出す。 -/
def Label.toAscii (e : LabelEscape) : Label → Text
  | [] => []
  | b :: rest => e.escapeByte true b ++ rest.flatMap (e.escapeByte false)

/-- `Name::to_ascii`。label を `.` で繋ぎ、絶対名なら `.` で終える。 -/
def Name.toAscii (e : LabelEscape) (n : Name) : Text :=
  List.intercalate ['.'] (n.labels.map (Label.toAscii e)) ++ if n.isFqdn then ['.'] else []

/-- `is_safe_ascii`。そのまま書いてよい文字。 -/
def isSafeAscii (first : Bool) (c : Char) : Bool :=
  c.isAlphanum || (c == '-' && !first) || c == '_' || (c == '*' && first)

/-- hickory の escape。印字できる文字は `\` を前に置き、ほかは 8 進の三桁で書く。 -/
def hickoryEscapeByte (first : Bool) (b : UInt8) : Text :=
  let c := Char.ofNat b.toNat
  if isSafeAscii first c then [c]
  else if 0x20 < b ∧ b < 0x7F then ['\\', c]
  else '\\' :: [b.toNat / 64, b.toNat / 8 % 8, b.toNat % 8].map Nat.digitChar

theorem hickoryEscapeByte_spec (first : Bool) (b : UInt8) :
    (b ≠ 0x2E → '.' ∉ hickoryEscapeByte first b) ∧
    (hickoryEscapeByte first (lowerByte b)).toAsciiLowercase
      = (hickoryEscapeByte first b).toAsciiLowercase := by
  -- 256 通りをすべて計算する
  have hall : ∀ (n : Fin 256) (first : Bool),
      (UInt8.ofFin n ≠ 0x2E → '.' ∉ hickoryEscapeByte first (UInt8.ofFin n)) ∧
      (hickoryEscapeByte first (lowerByte (UInt8.ofFin n))).toAsciiLowercase
        = (hickoryEscapeByte first (UInt8.ofFin n)).toAsciiLowercase := by
    decide +kernel
  exact hall b.toFin first

/-- hickory の escape は上の性質を持つ。 -/
def hickoryEscape : LabelEscape where
  escapeByte := hickoryEscapeByte
  dot := by decide
  noDot first b := (hickoryEscapeByte_spec first b).1
  lower first b := (hickoryEscapeByte_spec first b).2

end DnsProxy
