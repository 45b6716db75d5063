import Mathlib.Algebra.Order.Ring.Nat
import DnsProxy.Client.Net
import DnsProxy.Main
import DnsProxy.Properties.LongestSuffix

/-!
# 私用の宛先の逆引き

`PRIVATE_REVERSE_ZONES` は逆引きの zone を手で並べた表である。これが宛先の範囲
（`IsPrivate`）とちょうど一致することを示す（`private_zones_routing`）。

綴りの比較を label の列の比較に移し（`covers_dotted`）、列を根の側から読む。そうすると zone は
名前の列の先頭の一致になり、範囲は宛先の上の桁の一致になる。
-/

namespace DnsProxy

open Infra

variable {υ : Type}

/-! ## label を `.` で終えた綴り -/

/-- label の列の綴り。どの label の後にも `.` が付く。 -/
def dotted (labels : List Text) : Text := labels.flatMap fun l => l ++ ['.']

/-- `.` の無い label の列は、綴りから読み戻せる。 -/
theorem dotted_injective {labels : List Text} (h : ∀ l ∈ labels, '.' ∉ l) :
    ∀ {labels' : List Text}, (∀ l ∈ labels', '.' ∉ l) → dotted labels = dotted labels' →
      labels = labels' := by
  have hcons : ∀ (l : Text) (rest : List Text), dotted (l :: rest) = l ++ '.' :: dotted rest := by
    simp [dotted]
  induction labels with
  | nil =>
    intro labels' _ he
    cases labels' with
    | nil => rfl
    | cons l rest => simp [dotted] at he
  | cons l rest ih =>
    intro labels' h' he
    cases labels' with
    | nil => simp [dotted] at he
    | cons l' rest' =>
      rw [hcons, hcons] at he
      have hs := Text.splitOnce_char_append (h l List.mem_cons_self) (dotted rest)
      rw [he, Text.splitOnce_char_append (h' l' List.mem_cons_self)] at hs
      obtain ⟨rfl, hrest⟩ := Prod.mk.inj (Option.some.inj hs)
      rw [ih (fun x hx => h x (List.mem_cons_of_mem _ hx))
        (fun x hx => h' x (List.mem_cons_of_mem _ hx)) hrest.symm]

/-- **切り口になる綴りは、label の列の末尾の綴りである。** -/
theorem mem_candidates_dotted {labels zone : List Text} (h : ∀ l ∈ labels, '.' ∉ l)
    (hz : ∀ l ∈ zone, '.' ∉ l) (hne : zone ≠ []) :
    dotted zone ∈ candidates (dotted labels) ↔ zone <:+ labels := by
  induction labels with
  | nil =>
    obtain ⟨l, rest, rfl⟩ := List.exists_cons_of_ne_nil hne
    simp [candidates, dotted, tailsAfterDot]
  | cons l rest ih =>
    have hrest := ih fun x hx => h x (List.mem_cons_of_mem _ hx)
    have htails : tailsAfterDot (dotted (l :: rest))
        = if dotted rest = [] then [] else candidates (dotted rest) := by
      rw [show dotted (l :: rest) = l ++ '.' :: dotted rest by simp [dotted],
        tailsAfterDot_append (h l List.mem_cons_self), tailsAfterDot_dot]
    rw [candidates, List.mem_cons, htails, List.suffix_cons_iff]
    refine or_congr ⟨dotted_injective hz h, fun he => he ▸ rfl⟩ ?_
    cases rest with
    | nil => simp [dotted, hne]
    | cons l' rest =>
      rw [if_neg (by simp [dotted]), hrest]

/-- 綴りを `.` で分けた label の列。 -/
def labelsOf (s : Text) : List Text := s.splitOnP (· == '.')

theorem dotted_labelsOf (s : Text) : dotted (labelsOf s) = s ++ ['.'] := by
  unfold labelsOf
  induction s with
  | nil => rfl
  | cons c rest ih =>
    rw [List.splitOnP_cons_eq_if_modifyHead]
    by_cases hc : c = '.'
    · subst hc
      rw [if_pos (by simp), dotted, List.flatMap_cons]
      exact congrArg ('.' :: ·) ih
    · rw [if_neg (by simpa using hc)]
      cases hs : rest.splitOnP (· == '.') with
      | nil => exact absurd hs (List.splitOnP_ne_nil _ _)
      | cons first more =>
        rw [hs] at ih
        simpa [dotted] using ih

theorem dot_notMem_labelsOf (s : Text) : ∀ l ∈ labelsOf s, '.' ∉ l := by
  unfold labelsOf
  induction s with
  | nil => simp
  | cons c rest ih =>
    rw [List.splitOnP_cons_eq_if_modifyHead]
    by_cases hc : c = '.'
    · rw [if_pos (by simpa using hc)]
      simpa using ih
    · rw [if_neg (by simpa using hc)]
      cases hs : rest.splitOnP (· == '.') with
      | nil => exact absurd hs (List.splitOnP_ne_nil _ _)
      | cons first more =>
        rw [hs] at ih
        simpa [Ne.symm hc] using ih

/-! ## 宛先の範囲 -/

/-- 上の `len` 桁が `net` と同じである。`net/len` の範囲にあることを言う。 -/
def InPrefix (width len net addr : Nat) : Prop :=
  addr / 2 ^ (width - len) = net / 2 ^ (width - len)

instance (width len net addr : Nat) : Decidable (InPrefix width len net addr) :=
  inferInstanceAs (Decidable (_ = _))

/-- 四つの数から成る IPv4 の宛先の値。 -/
def ipv4Net (a b c d : Nat) : Nat := ((a * 256 + b) * 256 + c) * 256 + d

/-- IPv6 の宛先の値。 -/
def ipv6Nat (hi lo : UInt64) : Nat := hi.toNat * 2 ^ 64 + lo.toNat

/-- 私用の宛先。 -/
def IsPrivate : IpAddr → Prop
  | .v4 octets =>
    InPrefix 32 8 (ipv4Net 10 0 0 0) octets.toNat ∨
      InPrefix 32 12 (ipv4Net 172 16 0 0) octets.toNat ∨
      InPrefix 32 16 (ipv4Net 192 168 0 0) octets.toNat ∨
      InPrefix 32 8 (ipv4Net 127 0 0 0) octets.toNat ∨
      InPrefix 32 16 (ipv4Net 169 254 0 0) octets.toNat
  | .v6 hi lo =>
    InPrefix 128 7 (0xfc00 * 2 ^ 112) (ipv6Nat hi lo) ∨
      InPrefix 128 10 (0xfe80 * 2 ^ 112) (ipv6Nat hi lo) ∨
      InPrefix 128 124 0 (ipv6Nat hi lo)

instance : DecidablePred IsPrivate
  | .v4 _ => inferInstanceAs (Decidable (_ ∨ _))
  | .v6 _ _ => inferInstanceAs (Decidable (_ ∨ _))

/-- IPv6 の宛先の 32 個の 4 bit。上の桁から並べる。 -/
def ipv6Nibbles (hi lo : UInt64) : List Nat :=
  (List.range 32).map fun i => ipv6Nat hi lo / 16 ^ (31 - i) % 16

/-- 逆引きの名前の label の列。 -/
def reverseLabels : IpAddr → List Text
  | .v4 octets =>
    ((Bytes.toBe32 octets).map fun b => Nat.toDigits 10 b.toNat).reverse
      ++ [text "in-addr", text "arpa"]
  | .v6 hi lo =>
    ((ipv6Nibbles hi lo).map fun n => Nat.toDigits 16 n).reverse ++ [text "ip6", text "arpa"]

/-- 逆引きの名前。 -/
def reverseName (ip : IpAddr) : Text := dotted (reverseLabels ip)

/-! ### 逆引きの名前の形 -/

/-- 数字は `.` でも大文字でもない。 -/
theorem plain_toDigits {base : Nat} (hb : 1 < base) (hle : base ≤ 16) (n : Nat) :
    ∀ c ∈ Nat.toDigits base n, c ≠ '.' ∧ c.toLower = c := by
  have hdigit : ∀ k : Fin 16, Nat.digitChar k.val ≠ '.' ∧
      (Nat.digitChar k.val).toLower = Nat.digitChar k.val := by decide
  exact Text.toDigits_forall hb (fun k hk => hdigit ⟨k, by omega⟩) n

theorem plain_reverseLabels (ip : IpAddr) :
    ∀ l ∈ reverseLabels ip, ∀ c ∈ l, c ≠ '.' ∧ c.toLower = c := by
  have hfixed : ∀ l ∈ [text "in-addr", text "ip6", text "arpa"], ∀ c ∈ l,
      c ≠ '.' ∧ c.toLower = c := by
    simp [text]
  intro l hl
  cases ip with
  | v4 octets =>
    rcases List.mem_append.mp hl with hl | hl
    · obtain ⟨b, -, rfl⟩ := List.mem_map.mp (List.mem_reverse.mp hl)
      exact plain_toDigits (by decide) (by decide) _
    · refine hfixed l ?_
      rcases List.mem_cons.mp hl with rfl | hl
      · simp
      · rw [List.mem_singleton.mp hl]
        simp
  | v6 hi lo =>
    rcases List.mem_append.mp hl with hl | hl
    · obtain ⟨n, -, rfl⟩ := List.mem_map.mp (List.mem_reverse.mp hl)
      exact plain_toDigits (by decide) (by decide) _
    · exact hfixed l (List.mem_cons_of_mem _ hl)

theorem reverseName_lower (ip : IpAddr) : (reverseName ip).toAsciiLowercase = reverseName ip := by
  have h : ∀ c ∈ reverseName ip, c.toLower = id c := by
    intro c hc
    obtain ⟨l, hl, hc⟩ := List.mem_flatMap.mp hc
    rcases List.mem_append.mp hc with hc | hc
    · exact (plain_reverseLabels ip l hl c hc).2
    · rw [List.mem_singleton.mp hc]
      rfl
  exact (List.map_congr_left h).trans (List.map_id _)

/-- 綴りで zone に掛かることは、label の列の末尾が一致することである。 -/
theorem covers_reverseName (zone : Text) (ip : IpAddr) :
    Covers (zone ++ ['.']) (reverseName ip) ↔ labelsOf zone <:+ reverseLabels ip := by
  rw [covers_iff, reverseName_lower, ← dotted_labelsOf]
  refine mem_candidates_dotted ?_ (dot_notMem_labelsOf zone) (List.splitOnP_ne_nil _ _)
  intro l hl hdot
  exact (plain_reverseLabels ip l hl '.' hdot).1 rfl

/-! ## 表と範囲 -/

/-- 表の zone の label の列を、根の側から並べたもの。 -/
theorem privateReverseZones_labels :
    privateReverseZones.map (fun zone => (labelsOf zone).reverse) =
      [[text "arpa", text "in-addr", Nat.toDigits 10 10]]
        ++ (List.range 16).map (fun k =>
          [text "arpa", text "in-addr", Nat.toDigits 10 172, Nat.toDigits 10 (16 + k)])
        ++ [[text "arpa", text "in-addr", Nat.toDigits 10 192, Nat.toDigits 10 168],
          [text "arpa", text "in-addr", Nat.toDigits 10 127],
          [text "arpa", text "in-addr", Nat.toDigits 10 169, Nat.toDigits 10 254],
          [text "arpa", text "ip6", Nat.toDigits 16 15, Nat.toDigits 16 12],
          [text "arpa", text "ip6", Nat.toDigits 16 15, Nat.toDigits 16 13]]
        ++ (List.range 4).map (fun k =>
          [text "arpa", text "ip6", Nat.toDigits 16 15, Nat.toDigits 16 14,
            Nat.toDigits 16 (8 + k)])
        ++ [text "arpa" :: text "ip6" :: List.replicate 31 (Nat.toDigits 16 0)] := by
  decide +kernel

theorem exists_zone_iff (ip : IpAddr) :
    (∃ zone ∈ privateReverseZones, Covers (zone ++ ['.']) (reverseName ip)) ↔
      ∃ z ∈ privateReverseZones.map (fun zone => (labelsOf zone).reverse),
        z <+: (reverseLabels ip).reverse := by
  simp only [covers_reverseName, List.mem_map, exists_exists_and_eq_and, List.reverse_prefix]

theorem toDigits_ten_inj {a b : Nat} : Nat.toDigits 10 a = Nat.toDigits 10 b ↔ a = b := by
  refine ⟨fun h => ?_, fun h => h ▸ rfl⟩
  have hval := Nat.ofDigitChars_ten_toDigits (n := a)
  rw [h, Nat.ofDigitChars_ten_toDigits] at hval
  exact hval.symm

theorem toDigits_sixteen_inj {a b : Nat} (ha : a < 16) (hb : b < 16) :
    Nat.toDigits 16 a = Nat.toDigits 16 b ↔ a = b := by
  have hdigit : ∀ a b : Fin 16, Nat.digitChar a.val = Nat.digitChar b.val ↔ a = b := by decide
  have h := hdigit ⟨a, ha⟩ ⟨b, hb⟩
  rw [Nat.toDigits_of_lt_base ha, Nat.toDigits_of_lt_base hb]
  simpa using h

/-- IPv4 の名前が表の zone に入るのは、上の二つの数で決まる。 -/
theorem exists_zone_v4 (a b c d : Nat) :
    (∃ z ∈ privateReverseZones.map (fun zone => (labelsOf zone).reverse),
      z <+: text "arpa" :: text "in-addr" :: [Nat.toDigits 10 a, Nat.toDigits 10 b,
        Nat.toDigits 10 c, Nat.toDigits 10 d]) ↔
      a = 10 ∨ (a = 172 ∧ 16 ≤ b ∧ b < 32) ∨ (a = 192 ∧ b = 168) ∨ a = 127 ∨
        (a = 169 ∧ b = 254) := by
  have hne : ¬ text "ip6" = text "in-addr" := by decide
  have hrange : (∃ k < 16, 172 = a ∧ 16 + k = b) ↔ a = 172 ∧ 16 ≤ b ∧ b < 32 := by
    constructor
    · rintro ⟨k, hk, rfl, rfl⟩
      omega
    · rintro ⟨rfl, h1, h2⟩
      exact ⟨b - 16, by omega, rfl, by omega⟩
  rw [privateReverseZones_labels]
  simp only [List.mem_append, List.mem_cons, List.mem_map, List.mem_range, List.not_mem_nil,
    or_false, or_and_right, exists_or, exists_eq_left, exists_exists_and_eq_and,
    List.cons_prefix_cons, List.nil_prefix, and_true, true_and, toDigits_ten_inj, hne, false_and,
    and_false, exists_false, or_assoc, hrange]
  omega

/-- 一桁ずつの綴りの列の先頭の一致は、数の列の先頭の一致である。 -/
theorem toDigits_prefix_iff {ns : List Nat} (hns : ∀ n ∈ ns, n < 16) :
    ∀ (ms : List Nat), (∀ m ∈ ms, m < 16) →
      (ms.map (Nat.toDigits 16) <+: ns.map (Nat.toDigits 16) ↔ ms <+: ns) := by
  induction ns with
  | nil =>
    intro ms _
    simp
  | cons n ns ih =>
    intro ms hms
    cases ms with
    | nil => simp
    | cons m ms =>
      have htail := ih (fun x hx => hns x (List.mem_cons_of_mem _ hx)) ms
        (fun x hx => hms x (List.mem_cons_of_mem _ hx))
      rw [List.map_cons, List.map_cons, List.cons_prefix_cons, List.cons_prefix_cons, htail,
        toDigits_sixteen_inj (hms m List.mem_cons_self) (hns n List.mem_cons_self)]

/-- IPv6 の名前が表の zone に入るのは、4 bit の列の先頭で決まる。 -/
theorem exists_zone_v6 {ns : List Nat} (hns : ∀ n ∈ ns, n < 16) :
    (∃ z ∈ privateReverseZones.map (fun zone => (labelsOf zone).reverse),
      z <+: text "arpa" :: text "ip6" :: ns.map (Nat.toDigits 16)) ↔
      [15, 12] <+: ns ∨ [15, 13] <+: ns ∨ (∃ k < 4, [15, 14, 8 + k] <+: ns) ∨
        List.replicate 31 0 <+: ns := by
  have hne : ¬ text "in-addr" = text "ip6" := by decide
  have h1 : [Nat.toDigits 16 15, Nat.toDigits 16 12] <+: ns.map (Nat.toDigits 16) ↔
      [15, 12] <+: ns := toDigits_prefix_iff hns [15, 12] (by simp)
  have h2 : [Nat.toDigits 16 15, Nat.toDigits 16 13] <+: ns.map (Nat.toDigits 16) ↔
      [15, 13] <+: ns := toDigits_prefix_iff hns [15, 13] (by simp)
  have h3 : ∀ k, (k < 4 ∧ [Nat.toDigits 16 15, Nat.toDigits 16 14, Nat.toDigits 16 (8 + k)] <+:
      ns.map (Nat.toDigits 16)) ↔ (k < 4 ∧ [15, 14, 8 + k] <+: ns) := by
    intro k
    refine and_congr_right fun hk => ?_
    exact toDigits_prefix_iff hns [15, 14, 8 + k] (by simp; omega)
  have h4 : List.replicate 31 (Nat.toDigits 16 0) <+: ns.map (Nat.toDigits 16) ↔
      List.replicate 31 0 <+: ns := by
    rw [← List.map_replicate]
    exact toDigits_prefix_iff hns (List.replicate 31 0) (by simp)
  rw [privateReverseZones_labels]
  simp only [List.mem_append, List.mem_cons, List.mem_map, List.mem_range, List.not_mem_nil,
    or_false, or_and_right, exists_or, exists_eq_left, exists_exists_and_eq_and,
    List.cons_prefix_cons (a := text "arpa"), List.cons_prefix_cons (b := text "ip6"), true_and,
    hne, false_and, and_false, exists_false, or_assoc, false_or, h1, h2, h3, h4]

/-- 4 bit の列の先頭は、上の桁から決まる。 -/
theorem prefix_nibbles_iff (ms : List Nat) (hle : ms.length ≤ 32) (hi lo : UInt64) :
    ms <+: ipv6Nibbles hi lo ↔
      ms = (List.range ms.length).map fun i => ipv6Nat hi lo / 16 ^ (31 - i) % 16 := by
  unfold ipv6Nibbles
  rw [List.prefix_iff_eq_take, ← List.map_take, List.take_range, Nat.min_eq_left hle]

theorem ipv6Nat_lt (hi lo : UInt64) : ipv6Nat hi lo < 2 ^ 128 := by
  have := hi.toNat_lt
  have := lo.toNat_lt
  unfold ipv6Nat
  omega

/-- 最下位のほかの桁がすべて 0 である値は、一桁である。 -/
theorem lt_sixteen_iff {n : Nat} (h : n < 16 ^ 32) :
    (∀ i ∈ List.range 31, n / 16 ^ (31 - i) % 16 = 0) ↔ n < 16 := by
  constructor
  · intro hzero
    -- 上の桁から順に削る
    have hstep : ∀ j, j ≤ 31 → n < 16 ^ (32 - j) := by
      intro j
      induction j with
      | zero => intro _; exact h
      | succ j ih =>
        intro hj
        have hdigit := hzero j (List.mem_range.mpr (by omega))
        have hpow : 16 ^ (32 - j) = 16 * 16 ^ (31 - j) := by
          rw [← Nat.pow_succ', show 32 - j = (31 - j).succ by omega]
        have hlt : n / 16 ^ (31 - j) < 16 := by
          have := ih (by omega)
          rw [hpow] at this
          exact (Nat.div_lt_iff_lt_mul (Nat.pow_pos (by decide))).mpr this
        rw [Nat.mod_eq_of_lt hlt] at hdigit
        rw [show 32 - (j + 1) = 31 - j by omega]
        exact (Nat.div_eq_zero_iff.mp hdigit).resolve_left (Nat.pow_pos (by decide)).ne'
    exact hstep 31 (Nat.le_refl _)
  · intro hn i hi
    have hle : 16 ≤ 16 ^ (31 - i) := by
      have hi' := List.mem_range.mp hi
      exact Nat.le_self_pow (by omega) 16
    rw [Nat.div_eq_of_lt (by omega)]

/-- **表の zone に入る逆引きの名前は、私用の宛先の名前である。** -/
theorem exists_zone_iff_isPrivate (ip : IpAddr) :
    (∃ zone ∈ privateReverseZones, Covers (zone ++ ['.']) (reverseName ip)) ↔ IsPrivate ip := by
  rw [exists_zone_iff]
  cases ip with
  | v4 octets =>
    have hn := octets.toNat_lt
    have hrev : (reverseLabels (.v4 octets)).reverse = text "arpa" :: text "in-addr" ::
        [Nat.toDigits 10 (octets.toNat / 16777216 % 256), Nat.toDigits 10 (octets.toNat / 65536 % 256),
          Nat.toDigits 10 (octets.toNat / 256 % 256), Nat.toDigits 10 (octets.toNat % 256)] := by
      simp [reverseLabels, Bytes.toBe32]
    rw [hrev, exists_zone_v4]
    simp only [IsPrivate, InPrefix, ipv4Net, Nat.reducePow, Nat.reduceSub, Nat.reduceMul,
      Nat.reduceAdd, Nat.reduceDiv]
    omega
  | v6 hi lo =>
    have hn := ipv6Nat_lt hi lo
    have hrev : (reverseLabels (.v6 hi lo)).reverse = text "arpa" :: text "ip6" ::
        (ipv6Nibbles hi lo).map (Nat.toDigits 16) := by
      simp [reverseLabels]
    have hlt : ∀ n ∈ ipv6Nibbles hi lo, n < 16 := by
      intro n hmem
      obtain ⟨i, -, rfl⟩ := List.mem_map.mp hmem
      exact Nat.mod_lt _ (by decide)
    have hzero : List.replicate 31 0 <+: ipv6Nibbles hi lo ↔ ipv6Nat hi lo < 16 := by
      rw [← lt_sixteen_iff (by simpa using hn), prefix_nibbles_iff _ (by simp),
        List.length_replicate, eq_comm, List.eq_replicate_iff]
      simp
    have hhead : ∀ a b, [a, b] <+: ipv6Nibbles hi lo ↔
        a = ipv6Nat hi lo / 16 ^ 31 % 16 ∧ b = ipv6Nat hi lo / 16 ^ 30 % 16 := by
      intro a b
      rw [prefix_nibbles_iff _ (by simp)]
      simp [List.range_succ]
    have hhead3 : (∃ k < 4, [15, 14, 8 + k] <+: ipv6Nibbles hi lo) ↔
        15 = ipv6Nat hi lo / 16 ^ 31 % 16 ∧ 14 = ipv6Nat hi lo / 16 ^ 30 % 16 ∧
          8 ≤ ipv6Nat hi lo / 16 ^ 29 % 16 ∧ ipv6Nat hi lo / 16 ^ 29 % 16 < 12 := by
      have hiff : ∀ k, [15, 14, 8 + k] <+: ipv6Nibbles hi lo ↔ 15 = ipv6Nat hi lo / 16 ^ 31 % 16 ∧
          14 = ipv6Nat hi lo / 16 ^ 30 % 16 ∧ 8 + k = ipv6Nat hi lo / 16 ^ 29 % 16 := by
        intro k
        rw [prefix_nibbles_iff _ (by simp)]
        simp [List.range_succ]
      simp only [hiff]
      constructor
      · rintro ⟨k, hk, h1, h2, h3⟩
        omega
      · rintro ⟨h1, h2, h3, h4⟩
        exact ⟨ipv6Nat hi lo / 16 ^ 29 % 16 - 8, by omega, h1, h2, by omega⟩
    rw [hrev, exists_zone_v6 hlt, hzero, hhead, hhead, hhead3]
    simp only [IsPrivate, InPrefix, Nat.reducePow, Nat.reduceSub, Nat.reduceMul, Nat.reduceDiv]
    generalize ipv6Nat hi lo = n at hn ⊢
    omega

/-! ## 私用の行 -/

/-- 私用の行が受け持つ鍵。 -/
def privateKeys : List Text := privateReverseZones.map fun zone => zone ++ ['.']

/-- 表について要ること。表の綴りを評価するのは重いので、一度に確かめる。 -/
theorem privateReverseZones_table : privateKeys.Nodup ∧ [] ∉ privateReverseZones ∧
    ']' ∉ ['/'].intercalate privateReverseZones ∧
    (Text.toAsciiLowercase (['/'].intercalate privateReverseZones)).splitOnP (· == '/')
      = privateReverseZones := by
  decide +kernel

theorem trim_privateUpstreamLine (u : Text) : (privateUpstreamLine u).trim
    = text "[/" ++ (['/'].intercalate privateReverseZones
        ++ (text "/]" ++ u.rdropWhile Text.isWhitespace)) := by
  have hline : privateUpstreamLine u = [] ++ (text "[/" ++
      (['/'].intercalate privateReverseZones ++ (text "/]" ++ u))) := by
    simp [privateUpstreamLine]
  rw [hline, trim_rule (by simp)]

/-- 私用の行は、表の zone のすべてに、挙がった上流を割り当てる。 -/
theorem splitConfigLine_private (u : Text) :
    splitConfigLine (privateUpstreamLine u).trim =
      if u.rdropWhile Text.isWhitespace = [] then
        .error (text "wrong upstream format: no upstreams after \"/]\"")
      else .ok (u.splitWhitespace, privateKeys) := by
  obtain ⟨-, hne, hbracket, hhosts⟩ := privateReverseZones_table
  have hclosed : ¬ text "/]" <:+: ['/'].intercalate privateReverseZones := fun h =>
    hbracket (h.subset (by simp [text]))
  rw [trim_privateUpstreamLine, splitConfigLine_closed hclosed, hhosts, if_neg hne,
    Text.splitWhitespace_rdropWhile]
  rfl

theorem isActive_private (u : Text) : IsActive (privateUpstreamLine u).trim := by
  rw [trim_privateUpstreamLine]
  simp [IsActive, text]

section

variable {unprintable : Char → Bool} {parseAnyUpstream : Text → Except Text υ} {u d : Text}
  {rest : List Text} {mode : UpstreamMode} {c : UpstreamConfig υ}

/-- 読めた file の私用の行は、上流を挙げている。 -/
theorem splitConfigLine_private_parsed
    (h : UpstreamConfig.parseWithMode unprintable parseAnyUpstream (privateUpstreamLine u :: rest)
      mode = .ok c) :
    splitConfigLine (privateUpstreamLine u).trim = .ok (u.splitWhitespace, privateKeys) := by
  have hw := wellFormed_iff.mp (UpstreamConfig.parsed_iff_wellFormed.mp ⟨c, h⟩)
  obtain ⟨upstreams, domains, hmeans, -⟩ := hw _ List.mem_cons_self (isActive_private u)
  have hs := splitConfigLine_ok_iff.mpr hmeans
  have hsplit := splitConfigLine_private u
  by_cases hu : u.rdropWhile Text.isWhitespace = []
  · rw [hsplit, if_pos hu] at hs
    cases hs
  · rw [hsplit, if_neg hu]

theorem domainStrings_eq (key : Text) (lines : List Text) : domainStrings key lines
    = ((lines.map Text.trim).filter fun l => IsActive l).flatMap (lineStrings key) := by
  rw [← activeLines_snd, List.flatMap_map]
  rfl

/-- 私用の行に続く file の、一つの組に入る綴り。 -/
theorem domainStrings_private (hs : splitConfigLine (privateUpstreamLine u).trim
      = .ok (u.splitWhitespace, privateKeys)) (key : Text) :
    domainStrings key (privateUpstreamLine u :: rest)
      = (if key ∈ privateKeys then u.splitWhitespace else []) ++ domainStrings key rest := by
  have hline : lineStrings key (privateUpstreamLine u).trim
      = if key ∈ privateKeys then u.splitWhitespace else [] := by
    unfold lineStrings
    rw [hs]
    dsimp only
    by_cases hkey : key ∈ privateKeys
    · rw [List.count_eq_one_of_mem privateReverseZones_table.1 hkey, if_pos hkey]
      simp
    · rw [List.count_eq_zero_of_not_mem hkey, if_neg hkey]
      simp
  rw [domainStrings_eq, domainStrings_eq, List.map_cons, List.filter_cons,
    if_pos (decide_eq_true (isActive_private u)), List.flatMap_cons, hline]

/-- 組の中身が、綴りの列から順に作ったものである。 -/
def BuiltFrom (parseAnyUpstream : Text → Except Text υ) (g : UpstreamGroup υ) (strs : List Text) :
    Prop := g.upstreams.map (fun t => Except.ok t.upstream) = strs.map parseAnyUpstream

theorem builtFrom_of_share {share : Text → Option (TrackedUpstream υ)}
    (hbuilt : ∀ s t, share s = some t → parseAnyUpstream s = .ok t.upstream) {g : UpstreamGroup υ}
    {strs : List Text} (h : g.upstreams.map some = strs.map share) :
    BuiltFrom parseAnyUpstream g strs := by
  unfold BuiltFrom
  refine List.ext_getElem? fun i => ?_
  have hi := congrArg (fun l => l[i]?) h
  simp only [List.getElem?_map] at hi ⊢
  cases hs : strs[i]? with
  | none =>
    rw [hs, Option.map_none, Option.map_eq_none_iff] at hi
    rw [hi]
    rfl
  | some s =>
    rw [hs, Option.map_some, Option.map_eq_some_iff] at hi
    obtain ⟨t, ht, hshare⟩ := hi
    rw [ht, Option.map_some, Option.map_some, hbuilt s t hshare.symm]

/-- 私用の行と既定の一行から成る file の、domain の鍵。 -/
theorem mem_keys_private
    (h : UpstreamConfig.parseWithMode unprintable parseAnyUpstream [privateUpstreamLine u, d]
      mode = .ok c) (hplain : IsPlain d.trim) (key : Text) :
    key ∈ c.domainUpstreams ↔ key ∈ privateKeys := by
  have hs := splitConfigLine_private_parsed h
  rw [← AList.lookup_isSome]
  refine (registered_iff_of_mem h key).trans ?_
  constructor
  · rintro ⟨line, hl, -, upstreams, domains, hmeans, hmem⟩
    have hsplit := splitConfigLine_ok_iff.mpr hmeans
    rcases List.mem_cons.mp hl with rfl | hl
    · rw [hs] at hsplit
      cases hsplit
      exact hmem
    · rw [List.mem_singleton.mp hl, splitConfigLine_plain hplain] at hsplit
      cases hsplit
      cases hmem
  · intro hkey
    exact ⟨privateUpstreamLine u, List.mem_cons_self, isActive_private u, _, _,
      splitConfigLine_ok_iff.mp hs, hkey⟩

/-- その file の、既定の組に入る綴り。 -/
theorem defaultStrings_private (hactive : IsActive d.trim) (hplain : IsPlain d.trim) :
    defaultStrings [privateUpstreamLine u, d] = [d.trim] := by
  have hrule : ¬ IsPlain (privateUpstreamLine u).trim := by
    rw [trim_privateUpstreamLine]
    exact not_not.mpr ⟨_, rfl⟩
  have hflat : defaultStrings [privateUpstreamLine u, d]
      = ((activeLines [privateUpstreamLine u, d]).map Prod.snd).filter fun l => IsPlain l := by
    rw [List.filter_map]
    rfl
  rw [hflat, activeLines_snd]
  simp [isActive_private u, hactive, hrule, hplain]

/--
**私用の行と既定の一行から成る設定では、逆引きの名前が私用の上流へ送られるのは、
宛先が私用の範囲にあるとき、かつそのときに限る。ほかの名前は既定の上流へ送られる。**

`u` は `--private-upstream` の値である。空白を含まなければ、その語は `u` 一つである。
-/
theorem private_zones_routing
    (h : UpstreamConfig.parseWithMode unprintable parseAnyUpstream [privateUpstreamLine u, d]
      mode = .ok c) (hactive : IsActive d.trim) (hplain : IsPlain d.trim) (ip : IpAddr) :
    ((∃ key, c.groupFor (reverseName ip) = .domain key) ↔ IsPrivate ip) ∧
      (c.groupFor (reverseName ip) = .default ↔ ¬ IsPrivate ip) ∧
      BuiltFrom parseAnyUpstream (c.group (c.groupFor (reverseName ip)))
        (if IsPrivate ip then u.splitWhitespace else [d.trim]) := by
  obtain ⟨share, hreads⟩ := UpstreamConfig.parsed_reads h
  have hdefault : c.groupFor (reverseName ip) = .default ↔ ¬ IsPrivate ip := by
    rw [UpstreamConfig.groupFor_default_iff, ← exists_zone_iff_isPrivate]
    simp [mem_keys_private h hplain, privateKeys]
  cases hgroup : c.groupFor (reverseName ip) with
  | default =>
    have hpub : ¬ IsPrivate ip := hdefault.mp hgroup
    refine ⟨⟨?_, fun hp => absurd hp hpub⟩, ⟨fun _ => hpub, fun _ => rfl⟩, ?_⟩
    · rintro ⟨key, hkey⟩
      cases hkey
    · rw [if_neg hpub, ← defaultStrings_private (u := u) hactive hplain]
      exact builtFrom_of_share hreads.built hreads.default
  | domain key =>
    have hpriv : IsPrivate ip := by
      by_contra hpub
      rw [hdefault.mpr hpub] at hgroup
      cases hgroup
    have hkey : key ∈ privateKeys := (mem_keys_private h hplain key).mp
      (AList.lookup_isSome.mp (UpstreamConfig.groupFor_domain hgroup))
    obtain ⟨g, hg⟩ := Option.isSome_iff_exists.mp (UpstreamConfig.groupFor_domain hgroup)
    have hstrs : domainStrings key [privateUpstreamLine u, d] = u.splitWhitespace := by
      rw [domainStrings_private (splitConfigLine_private_parsed h), if_pos hkey, domainStrings_eq]
      simp [hactive, lineStrings, splitConfigLine_plain hplain]
    refine ⟨⟨fun _ => hpriv, fun _ => ⟨key, rfl⟩⟩, ⟨?_, fun hpub => absurd hpriv hpub⟩, ?_⟩
    · intro hd
      cases hd
    · rw [if_pos hpriv, ← hstrs]
      obtain ⟨strs, hdomain, hshare⟩ := hreads.domain key g hg
      rw [domainStrings_iff.mp hdomain] at hshare
      refine builtFrom_of_share hreads.built ?_
      rw [← hshare]
      simp [UpstreamConfig.group, hg]

/-- 私用の上流 `u` と既定の上流 `v` から成る file は読める。 -/
theorem wellFormed_private :
    WellFormed (υ := Text) Except.ok [privateUpstreamLine (text "u"), text "v"] := by
  rw [wellFormed_iff]
  intro line hl _
  rcases List.mem_cons.mp hl with rfl | hl
  · have hsplit := splitConfigLine_private (text "u")
    rw [if_neg (by decide)] at hsplit
    exact ⟨_, _, splitConfigLine_ok_iff.mp hsplit, fun s _ => ⟨s, rfl⟩⟩
  · rw [List.mem_singleton.mp hl]
    exact ⟨_, _, .plain (by decide), fun s _ => ⟨s, rfl⟩⟩

/-- `10.0.0.1` の逆引きは私用の上流 `u` へ、`9.9.9.9` の逆引きは既定の上流へ送られる。 -/
theorem private_zones_routing_ten :
    ∃ c, UpstreamConfig.parseWithMode (fun _ => false) Except.ok
        [privateUpstreamLine (text "u"), text "v"] .ordered = .ok c ∧
      (∃ key, c.groupFor (reverseName (.v4 0x0a000001)) = .domain key) ∧
      BuiltFrom Except.ok (c.group (c.groupFor (reverseName (.v4 0x0a000001)))) [text "u"] ∧
      c.groupFor (reverseName (.v4 0x09090909)) = .default := by
  obtain ⟨c, hc⟩ := UpstreamConfig.parsed_iff_wellFormed.mpr wellFormed_private
  have hactive : IsActive (text "v").trim := by decide
  have hplain : IsPlain (text "v").trim := by decide
  obtain ⟨hin, -, hbuilt⟩ := private_zones_routing hc hactive hplain (.v4 0x0a000001)
  obtain ⟨-, hout, -⟩ := private_zones_routing hc hactive hplain (.v4 0x09090909)
  exact ⟨c, hc, hin.mpr (by decide), hbuilt, hout.mpr (by decide)⟩

end

end DnsProxy
