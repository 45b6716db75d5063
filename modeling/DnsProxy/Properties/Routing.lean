import DnsProxy.Properties.Failover

/-!
# 名前による組の選択

`group_for` は名前の**綴り**を `.` で切り詰めながら規則を探す。一方、zone に属することは
label の**列**の話である。両者が食い違うのは、label の中の `.`（綴りでは `\.`）の直後で切ったときだけである。

1. 綴りの側：`group_for` が返すのは、切り口の綴りのうち規則に在る最長のものである（`groupFor_eq`）。
2. label の側：切り口は、label の境目（aligned）か、label の中の `.` の直後（inside）のどちらかで、
   長さがすべて違う（`labelCuts`）。
3. 合わせると、zone の外へ送らないことの必要十分条件が切り口だけで書ける（`routing_in_zone_iff`）。
-/

namespace DnsProxy

open Infra

variable {υ : Type}

/-! ## 綴りの切り口 -/

/-- `.` の直後から始まる空でない部分。長い順に並ぶ。 -/
def tailsAfterDot : Text → List Text
  | [] => []
  | c :: rest =>
    if c = '.' then if rest = [] then [] else rest :: tailsAfterDot rest else tailsAfterDot rest

/-- `group_for` が順に試す綴り。 -/
def candidates (s : Text) : List Text := s :: tailsAfterDot s

theorem tailsAfterDot_append {s t : Text} (h : '.' ∉ s) :
    tailsAfterDot (s ++ t) = tailsAfterDot t := by
  induction s with
  | nil => rfl
  | cons c rest ih =>
    obtain ⟨hc, hrest⟩ : ¬ '.' = c ∧ '.' ∉ rest := by simpa [not_or] using h
    rw [List.cons_append, tailsAfterDot, if_neg (Ne.symm hc), ih hrest]

theorem tailsAfterDot_dot (t : Text) :
    tailsAfterDot ('.' :: t) = if t = [] then [] else candidates t := by
  rw [tailsAfterDot, if_pos rfl]
  rfl

theorem length_lt_of_mem_tailsAfterDot {s t : Text} (h : t ∈ tailsAfterDot s) :
    t.length < s.length := by
  induction s with
  | nil => cases h
  | cons c rest ih =>
    rw [tailsAfterDot] at h
    rw [List.length_cons]
    split at h
    · split at h
      · cases h
      · rcases List.mem_cons.mp h with rfl | h
        · omega
        · have := ih h
          omega
    · have := ih h
      omega

/-- 切り口の綴りは、後のものほど短い。 -/
theorem pairwise_tailsAfterDot (s : Text) :
    (tailsAfterDot s).Pairwise fun a b => b.length < a.length := by
  induction s with
  | nil => exact List.Pairwise.nil
  | cons c rest ih =>
    rw [tailsAfterDot]
    split
    · split
      · exact List.Pairwise.nil
      · exact List.pairwise_cons.mpr ⟨fun t ht => length_lt_of_mem_tailsAfterDot ht, ih⟩
    · exact ih

theorem pairwise_candidates (s : Text) :
    (candidates s).Pairwise fun a b => b.length < a.length :=
  List.pairwise_cons.mpr ⟨fun _ ht => length_lt_of_mem_tailsAfterDot ht, pairwise_tailsAfterDot s⟩

/-! ### 小文字化 -/

theorem toLower_eq_dot {c : Char} : c.toLower = '.' ↔ c = '.' := Text.toLower_eq_iff rfl

theorem tailsAfterDot_lower (s : Text) :
    tailsAfterDot s.toAsciiLowercase = (tailsAfterDot s).map Text.toAsciiLowercase := by
  induction s with
  | nil => rfl
  | cons c rest ih =>
    unfold Text.toAsciiLowercase at ih ⊢
    rw [List.map_cons, tailsAfterDot, tailsAfterDot]
    by_cases hc : c = '.'
    · rw [if_pos hc, if_pos (toLower_eq_dot.mpr hc)]
      by_cases hr : rest = []
      · simp [hr]
      · simp [hr, ih]
    · rw [if_neg hc, if_neg (fun h => hc (toLower_eq_dot.mp h)), ih]

theorem candidates_lower (s : Text) :
    candidates s.toAsciiLowercase = (candidates s).map Text.toAsciiLowercase := by
  unfold candidates
  rw [tailsAfterDot_lower, List.map_cons]

/-! ## `group_for` -/

namespace UpstreamConfig

/-- 規則に在る綴り。 -/
def registered (c : UpstreamConfig υ) (key : Text) : Bool := (c.domainUpstreams.lookup key).isSome

/-- 見つかった綴りの組。無ければ既定の組である。 -/
def refOf : Option Text → GroupRef
  | some key => .domain key
  | none => .default

theorem groupForLoop_eq (c : UpstreamConfig υ) : ∀ (fuel : Nat) (s : Text), s.length < fuel →
    c.groupForLoop fuel s = refOf ((candidates s).find? c.registered) := by
  intro fuel
  induction fuel with
  | zero => intro s h; omega
  | succ fuel ih =>
    intro s hlen
    rw [groupForLoop, candidates, List.find?_cons]
    unfold registered
    by_cases hs : (c.domainUpstreams.lookup s).isSome = true
    · simp [hs, refOf]
    · rw [if_neg hs]
      simp only [hs]
      rcases Text.splitOnce_char '.' s with ⟨before, rest, hsplit, hr, hn⟩ | ⟨hsplit, hn⟩
      · have htails : tailsAfterDot s = if rest = [] then [] else candidates rest := by
          rw [hr, tailsAfterDot_append hn, tailsAfterDot_dot]
        rw [hsplit, htails]
        dsimp only
        by_cases hrest : rest = []
        · simp [hrest, refOf]
        · have hshort : rest.length < fuel := by
            rw [hr, List.length_append, List.length_cons] at hlen
            omega
          rw [if_neg hrest, if_neg (by simpa using hrest), ih rest hshort]
          rfl
      · have htails : tailsAfterDot s = [] := by
          have h := tailsAfterDot_append (t := []) hn
          rwa [List.append_nil] at h
        rw [hsplit, htails]
        rfl

/-- **`group_for` は、切り口の綴りのうち規則に在る最長のものを選ぶ。** -/
theorem groupFor_eq (c : UpstreamConfig υ) (fqdn : Text) :
    c.groupFor fqdn = refOf ((candidates fqdn.toAsciiLowercase).find? c.registered) := by
  unfold groupFor
  split
  · next hempty =>
    have hnone : (candidates fqdn.toAsciiLowercase).find? c.registered = none := by
      rw [List.find?_eq_none]
      intro key _
      simpa [registered] using (c.isEmpty_entries_iff.mp hempty) key
    rw [hnone]
    rfl
  · exact c.groupForLoop_eq _ _ (Nat.lt_succ_self _)

end UpstreamConfig

/-! ## label の列の切り口 -/

/-- label の列の綴り。空でなければ絶対名の `to_ascii` である。 -/
def zoneText (e : LabelEscape) (labels : List Label) : Text :=
  labels.flatMap fun l => Label.toAscii e l ++ ['.']

theorem toAscii_cons (e : LabelEscape) (l : Label) (rest : List Label) :
    Name.toAscii e ⟨l :: rest, true⟩ = zoneText e (l :: rest) := by
  induction rest generalizing l with
  | nil => simp [Name.toAscii, zoneText]
  | cons l' rest ih =>
    have h := ih l'
    simp only [Name.toAscii, List.map_cons, if_true] at h ⊢
    rw [List.intercalate_cons_cons, List.append_assoc, List.append_assoc, h]
    simp [zoneText]

/-- 一つの label の中の `.` の直後から始まる綴り。`t` は label の後に続く綴りである。 -/
def insideTails (e : LabelEscape) (t : Text) : Label → List Text
  | [] => []
  | b :: rest =>
    if b = 0x2E then (rest.flatMap (e.escapeByte false) ++ t) :: insideTails e t rest
    else insideTails e t rest

/-- 切り口の綴りに、label の境目（`true`）か label の中（`false`）かを付けたもの。 -/
def labelCuts (e : LabelEscape) : List Label → List (Bool × Text)
  | [] => []
  | l :: rest =>
    (true, zoneText e (l :: rest)) ::
      ((insideTails e ('.' :: zoneText e rest) l).map fun t => (false, t)) ++ labelCuts e rest

/-- 一 byte 分の綴りを読み飛ばす。`.` ならその直後が切り口になる。 -/
theorem tailsAfterDot_escapeByte (e : LabelEscape) (first : Bool) (b : UInt8) {t : Text}
    (ht : t ≠ []) : tailsAfterDot (e.escapeByte first b ++ t)
      = if b = 0x2E then candidates t else tailsAfterDot t := by
  by_cases hb : b = 0x2E
  · subst hb
    rw [e.dot first, if_pos rfl]
    have hslash : tailsAfterDot (['\\'] ++ ('.' :: t)) = tailsAfterDot ('.' :: t) :=
      tailsAfterDot_append (by decide)
    rw [show ['\\', '.'] ++ t = ['\\'] ++ ('.' :: t) from rfl, hslash, tailsAfterDot_dot, if_neg ht]
  · rw [if_neg hb, tailsAfterDot_append (e.noDot first b hb)]

theorem tailsAfterDot_bytes (e : LabelEscape) {t : Text} (ht : t ≠ []) (bytes : List UInt8) :
    tailsAfterDot (bytes.flatMap (e.escapeByte false) ++ t)
      = insideTails e t bytes ++ tailsAfterDot t := by
  induction bytes with
  | nil => rfl
  | cons b rest ih =>
    have hne : rest.flatMap (e.escapeByte false) ++ t ≠ [] := by simp [ht]
    rw [List.flatMap_cons, List.append_assoc, tailsAfterDot_escapeByte e false b hne, insideTails]
    split
    · rw [candidates, ih, List.cons_append]
    · exact ih

theorem tailsAfterDot_label (e : LabelEscape) {t : Text} (ht : t ≠ []) (l : Label) :
    tailsAfterDot (Label.toAscii e l ++ t) = insideTails e t l ++ tailsAfterDot t := by
  cases l with
  | nil => rfl
  | cons b rest =>
    have hne : rest.flatMap (e.escapeByte false) ++ t ≠ [] := by simp [ht]
    rw [Label.toAscii, List.append_assoc, tailsAfterDot_escapeByte e true b hne, insideTails]
    split
    · rw [candidates, tailsAfterDot_bytes e ht, List.cons_append]
    · exact tailsAfterDot_bytes e ht rest

/-- **綴りの切り口は、label の列の切り口そのものである。** -/
theorem candidates_zoneText (e : LabelEscape) (l : Label) (rest : List Label) :
    candidates (zoneText e (l :: rest)) = (labelCuts e (l :: rest)).map Prod.snd := by
  induction rest generalizing l with
  | nil =>
    have htails := tailsAfterDot_label e (t := ['.']) (by simp) l
    have hdot : tailsAfterDot ['.'] = [] := rfl
    rw [hdot, List.append_nil] at htails
    simp [candidates, labelCuts, zoneText, htails, Function.comp_def]
  | cons l' rest ih =>
    have hz : zoneText e (l :: l' :: rest) = Label.toAscii e l ++ '.' :: zoneText e (l' :: rest) := by
      simp [zoneText]
    have hne : zoneText e (l' :: rest) ≠ [] := by simp [zoneText]
    rw [candidates, labelCuts, hz, tailsAfterDot_label e (by simp), tailsAfterDot_dot, if_neg hne,
      ih l']
    simp [Function.comp_def]

/-! ### 二種類の切り口 -/

/-- 鍵が、label の境目から後ろの綴りである。 -/
def AlignedCut (e : LabelEscape) (labels : List Label) (key : Text) : Prop :=
  ∃ zone, zone <:+ labels ∧ zone ≠ [] ∧ key = (Name.toAscii e ⟨zone, true⟩).toAsciiLowercase

/-- 鍵が、label `pre.post` の中の `.` から後ろの綴りである。 -/
def InsideCut (e : LabelEscape) (labels : List Label) (key : Text) : Prop :=
  ∃ before pre post after, labels = before ++ (pre ++ 0x2E :: post) :: after ∧
    key = Text.toAsciiLowercase (post.flatMap (e.escapeByte false) ++ '.' :: zoneText e after)

theorem mem_insideTails {e : LabelEscape} {t s : Text} {l : Label} :
    s ∈ insideTails e t l ↔
      ∃ pre post, l = pre ++ 0x2E :: post ∧ s = post.flatMap (e.escapeByte false) ++ t := by
  induction l with
  | nil =>
    rw [insideTails]
    simp
  | cons b rest ih =>
    rw [insideTails]
    constructor
    · intro h
      split at h
      · next hb =>
        rcases List.mem_cons.mp h with rfl | h
        · exact ⟨[], rest, by rw [hb]; rfl, rfl⟩
        · obtain ⟨pre, post, rfl, rfl⟩ := ih.mp h
          exact ⟨b :: pre, post, rfl, rfl⟩
      · obtain ⟨pre, post, rfl, rfl⟩ := ih.mp h
        exact ⟨b :: pre, post, rfl, rfl⟩
    · rintro ⟨pre, post, hl, rfl⟩
      cases pre with
      | nil =>
        cases hl
        rw [if_pos rfl]
        exact List.mem_cons_self
      | cons b' pre =>
        cases hl
        have hmem := ih.mpr ⟨pre, post, rfl, rfl⟩
        split
        · exact List.mem_cons_of_mem _ hmem
        · exact hmem

theorem mem_labelCuts_true {e : LabelEscape} {labels : List Label} {t : Text} :
    (true, t) ∈ labelCuts e labels ↔
      ∃ zone, zone <:+ labels ∧ zone ≠ [] ∧ t = zoneText e zone := by
  induction labels with
  | nil =>
    simp only [labelCuts, List.not_mem_nil, List.suffix_nil, false_iff]
    rintro ⟨zone, hz, hne, _⟩
    exact hne hz
  | cons l rest ih =>
    simp only [labelCuts, List.cons_append, List.mem_cons, List.mem_append, List.mem_map,
      Prod.mk.injEq, Bool.false_eq_true, false_and, and_false, exists_false, false_or, true_and, ih,
      List.suffix_cons_iff]
    constructor
    · rintro (rfl | ⟨zone, hz, hne, rfl⟩)
      · exact ⟨l :: rest, Or.inl rfl, by simp, rfl⟩
      · exact ⟨zone, Or.inr hz, hne, rfl⟩
    · rintro ⟨zone, rfl | hz, hne, rfl⟩
      · exact Or.inl rfl
      · exact Or.inr ⟨zone, hz, hne, rfl⟩

theorem mem_labelCuts_false {e : LabelEscape} {labels : List Label} {t : Text} :
    (false, t) ∈ labelCuts e labels ↔
      ∃ before pre post after, labels = before ++ (pre ++ 0x2E :: post) :: after ∧
        t = post.flatMap (e.escapeByte false) ++ '.' :: zoneText e after := by
  induction labels with
  | nil =>
    constructor
    · intro h
      cases h
    · rintro ⟨before, pre, post, after, h, _⟩
      simp at h
  | cons l rest ih =>
    simp only [labelCuts, List.cons_append, List.mem_cons, List.mem_append, List.mem_map,
      Prod.mk.injEq, Bool.false_eq_true, false_and, false_or, true_and, exists_eq_right, ih,
      mem_insideTails]
    constructor
    · rintro (⟨pre, post, rfl, rfl⟩ | ⟨before, pre, post, after, rfl, rfl⟩)
      · exact ⟨[], pre, post, rest, rfl, rfl⟩
      · exact ⟨l :: before, pre, post, after, rfl, rfl⟩
    · rintro ⟨before, pre, post, after, h, rfl⟩
      cases before with
      | nil =>
        cases h
        exact Or.inl ⟨pre, post, rfl, rfl⟩
      | cons l' before =>
        cases h
        exact Or.inr ⟨before, pre, post, after, rfl, rfl⟩

/-- 境目での切り口は、`labelCuts` の言葉でも言える。 -/
theorem alignedCut_iff {e : LabelEscape} {labels : List Label} {key : Text} :
    AlignedCut e labels key ↔ ∃ t, (true, t) ∈ labelCuts e labels ∧ key = t.toAsciiLowercase := by
  constructor
  · rintro ⟨zone, hz, hne, rfl⟩
    obtain ⟨l, rest, rfl⟩ := List.exists_cons_of_ne_nil hne
    exact ⟨zoneText e (l :: rest), mem_labelCuts_true.mpr ⟨_, hz, hne, rfl⟩, by rw [toAscii_cons]⟩
  · rintro ⟨t, ht, rfl⟩
    obtain ⟨zone, hz, hne, rfl⟩ := mem_labelCuts_true.mp ht
    obtain ⟨l, rest, rfl⟩ := List.exists_cons_of_ne_nil hne
    exact ⟨l :: rest, hz, hne, by rw [toAscii_cons]⟩

theorem insideCut_iff {e : LabelEscape} {labels : List Label} {key : Text} :
    InsideCut e labels key ↔ ∃ t, (false, t) ∈ labelCuts e labels ∧ key = t.toAsciiLowercase := by
  constructor
  · rintro ⟨before, pre, post, after, hl, rfl⟩
    exact ⟨_, mem_labelCuts_false.mpr ⟨before, pre, post, after, hl, rfl⟩, rfl⟩
  · rintro ⟨t, ht, rfl⟩
    obtain ⟨before, pre, post, after, hl, rfl⟩ := mem_labelCuts_false.mp ht
    exact ⟨before, pre, post, after, hl, rfl⟩

/-- 名前の綴りの切り口は、境目か label の中かのどちらかである。 -/
theorem mem_candidates_iff {e : LabelEscape} {l : Label} {rest : List Label} {key : Text} :
    key ∈ candidates (Name.toAscii e ⟨l :: rest, true⟩).toAsciiLowercase ↔
      AlignedCut e (l :: rest) key ∨ InsideCut e (l :: rest) key := by
  rw [toAscii_cons, candidates_lower, candidates_zoneText, alignedCut_iff, insideCut_iff]
  simp only [List.mem_map]
  constructor
  · rintro ⟨_, ⟨⟨tag, t⟩, ht, rfl⟩, rfl⟩
    cases tag with
    | true => exact Or.inl ⟨t, ht, rfl⟩
    | false => exact Or.inr ⟨t, ht, rfl⟩
  · rintro (⟨t, ht, rfl⟩ | ⟨t, ht, rfl⟩)
    · exact ⟨t, ⟨_, ht, rfl⟩, rfl⟩
    · exact ⟨t, ⟨_, ht, rfl⟩, rfl⟩

/-- 長さが順に減る列では、長さの同じ要素は一つしかない。 -/
theorem eq_of_pairwise_length {α : Type} {f : α → Nat} {l : List α}
    (h : l.Pairwise fun a b => f b < f a) {x y : α} (hx : x ∈ l) (hy : y ∈ l) (hf : f x = f y) :
    x = y := by
  induction l with
  | nil => cases hx
  | cons a rest ih =>
    obtain ⟨hhead, htail⟩ := List.pairwise_cons.mp h
    rcases List.mem_cons.mp hx with rfl | hx'
    · rcases List.mem_cons.mp hy with rfl | hy'
      · rfl
      · have := hhead y hy'
        omega
    · rcases List.mem_cons.mp hy with rfl | hy'
      · have := hhead x hx'
        omega
      · exact ih htail hx' hy'

/-- **同じ鍵が、境目と label の中の両方の切り口になることはない。** -/
theorem not_aligned_and_inside {e : LabelEscape} {labels : List Label} {key : Text}
    (ha : AlignedCut e labels key) (hi : InsideCut e labels key) : False := by
  obtain ⟨t, ht, hkey⟩ := alignedCut_iff.mp ha
  obtain ⟨t', ht', hkey'⟩ := insideCut_iff.mp hi
  cases labels with
  | nil => cases ht
  | cons l rest =>
    have hpair : (labelCuts e (l :: rest)).Pairwise fun a b => b.2.length < a.2.length := by
      have h := pairwise_candidates (zoneText e (l :: rest))
      rw [candidates_zoneText, List.pairwise_map] at h
      exact h
    have hlen : t.length = t'.length := by
      have h := congrArg List.length (hkey.symm.trans hkey')
      simpa [Text.toAsciiLowercase] using h
    have heq := eq_of_pairwise_length (f := fun p : Bool × Text => p.2.length) hpair ht ht' hlen
    cases heq

/-! ## zone -/

/-- 規則 `key` の受け持つ zone の label の列が `zone` である。 -/
def NamesZone (e : LabelEscape) (key : Text) (zone : List Label) : Prop :=
  (Name.toAscii e ⟨zone, true⟩).toAsciiLowercase = key

/-- 名前が zone の中にある。label ごとに、ASCII の大小を無視して比べる。 -/
def InZone (labels zone : List Label) : Prop := zone.map lowerLabel <:+ labels.map lowerLabel

theorem toAsciiLowercase_append (s t : Text) :
    Text.toAsciiLowercase (s ++ t) = s.toAsciiLowercase ++ t.toAsciiLowercase := List.map_append

theorem lower_bytes (e : LabelEscape) (bytes : List UInt8) :
    Text.toAsciiLowercase ((bytes.map lowerByte).flatMap (e.escapeByte false))
      = Text.toAsciiLowercase (bytes.flatMap (e.escapeByte false)) := by
  induction bytes with
  | nil => rfl
  | cons b rest ih =>
    rw [List.map_cons, List.flatMap_cons, List.flatMap_cons, toAsciiLowercase_append,
      toAsciiLowercase_append, e.lower, ih]

theorem lower_label (e : LabelEscape) (l : Label) :
    (Label.toAscii e (lowerLabel l)).toAsciiLowercase = (Label.toAscii e l).toAsciiLowercase := by
  cases l with
  | nil => rfl
  | cons b rest =>
    rw [lowerLabel, List.map_cons, Label.toAscii, Label.toAscii, toAsciiLowercase_append,
      toAsciiLowercase_append, e.lower, lower_bytes]

theorem lower_zoneText (e : LabelEscape) (labels : List Label) :
    (zoneText e (labels.map lowerLabel)).toAsciiLowercase
      = (zoneText e labels).toAsciiLowercase := by
  induction labels with
  | nil => rfl
  | cons l rest ih =>
    unfold zoneText at ih ⊢
    rw [List.map_cons, List.flatMap_cons, List.flatMap_cons, toAsciiLowercase_append,
      toAsciiLowercase_append, toAsciiLowercase_append, toAsciiLowercase_append, lower_label, ih]

/-- 名前を含む zone の鍵は、境目での切り口である。 -/
theorem InZone.aligned {e : LabelEscape} {key : Text} {labels zone : List Label}
    (hkey : NamesZone e key zone) (hdot : key ≠ ['.']) (h : InZone labels zone) :
    AlignedCut e labels key := by
  have hne : zone ≠ [] := by
    rintro rfl
    exact hdot hkey.symm
  -- 大小を潰した列の末尾は、元の列の末尾 `tail` から来る
  obtain ⟨front, hfront⟩ := h
  have hsplit := List.map_eq_append_iff.mp hfront.symm
  obtain ⟨before, tail, rfl, _, htail⟩ := hsplit
  have htne : tail ≠ [] := by
    rintro rfl
    exact hne (List.map_eq_nil_iff.mp htail.symm)
  refine ⟨tail, ⟨before, rfl⟩, htne, ?_⟩
  obtain ⟨l, rest, rfl⟩ := List.exists_cons_of_ne_nil hne
  obtain ⟨l', rest', rfl⟩ := List.exists_cons_of_ne_nil htne
  rw [← hkey, toAscii_cons, toAscii_cons, ← lower_zoneText, ← htail, lower_zoneText]

theorem AlignedCut.inZone {e : LabelEscape} {key : Text} {labels : List Label}
    (h : AlignedCut e labels key) : ∃ zone, NamesZone e key zone ∧ InZone labels zone := by
  obtain ⟨zone, ⟨before, rfl⟩, _, rfl⟩ := h
  exact ⟨zone, rfl, before.map lowerLabel, by rw [List.map_append]⟩

/-! ## 主定理 -/

section

variable {unprintable : Char → Bool} {parseAnyUpstream : Text → Except Text υ} {lines : List Text}
  {mode : UpstreamMode} {c : UpstreamConfig υ}

/-- 選ばれた鍵より長い切り口は、規則に無い。 -/
theorem length_le_of_find {s key key' : Text}
    (h : (candidates s).find? c.registered = some key) (hmem : key' ∈ candidates s)
    (hreg : c.registered key' = true) : key'.length ≤ key.length := by
  obtain ⟨_, before, after, hsplit, hbefore⟩ := List.find?_eq_some_iff_append.mp h
  rw [hsplit] at hmem
  rcases List.mem_append.mp hmem with hm | hm
  · have := hbefore key' hm
    simp [hreg] at this
  · rcases List.mem_cons.mp hm with rfl | hm
    · exact Nat.le_refl _
    · have hpair := pairwise_candidates s
      rw [hsplit] at hpair
      have hlt := (List.pairwise_cons.mp (List.pairwise_append.mp hpair).2.1).1 key' hm
      omega

/--
**zone の外の名前を送らないのは、label の中の `.` で切った規則よりも長い、
label の境目での規則が必ず在るとき、かつそのときに限る。**

`q` は最初の question で、名前は wire から読んだ label の列である。
-/
theorem routing_in_zone_iff
    (h : UpstreamConfig.parseWithMode unprintable parseAnyUpstream lines mode = .ok c)
    (e : LabelEscape) {req : Message} {q : Query} {labels : List Label}
    (hq : req.queries.head? = some q) (hname : q.name = ⟨labels, true⟩) :
    (∀ key, c.groupFor (UpstreamConfig.queryName e req) = .domain key →
      ∃ zone, NamesZone e key zone ∧ InZone labels zone) ↔
    ∀ key, key ∈ c.domainUpstreams → InsideCut e labels key →
      ∃ key' ∈ c.domainUpstreams, AlignedCut e labels key' ∧ key.length < key'.length := by
  have htext : UpstreamConfig.queryName e req = Name.toAscii e ⟨labels, true⟩ := by
    unfold UpstreamConfig.queryName
    rw [hq, ← hname]
  have hdot : ∀ key, c.registered key = true → key ≠ ['.'] :=
    fun key hk => UpstreamConfig.parsed_key_ne_dot h hk
  rw [htext, UpstreamConfig.groupFor_eq]
  cases labels with
  | nil =>
    -- 根の名前。切り口は `.` だけで、その鍵は無い
    constructor
    · rintro _ key _ ⟨before, pre, post, after, hl, _⟩
      simp at hl
    · intro _ key hkey
      cases hfind : (candidates
          (Name.toAscii e ⟨[], true⟩).toAsciiLowercase).find? c.registered with
      | none => rw [hfind] at hkey; cases hkey
      | some k =>
        have hmem : k ∈ candidates ['.'] := List.mem_of_find?_eq_some hfind
        have hk : k = ['.'] := List.mem_singleton.mp hmem
        exact absurd hk (hdot k (List.find?_some hfind))
  | cons l rest =>
    cases hfind : (candidates
        (Name.toAscii e ⟨l :: rest, true⟩).toAsciiLowercase).find? c.registered with
    | none =>
      -- どの切り口も規則に無い
      constructor
      · intro _ key hkey hin
        have hno := List.find?_eq_none.mp hfind key (mem_candidates_iff.mpr (Or.inr hin))
        exact absurd (AList.lookup_isSome.mpr hkey) hno
      · intro _ key hkey
        cases hkey
    | some k =>
      have hkreg : c.registered k = true := List.find?_some hfind
      have hcut := mem_candidates_iff.mp (List.mem_of_find?_eq_some hfind)
      constructor
      · intro hzone key hkey hin
        obtain ⟨zone, hnames, hinz⟩ := hzone k rfl
        have hal := hinz.aligned hnames (hdot k hkreg)
        refine ⟨k, AList.lookup_isSome.mp hkreg, hal, Nat.lt_of_le_of_ne ?_ ?_⟩
        · exact length_le_of_find hfind (mem_candidates_iff.mpr (Or.inr hin))
            (AList.lookup_isSome.mpr hkey)
        · -- 長さが同じなら同じ切り口だが、境目と label の中は重ならない
          intro hlen
          have heq : key = k := eq_of_pairwise_length (f := List.length)
            (pairwise_candidates _) (mem_candidates_iff.mpr (Or.inr hin))
            (mem_candidates_iff.mpr (Or.inl hal)) hlen
          exact not_aligned_and_inside hal (heq ▸ hin)
      · intro hcond key hkey
        cases hkey
        rcases hcut with hal | hin
        · exact hal.inZone
        · obtain ⟨key', hkey', hal', hlt⟩ := hcond k (AList.lookup_isSome.mp hkreg) hin
          have hle := length_le_of_find hfind (mem_candidates_iff.mpr (Or.inl hal'))
            (AList.lookup_isSome.mpr hkey')
          omega

end

/-! ### 具体的な名前 -/

/-- `labels` の名前についての A の問い合わせ。 -/
def queryFor (labels : List Label) : Message :=
  { Message.new 1 .query .query with
    queries := [{ name := ⟨labels, true⟩, queryType := RecordType.A }] }

/-- label に `.` の無い名前では、規則 `b` に送られるのは `b.` の中の名前だけである。 -/
theorem routing_in_zone_without_dots :
    ∃ c, UpstreamConfig.parseWithMode (fun _ => false) Except.ok
        [text "[/b/]x", text "z"] .ordered = .ok c ∧
      ∀ key, c.groupFor (UpstreamConfig.queryName hickoryEscape (queryFor [[97], [98]]))
          = .domain key →
        ∃ zone, NamesZone hickoryEscape key zone ∧ InZone [[97], [98]] zone := by
  have hsome : ∃ c, UpstreamConfig.parseWithMode (fun _ => false) Except.ok
      [text "[/b/]x", text "z"] .ordered = .ok c := ⟨_, rfl⟩
  obtain ⟨c, hc⟩ := hsome
  refine ⟨c, hc, (routing_in_zone_iff hc hickoryEscape rfl rfl).mpr ?_⟩
  rintro key _ ⟨before, pre, post, after, hl, _⟩
  have hmem : pre ++ 0x2E :: post ∈ [[97], [98]] := hl ▸ by simp
  have hdot : ∀ l ∈ ([[97], [98]] : List Label), (0x2E : UInt8) ∉ l := by decide
  exact absurd (by simp) (hdot _ hmem)

/-- label `a.b` 一つの名前は `b.` の外にあるのに、規則 `b` に送られる。 -/
theorem routing_escaped_dot :
    ∃ c key, UpstreamConfig.parseWithMode (fun _ => false) Except.ok
        [text "[/b/]x", text "z"] .ordered = .ok c ∧
      c.groupFor (UpstreamConfig.queryName hickoryEscape (queryFor [[97, 0x2E, 98]]))
        = .domain key ∧
      ¬ ∃ zone, NamesZone hickoryEscape key zone ∧ InZone [[97, 0x2E, 98]] zone := by
  refine ⟨_, text "b.", rfl, by decide, ?_⟩
  rintro ⟨zone, hnames, hin⟩
  have hinside : InsideCut hickoryEscape [[97, 0x2E, 98]] (text "b.") :=
    ⟨[], [97], [98], [], rfl, by decide⟩
  exact not_aligned_and_inside (hin.aligned hnames (by decide)) hinside

end DnsProxy
