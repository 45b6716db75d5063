import DnsProxy.Properties.Routing

/-!
# 最長一致

`group_for` の選ぶ鍵は、名前の綴りと規則の鍵の集まりだけで決まる。

1. 鍵は、名前に掛かる鍵（`Covers`）のうち最長のものである（`groupFor_domain_iff`）。
2. 鍵の集まりは、行の集まりだけで決まり、行の順には依らない（`registered_iff_of_mem`）。
3. 行の中の domain の大小を変えても、読んだ結果は一字も変わらない（`CaseVariant.addLine`）。
-/

namespace DnsProxy

open Infra

variable {υ : Type}

/-! ## 名前に掛かる鍵 -/

/-- 鍵が、小文字にした名前そのものか、その `.` の直後から始まる空でない部分である。 -/
def Covers (key fqdn : Text) : Prop :=
  key = fqdn.toAsciiLowercase ∨ key ≠ [] ∧ ∃ front, fqdn.toAsciiLowercase = front ++ '.' :: key

theorem mem_tailsAfterDot {s t : Text} :
    t ∈ tailsAfterDot s ↔ t ≠ [] ∧ ∃ front, s = front ++ '.' :: t := by
  induction s with
  | nil => simp [tailsAfterDot]
  | cons c rest ih =>
    -- `.` が先頭のものと、先頭より後ろのもの
    have hcons : (∃ front, c :: rest = front ++ '.' :: t) ↔
        (c = '.' ∧ rest = t) ∨ ∃ front, rest = front ++ '.' :: t := by
      constructor
      · rintro ⟨front, h⟩
        cases front with
        | nil =>
          cases h
          exact Or.inl ⟨rfl, rfl⟩
        | cons x front =>
          cases h
          exact Or.inr ⟨front, rfl⟩
      · rintro (⟨rfl, rfl⟩ | ⟨front, rfl⟩)
        · exact ⟨[], rfl⟩
        · exact ⟨c :: front, rfl⟩
    rw [tailsAfterDot, hcons]
    by_cases hc : c = '.'
    · rw [if_pos hc]
      by_cases hr : rest = []
      · subst hr
        rw [if_pos rfl]
        simp only [List.not_mem_nil, false_iff, hc, true_and]
        rintro ⟨hne, h | ⟨front, h⟩⟩
        · exact hne h.symm
        · simp at h
      · rw [if_neg hr, List.mem_cons, ih]
        constructor
        · rintro (rfl | ⟨hne, h⟩)
          · exact ⟨hr, Or.inl ⟨hc, rfl⟩⟩
          · exact ⟨hne, Or.inr h⟩
        · rintro ⟨hne, ⟨-, h⟩ | h⟩
          · exact Or.inl h.symm
          · exact Or.inr ⟨hne, h⟩
    · rw [if_neg hc, ih]
      simp [hc]

theorem covers_iff {key fqdn : Text} :
    Covers key fqdn ↔ key ∈ candidates fqdn.toAsciiLowercase := by
  unfold Covers candidates
  rw [List.mem_cons, mem_tailsAfterDot]

namespace UpstreamConfig

/-- **選ばれるのは、名前に掛かる鍵のうち最長のものである。** -/
theorem groupFor_domain_iff (c : UpstreamConfig υ) (fqdn key : Text) :
    c.groupFor fqdn = .domain key ↔
      key ∈ c.domainUpstreams ∧ Covers key fqdn ∧
        ∀ key' ∈ c.domainUpstreams, Covers key' fqdn → key' ≠ key → key'.length < key.length := by
  rw [groupFor_eq]
  simp only [covers_iff]
  constructor
  · intro h
    cases hfind : (candidates fqdn.toAsciiLowercase).find? c.registered with
    | none =>
      rw [hfind] at h
      cases h
    | some k =>
      rw [hfind] at h
      cases h
      have hmem := List.mem_of_find?_eq_some hfind
      have hreg : c.registered key = true := List.find?_some hfind
      refine ⟨AList.lookup_isSome.mp hreg, hmem, ?_⟩
      intro key' hkey' hcov hne
      refine Nat.lt_of_le_of_ne (length_le_of_find hfind hcov (AList.lookup_isSome.mpr hkey')) ?_
      intro hlen
      exact hne (eq_of_pairwise_length (f := List.length) (pairwise_candidates _) hcov hmem hlen)
  · rintro ⟨hkey, hmem, hlongest⟩
    have hsome : ((candidates fqdn.toAsciiLowercase).find? c.registered).isSome = true :=
      List.find?_isSome.mpr ⟨key, hmem, AList.lookup_isSome.mpr hkey⟩
    obtain ⟨k, hfind⟩ := Option.isSome_iff_exists.mp hsome
    rw [hfind]
    by_cases hk : k = key
    · rw [hk]
      rfl
    · have hreg : c.registered k = true := List.find?_some hfind
      have hlt := hlongest k (AList.lookup_isSome.mp hreg) (List.mem_of_find?_eq_some hfind) hk
      have hle := length_le_of_find hfind hmem (AList.lookup_isSome.mpr hkey)
      omega

/-- **既定の組になるのは、名前に掛かる鍵が無いとき、かつそのときに限る。** -/
theorem groupFor_default_iff (c : UpstreamConfig υ) (fqdn : Text) :
    c.groupFor fqdn = .default ↔ ∀ key ∈ c.domainUpstreams, ¬ Covers key fqdn := by
  rw [groupFor_eq]
  simp only [covers_iff]
  constructor
  · intro h key hkey hcov
    cases hfind : (candidates fqdn.toAsciiLowercase).find? c.registered with
    | none => exact List.find?_eq_none.mp hfind key hcov (AList.lookup_isSome.mpr hkey)
    | some k =>
      rw [hfind] at h
      cases h
  · intro h
    have hnone : (candidates fqdn.toAsciiLowercase).find? c.registered = none := by
      rw [List.find?_eq_none]
      intro key hcov hreg
      exact h key (AList.lookup_isSome.mp hreg) hcov
    rw [hnone]
    rfl

/-- 鍵の集まりが同じなら、同じ場所が選ばれる。 -/
theorem groupFor_of_registered {c c' : UpstreamConfig υ}
    (h : ∀ key, c'.registered key = c.registered key) (fqdn : Text) :
    c'.groupFor fqdn = c.groupFor fqdn := by
  rw [groupFor_eq, groupFor_eq, funext h]

end UpstreamConfig

/-! ## 行の順 -/

/-- 番号を忘れれば、読むべき行は `trim` した行の一部である。 -/
theorem activeLines_snd (lines : List Text) :
    (activeLines lines).map Prod.snd = (lines.map Text.trim).filter fun l => IsActive l := by
  unfold activeLines activeLinesFrom
  rw [List.filter_map, List.map_map]
  have hzip : (lines.zipIdx 0).map Prod.fst = lines := List.zipIdx_map_fst 0 lines
  conv_rhs => rw [← hzip, List.map_map, List.filter_map]
  rfl

/-- 読むべき行は、file のどこかの行を `trim` したものである。 -/
theorem exists_mem_activeLines {lines : List Text} {l : Text} :
    (∃ i, (i, l) ∈ activeLines lines) ↔ ∃ line ∈ lines, IsActive line.trim ∧ line.trim = l := by
  have h : l ∈ (activeLines lines).map Prod.snd ↔ ∃ i, (i, l) ∈ activeLines lines := by simp
  rw [← h, activeLines_snd, List.mem_filter, List.mem_map]
  constructor
  · rintro ⟨⟨line, hl, rfl⟩, ha⟩
    exact ⟨line, hl, of_decide_eq_true ha, rfl⟩
  · rintro ⟨line, hl, ha, rfl⟩
    exact ⟨⟨line, hl, rfl⟩, decide_eq_true ha⟩

section

variable {unprintable : Char → Bool} {parseAnyUpstream : Text → Except Text υ}
  {lines lines' : List Text} {mode : UpstreamMode} {c c' : UpstreamConfig υ}

/-- 読めることは、行の集まりだけで決まる。 -/
theorem wellFormed_iff : WellFormed parseAnyUpstream lines ↔
    ∀ line ∈ lines, IsActive line.trim → ∃ upstreams domains,
      LineMeans line.trim upstreams domains ∧
        ∀ u ∈ upstreams, ∃ b, parseAnyUpstream u = .ok b := by
  unfold WellFormed
  constructor
  · intro hw line hl ha
    obtain ⟨i, hi⟩ := exists_mem_activeLines.mpr ⟨line, hl, ha, rfl⟩
    exact hw _ hi
  · intro hw p hp
    obtain ⟨line, hl, ha, heq⟩ := exists_mem_activeLines.mp ⟨p.1, hp⟩
    rw [← heq]
    exact hw line hl ha

/-- 読めるのは、正しい file であるとき、かつそのときに限る。 -/
theorem UpstreamConfig.parsed_iff_wellFormed :
    (∃ c, UpstreamConfig.parseWithMode unprintable parseAnyUpstream lines mode = .ok c) ↔
      WellFormed parseAnyUpstream lines := by
  have hinv := parseInv_file unprintable parseAnyUpstream lines
  unfold UpstreamConfig.parseWithMode
  dsimp only
  rw [hinv.errors, ← expectedErrors_eq_nil unprintable, ← List.isEmpty_iff]
  split
  · next hempty => exact ⟨fun _ => hempty, fun _ => ⟨_, rfl⟩⟩
  · next hne =>
    refine ⟨?_, fun h => absurd h hne⟩
    rintro ⟨c, hc⟩
    cases hc

/-- **鍵の集まりは、行の集まりだけで決まる。** -/
theorem registered_iff_of_mem
    (h : UpstreamConfig.parseWithMode unprintable parseAnyUpstream lines mode = .ok c) (key : Text) :
    c.registered key = true ↔ ∃ line ∈ lines, IsActive line.trim ∧ NamesDomain key line.trim := by
  obtain ⟨share, hreads⟩ := UpstreamConfig.parsed_reads h
  unfold UpstreamConfig.registered
  rw [Option.isSome_iff_exists, hreads.named]
  constructor
  · rintro ⟨p, hp, hnames⟩
    obtain ⟨line, hl, ha, heq⟩ := exists_mem_activeLines.mp ⟨p.1, hp⟩
    exact ⟨line, hl, ha, heq ▸ hnames⟩
  · rintro ⟨line, hl, ha, hnames⟩
    obtain ⟨i, hi⟩ := exists_mem_activeLines.mpr ⟨line, hl, ha, rfl⟩
    exact ⟨(i, line.trim), hi, hnames⟩

/-- 行を並べ替えた file も読めて、同じ場所が選ばれる。 -/
theorem groupFor_of_perm
    (h : UpstreamConfig.parseWithMode unprintable parseAnyUpstream lines mode = .ok c)
    (hperm : lines.Perm lines') :
    ∃ c', UpstreamConfig.parseWithMode unprintable parseAnyUpstream lines' mode = .ok c' ∧
      ∀ fqdn, c'.groupFor fqdn = c.groupFor fqdn := by
  have hw := UpstreamConfig.parsed_iff_wellFormed.mp ⟨c, h⟩
  have hw' : WellFormed parseAnyUpstream lines' := by
    rw [wellFormed_iff] at hw ⊢
    intro line hl
    exact hw line (hperm.mem_iff.mpr hl)
  obtain ⟨c', hc'⟩ := UpstreamConfig.parsed_iff_wellFormed.mpr hw'
  refine ⟨c', hc', UpstreamConfig.groupFor_of_registered ?_⟩
  intro key
  rw [Bool.eq_iff_iff, registered_iff_of_mem hc', registered_iff_of_mem h]
  simp only [hperm.mem_iff]

end

/-! ## domain の大小 -/

/--
行の中の domain の大小だけを変えた行。

`domains` は `[/` から最初の `/]` までの綴りで、その前には空白だけがある。
-/
inductive CaseVariant : Text → Text → Prop
  | same (line : Text) : CaseVariant line line
  | recased {lead domains domains' : Text} (rest : Text)
      (blank : ∀ c ∈ lead, Text.isWhitespace c = true) (closed : ¬ text "/]" <:+: domains)
      (lower : domains'.toAsciiLowercase = domains.toAsciiLowercase) :
      CaseVariant (lead ++ (text "[/" ++ (domains ++ (text "/]" ++ rest))))
        (lead ++ (text "[/" ++ (domains' ++ (text "/]" ++ rest))))

/-- `/]` は英字を含まないので、大小を変えても現れたり消えたりしない。 -/
theorem closed_of_lower {domains domains' : Text}
    (h : domains'.toAsciiLowercase = domains.toAsciiLowercase)
    (hclosed : ¬ text "/]" <:+: domains) : ¬ text "/]" <:+: domains' := by
  rintro ⟨before, after, rfl⟩
  refine hclosed ?_
  have hlow : domains.map Char.toLower
      = before.map Char.toLower ++ (['/', ']'] ++ after.map Char.toLower) := by
    unfold Text.toAsciiLowercase at h
    rw [← h]
    simp [text]
  obtain ⟨before', tail, rfl, -, htail⟩ := List.map_eq_append_iff.mp hlow
  obtain ⟨mid, after', rfl, hmid, -⟩ := List.map_eq_append_iff.mp htail
  obtain ⟨a, tl, rfl, ha, htl⟩ := List.map_eq_cons_iff.mp hmid
  obtain ⟨b, tl', rfl, hb, htl'⟩ := List.map_eq_cons_iff.mp htl
  rw [List.map_eq_nil_iff] at htl'
  rw [(Text.toLower_eq_iff rfl).mp ha, (Text.toLower_eq_iff rfl).mp hb, htl']
  exact ⟨before', after', by simp [text]⟩

/-- `/` で分けた domain の列も、大小を潰せば同じである。 -/
theorem hosts_lower (domains : Text) :
    (domains.splitOnP (· == '/')).map Text.toAsciiLowercase
      = domains.toAsciiLowercase.splitOnP (· == '/') := by
  refine (Text.splitOnP_map (f := Char.toLower) ?_ domains).symm
  intro c
  rw [Bool.eq_iff_iff, beq_iff_eq, beq_iff_eq, Text.toLower_eq_iff rfl]

/-- domain の付いた行の読み方は、domain の小文字だけで決まる。 -/
theorem splitConfigLine_closed {domains rest : Text} (hclosed : ¬ text "/]" <:+: domains) :
    splitConfigLine (text "[/" ++ (domains ++ (text "/]" ++ rest))) =
      if rest = [] then .error (text "wrong upstream format: no upstreams after \"/]\"")
      else if [] ∈ domains.toAsciiLowercase.splitOnP (· == '/') then
        .error (text "wrong upstream format: empty domain in rule")
      else .ok (Text.splitWhitespace rest,
        (domains.toAsciiLowercase.splitOnP (· == '/')).map fun host => host ++ ['.']) := by
  have hempty : [] ∈ domains.splitOnP (· == '/') ↔
      [] ∈ domains.toAsciiLowercase.splitOnP (· == '/') := by
    rw [← hosts_lower]
    simp [Text.toAsciiLowercase]
  have hrule := splitConfigLine_ruleText (bracketed_hosts hclosed) rest
  unfold ruleText at hrule
  rw [intercalate_hosts] at hrule
  rw [hrule, ← hosts_lower, List.map_map]
  simp only [hempty, ← hosts_lower]
  rfl

/-- `[/…/]` の後ろだけが `trim` される。 -/
theorem trim_rule {lead domains rest : Text} (hlead : ∀ c ∈ lead, Text.isWhitespace c = true) :
    Text.trim (lead ++ (text "[/" ++ (domains ++ (text "/]" ++ rest))))
      = text "[/" ++ (domains ++ (text "/]" ++ rest.rdropWhile Text.isWhitespace)) := by
  have hshape : ∀ r, text "[/" ++ (domains ++ (text "/]" ++ r))
      = '[' :: (('/' :: (domains ++ ['/'])) ++ ']' :: r) := by simp [text]
  rw [Text.trim_append_left hlead, hshape, hshape]
  exact Text.trim_append_right rfl rfl

section

variable {unprintable : Char → Bool} {parseAnyUpstream : Text → Except Text υ}
  {lines lines' : List Text} {mode : UpstreamMode} {c : UpstreamConfig υ}

/-- **domain の大小だけが違う行は、同じように読まれる。** -/
theorem CaseVariant.addLine {line line' : Text} (h : CaseVariant line line') (st : ParseState υ)
    (idx : Nat) : st.addLine unprintable parseAnyUpstream idx line'
      = st.addLine unprintable parseAnyUpstream idx line := by
  cases h with
  | same => rfl
  | recased rest blank closed lower =>
    unfold ParseState.addLine
    rw [trim_rule blank, trim_rule blank]
    dsimp only
    rw [splitConfigLine_closed (closed_of_lower lower closed), splitConfigLine_closed closed, lower]
    rfl

theorem addLines_recased (h : List.Forall₂ CaseVariant lines lines') :
    ∀ (st : ParseState υ) (idx : Nat), st.addLines unprintable parseAnyUpstream idx lines'
      = st.addLines unprintable parseAnyUpstream idx lines := by
  induction h with
  | nil => intro st idx; rfl
  | cons hline _ ih =>
    intro st idx
    rw [ParseState.addLines, ParseState.addLines, hline.addLine, ih]

/-- 大小だけが違う file は、同じ設定に読まれる。 -/
theorem parseWithMode_recased (h : List.Forall₂ CaseVariant lines lines') :
    UpstreamConfig.parseWithMode unprintable parseAnyUpstream lines' mode
      = UpstreamConfig.parseWithMode unprintable parseAnyUpstream lines mode := by
  unfold UpstreamConfig.parseWithMode
  rw [addLines_recased h]

/-! ## 主定理 -/

/--
**`group_for` は、名前に掛かる最長の鍵の組を返し、一つも無いとき、かつそのときに限り既定の組を返す。**

選ばれる鍵は、名前の大小にも、規則に書いた domain の大小にも、規則の行の順にも依らない。
大小を変え並べ替えた file は必ず読めて、同じ鍵が選ばれる。
-/
theorem groupFor_longest_suffix (unprintable : Char → Bool)
    (parseAnyUpstream : Text → Except Text υ) (c : UpstreamConfig υ) (fqdn : Text) :
    (∀ key, c.groupFor fqdn = .domain key ↔
      key ∈ c.domainUpstreams ∧ Covers key fqdn ∧
        ∀ key' ∈ c.domainUpstreams, Covers key' fqdn → key' ≠ key → key'.length < key.length) ∧
    (c.groupFor fqdn = .default ↔ ∀ key ∈ c.domainUpstreams, ¬ Covers key fqdn) ∧
    (∀ fqdn', fqdn'.toAsciiLowercase = fqdn.toAsciiLowercase →
      c.groupFor fqdn' = c.groupFor fqdn) ∧
    ∀ lines mode,
      UpstreamConfig.parseWithMode unprintable parseAnyUpstream lines mode = .ok c →
      ∀ recased lines', List.Forall₂ CaseVariant lines recased → recased.Perm lines' →
        ∃ c', UpstreamConfig.parseWithMode unprintable parseAnyUpstream lines' mode = .ok c' ∧
          c'.groupFor fqdn = c.groupFor fqdn := by
  refine ⟨c.groupFor_domain_iff fqdn, c.groupFor_default_iff fqdn, ?_, ?_⟩
  · intro fqdn' h
    rw [UpstreamConfig.groupFor_eq, UpstreamConfig.groupFor_eq, h]
  · intro lines mode h recased lines' hcase hperm
    rw [← parseWithMode_recased hcase] at h
    obtain ⟨c', hc', hgroup⟩ := groupFor_of_perm h hperm
    exact ⟨c', hc', hgroup fqdn⟩

/-- 入れ子の規則では長い方が選ばれる。大文字で書いた規則を後ろに回しても同じである。 -/
theorem groupFor_longest_suffix_nested :
    ∃ c', UpstreamConfig.parseWithMode (fun _ => false) Except.ok
        [text "z", text "[/b/]x", text " [/A.B/]y"] .ordered = .ok c' ∧
      c'.groupFor (text "w.a.b.") = .domain (text "a.b.") := by
  have h : UpstreamConfig.parseWithMode (fun _ => false) Except.ok
      [text "z", text " [/a.b/]y", text "[/b/]x"] .ordered = .ok _ := rfl
  have hcase : List.Forall₂ CaseVariant [text "z", text " [/a.b/]y", text "[/b/]x"]
      [text "z", text " [/A.B/]y", text "[/b/]x"] := by
    refine .cons (.same _) (.cons ?_ (.cons (.same _) .nil))
    show CaseVariant ([' '] ++ (text "[/" ++ (text "a.b" ++ (text "/]" ++ text "y"))))
      ([' '] ++ (text "[/" ++ (text "A.B" ++ (text "/]" ++ text "y"))))
    exact CaseVariant.recased (text "y") (by simp [Text.isWhitespace]) (by decide) rfl
  obtain ⟨c', hc', hgroup⟩ := (groupFor_longest_suffix _ _ _ (text "w.a.b.")).2.2.2 _ _ h _ _
    hcase ((List.Perm.swap _ _ _).cons _)
  exact ⟨c', hc', hgroup⟩

end

end DnsProxy
