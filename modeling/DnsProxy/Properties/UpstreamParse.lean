import DnsProxy.Properties.RuleGrammar

/-!
# 設定 file の読み方

`parse_with_mode` は三重の loop で、上流の表と組の表と失敗の列を同時に書き換える。ここでは
file の全体を一度に読む宣言的な読み方を、行の文法（`LineMeans`・`MalformedLine`）から組み立て、
両者が一致することを示す（`parseWithMode_spec`）。

証明の芯は `ParseInv` である。読み終えた言及（どの行がどの上流をどの domain に挙げたか）の列 `ms`
から、loop の状態が決まることを言う。言及を一つ読むたびに保たれることを示せば、
行についても file についても畳み込むだけである。

上流を共有することは、綴りから割り当てへの一つの関数 `share` が在ることで言う。
-/

namespace DnsProxy

open Infra

variable {υ : Type}

/-! ## 宣言的な読み方 -/

/-- 空行でも `#` の行でもない。 -/
def IsActive (line : Text) : Prop := line ≠ [] ∧ line.head? ≠ some '#'

instance (line : Text) : Decidable (IsActive line) := inferInstanceAs (Decidable (_ ∧ _))

/-- 読むべき行の、番号と前後の空白を除いた中身。`n` は最初の行の番号である。 -/
def activeLinesFrom (n : Nat) (lines : List Text) : List (Nat × Text) :=
  ((lines.zipIdx n).map fun p => (p.2, p.1.trim)).filter fun p => IsActive p.2

/-- file 全体の読むべき行。 -/
def activeLines (lines : List Text) : List (Nat × Text) := activeLinesFrom 0 lines

/-- `[/…/]` に `d` を挙げる行。 -/
def NamesDomain (d line : Text) : Prop :=
  ∃ upstreams domains, LineMeans line upstreams domains ∧ d ∈ domains

/-- 既定の組に入るべき綴り。 -/
def defaultStrings (lines : List Text) : List Text :=
  ((activeLines lines).filter fun p => IsPlain p.2).map Prod.snd

/-- 一つの行が `d` の組に入れる綴りは `strs` である。`d` を二度挙げれば二度入る。 -/
inductive LineStrings (d line : Text) : List Text → Prop where
  | means {upstreams domains : List Text} (means : LineMeans line upstreams domains) :
      LineStrings d line (upstreams.flatMap fun u => List.replicate (domains.count d) u)
  | malformed {e : Text} (malformed : MalformedLine line e) : LineStrings d line []

/-- file の全体で `d` の組に入るべき綴りは、行ごとの綴りを順に並べた `strs` である。 -/
def DomainStrings (d : Text) (lines strs : List Text) : Prop :=
  ∃ parts, List.Forall₂ (fun p => LineStrings d p.2) (activeLines lines) parts ∧ strs = parts.flatten

section

variable (unprintable : Char → Bool) (parseAnyUpstream : Text → Except Text υ)

/-- 上流一つを作れなかったときの失敗。 -/
def upstreamErrors (idx : Nat) (u : Text) : List (Nat × Text) :=
  match parseAnyUpstream u with
  | .ok _ => []
  | .error e => [(idx, text "upstream " ++ u.debug unprintable ++ text ": " ++ e)]

/-- 番号の付いた一つの行から出るべき失敗は `errs` である。 -/
inductive LineErrors (p : Nat × Text) : List (Nat × Text) → Prop where
  | means {upstreams domains : List Text} (means : LineMeans p.2 upstreams domains) :
      LineErrors p (upstreams.flatMap (upstreamErrors unprintable parseAnyUpstream p.1))
  | malformed {e : Text} (malformed : MalformedLine p.2 e) : LineErrors p [(p.1, e)]

/-- file の全体から出るべき失敗は、行ごとの失敗を順に並べた `errs` である。 -/
def FileErrors (lines : List Text) (errs : List (Nat × Text)) : Prop :=
  ∃ parts, List.Forall₂ (LineErrors unprintable parseAnyUpstream) (activeLines lines) parts ∧
    errs = parts.flatten

/-- 読むべき行がすべて文法どおりに読め、挙がった上流がすべて作れる。 -/
def WellFormed (lines : List Text) : Prop :=
  ∀ p ∈ activeLines lines, ∃ upstreams domains, LineMeans p.2 upstreams domains ∧
    ∀ u ∈ upstreams, ∃ b, parseAnyUpstream u = .ok b

end

/-! ### 読み方の計算 -/

/-- `LineStrings` の綴り。 -/
def lineStrings (d line : Text) : List Text :=
  match splitConfigLine line with
  | .error _ => []
  | .ok (upstreams, domains) => upstreams.flatMap fun u => List.replicate (domains.count d) u

/-- `DomainStrings` の綴り。 -/
def domainStrings (d : Text) (lines : List Text) : List Text :=
  (activeLines lines).flatMap fun p => lineStrings d p.2

/-- 行ごとに一つに決まるものを並べると、全体も一つに決まる。 -/
theorem forall₂_flatten_iff {α β : Type} {R : α → List β → Prop} {f : α → List β}
    (hR : ∀ a bs, R a bs ↔ bs = f a) {l : List α} {out : List β} :
    (∃ parts, List.Forall₂ R l parts ∧ out = parts.flatten) ↔ out = l.flatMap f := by
  constructor
  · rintro ⟨parts, hparts, rfl⟩
    have heq : parts = l.map f := by
      induction hparts with
      | nil => rfl
      | cons hhead _ ih => rw [(hR _ _).mp hhead, ih, List.map_cons]
    rw [heq, List.flatMap_def]
  · rintro rfl
    refine ⟨l.map f, ?_, List.flatMap_def⟩
    exact List.forall₂_map_right_iff.mpr (List.forall₂_same.mpr fun a _ => (hR a _).mpr rfl)

theorem lineStrings_iff {d line : Text} {strs : List Text} :
    LineStrings d line strs ↔ strs = lineStrings d line := by
  constructor
  · intro h
    unfold lineStrings
    cases h with
    | means h => rw [splitConfigLine_ok_iff.mpr h]
    | malformed h => rw [splitConfigLine_error_iff.mpr h]
  · rintro rfl
    unfold lineStrings
    cases hs : splitConfigLine line with
    | error e => exact .malformed (splitConfigLine_error_iff.mp hs)
    | ok v => exact .means (splitConfigLine_ok_iff.mp hs)

theorem domainStrings_iff {d : Text} {lines strs : List Text} :
    DomainStrings d lines strs ↔ strs = domainStrings d lines :=
  forall₂_flatten_iff (R := fun p : Nat × Text => LineStrings d p.2)
    (f := fun p => lineStrings d p.2) fun _ _ => lineStrings_iff

section

variable (unprintable : Char → Bool) (parseAnyUpstream : Text → Except Text υ)

/-- `LineErrors` の失敗。 -/
def lineErrors (p : Nat × Text) : List (Nat × Text) :=
  match splitConfigLine p.2 with
  | .error e => [(p.1, e)]
  | .ok (upstreams, _) => upstreams.flatMap (upstreamErrors unprintable parseAnyUpstream p.1)

/-- `FileErrors` の失敗。 -/
def expectedErrors (lines : List Text) : List (Nat × Text) :=
  (activeLines lines).flatMap (lineErrors unprintable parseAnyUpstream)

theorem lineErrors_iff {p : Nat × Text} {errs : List (Nat × Text)} :
    LineErrors unprintable parseAnyUpstream p errs ↔
      errs = lineErrors unprintable parseAnyUpstream p := by
  constructor
  · intro h
    unfold lineErrors
    cases h with
    | means h => rw [splitConfigLine_ok_iff.mpr h]
    | malformed h => rw [splitConfigLine_error_iff.mpr h]
  · rintro rfl
    unfold lineErrors
    cases hs : splitConfigLine p.2 with
    | error e => exact .malformed (splitConfigLine_error_iff.mp hs)
    | ok v => exact .means (splitConfigLine_ok_iff.mp hs)

theorem fileErrors_iff {lines : List Text} {errs : List (Nat × Text)} :
    FileErrors unprintable parseAnyUpstream lines errs ↔
      errs = expectedErrors unprintable parseAnyUpstream lines :=
  forall₂_flatten_iff (R := LineErrors unprintable parseAnyUpstream) fun _ _ =>
    lineErrors_iff unprintable parseAnyUpstream

end

/-! ## 言及の列 -/

/-- 一つの行が挙げた一つの上流。 -/
structure Mention where
  idx : Nat
  upstream : Text
  domains : List Text

/-- 一つの行の言及。 -/
def lineMentions (p : Nat × Text) : List Mention :=
  match splitConfigLine p.2 with
  | .error _ => []
  | .ok (upstreams, domains) => upstreams.map fun u => { idx := p.1, upstream := u, domains }

/-- `d` の組に入るべき綴りを、言及の列から拾う。 -/
def mentionStrings (d : Text) (ms : List Mention) : List Text :=
  ms.flatMap fun m => List.replicate (m.domains.count d) m.upstream

/-- 既定の組に入るべき綴りを、言及の列から拾う。 -/
def plainStrings (ms : List Mention) : List Text :=
  (ms.filter fun m => m.domains.isEmpty).map Mention.upstream

theorem mentionStrings_append (d : Text) (ms ms' : List Mention) :
    mentionStrings d (ms ++ ms') = mentionStrings d ms ++ mentionStrings d ms' :=
  List.flatMap_append

theorem plainStrings_append (ms ms' : List Mention) :
    plainStrings (ms ++ ms') = plainStrings ms ++ plainStrings ms' := by
  simp [plainStrings]

theorem mem_mentionStrings {d s : Text} {ms : List Mention} (h : s ∈ mentionStrings d ms) :
    ∃ m ∈ ms, m.upstream = s ∧ d ∈ m.domains := by
  obtain ⟨m, hm, hs⟩ := List.mem_flatMap.mp h
  obtain ⟨hc, rfl⟩ := List.mem_replicate.mp hs
  exact ⟨m, hm, rfl, List.count_pos_iff.mp (Nat.pos_of_ne_zero hc)⟩

theorem mem_plainStrings {s : Text} {ms : List Mention} (h : s ∈ plainStrings ms) :
    ∃ m ∈ ms, m.upstream = s := by
  obtain ⟨m, hm, rfl⟩ := List.mem_map.mp h
  exact ⟨m, List.mem_of_mem_filter hm, rfl⟩

/-- 行ごとの読み方は、言及の列の読み方と同じである。 -/
theorem mentionStrings_line (d : Text) (p : Nat × Text) :
    mentionStrings d (lineMentions p) = lineStrings d p.2 := by
  unfold lineMentions lineStrings
  split
  · rfl
  · rw [mentionStrings, List.flatMap_map]

theorem plainStrings_line (p : Nat × Text) :
    plainStrings (lineMentions p) = if IsPlain p.2 then [p.2] else [] := by
  by_cases hp : IsPlain p.2
  · rw [if_pos hp]
    unfold lineMentions
    rw [splitConfigLine_plain hp]
    rfl
  · rw [if_neg hp]
    unfold lineMentions
    split
    · rfl
    · next upstreams domains hs =>
      have hd : domains ≠ [] := fun h =>
        hp ((splitConfigLine_ok_iff.mp hs).domains_eq_nil_iff.mp h)
      simp [plainStrings, List.filter_map, Function.comp_def, hd]

theorem mentionStrings_lines (d : Text) (ps : List (Nat × Text)) :
    mentionStrings d (ps.flatMap lineMentions) = ps.flatMap fun p => lineStrings d p.2 := by
  induction ps with
  | nil => rfl
  | cons p rest ih =>
    rw [List.flatMap_cons, List.flatMap_cons, mentionStrings_append, ih, mentionStrings_line]

theorem plainStrings_lines (ps : List (Nat × Text)) :
    plainStrings (ps.flatMap lineMentions) = (ps.filter fun p => IsPlain p.2).map Prod.snd := by
  induction ps with
  | nil => rfl
  | cons p rest ih =>
    rw [List.flatMap_cons, plainStrings_append, ih, plainStrings_line, List.filter_cons]
    by_cases hp : IsPlain p.2
    · simp [hp]
    · simp [hp]

/-! ## 組への追加 -/

namespace ParseState

/-- `d` の組の上流。組が無ければ空である。 -/
def domainGroup (st : ParseState υ) (d : Text) : List (TrackedUpstream υ) :=
  ((st.domainUpstreams.lookup d).getD {}).upstreams

/-- 組に加えるだけで、ほかは動かさない。 -/
structure SameIndex (st st' : ParseState υ) : Prop where
  index : st'.upstreamIndex = st.upstreamIndex
  errors : st'.errors = st.errors
  nextId : st'.nextId = st.nextId

/-- 一つの domain の組への追加。 -/
theorem domainGroup_pushDomain (st : ParseState υ) (u : TrackedUpstream υ) (domain d : Text) :
    (st.pushDomain u domain).domainGroup d
      = st.domainGroup d ++ List.replicate ([domain].count d) u := by
  unfold pushDomain domainGroup
  dsimp only
  by_cases hd : d = domain
  · subst hd
    rw [AList.lookup_insert]
    simp [UpstreamGroup.push]
  · rw [AList.lookup_insert_ne hd]
    simp [Ne.symm hd]

theorem isSome_pushDomain (st : ParseState υ) (u : TrackedUpstream υ) (domain d : Text) :
    ((st.pushDomain u domain).domainUpstreams.lookup d).isSome = true ↔
      d = domain ∨ (st.domainUpstreams.lookup d).isSome = true := by
  unfold pushDomain
  rw [AList.lookup_isSome, AList.lookup_isSome, AList.mem_insert]

/-- 並んだ domain の組への追加。 -/
theorem foldl_pushDomain (u : TrackedUpstream υ) (domains : List Text) :
    ∀ st : ParseState υ,
      let st' := domains.foldl (fun st domain => st.pushDomain u domain) st
      (∀ d, st'.domainGroup d = st.domainGroup d ++ List.replicate (domains.count d) u) ∧
      (∀ d, (st'.domainUpstreams.lookup d).isSome = true ↔
        d ∈ domains ∨ (st.domainUpstreams.lookup d).isSome = true) ∧
      st'.defaultUpstreams = st.defaultUpstreams ∧ SameIndex st st' := by
  induction domains with
  | nil => exact fun st => ⟨by simp, by simp, rfl, rfl, rfl, rfl⟩
  | cons domain rest ih =>
    intro st
    obtain ⟨hgroup, hsome, hdef, hi⟩ := ih (st.pushDomain u domain)
    refine ⟨?_, ?_, hdef, hi.index, hi.errors, hi.nextId⟩
    · intro d
      rw [List.foldl_cons, hgroup, domainGroup_pushDomain, List.append_assoc,
        List.replicate_append_replicate, ← List.count_append, List.singleton_append]
    · intro d
      rw [List.foldl_cons, hsome, isSome_pushDomain, List.mem_cons]
      tauto

/-- 一つの上流を加えたときの、各組の変化。 -/
theorem pushUpstream_spec (st : ParseState υ) (domains : List Text) (u : TrackedUpstream υ) :
    let st' := st.pushUpstream domains u
    (∀ d, st'.domainGroup d = st.domainGroup d ++ List.replicate (domains.count d) u) ∧
    (∀ d, (st'.domainUpstreams.lookup d).isSome = true ↔
      d ∈ domains ∨ (st.domainUpstreams.lookup d).isSome = true) ∧
    st'.defaultUpstreams.upstreams
      = st.defaultUpstreams.upstreams ++ (if domains.isEmpty then [u] else []) ∧
    SameIndex st st' := by
  unfold pushUpstream
  cases domains with
  | nil =>
    refine ⟨?_, by simp, rfl, rfl, rfl, rfl⟩
    intro d
    simp [domainGroup]
  | cons domain rest =>
    obtain ⟨hgroup, hsome, hdef, hi⟩ := foldl_pushDomain u (domain :: rest) st
    refine ⟨hgroup, hsome, ?_, hi⟩
    simp only [List.isEmpty_cons, Bool.false_eq_true, if_false, hdef, List.append_nil]

end ParseState

/-! ## loop の不変条件 -/

section

variable {unprintable : Char → Bool} {parseAnyUpstream : Text → Except Text υ}

/-- 上流の表は、読み終えた言及のうち作れたものを一度ずつ持つ。 -/
structure IndexInv (parseAnyUpstream : Text → Except Text υ) (ms : List Mention)
    (st : ParseState υ) : Prop where
  built : ∀ u t, st.upstreamIndex.lookup u = some t →
    parseAnyUpstream u = .ok t.upstream ∧ t.id < st.nextId
  /-- 表に在るのは、言及されて作れた綴りである。 -/
  indexed : ∀ u, (∃ t, st.upstreamIndex.lookup u = some t) ↔
    (∃ m ∈ ms, m.upstream = u) ∧ ∃ b, parseAnyUpstream u = .ok b
  /-- 綴りが違えば割り当ても違う。 -/
  distinct : ∀ u u' t t', st.upstreamIndex.lookup u = some t →
    st.upstreamIndex.lookup u' = some t' → t.id = t'.id → u = u'

/-- 組の中身は、言及の列を `look` で引いたものである。 -/
structure GroupInv (parseAnyUpstream : Text → Except Text υ)
    (look : Text → Option (TrackedUpstream υ)) (ms : List Mention) (st : ParseState υ) : Prop where
  plain : st.defaultUpstreams.upstreams = (plainStrings ms).filterMap look
  domain : ∀ d, st.domainGroup d = (mentionStrings d ms).filterMap look
  present : ∀ d, (st.domainUpstreams.lookup d).isSome = true ↔
    ∃ m ∈ ms, d ∈ m.domains ∧ ∃ b, parseAnyUpstream m.upstream = .ok b

/-- loop の状態は、読み終えた言及の列と失敗の列で決まる。 -/
structure ParseInv (parseAnyUpstream : Text → Except Text υ) (ms : List Mention)
    (errs : List (Nat × Text)) (st : ParseState υ) : Prop where
  index : IndexInv parseAnyUpstream ms st
  group : GroupInv parseAnyUpstream (fun u => st.upstreamIndex.lookup u) ms st
  errors : st.errors = errs

theorem parseInv_init (parseAnyUpstream : Text → Except Text υ) :
    ParseInv parseAnyUpstream [] [] ({} : ParseState υ) where
  index :=
    { built := by intro u t h; cases h
      indexed := by
        intro u
        constructor
        · rintro ⟨t, ht⟩
          cases ht
        · rintro ⟨⟨m, hm, _⟩, _⟩
          cases hm
      distinct := by intro u u' t t' h; cases h }
  group :=
    { plain := rfl
      domain := fun _ => rfl
      present := by
        intro d
        constructor
        · intro h
          cases h
        · rintro ⟨m, hm, _⟩
          cases hm }
  errors := rfl

/-- 言及された綴りの引き方が同じなら、組の中身についての主張も同じである。 -/
theorem GroupInv.congr {look look' : Text → Option (TrackedUpstream υ)} {ms : List Mention}
    {st st' : ParseState υ} (h : GroupInv parseAnyUpstream look ms st)
    (hlook : ∀ m ∈ ms, look' m.upstream = look m.upstream)
    (hdef : st'.defaultUpstreams = st.defaultUpstreams)
    (hdom : st'.domainUpstreams = st.domainUpstreams) :
    GroupInv parseAnyUpstream look' ms st' where
  plain := by
    rw [hdef, h.plain]
    refine List.filterMap_congr ?_
    intro s hs
    obtain ⟨m, hm, rfl⟩ := mem_plainStrings hs
    exact (hlook m hm).symm
  domain := by
    intro d
    unfold ParseState.domainGroup
    rw [hdom]
    refine (h.domain d).trans (List.filterMap_congr ?_)
    intro s hs
    obtain ⟨m, hm, rfl, _⟩ := mem_mentionStrings hs
    exact (hlook m hm).symm
  present := by rw [hdom]; exact h.present

/-- 作れた上流への言及を一つ読む。 -/
theorem GroupInv.push {look : Text → Option (TrackedUpstream υ)} {ms : List Mention}
    {st : ParseState υ} (h : GroupInv parseAnyUpstream look ms st) (m : Mention)
    {t : TrackedUpstream υ} (ht : look m.upstream = some t)
    (hb : ∃ b, parseAnyUpstream m.upstream = .ok b) :
    GroupInv parseAnyUpstream look (ms ++ [m]) (st.pushUpstream m.domains t) := by
  obtain ⟨hgroup, hsome, hdef, _⟩ := st.pushUpstream_spec m.domains t
  refine ⟨?_, ?_, ?_⟩
  · rw [hdef, h.plain, plainStrings_append, List.filterMap_append]
    by_cases hd : m.domains.isEmpty
    · simp [plainStrings, hd, ht]
    · simp [plainStrings, hd]
  · intro d
    rw [hgroup, h.domain, mentionStrings_append, List.filterMap_append]
    simp [mentionStrings, List.filterMap_replicate_of_some ht]
  · intro d
    rw [hsome, h.present]
    constructor
    · rintro (hd | ⟨m', hm', hd, hb'⟩)
      · exact ⟨m, by simp, hd, hb⟩
      · exact ⟨m', by simp [hm'], hd, hb'⟩
    · rintro ⟨m', hm', hd, hb'⟩
      rcases List.mem_append.mp hm' with hm' | hm'
      · exact Or.inr ⟨m', hm', hd, hb'⟩
      · rw [List.mem_singleton.mp hm'] at hd
        exact Or.inl hd

/-- 組に加えても上流の表は変わらない。 -/
theorem IndexInv.sameIndex {ms : List Mention} {st st' : ParseState υ}
    (h : IndexInv parseAnyUpstream ms st) (hs : ParseState.SameIndex st st') :
    IndexInv parseAnyUpstream ms st' where
  built := by rw [hs.index, hs.nextId]; exact h.built
  indexed := by rw [hs.index]; exact h.indexed
  distinct := by rw [hs.index]; exact h.distinct

/-- 既に在る綴りか、作れない綴りへの言及では、上流の表は変わらない。 -/
theorem IndexInv.mention {ms : List Mention} {st : ParseState υ}
    (h : IndexInv parseAnyUpstream ms st) (m : Mention)
    (hm : ∀ b, parseAnyUpstream m.upstream = .ok b →
      ∃ t, st.upstreamIndex.lookup m.upstream = some t) :
    IndexInv parseAnyUpstream (ms ++ [m]) st where
  built := h.built
  indexed := by
    intro u
    constructor
    · intro hu
      obtain ⟨⟨m', hm', he⟩, hb⟩ := (h.indexed u).mp hu
      exact ⟨⟨m', by simp [hm'], he⟩, hb⟩
    · rintro ⟨⟨m', hm', rfl⟩, b, hb⟩
      rcases List.mem_append.mp hm' with hm' | hm'
      · exact (h.indexed m'.upstream).mpr ⟨⟨m', hm', rfl⟩, b, hb⟩
      · rw [List.mem_singleton.mp hm'] at hb ⊢
        exact hm b hb
  distinct := h.distinct

/-- 新しい綴りの上流を作って表に入れる。 -/
theorem IndexInv.insert {ms : List Mention} {st : ParseState υ}
    (h : IndexInv parseAnyUpstream ms st) (m : Mention) {built : υ}
    (hb : parseAnyUpstream m.upstream = .ok built) :
    IndexInv parseAnyUpstream (ms ++ [m])
      { st with
        upstreamIndex := st.upstreamIndex.insert m.upstream { id := st.nextId, upstream := built }
        nextId := st.nextId + 1 } := by
  have hold : ∀ u t, u ≠ m.upstream →
      (st.upstreamIndex.insert m.upstream { id := st.nextId, upstream := built }).lookup u = some t →
      st.upstreamIndex.lookup u = some t := by
    intro u t hu hl
    rwa [AList.lookup_insert_ne hu] at hl
  refine ⟨?_, ?_, ?_⟩
  · intro u t hl
    by_cases hu : u = m.upstream
    · subst hu
      rw [AList.lookup_insert] at hl
      cases hl
      exact ⟨hb, Nat.lt_succ_self _⟩
    · obtain ⟨hp, hid⟩ := h.built u t (hold u t hu hl)
      exact ⟨hp, Nat.lt_succ_of_lt hid⟩
  · intro u
    by_cases hu : u = m.upstream
    · subst hu
      dsimp only
      rw [AList.lookup_insert]
      exact ⟨fun _ => ⟨⟨m, by simp, rfl⟩, built, hb⟩, fun _ => ⟨_, rfl⟩⟩
    · dsimp only
      rw [AList.lookup_insert_ne hu, h.indexed u]
      constructor
      · rintro ⟨⟨m', hm', he⟩, hb'⟩
        exact ⟨⟨m', by simp [hm'], he⟩, hb'⟩
      · rintro ⟨⟨m', hm', he⟩, hb'⟩
        rcases List.mem_append.mp hm' with hm' | hm'
        · exact ⟨⟨m', hm', he⟩, hb'⟩
        · rw [List.mem_singleton.mp hm'] at he
          exact absurd he.symm hu
  · -- 新しい番号は、それまでのどの番号よりも大きい
    intro u u' t t' hl hl' hid
    by_cases hu : u = m.upstream
    · by_cases hu' : u' = m.upstream
      · rw [hu, hu']
      · subst hu
        rw [AList.lookup_insert] at hl
        cases hl
        have hlt := (h.built u' t' (hold u' t' hu' hl')).2
        exact absurd hid (Nat.ne_of_gt hlt)
    · by_cases hu' : u' = m.upstream
      · subst hu'
        rw [AList.lookup_insert] at hl'
        cases hl'
        have hlt := (h.built u t (hold u t hu hl)).2
        exact absurd hid (Nat.ne_of_lt hlt)
      · exact h.distinct u u' t t' (hold u t hu hl) (hold u' t' hu' hl') hid

/-- 作れない綴りへの言及では、どの組も変わらない。 -/
theorem GroupInv.skip {look : Text → Option (TrackedUpstream υ)} {ms : List Mention}
    {st st' : ParseState υ} (h : GroupInv parseAnyUpstream look ms st) (m : Mention)
    (hlook : look m.upstream = none) {e : Text} (he : parseAnyUpstream m.upstream = .error e)
    (hdef : st'.defaultUpstreams = st.defaultUpstreams)
    (hdom : st'.domainUpstreams = st.domainUpstreams) :
    GroupInv parseAnyUpstream look (ms ++ [m]) st' where
  plain := by
    rw [hdef, h.plain, plainStrings_append, List.filterMap_append]
    by_cases hd : m.domains.isEmpty
    · simp [plainStrings, hd, hlook]
    · simp [plainStrings, hd]
  domain := by
    intro d
    unfold ParseState.domainGroup
    rw [hdom]
    refine (h.domain d).trans ?_
    rw [mentionStrings_append, List.filterMap_append]
    simp [mentionStrings, List.filterMap_replicate_of_none hlook]
  present := by
    intro d
    rw [hdom, h.present]
    constructor
    · rintro ⟨m', hm', hd, hb⟩
      exact ⟨m', by simp [hm'], hd, hb⟩
    · rintro ⟨m', hm', hd, b, hb⟩
      rcases List.mem_append.mp hm' with hm' | hm'
      · exact ⟨m', hm', hd, b, hb⟩
      · rw [List.mem_singleton.mp hm', he] at hb
        cases hb

variable (unprintable) in
/-- **言及を一つ読む一歩。** -/
theorem ParseInv.addUpstream {ms : List Mention} {errs : List (Nat × Text)} {st : ParseState υ}
    (h : ParseInv parseAnyUpstream ms errs st) (m : Mention) :
    ParseInv parseAnyUpstream (ms ++ [m])
      (errs ++ upstreamErrors unprintable parseAnyUpstream m.idx m.upstream)
      (st.addUpstream unprintable parseAnyUpstream m.idx m.domains m.upstream) := by
  unfold ParseState.addUpstream upstreamErrors
  cases hl : st.upstreamIndex.lookup m.upstream with
  | some t =>
    -- 既に作ってある綴り
    have hb := (h.index.built m.upstream t hl).1
    obtain ⟨_, _, _, hs⟩ := st.pushUpstream_spec m.domains t
    simp only [hb, List.append_nil]
    refine ⟨(h.index.mention m fun _ _ => ⟨t, hl⟩).sameIndex hs, ?_, hs.errors.trans h.errors⟩
    rw [hs.index]
    exact h.group.push m hl ⟨_, hb⟩
  | none =>
    cases hb : parseAnyUpstream m.upstream with
    | ok built =>
      -- 新しい綴り。表が増えても、それまでに言及された綴りの引き方は変わらない
      have hnew : ∀ m' ∈ ms, m'.upstream ≠ m.upstream := by
        intro m' hm' he
        obtain ⟨t, ht⟩ := (h.index.indexed m.upstream).mpr ⟨⟨m', hm', he⟩, built, hb⟩
        rw [hl] at ht
        cases ht
      let st₁ : ParseState υ :=
        { st with
          upstreamIndex := st.upstreamIndex.insert m.upstream { id := st.nextId, upstream := built }
          nextId := st.nextId + 1 }
      have hgroup : GroupInv parseAnyUpstream (fun u => st₁.upstreamIndex.lookup u) ms st₁ :=
        h.group.congr (fun m' hm' => AList.lookup_insert_ne (hnew m' hm')) rfl rfl
      obtain ⟨_, _, _, hs⟩ :=
        st₁.pushUpstream_spec m.domains { id := st.nextId, upstream := built }
      simp only [List.append_nil]
      refine ⟨(h.index.insert m hb).sameIndex hs, ?_, hs.errors.trans h.errors⟩
      rw [hs.index]
      exact hgroup.push m (AList.lookup_insert _) ⟨built, hb⟩
    | error e =>
      refine ⟨?_, h.group.skip m hl hb rfl rfl, by rw [h.errors]⟩
      have hm := h.index.mention m (fun b hok => by rw [hb] at hok; cases hok)
      exact ⟨hm.built, hm.indexed, hm.distinct⟩

/-- 一つの行の言及を順に読む。 -/
theorem ParseInv.addUpstreams (idx : Nat) (domains : List Text) :
    ∀ (us : List Text) {ms : List Mention} {errs : List (Nat × Text)} {st : ParseState υ},
      ParseInv parseAnyUpstream ms errs st →
      ParseInv parseAnyUpstream (ms ++ us.map fun u => { idx, upstream := u, domains })
        (errs ++ us.flatMap (upstreamErrors unprintable parseAnyUpstream idx))
        (us.foldl (fun st u => st.addUpstream unprintable parseAnyUpstream idx domains u) st)
  | [], _, _, _, h => by simpa using h
  | u :: us, _, _, _, h => by
    have hstep := h.addUpstream unprintable { idx, upstream := u, domains }
    have hrest := ParseInv.addUpstreams idx domains us hstep
    simpa using hrest

variable (unprintable) in
/-- 一行読む一歩。 -/
theorem ParseInv.addLine {ms : List Mention} {errs : List (Nat × Text)} {st : ParseState υ}
    (h : ParseInv parseAnyUpstream ms errs st) (idx : Nat) (line : Text) (ha : IsActive line.trim) :
    ParseInv parseAnyUpstream (ms ++ lineMentions (idx, line.trim))
      (errs ++ lineErrors unprintable parseAnyUpstream (idx, line.trim))
      (st.addLine unprintable parseAnyUpstream idx line) := by
  have hskip : (line.trim.isEmpty || line.trim.head? == some '#') = false := by
    simpa [IsActive] using ha
  unfold ParseState.addLine lineMentions lineErrors
  dsimp only
  rw [hskip]
  simp only [Bool.false_eq_true, if_false]
  cases hs : splitConfigLine line.trim with
  | error e =>
    refine ⟨?_, ?_, by rw [h.errors]⟩
    · simp only [List.append_nil]
      exact ⟨h.index.built, h.index.indexed, h.index.distinct⟩
    · simp only [List.append_nil]
      exact ⟨h.group.plain, h.group.domain, h.group.present⟩
  | ok v => exact h.addUpstreams idx v.2 v.1

theorem addLine_inactive {st : ParseState υ} {idx : Nat} {line : Text} (ha : ¬ IsActive line.trim) :
    st.addLine unprintable parseAnyUpstream idx line = st := by
  have hskip : (line.trim.isEmpty || line.trim.head? == some '#') = true := by
    by_contra hc
    exact ha (by simpa [IsActive] using hc)
  unfold ParseState.addLine
  dsimp only
  rw [if_pos hskip]

variable (unprintable) in
/-- **file 全体を読み終えた状態。** -/
theorem ParseInv.addLines : ∀ (lines : List Text) (n : Nat) {ms : List Mention}
    {errs : List (Nat × Text)} {st : ParseState υ}, ParseInv parseAnyUpstream ms errs st →
    ParseInv parseAnyUpstream (ms ++ (activeLinesFrom n lines).flatMap lineMentions)
      (errs ++ (activeLinesFrom n lines).flatMap (lineErrors unprintable parseAnyUpstream))
      (st.addLines unprintable parseAnyUpstream n lines)
  | [], _, _, _, _, h => by simpa [activeLinesFrom, ParseState.addLines] using h
  | line :: rest, n, _, _, st, h => by
    rw [ParseState.addLines]
    by_cases ha : IsActive line.trim
    · have hcons : activeLinesFrom n (line :: rest)
          = (n, line.trim) :: activeLinesFrom (n + 1) rest := by
        simp [activeLinesFrom, List.zipIdx_cons, ha]
      have hrest := ParseInv.addLines rest (n + 1)
        (h.addLine unprintable n line ha)
      rw [hcons]
      simpa using hrest
    · have hcons : activeLinesFrom n (line :: rest) = activeLinesFrom (n + 1) rest := by
        simp [activeLinesFrom, List.zipIdx_cons, ha]
      rw [hcons, addLine_inactive ha]
      exact ParseInv.addLines rest (n + 1) h

/-! ## 主定理 -/

theorem upstreamErrors_eq_nil {idx : Nat} {u : Text} :
    upstreamErrors unprintable parseAnyUpstream idx u = [] ↔
      ∃ b, parseAnyUpstream u = .ok b := by
  unfold upstreamErrors
  cases parseAnyUpstream u with
  | ok b => simp
  | error e => simp

/-- 失敗が出ないのは、正しい file であるとき、かつそのときに限る。 -/
theorem expectedErrors_eq_nil (unprintable : Char → Bool)
    (parseAnyUpstream : Text → Except Text υ) (lines : List Text) :
    expectedErrors unprintable parseAnyUpstream lines = [] ↔ WellFormed parseAnyUpstream lines := by
  unfold expectedErrors WellFormed
  rw [List.flatMap_eq_nil_iff]
  refine forall₂_congr fun p _ => ?_
  unfold lineErrors
  simp only [← splitConfigLine_ok_iff]
  cases splitConfigLine p.2 with
  | error e => simp
  | ok v =>
    simp only [List.flatMap_eq_nil_iff, upstreamErrors_eq_nil, Except.ok.injEq]
    constructor
    · intro h
      exact ⟨v.1, v.2, rfl, h⟩
    · rintro ⟨upstreams, domains, rfl, h⟩
      exact h

/-- 引けるものばかりなら、引き損ないは出ない。 -/
theorem map_some_filterMap {α β : Type} (f : α → Option β) :
    ∀ (l : List α), (∀ x ∈ l, ∃ y, f x = some y) → (l.filterMap f).map some = l.map f
  | [], _ => rfl
  | x :: rest, h => by
    obtain ⟨y, hy⟩ := h x (by simp)
    rw [List.filterMap_cons_some hy, List.map_cons, List.map_cons, hy,
      map_some_filterMap f rest fun z hz => h z (by simp [hz])]

/-- file 全体の言及。 -/
def fileMentions (lines : List Text) : List Mention := (activeLines lines).flatMap lineMentions

theorem mem_fileMentions {lines : List Text} {m : Mention} : m ∈ fileMentions lines ↔
    ∃ p ∈ activeLines lines, ∃ upstreams domains,
      LineMeans p.2 upstreams domains ∧ m.upstream ∈ upstreams ∧
      m.idx = p.1 ∧ m.domains = domains := by
  unfold fileMentions
  simp only [← splitConfigLine_ok_iff]
  rw [List.mem_flatMap]
  refine exists_congr fun p => and_congr_right fun _ => ?_
  unfold lineMentions
  cases hs : splitConfigLine p.2 with
  | error e => simp
  | ok v =>
    simp only [List.mem_map]
    constructor
    · rintro ⟨u, hu, rfl⟩
      exact ⟨v.1, v.2, rfl, hu, rfl, rfl⟩
    · rintro ⟨upstreams, domains, hv, hu, hi, hd⟩
      cases hv
      refine ⟨m.upstream, hu, ?_⟩
      rw [← hi, ← hd]

/-- 正しい file では、挙がった上流はすべて作れる。 -/
theorem WellFormed.mention {lines : List Text} (h : WellFormed parseAnyUpstream lines)
    {m : Mention} (hm : m ∈ fileMentions lines) : ∃ b, parseAnyUpstream m.upstream = .ok b := by
  obtain ⟨p, hp, upstreams, domains, hs, hu, _⟩ := mem_fileMentions.mp hm
  obtain ⟨upstreams', domains', hs', hall⟩ := h p hp
  rw [← splitConfigLine_ok_iff] at hs hs'
  rw [hs] at hs'
  cases hs'
  exact hall m.upstream hu

theorem mem_activeLines {lines : List Text} {p : Nat × Text} (h : p ∈ activeLines lines) :
    IsActive p.2 ∧ ∃ l : Text, p.2 = l.trim := by
  unfold activeLines activeLinesFrom at h
  obtain ⟨hm, ha⟩ := List.mem_filter.mp h
  obtain ⟨q, _, rfl⟩ := List.mem_map.mp hm
  exact ⟨of_decide_eq_true ha, q.1, rfl⟩

/-- domain を挙げる行には、それを受け持つ言及がある。 -/
theorem exists_mention_iff {lines : List Text} {d : Text} :
    (∃ m ∈ fileMentions lines, d ∈ m.domains) ↔ ∃ p ∈ activeLines lines, NamesDomain d p.2 := by
  constructor
  · rintro ⟨m, hm, hd⟩
    obtain ⟨p, hp, upstreams, domains, hs, _, _, rfl⟩ := mem_fileMentions.mp hm
    exact ⟨p, hp, upstreams, m.domains, hs, hd⟩
  · rintro ⟨p, hp, upstreams, domains, hs, hd⟩
    obtain ⟨-, l, hl⟩ := mem_activeLines hp
    have hups : upstreams ≠ [] := LineMeans.upstreams_ne_nil (hl ▸ hs)
    obtain ⟨u, hu⟩ := List.exists_mem_of_ne_nil upstreams hups
    exact ⟨{ idx := p.1, upstream := u, domains }, mem_fileMentions.mpr
      ⟨p, hp, upstreams, domains, hs, hu, rfl, rfl⟩, hd⟩

/-- 読み終えた状態は、file 全体の言及で決まる。 -/
theorem parseInv_file (unprintable : Char → Bool) (parseAnyUpstream : Text → Except Text υ)
    (lines : List Text) : ParseInv parseAnyUpstream (fileMentions lines)
      (expectedErrors unprintable parseAnyUpstream lines)
      (ParseState.addLines unprintable parseAnyUpstream {} 0 lines) := by
  have h := ParseInv.addLines unprintable lines 0 (parseInv_init parseAnyUpstream)
  simpa [fileMentions, expectedErrors, activeLines] using h

/-- 読めた設定の中身。`share` は綴りからその上流への共有である。 -/
structure Reads (parseAnyUpstream : Text → Except Text υ) (lines : List Text)
    (c : UpstreamConfig υ) (share : Text → Option (TrackedUpstream υ)) : Prop where
  default : c.defaultUpstreams.upstreams.map some = (defaultStrings lines).map share
  domain : ∀ d g, c.domainUpstreams.lookup d = some g →
    ∃ strs, DomainStrings d lines strs ∧ g.upstreams.map some = strs.map share
  named : ∀ d, (∃ g, c.domainUpstreams.lookup d = some g) ↔
    ∃ p ∈ activeLines lines, NamesDomain d p.2
  /-- 共有される上流は、その綴りから作ったものである。 -/
  built : ∀ s t, share s = some t → parseAnyUpstream s = .ok t.upstream
  /-- 同じ割り当てになるのは、綴りが同じとき、かつそのときに限る。 -/
  shared : ∀ s s' t t', share s = some t → share s' = some t' → (t.ptrEq t' ↔ s = s')

theorem ParseInv.reads {lines : List Text} {errs : List (Nat × Text)} {st : ParseState υ}
    (h : ParseInv parseAnyUpstream (fileMentions lines) errs st)
    (hw : WellFormed parseAnyUpstream lines) (mode : UpstreamMode) :
    Reads parseAnyUpstream lines
      { domainUpstreams := st.domainUpstreams, defaultUpstreams := st.defaultUpstreams, mode }
      (fun u => st.upstreamIndex.lookup u) := by
  have hall : ∀ m ∈ fileMentions lines, ∃ t, st.upstreamIndex.lookup m.upstream = some t :=
    fun m hm => (h.index.indexed m.upstream).mpr ⟨⟨m, hm, rfl⟩, hw.mention hm⟩
  refine ⟨?_, ?_, ?_, ?_, ?_⟩
  · show st.defaultUpstreams.upstreams.map some = _
    rw [h.group.plain, map_some_filterMap]
    · rw [fileMentions, plainStrings_lines]
      rfl
    · intro s hs
      obtain ⟨m, hm, rfl⟩ := mem_plainStrings hs
      exact hall m hm
  · intro d g hg
    refine ⟨_, domainStrings_iff.mpr rfl, ?_⟩
    have hdom := h.group.domain d
    unfold ParseState.domainGroup at hdom
    rw [show st.domainUpstreams.lookup d = some g from hg] at hdom
    rw [show g.upstreams = _ from hdom, map_some_filterMap]
    · rw [fileMentions, mentionStrings_lines]
      rfl
    · intro s hs
      obtain ⟨m, hm, rfl, _⟩ := mem_mentionStrings hs
      exact hall m hm
  · intro d
    rw [← exists_mention_iff]
    have hp := h.group.present d
    rw [Option.isSome_iff_exists] at hp
    refine hp.trans ?_
    constructor
    · rintro ⟨m, hm, hd, _⟩
      exact ⟨m, hm, hd⟩
    · rintro ⟨m, hm, hd⟩
      exact ⟨m, hm, hd, hw.mention hm⟩
  · intro s t ht
    exact (h.index.built s t ht).1
  · intro s s' t t' ht ht'
    constructor
    · intro hid
      exact h.index.distinct s s' t t' ht ht' hid
    · rintro rfl
      rw [Option.some.inj (ht.symm.trans ht')]
      rfl

/-- 読めた設定の中身は、file から決まる。 -/
theorem UpstreamConfig.parsed_reads {unprintable : Char → Bool}
    {parseAnyUpstream : Text → Except Text υ} {lines : List Text} {mode : UpstreamMode}
    {c : UpstreamConfig υ}
    (h : UpstreamConfig.parseWithMode unprintable parseAnyUpstream lines mode = .ok c) :
    ∃ share, Reads parseAnyUpstream lines c share := by
  have hinv := parseInv_file unprintable parseAnyUpstream lines
  unfold UpstreamConfig.parseWithMode at h
  dsimp only at h
  split at h
  · next hempty =>
    rw [hinv.errors, List.isEmpty_iff, expectedErrors_eq_nil] at hempty
    cases h
    exact ⟨_, hinv.reads hempty mode⟩
  · cases h

/--
**`parse_with_mode` は file の宣言的な読み方と一致する。**

読めるのは正しい file のとき、かつそのときに限る。読めた設定の各組には、file の順に、
挙がった上流が挙がった回数だけ入り、同じ綴りの上流だけが共有される。
読めなければ、正しくない行と作れない上流のそれぞれについて、失敗が file の順に一つずつ返る。
-/
theorem parseWithMode_spec (unprintable : Char → Bool) (parseAnyUpstream : Text → Except Text υ)
    (lines : List Text) (mode : UpstreamMode) :
    ((∃ c, UpstreamConfig.parseWithMode unprintable parseAnyUpstream lines mode = .ok c) ↔
      WellFormed parseAnyUpstream lines) ∧
    (∀ c, UpstreamConfig.parseWithMode unprintable parseAnyUpstream lines mode = .ok c →
      c.mode = mode ∧ ∃ share, Reads parseAnyUpstream lines c share) ∧
    (∀ errs, UpstreamConfig.parseWithMode unprintable parseAnyUpstream lines mode = .error errs →
      FileErrors unprintable parseAnyUpstream lines errs) := by
  have hinv := parseInv_file unprintable parseAnyUpstream lines
  have hnil := expectedErrors_eq_nil unprintable parseAnyUpstream lines
  unfold UpstreamConfig.parseWithMode
  dsimp only
  rw [hinv.errors]
  by_cases hw : WellFormed parseAnyUpstream lines
  · rw [hnil.mpr hw]
    refine ⟨⟨fun _ => hw, fun _ => ⟨_, rfl⟩⟩, ?_, ?_⟩
    · intro c hc
      cases hc
      exact ⟨rfl, _, hinv.reads hw mode⟩
    · intro errs he
      cases he
  · have hne : ¬ (expectedErrors unprintable parseAnyUpstream lines).isEmpty = true := by
      rw [List.isEmpty_iff, hnil]
      exact hw
    rw [if_neg hne]
    refine ⟨⟨?_, fun h => absurd h hw⟩, ?_, ?_⟩
    · rintro ⟨c, hc⟩
      cases hc
    · intro c hc
      cases hc
    · intro errs he
      cases he
      exact (fileErrors_iff unprintable parseAnyUpstream).mpr rfl

/-- 二つの行に現れる `x` は同じ割り当てになり、domain は小文字になる。 -/
example : (match UpstreamConfig.parseWithMode (fun _ => false)
      (fun u => if u = text "bad" then .error (text "?") else .ok u)
      [text "# comment", text " [/A.com/]y x ", text "x"] .ordered with
    | .ok c => some (c.defaultUpstreams.upstreams, c.domainUpstreams.keys,
        (c.group (.domain (text "a.com."))).upstreams)
    | .error _ => none)
    = some ([⟨1, text "x"⟩], [text "a.com."], [⟨0, text "y"⟩, ⟨1, text "x"⟩]) := by
  decide

end

end DnsProxy
