import DnsProxy.Client.UpstreamConfig

/-!
# 設定の行の文法

前後の空白を除いた一行は、それ全体が一つの上流であるか、`[/d₁/…/dₖ/]us` の形をした規則である。
規則の domain は小文字にして `.` を付け、上流は `us` を空白で分けたものである。どちらにも読めない行には、
決まった文面の失敗がある。

ここではその文法を code とは別に書き（`LineMeans`・`MalformedLine`）、`split_config_line` がちょうど
それを計算することを示す（`splitConfigLine_ok_iff`・`splitConfigLine_error_iff`）。
-/

namespace DnsProxy

open Infra

/-! ## 文法 -/

/-- domain の付かない行。 -/
def IsPlain (line : Text) : Prop := ¬ text "[/" <+: line

instance (line : Text) : Decidable (IsPlain line) := inferInstanceAs (Decidable (¬ _))

/-- 括弧の中に並ぶ domain。どれも `/` を含まず、全体を `/` で繋いでも途中で括弧は閉じない。 -/
structure Bracketed (hosts : List Text) : Prop where
  ne_nil : hosts ≠ []
  noSlash : ∀ host ∈ hosts, '/' ∉ host
  closed : ¬ text "/]" <:+: ['/'].intercalate hosts

/-- `[/d₁/…/dₖ/]us`。 -/
def ruleText (hosts : List Text) (us : Text) : Text :=
  text "[/" ++ (['/'].intercalate hosts ++ (text "/]" ++ us))

/-- 行 `line` は、上流 `upstreams` を domain `domains` に割り当てる。既定の行では `domains` は空である。 -/
inductive LineMeans : Text → List Text → List Text → Prop where
  | plain {line : Text} (plain : IsPlain line) : LineMeans line [line] []
  | rule {hosts : List Text} {us : Text} (bracketed : Bracketed hosts) (named : [] ∉ hosts)
      (given : us ≠ []) :
      LineMeans (ruleText hosts us) us.splitWhitespace
        (hosts.map fun host => host.toAsciiLowercase ++ ['.'])

/-- 行 `line` は読めず、失敗 `e` になる。 -/
inductive MalformedLine : Text → Text → Prop where
  | unclosed {body : Text} (unclosed : ¬ text "/]" <:+: body) :
      MalformedLine (text "[/" ++ body) (text "wrong upstream format: missing closing \"/]\"")
  | noUpstreams {hosts : List Text} (bracketed : Bracketed hosts) :
      MalformedLine (ruleText hosts []) (text "wrong upstream format: no upstreams after \"/]\"")
  | emptyDomain {hosts : List Text} {us : Text} (bracketed : Bracketed hosts) (given : us ≠ [])
      (empty : [] ∈ hosts) :
      MalformedLine (ruleText hosts us) (text "wrong upstream format: empty domain in rule")

/-! ## `split_config_line` -/

theorem splitConfigLine_plain {line : Text} (h : IsPlain line) :
    splitConfigLine line = .ok ([line], []) := by
  unfold splitConfigLine
  split
  · rfl
  · next rest hp =>
    have hpre : text "[/" ++ rest = line := List.isPrefixOf?_eq_some_iff_append_eq.mp hp
    exact absurd ⟨rest, hpre⟩ h

theorem splitConfigLine_unclosed {body : Text} (h : ¬ text "/]" <:+: body) :
    splitConfigLine (text "[/" ++ body)
      = .error (text "wrong upstream format: missing closing \"/]\"") := by
  have hpre : (text "[/").isPrefixOf? (text "[/" ++ body) = some body :=
    List.isPrefixOf?_eq_some_iff_append_eq.mpr rfl
  unfold splitConfigLine
  rw [hpre]
  dsimp only
  rw [Text.splitOnce_eq_none_iff.mpr h]

theorem splitConfigLine_ruleText {hosts : List Text} (h : Bracketed hosts) (us : Text) :
    splitConfigLine (ruleText hosts us) =
      if us = [] then .error (text "wrong upstream format: no upstreams after \"/]\"")
      else if [] ∈ hosts then .error (text "wrong upstream format: empty domain in rule")
      else .ok (us.splitWhitespace, hosts.map fun host => host.toAsciiLowercase ++ ['.']) := by
  have hpre : (text "[/").isPrefixOf? (ruleText hosts us)
      = some (['/'].intercalate hosts ++ (text "/]" ++ us)) :=
    List.isPrefixOf?_eq_some_iff_append_eq.mpr rfl
  have hsplit : Text.splitOnce (text "/]") (['/'].intercalate hosts ++ (text "/]" ++ us))
      = some (['/'].intercalate hosts, us) := Text.splitOnce_pair_append (by decide) h.closed us
  have hhosts : (['/'].intercalate hosts).splitOnP (· == '/') = hosts := by
    rw [← List.splitOn_eq_splitOnP]
    exact List.splitOn_intercalate '/' h.noSlash h.ne_nil
  unfold splitConfigLine
  rw [hpre]
  dsimp only
  rw [hsplit]
  dsimp only
  rw [hhosts]

theorem intercalate_hosts (domains : Text) :
    ['/'].intercalate (domains.splitOnP (· == '/')) = domains := by
  rw [← List.splitOn_eq_splitOnP]
  exact List.intercalate_splitOn '/'

/-- 途中で閉じない綴りは、`/` で分けた domain の列である。 -/
theorem bracketed_hosts {domains : Text} (h : ¬ text "/]" <:+: domains) :
    Bracketed (domains.splitOnP (· == '/')) where
  ne_nil := List.splitOnP_ne_nil _ _
  noSlash _ := Text.not_mem_of_mem_splitOnP
  closed := by rwa [intercalate_hosts]

/-- どの行も、既定の行か、括弧の閉じない行か、括弧の閉じた行である。 -/
theorem line_cases (line : Text) : IsPlain line ∨
    (∃ body, line = text "[/" ++ body ∧ ¬ text "/]" <:+: body) ∨
    ∃ hosts us, Bracketed hosts ∧ line = ruleText hosts us := by
  by_cases hplain : IsPlain line
  · exact Or.inl hplain
  · obtain ⟨body, rfl⟩ := not_not.mp hplain
    cases hs : Text.splitOnce (text "/]") body with
    | none => exact Or.inr (Or.inl ⟨body, rfl, Text.splitOnce_eq_none_iff.mp hs⟩)
    | some v =>
      obtain ⟨before, us⟩ := v
      obtain ⟨rfl, hclosed⟩ := (Text.splitOnce_pair_iff (by decide)).mp hs
      refine Or.inr (Or.inr ⟨before.splitOnP (· == '/'), us, bracketed_hosts hclosed, ?_⟩)
      unfold ruleText
      rw [intercalate_hosts]
      rfl

/-- **`split_config_line` が値を返すのは文法どおりに読めるときで、その値は文法の読み方である。** -/
theorem splitConfigLine_ok_iff {line : Text} {upstreams domains : List Text} :
    splitConfigLine line = .ok (upstreams, domains) ↔ LineMeans line upstreams domains := by
  constructor
  · intro h
    rcases line_cases line with hplain | ⟨body, rfl, hbody⟩ | ⟨hosts, us, hbracketed, rfl⟩
    · rw [splitConfigLine_plain hplain] at h
      cases h
      exact .plain hplain
    · rw [splitConfigLine_unclosed hbody] at h
      cases h
    · rw [splitConfigLine_ruleText hbracketed] at h
      split at h
      · cases h
      · next hus =>
        split at h
        · cases h
        · next hnamed =>
          cases h
          exact .rule hbracketed hnamed hus
  · intro h
    cases h with
    | plain hplain => exact splitConfigLine_plain hplain
    | rule hbracketed hnamed hus =>
      rw [splitConfigLine_ruleText hbracketed, if_neg hus, if_neg hnamed]

/-- 失敗するのは文法どおりに読めないときで、失敗の文面も文法が決める。 -/
theorem splitConfigLine_error_iff {line e : Text} :
    splitConfigLine line = .error e ↔ MalformedLine line e := by
  constructor
  · intro h
    rcases line_cases line with hplain | ⟨body, rfl, hbody⟩ | ⟨hosts, us, hbracketed, rfl⟩
    · rw [splitConfigLine_plain hplain] at h
      cases h
    · rw [splitConfigLine_unclosed hbody] at h
      cases h
      exact .unclosed hbody
    · rw [splitConfigLine_ruleText hbracketed] at h
      split at h
      · next hus =>
        cases h
        rw [hus]
        exact .noUpstreams hbracketed
      · next hus =>
        split at h
        · next hempty =>
          cases h
          exact .emptyDomain hbracketed hus hempty
        · cases h
  · intro h
    cases h with
    | unclosed hbody => exact splitConfigLine_unclosed hbody
    | noUpstreams hbracketed => rw [splitConfigLine_ruleText hbracketed, if_pos rfl]
    | emptyDomain hbracketed hus hempty =>
      rw [splitConfigLine_ruleText hbracketed, if_neg hus, if_pos hempty]

/-- 大文字の domain と、続いた空白で分けた上流。 -/
example : LineMeans (text "[/A.com/b/]x  y") [text "x", text "y"] [text "a.com.", text "b."] :=
  splitConfigLine_ok_iff.mp (by decide)

/-! ## 読めた行 -/

namespace LineMeans

variable {line : Text} {upstreams domains : List Text}

/-- 既定の行と規則の行は、`domains` が空かどうかで分かれる。 -/
theorem domains_eq_nil_iff (h : LineMeans line upstreams domains) : domains = [] ↔ IsPlain line := by
  cases h with
  | plain hplain => exact ⟨fun _ => hplain, fun _ => rfl⟩
  | rule hbracketed =>
    constructor
    · intro hnil
      exact absurd (List.map_eq_nil_iff.mp hnil) hbracketed.ne_nil
    · intro hplain
      exact absurd ⟨_, rfl⟩ hplain

/-- 空の domain は弾かれるので、鍵が `.` だけになることはない。 -/
theorem domain_ne_dot (h : LineMeans line upstreams domains) {d : Text} (hd : d ∈ domains) :
    d ≠ ['.'] := by
  cases h with
  | plain => cases hd
  | rule _ hnamed _ =>
    obtain ⟨host, hhost, rfl⟩ := List.mem_map.mp hd
    intro heq
    have hlen := congrArg List.length heq
    have hnil : host = [] := by simpa [Text.toAsciiLowercase] using hlen
    exact hnamed (hnil ▸ hhost)

/-- **前後の空白を除いた行は、必ず上流を一つは挙げる。** -/
theorem upstreams_ne_nil {l : Text} (h : LineMeans l.trim upstreams domains) : upstreams ≠ [] := by
  generalize hline : l.trim = line at h
  cases h with
  | plain => simp
  | @rule hosts us _ _ hus =>
    refine Text.splitWhitespace_ne_nil hus ?_
    -- 行の最後の文字は `/]` の後ろの最後の文字でもある
    have hne : l.trim ≠ [] := by
      rw [hline]
      simp [ruleText]
    have hlast := Text.trim_getLast l hne
    have heq : l.trim.getLast hne = us.getLast hus := by
      simp only [hline, ruleText, ← List.append_assoc, List.getLast_append_of_ne_nil _ hus]
    rw [heq] at hlast
    exact hlast

end LineMeans

end DnsProxy
