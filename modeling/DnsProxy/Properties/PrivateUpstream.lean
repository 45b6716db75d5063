import DnsProxy.Properties.PrivateZones
import DnsProxy.Properties.RoundRobin

/-!
# 私用の上流の優先

`--private-upstream` の文書は、私用の宛先の逆引きではこの上流が `--upstream` などの規則に優先すると言う。
実装がするのは、私用の行を最初の行に置くことだけである。組は最長の鍵で選ばれ、選ばれた組は mode に
応じて並べ替えられるので、最初の行であることが効くのは、同じ鍵の組の中で、並べ替えの無いときに限る。

どの run のどの時点でも最初に試す上流が私用のものであることの必要十分条件を、規則の行だけから書く
（`private_upstream_first_iff`）。
-/

namespace DnsProxy

open Infra

variable {υ : Type}

/-! ## 並べ替えた先頭 -/

/-- 並べ替えた列の先頭が必ず `x` になる列。round robin の cursor は 64 bit である。 -/
def Favored {α : Type} (mode : UpstreamMode) (x : α) (l : List α) : Prop :=
  match mode with
  | .ordered => l.head? = some x
  | .roundRobin => ∀ y ∈ l.take (2 ^ 64), y = x
  | .loadBalance => ∀ y ∈ l, y = x

/-- 列の要素を一対一に取り替えても変わらない。 -/
theorem favored_share {α β : Type} {mode : UpstreamMode} {share : α → Option β}
    (hinj : ∀ a a' b, share a = some b → share a' = some b → a = a') {x : α} {y : β}
    (hx : share x = some y) {l : List α} {m : List β} (h : m.map some = l.map share) :
    Favored mode y m ↔ Favored mode x l := by
  have hall : ∀ {l : List α} {m : List β}, m.map some = l.map share →
      ((∀ b ∈ m, b = y) ↔ ∀ a ∈ l, a = x) := by
    intro l m h
    constructor
    · intro hm a ha
      have hmem : share a ∈ m.map some := h ▸ List.mem_map_of_mem ha
      obtain ⟨b, hb, hab⟩ := List.mem_map.mp hmem
      exact hinj a x y (by rw [← hab, hm b hb]) hx
    · intro hl b hb
      have hmem : some b ∈ l.map share := h ▸ List.mem_map_of_mem hb
      obtain ⟨a, ha, hab⟩ := List.mem_map.mp hmem
      rw [hl a ha, hx] at hab
      exact (Option.some.inj hab).symm
  cases mode with
  | ordered =>
    have hhead := congrArg List.head? h
    simp only [List.head?_map] at hhead
    unfold Favored
    dsimp only
    cases hl : l.head? with
    | none =>
      rw [hl, Option.map_none, Option.map_eq_none_iff] at hhead
      simp [hhead]
    | some a =>
      rw [hl, Option.map_some, Option.map_eq_some_iff] at hhead
      obtain ⟨b, hb, hab⟩ := hhead
      rw [hb, Option.some.injEq, Option.some.injEq]
      constructor
      · rintro rfl
        exact hinj a x b hab.symm hx
      · rintro rfl
        exact Option.some.inj (hab.trans hx)
  | roundRobin => exact hall (by rw [List.map_take, List.map_take, h])
  | loadBalance => exact hall h

/-- 先頭が `t` に決まる組は、どう並べ替えても `t` から始まる。 -/
theorem UpstreamGroup.head_ordered {g : UpstreamGroup υ} {mode : UpstreamMode}
    {t : TrackedUpstream υ} (hne : g.upstreams ≠ []) (h : Favored mode t g.upstreams)
    (env : OrderEnv υ) : (g.ordered mode env).1.head? = some t := by
  have hperm := g.ordered_perm mode env
  cases mode with
  | ordered => exact h
  | roundRobin =>
    have hlen : g.upstreams.length ≠ 0 := fun h0 => hne (List.length_eq_zero_iff.mp h0)
    have hstart := Nat.mod_lt g.roundRobinCursor.toNat (Nat.pos_of_ne_zero hlen)
    have hcursor : g.roundRobinCursor.toNat % g.upstreams.length < 2 ^ 64 :=
      Nat.lt_of_le_of_lt (Nat.mod_le _ _) (UInt64.toNat_lt _)
    have hlist : (g.ordered .roundRobin env).1
        = g.upstreams.rotate (g.roundRobinCursor.toNat % g.upstreams.length) := by
      rw [List.rotate_eq_drop_append_take (Nat.le_of_lt hstart)]
      unfold UpstreamGroup.ordered
      dsimp only
      rw [if_neg hlen]
    rw [hlist, List.head?_rotate hstart, List.getElem?_eq_getElem hstart, Option.some.injEq]
    refine h _ (List.mem_take_iff_getElem.mpr ⟨_, ?_, rfl⟩)
    exact Nat.lt_min.mpr ⟨hcursor, hstart⟩
  | loadBalance =>
    cases hl : (g.ordered .loadBalance env).1 with
    | nil =>
      rw [hl] at hperm
      exact absurd (List.nil_perm.mp hperm) hne
    | cons x rest =>
      rw [hl] at hperm
      rw [List.head?_cons, h x (hperm.mem_iff.mp List.mem_cons_self)]

open Classical in
/-- まだどの上流も測っておらず、`t` を先頭に出す並べ替え。 -/
noncomputable def OrderEnv.favoring (t : TrackedUpstream υ) : OrderEnv υ where
  latency _ := {}
  shuffle l := if t ∈ l then t :: l.erase t else l
  shuffle_perm l := by
    split
    · next ht => exact (List.perm_cons_erase ht).symm
    · exact List.Perm.refl l

/-- 測っていない間は、どの上流も先頭に立ちうる。 -/
theorem UpstreamGroup.head_favoring {g : UpstreamGroup υ} {t : TrackedUpstream υ}
    (ht : t ∈ g.upstreams) : (g.ordered .loadBalance (.favoring t)).1.head? = some t := by
  have haverage : ∀ u : TrackedUpstream υ,
      ((OrderEnv.favoring t).latency u.id).average = none := fun _ => rfl
  unfold UpstreamGroup.ordered
  simp only [haverage, Option.isSome_none, Bool.not_false, List.filter_true, List.filter_false,
    List.mergeSort_nil, List.append_nil]
  unfold OrderEnv.favoring
  dsimp only
  rw [if_pos ht, List.head?_cons]

namespace UpstreamConfig

/-- 同じ名前が `n` 度来た後の cursor。 -/
theorem cursor_after_replicate {c : UpstreamConfig υ} (hmode : c.mode = .roundRobin)
    (env : OrderEnv υ) {fqdn : Text} (hne : (c.group (c.groupFor fqdn)).upstreams ≠ [])
    (hzero : c.cursor (c.groupFor fqdn) = 0) (n : Nat) :
    (c.after (List.replicate n (env, fqdn))).cursor (c.groupFor fqdn) = n % 2 ^ 64 := by
  induction n with
  | zero => exact hzero
  | succ n ih =>
    have hrules := after_sameRules (List.replicate n (env, fqdn)) c
    have hstep : c.after (List.replicate (n + 1) (env, fqdn))
        = ((c.after (List.replicate n (env, fqdn))).upstreamsFor env fqdn).2 := by
      unfold after
      rw [List.replicate_succ', List.foldl_append]
      rfl
    rw [hstep, cursor_upstreamsFor (hrules.mode.trans hmode) env fqdn
      (by rw [hrules.upstreams]; exact hne), groupFor_congr hrules, if_pos rfl, ih, Nat.mod_add_mod]

/-- **どの run の後でも最初に試すのが `t` であるのは、組が `t` に偏っているとき、かつそのときに限る。** -/
theorem head_upstreamsFor_iff {c : UpstreamConfig υ} {fqdn : Text} {t : TrackedUpstream υ}
    (hne : (c.group (c.groupFor fqdn)).upstreams ≠ [])
    (hzero : c.cursor (c.groupFor fqdn) = 0) :
    (∀ past env, ((c.after past).upstreamsFor env fqdn).1.head? = some t) ↔
      Favored c.mode t (c.group (c.groupFor fqdn)).upstreams := by
  -- run の間、選ばれる組の上流は変わらない
  have hgroup : ∀ past, (((c.after past).group ((c.after past).groupFor fqdn)).upstreams
      = (c.group (c.groupFor fqdn)).upstreams) := by
    intro past
    rw [groupFor_congr (after_sameRules past c), (after_sameRules past c).upstreams]
  constructor
  · intro h
    cases hmode : c.mode with
    | ordered =>
      have h0 := h [] .untested
      unfold upstreamsFor UpstreamGroup.ordered at h0
      rw [show (c.after []).mode = .ordered from hmode] at h0
      exact h0
    | roundRobin =>
      intro x hx
      obtain ⟨i, hi, rfl⟩ := List.mem_take_iff_getElem.mp hx
      obtain ⟨hi64, hilen⟩ := Nat.lt_min.mp hi
      -- 同じ名前が `i` 度来た後では、`i` 番目が先頭に立つ
      have hrules := after_sameRules (List.replicate i (OrderEnv.untested, fqdn)) c
      have hserved := servedFor_upstreams (hrules.mode.trans hmode) .untested fqdn
        (by rw [hgroup]; exact hne)
      have hhead := h (List.replicate i (.untested, fqdn)) .untested
      have hcursor := cursor_after_replicate hmode .untested hne hzero i
      unfold servedFor at hserved
      dsimp only at hserved
      rw [hserved, hgroup, groupFor_congr hrules, hcursor, Nat.mod_eq_of_lt hi64,
        Nat.mod_eq_of_lt hilen, List.head?_rotate hilen, List.getElem?_eq_getElem hilen] at hhead
      exact Option.some.inj hhead
    | loadBalance =>
      intro x hx
      have hhead := h [] (.favoring x)
      unfold upstreamsFor at hhead
      rw [show (c.after []).mode = .loadBalance from hmode] at hhead
      exact Option.some.inj ((UpstreamGroup.head_favoring hx).symm.trans hhead)
  · intro h past env
    have hmode := (after_sameRules past c).mode
    unfold upstreamsFor
    dsimp only
    rw [hmode]
    refine UpstreamGroup.head_ordered ?_ ?_ env
    · rw [hgroup]
      exact hne
    · rw [hgroup]
      exact h

end UpstreamConfig

/-! ## 規則の行から見た条件 -/

/-- 行のどれかが `key` を挙げている。 -/
def NamedIn (lines : List Text) (key : Text) : Prop :=
  ∃ line ∈ lines, IsActive line.trim ∧ NamesDomain key line.trim

/-- 名前に掛かる、行に挙がった鍵のうち最長のものである。 -/
def LongestNamed (lines : List Text) (fqdn key : Text) : Prop :=
  NamedIn lines key ∧ Covers key fqdn ∧
    ∀ key', NamedIn lines key' → Covers key' fqdn → key' ≠ key → key'.length < key.length

section

variable {unprintable : Char → Bool} {parseAnyUpstream : Text → Except Text υ} {lines : List Text}
  {mode : UpstreamMode} {c : UpstreamConfig υ}

/-- 読めた設定では、行に挙がった最長の鍵が選ばれる。 -/
theorem groupFor_iff_longestNamed
    (h : UpstreamConfig.parseWithMode unprintable parseAnyUpstream lines mode = .ok c)
    (fqdn key : Text) : c.groupFor fqdn = .domain key ↔ LongestNamed lines fqdn key := by
  have hkeys : ∀ key, key ∈ c.domainUpstreams ↔ NamedIn lines key := by
    intro key
    rw [← AList.lookup_isSome]
    exact registered_iff_of_mem h key
  rw [UpstreamConfig.groupFor_domain_iff]
  simp only [hkeys]
  rfl

/-- 私用の zone の中の名前には、必ずどれかの鍵が選ばれる。 -/
theorem exists_longestNamed {u : Text} {args : List Text} {file : Option Text}
    (h : UpstreamConfig.parseWithMode unprintable parseAnyUpstream (ruleLines (some u) args file)
      mode = .ok c) {fqdn : Text}
    (hname : ∃ zone ∈ privateReverseZones, Covers (zone ++ ['.']) fqdn) :
    ∃ key, c.groupFor fqdn = .domain key := by
  obtain ⟨zone, hzone, hcov⟩ := hname
  cases hgroup : c.groupFor fqdn with
  | domain key => exact ⟨key, rfl⟩
  | default =>
    have hsplit := splitConfigLine_private_parsed h
    have hnamed : c.registered (zone ++ ['.']) = true :=
      (registered_iff_of_mem h _).mpr ⟨privateUpstreamLine u, List.mem_cons_self,
        isActive_private u, _, _, splitConfigLine_ok_iff.mp hsplit, List.mem_map_of_mem hzone⟩
    exact absurd hcov ((c.groupFor_default_iff fqdn).mp hgroup _ (AList.lookup_isSome.mp hnamed))

/-- 私用の zone の組には、私用の上流が最初に入る。 -/
theorem head_domainStrings_private {u w : Text} {rest : List Text}
    (hs : splitConfigLine (privateUpstreamLine u).trim = .ok (u.splitWhitespace, privateKeys))
    (hw : u.splitWhitespace.head? = some w) {key : Text} (hkey : key ∈ privateKeys) :
    (domainStrings key (privateUpstreamLine u :: rest)).head? = some w := by
  rw [domainStrings_private hs, if_pos hkey, List.head?_append, hw]
  rfl

/--
**私用の zone の中の名前で、どの run のどの時点でも最初に試すのが私用の上流であるのは、
行に挙がった最長の鍵の綴りの列が私用の上流に偏っているとき、かつそのときに限る。**

`w` は `--private-upstream` の値の最初の語で、空白を含まない値ならその値である。`t` はその上流である。
偏りとは、`Ordered` では列の最初が `w` であること、ほかの mode では列がすべて `w` であることを言う。
-/
theorem private_upstream_first_iff {u : Text} {args : List Text} {file : Option Text}
    (h : UpstreamConfig.parseWithMode unprintable parseAnyUpstream (ruleLines (some u) args file)
      mode = .ok c) {fqdn : Text}
    (hname : ∃ zone ∈ privateReverseZones, Covers (zone ++ ['.']) fqdn) :
    ∃ w share t, u.splitWhitespace.head? = some w ∧
      Reads parseAnyUpstream (ruleLines (some u) args file) c share ∧ share w = some t ∧
      ((∀ past env, ((c.after past).upstreamsFor env fqdn).1.head? = some t) ↔
        ∀ key strs, LongestNamed (ruleLines (some u) args file) fqdn key →
          DomainStrings key (ruleLines (some u) args file) strs → Favored mode w strs) := by
  obtain ⟨share, hreads⟩ := UpstreamConfig.parsed_reads h
  have hsplit := splitConfigLine_private_parsed h
  have hwords : u.splitWhitespace ≠ [] :=
    (splitConfigLine_ok_iff.mp hsplit).upstreams_ne_nil
  obtain ⟨w, ws, hw⟩ := List.exists_cons_of_ne_nil hwords
  have hgroup : ∀ key, c.registered key = true → (c.group (.domain key)).upstreams.map some
      = (domainStrings key (ruleLines (some u) args file)).map share := by
    intro key hreg
    obtain ⟨g, hg⟩ := Option.isSome_iff_exists.mp hreg
    obtain ⟨strs, hdomain, hshare⟩ := hreads.domain key g hg
    rw [← domainStrings_iff.mp hdomain, ← hshare]
    simp [UpstreamConfig.group, hg]
  -- 私用の zone の一つの組から、`w` の上流を取り出す
  obtain ⟨t, ht⟩ : ∃ t, share w = some t := by
    obtain ⟨key₀, hkey₀⟩ : ∃ key, key ∈ privateKeys := ⟨_, List.mem_cons_self⟩
    have hreg₀ : c.registered key₀ = true := (registered_iff_of_mem h _).mpr
      ⟨privateUpstreamLine u, List.mem_cons_self, isActive_private u, _, _,
        splitConfigLine_ok_iff.mp hsplit, hkey₀⟩
    have hmem : w ∈ domainStrings key₀ (ruleLines (some u) args file) :=
      List.mem_of_head? (head_domainStrings_private hsplit (by rw [hw]; rfl) hkey₀)
    have hshare : share w ∈ (c.group (.domain key₀)).upstreams.map some := by
      rw [hgroup key₀ hreg₀]
      exact List.mem_map_of_mem hmem
    obtain ⟨t, -, ht⟩ := List.mem_map.mp hshare
    exact ⟨t, ht.symm⟩
  have hinj : ∀ s s' t, share s = some t → share s' = some t → s = s' :=
    fun s s' t hs hs' => (hreads.shared s s' t t hs hs').mp rfl
  refine ⟨w, share, t, by rw [hw]; rfl, hreads, ht, ?_⟩
  obtain ⟨key, hkey⟩ := exists_longestNamed h hname
  have hreg : c.registered key = true := UpstreamConfig.groupFor_domain hkey
  have hne : (c.group (c.groupFor fqdn)).upstreams ≠ [] := by
    rw [hkey]
    exact UpstreamConfig.parsed_group_ne_nil h hreg
  rw [UpstreamConfig.head_upstreamsFor_iff hne (UpstreamConfig.parsed_cursor h _), hkey,
    favored_share hinj ht (hgroup key hreg), UpstreamConfig.parseWithMode_mode h]
  constructor
  · intro hfav key' strs hlong hstrs
    rw [← groupFor_iff_longestNamed h, hkey] at hlong
    cases hlong
    rw [domainStrings_iff.mp hstrs]
    exact hfav
  · intro hall
    exact hall key _ ((groupFor_iff_longestNamed h fqdn key).mp hkey) (domainStrings_iff.mpr rfl)

/-! ### 具体的な設定 -/

/-- 細かい規則が無ければ、`10.in-addr.arpa` の中の名前は必ず私用の上流から試す。 -/
theorem private_upstream_first_alone :
    ∃ c, UpstreamConfig.parseWithMode (fun _ => false) Except.ok
        (ruleLines (some (text "u")) [text "v"] none) .ordered = .ok c ∧
      ∃ t : TrackedUpstream Text, t.upstream = text "u" ∧ ∀ past env,
        ((c.after past).upstreamsFor env (text "1.10.in-addr.arpa.")).1.head? = some t := by
  have hlines : ruleLines (some (text "u")) [text "v"] none
      = [privateUpstreamLine (text "u"), text "v"] := rfl
  have hname : ∃ zone ∈ privateReverseZones, Covers (zone ++ ['.']) (text "1.10.in-addr.arpa.") :=
    ⟨text "10.in-addr.arpa", List.mem_cons_self, Or.inr ⟨by decide, text "1", by decide⟩⟩
  obtain ⟨c, hc⟩ := UpstreamConfig.parsed_iff_wellFormed.mpr wellFormed_private
  rw [← hlines] at hc
  obtain ⟨w, share, t, hw, hreads, ht, hiff⟩ := private_upstream_first_iff hc hname
  refine ⟨c, hc, t, ?_, hiff.mpr ?_⟩
  · have hbuilt := hreads.built w t ht
    cases hw
    exact (Except.ok.inj hbuilt).symm
  · intro key strs hlong hstrs
    rw [domainStrings_iff.mp hstrs]
    -- 鍵は私用の行のものしか無い
    have hgroup := (groupFor_iff_longestNamed hc _ key).mpr hlong
    have hkey := (mem_keys_private hc (by decide) key).mp
      (AList.lookup_isSome.mp (UpstreamConfig.groupFor_domain hgroup))
    exact head_domainStrings_private (splitConfigLine_private_parsed hc) hw hkey

/-- 細かい規則 `1.10.in-addr.arpa` が在れば、その中の名前は規則の上流 `v` から試す。 -/
theorem private_upstream_outranked :
    ∃ zone ∈ privateReverseZones, Covers (zone ++ ['.']) (text "2.1.10.in-addr.arpa.") ∧
      ((UpstreamConfig.parseWithMode (fun _ => false) Except.ok
        (ruleLines (some (text "u")) [text "[/1.10.in-addr.arpa/]v"] none) .ordered).toOption.map
          fun c => (c.upstreamsFor .untested (text "2.1.10.in-addr.arpa.")).1.map
            TrackedUpstream.upstream) = some [text "v"] := by
  refine ⟨text "10.in-addr.arpa", List.mem_cons_self, Or.inr ⟨by decide, text "2.1", by decide⟩, ?_⟩
  decide +kernel

end

end DnsProxy
