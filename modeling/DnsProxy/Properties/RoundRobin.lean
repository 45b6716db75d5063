import Mathlib.Data.Int.CardIntervalMod
import DnsProxy.Properties.Failover

/-!
# round robin の公平さ

`RoundRobin` では、組ごとに一つの cursor を一つずつ進め、上流の列を cursor の分だけ回して使う。
問い合わせはどの組へもどの順でも来るので、run 全体で何が起きるかを見る（`serve`）。

1. 一歩：選ばれた組の cursor だけが一つ進む（`cursor_upstreamsFor`）。
2. run：組の cursor は、その組へ来た問い合わせの数である（`serve_start`）。
3. cursor を組の大きさで割った余りは順に一巡りするので、先頭に立った回数は
   どの二つの位置でも一つしか違わない（`roundRobin_fair`）。
-/

namespace DnsProxy

open Infra

variable {υ : Type}

/-! ## 読んだ直後の cursor -/

/-- どの組の cursor も 0 である。 -/
def ParseState.Fresh (st : ParseState υ) : Prop :=
  st.defaultUpstreams.roundRobinCursor = 0 ∧
    ∀ d g, st.domainUpstreams.lookup d = some g → g.roundRobinCursor = 0

namespace ParseState

theorem Fresh.pushDomain {st : ParseState υ} (h : st.Fresh) (u : TrackedUpstream υ)
    (domain : Text) : (st.pushDomain u domain).Fresh := by
  refine ⟨h.1, ?_⟩
  intro d g hg
  unfold ParseState.pushDomain at hg
  by_cases hd : d = domain
  · subst hd
    rw [AList.lookup_insert, Option.some.injEq] at hg
    subst hg
    cases hl : st.domainUpstreams.lookup d with
    | none => rfl
    | some g => exact h.2 d g hl
  · rw [AList.lookup_insert_ne hd] at hg
    exact h.2 d g hg

theorem Fresh.pushUpstream {st : ParseState υ} (h : st.Fresh) (domains : List Text)
    (u : TrackedUpstream υ) : (st.pushUpstream domains u).Fresh := by
  unfold ParseState.pushUpstream
  split
  · exact ⟨h.1, h.2⟩
  · induction domains generalizing st with
    | nil => exact h
    | cons d rest ih =>
      rw [List.foldl_cons]
      cases rest with
      | nil => exact h.pushDomain u d
      | cons d' rest => exact ih (h.pushDomain u d) (by simp)

theorem Fresh.addUpstream {unprintable : Char → Bool} {parseAnyUpstream : Text → Except Text υ}
    {st : ParseState υ} (h : st.Fresh) (idx : Nat) (domains : List Text) (u : Text) :
    (st.addUpstream unprintable parseAnyUpstream idx domains u).Fresh := by
  unfold ParseState.addUpstream
  split
  · exact h.pushUpstream domains _
  · split
    · refine Fresh.pushUpstream ?_ domains _
      exact ⟨h.1, h.2⟩
    · exact ⟨h.1, h.2⟩

theorem Fresh.addLine {unprintable : Char → Bool} {parseAnyUpstream : Text → Except Text υ}
    {st : ParseState υ} (h : st.Fresh) (idx : Nat) (line : Text) :
    (st.addLine unprintable parseAnyUpstream idx line).Fresh := by
  unfold ParseState.addLine
  dsimp only
  split
  · exact h
  · split
    · exact ⟨h.1, h.2⟩
    · next upstreamStrs domains _ =>
      clear * - h
      induction upstreamStrs generalizing st with
      | nil => exact h
      | cons u rest ih => exact ih (h.addUpstream idx domains u)

theorem Fresh.addLines {unprintable : Char → Bool} {parseAnyUpstream : Text → Except Text υ}
    (lines : List Text) : ∀ {st : ParseState υ} (_ : st.Fresh) (idx : Nat),
      (st.addLines unprintable parseAnyUpstream idx lines).Fresh := by
  induction lines with
  | nil => intro st h _; exact h
  | cons line rest ih => intro st h idx; exact ih (h.addLine idx line) (idx + 1)

end ParseState

namespace UpstreamConfig

/-- 組の cursor。 -/
def cursor (c : UpstreamConfig υ) (ref : GroupRef) : Nat := (c.group ref).roundRobinCursor.toNat

theorem cursor_lt (c : UpstreamConfig υ) (ref : GroupRef) : c.cursor ref < 2 ^ 64 :=
  UInt64.toNat_lt _

/-- 読めた設定では、どの組の cursor も 0 である。 -/
theorem parsed_cursor {unprintable : Char → Bool} {parseAnyUpstream : Text → Except Text υ}
    {lines : List Text} {mode : UpstreamMode} {c : UpstreamConfig υ}
    (h : parseWithMode unprintable parseAnyUpstream lines mode = .ok c) (ref : GroupRef) :
    c.cursor ref = 0 := by
  have hempty : ParseState.Fresh ({} : ParseState υ) := by
    refine ⟨rfl, ?_⟩
    intro d g hg
    cases hg
  have hfresh : (ParseState.addLines unprintable parseAnyUpstream {} 0 lines).Fresh :=
    hempty.addLines lines 0
  unfold parseWithMode at h
  dsimp only at h
  split at h
  · cases h
    unfold cursor group
    cases ref with
    | default =>
      dsimp only
      rw [hfresh.1]
      rfl
    | domain key =>
      dsimp only
      cases hl : (ParseState.addLines unprintable parseAnyUpstream {} 0 lines).domainUpstreams.lookup
          key with
      | none => rfl
      | some g =>
        rw [Option.getD_some, hfresh.2 key g hl]
        rfl
  · cases h

/-! ## 一歩 -/

theorem group_setGroup (c : UpstreamConfig υ) (ref ref' : GroupRef) (g : UpstreamGroup υ) :
    (c.setGroup ref g).group ref' = if ref' = ref then g else c.group ref' := by
  cases ref with
  | default =>
    cases ref' with
    | default => simp [setGroup, group]
    | domain d => simp [setGroup, group]
  | domain key =>
    cases ref' with
    | default => simp [setGroup, group]
    | domain d =>
      by_cases hd : d = key
      · subst hd
        simp [setGroup, group]
      · simp [setGroup, group, hd, AList.lookup_insert_ne hd]


/-- 問い合わせ一つ分の記録。`start` は、先頭に立った上流の、組の中での位置である。 -/
structure Served (υ : Type) where
  ref : GroupRef
  start : Nat
  upstreams : List (TrackedUpstream υ)

/-- 選ばれた組と並べた上流。`start` は `ordered` の中の同じ名前の値である。 -/
def servedFor (c : UpstreamConfig υ) (env : OrderEnv υ) (fqdn : Text) : Served υ :=
  let ref := c.groupFor fqdn
  { ref
    start := c.cursor ref % (c.group ref).upstreams.length
    upstreams := (c.upstreamsFor env fqdn).1 }

/-- 問い合わせの列を順に捌いた記録。どの組への問い合わせがどう混ざっていてもよい。 -/
def serve (c : UpstreamConfig υ) : List (OrderEnv υ × Text) → List (Served υ)
  | [] => []
  | p :: rest => c.servedFor p.1 p.2 :: (c.upstreamsFor p.1 p.2).2.serve rest

theorem length_serve (run : List (OrderEnv υ × Text)) :
    ∀ c : UpstreamConfig υ, (c.serve run).length = run.length := by
  induction run with
  | nil => intro c; rfl
  | cons p rest ih => intro c; rw [serve, List.length_cons, List.length_cons, ih]

/-- 上流のある組は、先頭を `start` に回した列を返す。 -/
theorem servedFor_upstreams {c : UpstreamConfig υ} (hmode : c.mode = .roundRobin)
    (env : OrderEnv υ) (fqdn : Text) (hne : (c.group (c.groupFor fqdn)).upstreams ≠ []) :
    (c.servedFor env fqdn).upstreams =
      (c.group (c.servedFor env fqdn).ref).upstreams.rotate (c.servedFor env fqdn).start := by
  have hlen : (c.group (c.groupFor fqdn)).upstreams.length ≠ 0 :=
    fun h => hne (List.length_eq_zero_iff.mp h)
  unfold servedFor upstreamsFor UpstreamGroup.ordered
  rw [hmode]
  dsimp only
  rw [if_neg hlen, List.rotate_eq_drop_append_take (Nat.le_of_lt (Nat.mod_lt _ (by omega)))]
  rfl

/-- **一歩で進むのは、選ばれた組の cursor だけである。** -/
theorem cursor_upstreamsFor {c : UpstreamConfig υ} (hmode : c.mode = .roundRobin)
    (env : OrderEnv υ) (fqdn : Text) {ref : GroupRef} (hne : (c.group ref).upstreams ≠ []) :
    (c.upstreamsFor env fqdn).2.cursor ref =
      (c.cursor ref + if c.groupFor fqdn = ref then 1 else 0) % 2 ^ 64 := by
  unfold cursor upstreamsFor
  dsimp only
  rw [group_setGroup]
  by_cases href : ref = c.groupFor fqdn
  · have hlen : (c.group ref).upstreams.length ≠ 0 :=
      fun h => hne (List.length_eq_zero_iff.mp h)
    rw [if_pos href, if_pos href.symm, ← href]
    unfold UpstreamGroup.ordered
    rw [hmode]
    dsimp only
    rw [if_neg hlen]
    exact UInt64.toNat_add _ _
  · rw [if_neg href, if_neg (Ne.symm href), Nat.add_zero]
    exact (Nat.mod_eq_of_lt (c.cursor_lt ref)).symm

/-! ## run -/

/-- `ref` へ来た問い合わせの数。 -/
def routed (ref : GroupRef) (l : List (Served υ)) : Nat := l.countP fun s => s.ref = ref

/-- 組 `ref` の `a` 番目の上流が先頭に立った回数。 -/
def cameFirst (ref : GroupRef) (a : Nat) (l : List (Served υ)) : Nat :=
  l.countP fun s => s.ref = ref ∧ s.start = a

/--
**run の途中の記録は、それまでに同じ組へ来た数だけで決まる。**

ほかの組への問い合わせは、間にいくつあっても数に入らない。
-/
theorem serve_start (run : List (OrderEnv υ × Text)) :
    ∀ {c : UpstreamConfig υ}, c.mode = .roundRobin →
      ∀ {before rest : List (Served υ)} {s : Served υ}, c.serve run = before ++ s :: rest →
        (c.group s.ref).upstreams ≠ [] →
        s.start = (c.cursor s.ref + routed s.ref before) % 2 ^ 64
            % (c.group s.ref).upstreams.length ∧
          s.upstreams = (c.group s.ref).upstreams.rotate s.start := by
  induction run with
  | nil =>
    intro c _ before rest s h
    simp [serve] at h
  | cons p run ih =>
    intro c hmode before rest s h hne
    rw [serve] at h
    cases before with
    | nil =>
      obtain ⟨rfl, -⟩ := List.cons.inj h
      refine ⟨?_, servedFor_upstreams hmode p.1 p.2 hne⟩
      rw [routed, List.countP_nil, Nat.add_zero, Nat.mod_eq_of_lt (c.cursor_lt _)]
      rfl
    | cons s₀ before =>
      obtain ⟨rfl, htail⟩ := List.cons.inj h
      have hrules := c.upstreamsFor_sameRules p.1 p.2
      have hups := hrules.upstreams s.ref
      obtain ⟨hstart, hlist⟩ := ih (hrules.mode.trans hmode) htail (hups ▸ hne)
      rw [hups] at hstart hlist
      refine ⟨?_, hlist⟩
      rw [hstart, cursor_upstreamsFor hmode p.1 p.2 hne, Nat.mod_add_mod]
      -- 先に来た一つが同じ組へのものなら、数えに入る
      have hcount : routed s.ref (c.servedFor p.1 p.2 :: before)
          = routed s.ref before + if c.groupFor p.2 = s.ref then 1 else 0 := by
        unfold routed
        rw [List.countP_cons]
        by_cases hp : c.groupFor p.2 = s.ref
        · simp [servedFor, hp]
        · simp [servedFor, hp]
      rw [hcount]
      congr 2
      omega

end UpstreamConfig

/-! ## 公平さ -/

section

variable {unprintable : Char → Bool} {parseAnyUpstream : Text → Except Text υ} {lines : List Text}
  {c : UpstreamConfig υ} {run : List (OrderEnv υ × Text)}

open UpstreamConfig

/-- 溢れない run では、`start` は同じ組へ先に来た数を組の大きさで割った余りである。 -/
theorem serve_start_parsed (h : parseWithMode unprintable parseAnyUpstream lines .roundRobin = .ok c)
    (hlen : run.length < 2 ^ 64) {before rest : List (Served υ)} {s : Served υ}
    (hs : c.serve run = before ++ s :: rest) (hne : (c.group s.ref).upstreams ≠ []) :
    s.start = routed s.ref before % (c.group s.ref).upstreams.length ∧
      s.upstreams = (c.group s.ref).upstreams.rotate s.start := by
  obtain ⟨hstart, hlist⟩ := serve_start run (parseWithMode_mode h) hs hne
  refine ⟨?_, hlist⟩
  have hsmall : routed s.ref before < 2 ^ 64 := by
    have hle : routed s.ref before ≤ before.length := List.countP_le_length
    have htotal := congrArg List.length hs
    rw [length_serve, List.length_append] at htotal
    omega
  rw [hstart, parsed_cursor h, Nat.zero_add, Nat.mod_eq_of_lt hsmall]

/-- 位置 `a` が先頭に立った回数は、`a` を余りに持つ番号の数である。 -/
theorem cameFirst_eq_count {ref : GroupRef} {n : Nat} (a : Nat) {l : List (Served υ)}
    (h : ∀ before s rest, l = before ++ s :: rest → s.ref = ref →
      s.start = routed ref before % n) :
    cameFirst ref a l = Nat.count (fun k => k % n = a) (routed ref l) := by
  induction l using List.reverseRecOn with
  | nil => rfl
  | append_singleton l s ih =>
    have hl := ih fun before s' rest hsplit =>
      h before s' (rest ++ [s]) (by rw [hsplit, List.append_assoc]; rfl)
    unfold cameFirst routed at hl ⊢
    rw [List.countP_append, List.countP_append, List.countP_singleton, List.countP_singleton, hl]
    by_cases href : s.ref = ref
    · have hstart := h l s [] rfl href
      unfold routed at hstart
      simp only [href, decide_true, if_true, true_and, Nat.count_succ, hstart, decide_eq_true_eq]
    · simp [href]

/-- 余りが `a` になる番号の数は、`a` をどう選んでも一つしか違わない。 -/
theorem count_mod_le {n a b : Nat} (ha : a < n) (hb : b < n) (k : Nat) :
    Nat.count (fun j => j % n = a) k ≤ Nat.count (fun j => j % n = b) k + 1 := by
  have hcount : ∀ v, v < n → Nat.count (fun j => j % n = v) k
      = k / n + if v < k % n then 1 else 0 := by
    intro v hv
    have h := Nat.count_modEq_card k (r := n) (by omega) v
    simp only [Nat.ModEq, Nat.mod_eq_of_lt hv] at h
    exact h
  rw [hcount a ha, hcount b hb]
  split
  · omega
  · omega

/--
**RoundRobin の設定では、組へ来た `k` 番目の問い合わせは、その組の列を `k mod n` だけ左に回したものを
受け取り、先頭に立った回数はどの二つの位置でも高々一つしか違わない。**

`run` は問い合わせの列で、どの組への問い合わせがどう混ざっていてもよい。
-/
theorem roundRobin_fair
    (h : parseWithMode unprintable parseAnyUpstream lines .roundRobin = .ok c)
    (hlen : run.length < 2 ^ 64) :
    (∀ before s rest, c.serve run = before ++ s :: rest →
      1 ≤ (c.group s.ref).upstreams.length →
      s.start = routed s.ref before % (c.group s.ref).upstreams.length ∧
        s.upstreams = (c.group s.ref).upstreams.rotate
          (routed s.ref before % (c.group s.ref).upstreams.length) ∧
        s.upstreams.Perm (c.group s.ref).upstreams) ∧
    ∀ past, past <+: c.serve run → ∀ ref a b, a < (c.group ref).upstreams.length →
      b < (c.group ref).upstreams.length → cameFirst ref a past ≤ cameFirst ref b past + 1 := by
  refine ⟨?_, ?_⟩
  · intro before s rest hs hn
    have hne : (c.group s.ref).upstreams ≠ [] := List.ne_nil_of_length_pos hn
    obtain ⟨hstart, hlist⟩ := serve_start_parsed h hlen hs hne
    rw [hlist, ← hstart]
    exact ⟨rfl, rfl, List.rotate_perm _ _⟩
  · rintro past ⟨future, hpast⟩ ref a b ha hb
    have hne : (c.group ref).upstreams ≠ [] := List.ne_nil_of_length_pos (by omega)
    have hstart : ∀ before s rest, past = before ++ s :: rest → s.ref = ref →
        s.start = routed ref before % (c.group ref).upstreams.length := by
      rintro before s rest hsplit rfl
      have hs : c.serve run = before ++ s :: (rest ++ future) := by
        rw [← hpast, hsplit, List.append_assoc]
        rfl
      exact (serve_start_parsed h hlen hs hne).1
    rw [cameFirst_eq_count a hstart, cameFirst_eq_count b hstart]
    exact count_mod_le ha hb _

end

/-- 既定の組へ三度、規則 `b` の組へ一度来る run。 -/
def mixedRun : List (OrderEnv Text × Text) :=
  [(.untested, text "a."), (.untested, text "b."), (.untested, text "a."), (.untested, text "a.")]

/-- 既定の上流が二つなら、既定の組への三度目の列は元に戻る。 -/
theorem roundRobin_fair_two_groups :
    ∃ c s, UpstreamConfig.parseWithMode (fun _ => false) Except.ok
        [text "[/b/]x", text "y", text "z"] .roundRobin = .ok c ∧
      (c.serve mixedRun)[3]? = some s ∧
      s.upstreams = c.defaultUpstreams.upstreams.rotate 0 := by
  have hlen : mixedRun.length < 2 ^ 64 := by decide
  refine ⟨_, _, rfl, rfl, ?_⟩
  have h : UpstreamConfig.parseWithMode (fun _ => false) Except.ok
      [text "[/b/]x", text "y", text "z"] .roundRobin = .ok _ := rfl
  exact ((roundRobin_fair h hlen).1 [_, _, _] _ [] rfl (by decide)).2.1

end DnsProxy
