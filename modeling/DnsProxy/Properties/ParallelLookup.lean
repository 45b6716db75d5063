import DnsProxy.Infra.Sort
import DnsProxy.Properties.LiteralDial
import DnsProxy.Properties.LookupOrigin

/-!
# 競わせた名前引きの答え

`ParallelResolver` は、並べた resolver のうち、address を一つでも得て最初に終わったものの答えを採る。
先に終わった失敗や空の答えが後の答えを隠すことはなく、A と AAAA の片方の失敗がもう片方を隠すことも
ない。どの resolver の query がどう終わっても、どの順に終わっても同じである。

1. 一つの resolver の二つの query の終わり方（`QueryResults`）と、終わった順に並べた全員の終わり方
   （`RunAll`）を、`ParallelResolver` とは別に書く
2. `select_all` の loop の一周は、address を得た resolver で終わるか、次へ進む
3. したがって、loop は address を得た最初の resolver の答えを返す
4. `resolve_addrs` はそれを好みの family が先になるように分けるだけである
-/

namespace DnsProxy

open Infra

variable {W : Type}

/-! ## 仕様の語彙 -/

/-- `PlainResolver` か `DohResolver`。 -/
abbrev LeafResolver (W : Type) := PlainResolver ⊕ DohUpstream W

namespace LeafResolver

def toBootstrap : LeafResolver W → BootstrapResolver W
  | .inl r => .plain r
  | .inr u => .doh u

/-- 一つの query。 -/
def query (codec : Codec) (net : Net W) (host : String) :
    LeafResolver W → RecordType → Async W DohError (List IpAddr)
  | .inl r => r.query codec net LookupReply.ips host
  | .inr u => DohResolver.query codec net LookupReply.ips u host

end LeafResolver

/-- 一つの resolver の二つの query の終わり方。 -/
structure QueryResults where
  a : Except DohError (List IpAddr)
  aaaa : Except DohError (List IpAddr)

/-- query の得た address。失敗していれば無い。 -/
def answered (r : Except DohError (List IpAddr)) : List IpAddr := r.toOption.getD []

/-- A の address の後に AAAA の address を並べたもの。 -/
def QueryResults.ips (o : QueryResults) : List IpAddr := answered o.a ++ answered o.aaaa

section

variable (codec : Codec) (net : Net W) (host : String)

/--
並べた順に全員の query を終わらせたときの、それぞれの終わり方。

code では、最初の答えが採られると残りの resolver は捨てられる。その終わり方は結果に関わらない。
-/
inductive RunAll : List (LeafResolver W) → W → List QueryResults → W → Prop
  | nil (w : W) : RunAll [] w [] w
  | cons {r : LeafResolver W} {rest : List (LeafResolver W)} {outs : List QueryResults}
      {a aaaa : Except DohError (List IpAddr)} {w w₁ w₂ w' : W} :
      (r.query codec net host RecordType.A).attempt w = (.ok a, w₁) →
      (r.query codec net host RecordType.AAAA).attempt w₁ = (.ok aaaa, w₂) →
      RunAll rest w₂ outs w' → RunAll (r :: rest) w ({ a, aaaa } :: outs) w'

end

/-- 終わる順に並べた resolver。 -/
def RaceEnv.completed (env : RaceEnv W) (rs : List (LeafResolver W)) (w : W) :
    List (LeafResolver W) := (env.order rs.length w).1.filterMap (rs[·]?)

/-- `ParallelResolver`。 -/
def parallelResolver (codec : Codec) (net : Net W) (env : RaceEnv W)
    (rs : List (LeafResolver W)) : Resolver W :=
  (BootstrapResolver.parallel (rs.map LeafResolver.toBootstrap)).toResolver codec net env

/-! ## 一つの resolver -/

theorem lookupBoth_of_attempts {query : RecordType → Async W DohError (List IpAddr)}
    {a aaaa : Except DohError (List IpAddr)} {w w₁ w₂ : W}
    (ha : (query RecordType.A).attempt w = (.ok a, w₁))
    (haaaa : (query RecordType.AAAA).attempt w₁ = (.ok aaaa, w₂)) :
    lookupBoth query w = (joinAnswers a aaaa, w₂) := by
  unfold lookupBoth
  rw [Async.bind_ok ha, Async.bind_ok haaaa]
  rfl

/-- address が一つでもあれば、片方が失敗していても両方を合わせたものを返す。 -/
theorem joinAnswers_of_ips {o : QueryResults} (h : o.ips ≠ []) :
    joinAnswers o.a o.aaaa = .ok o.ips := by
  unfold joinAnswers
  dsimp only
  split
  · next hnil _ => exact absurd hnil h
  · rfl

/-- address が一つも無ければ、空か失敗かのどちらかである。 -/
theorem joinAnswers_of_nil {o : QueryResults} (h : o.ips = []) :
    joinAnswers o.a o.aaaa = .ok [] ∨ ∃ e, joinAnswers o.a o.aaaa = .err e := by
  unfold joinAnswers
  dsimp only
  split
  · next e _ _ => exact .inr ⟨e, rfl⟩
  · exact .inl (congrArg Outcome.ok h)

/-! ## 競走の loop -/

section

variable {env : RaceEnv W} {query : RecordType → Async W DohError (List IpAddr)}
  {rest : List (Async W DohError (List IpAddr))} {o : QueryResults} {w w₁ w₂ : W}
  (ha : (query RecordType.A).attempt w = (.ok o.a, w₁))
  (haaaa : (query RecordType.AAAA).attempt w₁ = (.ok o.aaaa, w₂))

include ha haaaa

/-- address を得た resolver が終われば、loop はそこで終わる。 -/
theorem raceLoop_hit (h : o.ips ≠ []) (errs : List DohError) (stuck : Bool) :
    raceLoop env (lookupBoth query :: rest) errs stuck w = (.ok o.ips, w₂) := by
  have hsettle : settle (lookupBoth query) w = (.ok (some (.ok o.ips)), w₂) := by
    unfold settle
    rw [lookupBoth_of_attempts ha haaaa, joinAnswers_of_ips h]
  obtain ⟨ip, ips, hips⟩ := List.exists_cons_of_ne_nil h
  rw [raceLoop, Async.bind_ok hsettle, hips]
  rfl

/-- address を得なかった resolver が終わっても、loop は残りの resolver で続く。 -/
theorem raceLoop_miss (h : o.ips = []) (errs : List DohError) (stuck : Bool) :
    ∃ errs', raceLoop env (lookupBoth query :: rest) errs stuck w
      = raceLoop env rest errs' stuck w₂ := by
  have hlookup := lookupBoth_of_attempts ha haaaa
  rcases joinAnswers_of_nil h with hjoin | ⟨e, hjoin⟩
  · have hsettle : settle (lookupBoth query) w = (.ok (some (.ok [])), w₂) := by
      unfold settle
      rw [hlookup, hjoin]
    exact ⟨errs, by rw [raceLoop, Async.bind_ok hsettle]⟩
  · have hsettle : settle (lookupBoth query) w = (.ok (some (.error e)), w₂) := by
      unfold settle
      rw [hlookup, hjoin]
    exact ⟨errs ++ [e], by rw [raceLoop, Async.bind_ok hsettle]⟩

end

section

variable {codec : Codec} {net : Net W} {env : RaceEnv W} {host : String}
  {rs : List (LeafResolver W)} {outs : List QueryResults} {w w' : W}

/-- 一つの resolver を引く計算。 -/
def LeafResolver.lookup (codec : Codec) (net : Net W) (host : String) (r : LeafResolver W) :
    Async W DohError (List IpAddr) := lookupBoth (r.query codec net host)

/-- 誰も address を得なければ、loop は失敗する。 -/
theorem raceLoop_none (hrun : RunAll codec net host rs w outs w') (h : ∀ o ∈ outs, o.ips = [])
    (errs : List DohError) :
    ∃ e, raceLoop env (rs.map (LeafResolver.lookup codec net host)) errs false w
      = (.err e, w') := by
  induction hrun generalizing errs with
  | nil w => exact ⟨_, rfl⟩
  | cons ha haaaa _ ih =>
    have hnil := h _ List.mem_cons_self
    obtain ⟨errs', hmiss⟩ := raceLoop_miss (o := ⟨_, _⟩) ha haaaa hnil errs false
    rw [List.map_cons, LeafResolver.lookup, hmiss]
    exact ih (fun o ho => h o (List.mem_cons_of_mem _ ho)) errs'

/-- **loop は、address を得た最初の resolver の答えを返す。** -/
theorem raceLoop_first {before after : List QueryResults} {o : QueryResults}
    (hrun : RunAll codec net host rs w outs w') (houts : outs = before ++ o :: after)
    (hbefore : ∀ o' ∈ before, o'.ips = []) (ho : o.ips ≠ []) (errs : List DohError) :
    ∃ w₁, raceLoop env (rs.map (LeafResolver.lookup codec net host)) errs false w
      = (.ok o.ips, w₁) := by
  induction hrun generalizing before errs with
  | nil w => simp at houts
  | cons ha haaaa _ ih =>
    rw [List.map_cons, LeafResolver.lookup]
    cases before with
    | nil =>
      cases houts
      exact ⟨_, raceLoop_hit ha haaaa ho errs false⟩
    | cons first before =>
      cases houts
      obtain ⟨errs', hmiss⟩ := raceLoop_miss ha haaaa (hbefore _ List.mem_cons_self) errs false
      rw [hmiss]
      exact ih rfl (fun o' ho' => hbefore o' (List.mem_cons_of_mem _ ho')) errs'

end

/-! ## `ParallelResolver::lookup` -/

section

variable (codec : Codec) (net : Net W) (env : RaceEnv W) (host : String)

theorem lookupsWith_leaves (rs : List (LeafResolver W)) :
    BootstrapResolver.lookupsWith codec net env LookupReply.ips host
        (rs.map LeafResolver.toBootstrap)
      = rs.map (LeafResolver.lookup codec net host) := by
  induction rs with
  | nil => rw [List.map_nil, BootstrapResolver.lookupsWith]; rfl
  | cons r rest ih =>
    rw [List.map_cons, BootstrapResolver.lookupsWith, ih, List.map_cons]
    cases r with
    | inl r => rw [LeafResolver.toBootstrap, BootstrapResolver.lookupWith]; rfl
    | inr u => rw [LeafResolver.toBootstrap, BootstrapResolver.lookupWith]; rfl

variable {rs : List (LeafResolver W)} (hrs : rs ≠ []) (w : W)

include hrs

/-- `lookup` は、終わる順に並べた resolver の上の loop である。 -/
theorem parallelResolver_lookup :
    (parallelResolver codec net env rs).lookup host w
      = raceLoop env ((env.completed rs w).map (LeafResolver.lookup codec net host)) [] false
          (env.order rs.length w).2 := by
  have hne : (rs.map (LeafResolver.lookup codec net host)).isEmpty = false := by
    cases rs with
    | nil => exact absurd rfl hrs
    | cons r rest => rfl
  show BootstrapResolver.lookupWith codec net env LookupReply.ips host
    (.parallel (rs.map LeafResolver.toBootstrap)) w = _
  rw [BootstrapResolver.lookupWith, lookupsWith_leaves, parallelLookup, hne]
  unfold RaceEnv.completed
  rw [List.map_filterMap]
  show raceLoop env ((env.order (rs.map _).length w).1.filterMap ((rs.map _)[·]?)) [] false _ = _
  simp only [List.length_map, List.getElem?_map]

end

/-- 番号の順に取り出せば、元の列になる。 -/
theorem filterMap_range_getElem? {α : Type} (l : List α) :
    (List.range l.length).filterMap (l[·]?) = l := by
  induction l with
  | nil => rfl
  | cons x rest ih =>
    have hhead : (x :: rest)[0]? = some x := rfl
    rw [List.length_cons, List.range_succ_eq_map, List.filterMap_cons_some hhead,
      List.filterMap_map]
    exact congrArg (x :: ·) ih

/-- 終わる順に並べても、顔ぶれは変わらない。 -/
theorem RaceEnv.completed_perm (env : RaceEnv W) (rs : List (LeafResolver W)) (w : W) :
    (env.completed rs w).Perm rs := by
  have hperm := (env.order_perm rs.length w).filterMap (rs[·]?)
  rw [filterMap_range_getElem?] at hperm
  exact hperm

/-! ## `resolve_addrs` -/

/-- 好みの family の address。 -/
def IpAddr.isPreferred (preferV6 : Bool) (ip : IpAddr) : Bool := ip.isIpv4 != preferV6

/-- **`sort_by_key` は、好みの family を前に、もう一方を後ろに、元の順のまま分ける。** -/
theorem sortByFamily_eq (preferV6 : Bool) (ips : List IpAddr) :
    sortByFamily preferV6 ips = ips.filter (IpAddr.isPreferred preferV6)
      ++ ips.filter fun ip => !IpAddr.isPreferred preferV6 ip := by
  unfold sortByFamily
  dsimp only
  rw [mergeSort_bool_key]
  unfold IpAddr.isPreferred
  cases preferV6 with
  | true => simp
  | false => simp

/-- 引けた address は、分けて port を付けるだけで返る。 -/
theorem resolveAddrs_of_lookup {net : Net W} {host : String} {resolver : Resolver W}
    {ips : List IpAddr} {w w₁ : W} (hhost : net.std.parseIp host = none)
    (hlookup : resolver.lookup host w = (.ok ips, w₁)) (hips : ips ≠ []) (port : UInt16)
    (timeout : Option Duration) (preferV6 : Bool) :
    resolveAddrs net host port timeout resolver preferV6 w
      = (.ok ((ips.filter (IpAddr.isPreferred preferV6)
          ++ ips.filter fun ip => !IpAddr.isPreferred preferV6 ip).map fun ip => { ip, port }),
        w₁) := by
  have hresolve : resolveIps net host timeout resolver w = (.ok ips, w₁) := by
    unfold resolveIps
    rw [hhost]
    exact Async.timeout_ok hlookup
  unfold resolveAddrs
  rw [Async.bind_ok hresolve, if_neg (by simpa using hips), sortByFamily_eq]
  rfl

/-! ## まとめ -/

theorem QueryResults.ips_ne_nil_iff (o : QueryResults) :
    o.ips ≠ [] ↔ answered o.a ≠ [] ∨ answered o.aaaa ≠ [] := by
  unfold QueryResults.ips
  rw [ne_eq, List.append_eq_nil_iff, not_and_or]

/-- address を得た者がいれば、そのうち最初に終わった者がいる。 -/
theorem exists_first_answer {outs : List QueryResults} {o : QueryResults} (ho : o ∈ outs)
    (hne : o.ips ≠ []) : ∃ before o₁ after, outs = before ++ o₁ :: after ∧
      (∀ o' ∈ before, o'.ips = []) ∧ o₁.ips ≠ [] := by
  cases hfind : outs.find? (fun o => !o.ips.isEmpty) with
  | none =>
    have hempty := List.find?_eq_none.mp hfind o ho
    exact absurd (by simpa using hempty) hne
  | some o₁ =>
    obtain ⟨hne₁, before, after, houts, hbefore⟩ := List.find?_eq_some_iff_append.mp hfind
    refine ⟨before, o₁, after, houts, ?_, by simpa using hne₁⟩
    intro o' ho'
    simpa using hbefore o' ho'

/--
**競わせた名前引きは、どれかの query が address を得たとき、かつそのときに限って成り、address を得て
最初に終わった resolver の A と AAAA をこの順に並べて返す。`resolve_addrs` はそれを余さず、好みの
family を先に、元の順のまま返す。host が IP の綴りなら、引かずにその宛先だけを返す。**

`outs` は、終わる順に並べた resolver の query の終わり方である。
-/
theorem parallel_lookup_first (codec : Codec) (net : Net W) (env : RaceEnv W) (host : String)
    {rs : List (LeafResolver W)} (hrs : rs ≠ []) {w w' : W} {outs : List QueryResults}
    (hrun : RunAll codec net host (env.completed rs w) (env.order rs.length w).2 outs w') :
    (env.completed rs w).Perm rs ∧
    ((∃ ips w₁, (parallelResolver codec net env rs).lookup host w = (.ok ips, w₁)) ↔
      ∃ o ∈ outs, answered o.a ≠ [] ∨ answered o.aaaa ≠ []) ∧
    ((∀ o ∈ outs, o.ips = []) →
      ∃ e, (parallelResolver codec net env rs).lookup host w = (.err e, w')) ∧
    (∀ before o after, outs = before ++ o :: after → (∀ o' ∈ before, o'.ips = []) → o.ips ≠ [] →
      ∃ w₁, (parallelResolver codec net env rs).lookup host w = (.ok o.ips, w₁) ∧
        (net.std.parseIp host = none → ∀ port timeout preferV6,
          resolveAddrs net host port timeout (parallelResolver codec net env rs) preferV6 w
            = (.ok ((o.ips.filter (IpAddr.isPreferred preferV6)
                ++ o.ips.filter fun ip => !IpAddr.isPreferred preferV6 ip).map
                  fun ip => { ip, port }), w₁))) ∧
    (∀ ip, net.std.parseIp host = some ip → ∀ port timeout resolver preferV6,
      resolveAddrs net host port timeout resolver preferV6 = pure [{ ip, port }]) := by
  have hfails : (∀ o ∈ outs, o.ips = []) →
      ∃ e, (parallelResolver codec net env rs).lookup host w = (.err e, w') := by
    intro hnone
    rw [parallelResolver_lookup codec net env host hrs w]
    exact raceLoop_none hrun hnone []
  have hfirst : ∀ before o after, outs = before ++ o :: after → (∀ o' ∈ before, o'.ips = []) →
      o.ips ≠ [] → ∃ w₁, (parallelResolver codec net env rs).lookup host w = (.ok o.ips, w₁) := by
    intro before o after houts hbefore ho
    rw [parallelResolver_lookup codec net env host hrs w]
    exact raceLoop_first hrun houts hbefore ho []
  refine ⟨env.completed_perm rs w, ⟨?_, ?_⟩, hfails, ?_, ?_⟩
  · rintro ⟨ips, w₁, hok⟩
    by_contra hnone
    have hall : ∀ o ∈ outs, o.ips = [] := by
      intro o ho
      by_contra hne
      exact hnone ⟨o, ho, o.ips_ne_nil_iff.mp hne⟩
    obtain ⟨e, herr⟩ := hfails hall
    rw [hok] at herr
    cases herr
  · rintro ⟨o, ho, hsome⟩
    obtain ⟨before, o₁, after, houts, hbefore, hne⟩ :=
      exists_first_answer ho (o.ips_ne_nil_iff.mpr hsome)
    obtain ⟨w₁, hok⟩ := hfirst before o₁ after houts hbefore hne
    exact ⟨_, w₁, hok⟩
  · intro before o after houts hbefore ho
    obtain ⟨w₁, hok⟩ := hfirst before o after houts hbefore ho
    refine ⟨w₁, hok, ?_⟩
    intro hhost port timeout preferV6
    exact resolveAddrs_of_lookup hhost hok ho port timeout preferV6
  · intro ip hip port timeout resolver preferV6
    exact resolveAddrs_literal hip port timeout resolver preferV6

/-! ### 具体的な競走 -/

/-- IPv4 の socket を作れず、IPv6 では A の query にだけ答えが返る世界。 -/
def v6OnlyNet : Net Bytes :=
  { honestNet with
    udpBind := fun isIpv4 w => if isIpv4 then (.err "network unreachable", w) else (.ok 0, w) }

/-- IPv4 の server。 -/
def v4Server : LeafResolver Bytes :=
  .inl { addr := { ip := .v4 0x7F000001, port := 53 }, timeout := none }

/-- IPv6 の server。 -/
def v6Server : LeafResolver Bytes := .inl { addr := { ip := .v6 0 1, port := 53 }, timeout := none }

theorem v6OnlyNet_runAll :
    RunAll lookupCodec v6OnlyNet "a" [v4Server, v6Server] []
      [{ a := .error (.bootstrap "network unreachable")
         aaaa := .error (.bootstrap "network unreachable") },
       { a := .ok [.v4 0x06060606], aaaa := .error (.bootstrap "connection refused") }]
      (lookupWire 28) := by
  have hv4 : ∀ qtype ∈ [RecordType.A, RecordType.AAAA],
      (v4Server.query lookupCodec v6OnlyNet "a" qtype).attempt []
        = (.ok (.error (.bootstrap "network unreachable")), []) := by
    decide +kernel
  have ha : (v6Server.query lookupCodec v6OnlyNet "a" RecordType.A).attempt []
      = (.ok (.ok [.v4 0x06060606]), lookupWire 1) := by
    decide +kernel
  have haaaa : (v6Server.query lookupCodec v6OnlyNet "a" RecordType.AAAA).attempt (lookupWire 1)
      = (.ok (.error (.bootstrap "connection refused")), lookupWire 28) := by
    decide +kernel
  exact .cons (hv4 _ (by simp)) (hv4 _ (by simp)) (.cons ha haaaa (.nil _))

/-- 二つの server を、並べた順に終わらせて競わせる。 -/
def v4ThenV6 : Resolver Bytes :=
  parallelResolver lookupCodec v6OnlyNet RaceEnv.inOrder [v4Server, v6Server]

/-- 先に終わった失敗も AAAA の失敗も、後の A の答えを隠さない。 -/
theorem parallel_lookup_first_late_success :
    ∃ w₁, v4ThenV6.lookup "a" [] = (.ok [.v4 0x06060606], w₁) ∧
      (v6OnlyNet.std.parseIp "a" = none → ∀ port timeout preferV6,
        resolveAddrs v6OnlyNet "a" port timeout v4ThenV6 preferV6 []
          = (.ok (([IpAddr.v4 0x06060606].filter (IpAddr.isPreferred preferV6)
              ++ [IpAddr.v4 0x06060606].filter fun ip => !IpAddr.isPreferred preferV6 ip).map
                fun ip => { ip, port }), w₁)) := by
  have hrun : RunAll lookupCodec v6OnlyNet "a"
      (RaceEnv.inOrder.completed [v4Server, v6Server] ([] : Bytes))
      ((RaceEnv.inOrder : RaceEnv Bytes).order [v4Server, v6Server].length []).2 _ _ :=
    v6OnlyNet_runAll
  have hfirst := (parallel_lookup_first lookupCodec v6OnlyNet RaceEnv.inOrder "a" (by simp)
    hrun).2.2.2.1
  exact hfirst [_] _ [] rfl (by simp [QueryResults.ips, answered, Except.toOption])
    (by simp [QueryResults.ips, answered, Except.toOption])

end DnsProxy
