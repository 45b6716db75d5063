import Mathlib.Data.List.AList
import DnsProxy.Dns.Message
import DnsProxy.Error

/-!
# 上流の設定（`client/upstream_config.rs`）

一行が一つの規則である。`[/domain/.../]` で始まる行はその domain のための上流を、
ほかの行は既定の上流を並べる。問い合わせの名前を末尾から短くしながら規則を探し、
見つかった組の上流を順に試す。

上流そのもの（`Upstream`）の型は `υ` のままにする。`parse_any_upstream` も引数に取る。

共有の扱いは次のとおり。

* `Arc<TrackedUpstream>` は割り当ての番号 `id` を持つ。`Arc::ptr_eq` は `id` の比較である
* `&UpstreamGroup` は設定の中の場所 `GroupRef` で表す
* `HashMap` は `AList` で表す
* `round_robin_cursor` は atomic なので、進めた後の設定を一緒に返す
-/

namespace DnsProxy

open Infra

variable {υ : Type}

/-! ## 上流とその速さ -/

/-- `LatencyTracker`。まだ一度も終わっていなければ `avgMicros` は `u64::MAX` である。 -/
structure LatencyTracker where
  avgMicros : UInt64 := 0xFFFFFFFFFFFFFFFF
  deriving DecidableEq, Repr

/-- `LatencyTracker::record`。移動平均は浮動小数点で計算されるので `ema` に取る。 -/
def LatencyTracker.record (ema : UInt64 → UInt64 → UInt64) (t : LatencyTracker) (micros : Nat) :
    LatencyTracker :=
  let sample := UInt64.ofNat (min micros 0xFFFFFFFFFFFFFFFF)
  { avgMicros := if t.avgMicros = 0xFFFFFFFFFFFFFFFF then sample else ema sample t.avgMicros }

/-- `LatencyTracker::average`。 -/
def LatencyTracker.average (t : LatencyTracker) : Option UInt64 :=
  if t.avgMicros = 0xFFFFFFFFFFFFFFFF then none else some t.avgMicros

/-- `Arc<TrackedUpstream>`。`latency` は共有の状態なので、`id` を鍵にして別に持つ。 -/
structure TrackedUpstream (υ : Type) where
  id : Nat
  upstream : υ
  deriving DecidableEq, Repr

/-- `Arc::ptr_eq`。 -/
def TrackedUpstream.ptrEq (a b : TrackedUpstream υ) : Prop := a.id = b.id

/-! ## 組 -/

inductive UpstreamMode where
  | ordered
  | roundRobin
  | loadBalance
  deriving DecidableEq, Repr, Inhabited

structure UpstreamGroup (υ : Type) where
  upstreams : List (TrackedUpstream υ) := []
  roundRobinCursor : UInt64 := 0

/-- 並べ替えるときに外から決まるもの。`shuffle` は乱数による並べ替えである。 -/
structure OrderEnv (υ : Type) where
  latency : Nat → LatencyTracker
  shuffle : List (TrackedUpstream υ) → List (TrackedUpstream υ)
  shuffle_perm : ∀ l, (shuffle l).Perm l

/-- `Option<Duration>` の比較。`None` が最小である。 -/
def averageLe : Option UInt64 → Option UInt64 → Bool
  | none, _ => true
  | some _, none => false
  | some a, some b => a ≤ b

namespace UpstreamGroup

/-- `UpstreamGroup::push`。 -/
def push (g : UpstreamGroup υ) (u : TrackedUpstream υ) : UpstreamGroup υ :=
  { g with upstreams := g.upstreams ++ [u] }

/-- `UpstreamGroup::ordered`。並べた上流と、cursor の進んだ組を返す。 -/
def ordered (g : UpstreamGroup υ) (mode : UpstreamMode) (env : OrderEnv υ) :
    List (TrackedUpstream υ) × UpstreamGroup υ :=
  match mode with
  | .ordered => (g.upstreams, g)
  | .roundRobin =>
    let len := g.upstreams.length
    if len = 0 then ([], g)
    else
      -- `fetch_add` は溢れると 0 に戻る
      let start := g.roundRobinCursor.toNat % len
      (g.upstreams.drop start ++ g.upstreams.take start,
        { g with roundRobinCursor := g.roundRobinCursor + 1 })
  | .loadBalance =>
    let average := fun u : TrackedUpstream υ => (env.latency u.id).average
    let tested := g.upstreams.filter fun u => (average u).isSome
    let untested := g.upstreams.filter fun u => !(average u).isSome
    let tested := tested.mergeSort fun a b => averageLe (average a) (average b)
    (env.shuffle untested ++ tested, g)

end UpstreamGroup

/-! ## 設定 -/

structure UpstreamConfig (υ : Type) where
  domainUpstreams : AList (fun _ : Text => UpstreamGroup υ)
  defaultUpstreams : UpstreamGroup υ
  mode : UpstreamMode

/-- 設定の中の組の場所。 -/
inductive GroupRef where
  | domain (key : Text)
  | default
  deriving DecidableEq, Repr, Inhabited

/-- `split_config_line`。上流の綴りと、その行が受け持つ domain（既定の行なら空）を返す。 -/
def splitConfigLine (line : Text) : Except Text (List Text × List Text) :=
  match (text "[/").isPrefixOf? line with
  | none => .ok ([line], [])
  | some rest =>
    match Text.splitOnce (text "/]") rest with
    | none => .error (text "wrong upstream format: missing closing \"/]\"")
    | some (domainsPart, upstreamsPart) =>
      if upstreamsPart = [] then
        .error (text "wrong upstream format: no upstreams after \"/]\"")
      else
        let hosts := domainsPart.splitOnP (· == '/')
        if [] ∈ hosts then .error (text "wrong upstream format: empty domain in rule")
        else
          .ok (Text.splitWhitespace upstreamsPart,
            hosts.map fun host => Text.toAsciiLowercase host ++ ['.'])

/-! ### 読み込み -/

/-- `parse_with_mode` の loop が書き換えるもの。`nextId` は次の割り当ての番号である。 -/
structure ParseState (υ : Type) where
  upstreamIndex : AList (fun _ : Text => TrackedUpstream υ) := ∅
  domainUpstreams : AList (fun _ : Text => UpstreamGroup υ) := ∅
  defaultUpstreams : UpstreamGroup υ := {}
  errors : List (Nat × Text) := []
  nextId : Nat := 0

namespace ParseState

variable (unprintable : Char → Bool) (parseAnyUpstream : Text → Except Text υ)

/-- `domain_upstreams.entry(domain).or_default().push(upstream)`。 -/
def pushDomain (st : ParseState υ) (u : TrackedUpstream υ) (domain : Text) : ParseState υ :=
  let group := (st.domainUpstreams.lookup domain).getD {}
  { st with domainUpstreams := st.domainUpstreams.insert domain (group.push u) }

/-- 一つの上流を、その行が受け持つ組のすべてに加える。 -/
def pushUpstream (st : ParseState υ) (domains : List Text) (u : TrackedUpstream υ) :
    ParseState υ :=
  if domains.isEmpty then { st with defaultUpstreams := st.defaultUpstreams.push u }
  else domains.foldl (fun st domain => st.pushDomain u domain) st

/-- 上流の綴り一つ分。既に作ってあればそれを使う。 -/
def addUpstream (st : ParseState υ) (idx : Nat) (domains : List Text) (u : Text) : ParseState υ :=
  match st.upstreamIndex.lookup u with
  | some existing => st.pushUpstream domains existing
  | none =>
    match parseAnyUpstream u with
    | .ok built =>
      let tracked : TrackedUpstream υ := { id := st.nextId, upstream := built }
      pushUpstream
        { st with upstreamIndex := st.upstreamIndex.insert u tracked, nextId := st.nextId + 1 }
        domains tracked
    | .error e =>
      { st with
        errors := st.errors ++
          [(idx, text "upstream " ++ u.debug unprintable ++ text ": " ++ e)] }

/-- 一行分。 -/
def addLine (st : ParseState υ) (idx : Nat) (line : Text) : ParseState υ :=
  let line := line.trim
  if line.isEmpty || line.head? == some '#' then st
  else
    match splitConfigLine line with
    | .error e => { st with errors := st.errors ++ [(idx, e)] }
    | .ok (upstreamStrs, domains) =>
      upstreamStrs.foldl (fun st u => st.addUpstream unprintable parseAnyUpstream idx domains u) st

/-- `for (idx, line) in lines.iter().enumerate()`。 -/
def addLines (st : ParseState υ) : Nat → List Text → ParseState υ
  | _, [] => st
  | idx, line :: rest =>
    (st.addLine unprintable parseAnyUpstream idx line).addLines (idx + 1) rest

end ParseState

namespace UpstreamConfig

/-- `UpstreamConfig::parse_with_mode`。 -/
def parseWithMode (unprintable : Char → Bool) (parseAnyUpstream : Text → Except Text υ)
    (lines : List Text) (mode : UpstreamMode) : Except (List (Nat × Text)) (UpstreamConfig υ) :=
  let st := ParseState.addLines unprintable parseAnyUpstream {} 0 lines
  if st.errors.isEmpty then
    .ok { domainUpstreams := st.domainUpstreams, defaultUpstreams := st.defaultUpstreams, mode }
  else .error st.errors

/-! ### 組の選択 -/

/-- 場所の指す組。 -/
def group (c : UpstreamConfig υ) : GroupRef → UpstreamGroup υ
  | .domain key => (c.domainUpstreams.lookup key).getD {}
  | .default => c.defaultUpstreams

/-- 場所の指す組を差し替える。 -/
def setGroup (c : UpstreamConfig υ) (ref : GroupRef) (g : UpstreamGroup υ) : UpstreamConfig υ :=
  match ref with
  | .domain key => { c with domainUpstreams := c.domainUpstreams.insert key g }
  | .default => { c with defaultUpstreams := g }

/-- `group_for` の loop。一周ごとに `suffix` は短くなるので、`fuel` は最初の長さで足りる。 -/
def groupForLoop (c : UpstreamConfig υ) : Nat → Text → GroupRef
  | 0, _ => .default
  | fuel + 1, suffix =>
    if (c.domainUpstreams.lookup suffix).isSome then .domain suffix
    else
      match Text.splitOnce ['.'] suffix with
      | some (_, rest) => if rest.isEmpty then .default else c.groupForLoop fuel rest
      | none => .default

/-- `UpstreamConfig::group_for`。 -/
def groupFor (c : UpstreamConfig υ) (fqdn : Text) : GroupRef :=
  if c.domainUpstreams.entries.isEmpty then .default
  else
    let lower := fqdn.toAsciiLowercase
    c.groupForLoop (lower.length + 1) lower

/-- `UpstreamConfig::upstreams_for`。並べた上流と、cursor の進んだ設定を返す。 -/
def upstreamsFor (c : UpstreamConfig υ) (env : OrderEnv υ) (fqdn : Text) :
    List (TrackedUpstream υ) × UpstreamConfig υ :=
  let ref := c.groupFor fqdn
  let (upstreams, g) := (c.group ref).ordered c.mode env
  (upstreams, c.setGroup ref g)

/-! ### 問い合わせ -/

/-- 最初の question の名前。question が無ければ空である。 -/
def queryName (e : LabelEscape) (req : Message) : Text :=
  match req.queries.head? with
  | some q => q.name.toAscii e
  | none => []

section

variable {m : Type → Type} [Monad m]

/-- 上流を順に試す loop。`m` は試みが動かすもの（network と時計）である。 -/
def tryUpstreams (attempt : TrackedUpstream υ → m (Except DohError Message)) :
    List (TrackedUpstream υ) → Option DohError → m (Except (Option DohError) Message)
  | [], lastErr => pure (.error lastErr)
  | upstream :: rest, _ => do
    match ← attempt upstream with
    | .ok resp => pure (.ok resp)
    | .error e => tryUpstreams attempt rest (some e)

/--
`UpstreamConfig::exchange`。

cursor は上流を並べた時点で進むので、進んだ設定と、上流を試す計算とを分けて返す。
-/
def exchange (unprintable : Char → Bool) (e : LabelEscape) (c : UpstreamConfig υ)
    (env : OrderEnv υ) (attempt : TrackedUpstream υ → Message → m (Except DohError Message))
    (req : Message) : UpstreamConfig υ × m (Except DohError Message) :=
  let name := queryName e req
  let (upstreams, c') := c.upstreamsFor env name
  (c', do
    match ← tryUpstreams (fun u => attempt u req) upstreams none with
    | .ok resp => pure (.ok resp)
    | .error lastErr =>
      pure (.error (lastErr.getD (.bootstrap (String.ofList
        (text "no upstreams configured for " ++ name.debug unprintable))))))

end

end UpstreamConfig

end DnsProxy
