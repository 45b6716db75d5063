import DnsProxy.Client.Doh

/-!
# bootstrap の名前引き（`client/bootstrap.rs`）

`--bootstrap` に書いた server で host 名を引く。A と AAAA を問い合わせて合わせるのが
`PlainResolver` と `DohResolver`、並べた者を競わせて最初の空でない答えを採るのが
`ParallelResolver` である。

* `tokio::join!` は A・AAAA の順に走らせる。操作の返すものは世界の任意の関数なので、
  どの入り混じり方の結果もこの順で起こりうる
* `select_all` の終わる順は、`RaceEnv` の決める並べ替えである。終わらないものは飛ばされる

`view` は応答から取り出すものである。code では address（`LookupReply.ips`）だけを取り出す。
-/

namespace DnsProxy

open Infra

variable {W α : Type}

/-! ## 問い合わせ -/

/-- `RData::ip_addr`。 -/
def RData.ipAddr : RData → Option IpAddr
  | .a octets => some (.v4 octets)
  | .aaaa hi lo => some (.v6 hi lo)
  | _ => none

/-- 一つの query と、それに対して受け取った message。 -/
structure LookupReply where
  req : Message
  resp : Message
  /-- UDP の socket に届いた datagram。DoH では無い。 -/
  datagram : Option Bytes
  deriving DecidableEq

/-- `resp.answers.iter().filter_map(|rec| rec.data.ip_addr())`。 -/
def LookupReply.ips (r : LookupReply) : List IpAddr := r.resp.answers.filterMap (·.data.ipAddr)

/-- `query` の作る message。 -/
def lookupQuery (id : UInt16) (name : Name) (qtype : RecordType) : Message :=
  { metadata := { id, messageType := .query, opCode := .query, recursionDesired := true }
    queries := [{ name, queryType := qtype }] }

/-- `map_err(|e| DohError::Bootstrap(e.to_string()))`。 -/
def bootstrapResult {β : Type} : Except String β → Outcome DohError β
  | .ok b => .ok b
  | .error e => .err (.bootstrap e)

section

variable (codec : Codec) (net : Net W)

structure PlainResolver where
  addr : SocketAddr
  timeout : Option Duration
  deriving DecidableEq, Repr

/-- `PlainResolver::query` の `fut`。届いた datagram をそのまま読む。 -/
def PlainResolver.askOnce (r : PlainResolver) (req : Message) (reqBytes : Bytes) :
    Async W DohError LookupReply := do
  let sock ← bootstrapOp (net.udpBind r.addr.ip.isIpv4)
  bootstrapOp (net.udpConnect sock r.addr)
  bootstrapOp (net.udpSend sock reqBytes)
  let buf ← bootstrapOp (net.udpRecv sock 4096)
  let resp ← Async.lift (bootstrapResult (codec.fromBytes buf.1))
  pure { req, resp, datagram := some buf.1 }

/-- `PlainResolver::query`。 -/
def PlainResolver.query (view : LookupReply → List α) (r : PlainResolver) (host : String)
    (qtype : RecordType) : Async W DohError (List α) := do
  let name ← Async.lift (bootstrapResult (codec.nameFromAscii host))
  let id ← randomBytes net 2
  let req := lookupQuery id.be16 name qtype
  let reqBytes ← Async.lift (bootstrapResult (codec.toBytes req))
  let reply ← Async.timeout r.timeout
    (fun _ => .bootstrap s!"resolving {host} via {net.std.toString r.addr}: timed out")
    (r.askOnce codec net req reqBytes)
  pure (view reply)

/-- `DohResolver::query`。 -/
def DohResolver.query (view : LookupReply → List α) (u : DohUpstream W) (host : String)
    (qtype : RecordType) : Async W DohError (List α) := do
  let name ← Async.lift (bootstrapResult (codec.nameFromAscii host))
  let id ← randomBytes net 2
  let req := lookupQuery id.be16 name qtype
  let resp ← u.exchangeWith codec net (validateResponse codec req) req
  pure (view { req, resp, datagram := none })

end

/-! ## A と AAAA -/

/-- `last_err`。AAAA の失敗が優先する。 -/
def lastErr (a aaaa : Except DohError (List α)) : Option DohError :=
  match aaaa, a with
  | .error e, _ => some e
  | .ok _, .error e => some e
  | .ok _, .ok _ => none

/-- 二つの答えを合わせる。何も取れなければ、最後の失敗を返す。 -/
def joinAnswers (a aaaa : Except DohError (List α)) : Outcome DohError (List α) :=
  let ips := (a.toOption.getD []) ++ (aaaa.toOption.getD [])
  match ips, lastErr a aaaa with
  | [], some e => .err e
  | ips, _ => .ok ips

/-- `PlainResolver::lookup` と `DohResolver::lookup`。二つは同じ形をしている。 -/
def lookupBoth (query : RecordType → Async W DohError (List α)) : Async W DohError (List α) := do
  let a ← (query RecordType.A).attempt
  let aaaa ← (query RecordType.AAAA).attempt
  Async.lift (joinAnswers a aaaa)

/-! ## 競走 -/

/-- 競走のうち、外で決まるもの。 -/
structure RaceEnv (W : Type) where
  /-- `n` 個の計算の終わる順。 -/
  order : (n : Nat) → W → List Nat × W
  order_perm : ∀ n w, (order n w).1.Perm (List.range n)
  /-- `Vec<DohError>` の `{:?}`。 -/
  debugErrs : List DohError → String

/-- 競走の終わる順を引く。 -/
def RaceEnv.nextOrder (env : RaceEnv W) (n : Nat) : Async W DohError (List Nat) := fun w =>
  (.ok (env.order n w).1, (env.order n w).2)

/-- 計算がどう終わったか。終わらなければ `none` である。 -/
def settle (fut : Async W DohError (List α)) :
    Async W DohError (Option (Except DohError (List α))) := fun w =>
  match fut w with
  | (.ok addrs, w') => (.ok (some (.ok addrs)), w')
  | (.err e, w') => (.ok (some (.error e)), w')
  | (.pending, w') => (.ok none, w')
  | (.panic, w') => (.panic, w')

/-- `while !futs.is_empty() { select_all(futs) .. }`。`stuck` は、終わらないものが残っている印である。 -/
def raceLoop (env : RaceEnv W) :
    List (Async W DohError (List α)) → (errs : List DohError) → (stuck : Bool) →
      Async W DohError (List α)
  | [], errs, stuck =>
    if stuck then Async.lift .pending
    else Async.throw (.bootstrap s!"all resolvers failed: {env.debugErrs errs}")
  | fut :: rest, errs, stuck => do
    match ← settle fut with
    | some (.ok []) => raceLoop env rest errs stuck
    | some (.ok addrs) => pure addrs
    | some (.error e) => raceLoop env rest (errs ++ [e]) stuck
    | none => raceLoop env rest errs true

/-- `ParallelResolver::lookup`。 -/
def parallelLookup (env : RaceEnv W) (futs : List (Async W DohError (List α))) :
    Async W DohError (List α) :=
  if futs.isEmpty then Async.throw (.bootstrap "no resolvers configured")
  else do
    let order ← env.nextOrder futs.length
    raceLoop env (order.filterMap (futs[·]?)) [] false

/-! ## 組み合わせ -/

/-- `Arc<dyn Resolver>` のうち、`main.rs` が組み立てるもの。 -/
inductive BootstrapResolver (W : Type) where
  | plain (r : PlainResolver)
  | doh (u : DohUpstream W)
  | parallel (resolvers : List (BootstrapResolver W))

section

variable (codec : Codec) (net : Net W) (env : RaceEnv W) (view : LookupReply → List α)
  (host : String)

mutual

/-- `Resolver::lookup`。 -/
def BootstrapResolver.lookupWith : BootstrapResolver W → Async W DohError (List α)
  | .plain r => lookupBoth (r.query codec net view host)
  | .doh u => lookupBoth (DohResolver.query codec net view u host)
  | .parallel resolvers => parallelLookup env (BootstrapResolver.lookupsWith resolvers)

/-- 競わせる計算の列。 -/
def BootstrapResolver.lookupsWith : List (BootstrapResolver W) → List (Async W DohError (List α))
  | [] => []
  | r :: rest => r.lookupWith :: BootstrapResolver.lookupsWith rest

end

end

/-! ## panic しないこと -/

theorem bootstrapResult_ne_panic {β : Type} (x : Except String β) :
    bootstrapResult x ≠ .panic := by
  cases x with
  | ok b => simp [bootstrapResult]
  | error e => simp [bootstrapResult]

theorem noPanic_bootstrapResult {β : Type} (x : Except String β) :
    (Async.lift (bootstrapResult x) : Async W DohError β).NoPanic :=
  Async.NoPanic.lift (bootstrapResult_ne_panic x)

theorem joinAnswers_ne_panic (a aaaa : Except DohError (List α)) : joinAnswers a aaaa ≠ .panic := by
  unfold joinAnswers
  dsimp only
  split
  · simp
  · simp

section

variable {codec : Codec} {net : Net W} {view : LookupReply → List α}

theorem noPanic_plainQuery (r : PlainResolver) (host : String) (qtype : RecordType) :
    (r.query codec net view host qtype).NoPanic := by
  refine (noPanic_bootstrapResult _).bind fun name => (noPanic_random net 2).bind fun id => ?_
  refine (noPanic_bootstrapResult _).bind fun reqBytes => Async.NoPanic.bind ?_ fun reply =>
    Async.NoPanic.pure _
  apply Async.NoPanic.timeout
  refine (noPanic_bootstrapOp _).bind fun sock => (noPanic_bootstrapOp _).bind fun _ => ?_
  refine (noPanic_bootstrapOp _).bind fun _ => (noPanic_bootstrapOp _).bind fun buf => ?_
  exact (noPanic_bootstrapResult _).bind fun resp => Async.NoPanic.pure _

/-- 問い合わせには question があるので、検査も panic しない。 -/
theorem noPanic_dohQuery (u : DohUpstream W) (host : String) (qtype : RecordType) :
    (DohResolver.query codec net view u host qtype).NoPanic := by
  refine (noPanic_bootstrapResult _).bind fun name => (noPanic_random net 2).bind fun id => ?_
  refine Async.NoPanic.bind ?_ fun resp => Async.NoPanic.pure _
  intro w hpanic
  rw [(u.checked _ (isCheck_validateResponse codec _)).panic_iff] at hpanic
  rcases hpanic with hrecv | ⟨m, w', -, hcheck⟩
  · exact u.noPanic _ w hrecv
  · have hnil := ((validateResponse_panic_iff codec _ m).mp hcheck).1
    cases hnil

theorem noPanic_lookupBoth {query : RecordType → Async W DohError (List α)}
    (h : ∀ qtype, (query qtype).NoPanic) : (lookupBoth query).NoPanic := by
  refine (h _).attempt.bind fun a => (h _).attempt.bind fun aaaa => ?_
  exact Async.NoPanic.lift (joinAnswers_ne_panic a aaaa)

theorem noPanic_settle {fut : Async W DohError (List α)} (h : fut.NoPanic) :
    (settle fut).NoPanic := by
  intro w hpanic
  unfold settle at hpanic
  split at hpanic
  · cases hpanic
  · cases hpanic
  · cases hpanic
  · next w' hfut => exact h w (by rw [hfut])

theorem noPanic_raceLoop {env : RaceEnv W} {futs : List (Async W DohError (List α))}
    (h : ∀ fut ∈ futs, fut.NoPanic) (errs : List DohError) (stuck : Bool) :
    (raceLoop env futs errs stuck).NoPanic := by
  induction futs generalizing errs stuck with
  | nil =>
    unfold raceLoop
    split
    · exact Async.NoPanic.lift (by simp)
    · exact Async.NoPanic.throw _
  | cons fut rest ih =>
    have hrest := ih fun fut' hmem => h fut' (List.mem_cons_of_mem fut hmem)
    unfold raceLoop
    refine (noPanic_settle (h fut List.mem_cons_self)).bind fun settled => ?_
    split
    · exact hrest errs stuck
    · exact Async.NoPanic.pure _
    · exact hrest _ stuck
    · exact hrest errs true

theorem noPanic_parallelLookup {env : RaceEnv W} {futs : List (Async W DohError (List α))}
    (h : ∀ fut ∈ futs, fut.NoPanic) : (parallelLookup env futs).NoPanic := by
  unfold parallelLookup
  split
  · exact Async.NoPanic.throw _
  · refine Async.NoPanic.bind (fun w hpanic => by cases hpanic) fun order => ?_
    refine noPanic_raceLoop ?_ [] false
    intro fut hmem
    obtain ⟨i, -, hi⟩ := List.mem_filterMap.mp hmem
    exact h fut (List.mem_of_getElem? hi)

variable (codec net view)

mutual

theorem BootstrapResolver.noPanic_lookupWith (env : RaceEnv W) (host : String) :
    (r : BootstrapResolver W) → (r.lookupWith codec net env view host).NoPanic
  | .plain r => by
    rw [BootstrapResolver.lookupWith]
    exact noPanic_lookupBoth fun qtype => noPanic_plainQuery r host qtype
  | .doh u => by
    rw [BootstrapResolver.lookupWith]
    exact noPanic_lookupBoth fun qtype => noPanic_dohQuery u host qtype
  | .parallel resolvers => by
    rw [BootstrapResolver.lookupWith]
    exact noPanic_parallelLookup (BootstrapResolver.noPanic_lookupsWith env host resolvers)

theorem BootstrapResolver.noPanic_lookupsWith (env : RaceEnv W) (host : String) :
    (rs : List (BootstrapResolver W)) →
      ∀ fut ∈ BootstrapResolver.lookupsWith codec net env view host rs, fut.NoPanic
  | [] => by simp [BootstrapResolver.lookupsWith]
  | r :: rest => by
    intro fut hmem
    rw [BootstrapResolver.lookupsWith] at hmem
    rcases List.mem_cons.mp hmem with rfl | hmem
    · exact r.noPanic_lookupWith env host
    · exact BootstrapResolver.noPanic_lookupsWith env host rest fut hmem

end

end

/-- `trait Resolver` としての `BootstrapResolver`。 -/
def BootstrapResolver.toResolver (codec : Codec) (net : Net W) (env : RaceEnv W)
    (r : BootstrapResolver W) : Resolver W where
  lookup host := r.lookupWith codec net env LookupReply.ips host
  noPanic host := r.noPanic_lookupWith codec net LookupReply.ips env host

end DnsProxy
