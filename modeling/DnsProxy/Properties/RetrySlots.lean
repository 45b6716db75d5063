import DnsProxy.Infra.Retry
import DnsProxy.Properties.DohWire

/-!
# 失敗したものは置き場所に残らないか

DoH の client・HTTP/3 の transport と DoQ の connection は、どれも置き場所に取っておいたもので試み、
失敗したら一度だけ作り直す（`Infra.Retry`）。`exchange` が失敗を返したとき、その `exchange` が失敗した
ものが置き場所に残っていないかを、順に行う `exchange` のどの列についても調べる。

失敗を返す出口は三つある。

* 再試行しない失敗 — 置き場所を空にしてから失敗を返す
* 作り直しの失敗 — `?` でそのまま返り、初めに失敗したものが置き場所に残る
* 作り直したものでの失敗 — そのまま返り、作り直したものが置き場所に残る

順に行うので、置き場所に触れるのは upstream 自身だけである。世界を「置き場所」と「外の世界」の組に
分け、外の世界は操作のたびに、また `exchange` の間に、どう変わってもよいものとする。
-/

namespace DnsProxy

open Infra

variable {W : Type} {codec : Codec} {net : Net W}

/-! ## 置き場所に触れない計算 -/

section Keeps

variable {S γ : Type} {f : S → γ}

theorem keeps_lock : (lock (net.onSnd : Net (S × W))).Keeps fun t => f t.1 := fun _ => rfl

theorem keeps_call {ε ε' α : Type} {g : ε → ε'} (op : Op W ε α) :
    (Async.call g (op.onSnd : Op (S × W) ε α)).Keeps fun t => f t.1 := Async.Keeps.call fun _ => rfl

theorem keeps_onSnd {ε α : Type} (x : Async W ε α) :
    (x.onSnd : Async (S × W) ε α).Keeps fun t => f t.1 := fun _ => rfl

theorem keeps_resolveAddrs (host : String) (port : UInt16) (timeout : Option Duration)
    (resolver : Resolver W) (preferV6 : Bool) :
    (resolveAddrs (net.onSnd : Net (S × W)) host port timeout resolver.onSnd preferV6).Keeps
      fun t => f t.1 := by
  have hips : (resolveIps (net.onSnd : Net (S × W)) host timeout resolver.onSnd).Keeps
      fun t => f t.1 := by
    unfold resolveIps
    split
    · exact Async.Keeps.pure _
    · exact (keeps_onSnd _).timeout
  refine hips.bind fun ips => ?_
  split
  · exact Async.Keeps.throw _
  · exact Async.Keeps.pure _

theorem keeps_dialOne (addr : SocketAddr) (network : Network) (timeout : Option Duration) :
    (dialOne (net.onSnd : Net (S × W)) addr network timeout).Keeps fun t => f t.1 := by
  refine Async.Keeps.timeout ?_
  cases network with
  | tcp => exact Async.Keeps.bind (keeps_call _) fun _ => Async.Keeps.pure _
  | udp =>
    refine Async.Keeps.bind (keeps_call _) fun sock => ?_
    exact Async.Keeps.bind (keeps_call _) fun _ => Async.Keeps.pure _

theorem keeps_dial (h : DialHandler) (network : Network) :
    (h.dial (net.onSnd : Net (S × W)) network).Keeps fun t => f t.1 := by
  have hloop : ∀ addrs lastErr,
      (dialLoop (net.onSnd : Net (S × W)) network h.timeout addrs lastErr).Keeps fun t => f t.1 := by
    intro addrs
    induction addrs with
    | nil => exact fun lastErr => Async.Keeps.throw _
    | cons addr rest ih =>
      intro lastErr
      refine (keeps_dialOne addr network h.timeout).attempt.bind fun r => ?_
      cases r with
      | ok conn => exact Async.Keeps.pure _
      | error e => exact ih (some e)
  unfold DialHandler.dial
  split
  · exact Async.Keeps.throw _
  · exact hloop h.addrs none

/-- 取ってある client で送っても、connector が繋いでも、手元の状態は変わらない。 -/
theorem keeps_request (outer : Option Duration) (client : HttpClient) (req : HttpRequest) :
    (client.request (net.onSnd : Net (S × W)) outer req).Keeps fun t => f t.1 := by
  have hconnect : (client.connect (net.onSnd : Net (S × W)) outer).Keeps fun t => f t.1 := by
    refine (keeps_dial _ .tcp).bind fun conn => ?_
    cases conn with
    | udp sock addr => exact Async.Keeps.throw _
    | tcp tcp => exact (Async.Keeps.lift _).bind fun _ => keeps_call _
  have htimes : ∀ n conns,
      (client.connectTimes (net.onSnd : Net (S × W)) outer n conns).Keeps fun t => f t.1 := by
    intro n
    induction n with
    | zero => exact fun conns => Async.Keeps.pure _
    | succ n ih => exact fun conns => hconnect.attempt.bind fun conn => ih (conns ++ [conn])
  refine Async.Keeps.bind (fun _ => rfl) fun n => ?_
  exact (htimes n []).bind fun conns => keeps_call _

end Keeps

/-! ## DoQ -/

namespace DoqUpstream

/-- 再試行としての `exchange`。 -/
def retry (codec : Codec) (net : Net W) (u : DoqUpstream W) (req : Message) :
    Retry W DohError Nat Message where
  acquire := u.getConn net
  attempt conn := u.exchangeOnWith codec net conn (validateResponse codec req) req
  renew _ := u.resetConn net
  discard := do
    lock net
    Async.write u.conn none
  retryable := DohError.shouldRetry

/-- `DoqUpstream::exchange`。 -/
def exchange (codec : Codec) (net : Net W) (u : DoqUpstream W) (req : Message) :
    Async W DohError Message := u.exchangeWith codec net (validateResponse codec req) req

theorem exchange_eq_retry (u : DoqUpstream W) (req : Message) :
    u.exchange codec net req = (u.retry codec net req).exchange := rfl

/-- 置き場所をひとりで使う upstream。世界は置き場所と外の世界の組になる。 -/
def sole (u : DoqUpstream W) : DoqUpstream (Option Nat × W) :=
  { u with
    resolver := u.resolver.onSnd
    conn := (⟨id, fun v _ => v⟩ : Cell (Option Nat) (Option Nat)).onFst }

theorem keeps_dial (u : DoqUpstream W) : (u.sole.dial net.onSnd).Keeps u.sole.conn.get := by
  refine (keeps_resolveAddrs (f := id) _ _ _ u.resolver _).bind fun addrs => ?_
  refine (Async.Keeps.lift _).bind fun addr => ?_
  exact keeps_call (f := id) _

theorem keeps_exchangeOn (u : DoqUpstream W) (conn : Nat) (check : Message → Outcome DohError Unit)
    (req : Message) :
    (u.sole.exchangeOnWith codec net.onSnd conn check req).Keeps u.sole.conn.get := by
  have hop : ∀ {α : Type} (op : Op W String α), (quicOp op.onSnd).Keeps u.sole.conn.get :=
    fun op => keeps_call (f := id) op
  refine (Async.Keeps.lift _).bind fun reqBytes => Async.Keeps.timeout ?_
  refine Async.Keeps.bind ?_ fun buf => Async.Keeps.lift _
  refine (hop _).bind fun stream => (hop _).bind fun _ => (hop _).bind fun _ => ?_
  refine (hop _).bind fun _ => (hop _).bind fun lenBuf => ?_
  dsimp only
  split
  · exact Async.Keeps.throw _
  · exact (hop _).bind fun buf => Async.Keeps.pure _

theorem getConn_eq (u : DoqUpstream W) :
    u.getConn net = u.conn.getOrCreate (lock net) (u.dial net) := by
  unfold getConn Cell.getOrCreate
  refine congrArg _ (funext fun _ => congrArg _ (funext fun c => ?_))
  cases c with
  | none => rfl
  | some c => rfl

theorem resetConn_eq (u : DoqUpstream W) :
    u.resetConn net = u.conn.recreate (lock net) (u.dial net) := rfl

theorem onCell (u : DoqUpstream W) (req : Message) :
    (u.sole.retry codec net.onSnd req).OnCell u.sole.conn where
  lawful _ _ := rfl
  acquire := ⟨_, _, keeps_lock (f := id), u.sole.getConn_eq⟩
  attempt conn := u.keeps_exchangeOn conn _ req
  renew := ⟨_, _, keeps_lock (f := id), u.keeps_dial, fun _ => u.sole.resetConn_eq⟩
  discard := ⟨_, fun _ => rfl⟩

end DoqUpstream

/-! ## DoH -/

/-- `DohUpstream` の置き場所の中身。`inner` は transport ごとの sender である。 -/
structure DohState where
  client : Option HttpClient
  h3 : Option Http3Transport
  preferH3 : Option Bool
  inner : Nat → Option Nat

/-- `DohUpstream::new` の直後。 -/
def DohState.new : DohState where
  client := none
  h3 := none
  preferH3 := none
  inner _ := none

namespace DohUpstream

/-- HTTP/1.1・HTTP/2 の再試行。 -/
def clientRetry (codec : Codec) (net : Net W) (u : DohUpstream W) (req : Message) :
    Retry W DohError HttpClient Message where
  acquire := u.getClient net
  attempt client := u.exchangeHttpsWith codec net client (validateResponse codec req) req
  renew _ := u.resetClient net
  discard := u.resetClientIgnoreErr net
  retryable := DohError.shouldRetry

/-- HTTP/3 の再試行。作り直すのは transport の中の sender で、transport は同じものを使う。 -/
def h3Retry (codec : Codec) (net : Net W) (u : DohUpstream W) (req : Message) :
    Retry W DohError Http3Transport Message where
  acquire := u.getH3Transport net
  attempt t := t.exchangeWith codec net (u.h3Inner t.id) (validateResponse codec req) req
  renew t := do
    let _ ← t.reset net (u.h3Inner t.id)
    pure t
  discard := do
    lock net
    Async.write u.h3 none
  retryable := DohError.shouldRetry

/-- `DohUpstream::exchange`。 -/
def exchange (codec : Codec) (net : Net W) (u : DohUpstream W) (req : Message) :
    Async W DohError Message := u.exchangeWith codec net (validateResponse codec req) req

theorem exchangeH3_eq_retry (u : DohUpstream W) (req : Message) :
    u.exchangeH3With codec net (validateResponse codec req) req
      = (u.h3Retry codec net req).exchange := by
  unfold exchangeH3With Retry.exchange Retry.again h3Retry retryOnce
  dsimp only
  simp only [Async.bind_assoc]
  rfl

theorem exchange_eq_retry (u : DohUpstream W) (req : Message) :
    u.exchange codec net req = (do
      if ← u.shouldUseHttp3 net then (u.h3Retry codec net req).exchange
      else (u.clientRetry codec net req).exchange) := by
  unfold exchange exchangeWith
  rw [exchangeH3_eq_retry]
  rfl

/-- 置き場所をひとりで使う upstream。 -/
def sole (u : DohUpstream W) : DohUpstream (DohState × W) :=
  { u with
    resolver := u.resolver.onSnd
    client := (⟨DohState.client, fun v s => { s with client := v }⟩ : Cell DohState _).onFst
    h3 := (⟨DohState.h3, fun v s => { s with h3 := v }⟩ : Cell DohState _).onFst
    preferH3 := (⟨DohState.preferH3, fun v s => { s with preferH3 := v }⟩ : Cell DohState _).onFst
    h3Inner := fun id =>
      (⟨fun s => s.inner id, fun v s => { s with inner := Function.update s.inner id v }⟩ :
        Cell DohState _).onFst }

/-- 新しい client を作り、期限の内だったことを確かめる。 -/
def createInTime (net : Net W) (u : DohUpstream W) : Async W DohError HttpClient := do
  let start ← instantNow net
  let client ← u.createClient net
  u.checkElapsed net start
  pure client

theorem getClient_eq (u : DohUpstream W) :
    u.getClient net = u.client.getOrCreate (lock net) (u.createInTime net) := by
  unfold getClient Cell.getOrCreate createInTime
  refine congrArg _ (funext fun _ => congrArg _ (funext fun c => ?_))
  cases c with
  | none =>
    simp only [Async.bind_assoc]
    rfl
  | some c => rfl

theorem resetClient_eq (u : DohUpstream W) :
    u.resetClient net = u.client.recreate (lock net) (u.createClient net) := rfl

/-- 新しい transport を作る。sender はまだ無い。 -/
def createH3Transport (net : Net W) (u : DohUpstream W) : Async W DohError Http3Transport := do
  let addrs ← resolveAddrs net u.host u.port u.timeout u.resolver u.preferIpv6
  let addr ← Async.lift (firstAddr u.host addrs)
  let id ← alloc net
  Async.write (u.h3Inner id) none
  pure { id, serverAddr := addr, serverName := u.host,
         tlsConfig := buildTlsConfig u.host u.insecureSkipVerify ["h3"], timeout := u.timeout,
         path := u.path, basicAuthHeader := u.basicAuthHeader }

theorem getH3Transport_eq (u : DohUpstream W) :
    u.getH3Transport net = u.h3.getOrCreate (lock net) (u.createH3Transport net) := by
  unfold getH3Transport Cell.getOrCreate createH3Transport
  refine congrArg _ (funext fun _ => congrArg _ (funext fun t => ?_))
  cases t with
  | none =>
    simp only [Async.bind_assoc]
    rfl
  | some t => rfl

theorem keeps_createClient {γ : Type} {f : DohState → γ} (u : DohUpstream W) :
    (u.sole.createClient net.onSnd).Keeps fun s => f s.1 := by
  have hdial : (resolveAddrs (net.onSnd : Net (DohState × W)) u.host u.port u.timeout
      u.resolver.onSnd u.preferIpv6).Keeps fun s => f s.1 :=
    keeps_resolveAddrs _ _ _ u.resolver _
  refine Async.Keeps.bind (hdial.bind fun addrs => Async.Keeps.pure _) fun dial => ?_
  dsimp only
  split
  · exact Async.Keeps.throw _
  · exact Async.Keeps.pure _

theorem keeps_exchangeHttps {γ : Type} {f : DohState → γ} (u : DohUpstream W) (client : HttpClient)
    (check : Message → Outcome DohError Unit) (req : Message) :
    (u.sole.exchangeHttpsWith codec net.onSnd client check req).Keeps fun s => f s.1 := by
  refine (Async.Keeps.lift _).bind fun p => (Async.Keeps.lift _).bind fun _ => ?_
  refine Async.Keeps.bind (keeps_request _ _ _).timeout fun r => ?_
  refine Async.Keeps.bind (keeps_call _) fun body => ?_
  split
  · exact Async.Keeps.throw _
  · split
    · exact Async.Keeps.throw _
    · exact Async.Keeps.lift _

theorem client_onCell (u : DohUpstream W) (req : Message) :
    (u.sole.clientRetry codec net.onSnd req).OnCell u.sole.client where
  lawful _ _ := rfl
  acquire := ⟨_, _, keeps_lock (f := DohState.client), u.sole.getClient_eq⟩
  attempt client := u.keeps_exchangeHttps (f := DohState.client) client _ req
  renew := ⟨_, _, keeps_lock (f := DohState.client), u.keeps_createClient (f := DohState.client),
    fun _ => u.sole.resetClient_eq⟩
  discard := ⟨_, fun _ => rfl⟩

/-- sender の読み書きと transport の通信は、transport の置き場所を変えない。 -/
theorem keeps_h3Exchange (u : DohUpstream W) (t : Http3Transport)
    (check : Message → Outcome DohError Unit) (req : Message) :
    (t.exchangeWith codec net.onSnd (u.sole.h3Inner t.id) check req).Keeps u.sole.h3.get := by
  have hop : ∀ {α : Type} (op : Op W String α), (quicOp op.onSnd).Keeps u.sole.h3.get :=
    fun op => keeps_call (f := DohState.h3) op
  have hsender : (t.getSender net.onSnd (u.sole.h3Inner t.id)).Keeps u.sole.h3.get := by
    refine (keeps_lock (f := DohState.h3)).bind fun _ => (Async.Keeps.gets _).bind fun s => ?_
    cases s with
    | some s => exact Async.Keeps.pure _
    | none =>
      refine Async.Keeps.bind ((hop _).bind fun conn => hop _) fun s => ?_
      exact fun _ => rfl
  have hfetch : ∀ sender httpReq, (t.fetch net.onSnd sender httpReq).Keeps u.sole.h3.get := by
    intro sender httpReq
    refine (hop _).bind fun stream => (hop _).bind fun _ => (hop _).bind fun status => ?_
    split
    · exact Async.Keeps.throw _
    · exact fun _ => rfl
  refine hsender.bind fun sender => (Async.Keeps.lift _).bind fun p => ?_
  refine (Async.Keeps.lift _).bind fun _ => ?_
  exact Async.Keeps.bind (hfetch _ _).timeout fun body => Async.Keeps.lift _

theorem keeps_h3Renew (u : DohUpstream W) (req : Message) (t : Http3Transport) :
    ((u.sole.h3Retry codec net.onSnd req).renew t).Keeps u.sole.h3.get := by
  have hop : ∀ {α : Type} (op : Op W String α), (quicOp op.onSnd).Keeps u.sole.h3.get :=
    fun op => keeps_call (f := DohState.h3) op
  refine Async.Keeps.bind ?_ fun _ => Async.Keeps.pure _
  refine (keeps_lock (f := DohState.h3)).bind fun _ => ?_
  refine Async.Keeps.bind ((hop _).bind fun conn => hop _) fun s => ?_
  exact fun _ => rfl

/-- sender を作り直しても、transport は同じものである。 -/
theorem h3Renew_ok {u : DohUpstream W} {req : Message} {t t' : Http3Transport} {s s' : W}
    (h : (u.h3Retry codec net req).renew t s = (.ok t', s')) : t' = t := by
  have hens : Async.Ensures (fun t' => t' = t) ((u.h3Retry codec net req).renew t) :=
    Async.Ensures.bind fun _ => Async.Ensures.pure rfl
  exact hens s t' s' h

/-- HTTP/3 では transport を作り直さないので、`OnCell` ではない。 -/
theorem h3_onSlot (u : DohUpstream W) (req : Message) :
    (u.sole.h3Retry codec net.onSnd req).OnSlot u.sole.h3.get where
  acquire_ok := by
    intro s s' t cached h
    unfold h3Retry at h
    rw [getH3Transport_eq] at h
    exact Cell.getOrCreate_ok (fun _ _ => rfl) (keeps_lock (f := DohState.h3)) h
  attempt t := u.keeps_h3Exchange t _ req
  renew_ok := by
    intro t t' s s' hs h
    rw [h3Renew_ok h, (u.keeps_h3Renew req t).apply h, hs]
  renew_err := by
    intro t s s' e h
    exact (u.keeps_h3Renew req t).apply h
  discard s := ⟨_, rfl, rfl⟩

/-! ### どちらの再試行になるか -/

/-- 使うことになった方の再試行が失敗すること。 -/
def RetryFails (codec : Codec) (net : Net W) (u : DohUpstream W) (req : Message) (s : W) : Prop :=
  ∃ s₁, (u.shouldUseHttp3 net s = (.ok true, s₁) ∧ (u.h3Retry codec net req).RetryFails s₁) ∨
    (u.shouldUseHttp3 net s = (.ok false, s₁) ∧ (u.clientRetry codec net req).RetryFails s₁)

/-- 失敗した client も transport も、`s'` の置き場所に無いこと。 -/
def Forgets (codec : Codec) (net : Net W) (u : DohUpstream W) (req : Message) (s s' : W) : Prop :=
  ∀ s₁, (u.shouldUseHttp3 net s = (.ok true, s₁) →
      (u.h3Retry codec net req).Forgets u.h3.get s₁ s') ∧
    (u.shouldUseHttp3 net s = (.ok false, s₁) →
      (u.clientRetry codec net req).Forgets u.client.get s₁ s')

theorem exchange_of_shouldUseHttp3 {u : DohUpstream W} {req : Message} {s s₁ : W} {useH3 : Bool}
    (h : u.shouldUseHttp3 net s = (.ok useH3, s₁)) :
    u.exchange codec net req s = if useH3 then (u.h3Retry codec net req).exchange s₁
      else (u.clientRetry codec net req).exchange s₁ := by
  rw [exchange_eq_retry, Async.bind_ok h]
  cases useH3 with
  | true => rfl
  | false => rfl

theorem forgets_iff (u : DohUpstream W) (req : Message) (s : DohState × W) :
    (∀ e s', u.sole.exchange codec net.onSnd req s = (.err e, s') →
        u.sole.Forgets codec net.onSnd req s s') ↔
      ¬ u.sole.RetryFails codec net.onSnd req s := by
  constructor
  · rintro hall ⟨s₁, ⟨huse, hfails⟩ | ⟨huse, hfails⟩⟩
    · refine ((Retry.forgets_iff (u.h3_onSlot req) s₁).mp fun e s' he => ?_) hfails
      refine (hall e s' ?_ s₁).1 huse
      rw [exchange_of_shouldUseHttp3 huse]
      exact he
    · refine ((Retry.forgets_iff (u.client_onCell req).onSlot s₁).mp fun e s' he => ?_) hfails
      refine (hall e s' ?_ s₁).2 huse
      rw [exchange_of_shouldUseHttp3 huse]
      exact he
  · intro hno e s' he s₁
    constructor
    · intro huse
      rw [exchange_of_shouldUseHttp3 huse] at he
      refine (Retry.forgets_iff (u.h3_onSlot req) s₁).mpr ?_ e s' he
      exact fun hfails => hno ⟨s₁, Or.inl ⟨huse, hfails⟩⟩
    · intro huse
      rw [exchange_of_shouldUseHttp3 huse] at he
      refine (Retry.forgets_iff (u.client_onCell req).onSlot s₁).mpr ?_ e s' he
      exact fun hfails => hno ⟨s₁, Or.inr ⟨huse, hfails⟩⟩

end DohUpstream

/-! ## 順に行う `exchange` の列 -/

/--
**失敗を返した `exchange` が失敗したものを置き場所に残さないのは、どの `exchange` でも再試行そのものが
失敗しないとき、かつそのときに限る。**
-/
theorem failed_not_kept_iff (codec : Codec) (net : Net W) :
    (∀ (u : DoqUpstream W) (run : List (Message × W)),
      (∀ p ∈ Async.starts (u.sole.exchange codec net.onSnd) none run, ∀ e s',
          u.sole.exchange codec net.onSnd p.1 p.2 = (.err e, s') →
            (u.sole.retry codec net.onSnd p.1).Forgets u.sole.conn.get p.2 s') ↔
        ∀ p ∈ Async.starts (u.sole.exchange codec net.onSnd) none run,
          ¬ (u.sole.retry codec net.onSnd p.1).RetryFails p.2) ∧
    (∀ (u : DohUpstream W) (run : List (Message × W)),
      (∀ p ∈ Async.starts (u.sole.exchange codec net.onSnd) DohState.new run, ∀ e s',
          u.sole.exchange codec net.onSnd p.1 p.2 = (.err e, s') →
            u.sole.Forgets codec net.onSnd p.1 p.2 s') ↔
        ∀ p ∈ Async.starts (u.sole.exchange codec net.onSnd) DohState.new run,
          ¬ u.sole.RetryFails codec net.onSnd p.1 p.2) := by
  constructor
  · intro u run
    exact forall₂_congr fun p _ => Retry.forgets_iff (u.onCell p.1).onSlot p.2
  · intro u run
    exact forall₂_congr fun p _ => u.forgets_iff p.1 p.2

/-- 繋がって `a.` の A の応答が返る（`true`）か、相手が黙っている（`false`）かの世界。 -/
def Net.flaky : Net Bool :=
  { Net.unreachable StdText.none with
    dialQuic := fun _ _ _ up => (if up then .ok 0 else .err "timed out", up)
    quicOpenBi := fun _ up => (.ok 0, up)
    writeAll := fun _ _ up => (.ok (), up)
    quicFinish := fun _ up => (.ok (), up)
    readExact := fun _ n up =>
      let reply := wireA 0 0x80
      let data := if n = 2 then Bytes.toBe16 (UInt16.ofNat reply.length) else reply
      (if up then (Block.ofBytes? n data).elim (.err "finished early") .ok else .pending, up) }

def sampleDoq (W : Type) : DoqUpstream W where
  host := "dns.example"
  port := 853
  resolver := Resolver.static [.v4 0x7F000001]
  preferIpv6 := false
  timeout := some (Duration.fromSecs 10)
  insecureSkipVerify := false
  conn := { get := fun _ => none, set := fun _ w => w }

/-- 取ってあった connection での待ちが期限切れになり、繋ぎ直しも失敗すると、その connection が残る。 -/
theorem doq_keeps_silent_connection :
    ¬ ∀ p ∈ Async.starts ((sampleDoq Bool).sole.exchange zeroIdCodec Net.flaky.onSnd) none
        [(queryA, true), (queryA, false)], ∀ e s',
      (sampleDoq Bool).sole.exchange zeroIdCodec Net.flaky.onSnd p.1 p.2 = (.err e, s') →
        ((sampleDoq Bool).sole.retry zeroIdCodec Net.flaky.onSnd p.1).Forgets
          (sampleDoq Bool).sole.conn.get p.2 s' := by
  intro hall
  have hfirst : ((sampleDoq Bool).sole.exchange zeroIdCodec Net.flaky.onSnd queryA
      (none, true)).2.1 = some 0 := by decide +kernel
  have hmem : (queryA, (some 0, false)) ∈
      Async.starts ((sampleDoq Bool).sole.exchange zeroIdCodec Net.flaky.onSnd) none
        [(queryA, true), (queryA, false)] := by
    simp only [Async.starts, hfirst]
    simp
  have hsecond : (sampleDoq Bool).sole.exchange zeroIdCodec Net.flaky.onSnd queryA
      (some 0, false) = (.err (.quic "timed out"), (some 0, false)) := by decide +kernel
  have hacquire : ((sampleDoq Bool).sole.retry zeroIdCodec Net.flaky.onSnd queryA).acquire
      (some 0, false) = (.ok (0, true), (some 0, false)) := rfl
  have hattempt : ((sampleDoq Bool).sole.retry zeroIdCodec Net.flaky.onSnd queryA).attempt 0
      (some 0, false) = (.err (.timeout (Duration.fromSecs 10)), (some 0, false)) := by
    decide +kernel
  exact (hall _ hmem _ _ hsecond 0 (.first hacquire hattempt)).1 rfl

end DnsProxy
