import DnsProxy.Infra.Machine
import DnsProxy.Properties.RetrySlots

/-!
# 閉じた connection での再試行

DoQ の `exchange` をいくつも、どの順に入り混ぜて走らせてもよいとする。繋ぎ直しは必ずでき、server は
生きている connection に届いた query に必ず正しく答えるが、取ってある connection はいつ閉じてもよい。
このときどの `exchange` も値を返すか、を調べる。

閉じた connection を使うと、`DohError::Quic` に quinn の文面を入れた失敗になる。`should_retry` が
再試行に値すると見るのは、文面に `0-RTT` か `retry` を含むものだけなので、`timed out` や
`closed by peer` で閉じた connection での失敗は再試行されず、そのまま返る。

`exchange` は、置き場所の lock を持つ間を一続きとして段に分ける（`Retry.step`）。connection の状態は
quinn が持ち、query を送る時に生きていれば答えが返るので、一度の試みも一続きでよい。
-/

namespace DnsProxy

open Infra

/-! ## QUIC の世界 -/

/-- 双方向の stream。 -/
structure QuicStream where
  conn : Nat
  sent : Bytes
  /-- まだ読まれていない返事。 -/
  reply : Bytes

/-- connection は繋いだ順の番号で表す。`closed` は閉じた理由の文面で、`none` なら生きている。 -/
structure Quic where
  dials : Nat
  closed : Nat → Option String
  streams : List QuicStream

/-- 閉じた connection の stream では、どの操作も connection の失敗になる。 -/
def Quic.onStream {α : Type} (w : Quic) (stream : Nat)
    (f : QuicStream → Reply String α × QuicStream) : Reply String α × Quic :=
  match w.streams[stream]? with
  | none => (.err "unknown stream", w)
  | some s =>
    match w.closed s.conn with
    | some text => (.err text, w)
    | none => ((f s).1, { w with streams := w.streams.set stream (f s).2 })

/-- stream `s` を開いた後の世界。 -/
def Quic.opened (w : Quic) (s : QuicStream) : Quic := { w with streams := w.streams ++ [s] }

/-- 一つ繋いだ後の世界。 -/
def Quic.dialed (w : Quic) : Quic := { w with dials := w.dials + 1 }

/-- 届いた query への答え。stream ごとに変わってよい。 -/
structure DoqServer where
  serve : Nat → Bytes → Bytes
  framed : ∀ n b, (serve n b).length ≤ 65535

/-- server は、届いた `req` に必ず正しく答える。 -/
def DoqServer.Answers (codec : Codec) (server : DoqServer) (req : Message) : Prop :=
  ∀ n b, packFramed codec "doq" (req.setId 0) = .ok b → ∃ resp,
    decodeResponse codec (validateResponse codec req) (server.serve n b) req.metadata.id = .ok resp

/-- 繋ぐことは必ずでき、送り終えた query には server が答える世界。 -/
def DoqServer.net (server : DoqServer) (std : StdText) : Net Quic :=
  { Net.unreachable std with
    dialQuic := fun _ _ _ w => (.ok w.dials, w.dialed)
    quicOpenBi := fun conn w =>
      match w.closed conn with
      | some text => (.err text, w)
      | none => (.ok w.streams.length,
          { w with streams := w.streams ++ [{ conn, sent := [], reply := [] }] })
    writeAll := fun stream b w =>
      w.onStream stream fun s => (.ok (), { s with sent := s.sent ++ b })
    quicFinish := fun stream w => w.onStream stream fun s =>
      let body := server.serve stream (s.sent.drop 2)
      (.ok (), { s with reply := Bytes.toBe16 (UInt16.ofNat body.length) ++ body })
    readExact := fun stream n w => w.onStream stream fun s =>
      match takeExact n s.reply with
      | some b => (.ok b, { s with reply := s.reply.drop n })
      | none => (.err "stream finished early", s) }

/-- 名前を必ず引ける upstream と、その繋ぐ先。 -/
structure DoqSite where
  server : DoqServer
  std : StdText
  upstream : DoqUpstream Quic
  resolves : ∀ w, ∃ ip ips, resolveIps (server.net std) upstream.host upstream.timeout
    upstream.resolver w = (.ok (ip :: ips), w)

namespace DoqSite

variable (codec : Codec) (site : DoqSite)

/-- 置き場所を添えた世界。 -/
def net : Net (Option Nat × Quic) := (site.server.net site.std).onSnd

/-- 一つの `exchange`。 -/
def retry (req : Message) : Retry (Option Nat × Quic) DohError Nat Message :=
  site.upstream.sole.retry codec site.net req

/-! ### 一度の試み -/

section

variable {codec} (slot : Option Nat) {w : Quic}

/-- 最後に開いた stream での操作。 -/
theorem onStream_opened {α : Type} {s : QuicStream} (hlive : w.closed s.conn = none)
    (f : QuicStream → Reply String α × QuicStream) :
    (w.opened s).onStream w.streams.length f = ((f s).1, w.opened (f s).2) := by
  unfold Quic.onStream Quic.opened
  simp [hlive]

theorem openBi_live {conn : Nat} (hlive : w.closed conn = none) :
    quicOp (site.net.quicOpenBi conn) (slot, w)
      = (.ok w.streams.length, (slot, w.opened { conn, sent := [], reply := [] })) := by
  refine Async.call_ok (Op.onSnd_apply ?_)
  unfold DoqServer.net
  dsimp only
  rw [hlive]
  rfl

theorem openBi_closed {conn : Nat} {text : String} (hclosed : w.closed conn = some text) :
    quicOp (site.net.quicOpenBi conn) (slot, w) = (.err (.quic text), (slot, w)) := by
  refine Async.call_err (Op.onSnd_apply ?_)
  unfold DoqServer.net
  dsimp only
  rw [hclosed]

theorem writeAll_live {s : QuicStream} (hlive : w.closed s.conn = none) (b : Bytes) :
    quicOp (site.net.writeAll w.streams.length b) (slot, w.opened s)
      = (.ok (), (slot, w.opened { s with sent := s.sent ++ b })) :=
  Async.call_ok (Op.onSnd_apply (onStream_opened hlive _))

/-- 送り終えた query に、server の答えが付く。 -/
theorem finish_live {s : QuicStream} (hlive : w.closed s.conn = none) {body : Bytes}
    (hbody : site.server.serve w.streams.length (s.sent.drop 2) = body) :
    quicOp (site.net.quicFinish w.streams.length) (slot, w.opened s) = (.ok (), (slot,
      w.opened { s with reply := Bytes.toBe16 (UInt16.ofNat body.length) ++ body })) := by
  subst hbody
  exact Async.call_ok (Op.onSnd_apply (onStream_opened hlive _))

theorem readExact_live {s : QuicStream} (hlive : w.closed s.conn = none) {n : Nat} (a : Block n)
    {rest : Bytes} (hreply : s.reply = a.1 ++ rest) :
    quicOp (site.net.readExact w.streams.length n) (slot, w.opened s)
      = (.ok a, (slot, w.opened { s with reply := rest })) := by
  refine Async.call_ok (Op.onSnd_apply ?_)
  have hop := onStream_opened hlive fun s : QuicStream =>
    match takeExact n s.reply with
    | some b => (.ok b, { s with reply := s.reply.drop n })
    | none => (.err "stream finished early", s)
  rw [hreply, takeExact_append, List.drop_left' a.2] at hop
  exact hop

/-- 生きている connection で送った query には、server の答えが返る。 -/
theorem exchangeStream_live {conn : Nat} (hlive : w.closed conn = none) (b : Bytes) :
    ∃ s, DoqUpstream.exchangeStream site.net conn b (slot, w)
      = (.ok (site.server.serve w.streams.length b), (slot, w.opened s)) := by
  generalize hbody : site.server.serve w.streams.length b = body
  have hframed : body.length ≤ 65535 := by rw [← hbody]; exact site.server.framed _ _
  let len := Bytes.toBe16 (UInt16.ofNat b.length)
  let bodyLen : Block 2 := ⟨Bytes.toBe16 (UInt16.ofNat body.length), rfl⟩
  have hsend : quicOp (site.net.writeAll w.streams.length len)
      (slot, w.opened { conn, sent := [], reply := [] })
        = (.ok (), (slot, w.opened { conn, sent := len, reply := [] })) :=
    site.writeAll_live slot hlive len
  have hsend' : quicOp (site.net.writeAll w.streams.length b)
      (slot, w.opened { conn, sent := len, reply := [] })
        = (.ok (), (slot, w.opened { conn, sent := len ++ b, reply := [] })) :=
    site.writeAll_live slot hlive b
  have hfinish : quicOp (site.net.quicFinish w.streams.length)
      (slot, w.opened { conn, sent := len ++ b, reply := [] })
        = (.ok (), (slot, w.opened { conn, sent := len ++ b, reply := bodyLen.1 ++ body })) :=
    site.finish_live slot hlive hbody
  have hread : quicOp (site.net.readExact w.streams.length 2)
      (slot, w.opened { conn, sent := len ++ b, reply := bodyLen.1 ++ body })
        = (.ok bodyLen, (slot, w.opened { conn, sent := len ++ b, reply := body })) :=
    site.readExact_live slot hlive bodyLen rfl
  have hread' : quicOp (site.net.readExact w.streams.length bodyLen.be16.toNat)
      (slot, w.opened { conn, sent := len ++ b, reply := body })
        = (.ok ⟨body, be16_length hframed⟩,
          (slot, w.opened { conn, sent := len ++ b, reply := [] })) :=
    site.readExact_live slot hlive ⟨body, be16_length hframed⟩ (by simp)
  have hsmall : ¬ bodyLen.be16.toNat > 65535 := by
    have hlen : body.length = bodyLen.be16.toNat := be16_length hframed
    omega
  refine ⟨{ conn, sent := len ++ b, reply := [] }, ?_⟩
  unfold DoqUpstream.exchangeStream
  rw [Async.bind_ok (site.openBi_live slot hlive), Async.bind_ok hsend, Async.bind_ok hsend',
    Async.bind_ok hfinish, Async.bind_ok hread, if_neg hsmall, Async.bind_ok hread']
  rfl

/-- 生きている connection での試みは、値を返す。 -/
theorem attempt_live {conn : Nat} (hlive : w.closed conn = none) {req : Message} {b : Bytes}
    (hb : packFramed codec "doq" (req.setId 0) = .ok b) (hanswers : site.server.Answers codec req) :
    ∃ resp s, (site.retry codec req).attempt conn (slot, w) = (.ok resp, (slot, w.opened s)) := by
  obtain ⟨resp, hresp⟩ := hanswers w.streams.length b hb
  obtain ⟨s, hs⟩ := site.exchangeStream_live slot hlive b
  refine ⟨resp, s, ?_⟩
  show DoqUpstream.exchangeOnWith codec site.net site.upstream.sole conn _ req (slot, w) = _
  unfold DoqUpstream.exchangeOnWith
  rw [hb, Async.lift_bind_ok]
  refine Async.timeout_ok ?_
  rw [Async.bind_ok hs, hresp]
  rfl

/-- 閉じた connection での試みは、閉じた理由を持つ失敗になる。 -/
theorem attempt_closed {conn : Nat} {text : String} (hclosed : w.closed conn = some text)
    {req : Message} {b : Bytes} (hb : packFramed codec "doq" (req.setId 0) = .ok b) :
    (site.retry codec req).attempt conn (slot, w) = (.err (.quic text), (slot, w)) := by
  show DoqUpstream.exchangeOnWith codec site.net site.upstream.sole conn _ req (slot, w) = _
  unfold DoqUpstream.exchangeOnWith DoqUpstream.exchangeStream
  rw [hb, Async.lift_bind_ok, Async.bind_assoc]
  refine Async.timeout_err ?_
  exact Async.bind_err (site.openBi_closed slot hclosed)

/-! ### connection の取り出しと繋ぎ直し -/

theorem dial_ok : site.upstream.sole.dial site.net (slot, w) = (.ok w.dials, (slot, w.dialed)) := by
  obtain ⟨ip, ips, hips⟩ := site.resolves w
  have hips' : resolveIps site.net site.upstream.host site.upstream.timeout
      site.upstream.resolver.onSnd (slot, w) = (.ok (ip :: ips), (slot, w)) := by
    unfold net
    rw [resolveIps_onSnd]
    exact Async.onSnd_apply hips
  obtain ⟨addr, rest, haddrs⟩ := resolveAddrs_ok site.upstream.port site.upstream.preferIpv6
    (List.cons_ne_nil ip ips) hips'
  exact Async.bind_ok haddrs

/-- 置き場所が空なら、繋いで置く。 -/
theorem acquire_none (req : Message) :
    (site.retry codec req).acquire (none, w)
      = (.ok (w.dials, false), (some w.dials, w.dialed)) := by
  show site.upstream.sole.getConn site.net (none, w) = _
  unfold DoqUpstream.getConn
  exact Async.bind_ok (site.dial_ok _)

theorem renew_ok (req : Message) (conn : Nat) :
    (site.retry codec req).renew conn (slot, w) = (.ok w.dials, (some w.dials, w.dialed)) := by
  show site.upstream.sole.resetConn site.net (slot, w) = _
  unfold DoqUpstream.resetConn
  exact Async.bind_ok (site.dial_ok _)

end

/-! ## 入り混じって走る `exchange` -/

/-- 走っている `exchange` の一つ。`turns` は進めた段の数である。 -/
structure Call where
  req : Message
  phase : Retry.Phase DohError Nat Message
  turns : Nat

structure State where
  slot : Option Nat
  quic : Quic
  calls : List Call

inductive Event where
  /-- `exchange` を始める。 -/
  | call (req : Message)
  /-- `i` 番目の `exchange` を一段進める。 -/
  | turn (i : Nat)
  /-- connection が閉じる。 -/
  | close (conn : Nat) (text : String)

/-- 一つの `exchange` を一段進める。 -/
def turn (s : State) (i : Nat) (c : Call) : State :=
  let (phase, (slot, quic)) := (site.retry codec c.req).step c.phase (s.slot, s.quic)
  { slot, quic, calls := s.calls.set i { c with phase, turns := c.turns + 1 } }

def step (s : State) : Event → Option State
  | .call req => some { s with calls := s.calls ++ [{ req, phase := .start, turns := 0 }] }
  | .turn i => (s.calls[i]?).map (site.turn codec s i)
  | .close conn text =>
    some { s with quic :=
      { s.quic with closed := Function.update s.quic.closed conn (some text) } }

/-- 繋いだばかりの connection `conn` を、これから使うところであること。 -/
def Call.Fresh (conn : Nat) (c : Call) : Prop :=
  c.phase = .first conn false ∨ c.phase = .second conn

/-- 閉じるのは、`exchange` の間に取ってある connection である。 -/
def Closable (s : State) (conn : Nat) : Prop :=
  conn < s.quic.dials ∧ s.quic.closed conn = none ∧ ∀ c ∈ s.calls, ¬ c.Fresh conn

/-- server が正しく答える `exchange` をいくつ、どの順に走らせてもよく、取ってある connection は
いつ閉じてもよい。 -/
def machine : Machine State Event where
  init :=
    { slot := none, quic := { dials := 0, closed := fun _ => none, streams := [] }, calls := [] }
  allowed s
    | .call req => site.server.Answers codec req
    | .turn _ => True
    | .close conn _ => Closable s conn
  step := site.step codec

/-- 要求は一つの frame に収まり、初めに試みる connection が閉じているなら、その理由は再試行に値すること。 -/
def Retryable (codec : Codec) (s : State) : Event → Prop
  | .call req => ∃ b, packFramed codec "doq" (req.setId 0) = .ok b
  | .turn i => ∀ c conn text, s.calls[i]? = some c → c.phase = .first conn true →
      s.quic.closed conn = some text → (DohError.quic text).shouldRetry = true
  | .close _ _ => True

theorem turn_eq {s : State} {i : Nat} {c : Call} {p : Retry.Phase DohError Nat Message}
    {slot : Option Nat} {w : Quic}
    (h : (site.retry codec c.req).step c.phase (s.slot, s.quic) = (p, (slot, w))) :
    site.turn codec s i c = { slot, quic := w,
                              calls := s.calls.set i { c with phase := p, turns := c.turns + 1 } } := by
  unfold turn
  rw [h]

/-- ひとりで四段進めた `exchange` は、`DoqUpstream::exchange` に等しい。 -/
theorem steps_eq_exchange (req : Message) (t : Option Nat × Quic) :
    (site.retry codec req).steps 4 .start t
      = (.done (site.upstream.sole.exchange codec site.net req t).1,
        (site.upstream.sole.exchange codec site.net req t).2) := Retry.finishes_start t

/-! ### 一段で保たれること -/

/-- 繋いだばかりの connection は生きていて、失敗を返すところには来ないこと。 -/
def PhaseOk (w : Quic) : Retry.Phase DohError Nat Message → Prop
  | .start => True
  | .first conn cached => cached = false → w.closed conn = none
  | .renewing _ => True
  | .second conn => w.closed conn = none
  | .discarding _ => False
  | .done result => ∃ resp, result = .ok resp

structure CallOk (w : Quic) (c : Call) : Prop where
  packed : ∃ b, packFramed codec "doq" (c.req.setId 0) = .ok b
  answers : site.server.Answers codec c.req
  rank : c.phase.rank ≤ 4 - c.turns
  phase : PhaseOk w c.phase

structure Inv (s : State) : Prop where
  undialed : ∀ conn, s.quic.dials ≤ conn → s.quic.closed conn = none
  calls : ∀ c ∈ s.calls, site.CallOk codec s.quic c

section

variable {codec site}

/-- 段の可否は、connection が閉じているかどうかだけで決まる。 -/
theorem PhaseOk.congr {w w' : Quic} {p : Retry.Phase DohError Nat Message}
    (hclosed : w'.closed = w.closed) (h : PhaseOk w p) : PhaseOk w' p := by
  cases p with
  | start => trivial
  | first conn cached =>
    unfold PhaseOk
    rw [hclosed]
    exact h
  | renewing conn => trivial
  | second conn =>
    unfold PhaseOk
    rw [hclosed]
    exact h
  | discarding e => exact h
  | done result => exact h

/-- 一段進めた後の段・置き場所・世界。connection は閉じず、増えるだけである。 -/
theorem step_phaseOk (site : DoqSite) (slot : Option Nat) {w : Quic} {req : Message}
    {p : Retry.Phase DohError Nat Message} {b : Bytes}
    (hundialed : ∀ conn, w.dials ≤ conn → w.closed conn = none)
    (hb : packFramed codec "doq" (req.setId 0) = .ok b) (hanswers : site.server.Answers codec req)
    (hp : PhaseOk w p)
    (hretry : ∀ conn text, p = .first conn true → w.closed conn = some text →
      (DohError.quic text).shouldRetry = true) :
    ∃ p' slot' w', (site.retry codec req).step p (slot, w) = (p', (slot', w')) ∧ PhaseOk w' p' ∧
      w.dials ≤ w'.dials ∧ w'.closed = w.closed := by
  have hfresh : w.dialed.closed w.dials = none := hundialed w.dials (Nat.le_refl _)
  cases p with
  | start =>
    cases slot with
    | none =>
      refine ⟨.first w.dials false, some w.dials, w.dialed, ?_, fun _ => hfresh, Nat.le_succ _, rfl⟩
      exact Retry.advance_ok (site.acquire_none req)
    | some conn =>
      have hp' : PhaseOk w (.first conn true) := fun hcached => by cases hcached
      exact ⟨.first conn true, some conn, w, rfl, hp', Nat.le_refl _, rfl⟩
  | first conn cached =>
    cases hclosed : w.closed conn with
    | none =>
      obtain ⟨resp, s, hattempt⟩ := site.attempt_live slot hclosed hb hanswers
      refine ⟨.done (.ok resp), slot, w.opened s, ?_, ⟨resp, rfl⟩, Nat.le_refl _, rfl⟩
      exact Retry.advance_ok (Async.attempt_ok hattempt)
    | some text =>
      have hcached : cached = true := by
        cases cached with
        | true => rfl
        | false =>
          rw [hp rfl] at hclosed
          cases hclosed
      subst hcached
      have hafter : (site.retry codec req).afterFirst conn true (.error (.quic text))
          = .renewing conn := if_pos (hretry conn text rfl hclosed)
      refine ⟨.renewing conn, slot, w, ?_, trivial, Nat.le_refl _, rfl⟩
      rw [← hafter]
      exact Retry.advance_ok (Async.attempt_err (site.attempt_closed slot hclosed hb))
  | renewing conn =>
    refine ⟨.second w.dials, some w.dials, w.dialed, ?_, hfresh, Nat.le_succ _, rfl⟩
    exact Retry.advance_ok (site.renew_ok slot req conn)
  | second conn =>
    obtain ⟨resp, s, hattempt⟩ := site.attempt_live slot hp hb hanswers
    refine ⟨.done (.ok resp), slot, w.opened s, ?_, ⟨resp, rfl⟩, Nat.le_refl _, rfl⟩
    exact Retry.advance_ok hattempt
  | discarding e => exact hp.elim
  | done result => exact ⟨.done result, slot, w, rfl, hp, Nat.le_refl _, rfl⟩

theorem Inv.turn {s : State} {i : Nat} {c : Call} (h : site.Inv codec s) (hc : s.calls[i]? = some c)
    (hretry : ∀ conn text, c.phase = .first conn true → s.quic.closed conn = some text →
      (DohError.quic text).shouldRetry = true) : site.Inv codec (site.turn codec s i c) := by
  have hcall : site.CallOk codec s.quic c := h.calls c (List.mem_of_getElem? hc)
  obtain ⟨b, hb⟩ := hcall.packed
  obtain ⟨p', slot', w', hstep, hp', hdials, hclosed⟩ :=
    site.step_phaseOk s.slot h.undialed hb hcall.answers hcall.phase hretry
  have hrank := (site.retry codec c.req).step_rank c.phase (s.slot, s.quic)
  rw [hstep] at hrank
  rw [turn_eq codec site hstep]
  refine ⟨fun conn hconn => ?_, fun d hd => ?_⟩
  · rw [hclosed]
    exact h.undialed conn (Nat.le_trans hdials hconn)
  · rcases List.mem_or_eq_of_mem_set hd with hold | rfl
    · have hd' := h.calls d hold
      exact ⟨hd'.packed, hd'.answers, hd'.rank, hd'.phase.congr hclosed⟩
    · refine ⟨⟨b, hb⟩, hcall.answers, ?_, hp'⟩
      have := hcall.rank
      dsimp only at hrank ⊢
      omega

theorem Inv.close {s : State} {conn : Nat} (text : String) (h : site.Inv codec s)
    (hclose : Closable s conn) :
    site.Inv codec { s with quic :=
      { s.quic with closed := Function.update s.quic.closed conn (some text) } } := by
  obtain ⟨hlt, -, hfresh⟩ := hclose
  have hother : ∀ c, c ≠ conn → s.quic.closed c = none →
      Function.update s.quic.closed conn (some text) c = none := by
    intro c hne hnone
    rw [Function.update_of_ne hne]
    exact hnone
  refine ⟨fun c hc => hother c (by dsimp only at hc; omega) (h.undialed c hc), fun c hc => ?_⟩
  obtain ⟨hpacked, hanswers, hrank, hphase⟩ := h.calls c hc
  have hnot := hfresh c hc
  refine ⟨hpacked, hanswers, hrank, ?_⟩
  unfold Call.Fresh at hnot
  -- 閉じたのは、繋いだばかりの connection ではない
  cases hp : c.phase with
  | start => trivial
  | first d cached =>
    rw [hp] at hphase hnot
    intro hcached
    refine hother d ?_ (hphase hcached)
    rintro rfl
    exact hnot (Or.inl (by rw [hcached]))
  | renewing d => trivial
  | second d =>
    rw [hp] at hphase hnot
    refine hother d ?_ hphase
    rintro rfl
    exact hnot (Or.inr rfl)
  | discarding e =>
    rw [hp] at hphase
    exact hphase
  | done result =>
    rw [hp] at hphase
    exact hphase

theorem inv_step {s s' : State} {e : Event} (h : site.Inv codec s)
    (hallowed : (site.machine codec).allowed s e) (hcond : Retryable codec s e)
    (he : site.step codec s e = some s') : site.Inv codec s' := by
  cases e with
  | call req =>
    cases he
    refine ⟨h.undialed, fun c hc => ?_⟩
    rcases List.mem_append.mp hc with hold | hnew
    · exact h.calls c hold
    · rw [List.mem_singleton] at hnew
      subst hnew
      exact ⟨hcond, hallowed, Nat.le_refl 4, trivial⟩
  | turn i =>
    have hmap : (s.calls[i]?).map (site.turn codec s i) = some s' := he
    obtain ⟨c, hc, rfl⟩ := Option.map_eq_some_iff.mp hmap
    exact h.turn hc fun conn text => hcond c conn text hc
  | close conn text =>
    cases he
    exact h.close text hallowed

end

end DoqSite

/--
**どの一歩でも条件 `Retryable` が満たされる run では、終わった `exchange` はすべて値を返しており、
四段進めた `exchange` は終わっている。**
-/
theorem doq_calls_succeed (codec : Codec) (site : DoqSite) (s : DoqSite.State)
    (hreach : ((site.machine codec).restrict (DoqSite.Retryable codec)).Reach s) :
    ∀ c ∈ s.calls, (∀ result, c.phase = .done result → ∃ resp, result = .ok resp) ∧
      (4 ≤ c.turns → ∃ resp, c.phase = .done (.ok resp)) := by
  have hinv : site.Inv codec s := by
    refine hreach.invariant ⟨fun _ _ => rfl, fun c hc => by cases hc⟩ ?_
    intro s e s' h hallowed he
    exact DoqSite.inv_step h hallowed.1 hallowed.2 he
  intro c hc
  obtain ⟨-, -, hrank, hphase⟩ := hinv.calls c hc
  constructor
  · intro result hdone
    rw [hdone] at hphase
    exact hphase
  · intro hturns
    obtain ⟨result, hdone⟩ := Retry.Phase.rank_eq_zero (p := c.phase) (by omega)
    rw [hdone] at hphase
    obtain ⟨resp, rfl⟩ := hphase
    exact ⟨resp, hdone⟩

namespace DoqSite

variable {codec : Codec} {req : Message} {b : Bytes}

/-- 一つ目の connection が `text` で閉じた後の世界。 -/
def closedQuic (text : String) (s : QuicStream) : Quic :=
  { dials := 1, closed := Function.update (fun _ => none) 0 (some text), streams := [s] }

/-- 二つ目の `exchange` が、取ってある閉じた connection で試みるところ。 -/
def reusing (req resp : Message) (text : String) (s : QuicStream) : State where
  slot := some 0
  quic := closedQuic text s
  calls := [{ req, phase := .done (.ok resp), turns := 2 },
            { req, phase := .first 0 true, turns := 1 }]

theorem reach_turn {site : DoqSite} {s : State} {i : Nat} {c : Call}
    {p : Retry.Phase DohError Nat Message} {slot : Option Nat} {w : Quic}
    (h : ((site.machine codec).restrict (Retryable codec)).Reach s) (hc : s.calls[i]? = some c)
    (hretry : ∀ conn text, c.phase = .first conn true → s.quic.closed conn = some text →
      (DohError.quic text).shouldRetry = true)
    (hstep : (site.retry codec c.req).step c.phase (s.slot, s.quic) = (p, (slot, w))) :
    ((site.machine codec).restrict (Retryable codec)).Reach
      { slot, quic := w, calls := s.calls.set i { c with phase := p, turns := c.turns + 1 } } := by
  refine h.step (e := .turn i) ⟨trivial, fun d conn text hd => ?_⟩ ?_
  · rw [hc] at hd
    cases hd
    exact hretry conn text
  · show (s.calls[i]?).map (site.turn codec s i) = _
    rw [hc, Option.map_some, turn_eq codec site hstep]

/-- 一つ目の `exchange` が済み、connection が閉じ、二つ目の `exchange` が始まる run。 -/
theorem reach_reusing (site : DoqSite) (hb : packFramed codec "doq" (req.setId 0) = .ok b)
    (hanswers : site.server.Answers codec req) (text : String) :
    ∃ resp s,
      ((site.machine codec).restrict (Retryable codec)).Reach (reusing req resp text s) := by
  let M := (site.machine codec).restrict (Retryable codec)
  let w₀ : Quic := { dials := 0, closed := fun _ => none, streams := [] }
  obtain ⟨resp, s, hattempt⟩ :=
    site.attempt_live (some 0) (rfl : w₀.dialed.closed 0 = none) hb hanswers
  refine ⟨resp, s, ?_⟩
  have hcall : M.Reach { slot := none, quic := w₀,
                         calls := [{ req, phase := .start, turns := 0 }] } :=
    Machine.Reach.init.step (e := .call req) ⟨hanswers, b, hb⟩ rfl
  have hfirst : M.Reach { slot := some 0, quic := w₀.dialed,
                          calls := [{ req, phase := .first 0 false, turns := 1 }] } :=
    reach_turn (i := 0) hcall rfl (fun _ _ hp => by cases hp)
      (Retry.advance_ok (site.acquire_none req))
  have hdone : M.Reach { slot := some 0, quic := w₀.dialed.opened s,
                         calls := [{ req, phase := .done (.ok resp), turns := 2 }] } :=
    reach_turn (i := 0) hfirst rfl (fun _ _ hp => by cases hp)
      (Retry.advance_ok (Async.attempt_ok hattempt))
  have hclosable : Closable { slot := some 0, quic := w₀.dialed.opened s,
                              calls := [{ req, phase := .done (.ok resp), turns := 2 }] } 0 := by
    refine ⟨Nat.one_pos, rfl, fun c hc => ?_⟩
    rw [List.mem_singleton] at hc
    subst hc
    rintro (hp | hp) <;> cases hp
  have hclosed : M.Reach { slot := some 0, quic := closedQuic text s,
                           calls := [{ req, phase := .done (.ok resp), turns := 2 }] } :=
    hdone.step (e := .close 0 text) ⟨hclosable, trivial⟩ rfl
  have hcall' : M.Reach { slot := some 0, quic := closedQuic text s,
                          calls := [{ req, phase := .done (.ok resp), turns := 2 },
                                    { req, phase := .start, turns := 0 }] } :=
    hclosed.step (e := .call req) ⟨hanswers, b, hb⟩ rfl
  exact reach_turn (i := 1) hcall' rfl (fun _ _ hp => by cases hp) rfl

/-- 再試行に値しない理由で閉じた connection では、`exchange` はその失敗を返す。 -/
theorem reach_error (site : DoqSite) (hb : packFramed codec "doq" (req.setId 0) = .ok b)
    (hanswers : site.server.Answers codec req) {text : String}
    (htext : (DohError.quic text).shouldRetry = false) :
    ∃ s, (site.machine codec).Reach s ∧ ∃ c ∈ s.calls, c.phase = .done (.err (.quic text)) := by
  obtain ⟨resp, s, hreach⟩ := reach_reusing site hb hanswers text
  have hclosed : (closedQuic text s).closed 0 = some text := by simp [closedQuic]
  have hstep : (site.retry codec req).step (.first 0 true) (some 0, closedQuic text s)
      = (.discarding (.quic text), (some 0, closedQuic text s)) := by
    have hafter : (site.retry codec req).afterFirst 0 true (.error (.quic text))
        = .discarding (.quic text) := if_neg (by simp [DoqSite.retry, DoqUpstream.retry, htext])
    rw [← hafter]
    exact Retry.advance_ok (Async.attempt_err (site.attempt_closed (some 0) hclosed hb))
  have hdiscarding : (site.machine codec).Reach
      { slot := some 0, quic := closedQuic text s,
        calls := [{ req, phase := .done (.ok resp), turns := 2 },
                  { req, phase := .discarding (.quic text), turns := 2 }] } :=
    hreach.of_restrict.step (e := .turn 1) trivial (congrArg some (turn_eq codec site hstep))
  have hdone : (site.machine codec).Reach
      { slot := none, quic := closedQuic text s,
        calls := [{ req, phase := .done (.ok resp), turns := 2 },
                  { req, phase := .done (.err (.quic text)), turns := 3 }] } :=
    hdiscarding.step (e := .turn 1) trivial rfl
  exact ⟨_, hdone, _, List.mem_cons_of_mem _ List.mem_cons_self, rfl⟩

/-- 再試行に値する理由で閉じた connection では、`exchange` は繋ぎ直し、四段で終わる。 -/
theorem reach_retried (site : DoqSite) (hb : packFramed codec "doq" (req.setId 0) = .ok b)
    (hanswers : site.server.Answers codec req) {text : String}
    (htext : (DohError.quic text).shouldRetry = true) :
    ∃ s, ((site.machine codec).restrict (Retryable codec)).Reach s ∧
      ∃ c ∈ s.calls, c.turns = 4 := by
  obtain ⟨resp, s, hreach⟩ := reach_reusing site hb hanswers text
  let w := closedQuic text s
  have hclosed : w.closed 0 = some text := by simp [w, closedQuic]
  have hlive : w.dialed.closed 1 = none := by simp [w, closedQuic, Quic.dialed]
  have hafter : (site.retry codec req).afterFirst 0 true (.error (.quic text)) = .renewing 0 :=
    if_pos htext
  have hstep : (site.retry codec req).step (.first 0 true) (some 0, w)
      = (.renewing 0, (some 0, w)) := by
    rw [← hafter]
    exact Retry.advance_ok (Async.attempt_err (site.attempt_closed (some 0) hclosed hb))
  have hretry : ∀ conn text', Retry.Phase.first 0 true = (.first conn true :
      Retry.Phase DohError Nat Message) → w.closed conn = some text' →
        (DohError.quic text').shouldRetry = true := by
    intro conn text' hconn hconn'
    cases hconn
    rw [hclosed] at hconn'
    cases hconn'
    exact htext
  have hrenewing := reach_turn (i := 1) hreach rfl hretry hstep
  have hsecond := reach_turn (i := 1) hrenewing rfl (fun _ _ hp => by cases hp)
    (Retry.advance_ok (site.renew_ok (some 0) req 0))
  obtain ⟨resp', s', hattempt⟩ := site.attempt_live (some 1) hlive hb hanswers
  have hdone := reach_turn (i := 1) hsecond rfl (fun _ _ hp => by cases hp)
    (Retry.advance_ok hattempt)
  exact ⟨_, hdone, _, List.mem_cons_of_mem _ List.mem_cons_self, rfl⟩

end DoqSite

/-- どの query にも `a.` の A の応答を返す server と、名前を引ける upstream。 -/
def sampleSite : DoqSite where
  server := { serve := fun _ _ => wireA 0 0x80, framed := fun _ _ => by decide }
  std := StdText.none
  upstream := sampleDoq Quic
  resolves _ := ⟨.v4 0x7F000001, [], rfl⟩

theorem sampleSite_answers : sampleSite.server.Answers zeroIdCodec queryA := by
  intro n b _
  have hdecode : decodeResponse zeroIdCodec (validateResponse zeroIdCodec queryA) (wireA 0 0x80)
      queryA.metadata.id = .ok (zeroIdReply.setId 1) := by decide
  exact ⟨zeroIdReply.setId 1, hdecode⟩

theorem doq_call_retried :
    ∃ s, ((sampleSite.machine zeroIdCodec).restrict (DoqSite.Retryable zeroIdCodec)).Reach s ∧
      ∃ c ∈ s.calls, ∃ resp, c.phase = .done (.ok resp) := by
  have hb : packFramed zeroIdCodec "doq" (queryA.setId 0) = .ok (wireA 0 0) := rfl
  have htext : (DohError.quic "closed by peer: retry later").shouldRetry = true := by decide
  obtain ⟨s, hs, c, hc, hturns⟩ := DoqSite.reach_retried sampleSite hb sampleSite_answers htext
  exact ⟨s, hs, c, hc, (doq_calls_succeed zeroIdCodec sampleSite s hs c hc).2 (by omega)⟩

/-- `timed out` で閉じた connection を使った `exchange` は、繋ぎ直さずに失敗を返す。 -/
theorem doq_timed_out_call_fails :
    ¬ ∀ s, (sampleSite.machine zeroIdCodec).Reach s →
      ∀ c ∈ s.calls, ∀ result, c.phase = .done result → ∃ resp, result = .ok resp := by
  intro hall
  have hb : packFramed zeroIdCodec "doq" (queryA.setId 0) = .ok (wireA 0 0) := rfl
  have htext : (DohError.quic "timed out").shouldRetry = false := by decide
  obtain ⟨s, hs, c, hc, hdone⟩ := DoqSite.reach_error sampleSite hb sampleSite_answers htext
  obtain ⟨resp, hresp⟩ := hall s hs c hc _ hdone
  cases hresp

end DnsProxy
