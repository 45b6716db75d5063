import DnsProxy.Listener.Doq
import DnsProxy.Properties.TcpStream

/-!
# stream で繋いだ client と listener

plain TCP・DoT・DoQ の client と、この repository の listener を、byte を落とさない接続で繋ぐ。
届く byte 列は、どちらの向きでも、どこで断片に切れていてもよい。

client の `exchange` が値を返すのは、要求と応答が 65535 byte までに書けて、handler が応答を返し、
その question が要求に合うとき、かつそのときに限る。返るのはその応答そのもので、handler は
ちょうど一度呼ばれる。handler が待ち続けないかぎり、client が待ち続けることも無い。
-/

namespace DnsProxy

open Infra

variable {S : Type}

/-! ## 接続 -/

/-- byte 列の切り方。 -/
structure Chopping where
  cut : Bytes → List Bytes
  flatten_cut : ∀ b, (cut b).flatten = b

/-- 切らない。 -/
def Chopping.whole : Chopping where
  cut b := [b]
  flatten_cut b := by simp

/-- client の側から見た接続。 -/
structure StreamLink where
  sent : Bytes
  /-- 相手の書き戻したもの。読み始めるまでは無い。 -/
  back : Option TcpStream

def StreamLink.fresh : StreamLink := { sent := [], back := none }

/-- 届いた byte 列に応じて、書き戻す相手。 -/
abbrev Peer (S : Type) := Bytes → S → TcpStream × S

/-- client が読み始めると、相手は書かれたものに応じて動く。 -/
def StreamLink.readExact (peer : Peer S) (n : Nat) : Op (StreamLink × S) String (Block n) := fun t =>
  let conn : TcpStream × S :=
    match t.1.back with
    | some c => (c, t.2)
    | none => peer t.1.sent t.2
  let r := TcpStream.readExact n conn
  (r.1, ({ t.1 with back := some r.2.1 }, r.2.2))

/-- 繋げば相手のいる世界。接続のほかは `base` の世界である。 -/
def peerNet (peer : Peer S) (base : Net S) : Net (StreamLink × S) :=
  { base.onSnd with
    tcpConnect := fun _ t => (.ok 0, (.fresh, t.2))
    tlsConnect := fun _ _ tcp t => (.ok tcp, t)
    dialQuic := fun _ _ _ t => (.ok 0, t)
    quicOpenBi := fun _ t => (.ok 0, (.fresh, t.2))
    quicFinish := fun _ t => (.ok (), t)
    writeAll := fun _ b t => (.ok (), ({ t.1 with sent := t.1.sent ++ b }, t.2))
    readExact := fun _ n => StreamLink.readExact peer n }

/-! ## listener を相手に置く -/

/-- 終わった接続は閉じる。待っている接続は開いたままである。 -/
def closing : Outcome DohError Unit → Reply String Unit
  | .pending => .pending
  | _ => .ok ()

theorem closing_ne_err (r : Outcome DohError Unit) (e : String) : closing r ≠ .err e := by
  cases r <;> simp [closing]

section

variable (codec : Codec) (base : Net S) (chop : Chopping) (handler : Handler S)

/-- `listener/io.rs` の TCP の listener。 -/
def tcpPeer : Peer S := fun sent s =>
  let r := handleTcpConnection codec (connNet base) 0 handler.onSnd ((frames sent).length + 1)
    (TcpStream.of (chop.cut sent) .pending, s)
  (TcpStream.of (chop.cut r.2.1.written) (closing r.1), r.2.2)

/-- `listener/dot.rs` の listener。handshake は済む。 -/
def dotPeer : Peer S := fun sent s =>
  let r := handleDotConnection codec (connNet base) (fun tcp t => (.ok tcp, t)) 0 handler.onSnd
    ((frames sent).length + 1) (TcpStream.of (chop.cut sent) .pending, s)
  (TcpStream.of (chop.cut r.2.1.written) (closing r.1), r.2.2)

/-- QUIC の stream。書き終えることもできる。 -/
def doqConnNet : Net (TcpStream × S) :=
  { connNet base with quicFinish := fun _ t => (.ok (), t) }

/-- `listener/doq.rs` の listener。client は要求を書き終えている。応答を client が読み終えるのを、
いつまでも待つことがある。 -/
def doqPeer (stopped : Reply Empty Unit) : Peer S := fun sent s =>
  let r := handleStream codec (doqConnNet base) (fun _ t => (stopped, t)) 0 handler.onSnd
    (TcpStream.of (chop.cut sent) (.ok ()), s)
  (TcpStream.of (chop.cut r.2.1.written) (closing r.1), r.2.2)

end

/-! ## frame を一つ読む -/

/-- 長さを読み、その長さの本文を読む。 -/
def readFrame {W ε : Type} (f : String → ε) (read : (n : Nat) → Op W String (Block n)) :
    Async W ε Bytes := do
  let len ← Async.call f (read 2)
  let buf ← Async.call f (read len.be16.toNat)
  pure buf.1

/-- 読み切れずに終わるときの結果。 -/
def TcpStream.stopped {ε : Type} (f : String → ε) (c : TcpStream) : Outcome ε Bytes :=
  match c.ending with
  | .ok _ => .err (f "early eof")
  | .err e => .err (f e)
  | .pending => .pending

section

variable {W ε : Type} {f : String → ε} {read : (n : Nat) → Op W String (Block n)}
  {wrap : TcpStream → S → W}

/-- `read` は、`wrap` で包んだ接続を読む。 -/
def ReadsFrom (read : (n : Nat) → Op W String (Block n)) (wrap : TcpStream → S → W) : Prop :=
  ∀ n c s, read n (wrap c s)
    = ((TcpStream.readExact n (c, s)).1,
        wrap (TcpStream.readExact n (c, s)).2.1 (TcpStream.readExact n (c, s)).2.2)

theorem ReadsFrom.ok (h : ReadsFrom read wrap) {n : Nat} {c : TcpStream} {b : Block n}
    {bytes : Bytes} (hc : c.incoming.flatten = b.1 ++ bytes) (s : S) :
    ∃ incoming, Async.call f (read n) (wrap c s) = (.ok b, wrap { c with incoming } s) ∧
      incoming.flatten = bytes := by
  obtain ⟨rest, hread, hrest⟩ := readBlock_append hc
  refine ⟨rest, Async.call_ok ?_, hrest⟩
  rw [h]
  unfold TcpStream.readExact
  dsimp only
  rw [hread]

theorem ReadsFrom.short (h : ReadsFrom read wrap) {n : Nat} {c : TcpStream}
    (hc : c.incoming.flatten.length < n) (s : S) :
    (∃ e, c.stopped f = .err e ∧
      Async.call f (read n) (wrap c s) = (.err e, wrap { c with incoming := [] } s)) ∨
    (c.stopped f = .pending ∧
      Async.call f (read n) (wrap c s) = (.pending, wrap { c with incoming := [] } s)) := by
  have hop : read n (wrap c s) = (c.stop, wrap { c with incoming := [] } s) := by
    rw [h]
    unfold TcpStream.readExact
    dsimp only
    rw [readBlock_none hc]
  unfold TcpStream.stop at hop
  unfold TcpStream.stopped
  cases hend : c.ending with
  | ok u =>
    rw [hend] at hop
    exact Or.inl ⟨_, rfl, Async.call_err hop⟩
  | err e =>
    rw [hend] at hop
    exact Or.inl ⟨_, rfl, Async.call_err hop⟩
  | pending =>
    rw [hend] at hop
    exact Or.inr ⟨rfl, Async.call_pending hop⟩

/-- 揃った frame があれば、先頭のものを読む。 -/
theorem readFrame_ok (h : ReadsFrom read wrap) {c : TcpStream} {packet : Bytes}
    {rest : List Bytes} (hc : frames c.incoming.flatten = packet :: rest) (s : S) :
    ∃ incoming, readFrame f read (wrap c s) = (.ok packet, wrap { c with incoming } s) ∧
      frames incoming.flatten = rest := by
  match hflat : c.incoming.flatten with
  | [] => rw [hflat, frames_short (by simp)] at hc; cases hc
  | [x] => rw [hflat, frames_short (by simp)] at hc; cases hc
  | hi :: lo :: bytes =>
    rw [hflat] at hc
    by_cases hle : (Bytes.ofBe16 hi lo).toNat ≤ bytes.length
    · rw [frames_cons hle] at hc
      cases hc
      let len : Block 2 := ⟨[hi, lo], rfl⟩
      let body : Block len.be16.toNat :=
        ⟨bytes.take (Bytes.ofBe16 hi lo).toNat, List.length_take_of_le hle⟩
      obtain ⟨inc₁, hread₁, hinc₁⟩ := h.ok (f := f) (b := len) hflat s
      obtain ⟨inc₂, hread₂, hinc₂⟩ := h.ok (f := f) (c := { c with incoming := inc₁ })
        (b := body) (hinc₁.trans (List.take_append_drop _ _).symm) s
      refine ⟨inc₂, ?_, by rw [hinc₂]⟩
      unfold readFrame
      rw [Async.bind_ok hread₁, Async.bind_ok hread₂]
      rfl
    · rw [frames_cut (by omega)] at hc
      cases hc

/-- 揃った frame が無ければ、読み切れずに終わる。 -/
theorem readFrame_stopped (h : ReadsFrom read wrap) {c : TcpStream}
    (hc : frames c.incoming.flatten = []) (s : S) :
    ∃ incoming, readFrame f read (wrap c s) = (c.stopped f, wrap { c with incoming } s) := by
  -- 足りないところで読むのをやめる
  have hstop : ∀ {n : Nat} {inc : List Bytes} (k : Block n → Async W _ Bytes),
      inc.flatten.length < n →
      (Async.call f (read n) >>= k) (wrap { c with incoming := inc } s)
        = (c.stopped f, wrap { c with incoming := [] } s) := by
    intro n inc k hlen
    rcases h.short (f := f) (c := { c with incoming := inc }) hlen s with ⟨e, hs, hcall⟩ | ⟨hs, hcall⟩
    · rw [Async.bind_err hcall, ← hs]
      rfl
    · rw [Async.bind_pending hcall, ← hs]
      rfl
  unfold readFrame
  match hflat : c.incoming.flatten with
  | [] => exact ⟨[], hstop _ (by rw [hflat]; simp)⟩
  | [x] => exact ⟨[], hstop _ (by rw [hflat]; simp)⟩
  | hi :: lo :: bytes =>
    rw [hflat] at hc
    by_cases hle : (Bytes.ofBe16 hi lo).toNat ≤ bytes.length
    · rw [frames_cons hle] at hc
      cases hc
    · let len : Block 2 := ⟨[hi, lo], rfl⟩
      obtain ⟨inc, hread, hinc⟩ := h.ok (f := f) (b := len) hflat s
      have hshort : inc.flatten.length < len.be16.toNat := by
        show inc.flatten.length < (Bytes.ofBe16 hi lo).toNat
        rw [hinc]
        omega
      rw [Async.bind_ok hread]
      exact ⟨[], hstop _ hshort⟩

end

/-! ## 一つの要求と、その応答 -/

/-- 相手の書き戻すもの。長さの 2 byte に収まらない応答は書かれない。 -/
def replyBytes : Outcome DohError Bytes → Bytes
  | .ok b => if b.length ≤ 65535 then withLength b else []
  | _ => []

/-- 相手は、要求 `packet` に `out` で応じる。 -/
structure Replies (peer : Peer S) (packet : Bytes) (s : S) (out : Outcome DohError Bytes × S) :
    Prop where
  state : (peer (withLength packet) s).2 = out.2
  bytes : (peer (withLength packet) s).1.incoming.flatten = replyBytes out.1
  notBroken : ∀ e, (peer (withLength packet) s).1.ending ≠ .err e
  /-- 応じなかったのに開いたままなのは、待ち続けているときだけである。 -/
  ending : (peer (withLength packet) s).1.ending = .pending → replyBytes out.1 = [] →
    out.1 = .pending

/-- client は、相手の応じたものを受け取る。読めないのは、閉じられるか、相手が待ち続けるときである。 -/
structure Relays (f : String → DohError) (r : Outcome DohError Bytes × (StreamLink × S))
    (out : Outcome DohError Bytes × S) : Prop where
  state : r.2.2 = out.2
  ok : ∀ b, r.1 = .ok b ↔ out.1 = .ok b ∧ b.length ≤ 65535
  err : ∀ e, r.1 = .err e → e = f "early eof"
  pending : r.1 = .pending → out.1 = .pending
  notPanic : r.1 ≠ .panic

theorem replyBytes_small {b : Bytes} (h : b.length ≤ 65535) : replyBytes (.ok b) = withLength b :=
  if_pos h

theorem replyBytes_large {b : Bytes} (h : ¬ b.length ≤ 65535) : replyBytes (.ok b) = [] := if_neg h

theorem frames_withLength {b : Bytes} (h : b.length ≤ 65535) : frames (withLength b) = [b] := by
  rw [← List.append_nil (withLength b), frames_withLength_append h, frames_short (by simp)]

theorem replyBytes_ok {b : Bytes} (h : b.length ≤ 65535) :
    frames (replyBytes (.ok b)) = [b] := by
  rw [replyBytes_small h, frames_withLength h]

/-- 応じなければ、何も書き戻されない。 -/
theorem replyBytes_eq_nil {out : Outcome DohError Bytes}
    (h : ¬ ∃ b, out = .ok b ∧ b.length ≤ 65535) : replyBytes out = [] := by
  cases out with
  | ok b => exact replyBytes_large fun hb => h ⟨b, rfl, hb⟩
  | err e => rfl
  | pending => rfl
  | panic => rfl

/-- **書いた要求に相手が応じれば、client はその応答を読む。** -/
theorem Replies.relays {peer : Peer S} {packet : Bytes} {s : S} {out : Outcome DohError Bytes × S}
    (h : Replies peer packet s out) (f : String → DohError) :
    Relays f
      (readFrame f (StreamLink.readExact peer) ({ sent := withLength packet, back := none }, s))
      out := by
  let c := (peer (withLength packet) s).1
  have hreads : ReadsFrom (StreamLink.readExact peer)
      (fun c s => (({ sent := withLength packet, back := some c } : StreamLink), s)) :=
    fun n c s => rfl
  -- 読み始めると相手が動くので、書き戻された後の接続から読むのと同じである
  have hstart : readFrame f (StreamLink.readExact peer)
      ({ sent := withLength packet, back := none }, s)
      = readFrame f (StreamLink.readExact peer)
          ({ sent := withLength packet, back := some c }, out.2) := by
    rw [← h.state]
    rfl
  rw [hstart]
  by_cases hok : ∃ b, out.1 = .ok b ∧ b.length ≤ 65535
  · obtain ⟨b, hout, hlen⟩ := hok
    have hframes : frames c.incoming.flatten = [b] := by
      rw [h.bytes, hout, replyBytes_ok hlen]
    obtain ⟨inc, hread, -⟩ := readFrame_ok (f := f) hreads hframes out.2
    rw [hread]
    refine ⟨rfl, fun b' => ?_, fun e he => (by cases he), fun hp => (by cases hp), fun hp => by cases hp⟩
    rw [hout]
    constructor
    · intro heq
      cases heq
      exact ⟨rfl, hlen⟩
    · rintro ⟨heq, -⟩
      exact heq
  · have hnil : replyBytes out.1 = [] := replyBytes_eq_nil hok
    have hframes : frames c.incoming.flatten = [] := by
      rw [h.bytes, hnil, frames_short (by simp)]
    obtain ⟨inc, hread⟩ := readFrame_stopped (f := f) hreads hframes out.2
    rw [hread]
    have hstopped : c.stopped f = .err (f "early eof") ∨ c.stopped f = .pending ∧ out.1 = .pending := by
      unfold TcpStream.stopped
      cases hend : c.ending with
      | ok u => exact Or.inl rfl
      | err e => exact absurd hend (h.notBroken e)
      | pending => exact Or.inr ⟨rfl, h.ending hend hnil⟩
    have hnone : ∀ b, ¬ (out.1 = .ok b ∧ b.length ≤ 65535) := fun b hb => hok ⟨b, hb⟩
    rcases hstopped with hs | ⟨hs, hp⟩
    · rw [hs]
      refine ⟨rfl, fun b => by simp [hnone b], fun e he => ?_, by simp, by simp⟩
      cases he
      rfl
    · rw [hs]
      exact ⟨rfl, fun b => by simp [hnone b], by simp, fun _ => hp, by simp⟩

/-! ## TCP と DoT の listener -/

section

variable {codec : Codec} {base : Net S} {chop : Chopping} {handler : Handler S} {packet : Bytes}

theorem readsFrom_conn (base : Net S) (stream : Nat) :
    ReadsFrom ((connNet base).readExact stream) (fun c s => (c, s)) := fun _ _ _ => rfl

variable (base) in
/-- 一つの要求だけが届く接続の loop。 -/
theorem tcpLoop_one (answer : Bytes → Async S DohError Bytes) {c : TcpStream} (s : S)
    (hframes : frames c.incoming.flatten = [packet]) (hend : c.ending = .pending) :
    let r := tcpLoop (connNet base) 0 (fun p => (answer p).onSnd) 2 (c, s)
    r.2.2 = (answer packet s).2 ∧ r.2.1.written = c.written ++ replyBytes (answer packet s).1 ∧
      (closing r.1 = .pending → replyBytes (answer packet s).1 = [] →
        (answer packet s).1 = .pending) := by
  obtain ⟨inc, hread, hinc⟩ := readFrame_ok (f := DohError.io) (readsFrom_conn base 0) hframes s
  have hread : readPrefixed (connNet base) 0 (c, s) = _ := hread
  dsimp only
  rw [tcpLoop, Async.bind_ok (Async.attempt_ok hread)]
  dsimp only
  cases hans : answer packet s with
  | mk out s' =>
    have hcall : (answer packet).onSnd (({ c with incoming := inc } : TcpStream), s)
        = (out, (({ c with incoming := inc } : TcpStream), s')) := Async.onSnd_apply hans
    cases out with
    | ok b =>
      rw [Async.bind_ok hcall]
      by_cases hlen : b.length ≤ 65535
      · have hwrite : writePrefixed (connNet base) 0 b ({ c with incoming := inc }, s')
            = (.ok (), ({ c with incoming := inc, written := c.written ++ withLength b }, s')) := by
          unfold writePrefixed withLength
          rw [if_neg (by omega), ← List.append_assoc]
          rfl
        -- 次の要求は届かないので、待ったままになる
        obtain ⟨inc', hwait⟩ := readFrame_stopped (f := DohError.io) (readsFrom_conn base 0)
          (c := { c with incoming := inc, written := c.written ++ withLength b }) hinc s'
        have hwait : readPrefixed (connNet base) 0
            ({ c with incoming := inc, written := c.written ++ withLength b }, s') = _ := hwait
        have hpending : TcpStream.stopped DohError.io
            { c with incoming := inc, written := c.written ++ withLength b } = .pending := by
          unfold TcpStream.stopped
          dsimp only
          rw [hend]
        have hattempt : (readPrefixed (connNet base) 0).attempt
            ({ c with incoming := inc, written := c.written ++ withLength b }, s')
            = (.pending, ({ c with incoming := inc', written := c.written ++ withLength b }, s')) := by
          unfold Async.attempt
          rw [hwait, hpending]
        rw [Async.bind_ok hwrite, tcpLoop, Async.bind_pending hattempt]
        refine ⟨rfl, by rw [replyBytes_small hlen], fun _ hnil => ?_⟩
        rw [replyBytes_small hlen] at hnil
        cases hnil
      · have hwrite : writePrefixed (connNet base) 0 b ({ c with incoming := inc }, s')
            = (.err (.pack "response too large for 2-byte length prefix"),
                ({ c with incoming := inc }, s')) := by
          unfold writePrefixed
          rw [if_pos (by omega)]
          rfl
        rw [Async.bind_err hwrite]
        exact ⟨rfl, by rw [replyBytes_large hlen, List.append_nil], fun hp => by cases hp⟩
    | err e =>
      rw [Async.bind_err hcall]
      exact ⟨rfl, (List.append_nil _).symm, fun hp => by cases hp⟩
    | pending =>
      rw [Async.bind_pending hcall]
      exact ⟨rfl, (List.append_nil _).symm, fun _ _ => rfl⟩
    | panic =>
      rw [Async.bind_apply, hcall]
      exact ⟨rfl, (List.append_nil _).symm, fun hp => by cases hp⟩

/-- client の書いた要求は、どう切れて届いても一つの frame である。 -/
theorem frames_chopped (chop : Chopping) (h : packet.length ≤ 65535) :
    frames (chop.cut (withLength packet)).flatten = [packet] := by
  rw [chop.flatten_cut, frames_withLength h]

/-- 要求と応答の loop だけの相手。 -/
def loopPeer (base : Net S) (chop : Chopping) (answer : Bytes → Async S DohError Bytes) : Peer S :=
  fun sent s =>
    let r := tcpLoop (connNet base) 0 (fun p => (answer p).onSnd) ((frames sent).length + 1)
      (TcpStream.of (chop.cut sent) .pending, s)
    (TcpStream.of (chop.cut r.2.1.written) (closing r.1), r.2.2)

theorem replies_loopPeer (answer : Bytes → Async S DohError Bytes) (h : packet.length ≤ 65535)
    (s : S) : Replies (loopPeer base chop answer) packet s (answer packet s) := by
  have hlen : (frames (withLength packet)).length + 1 = 2 := by
    rw [frames_withLength h]
    rfl
  obtain ⟨hstate, hwritten, hending⟩ := tcpLoop_one base answer
    (c := TcpStream.of (chop.cut (withLength packet)) .pending) s (frames_chopped chop h) rfl
  constructor
  · unfold loopPeer
    rw [hlen]
    exact hstate
  · unfold loopPeer
    rw [hlen]
    exact (chop.flatten_cut _).trans hwritten
  · exact closing_ne_err _
  · unfold loopPeer
    rw [hlen]
    exact hending

theorem tcpPeer_eq :
    tcpPeer codec base chop handler = loopPeer base chop (answerTcp codec handler) := by
  have hanswer : answerTcp codec handler.onSnd
      = fun p => ((answerTcp codec handler p).onSnd : Async (TcpStream × S) DohError Bytes) := by
    funext p
    unfold answerTcp
    simp only [Async.onSnd_bind]
    rfl
  unfold tcpPeer handleTcpConnection loopPeer
  rw [hanswer]

theorem dotPeer_eq :
    dotPeer codec base chop handler = loopPeer base chop (answerDot codec handler) := by
  have hanswer : answerDot codec handler.onSnd
      = fun p => ((answerDot codec handler p).onSnd : Async (TcpStream × S) DohError Bytes) := by
    funext p
    unfold answerDot
    simp only [Async.onSnd_bind]
    rfl
  unfold dotPeer handleDotConnection loopPeer
  rw [hanswer]
  rfl

end

/-! ## DoQ の listener -/

section

variable {codec : Codec} {base : Net S} {chop : Chopping} {handler : Handler S} {packet : Bytes}

/-- 長さの 2 byte は 65535 を超えない。 -/
theorem quicFrame_eq {W α : Type} (read : (n : Nat) → Op W String (Block n)) (what : String)
    (k : Bytes → Async W DohError α) :
    (Async.call DohError.quic (read 2) >>= fun lenBuf =>
      if lenBuf.be16.toNat > 65535 then Async.throw (.invalidResponse what)
      else Async.call DohError.quic (read lenBuf.be16.toNat) >>= fun buf => k buf.1)
      = readFrame DohError.quic read >>= k := by
  unfold readFrame
  rw [Async.bind_assoc]
  refine congrArg _ (funext fun lenBuf => ?_)
  have hlt := lenBuf.be16.toNat_lt
  rw [if_neg (by omega), Async.bind_assoc]
  rfl

/-- 要求に答えた後。 -/
def writeStream (base : Net S) (stopped : Reply Empty Unit) (bytes : Bytes) :
    Async (TcpStream × S) DohError Unit :=
  if bytes.length > 65535 then Async.throw (.pack "response too large for doq framing")
  else do
    quicOp ((doqConnNet base).writeAll 0 (Bytes.toBe16 (UInt16.ofNat bytes.length)))
    quicOp ((doqConnNet base).writeAll 0 bytes)
    quicOp ((doqConnNet base).quicFinish 0)
    Async.call (fun e => nomatch e) fun t => (stopped, t)

theorem handleStream_eq (stopped : Reply Empty Unit) :
    handleStream codec (doqConnNet base) (fun _ t => (stopped, t)) 0 handler.onSnd
      = readFrame DohError.quic ((doqConnNet base).readExact 0) >>= fun packet =>
          (answerDoq codec handler packet).onSnd >>= writeStream base stopped := by
  have hanswer : ∀ p, answerDoq codec handler.onSnd p
      = ((answerDoq codec handler p).onSnd : Async (TcpStream × S) DohError Bytes) := by
    intro p
    unfold answerDoq
    rw [Async.onSnd_bind]
    refine congrArg _ (funext fun req => ?_)
    split
    · rfl
    · rw [Async.onSnd_bind]
      rfl
  rw [← quicFrame_eq _ "request too large"]
  unfold handleStream
  simp only [hanswer]
  rfl

variable (base) in
/-- 応答は、65535 byte までなら長さを付けて書かれる。 -/
theorem writeStream_apply (stopped : Reply Empty Unit) (b : Bytes) (t : TcpStream × S) :
    (writeStream base stopped b t).2
      = ({ t.1 with written := t.1.written ++ replyBytes (.ok b) }, t.2) ∧
    (¬ b.length ≤ 65535 → closing (writeStream base stopped b t).1 = .ok ()) := by
  by_cases hlen : b.length ≤ 65535
  · refine ⟨?_, fun h => absurd hlen h⟩
    rw [replyBytes_small hlen]
    unfold writeStream withLength
    rw [if_neg (by omega), ← List.append_assoc]
    cases stopped with
    | ok u => rfl
    | err e => exact nomatch e
    | pending => rfl
  · rw [replyBytes_large hlen, List.append_nil]
    unfold writeStream
    rw [if_pos (by omega)]
    exact ⟨rfl, fun _ => rfl⟩

theorem replies_doqPeer (stopped : Reply Empty Unit) (h : packet.length ≤ 65535) (s : S) :
    Replies (doqPeer codec base chop handler stopped) packet s (answerDoq codec handler packet s) := by
  let c := TcpStream.of (chop.cut (withLength packet)) (.ok ())
  have hreads : ReadsFrom ((doqConnNet base).readExact 0) (fun (c : TcpStream) (s : S) => (c, s)) :=
    fun _ _ _ => rfl
  obtain ⟨inc, hread, -⟩ := readFrame_ok (f := DohError.quic) hreads (c := c)
    (frames_chopped chop h) s
  have hrun : handleStream codec (doqConnNet base) (fun _ t => (stopped, t)) 0 handler.onSnd (c, s)
      = ((answerDoq codec handler packet).onSnd >>= writeStream base stopped)
          ({ c with incoming := inc }, s) := by
    rw [handleStream_eq, Async.bind_ok hread]
  suffices hspec : ∀ r, handleStream codec (doqConnNet base) (fun _ t => (stopped, t)) 0
      handler.onSnd (c, s) = r → r.2.2 = (answerDoq codec handler packet s).2 ∧
        r.2.1.written = replyBytes (answerDoq codec handler packet s).1 ∧
        (closing r.1 = .pending → replyBytes (answerDoq codec handler packet s).1 = [] →
          (answerDoq codec handler packet s).1 = .pending) by
    obtain ⟨hstate, hwritten, hending⟩ := hspec _ rfl
    exact ⟨hstate, (chop.flatten_cut _).trans hwritten, closing_ne_err _, hending⟩
  rintro r rfl
  rw [hrun]
  cases hans : answerDoq codec handler packet s with
  | mk out s' =>
    have hcall : (answerDoq codec handler packet).onSnd (({ c with incoming := inc } : TcpStream), s)
        = (out, (({ c with incoming := inc } : TcpStream), s')) := Async.onSnd_apply hans
    cases out with
    | ok b =>
      obtain ⟨hwrite, hlong⟩ := writeStream_apply base stopped b
        (({ c with incoming := inc } : TcpStream), s')
      rw [Async.bind_ok hcall, hwrite]
      refine ⟨rfl, List.nil_append _, fun hp hnil => ?_⟩
      by_cases hlen : b.length ≤ 65535
      · rw [replyBytes_small hlen] at hnil
        cases hnil
      · rw [hlong hlen] at hp
        cases hp
    | err e =>
      rw [Async.bind_err hcall]
      exact ⟨rfl, rfl, fun hp => by cases hp⟩
    | pending =>
      rw [Async.bind_pending hcall]
      exact ⟨rfl, rfl, fun _ _ => rfl⟩
    | panic =>
      rw [Async.bind_apply, hcall]
      exact ⟨rfl, rfl, fun hp => by cases hp⟩

end

end DnsProxy
