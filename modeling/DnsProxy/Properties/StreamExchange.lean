import DnsProxy.Properties.DohWire
import DnsProxy.Properties.StreamLink

/-!
# stream の往復

`StreamLink` の接続の両端に、この repository の client と listener を置く。

client の `exchange` が値を返すのは、要求と応答が 65535 byte までに書けて、handler が応答を返し、
その question が要求に合うとき、かつそのときに限る。plain TCP と DoT では応答がそのまま返り、
DoQ では handler に ID を 0 にした要求が渡って、応答の ID は要求のものに戻る。

handler はちょうど一度呼ばれ、handler が待ち続けないかぎり client が待ち続けることも無い。
-/

namespace DnsProxy

open Infra

variable {S : Type}

/-! ## 線の上の message -/

/-- 65535 byte までに書ける。 -/
def Framable (codec : Codec) (m : Message) : Prop :=
  ∃ b, codec.toBytes m = .ok b ∧ b.length ≤ 65535

/-- 線の上の形。 -/
def onWire (zeroId : Bool) (m : Message) : Message := if zeroId then m.setId 0 else m

/-- 要求の ID に戻した応答。 -/
def restored (zeroId : Bool) (req m : Message) : Message :=
  if zeroId then m.setId req.metadata.id else m

/-- 要求も、相手の handler の返す応答も、線の上の形がそのまま読み戻される。 -/
structure ReadsBack (codec : Codec) (handler : Handler S) (zeroId : Bool) (req : Message) (s : S) :
    Prop where
  request : codec.RoundTrips (onWire zeroId req)
  response : ∀ m, (handler (onWire zeroId req) s).1 = .ok m → codec.RoundTrips (onWire zeroId m)

/--
`exchange` の結果 `r` が、相手の handler の答えを伝えること。

`t` は始まりの状態、`s` は繋がったときの相手の状態である。
-/
structure Conducts (codec : Codec) (handler : Handler S) (zeroId : Bool) (req : Message)
    (t : StreamLink × S) (s : S) (r : Outcome DohError Message × (StreamLink × S)) : Prop where
  /-- 値が返るのは、handler の応答が線に載って、要求に合うときに限る。 -/
  ok : ∀ resp, r.1 = .ok resp ↔ Framable codec (onWire zeroId req) ∧
    ∃ m, (handler (onWire zeroId req) s).1 = .ok m ∧ Framable codec (onWire zeroId m) ∧
      MatchesQuestion req m ∧ resp = restored zeroId req m
  /-- 送れる要求では、handler はちょうど一度呼ばれる。 -/
  once : Framable codec (onWire zeroId req) → r.2.2 = (handler (onWire zeroId req) s).2
  /-- 送れない要求では、何も起きない。 -/
  unsent : ¬ Framable codec (onWire zeroId req) → ∃ e, r = (.err e, t)
  waits : r.1 = .pending → (handler (onWire zeroId req) s).1 = .pending

section

variable {codec : Codec} {base : Net S} {handler : Handler S}

/-! ## 書いて、読む -/

theorem packFramed_ok {framing : String} {req : Message} {p : Bytes}
    (hp : codec.toBytes req = .ok p) (hlen : p.length ≤ 65535) :
    packFramed codec framing req = .ok p := by
  unfold packFramed
  rw [pack_ok hp, Outcome.ok_bind, if_neg (by omega)]
  rfl

theorem packFramed_err (framing : String) {req : Message} (h : ¬ Framable codec req) :
    ∃ e, packFramed codec framing req = .err e ∧ e.shouldRetry = false := by
  unfold packFramed pack
  cases hp : codec.toBytes req with
  | error e => exact ⟨_, rfl, rfl⟩
  | ok p =>
    have hlen : p.length > 65535 := by
      by_contra hle
      exact h ⟨p, hp, by omega⟩
    exact ⟨_, if_pos hlen, rfl⟩

/-- QUIC の stream を開き、要求を書いて、応答を読む。 -/
theorem exchangeStream_eq (peer : Peer S) (conn : Nat) (p : Bytes) (t : StreamLink × S) :
    DoqUpstream.exchangeStream (peerNet peer base) conn p t
      = readFrame DohError.quic (StreamLink.readExact peer)
          ({ sent := withLength p, back := none }, t.2) := by
  have hread := quicFrame_eq (StreamLink.readExact (S := S) peer) "response too large" pure
  rw [Async.bind_pure] at hread
  rw [← hread]
  rfl

/-! ## 読んだ応答の扱い -/

/-- 期限の内で要求を送り、応答を `k` で読む。 -/
theorem Relays.withTimeout {f : String → DohError}
    {x : Async (StreamLink × S) DohError Bytes} {t : StreamLink × S}
    {out : Outcome DohError Bytes × S} (h : Relays f (x t) out) (d : Option Duration)
    (k : Bytes → Outcome DohError Message) (hk : ∀ b, k b ≠ .pending) :
    let r := DnsProxy.withTimeout d (x >>= fun b => Async.lift (k b)) t
    r.2.2 = out.2 ∧
      (∀ resp, r.1 = .ok resp ↔ ∃ b, out.1 = .ok b ∧ b.length ≤ 65535 ∧ k b = .ok resp) ∧
      (r.1 = .pending → out.1 = .pending) ∧
      (∀ e, r.1 = .err e → out.1 = .pending ∨ e = f "early eof" ∨ ∃ b, k b = .err e) := by
  dsimp only
  unfold DnsProxy.withTimeout
  have hstate := h.state
  cases hx : x t with
  | mk r₀ t' =>
    rw [hx] at hstate
    cases r₀ with
    | ok b =>
      obtain ⟨hout, hlen⟩ := (h.ok b).mp (by rw [hx])
      have hrun : (x >>= fun b => Async.lift (k b)) t = (k b, t') := Async.bind_ok hx
      rcases Async.timeout_cases d DohError.timeout (x >>= fun b => Async.lift (k b)) t with
        hsame | ⟨hpend, _⟩
      · rw [hsame, hrun]
        refine ⟨hstate, fun resp => ⟨fun hr => ⟨b, hout, hlen, hr⟩, ?_⟩, fun hp => absurd hp (hk b),
          fun e he => Or.inr (Or.inr ⟨b, he⟩)⟩
        rintro ⟨b', hout', -, hr⟩
        rw [hout] at hout'
        cases hout'
        exact hr
      · rw [hrun] at hpend
        exact absurd hpend (hk b)
    | err e =>
      have hrun : (x >>= fun b => Async.lift (k b)) t = (.err e, t') := Async.bind_err hx
      have hnone : ∀ b, ¬ (out.1 = .ok b ∧ b.length ≤ 65535) := by
        intro b hb
        have hr := (h.ok b).mpr hb
        rw [hx] at hr
        cases hr
      rw [Async.timeout_err hrun]
      refine ⟨hstate, fun resp => ⟨fun hr => (by cases hr), ?_⟩, fun hp => (by cases hp),
        fun e' he => ?_⟩
      · rintro ⟨b, hout, hlen, -⟩
        exact absurd ⟨hout, hlen⟩ (hnone b)
      · cases he
        exact Or.inr (Or.inl (h.err e (by rw [hx])))
    | pending =>
      have hpend : out.1 = .pending := h.pending (by rw [hx])
      have hrun : (x >>= fun b => Async.lift (k b)) t = (.pending, t') := Async.bind_pending hx
      have hsnd := Async.timeout_snd (d := d) (e := DohError.timeout)
        (x := x >>= fun b => Async.lift (k b)) t
      rw [hrun] at hsnd
      refine ⟨by rw [hsnd]; exact hstate, fun resp => ⟨fun hr => ?_, ?_⟩, fun _ => hpend,
        fun _ _ => Or.inl hpend⟩
      · exact absurd hr (Async.timeout_pending hrun resp)
      · rintro ⟨b, hout, -⟩
        rw [hpend] at hout
        cases hout
    | panic => exact absurd (by rw [hx]) h.notPanic

/-! ## listener の答え -/

/-- listener の答え `out` が、`q` を受けた handler の答えを書いたものであること。 -/
structure Serves (codec : Codec) (handler : Handler S) (zeroId : Bool) (q : Message) (s : S)
    (out : Outcome DohError Bytes × S) : Prop where
  state : out.2 = (handler q s).2
  ok : ∀ b, out.1 = .ok b ↔
    ∃ m, (handler q s).1 = .ok m ∧ codec.toBytes (onWire zeroId m) = .ok b
  pending : out.1 = .pending → (handler q s).1 = .pending

/-- handler に渡して、答えを書く。 -/
theorem serves_handler (codec : Codec) (handler : Handler S) (zeroId : Bool) (q : Message) (s : S) :
    Serves codec handler zeroId q s
      ((handler q >>= fun m => Async.lift (pack codec (onWire zeroId m))) s) := by
  rw [Async.bind_apply]
  cases hrun : handler q s with
  | mk r s' =>
    cases r with
    | ok m =>
      refine ⟨by rw [hrun]; rfl, fun b => ?_, fun hp => ?_⟩
      · rw [hrun]
        show pack codec (onWire zeroId m) = .ok b ↔ _
        unfold pack
        cases hb : codec.toBytes (onWire zeroId m) with
        | error e => simp [hb]
        | ok b' => simp [hb]
      · have hp : pack codec (onWire zeroId m) = .pending := hp
        unfold pack at hp
        split at hp <;> cases hp
    | err e => exact ⟨by rw [hrun], fun b => by simp [hrun], fun hp => by cases hp⟩
    | pending => exact ⟨by rw [hrun], fun b => by simp [hrun], fun _ => by rw [hrun]⟩
    | panic => exact ⟨by rw [hrun], fun b => by simp [hrun], fun hp => by cases hp⟩

theorem serves_answerTcp {q : Message} {p : Bytes} (hq : codec.fromBytes p = .ok q) (s : S) :
    Serves codec handler false q s (answerTcp codec handler p s) := by
  unfold answerTcp
  rw [unpack_ok hq, Async.lift_bind_ok]
  exact serves_handler codec handler false q s

theorem serves_answerDot {q : Message} {p : Bytes} (hq : codec.fromBytes p = .ok q) (s : S) :
    Serves codec handler false q s (answerDot codec handler p s) := by
  unfold answerDot
  rw [unpack_ok hq, Async.lift_bind_ok]
  exact serves_handler codec handler false q s

theorem serves_answerDoq {q : Message} {p : Bytes} (hq : codec.fromBytes p = .ok q)
    (hid : q.metadata.id = 0) (s : S) :
    Serves codec handler true q s (answerDoq codec handler p s) := by
  unfold answerDoq
  rw [unpack_ok hq, Async.lift_bind_ok, if_neg (by simpa using hid)]
  exact serves_handler codec handler true q s

/-! ## plain TCP と DoT -/

/-- 読んだ応答の扱い。待つところは無い。 -/
theorem unpackChecked_eq (check : Message → Outcome DohError Unit) (b : Bytes) :
    (unpackChecked codec check b : Async (StreamLink × S) DohError Message)
      = Async.lift (unpack codec "unpacking response" b >>= fun m => check m >>= fun _ => .ok m) := by
  unfold unpackChecked
  rw [Async.lift_bind]
  refine congrArg _ (funext fun m => ?_)
  rw [Async.lift_bind]
  rfl

theorem unpackChecked_ok_iff {req resp m : Message} {b : Bytes} (hb : codec.fromBytes b = .ok m) :
    (unpack codec "unpacking response" b >>= fun m =>
        validateResponse codec req m >>= fun _ => Outcome.ok m) = .ok resp ↔
      MatchesQuestion req m ∧ resp = m := by
  rw [unpack_ok hb, Outcome.ok_bind]
  rcases validateResponse_cases codec req m with ⟨hok, hm⟩ | ⟨⟨msg, herr⟩, hm, -⟩ | ⟨hp, hnil, -⟩
  · rw [hok, Outcome.ok_bind]
    simp [hm, eq_comm]
  · rw [herr, Outcome.err_bind]
    simp [hm]
  · rw [hp]
    constructor
    · intro h
      cases h
    · rintro ⟨hm, -⟩
      exact absurd hnil hm.queries_ne_nil

/-- 読み方 `k` は、線の上の応答を検査して、要求の ID に戻す。 -/
structure Accepts (codec : Codec) (zeroId : Bool) (req : Message)
    (k : Bytes → Outcome DohError Message) : Prop where
  ok : ∀ b m resp, codec.fromBytes b = .ok (onWire zeroId m) →
    (k b = .ok resp ↔ MatchesQuestion req m ∧ resp = restored zeroId req m)
  notPending : ∀ b, k b ≠ .pending

/-- **相手の handler の答えが、接続を通って返る。** -/
theorem Relays.conducts {f : String → DohError} {zeroId : Bool} {req : Message} {s : S}
    {x : Async (StreamLink × S) DohError Bytes} {t : StreamLink × S}
    {out : Outcome DohError Bytes × S} {k : Bytes → Outcome DohError Message}
    (hround : ReadsBack codec handler zeroId req s) (hx : Relays f (x t) out)
    (hs : Serves codec handler zeroId (onWire zeroId req) s out)
    (hk : Accepts codec zeroId req k) (d : Option Duration)
    (hreq : Framable codec (onWire zeroId req)) :
    Conducts codec handler zeroId req t s
      (DnsProxy.withTimeout d (x >>= fun b => Async.lift (k b)) t) := by
  obtain ⟨hstate, hok, hpend, -⟩ := hx.withTimeout d k hk.notPending
  refine ⟨fun resp => ?_, fun _ => hstate.trans hs.state, fun hnot => absurd hreq hnot,
    fun hp => hs.pending (hpend hp)⟩
  rw [hok resp]
  constructor
  · rintro ⟨b, hout, hlen, hresp⟩
    obtain ⟨m, hm, hb⟩ := (hs.ok b).mp hout
    obtain ⟨hmatch, rfl⟩ := (hk.ok b m resp (hround.response m hm _ hb)).mp hresp
    exact ⟨hreq, m, hm, ⟨b, hb, hlen⟩, hmatch, rfl⟩
  · rintro ⟨-, m, hm, ⟨b, hb, hlen⟩, hmatch, rfl⟩
    exact ⟨b, (hs.ok b).mpr ⟨m, hm, hb⟩, hlen,
      (hk.ok b m _ (hround.response m hm _ hb)).mpr ⟨hmatch, rfl⟩⟩

theorem accepts_unpackChecked (codec : Codec) (req : Message) :
    Accepts codec false req fun b => unpack codec "unpacking response" b >>= fun m =>
      validateResponse codec req m >>= fun _ => .ok m where
  ok b m resp hb := unpackChecked_ok_iff hb
  notPending b := by
    unfold unpack
    split
    · rw [Outcome.ok_bind]
      rcases validateResponse_cases codec req _ with ⟨h, -⟩ | ⟨⟨msg, h⟩, -⟩ | ⟨h, -⟩ <;> rw [h] <;>
        intro hp <;> cases hp
    · intro hp
      cases hp

/-- 書けない要求は、何もせずに失敗する。 -/
theorem Conducts.of_unsent {zeroId : Bool} {req : Message} {t : StreamLink × S} {s : S}
    {r : Outcome DohError Message × (StreamLink × S)} (hreq : ¬ Framable codec (onWire zeroId req))
    (h : ∃ e, r = (.err e, t)) : Conducts codec handler zeroId req t s r := by
  obtain ⟨e, rfl⟩ := h
  refine ⟨fun resp => ⟨fun hr => (by cases hr), ?_⟩, fun h => absurd h hreq, fun _ => ⟨e, rfl⟩,
    fun hp => by cases hp⟩
  rintro ⟨h, -⟩
  exact absurd h hreq

variable (base) in
/-- 期限の内で繋いで、要求を書き、応答を読んで検査する。plain TCP と DoT はこの形をしている。 -/
theorem conducts_framed (peer : Peer S)
    (hpeer : ∀ p q s, codec.fromBytes p = .ok q → p.length ≤ 65535 →
      ∃ out, Replies peer p s out ∧ Serves codec handler false q s out)
    {connect : Async (StreamLink × S) DohError Nat} {req : Message} {t : StreamLink × S} {s : S}
    {stream : Nat} (hround : ReadsBack codec handler false req s)
    (hconnect : connect t = (.ok stream, (.fresh, s)))
    (d : Option Duration) :
    Conducts codec handler false req t s
      ((Async.lift (packFramed codec "tcp" req) >>= fun reqBytes => DnsProxy.withTimeout d
        (connect >>= fun stream => exchangeFramed (peerNet peer base) stream reqBytes >>= fun b =>
          unpackChecked codec (validateResponse codec req) b)) t) := by
  by_cases hreq : Framable codec req
  · obtain ⟨p, hp, hlen⟩ := hreq
    obtain ⟨out, hreplies, hserves⟩ := hpeer p req s (hround.request _ hp) hlen
    have hrelays : Relays DohError.io
        ((connect >>= fun stream => exchangeFramed (peerNet peer base) stream p) t) out := by
      rw [Async.bind_ok hconnect]
      exact hreplies.relays DohError.io
    have hconducts := hrelays.conducts hround hserves (accepts_unpackChecked codec req) d
      ⟨p, hp, hlen⟩
    rw [packFramed_ok hp hlen, Async.lift_bind_ok]
    simp only [unpackChecked_eq]
    rw [Async.bind_assoc] at hconducts
    exact hconducts
  · obtain ⟨e, he, -⟩ := packFramed_err "tcp" hreq
    refine Conducts.of_unsent hreq ⟨e, ?_⟩
    rw [he]
    rfl

theorem PlainTcpUpstream.conducts (chop : Chopping) {u : PlainTcpUpstream (StreamLink × S)}
    {req : Message} {t : StreamLink × S} {s : S} {stream : Nat}
    (hround : ReadsBack codec handler false req s)
    (hdial : u.dial (peerNet (tcpPeer codec base chop handler) base) t
      = (.ok stream, (.fresh, s))) :
    Conducts codec handler false req t s (u.exchangeWith codec
      (peerNet (tcpPeer codec base chop handler) base) (validateResponse codec req) req t) := by
  refine conducts_framed base _ (fun p q s hq hlen => ⟨_, ?_, serves_answerTcp hq s⟩) hround
    hdial u.timeout
  rw [tcpPeer_eq]
  exact replies_loopPeer _ hlen s

theorem DotUpstream.conducts (chop : Chopping) {u : DotUpstream (StreamLink × S)} {req : Message}
    {t : StreamLink × S} {s : S} {stream : Nat} (hround : ReadsBack codec handler false req s)
    (hdial : u.dial (peerNet (dotPeer codec base chop handler) base) t
      = (.ok stream, (.fresh, s))) :
    Conducts codec handler false req t s (u.exchangeWith codec
      (peerNet (dotPeer codec base chop handler) base) (validateResponse codec req) req t) := by
  refine conducts_framed base _ (fun p q s hq hlen => ⟨_, ?_, serves_answerDot hq s⟩) hround
    hdial u.timeout
  rw [dotPeer_eq]
  exact replies_loopPeer _ hlen s

/-! ## DoQ -/

theorem decodeResponse_eq (req : Message) (b : Bytes) :
    decodeResponse codec (validateResponse codec req) b req.metadata.id
      = unpack codec "unpacking response" b >>= fun resp =>
          if resp.metadata.id ≠ 0 then .err (.nonZeroId resp.metadata.id)
          else validateResponse codec req (resp.setId req.metadata.id) >>= fun _ =>
            .ok (resp.setId req.metadata.id) := rfl

theorem accepts_decodeResponse (codec : Codec) (req : Message) :
    Accepts codec true req fun b =>
      decodeResponse codec (validateResponse codec req) b req.metadata.id where
  ok b m resp hb := by
    have hid : ¬ (onWire true m).metadata.id ≠ 0 := fun h => h rfl
    have hmatch : MatchesQuestion req ((onWire true m).setId req.metadata.id)
        ↔ MatchesQuestion req m := Iff.rfl
    rw [decodeResponse_eq, unpack_ok hb, Outcome.ok_bind, if_neg hid]
    rcases validateResponse_cases codec req ((onWire true m).setId req.metadata.id) with
      ⟨hok, hm⟩ | ⟨⟨msg, herr⟩, hm, -⟩ | ⟨hp, hnil, -⟩
    · rw [hok, Outcome.ok_bind]
      constructor
      · intro h
        cases h
        exact ⟨hmatch.mp hm, rfl⟩
      · rintro ⟨-, rfl⟩
        rfl
    · rw [herr]
      exact ⟨fun h => (by cases h), fun h => absurd (hmatch.mpr h.1) hm⟩
    · rw [hp]
      exact ⟨fun h => (by cases h), fun h => absurd hnil h.1.queries_ne_nil⟩
  notPending b := by
    rw [decodeResponse_eq]
    unfold unpack
    split
    · rw [Outcome.ok_bind]
      split
      · intro h
        cases h
      · rcases validateResponse_cases codec req _ with ⟨h, -⟩ | ⟨⟨msg, h⟩, -⟩ | ⟨h, -⟩ <;> rw [h] <;>
          intro hp <;> cases hp
    · intro h
      cases h

/-- 応答を読めなかったときの失敗は、やり直さない。 -/
theorem decodeResponse_not_retried {req : Message} {b : Bytes} {e : DohError}
    (h : decodeResponse codec (validateResponse codec req) b req.metadata.id = .err e) :
    e.shouldRetry = false := by
  rw [decodeResponse_eq] at h
  unfold unpack at h
  split at h
  · rw [Outcome.ok_bind] at h
    split at h
    · cases h
      rfl
    · rcases validateResponse_cases codec req _ with ⟨hv, -⟩ | ⟨⟨msg, hv⟩, -⟩ | ⟨hv, -⟩ <;>
        rw [hv] at h <;> cases h
      rfl
  · cases h
    rfl

/-- 失敗すると、取ってある connection を手放す。 -/
def DoqUpstream.released (u : DoqUpstream (StreamLink × S)) (base : Net S)
    (r : Outcome DohError Message × (StreamLink × S)) : Outcome DohError Message × (StreamLink × S) :=
  match r.1 with
  | .err _ => (r.1, u.conn.set none (r.2.1, base.lock r.2.2))
  | _ => r

variable (base handler) in
/-- 開いた connection での一回の往復。やり直すのは、相手が待ち続けたときだけである。 -/
theorem DoqUpstream.conducts_exchangeOn (chop : Chopping) (stopped : Reply Empty Unit)
    (u : DoqUpstream (StreamLink × S)) (req : Message) (conn : Nat) (t : StreamLink × S)
    (hround : ReadsBack codec handler true req t.2) :
    let r := u.exchangeOnWith codec (peerNet (doqPeer codec base chop handler stopped) base) conn
      (validateResponse codec req) req t
    Conducts codec handler true req t t.2 r ∧
      ∀ e, r.1 = .err e → e.shouldRetry = true → (handler (req.setId 0) t.2).1 = .pending := by
  let peer := doqPeer codec base chop handler stopped
  by_cases hreq : Framable codec (onWire true req)
  · obtain ⟨p, hp, hlen⟩ := hreq
    have hrelays : Relays DohError.quic (DoqUpstream.exchangeStream (peerNet peer base) conn p t)
        (answerDoq codec handler p t.2) := by
      rw [exchangeStream_eq]
      exact (replies_doqPeer stopped hlen t.2).relays DohError.quic
    have hserves : Serves codec handler true (req.setId 0) t.2 (answerDoq codec handler p t.2) :=
      serves_answerDoq (hround.request _ hp) rfl t.2
    have hconducts := hrelays.conducts hround hserves (accepts_decodeResponse codec req) u.timeout
      ⟨p, hp, hlen⟩
    have herr := (hrelays.withTimeout u.timeout
      (fun b => decodeResponse codec (validateResponse codec req) b req.metadata.id)
      (accepts_decodeResponse codec req).notPending).2.2.2
    have hpack : packFramed codec "doq" (req.setId 0) = .ok p := packFramed_ok hp hlen
    dsimp only
    unfold DoqUpstream.exchangeOnWith
    rw [hpack, Async.lift_bind_ok]
    refine ⟨hconducts, fun e he hretry => ?_⟩
    rcases herr e he with hpend | rfl | ⟨b, hb⟩
    · exact hserves.pending hpend
    · exact absurd hretry (by decide)
    · rw [decodeResponse_not_retried hb] at hretry
      cases hretry
  · obtain ⟨e, he, hkind⟩ := packFramed_err "doq" hreq
    have hrun : u.exchangeOnWith codec (peerNet peer base) conn (validateResponse codec req) req t
        = (.err e, t) := by
      unfold DoqUpstream.exchangeOnWith
      have hpack : packFramed codec "doq" (req.setId 0) = .err e := he
      rw [hpack]
      rfl
    refine ⟨Conducts.of_unsent hreq ⟨e, hrun⟩, fun e' he' hretry => ?_⟩
    rw [hrun] at he'
    cases he'
    rw [hkind] at hretry
    cases hretry

theorem DoqUpstream.conducts (chop : Chopping) (stopped : Reply Empty Unit)
    {u : DoqUpstream (StreamLink × S)} {req : Message} {t : StreamLink × S} {conn : Nat}
    {cached : Bool} {link : StreamLink} {s : S} (hround : ReadsBack codec handler true req s)
    (hconn : u.getConn (peerNet (doqPeer codec base chop handler stopped) base) t
      = (.ok (conn, cached), (link, s)))
    (hanswers : cached = true → (handler (req.setId 0) s).1 ≠ .pending) :
    ∃ r, Conducts codec handler true req (link, s) s r ∧
      u.exchangeWith codec (peerNet (doqPeer codec base chop handler stopped) base)
        (validateResponse codec req) req t = u.released base r := by
  obtain ⟨hconducts, hretry⟩ := u.conducts_exchangeOn base handler chop stopped req conn (link, s)
    hround
  refine ⟨_, hconducts, ?_⟩
  unfold DoqUpstream.exchangeWith
  rw [Async.bind_ok hconn]
  unfold DoqUpstream.released retryOnce
  dsimp only
  cases hrun : u.exchangeOnWith codec (peerNet (doqPeer codec base chop handler stopped) base) conn
      (validateResponse codec req) req (link, s) with
  | mk r t' =>
    rw [hrun] at hretry
    cases r with
    | ok m => exact Async.handle_ok hrun
    | pending => exact Async.handle_pending hrun
    | panic =>
      unfold Async.handle
      rw [hrun]
    | err e =>
      have hno : (cached && e.shouldRetry) = false := by
        cases cached with
        | false => rfl
        | true =>
          rw [Bool.true_and]
          by_contra hyes
          exact hanswers rfl (hretry e rfl (by simpa using hyes))
      rw [Async.handle_err hrun, hno]
      rfl

/-! ## 往復 -/

/-- 名前を引ければ、最初の宛先に繋がる。 -/
theorem dialTcp_peerNet {peer : Peer S} {host : String} {timeout : Option Duration}
    {resolver : Resolver (StreamLink × S)} {ips : List IpAddr} {t t' : StreamLink × S}
    (hips : resolveIps (peerNet peer base) host timeout resolver t = (.ok ips, t')) (hne : ips ≠ [])
    (port : UInt16) (preferIpv6 : Bool) :
    dialTcp (peerNet peer base) host port timeout resolver preferIpv6 t
      = (.ok 0, (.fresh, t'.2)) := by
  obtain ⟨addr, rest, haddrs⟩ := resolveAddrs_ok port preferIpv6 hne hips
  have hone : dialOne (peerNet peer base) addr .tcp timeout t' = (.ok (.tcp 0), (.fresh, t'.2)) :=
    Async.timeout_ok rfl
  have hdial : DialHandler.dial (peerNet peer base) { timeout, addrs := addr :: rest } .tcp t'
      = (.ok (.tcp 0), (.fresh, t'.2)) := by
    unfold DialHandler.dial
    rw [if_neg (by simp)]
    unfold dialLoop
    rw [Async.bind_ok (Async.attempt_ok hone)]
    rfl
  unfold dialTcp resolveDialContext
  rw [Async.bind_assoc, Async.bind_ok haddrs]
  show (DialHandler.dial (peerNet peer base) { timeout, addrs := addr :: rest } .tcp >>= _) t' = _
  rw [Async.bind_ok hdial]
  rfl

theorem PlainTcpUpstream.dial_peerNet {peer : Peer S} {u : PlainTcpUpstream (StreamLink × S)}
    {ips : List IpAddr} {t t' : StreamLink × S} (hne : ips ≠ [])
    (hips : resolveIps (peerNet peer base) u.host u.timeout u.resolver t = (.ok ips, t')) :
    u.dial (peerNet peer base) t = (.ok 0, (.fresh, t'.2)) :=
  dialTcp_peerNet (resolveIps_ok_of hips _) hne u.port u.preferIpv6

/-- handshake は済む。 -/
theorem DotUpstream.dial_peerNet {peer : Peer S} {u : DotUpstream (StreamLink × S)}
    {ips : List IpAddr} {t t' : StreamLink × S} (hne : ips ≠ [])
    (hname : base.serverName u.host = .ok ())
    (hips : resolveIps (peerNet peer base) u.host u.timeout u.resolver t = (.ok ips, t')) :
    u.dial (peerNet peer base) t = (.ok 0, (.fresh, t'.2)) := by
  have hcheck : checkServerName (peerNet peer base) u.host = .ok () := by
    have hname : (peerNet peer base).serverName u.host = .ok () := hname
    unfold checkServerName
    rw [hname]
  unfold DotUpstream.dial
  rw [Async.bind_ok (dialTcp_peerNet (resolveIps_ok_of hips _) hne u.port u.preferIpv6), hcheck]
  rfl

variable (codec base handler) in
/--
**plain TCP と DoT では、client は listener の handler の応答をそのまま受け取る。**

名前さえ引ければ、届く byte 列がどう切れていても、値が返るのは要求と応答が 65535 byte までに書けて
question が合うときに限る。期限が有っても無くても同じである。
-/
theorem framed_exchange_conducts (chop : Chopping) (suite : CryptoSuite) (req : Message)
    (t : StreamLink × S) :
    (∀ (u : PlainTcpUpstream (StreamLink × S)) ips t', ips ≠ [] →
      resolveIps (peerNet (tcpPeer codec base chop handler) base) u.host u.timeout u.resolver t
        = (.ok ips, t') → ReadsBack codec handler false req t'.2 →
      Conducts codec handler false req t t'.2 ((Upstream.plainTcp u).exchange codec suite
        (peerNet (tcpPeer codec base chop handler) base) req t)) ∧
    (∀ (u : DotUpstream (StreamLink × S)) ips t', ips ≠ [] → base.serverName u.host = .ok () →
      resolveIps (peerNet (dotPeer codec base chop handler) base) u.host u.timeout u.resolver t
        = (.ok ips, t') → ReadsBack codec handler false req t'.2 →
      Conducts codec handler false req t t'.2 ((Upstream.dot u).exchange codec suite
        (peerNet (dotPeer codec base chop handler) base) req t)) := by
  constructor
  · intro u ips t' hne hips hround
    exact PlainTcpUpstream.conducts chop hround (PlainTcpUpstream.dial_peerNet hne hips)
  · intro u ips t' hne hname hips hround
    exact DotUpstream.conducts chop hround (DotUpstream.dial_peerNet hne hname hips)

/-- 取ってある connection が無ければ、名前を引いて繋ぐ。 -/
theorem DoqUpstream.getConn_dialed {peer : Peer S} (u : DoqUpstream (StreamLink × S))
    {ips : List IpAddr} {t : StreamLink × S} (t' : StreamLink × S)
    (hget : u.conn.get (t.1, base.lock t.2) = none)
    (hips : resolveIps (peerNet peer base) u.host u.timeout u.resolver (t.1, base.lock t.2)
      = (.ok ips, t')) (hne : ips ≠ []) :
    u.getConn (peerNet peer base) t = (.ok (0, false), u.conn.set (some 0) t') := by
  obtain ⟨addr, rest, haddrs⟩ := resolveAddrs_ok u.port u.preferIpv6 hne hips
  have hdial : u.dial (peerNet peer base) (t.1, base.lock t.2) = (.ok 0, t') := by
    unfold DoqUpstream.dial
    rw [Async.bind_ok haddrs]
    rfl
  have hlock : lock (peerNet peer base) t = (.ok (), (t.1, base.lock t.2)) := rfl
  have hread : (Async.read u.conn : Async (StreamLink × S) DohError _) (t.1, base.lock t.2)
      = (.ok none, (t.1, base.lock t.2)) := congrArg (fun c => (Outcome.ok c, _)) hget
  unfold DoqUpstream.getConn
  rw [Async.bind_ok hlock, Async.bind_ok hread]
  dsimp only
  rw [Async.bind_ok hdial]
  rfl

theorem DoqUpstream.getConn_cached {peer : Peer S} (u : DoqUpstream (StreamLink × S)) {c : Nat}
    {t : StreamLink × S} (hget : u.conn.get (t.1, base.lock t.2) = some c) :
    u.getConn (peerNet peer base) t = (.ok (c, true), (t.1, base.lock t.2)) := by
  have hlock : lock (peerNet peer base) t = (.ok (), (t.1, base.lock t.2)) := rfl
  have hread : (Async.read u.conn : Async (StreamLink × S) DohError _) (t.1, base.lock t.2)
      = (.ok (some c), (t.1, base.lock t.2)) := congrArg (fun c => (Outcome.ok c, _)) hget
  unfold DoqUpstream.getConn
  rw [Async.bind_ok hlock, Async.bind_ok hread]
  rfl

variable (base handler) in
/--
**DoQ では、handler に ID 0 の要求が渡り、client は要求の ID の付いた応答を受け取る。**

connection を得た後は、要求も応答も 65535 byte までに書けて question が合うときに限って値が返る。
新しい connection であるか、handler が待ち続けないなら、送るのは一度きりで、失敗すれば connection を
手放す。
-/
theorem doq_exchange_conducts (chop : Chopping) (stopped : Reply Empty Unit) (suite : CryptoSuite)
    (u : DoqUpstream (StreamLink × S)) (req : Message) (t : StreamLink × S) (conn : Nat)
    (cached : Bool) (link : StreamLink) (s : S) (hround : ReadsBack codec handler true req s)
    (hconn : u.getConn (peerNet (doqPeer codec base chop handler stopped) base) t
      = (.ok (conn, cached), (link, s)))
    (hanswers : cached = true → (handler (req.setId 0) s).1 ≠ .pending) :
    ∃ r, Conducts codec handler true req (link, s) s r ∧
      (Upstream.doq u).exchange codec suite
        (peerNet (doqPeer codec base chop handler stopped) base) req t = u.released base r :=
  u.conducts chop stopped hround hconn hanswers

end

/-! ## 一つの往復 -/

/-- 一 byte ずつに切る。 -/
def Chopping.bytes : Chopping where
  cut b := b.map fun x => [x]
  flatten_cut b := by
    induction b with
    | nil => rfl
    | cons x rest ih => simpa using ih

def streamCodec : Codec :=
  tableCodec [(queryA, wireA 1 0), (replyA, wireA 1 0x80), (queryA.setId 0, wireA 0 0),
    (zeroIdReply, wireA 0 0x80)]

theorem streamCodec_readsBack {S : Type} (handler : Handler S) (zeroId : Bool) (req : Message)
    (s : S) : ReadsBack streamCodec handler zeroId req s where
  request _ h := tableCodec_fromBytes (by decide) h
  response _ _ _ h := tableCodec_fromBytes (by decide) h

theorem matchesQuestion_replyA : MatchesQuestion queryA replyA := ⟨_, _, rfl, rfl, rfl, rfl⟩

/-- 名前を loopback に引く設定。 -/
def loopbackTcp : PlainTcpUpstream (StreamLink × Option Nat) where
  host := "dns.example"
  port := 53
  resolver := .static [.v4 0x7F000001]
  preferIpv6 := false
  timeout := some (Duration.fromSecs 10)

def loopbackDot : DotUpstream (StreamLink × Option Nat) where
  host := "dns.example"
  port := 853
  resolver := .static [.v4 0x7F000001]
  preferIpv6 := false
  timeout := some (Duration.fromSecs 10)
  insecureSkipVerify := false

/-- connection の置き場所は、client の持つ状態の中にある。 -/
def loopbackDoq : DoqUpstream (StreamLink × Option Nat) where
  host := "dns.example"
  port := 853
  resolver := .static [.v4 0x7F000001]
  preferIpv6 := false
  timeout := some (Duration.fromSecs 10)
  insecureSkipVerify := false
  conn := { get := fun t => t.2, set := fun v t => (t.1, v) }

/-- 一 byte ずつ届いても、plain TCP と DoT の応答は ID 1 のまま返る。 -/
theorem framed_exchange_query :
    ((Upstream.plainTcp loopbackTcp).exchange streamCodec CryptoSuite.trivial
        (peerNet (tcpPeer streamCodec (Net.unreachable StdText.none) .bytes
          fun _ => pure replyA) (Net.unreachable StdText.none)) queryA (.fresh, none)).1
        = .ok replyA ∧
      ((Upstream.dot loopbackDot).exchange streamCodec CryptoSuite.trivial
        (peerNet (dotPeer streamCodec (Net.unreachable StdText.none) .bytes
          fun _ => pure replyA) (Net.unreachable StdText.none)) queryA (.fresh, none)).1
        = .ok replyA := by
  have hround := framed_exchange_conducts streamCodec (Net.unreachable StdText.none)
    (fun _ => pure replyA) .bytes CryptoSuite.trivial queryA ((.fresh, none) : StreamLink × Option Nat)
  have hreq : Framable streamCodec queryA := ⟨_, rfl, by decide⟩
  have hresp : Framable streamCodec replyA := ⟨_, rfl, by decide⟩
  have hips : [IpAddr.v4 0x7F000001] ≠ [] := by simp
  constructor
  · exact ((hround.1 loopbackTcp [.v4 0x7F000001] _ hips rfl
      (streamCodec_readsBack _ _ _ _)).ok replyA).mpr
      ⟨hreq, replyA, rfl, hresp, matchesQuestion_replyA, rfl⟩
  · exact ((hround.2 loopbackDot [.v4 0x7F000001] _ hips rfl rfl
      (streamCodec_readsBack _ _ _ _)).ok replyA).mpr
      ⟨hreq, replyA, rfl, hresp, matchesQuestion_replyA, rfl⟩

/-- DoQ では、ID 0 で渡った要求への応答が ID 1 で返る。 -/
theorem doq_exchange_query :
    ((Upstream.doq loopbackDoq).exchange streamCodec CryptoSuite.trivial
        (peerNet (doqPeer streamCodec (Net.unreachable StdText.none) .bytes
          (fun _ => pure zeroIdReply) .pending) (Net.unreachable StdText.none)) queryA
        (.fresh, none)).1 = .ok (zeroIdReply.setId 1) := by
  have hips : [IpAddr.v4 0x7F000001] ≠ [] := by simp
  obtain ⟨r, hr, hrun⟩ := doq_exchange_conducts (Net.unreachable StdText.none)
    (fun _ => pure zeroIdReply) .bytes .pending CryptoSuite.trivial loopbackDoq queryA (.fresh, none)
    0 false .fresh (some 0) (streamCodec_readsBack _ _ _ _)
    (loopbackDoq.getConn_dialed (.fresh, none) rfl rfl hips) (fun h => by cases h)
  have hmatch : MatchesQuestion queryA zeroIdReply := ⟨_, _, rfl, rfl, rfl, rfl⟩
  have hok : r.1 = .ok (zeroIdReply.setId 1) := (hr.ok _).mpr
    ⟨⟨_, rfl, by decide⟩, zeroIdReply, rfl, ⟨_, rfl, by decide⟩, hmatch, rfl⟩
  rw [hrun]
  unfold DoqUpstream.released
  rw [hok]
  exact hok

end DnsProxy
