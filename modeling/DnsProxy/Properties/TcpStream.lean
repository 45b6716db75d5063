import DnsProxy.Infra.Frames
import DnsProxy.Listener.Dot
import DnsProxy.Properties.Exchange

/-!
# TCP と DoT の stream

一つの接続に届く byte 列は、どこで断片に切れていても、どこで途切れていてもよい。
書き込みは通るものとする。

書き戻される byte 列は、揃った frame のうち、読めて・handler が答えて・65535 byte までに書けたものの
続く限りの、その応答の frame を順に並べたものである。最初に失敗した frame から後には何も書かれない
（`stream_answers`）。書き戻されたものを `read_prefixed` で読めば、その応答が順に読める。
-/

namespace DnsProxy

open Infra

variable {S : Type} (codec : Codec) (base : Net S)

/-! ## 接続 -/

/-- 一つの接続。届く断片、その後の終わり方、書いたものである。 -/
structure TcpStream where
  incoming : List Bytes
  /-- `ok` は相手が閉じたことを、`pending` はまだ何も届かないことを表す。 -/
  ending : Reply String Unit
  written : Bytes

/-- 断片 `chunks` の届く、まだ何も書いていない接続。 -/
def TcpStream.of (chunks : List Bytes) (ending : Reply String Unit) : TcpStream :=
  { incoming := chunks, ending, written := [] }

/-- 読み切れずに終わる。 -/
def TcpStream.stop {α : Type} (c : TcpStream) : Reply String α :=
  match c.ending with
  | .ok _ => .err "early eof"
  | .err e => .err e
  | .pending => .pending

/-- `read_exact`。 -/
def TcpStream.readExact (n : Nat) : Op (TcpStream × S) String (Block n) := fun t =>
  match readBlock n t.1.incoming with
  | some (b, rest) => (.ok b, ({ t.1 with incoming := rest }, t.2))
  | none => (t.1.stop, ({ t.1 with incoming := [] }, t.2))

/-- 接続のほかは `base` の世界。 -/
def connNet : Net (TcpStream × S) :=
  { base.onSnd with
    readExact := fun _ n => TcpStream.readExact n
    writeAll := fun _ b t => (.ok (), ({ t.1 with written := t.1.written ++ b }, t.2)) }

/-! ## 書き戻されるはずのもの -/

/-- 一つの frame への応答。読めて、handler が答えて、65535 byte までに書けたものである。 -/
def answerOf (handler : Handler S) (packet : Bytes) (s : S) : Option (Bytes × S) :=
  match codec.fromBytes packet with
  | .error _ => none
  | .ok req =>
    match handler req s with
    | (.ok resp, s') =>
      match codec.toBytes resp with
      | .ok b => if b.length ≤ 65535 then some (b, s') else none
      | .error _ => none
    | _ => none

/-- 応答できる限りの frame への応答。 -/
def answersOf (handler : Handler S) : List Bytes → S → List Bytes
  | [], _ => []
  | packet :: rest, s =>
    match answerOf codec handler packet s with
    | some (b, s') => b :: answersOf handler rest s'
    | none => []

/-- 読めなくなるまで `read_prefixed` を繰り返す。 -/
def readAll (net : Net (TcpStream × S)) (stream : Nat) : (fuel : Nat) → Async (TcpStream × S) DohError (List Bytes)
  | 0 => Async.lift .pending
  | fuel + 1 => do
    match ← (readPrefixed net stream).attempt with
    | .error _ => pure []
    | .ok packet => do
      let rest ← readAll net stream fuel
      pure (packet :: rest)

/-! ## 一つの frame を読む -/

section

variable {codec}

/-- 足りていれば、断片に依らずに読める。 -/
theorem readExact_ok {n : Nat} {c : TcpStream} {b : Block n} {bytes : Bytes}
    (h : c.incoming.flatten = b.1 ++ bytes) (stream : Nat) (s : S) :
    ∃ incoming, io ((connNet base).readExact stream n) (c, s) = (.ok b, ({ c with incoming }, s)) ∧
      incoming.flatten = bytes := by
  obtain ⟨rest, hread, hrest⟩ := readBlock_append h
  refine ⟨rest, ?_, hrest⟩
  refine Async.call_ok ?_
  show TcpStream.readExact n (c, s) = _
  unfold TcpStream.readExact
  dsimp only
  rw [hread]

/-- 値を返さずに終わり、書いたものは変わらない。待つのは、接続がまだ終わっていないときだけである。 -/
def Stops {α : Type} (r : Outcome DohError α × (TcpStream × S)) (c : TcpStream) : Prop :=
  ((∃ e, r.1 = .err e) ∨ r.1 = .pending ∧ c.ending = .pending) ∧ r.2.1.written = c.written

/-- 足りなければ読めない。 -/
theorem readExact_short {n : Nat} {c : TcpStream} (h : c.incoming.flatten.length < n) (stream : Nat)
    (s : S) : Stops (io ((connNet base).readExact stream n) (c, s)) c := by
  have hop : TcpStream.readExact n (c, s) = (c.stop, ({ c with incoming := [] }, s)) := by
    unfold TcpStream.readExact
    dsimp only
    rw [readBlock_none h]
  show Stops (Async.call DohError.io (TcpStream.readExact n) (c, s)) c
  unfold Async.call TcpStream.stop at *
  rw [hop]
  unfold Stops
  cases c.ending with
  | ok u => exact ⟨Or.inl ⟨_, rfl⟩, rfl⟩
  | err e => exact ⟨Or.inl ⟨_, rfl⟩, rfl⟩
  | pending => exact ⟨Or.inr ⟨rfl, rfl⟩, rfl⟩

/-- 前の計算が値を返さずに終われば、繋いだ計算もそうである。 -/
theorem Stops.bind {α β : Type} {x : Async (TcpStream × S) DohError α}
    {f : α → Async (TcpStream × S) DohError β} {c : TcpStream} {t : TcpStream × S}
    (h : Stops (x t) c) : Stops ((x >>= f) t) c := by
  obtain ⟨hout, hwritten⟩ := h
  rw [Async.bind_apply]
  cases hx : x t with
  | mk r t' =>
    rw [hx] at hout hwritten
    rcases hout with ⟨e, rfl⟩ | ⟨rfl, hend⟩
    · exact ⟨Or.inl ⟨e, rfl⟩, hwritten⟩
    · exact ⟨Or.inr ⟨rfl, hend⟩, hwritten⟩

/-- 揃った frame があれば、`read_prefixed` は先頭のものを読む。 -/
theorem readPrefixed_frame {c : TcpStream} {packet : Bytes} {rest : List Bytes}
    (h : frames c.incoming.flatten = packet :: rest) (stream : Nat) (s : S) :
    ∃ incoming, readPrefixed (connNet base) stream (c, s) = (.ok packet, ({ c with incoming }, s)) ∧
      frames incoming.flatten = rest := by
  match hflat : c.incoming.flatten with
  | [] => rw [hflat, frames_short (by simp)] at h; cases h
  | [x] => rw [hflat, frames_short (by simp)] at h; cases h
  | hi :: lo :: bytes =>
    rw [hflat] at h
    by_cases hle : (Bytes.ofBe16 hi lo).toNat ≤ bytes.length
    · rw [frames_cons hle] at h
      cases h
      let len : Block 2 := ⟨[hi, lo], rfl⟩
      let body : Block len.be16.toNat :=
        ⟨bytes.take (Bytes.ofBe16 hi lo).toNat, List.length_take_of_le hle⟩
      obtain ⟨inc₁, hread₁, hinc₁⟩ := readExact_ok base (b := len) hflat stream s
      obtain ⟨inc₂, hread₂, hinc₂⟩ := readExact_ok base (c := { c with incoming := inc₁ })
        (b := body) (hinc₁.trans (List.take_append_drop _ _).symm) stream s
      refine ⟨inc₂, ?_, by rw [hinc₂]⟩
      unfold readPrefixed
      rw [Async.bind_ok hread₁, Async.bind_ok hread₂]
      rfl
    · rw [frames_cut (by omega)] at h
      cases h

/-- 揃った frame が無ければ、`read_prefixed` は読めない。 -/
theorem readPrefixed_stops {c : TcpStream} (h : frames c.incoming.flatten = []) (stream : Nat)
    (s : S) : Stops (readPrefixed (connNet base) stream (c, s)) c := by
  match hflat : c.incoming.flatten with
  | [] => exact Stops.bind (readExact_short base (by rw [hflat]; simp) stream s)
  | [x] => exact Stops.bind (readExact_short base (by rw [hflat]; simp) stream s)
  | hi :: lo :: bytes =>
    rw [hflat] at h
    by_cases hle : (Bytes.ofBe16 hi lo).toNat ≤ bytes.length
    · rw [frames_cons hle] at h
      cases h
    · let len : Block 2 := ⟨[hi, lo], rfl⟩
      obtain ⟨inc, hread, hinc⟩ := readExact_ok base (b := len) hflat stream s
      have hshort : ({ c with incoming := inc } : TcpStream).incoming.flatten.length
          < len.be16.toNat := by
        show inc.flatten.length < (Bytes.ofBe16 hi lo).toNat
        rw [hinc]
        omega
      unfold readPrefixed
      rw [Async.bind_ok hread]
      exact Stops.bind (c := { c with incoming := inc }) (readExact_short base hshort stream s)

/-- 失敗を値として受け取れば、終わりを知って止まる。 -/
theorem attempt_stops {x : Async (TcpStream × S) DohError Bytes} {c : TcpStream}
    {t : TcpStream × S} (h : Stops (x t) c) :
    ∃ t', t'.1.written = c.written ∧
      ((∃ e, x.attempt t = (.ok (.error e), t')) ∨
        x.attempt t = (.pending, t') ∧ c.ending = .pending) := by
  obtain ⟨hout, hwritten⟩ := h
  refine ⟨(x t).2, hwritten, ?_⟩
  unfold Async.attempt
  cases hx : x t with
  | mk r t' =>
    rw [hx] at hout
    rcases hout with ⟨e, rfl⟩ | ⟨rfl, hend⟩
    · exact Or.inl ⟨e, rfl⟩
    · exact Or.inr ⟨rfl, hend⟩

/-! ## 要求と応答の loop -/

/-- 一つの frame への答え方。応答できれば応答を返し、できなければ何も書かずに終わるか、
長すぎる応答を返す。 -/
structure Answers (codec : Codec) (handler : Handler S)
    (answer : Bytes → Async (TcpStream × S) DohError Bytes) : Prop where
  some : ∀ packet c s b s', answerOf codec handler packet s = some (b, s') →
    answer packet (c, s) = (.ok b, (c, s'))
  none : ∀ packet c s, answerOf codec handler packet s = none →
    (answer packet (c, s)).2.1 = c ∧ ∀ b, (answer packet (c, s)).1 = .ok b → 65535 < b.length

theorem answerOf_length {handler : Handler S} {packet b : Bytes} {s s' : S}
    (h : answerOf codec handler packet s = some (b, s')) : b.length ≤ 65535 := by
  unfold answerOf at h
  split at h
  · cases h
  · split at h
    · split at h
      · split at h
        · next hle =>
          cases h
          exact hle
        · cases h
      · cases h
    · cases h

theorem answersOf_length (handler : Handler S) (packets : List Bytes) (s : S) :
    ∀ b ∈ answersOf codec handler packets s, b.length ≤ 65535 := by
  induction packets generalizing s with
  | nil => simp [answersOf]
  | cons packet rest ih =>
    intro b hb
    unfold answersOf at hb
    split at hb
    · next b' s' hsome =>
      rcases List.mem_cons.mp hb with rfl | hb
      · exact answerOf_length hsome
      · exact ih s' b hb
    · cases hb

/-- 応答できれば、その frame を書いて続きに進む。 -/
theorem writeAnswer_some {handler : Handler S}
    {answer : Bytes → Async (TcpStream × S) DohError Bytes} (ha : Answers codec handler answer)
    {packet b : Bytes} {s s' : S} (h : answerOf codec handler packet s = some (b, s')) (stream : Nat)
    (next : Async (TcpStream × S) DohError Unit) (c : TcpStream) :
    (answer packet >>= fun bytes => writePrefixed (connNet base) stream bytes >>= fun _ => next) (c, s)
      = next ({ c with written := c.written ++ withLength b }, s') := by
  have hlen := answerOf_length h
  have hwrite : writePrefixed (connNet base) stream b (c, s')
      = (.ok (), ({ c with written := c.written ++ withLength b }, s')) := by
    unfold writePrefixed withLength
    rw [if_neg (by omega), ← List.append_assoc]
    rfl
  rw [Async.bind_ok (ha.some packet c s b s' h), Async.bind_ok hwrite]

/-- 応答できなければ、何も書かずに終わる。 -/
theorem writeAnswer_none {handler : Handler S}
    {answer : Bytes → Async (TcpStream × S) DohError Bytes} (ha : Answers codec handler answer)
    {packet : Bytes} {s : S} (h : answerOf codec handler packet s = none) (stream : Nat)
    (next : Async (TcpStream × S) DohError Unit) (c : TcpStream) :
    ((answer packet >>= fun bytes => writePrefixed (connNet base) stream bytes >>= fun _ => next)
      (c, s)).2.1.written = c.written := by
  obtain ⟨hsame, hlong⟩ := ha.none packet c s h
  rw [Async.bind_apply]
  cases hrun : answer packet (c, s) with
  | mk r t =>
    rw [hrun] at hsame hlong
    have hwritten : t.1.written = c.written := congrArg TcpStream.written hsame
    cases r with
    | ok b =>
      -- 長さの 2 byte に収まらない応答は、書く前に断られる
      have hfail : writePrefixed (connNet base) stream b t
          = (.err (.pack "response too large for 2-byte length prefix"), t) := by
        unfold writePrefixed
        rw [if_pos (hlong b rfl)]
        rfl
      dsimp only
      rw [Async.bind_apply, hfail]
      exact hwritten
    | err e => exact hwritten
    | pending => exact hwritten
    | panic => exact hwritten

/-- **loop の書き戻すものは、応答できる限りの frame への応答である。** -/
theorem tcpLoop_written {handler : Handler S} {answer : Bytes → Async (TcpStream × S) DohError Bytes}
    (ha : Answers codec handler answer) (stream : Nat) {fuel : Nat} {c : TcpStream} (s : S)
    (hfuel : (frames c.incoming.flatten).length < fuel) :
    (tcpLoop (connNet base) stream answer fuel (c, s)).2.1.written
      = c.written ++ (answersOf codec handler (frames c.incoming.flatten) s).flatMap withLength := by
  induction fuel generalizing c s with
  | zero => omega
  | succ fuel ih =>
    unfold tcpLoop
    cases hframes : frames c.incoming.flatten with
    | nil =>
      -- 次の frame が揃わないので、読めずに終わるか、待っている
      rw [answersOf, List.flatMap_nil, List.append_nil]
      obtain ⟨t, hwritten, ⟨e, hread⟩ | ⟨hread, -⟩⟩ :=
        attempt_stops (readPrefixed_stops base hframes stream s)
      · rw [Async.bind_ok hread]
        exact hwritten
      · rw [Async.bind_pending hread]
        exact hwritten
    | cons packet rest =>
      obtain ⟨incoming, hread, hrest⟩ := readPrefixed_frame base hframes stream s
      rw [hframes, List.length_cons] at hfuel
      rw [Async.bind_ok (Async.attempt_ok hread), answersOf]
      dsimp only
      cases hanswer : answerOf codec handler packet s with
      | some p =>
        obtain ⟨b, s'⟩ := p
        rw [writeAnswer_some base ha hanswer, ih s' (by dsimp only; rw [hrest]; omega)]
        dsimp only
        rw [hrest, List.flatMap_cons, List.append_assoc]
      | none =>
        rw [writeAnswer_none base ha hanswer]
        simp

/-- 読んで、handler に渡して、書く。TCP と DoT の答え方は、失敗の文面のほかは同じである。 -/
theorem answers_frame (handler : Handler S) (what : String) :
    Answers codec handler fun packet => Async.lift (unpack codec what packet) >>= fun req =>
      (handler req).onSnd >>= fun resp => Async.lift (pack codec resp) where
  some := by
    intro packet c s b s' h
    unfold answerOf at h
    cases hreq : codec.fromBytes packet with
    | error e => rw [hreq] at h; cases h
    | ok req =>
      rw [hreq] at h
      dsimp only at h
      split at h
      · next resp t hrun =>
        cases hb : codec.toBytes resp with
        | error e => rw [hb] at h; cases h
        | ok bytes =>
          rw [hb] at h
          dsimp only at h
          split at h
          · cases h
            rw [unpack_ok hreq, Async.lift_bind_ok]
            rw [Async.bind_ok (Async.onSnd_apply hrun), pack_ok hb]
            rfl
          · cases h
      · cases h
  none := by
    intro packet c s h
    unfold answerOf at h
    unfold unpack
    cases hreq : codec.fromBytes packet with
    | error e => exact ⟨rfl, fun b hb => by cases hb⟩
    | ok req =>
      rw [hreq] at h
      dsimp only at h ⊢
      rw [Async.lift_bind_ok, Async.bind_apply]
      cases hrun : handler req s with
      | mk r t =>
        rw [Async.onSnd_apply hrun]
        rw [hrun] at h
        cases r with
        | err e => exact ⟨rfl, fun b hb => by cases hb⟩
        | pending => exact ⟨rfl, fun b hb => by cases hb⟩
        | panic => exact ⟨rfl, fun b hb => by cases hb⟩
        | ok resp =>
          dsimp only at h ⊢
          unfold pack
          cases hb : codec.toBytes resp with
          | error e => exact ⟨rfl, fun b hb => by cases hb⟩
          | ok bytes =>
            rw [hb] at h
            dsimp only at h
            refine ⟨rfl, fun b hb => ?_⟩
            cases hb
            by_contra hle
            rw [if_pos (by omega)] at h
            cases h

/-- 揃った frame は、どう切れていても `read_prefixed` を繰り返せば順に読める。 -/
theorem readAll_frames (stream fuel : Nat) (chunks : List Bytes) (written : Bytes) (s : S)
    (hfuel : (frames chunks.flatten).length < fuel) :
    (readAll (connNet base) stream fuel
      ({ incoming := chunks, ending := .ok (), written }, s)).1 = .ok (frames chunks.flatten) := by
  induction fuel generalizing chunks with
  | zero => omega
  | succ fuel ih =>
    unfold readAll
    cases hframes : frames chunks.flatten with
    | nil =>
      obtain ⟨t, -, ⟨e, hread⟩ | ⟨-, hend⟩⟩ := attempt_stops (readPrefixed_stops base
        (c := { incoming := chunks, ending := .ok (), written }) hframes stream s)
      · rw [Async.bind_ok hread]
        rfl
      · cases hend
    | cons packet rest =>
      obtain ⟨incoming, hread, hrest⟩ := readPrefixed_frame base
        (c := { incoming := chunks, ending := .ok (), written }) hframes stream s
      rw [hframes, List.length_cons] at hfuel
      have hnext := ih incoming (by rw [hrest]; omega)
      rw [hrest] at hnext
      rw [Async.bind_ok (Async.attempt_ok hread)]
      dsimp only
      rw [Async.bind_ok (Prod.ext hnext rfl)]
      rfl

end

/--
**TCP と DoT の接続に書き戻されるのは、応答できる限りの frame への応答の frame を、順に並べたもの
ちょうどである。**

`chunks` は client の送る byte 列をどう切ったものでもよく、`ending` はその後の終わり方である。
書き戻されたものは、どう切れて届いても、`read_prefixed` を繰り返せばその応答が順に読める。
-/
theorem stream_answers (codec : Codec) (base : Net S) (handler : Handler S) (chunks : List Bytes)
    (ending : Reply String Unit) (s : S) (fuel : Nat)
    (hfuel : (frames chunks.flatten).length < fuel) :
    (∀ stream, (handleTcpConnection codec (connNet base) stream handler.onSnd fuel
        (TcpStream.of chunks ending, s)).2.1.written
      = (answersOf codec handler (frames chunks.flatten) s).flatMap withLength) ∧
    (∀ (accept : Nat → Op (TcpStream × S) String Nat) tcp tls t,
      accept tcp t = (.ok tls, (TcpStream.of chunks ending, s)) →
      (handleDotConnection codec (connNet base) accept tcp handler.onSnd fuel
        t).2.1.written = (answersOf codec handler (frames chunks.flatten) s).flatMap withLength) ∧
    (∀ stream output, List.flatten output
        = (answersOf codec handler (frames chunks.flatten) s).flatMap withLength →
      ∀ n, (answersOf codec handler (frames chunks.flatten) s).length < n →
        (readAll (connNet base) stream n (TcpStream.of output (.ok ()), s)).1
          = .ok (answersOf codec handler (frames chunks.flatten) s)) := by
  refine ⟨?_, ?_, ?_⟩
  · intro stream
    exact tcpLoop_written base (answers_frame handler "unpacking tcp message") stream s hfuel
  · intro accept tcp tls t haccept
    have hcall : httpOp "tls handshake failed" (accept tcp) t
        = (.ok tls, (TcpStream.of chunks ending, s)) := Async.call_ok haccept
    unfold handleDotConnection
    rw [Async.bind_ok hcall]
    exact tcpLoop_written base (answers_frame handler "unpacking dot message") tls s hfuel
  · intro stream output houtput n hn
    have hframes : frames (List.flatten output) = answersOf codec handler (frames chunks.flatten) s := by
      rw [houtput, frames_flatMap (answersOf_length handler _ s)]
    have hread := readAll_frames base stream n output [] s (by rw [hframes]; exact hn)
    rw [hframes] at hread
    exact hread

/-- 1 byte と残りに切れ、次の frame が途切れている byte 列には、応答が一つ書き戻される。 -/
theorem stream_answers_cut :
    (handleTcpConnection (tableCodec [(queryA, wireA 1 0)]) (connNet (Net.unreachable StdText.none)) 0
        (Handler.onSnd fun req => pure req) 2
        (TcpStream.of [[0], 19 :: wireA 1 0 ++ [0, 19, 0]] (.ok ()), ())).2.1.written
      = withLength (wireA 1 0) := by
  have hflat : List.flatten [[0], 19 :: wireA 1 0 ++ [0, 19, 0]]
      = withLength (wireA 1 0) ++ [0, 19, 0] := rfl
  have hframes : frames (List.flatten [[0], 19 :: wireA 1 0 ++ [0, 19, 0]]) = [wireA 1 0] := by
    rw [hflat, frames_withLength_append (by decide), frames_cut (by decide)]
  have hspec := (stream_answers (tableCodec [(queryA, wireA 1 0)]) (Net.unreachable StdText.none)
    (fun req => pure req) [[0], 19 :: wireA 1 0 ++ [0, 19, 0]] (.ok ()) () 2
    (by rw [hframes]; decide)).1 0
  rw [hframes] at hspec
  exact hspec

end DnsProxy
