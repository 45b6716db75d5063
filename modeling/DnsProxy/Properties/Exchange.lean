import DnsProxy.Properties.Delivery
import DnsProxy.Properties.Failover

/-!
# upstream の応答と要求の対応

`exchange` が返す応答について、question と ID が要求に合うかどうかを調べる。

届いた message は、外の世界の操作の列（`Upstream.Delivers`）が決める。

* question は、どの transport でも最後に `validate_response` が確かめる
* ID は、DoH と DoQ だけが確かめる。UDP・TCP・DoT・DNSCrypt には ID を見る code が無く、
  届いた message の ID がそのまま返る

UDP では、question さえ合わせれば、経路の外からでも別の ID の応答を受け取らせることができる。
-/

namespace DnsProxy

open Infra

variable {W : Type} {codec : Codec} {suite : CryptoSuite} {net : Net W}

/-- 応答 `resp` が要求 `req` への答えであること。ID と question が合う。 -/
def IsReplyTo (req resp : Message) : Prop :=
  resp.metadata.id = req.metadata.id ∧ MatchesQuestion req resp

/-- **値を返すのは、届いた message の question が合ったときである。** -/
theorem Upstream.exchange_ok_iff (u : Upstream W) (req resp : Message) (w w' : W) :
    u.exchange codec suite net req w = (.ok resp, w') ↔
      u.receive codec suite net req w = (.ok resp, w') ∧ MatchesQuestion req resp := by
  rw [(u.checked req).ok_iff, validateResponse_ok_iff]

/-! ## 届くものについての条件 -/

/-- `sent` を送った後に届くものは、読めて question が合うなら、要求 `req` と同じ ID を持つ。 -/
def Net.EchoesAfter (net : Net W) (req : Message) (sent : Bytes)
    (read : Bytes → Outcome DohError Message) : Prop :=
  ∀ b m, ((∃ addr w w', DeliversDatagram net addr sent 65535 w b w') ∨
      ∃ stream w w', DeliversFrame net stream sent w b w') →
    read b = .ok m → MatchesQuestion req m → m.metadata.id = req.metadata.id

/--
要求を送った socket や stream に届くものは、question が合うなら、要求と同じ ID を持つ。

DNSCrypt では、送るのは暗号化した要求で、届くものは同じ鍵で開いて読む。
-/
structure Net.EchoesId (codec : Codec) (suite : CryptoSuite) (net : Net W) (req : Message) : Prop where
  plain : ∀ sent, codec.toBytes req = .ok sent →
    net.EchoesAfter req sent (unpack codec "unpacking response")
  boxed : ∀ cert client nonce sent framed w w', codec.toBytes req = .ok sent →
    encryptQuery suite net cert client sent w = (.ok (framed, nonce), w') →
    net.EchoesAfter req framed (DnsCryptUpstream.openResponse codec suite cert client nonce)

theorem Upstream.delivers_id (u : Upstream W) {req m : Message} {w w' : W}
    (hnet : net.EchoesId codec suite req) (h : u.Delivers codec suite net req w m w')
    (hq : MatchesQuestion req m) : m.metadata.id = req.metadata.id := by
  cases h with
  | plainUdp hwrite hdeliver hread =>
    exact hnet.plain _ hwrite _ m (Or.inl ⟨_, _, _, hdeliver⟩) (unpack_ok hread) hq
  | plainTcp hwrite _ _ hdeliver hread =>
    exact hnet.plain _ hwrite _ m (Or.inr ⟨_, _, _, hdeliver⟩) (unpack_ok hread) hq
  | dot hwrite _ _ hdeliver hread =>
    exact hnet.plain _ hwrite _ m (Or.inr ⟨_, _, _, hdeliver⟩) (unpack_ok hread) hq
  | dnsCrypt _ hdeliver =>
    cases hdeliver with
    | udp hseals hdeliver hopen _ =>
      obtain ⟨hwrite, -, hencrypt, -⟩ := hseals
      exact hnet.boxed _ _ _ _ _ _ _ hwrite hencrypt _ m (Or.inl ⟨_, _, _, hdeliver⟩) hopen hq
    | tcp hseals _ _ _ _ _ hdeliver hopen =>
      obtain ⟨hwrite, -, hencrypt, -⟩ := hseals
      exact hnet.boxed _ _ _ _ _ _ _ hwrite hencrypt _ m (Or.inr ⟨_, _, _, hdeliver⟩) hopen hq
  -- ID を 0 にして送る transport では、届いたものの ID を要求のものに戻してある
  | doq => rfl
  | doh => rfl
  | h3 => rfl

/--
**返る応答が要求への答えになるのは、ID を自分で確かめる transport か、この往復で届く message が
（question の合うものなら）要求と同じ ID を持つときであり、そのときに限る。要求を送ったところに
同じ ID のものしか届かない network なら、そうなる。**
-/
theorem exchange_isReplyTo_iff (codec : Codec) (suite : CryptoSuite) (net : Net W) (u : Upstream W)
    (req : Message) (w : W) :
    ((∀ resp w', u.exchange codec suite net req w = (.ok resp, w') → IsReplyTo req resp) ↔
      u.zeroesId = true ∨
        ∀ m w', u.Delivers codec suite net req w m w' → MatchesQuestion req m →
          m.metadata.id = req.metadata.id) ∧
    (net.EchoesId codec suite req →
      ∀ resp w', u.exchange codec suite net req w = (.ok resp, w') → IsReplyTo req resp) := by
  have hiff : (∀ resp w', u.exchange codec suite net req w = (.ok resp, w') → IsReplyTo req resp) ↔
      u.zeroesId = true ∨ ∀ m w', u.Delivers codec suite net req w m w' → MatchesQuestion req m →
        m.metadata.id = req.metadata.id := by
    constructor
    · intro h
      right
      intro m w' hm hq
      have hok : u.exchange codec suite net req w = (.ok m, w') :=
        (u.exchange_ok_iff req m w w').mpr ⟨u.receive_ok_iff.mpr hm, hq⟩
      exact (h m w' hok).1
    · rintro hcond resp w' hok
      obtain ⟨hrecv, hq⟩ := (u.exchange_ok_iff req resp w w').mp hok
      rcases hcond with hz | hid
      · exact ⟨Upstream.ensures_id hz req w resp w' hrecv, hq⟩
      · exact ⟨hid resp w' (u.receive_ok_iff.mp hrecv) hq, hq⟩
  exact ⟨hiff, fun hnet => hiff.mpr (Or.inr fun m w' hm hq => u.delivers_id hnet hm hq)⟩

/-! ## 同じ ID の応答と別の ID の応答 -/

/-- 並べた組の間だけを変換する `Codec`。 -/
def tableCodec (table : List (Message × Bytes)) : Codec where
  toBytes m :=
    match table.find? fun p => p.1 == m with
    | some p => .ok p.2
    | none => .error "unknown message"
  fromBytes b :=
    match table.find? fun p => p.2 == b with
    | some p => .ok p.1
    | none => .error "unexpected end of input reached"
  nameFromAscii _ := .error "unknown name"
  debugType _ := ""
  debugName _ := ""

/-- byte 列が重ならなければ、書いたものは読み戻せる。 -/
theorem tableCodec_fromBytes {table : List (Message × Bytes)} (h : (table.map Prod.snd).Nodup)
    {m : Message} {b : Bytes} (hb : (tableCodec table).toBytes m = .ok b) :
    (tableCodec table).fromBytes b = .ok m := by
  unfold tableCodec at hb ⊢
  dsimp only at hb ⊢
  cases hm : table.find? (fun p => p.1 == m) with
  | none =>
    rw [hm] at hb
    cases hb
  | some p =>
    rw [hm] at hb
    cases hb
    have hpm : p.1 = m := by simpa using List.find?_some hm
    cases hq : table.find? (fun q => q.2 == p.2) with
    | none =>
      have hnone := List.find?_eq_none.mp hq p (List.mem_of_find?_eq_some hm)
      simp at hnone
    | some q =>
      have hqp : q.2 = p.2 := by simpa using List.find?_some hq
      have heq : q = p := List.inj_on_of_nodup_map h (List.mem_of_find?_eq_some hq)
        (List.mem_of_find?_eq_some hm) hqp
      rw [heq]
      exact congrArg Except.ok hpm

/-- 綴りを使わない計算例のための `StdText`。 -/
def StdText.none : StdText where
  toString _ := ""
  parseSocketAddr _ := Option.none
  parseIp _ := Option.none
  unprintable _ := false
  base64Error _ := ""
  utf8Error _ := ""

/-- どの query にも datagram `reply` が届く世界。 -/
def Net.replying (reply : Bytes) : Net Unit :=
  { Net.unreachable StdText.none with
    udpBind := fun _ w => (.ok 0, w)
    udpConnect := fun _ _ w => (.ok (), w)
    udpSend := fun _ _ w => (.ok (), w)
    udpRecv := fun _ size w => (.ok ⟨reply.take size, List.length_take_le size reply⟩, w) }

/-- `a.` の A への、question だけの応答。 -/
def replyA : Message := { Message.new 1 .response .query with queries := queryA.queries }

/-- `a.` の A を ID 2 で答えた応答。 -/
def forgedReply : Message :=
  { Message.new 2 .response .query with queries := queryA.queries }

/-- ID・flag の後に question を一つだけ持つ message の wire 形式。 -/
def wireA (id flags : UInt8) : Bytes :=
  [0, id, flags, 0, 0, 1, 0, 0, 0, 0, 0, 0, 1, 97, 0, 0, 1, 0, 1]

def forgedCodec : Codec :=
  tableCodec [(queryA, wireA 1 0), (replyA, wireA 1 0x80), (forgedReply, wireA 2 0x80)]

def sampleUdp : PlainUdpUpstream :=
  { addr := { ip := .v4 0x7F000001, port := 53 }, timeout := some (Duration.fromSecs 10) }

/-- どこから読んでも、届くのは `reply` だけである。 -/
theorem Net.replying_echoes {reply sent : Bytes} {req : Message}
    {read : Bytes → Outcome DohError Message} (hlen : reply.length ≤ 65535)
    (h : ∀ m, read reply = .ok m → MatchesQuestion req m → m.metadata.id = req.metadata.id) :
    (Net.replying reply).EchoesAfter req sent read := by
  rintro b m (⟨addr, w, w', hdeliver⟩ | ⟨stream, w, w', hdeliver⟩) hread hq
  · cases hdeliver with
    | mk bind connect send recv =>
      cases recv
      have hwhole : reply.take 65535 = reply := List.take_of_length_le hlen
      dsimp only at hread
      rw [hwhole] at hread
      exact h m hread hq
  · cases hdeliver with
    | mk len body head read => cases len

/-- ID の合う応答だけが届く network では、UDP の upstream の返す応答も要求への答えである。 -/
theorem udp_reply_with_same_id :
    (Net.replying (wireA 1 0x80)).EchoesId forgedCodec CryptoSuite.trivial queryA ∧
      (Upstream.plainUdp sampleUdp).exchange forgedCodec CryptoSuite.trivial
        (Net.replying (wireA 1 0x80)) queryA () = (.ok replyA, ()) ∧
      IsReplyTo queryA replyA := by
  have hnet : (Net.replying (wireA 1 0x80)).EchoesId forgedCodec CryptoSuite.trivial queryA := by
    refine ⟨fun sent _ => Net.replying_echoes (by decide) fun m hm _ => ?_,
      fun cert client nonce sent framed w w' _ _ =>
        Net.replying_echoes (by decide) fun m hm _ => ?_⟩
    · cases hm
      rfl
    -- 19 byte では暗号化した応答として短すぎる
    · cases hm
  have hok : (Upstream.plainUdp sampleUdp).exchange forgedCodec CryptoSuite.trivial
      (Net.replying (wireA 1 0x80)) queryA () = (.ok replyA, ()) := by decide
  exact ⟨hnet, hok, (exchange_isReplyTo_iff forgedCodec CryptoSuite.trivial _
    (.plainUdp sampleUdp) queryA ()).2 hnet replyA () hok⟩

/-- ID 1 の query に、UDP の upstream は ID 2 の応答を返す。 -/
theorem udp_reply_with_other_id :
    queryA.queries.length = 1 ∧
      ¬ ∀ resp w', (Upstream.plainUdp sampleUdp).exchange forgedCodec CryptoSuite.trivial
          (Net.replying (wireA 2 0x80)) queryA () = (.ok resp, w') → IsReplyTo queryA resp := by
  refine ⟨rfl, fun h => ?_⟩
  have hid : forgedReply.metadata.id = queryA.metadata.id := (h forgedReply () (by decide)).1
  exact absurd hid (by decide)

end DnsProxy
