import DnsProxy.Dns.Codec
import DnsProxy.Properties.Delivery
import DnsProxy.Properties.DohAuth

/-!
# DoH の client と server の往復

client は要求を ID 0 で書いて base64url にし、URL の `dns` に載せる。server は query の綴りから
それを探して読み、応答をそのまま書く。client は読んで ID を確かめ、元の ID に戻して検査する。

* server の読む message は、ID を 0 にした元の要求である
* client が応答を受け入れるのは、ID が 0 で question が合うとき、かつそのときに限る
* 両端を HTTP で繋げば、handler には ID を 0 にした要求が渡り、受け入れられる応答は
  ID のほかはそのまま返る

hickory については、要求と応答が読み戻せることだけを、`http` の `Uri::query` については、`?` の後を
返すことだけを使う。
-/

namespace DnsProxy

open Infra

/-! ## 両端の間の HTTP -/

/-- client の GET が server に届いた形。`uriQuery` は `Uri::query` である。 -/
def HttpRequest.incoming (uriQuery : Text → Option Text) (req : HttpRequest) : DohRequest where
  method := .get
  query := uriQuery req.uri.toList
  headers := [("user-agent", []), ("accept", Utf8.encode "application/dns-message")]
    ++ req.authorization.toList.map fun auth => ("authorization", Utf8.encode auth)
  body := { chunks := [], ending := .ok () }

/-- 両端の間に残るもの。handler に渡った query と、送られた本文である。 -/
structure DohLink where
  handled : List Message
  bodies : List Bytes

variable {S : Type} (codec : Codec) (uriQuery : Text → Option Text) (credentials : Credentials)
  (handler : Handler S)

/-- listener が一つの要求を処理する。応答が返らなければ、接続は閉じる。 -/
def DohLink.serve (std : StdText) (req : HttpRequest) : Op (DohLink × S) String (Nat × Nat) := fun t =>
  let (out, handled, s) := handleRequest codec std (req.incoming uriQuery) (recording handler)
    credentials (t.1.handled, t.2)
  match out with
  | .ok resp =>
    (.ok (resp.status, t.1.bodies.length), ({ handled, bodies := t.1.bodies ++ [resp.body] }, s))
  | _ => (.err "connection closed before message completed", ({ t.1 with handled }, s))

/-- `base` の世界の HTTP の相手に listener を置く。接続は、いつも取ってある。 -/
def dohLinkNet (base : Net S) : Net (DohLink × S) :=
  { base.onSnd with
    httpConnects := fun _ _ t => (0, t)
    httpRequest := fun _ req _ => DohLink.serve codec uriQuery credentials handler base.std req
    httpCollect := fun body t =>
      match t.1.bodies[body]? with
      | some b => (.ok b, t)
      | none => (.err "connection closed", t) }

/-! ## 要求と応答の往復 -/

section

variable {codec}

/-- `encode_request` の書いたもの。 -/
theorem encodeRequest_ok {m : Message} {e : Text} {id : UInt16}
    (h : encodeRequest codec m = .ok (e, id)) :
    ∃ b, codec.toBytes (m.setId 0) = .ok b ∧ e = Base64.encode b ∧ id = m.metadata.id := by
  unfold encodeRequest pack at h
  cases hb : codec.toBytes (m.setId 0) with
  | error err =>
    rw [hb] at h
    cases h
  | ok b =>
    rw [hb] at h
    cases h
    exact ⟨b, rfl, rfl, rfl⟩

/-- 応答が受け入れられる条件。 -/
def Acceptable (m r : Message) : Prop := r.metadata.id = 0 ∧ MatchesQuestion m r

/-- 読めた応答の扱いは、ID と question で決まる。 -/
theorem decodeResponse_cases {m r : Message} {b : Bytes} (hm : m.queries ≠ [])
    (hb : codec.fromBytes b = .ok r) :
    (decodeResponse codec (validateResponse codec m) b m.metadata.id = .ok (r.setId m.metadata.id) ∧
        Acceptable m r) ∨
      ((∃ e, decodeResponse codec (validateResponse codec m) b m.metadata.id = .err e) ∧
        ¬ Acceptable m r) := by
  unfold decodeResponse Acceptable
  rw [unpack_ok hb, Outcome.ok_bind]
  by_cases hid : r.metadata.id = 0
  · rw [if_neg (by simpa using hid)]
    dsimp only
    have hq : MatchesQuestion m (r.setId m.metadata.id) ↔ MatchesQuestion m r := Iff.rfl
    rcases validateResponse_cases codec m (r.setId m.metadata.id) with
      ⟨hok, hmatch⟩ | ⟨⟨msg, herr⟩, hmatch, -⟩ | ⟨-, hnil, -⟩
    · left
      rw [hok]
      exact ⟨rfl, hid, hq.mp hmatch⟩
    · right
      rw [herr]
      exact ⟨⟨_, rfl⟩, fun h => hmatch (hq.mpr h.2)⟩
    · exact absurd hnil hm
  · right
    rw [if_pos (by simpa using hid)]
    exact ⟨⟨_, rfl⟩, fun h => hid h.1⟩

end

/-! ## URL -/

theorem not_mem_port {c : Char} (hc : c = '?' ∨ c = '#') (port : UInt16) :
    c ∉ (toString port).toList := by
  intro hmem
  have hdigits : (toString port).toList = Nat.toDigits 10 port.toNat := by
    show (toString port.toNat).toList = _
    rw [Nat.toString_eq_ofList_toDigits, String.toList_ofList]
  rw [hdigits] at hmem
  have hdigit := Nat.isDigit_of_mem_toDigits (by decide) (by decide) hmem
  rcases hc with rfl | rfl <;> cases hdigit

/-- 区切りを含まない host と path。`Uri::host` と `Uri::path` の返すものはどれもそうである。 -/
structure PlainTarget (host path : String) : Prop where
  host : ∀ c ∈ host.toList, c ≠ '?' ∧ c ≠ '#'
  path : ∀ c ∈ path.toList, c ≠ '?' ∧ c ≠ '#'

/-- `Uri::query` の文書が約束すること。最初の `?` の後の、`#` の前までを返す。 -/
def ReadsQuery (uriQuery : Text → Option Text) (uri : Text) : Prop :=
  ∀ front query, uri = front ++ '?' :: query → (∀ c ∈ front, c ≠ '?' ∧ c ≠ '#') →
    (∀ c ∈ query, c ≠ '#') → uriQuery uri = some query

/-- client の URL からは、`dns` だけの query が読める。 -/
theorem uriQuery_request {W : Type} {uriQuery : Text → Option Text} {u : DohUpstream W}
    (h : PlainTarget u.host u.path) (b : Bytes)
    (hquery : ReadsQuery uriQuery (u.request (Base64.encode b)).uri.toList) :
    uriQuery (u.request (Base64.encode b)).uri.toList = some (text "dns=" ++ Base64.encode b) := by
  have htext : (u.request (Base64.encode b)).uri.toList
      = (text "https://" ++ (u.host.toList ++ ':' :: ((toString u.port).toList ++ u.path.toList)))
        ++ '?' :: (text "dns=" ++ Base64.encode b) := by
    simp [DohUpstream.request, toString, text]
  have hfront : ∀ c ∈ text "https://" ++ (u.host.toList ++ ':' ::
      ((toString u.port).toList ++ u.path.toList)), c ≠ '?' ∧ c ≠ '#' := by
    intro c hc
    rcases List.mem_append.mp hc with hc | hc
    · have hall : ∀ c ∈ text "https://", c ≠ '?' ∧ c ≠ '#' := by simp [text]
      exact hall c hc
    rcases List.mem_append.mp hc with hc | hc
    · exact h.host c hc
    rcases List.mem_cons.mp hc with rfl | hc
    · decide
    rcases List.mem_append.mp hc with hc | hc
    · exact ⟨fun he => not_mem_port (Or.inl he) u.port hc,
        fun he => not_mem_port (Or.inr he) u.port hc⟩
    · exact h.path c hc
  have hdns : ∀ c ∈ text "dns=" ++ Base64.encode b, c ≠ '#' := by
    intro c hc
    rcases List.mem_append.mp hc with hc | hc
    · have hall : ∀ c ∈ text "dns=", c ≠ '#' := by simp [text]
      exact hall c hc
    · intro he
      subst he
      exact not_mem_encode (by decide) b hc
  exact hquery _ _ htext hfront hdns

/-! ## 両端を繋ぐ -/

section

variable {codec uriQuery credentials handler} {base : Net S} {u : DohUpstream (DohLink × S)}
  {m : Message} {b : Bytes}

/-- client の GET が server に届いて通ること。 -/
structure GoesThrough (uriQuery : Text → Option Text) (credentials : Credentials) (base : Net S)
    (u : DohUpstream (DohLink × S)) (encoded : Text) : Prop where
  target : PlainTarget u.host u.path
  uri : base.parseUri (u.request encoded).uri = .ok ()
  query : ReadsQuery uriQuery (u.request encoded).uri.toList
  admits : credentials.admits ((u.request encoded).incoming uriQuery) = true

/-- 届いた要求の query は、`dns` だけである。 -/
theorem GoesThrough.incoming_query (h : GoesThrough uriQuery credentials base u (Base64.encode b)) :
    ((u.request (Base64.encode b)).incoming uriQuery).query
      = some (text "dns=" ++ Base64.encode b) := uriQuery_request h.target b h.query

/-- 届いた要求では、handler に渡る query がちょうど一つ増える。 -/
theorem serve_handled (h : GoesThrough uriQuery credentials base u (Base64.encode b))
    (hb : codec.fromBytes b = .ok m) (t : DohLink × S) :
    (DohLink.serve codec uriQuery credentials handler base.std
      (u.request (Base64.encode b)) t).2.1.handled = t.1.handled ++ [m] := by
  have hlog := handleRequest_log h.admits rfl h.incoming_query hb base.std handler t.1.handled t.2
  unfold DohLink.serve
  dsimp only
  split
  · exact hlog
  · exact hlog

/-- handler の応答が書ければ、それがそのまま本文になる。 -/
theorem serve_ok (h : GoesThrough uriQuery credentials base u (Base64.encode b))
    (hb : codec.fromBytes b = .ok m) {t : DohLink × S} {r : Message} {s : S} {body : Bytes}
    (hr : handler m t.2 = (.ok r, s)) (hbody : encodeResponse codec r = .ok body) :
    DohLink.serve codec uriQuery credentials handler base.std (u.request (Base64.encode b)) t
      = (.ok (200, t.1.bodies.length),
          ({ handled := t.1.handled ++ [m], bodies := t.1.bodies ++ [body] }, s)) := by
  have hdec : decodeRequest codec base.std (some (Base64.encode b)) [] = .ok m := by
    rw [decodeRequest_encode, unpack_ok hb]
  have hrec : recording handler m (t.1.handled, t.2) = (.ok r, (t.1.handled ++ [m], s)) := by
    unfold recording
    dsimp only
    rw [hr]
  have hinner : handleRequestInner codec base.std
      ((u.request (Base64.encode b)).incoming uriQuery) (recording handler) credentials
      (t.1.handled, t.2)
      = (.ok { status := 200, headers := [("content-type", "application/dns-message")],
               body := body }, (t.1.handled ++ [m], s)) := by
    unfold handleRequestInner
    rw [h.admits, h.incoming_query, Option.bind_some, findDnsParam_encode]
    show answerDoh codec base.std (recording handler) (some (Base64.encode b)) []
      (t.1.handled, t.2) = _
    unfold answerDoh
    rw [hdec, Async.lift_bind_ok, Async.bind_ok hrec, hbody]
    rfl
  unfold DohLink.serve handleRequest
  dsimp only
  rw [Async.handle_ok hinner]

/-- `exchange_https` の、要求を書けた後。 -/
theorem exchangeHttpsWith_eq (hb : codec.toBytes (m.setId 0) = .ok b)
    (h : GoesThrough uriQuery credentials base u (Base64.encode b)) (client : HttpClient)
    (check : Message → Outcome DohError Unit) :
    u.exchangeHttpsWith codec (dohLinkNet codec uriQuery credentials handler base) client check m =
      (withTimeout u.timeout (Async.call DohError.http
        (DohLink.serve codec uriQuery credentials handler base.std
          (u.request (Base64.encode b)))) >>= fun p =>
      httpOp "reading body"
        ((dohLinkNet codec uriQuery credentials handler base).httpCollect p.2) >>= fun body =>
      if !isSuccess p.1 then Async.throw (.unexpectedStatus p.1 u.addrRedacted)
      else if body.length > 65535 then
        Async.throw (.http s!"response body too large: {body.length} bytes")
      else Async.lift (decodeResponse codec check body m.metadata.id)) := by
  have henc : encodeRequest codec m = .ok (Base64.encode b, m.metadata.id) := by
    unfold encodeRequest
    rw [pack_ok hb]
    rfl
  have huri : parseUri (dohLinkNet codec uriQuery credentials handler base)
      (u.request (Base64.encode b)).uri = .ok () := by
    unfold parseUri
    rw [show (dohLinkNet codec uriQuery credentials handler base).parseUri
      (u.request (Base64.encode b)).uri = .ok () from h.uri]
  unfold DohUpstream.exchangeHttpsWith
  rw [henc, Async.lift_bind_ok]
  show (Async.lift (parseUri (dohLinkNet codec uriQuery credentials handler base)
    (u.request (Base64.encode b)).uri) >>= _) = _
  rw [huri, Async.lift_bind_ok]
  rfl

/-- 本文を読んだ後は、handler に渡った query は増えない。 -/
theorem exchangeHttps_handled (hb : codec.toBytes (m.setId 0) = .ok b)
    (hcodec : codec.fromBytes b = .ok (m.setId 0))
    (h : GoesThrough uriQuery credentials base u (Base64.encode b)) (client : HttpClient)
    (check : Message → Outcome DohError Unit) (t : DohLink × S) :
    (u.exchangeHttpsWith codec (dohLinkNet codec uriQuery credentials handler base) client check m
      t).2.1.handled = t.1.handled ++ [m.setId 0] := by
  rw [exchangeHttpsWith_eq hb h]
  have hcall : (withTimeout u.timeout (Async.call DohError.http
      (DohLink.serve codec uriQuery credentials handler base.std
        (u.request (Base64.encode b)))) t).2.1.handled = t.1.handled ++ [m.setId 0] := by
    unfold withTimeout
    rw [Async.timeout_snd]
    exact Async.Moves.call
      (R := fun s s' : DohLink × S => s'.1.handled = s.1.handled ++ [m.setId 0])
      (fun s => serve_handled h hcodec s) t
  refine Async.Moves.keeps (R := fun s s' : DohLink × S => s'.1.handled = s.1.handled)
    (P := fun s : DohLink × S => s.1.handled = t.1.handled ++ [m.setId 0])
    (fun s s' hs h => hs.trans h) hcall ?_
  intro p
  refine Async.Moves.bind (fun s s' s'' h h' => h'.trans h) (Async.Moves.call fun s => ?_) ?_
  · unfold dohLinkNet
    dsimp only
    split <;> rfl
  · intro body
    split
    · exact fun _ => rfl
    · split
      · exact fun _ => rfl
      · exact fun _ => rfl

/-- 受け入れられる応答は、ID だけを戻して返る。 -/
theorem exchangeHttps_ok (hm : m.queries ≠ []) (hb : codec.toBytes (m.setId 0) = .ok b)
    (hcodec : codec.fromBytes b = .ok (m.setId 0))
    (h : GoesThrough uriQuery credentials base u (Base64.encode b)) (client : HttpClient)
    {t : DohLink × S} {r : Message} {s : S} {body : Bytes} (hr : handler (m.setId 0) t.2 = (.ok r, s))
    (hbody : encodeResponse codec r = .ok body) (hdec : codec.fromBytes body = .ok r)
    (hacc : Acceptable m r) (hlen : body.length ≤ 65535) :
    ∃ link, u.exchangeHttpsWith codec (dohLinkNet codec uriQuery credentials handler base) client
      (validateResponse codec m) m t = (.ok (r.setId m.metadata.id), (link, s)) := by
  have hserve := serve_ok h hcodec hr hbody
  have hresp : decodeResponse codec (validateResponse codec m) body m.metadata.id
      = .ok (r.setId m.metadata.id) := by
    rcases decodeResponse_cases hm hdec with ⟨hok, -⟩ | ⟨-, hne⟩
    · exact hok
    · exact absurd hacc hne
  rw [exchangeHttpsWith_eq hb h]
  have hcall : withTimeout u.timeout (Async.call DohError.http
      (DohLink.serve codec uriQuery credentials handler base.std (u.request (Base64.encode b)))) t
      = (.ok (200, t.1.bodies.length),
          ({ handled := t.1.handled ++ [m.setId 0], bodies := t.1.bodies ++ [body] }, s)) :=
    Async.timeout_ok (Async.call_ok hserve)
  have hcollect : httpOp "reading body"
      ((dohLinkNet codec uriQuery credentials handler base).httpCollect t.1.bodies.length)
      ({ handled := t.1.handled ++ [m.setId 0], bodies := t.1.bodies ++ [body] }, s)
      = (.ok body,
          ({ handled := t.1.handled ++ [m.setId 0], bodies := t.1.bodies ++ [body] }, s)) := by
    unfold httpOp Async.call dohLinkNet
    simp
  rw [Async.bind_ok hcall, Async.bind_ok hcollect, if_neg (show ¬ (!isSuccess 200) = true by decide),
    if_neg (by omega), hresp]
  exact ⟨_, rfl⟩

end

/--
**DoH の client と server は、互いの書いたものを読む。**

`m` は question を持ち、ID を 0 にすればそのまま読み戻される要求、`(e, id)` はその `encode_request` で
ある。query `dns=e` からは `e` が
見つかり、server は本文に関わらず ID を 0 にした `m` を読む。client が応答 `r` を受け入れるのは
`Acceptable m r` のとき、かつそのときに限り、受け入れなければ失敗する。両端を HTTP で繋げば、
送るたびに handler には ID を 0 にした `m` がちょうど一度渡り、受け入れられる 65535 byte までの
応答は、ID を `m` のものに戻したほかはそのまま返る。
-/
theorem doh_wire_round_trip {codec : Codec}
    {m : Message} (hround : codec.RoundTrips (m.setId 0)) (hm : m.queries ≠ []) {e : Text}
    {id : UInt16} (henc : encodeRequest codec m = .ok (e, id)) :
    findDnsParam (text "dns=" ++ e) = some e ∧
    (∀ std body, decodeRequest codec std (some e) body = .ok (m.setId 0)) ∧
    (∀ r body, codec.RoundTrips r → encodeResponse codec r = .ok body →
      (decodeResponse codec (validateResponse codec m) body id = .ok (r.setId m.metadata.id) ↔
        Acceptable m r) ∧
      (¬ Acceptable m r →
        ∃ err, decodeResponse codec (validateResponse codec m) body id = .err err)) ∧
    ∀ {S : Type} (base : Net S) (uriQuery : Text → Option Text) (credentials : Credentials)
      (handler : Handler S) (u : DohUpstream (DohLink × S)),
      GoesThrough uriQuery credentials base u e →
      (∀ client t, (u.exchangeHttpsWith codec
        (dohLinkNet codec uriQuery credentials handler base) client (validateResponse codec m)
        m t).2.1.handled = t.1.handled ++ [m.setId 0]) ∧
      ∀ suite t t₁ t₂ client wasCached,
        u.shouldUseHttp3 (dohLinkNet codec uriQuery credentials handler base) t = (.ok false, t₁) →
        u.getClient (dohLinkNet codec uriQuery credentials handler base) t₁
          = (.ok (client, wasCached), t₂) →
        ∀ r s body, handler (m.setId 0) t₂.2 = (.ok r, s) → codec.RoundTrips r → Acceptable m r →
          encodeResponse codec r = .ok body → body.length ≤ 65535 →
          ∃ link, (Upstream.doh u).exchange codec suite
              (dohLinkNet codec uriQuery credentials handler base) m t = (.ok (r.setId m.metadata.id), (link, s)) ∧
            link.handled = t₂.1.handled ++ [m.setId 0] := by
  obtain ⟨b, hb, rfl, rfl⟩ := encodeRequest_ok henc
  have hread := hround _ hb
  have hdec : ∀ r body, codec.RoundTrips r → encodeResponse codec r = .ok body →
      codec.fromBytes body = .ok r := by
    intro r body hround' hbody
    refine hround' body ?_
    unfold encodeResponse pack at hbody
    split at hbody
    · next hok =>
      cases hbody
      exact hok
    · cases hbody
  refine ⟨findDnsParam_encode b, ?_, ?_, ?_⟩
  · intro std body
    rw [decodeRequest_encode, unpack_ok hread]
  · intro r body hround' hbody
    rcases decodeResponse_cases hm (hdec r body hround' hbody) with ⟨hok, hacc⟩ | ⟨⟨err, herr⟩, hne⟩
    · exact ⟨⟨fun _ => hacc, fun _ => hok⟩, fun hne => absurd hacc hne⟩
    · refine ⟨⟨fun hok => ?_, fun hacc => absurd hacc hne⟩, fun _ => ⟨err, herr⟩⟩
      rw [herr] at hok
      cases hok
  · intro S base uriQuery credentials handler u h
    have hhandled : ∀ client t, (u.exchangeHttpsWith codec
        (dohLinkNet codec uriQuery credentials handler base) client (validateResponse codec m)
          m t).2.1.handled = t.1.handled ++ [m.setId 0] := fun client t => exchangeHttps_handled hb hread h client _ t
    refine ⟨hhandled, ?_⟩
    intro suite t t₁ t₂ client wasCached huse hclient r s body hr hround' hacc hbody hlen
    obtain ⟨link, hok⟩ :=
      exchangeHttps_ok hm hb hread h client hr hbody (hdec r body hround' hbody) hacc hlen
    have hlog := hhandled client t₂
    rw [hok] at hlog
    refine ⟨link, ?_, hlog⟩
    show u.exchangeWith codec _ (validateResponse codec m) m t = _
    unfold DohUpstream.exchangeWith
    rw [Async.bind_ok huse]
    show (u.getClient _ >>= _) t₁ = _
    rw [Async.bind_ok hclient]
    exact Async.handle_ok hok

/-! ## 一つの往復 -/

/-- 一つの client を取ってある upstream。 -/
def cachedDoh : DohUpstream (DohLink × Unit) where
  host := "dns.example"
  port := 443
  path := "/dns-query"
  addrRedacted := "https://dns.example:443/dns-query"
  httpVersions := [.http11, .http2]
  resolver := { lookup := fun _ => Async.throw (.bootstrap "no resolver")
                noPanic := fun _ => Async.NoPanic.throw _ }
  preferIpv6 := false
  timeout := some (Duration.fromSecs 10)
  insecureSkipVerify := false
  basicAuthHeader := some (basicAuthHeader "alice" "1")
  client :=
    { get := fun _ => some { dial := { timeout := none, addrs := [] },
                             tlsConfig := buildTlsConfig "dns.example" false ["http/1.1", "h2"],
                             serverName := "dns.example" }
      set := fun _ t => t }
  h3 := { get := fun _ => none, set := fun _ t => t }
  preferH3 := { get := fun _ => none, set := fun _ t => t }
  h3Inner _ := { get := fun _ => none, set := fun _ t => t }

/-- `#` の前までの、最初の `?` の後。 -/
def splitQuery (uri : Text) : Option Text :=
  (Text.splitOnce ['?'] (uri.takeWhile (· != '#'))).map fun p => p.2

theorem readsQuery_splitQuery (uri : Text) : ReadsQuery splitQuery uri := by
  rintro front query rfl hfront hquery
  have hplain : ∀ c ∈ front ++ '?' :: query, (c != '#') = true := by
    intro c hc
    rw [bne_iff_ne]
    rcases List.mem_append.mp hc with hc | hc
    · exact (hfront c hc).2
    rcases List.mem_cons.mp hc with rfl | hc
    · decide
    · exact hquery c hc
  unfold splitQuery
  rw [List.takeWhile_eq_self_iff.mpr hplain,
    Text.splitOnce_char_append fun hc => (hfront _ hc).1 rfl]
  rfl

/-- `a.` の A への、ID が 0 の応答。 -/
def zeroIdReply : Message :=
  { Message.new 0 .response .query with queries := queryA.queries }

def zeroIdCodec : Codec := tableCodec [(queryA.setId 0, wireA 0 0), (zeroIdReply, wireA 0 0x80)]

/-- ID 1 の query が ID 0 で handler に渡り、応答は ID 1 で返る。 -/
theorem doh_wire_round_trip_query :
    ∃ link, (Upstream.doh cachedDoh).exchange zeroIdCodec CryptoSuite.trivial
        (dohLinkNet zeroIdCodec splitQuery (Credentials.new [("alice", "1")])
          (fun _ => pure zeroIdReply) (Net.unreachable StdText.none)) queryA
        ({ handled := [], bodies := [] }, ())
        = (.ok (zeroIdReply.setId 1), (link, ())) ∧
      link.handled = [queryA.setId 0] := by
  have hround : ∀ m, zeroIdCodec.RoundTrips m := fun m b => tableCodec_fromBytes (by decide)
  have henc : encodeRequest zeroIdCodec queryA = .ok (Base64.encode (wireA 0 0), 1) := rfl
  have hthrough : GoesThrough splitQuery (Credentials.new [("alice", "1")])
      (Net.unreachable StdText.none) cachedDoh (Base64.encode (wireA 0 0)) :=
    ⟨⟨by simp [cachedDoh], by simp [cachedDoh]⟩, rfl, readsQuery_splitQuery _, by decide⟩
  exact ((doh_wire_round_trip (hround _) (by decide) henc).2.2.2 _ _ _ _ cachedDoh hthrough).2
    CryptoSuite.trivial _ _ _ _ true rfl rfl zeroIdReply () (wireA 0 0x80) rfl (hround _)
    ⟨rfl, _, _, rfl, rfl, rfl, rfl⟩ rfl (by decide)

end DnsProxy
