import DnsProxy.Properties.DohAuth

/-!
# 二つの DoH の listener

HTTP/1.1・HTTP/2 の listener と HTTP/3 の listener の、client に届く応答を比べる。

認証・method・要求の読み取り・成功した応答については、両者は同じ status と本文を返す。
違うのは失敗の扱いである。前者はどの失敗も 400 にするが、後者は本文の受け取り・handler・応答の
符号化が失敗すると、何も送らずに終わる（`listeners_agree_iff`）。
-/

namespace DnsProxy

open Infra

variable {W : Type}

/-! ## 届く応答 -/

/-- HTTP/3 の stream に書かれたもの。 -/
structure Sent where
  head : Option (Nat × List (String × String)) := none
  data : Bytes := []
  finished : Bool := false

/-- 書いたものがそのまま届く stream。 -/
def sentStream : H3Stream (Sent × W) where
  sendResponse status headers t := (.ok (), ({ t.1 with head := some (status, headers) }, t.2))
  sendData body t := (.ok (), ({ t.1 with data := t.1.data ++ body }, t.2))
  finish t := (.ok (), ({ t.1 with finished := true }, t.2))

/-- client に届く status と本文。終わりまで書かれなければ応答は無い。 -/
def Sent.answer (s : Sent) : Option (Nat × Bytes) :=
  if s.finished then s.head.map fun h => (h.1, s.data) else none

/-- service が返した応答。返らなければ何も届かない。 -/
def serviceAnswer : Outcome DohError DohResponse → Option (Nat × Bytes)
  | .ok resp => some (resp.status, resp.body)
  | _ => none

section

variable (codec : Codec) (std : StdText) (credentials : Credentials) (handler : Handler W)
  (req : DohRequest) (w : W)

/-- HTTP/1.1・HTTP/2 の client に届く応答。 -/
def dohAnswer : Option (Nat × Bytes) :=
  serviceAnswer (handleRequest codec std req handler credentials w).1

/-- HTTP/3 の client に届く応答。 -/
def doh3Answer : Option (Nat × Bytes) :=
  (handleRequest3 codec std sentStream req handler.onSnd credentials ({}, w)).2.1.answer

/-! ## 黙って終わるとき -/

/-- 読めた query に、handler か応答の符号化が失敗すること。 -/
def AnswerFails (dnsParam : Option Text) (body : Bytes) : Prop :=
  ∃ query, decodeRequest codec std dnsParam body = .ok query ∧
    ((∃ e, (handler query w).1 = .err e) ∨
      ∃ resp e, (handler query w).1 = .ok resp ∧ codec.toBytes resp = .error e)

/-- 本文の受け取りが失敗するか、長すぎること。 -/
def BodyFails (body : H3Body) : Prop :=
  (∃ e, body.ending = .err e) ∨ body.ending = .ok () ∧ body.chunks.flatten.length > 65535

/-- HTTP/3 の listener が何も送らずに終わる失敗。 -/
def Doh3Silent : Prop :=
  credentials.admits req = true ∧
    (req.method = .get ∧ AnswerFails codec std handler w (req.query.bind findDnsParam) [] ∨
      req.method = .post ∧ (BodyFails req.body ∨
        req.body.ending = .ok () ∧ req.body.chunks.flatten.length ≤ 65535 ∧
          AnswerFails codec std handler w (req.query.bind findDnsParam) req.body.chunks.flatten))

end

/-! ## 本文 -/

/-- 断片ごとに長さを確かめても、全体の長さを確かめるのと同じである。 -/
theorem recvRequest_eq (chunks : List Bytes) (ending : Reply String Unit) (acc : Bytes)
    (hacc : acc.length ≤ 65535) :
    ((acc ++ chunks.flatten).length > 65535 ∧ recvRequest chunks ending acc
        = .err (.http "request body too large")) ∨
      ((acc ++ chunks.flatten).length ≤ 65535 ∧
        recvRequest chunks ending acc = recvRequest [] ending (acc ++ chunks.flatten)) := by
  induction chunks generalizing acc with
  | nil =>
    right
    simpa using hacc
  | cons chunk rest ih =>
    rw [List.flatten_cons, ← List.append_assoc]
    by_cases hlen : (acc ++ chunk).length > 65535
    · left
      refine ⟨?_, if_pos hlen⟩
      rw [List.length_append]
      omega
    · have hstep : recvRequest (chunk :: rest) ending acc = recvRequest rest ending (acc ++ chunk) :=
        if_neg hlen
      rw [hstep]
      exact ih (acc ++ chunk) (by omega)

/-! ## 応答 -/

section

variable {codec : Codec} {std : StdText} {credentials : Credentials} {handler : Handler W}
  {req : DohRequest} {w : W}

/-- `decode_request` は待たず、panic もしない。 -/
theorem decodeRequest_cases (codec : Codec) (std : StdText) (dnsParam : Option Text) (body : Bytes) :
    (∃ e, decodeRequest codec std dnsParam body = .err e) ∨
      ∃ query, decodeRequest codec std dnsParam body = .ok query := by
  have hunpack : ∀ b, (∃ e, unpack codec "unpacking doh request" b = .err e) ∨
      ∃ query, unpack codec "unpacking doh request" b = .ok query := by
    intro b
    unfold unpack
    cases codec.fromBytes b with
    | ok m => exact Or.inr ⟨m, rfl⟩
    | error e => exact Or.inl ⟨_, rfl⟩
  unfold decodeRequest requestBytes
  cases dnsParam with
  | none => exact hunpack body
  | some param =>
    dsimp only
    cases Base64.decode param with
    | none => exact Or.inl ⟨_, rfl⟩
    | some b => exact hunpack b

/-- stream に書いた応答は、そのまま届く。 -/
theorem respond_sent (status : Nat) (body : Bytes) (w : W) :
    (sentStream.respond status body ({}, w)).2.1.answer = some (status, body) := by
  unfold H3Stream.respond
  cases body with
  | nil => rfl
  | cons b rest => rfl

/-- 要求が読めなければ、両者とも 400 を返す。 -/
theorem answers_undecodable (handler : Handler W) (w : W) {dnsParam : Option Text} {body : Bytes}
    {e : DohError} (h : decodeRequest codec std dnsParam body = .err e) :
    serviceAnswer ((answerDoh codec std handler dnsParam body).handle
        (fun _ => pure (errorResponse 400)) w).1 = some (400, []) ∧
      (answerDoh3 codec std sentStream handler.onSnd dnsParam body ({}, w)).2.1.answer
        = some (400, []) := by
  unfold answerDoh answerDoh3
  rw [h]
  exact ⟨rfl, rfl⟩

/-- 要求が読めれば、答えは handler の終わり方で決まる。 -/
theorem answers_decoded (handler : Handler W) (w : W) {dnsParam : Option Text} {body : Bytes}
    {query : Message} (h : decodeRequest codec std dnsParam body = .ok query) :
    serviceAnswer ((answerDoh codec std handler dnsParam body).handle
        (fun _ => pure (errorResponse 400)) w).1
      = serviceAnswer (((handler query >>= fun resp => Async.lift (encodeResponse codec resp) >>=
          fun bytes => pure { status := 200, headers := [("content-type", "application/dns-message")],
                              body := bytes }).handle fun _ => pure (errorResponse 400)) w).1 ∧
      (answerDoh3 codec std sentStream handler.onSnd dnsParam body ({}, w)).2.1.answer
      = ((handler.onSnd query >>= fun resp => Async.lift (encodeResponse codec resp) >>=
          fun bytes => sentStream.respond 200 bytes) ({}, w)).2.1.answer := by
  unfold answerDoh answerDoh3
  rw [h]
  exact ⟨rfl, rfl⟩

/-- **query を答えるところでは、両者は失敗のときだけ違う。** -/
theorem answers_agree_iff (dnsParam : Option Text) (body : Bytes) :
    serviceAnswer ((answerDoh codec std handler dnsParam body).handle
        (fun _ => pure (errorResponse 400)) w).1
      = (answerDoh3 codec std sentStream handler.onSnd dnsParam body ({}, w)).2.1.answer ↔
      ¬ AnswerFails codec std handler w dnsParam body := by
  unfold AnswerFails
  rcases decodeRequest_cases codec std dnsParam body with ⟨e, hdec⟩ | ⟨query, hdec⟩
  · obtain ⟨h1, h2⟩ := answers_undecodable handler w hdec
    rw [h1, h2, hdec]
    simp
  · obtain ⟨h1, h2⟩ := answers_decoded handler w hdec
    rw [h1, h2, hdec]
    cases hh : handler query w with
    | mk out w' =>
      have hsnd : handler.onSnd query ({}, w) = (out, (({} : Sent), w')) := Async.onSnd_apply hh
      unfold Async.handle
      rw [Async.bind_apply, hh, Async.bind_apply, hsnd]
      cases out with
      | ok resp =>
        dsimp only
        cases hb : codec.toBytes resp with
        | ok bytes =>
          rw [show encodeResponse codec resp = .ok bytes from pack_ok hb]
          have hsent := respond_sent 200 bytes w'
          refine iff_of_true hsent.symm ?_
          simp [hh, hb]
        | error e =>
          have henc : encodeResponse codec resp = .err (.pack e) := by
            unfold encodeResponse pack
            rw [hb]
          rw [henc]
          refine iff_of_false (fun h => ?_) (by simp [hh, hb])
          cases h
      | err e =>
        refine iff_of_false (fun h => ?_) (by simp [hh])
        cases h
      | pending => exact iff_of_true rfl (by simp [hh])
      | panic => exact iff_of_true rfl (by simp [hh])

/-- 本文が届き終わって長すぎなければ、断片で読んでも同じ本文になる。 -/
theorem recvRequest_ok {body : H3Body} (hend : body.ending = .ok ())
    (hlen : body.chunks.flatten.length ≤ 65535) :
    recvRequest body.chunks body.ending [] = .ok body.chunks.flatten := by
  rcases recvRequest_eq body.chunks body.ending [] (by simp) with ⟨hlong, -⟩ | ⟨-, heq⟩
  · rw [List.nil_append] at hlong
    omega
  · rw [heq, hend]
    rfl

/-- 本文が届き終わらないか長すぎれば、断片で読む側は本文を得ない。 -/
theorem recvRequest_ne_ok {body : H3Body}
    (h : body.ending ≠ .ok () ∨ body.chunks.flatten.length > 65535) (b : Bytes) :
    recvRequest body.chunks body.ending [] ≠ .ok b := by
  rcases recvRequest_eq body.chunks body.ending [] (by simp) with ⟨-, heq⟩ | ⟨hshort, heq⟩
  · rw [heq]
    simp
  · rw [heq]
    rw [List.nil_append] at hshort
    cases hend : body.ending with
    | ok u => exact absurd (h.resolve_right (by omega)) (by simp [hend])
    | err e => simp [recvRequest]
    | pending => simp [recvRequest]

/-- 本文が得られなければ、HTTP/3 の listener は何も送らない。 -/
theorem bind_body_silent {x : Outcome DohError Bytes} (hx : ∀ b, x ≠ .ok b)
    (f : Bytes → Async (Sent × W) DohError Unit) (w : W) :
    ((Async.lift x >>= f) ({}, w)).2.1.answer = none := by
  cases x with
  | ok b => exact absurd rfl (hx b)
  | err e => rfl
  | pending => rfl
  | panic => rfl

/-- **POST の本文を受け取って答えるところ。** -/
theorem post_agree_iff (dnsParam : Option Text) (body : H3Body) :
    serviceAnswer (((Async.lift (collectRequest body) >>= fun b =>
        if b.length > 65535 then Async.throw (.http "request body too large")
        else answerDoh codec std handler dnsParam b).handle
          fun _ => pure (errorResponse 400)) w).1
      = ((Async.lift (recvRequest body.chunks body.ending []) >>= fun b =>
          answerDoh3 codec std sentStream handler.onSnd dnsParam b) ({}, w)).2.1.answer ↔
      ¬ (BodyFails body ∨ body.ending = .ok () ∧ body.chunks.flatten.length ≤ 65535 ∧
        AnswerFails codec std handler w dnsParam body.chunks.flatten) := by
  by_cases hlen : body.chunks.flatten.length > 65535
  · -- 長すぎる本文では、届き終わるか失敗すれば、片方だけが 400 を返す
    rw [bind_body_silent (recvRequest_ne_ok (Or.inr hlen))]
    unfold BodyFails
    obtain ⟨chunks, ending⟩ := body
    cases ending with
    | ok u =>
      refine iff_of_false (fun h => ?_) (fun h => h (Or.inl (Or.inr ⟨rfl, hlen⟩)))
      rw [show collectRequest ⟨chunks, .ok u⟩ = .ok chunks.flatten from rfl, Async.lift_bind_ok,
        if_pos hlen] at h
      cases h
    | err e =>
      refine iff_of_false (fun h => ?_) (fun h => h (Or.inl (Or.inl ⟨e, rfl⟩)))
      cases h
    | pending => exact iff_of_true rfl (by simp)
  · obtain ⟨chunks, ending⟩ := body
    cases ending with
    | ok u =>
      rw [show collectRequest ⟨chunks, .ok u⟩ = .ok chunks.flatten from rfl,
        recvRequest_ok rfl (by omega), Async.lift_bind_ok, Async.lift_bind_ok, if_neg hlen]
      refine (answers_agree_iff dnsParam chunks.flatten).trans (not_congr ?_)
      constructor
      · exact fun h => Or.inr ⟨rfl, by omega, h⟩
      · rintro ((⟨e, he⟩ | ⟨-, hlong⟩) | ⟨-, -, h⟩)
        · cases he
        · exact absurd hlong hlen
        · exact h
    | err e =>
      rw [bind_body_silent (recvRequest_ne_ok (Or.inl (by simp)))]
      refine iff_of_false (fun h => ?_) (fun h => h (Or.inl (Or.inl ⟨e, rfl⟩)))
      cases h
    | pending =>
      rw [bind_body_silent (recvRequest_ne_ok (Or.inl (by simp)))]
      exact iff_of_true rfl (by simp [BodyFails])

variable (codec std credentials handler req w) in
/--
**二つの listener の届ける応答が一致するのは、HTTP/3 の listener が黙って終わる失敗の無いとき、
かつそのときに限る。**
-/
theorem listeners_agree_iff :
    dohAnswer codec std credentials handler req w = doh3Answer codec std credentials handler req w ↔
      ¬ Doh3Silent codec std credentials handler req w := by
  unfold dohAnswer doh3Answer Doh3Silent handleRequest handleRequest3 handleRequestInner
  cases hpass : credentials.admits req with
  | false => exact iff_of_true rfl (by simp)
  | true =>
    rw [if_neg (by simp), if_neg (by simp)]
    cases hmethod : req.method with
    | get =>
      refine (answers_agree_iff (req.query.bind findDnsParam) []).trans ?_
      simp
    | post =>
      refine (post_agree_iff (req.query.bind findDnsParam) req.body).trans ?_
      simp
    | other name => exact iff_of_true rfl (by simp)

end

/-- 必ず失敗する handler。 -/
def failingHandler : Handler Unit := fun _ => Async.throw (.timeout 1)

/-- handler が失敗すると、HTTP/2 では 400 が届き、HTTP/3 では何も届かない。 -/
theorem handler_failure_differs :
    dohAnswer questionCodec StdText.none (Credentials.new []) failingHandler
        (plainGet (text "dns=" ++ Base64.encode (wireA 1 0))) () = some (400, []) ∧
      doh3Answer questionCodec StdText.none (Credentials.new []) failingHandler
        (plainGet (text "dns=" ++ Base64.encode (wireA 1 0))) () = none := by
  decide

end DnsProxy
