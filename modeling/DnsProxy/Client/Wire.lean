import DnsProxy.Client.Net
import DnsProxy.Infra.Base64

/-!
# message の検査と DoH の符号化（`client/wire.rs`）

`validate_response` はどの transport も最後に通る検査である。question の個数は応答の側しか
数えず、要求の側は `req.queries[0]` で添字に取るので、question の無い要求では panic しうる。

応答を検査する関数は、検査 `check` を引数に取る形で書く。code は `validate_response` を渡す。
`skipCheck` を渡したものは、検査の前に server から届いていた message を表す。
-/

namespace DnsProxy

open Infra

/-- `validate_response`。ちょうど一つの question が、種類と（大小を無視して）名前で合うこと。 -/
def validateResponse (codec : Codec) (req resp : Message) : Outcome DohError Unit :=
  if resp.queries.length ≠ 1 then
    .err (.invalidResponse s!"only 1 question allowed; got {resp.queries.length}")
  else do
    let reqQ ← Outcome.index req.queries 0
    let respQ ← Outcome.index resp.queries 0
    if reqQ.queryType ≠ respQ.queryType then
      .err (.invalidResponse s!"mismatched type {codec.debugType respQ.queryType}")
    else if !reqQ.name.eqIgnoreRoot respQ.name then
      .err (.invalidResponse s!"mismatched name {codec.debugName respQ.name}")
    else .ok ()

/-- `Message::from_bytes(..).map_err(|e| DohError::InvalidResponse(format!("…: {e}")))`。 -/
def unpack (codec : Codec) (what : String) (b : Bytes) : Outcome DohError Message :=
  match codec.fromBytes b with
  | .ok m => .ok m
  | .error e => .err (.invalidResponse s!"{what}: {e}")

/-- `msg.to_bytes()?`。 -/
def pack (codec : Codec) (m : Message) : Outcome DohError Bytes :=
  match codec.toBytes m with
  | .ok b => .ok b
  | .error e => .err (.pack e)

theorem unpack_ok {codec : Codec} {what : String} {b : Bytes} {m : Message}
    (h : codec.fromBytes b = .ok m) : unpack codec what b = .ok m := by
  unfold unpack
  rw [h]

theorem pack_ok {codec : Codec} {b : Bytes} {m : Message} (h : codec.toBytes m = .ok b) :
    pack codec m = .ok b := by
  unfold pack
  rw [h]

/-- 応答を読み、検査して返す。 -/
def unpackChecked {W : Type} (codec : Codec) (check : Message → Outcome DohError Unit)
    (b : Bytes) : Async W DohError Message := do
  let resp ← Async.lift (unpack codec "unpacking response" b)
  Async.lift (check resp)
  pure resp

/-- `encode_request`。ID を 0 にして base64url にする。 -/
def encodeRequest (codec : Codec) (req : Message) : Outcome DohError (Text × UInt16) := do
  let originalId := req.metadata.id
  let bytes ← pack codec (req.setId 0)
  pure (Base64.encode bytes, originalId)

/-- `decode_response`。ID が 0 であることを確かめ、元の ID に戻してから検査する。 -/
def decodeResponse (codec : Codec) (check : Message → Outcome DohError Unit) (body : Bytes)
    (originalId : UInt16) : Outcome DohError Message := do
  let resp ← unpack codec "unpacking response" body
  if resp.metadata.id ≠ 0 then .err (.nonZeroId resp.metadata.id)
  else do
    let resp := resp.setId originalId
    check resp
    pure resp

/-- `dns` の値か、無ければ本文。 -/
def requestBytes (std : StdText) (dnsParam : Option Text) (body : Bytes) : Outcome DohError Bytes :=
  match dnsParam with
  | none => .ok body
  | some param =>
    match Base64.decode param with
    | some bytes => .ok bytes
    | none => .err (.invalidResponse s!"decoding dns param: {std.base64Error param}")

/-- `decode_request`。`encode_request` の逆で、listener が使う。 -/
def decodeRequest (codec : Codec) (std : StdText) (dnsParam : Option Text) (body : Bytes) :
    Outcome DohError Message := do
  let bytes ← requestBytes std dnsParam body
  unpack codec "unpacking doh request" bytes

/-- `dns` の値が base64url なら、本文は読まれない。 -/
theorem decodeRequest_encode (codec : Codec) (std : StdText) (b body : Bytes) :
    decodeRequest codec std (some (Base64.encode b)) body = unpack codec "unpacking doh request" b := by
  have hbytes : requestBytes std (some (Base64.encode b)) body = .ok b := by
    unfold requestBytes
    dsimp only
    rw [Base64.decode_encode]
  unfold decodeRequest
  rw [hbytes, Outcome.ok_bind]

/-- `encode_response`。 -/
def encodeResponse (codec : Codec) (resp : Message) : Outcome DohError Bytes := pack codec resp

/-! ## 検査 -/

/-- 何も確かめない検査。 -/
def skipCheck : Message → Outcome DohError Unit := fun _ => .ok ()

/-- 待たず、失敗は `InvalidResponse` に限る検査。どの再試行もこの失敗を引き受けない。 -/
structure IsCheck (check : Message → Outcome DohError Unit) : Prop where
  ne_pending : ∀ m, check m ≠ .pending
  err : ∀ m e, check m = .err e → ∃ msg, e = .invalidResponse msg

/-! ## `validate_response` の仕様 -/

/-- 応答 `resp` が要求 `req` の question に答えていること。 -/
def MatchesQuestion (req resp : Message) : Prop :=
  ∃ q q', req.queries.head? = some q ∧ resp.queries = [q'] ∧ q'.queryType = q.queryType ∧
    q'.name.lowerLabels = q.name.lowerLabels

/--
`validate_response` の終わり方は三つである。question が合って通る、合わずに `InvalidResponse` で
失敗する、要求に question が無くて panic する。
-/
theorem validateResponse_cases (codec : Codec) (req resp : Message) :
    (validateResponse codec req resp = .ok () ∧ MatchesQuestion req resp) ∨
      ((∃ msg, validateResponse codec req resp = .err (.invalidResponse msg)) ∧
        ¬ MatchesQuestion req resp ∧ ¬ (req.queries = [] ∧ resp.queries.length = 1)) ∨
      (validateResponse codec req resp = .panic ∧ req.queries = [] ∧ resp.queries.length = 1) := by
  unfold validateResponse MatchesQuestion Outcome.index
  match hresp : resp.queries with
  | [] => simp
  | q' :: q'' :: rest => simp
  | [q'] =>
    cases hreq : req.queries with
    | nil => exact Or.inr (Or.inr ⟨rfl, rfl, rfl⟩)
    | cons q rest =>
      simp only [List.length_singleton, ne_eq, not_true_eq_false, if_false, List.getElem?_cons_zero,
        Outcome.ok_bind, List.head?_cons, Option.some.injEq, List.cons.injEq, and_true]
      by_cases ht : q.queryType = q'.queryType
      · rw [if_neg (by simpa using ht)]
        by_cases hn : q.name.eqIgnoreRoot q'.name = true
        · left
          rw [hn]
          exact ⟨rfl, q, q', rfl, rfl, ht.symm, ((Name.eqIgnoreRoot_iff _ _).mp hn).symm⟩
        · right; left
          rw [Bool.eq_false_iff.mpr hn]
          refine ⟨⟨_, rfl⟩, ?_, by simp⟩
          rintro ⟨p, p', rfl, rfl, _, hp⟩
          exact hn ((Name.eqIgnoreRoot_iff _ _).mpr hp.symm)
      · right; left
        rw [if_pos (by simpa using ht)]
        refine ⟨⟨_, rfl⟩, ?_, by simp⟩
        rintro ⟨p, p', rfl, rfl, hp, _⟩
        exact ht hp.symm

theorem MatchesQuestion.queries_ne_nil {req resp : Message} (h : MatchesQuestion req resp) :
    req.queries ≠ [] := by
  obtain ⟨q, _, hq, _⟩ := h
  intro hnil
  rw [hnil] at hq
  cases hq

/-- **`validate_response` が通るのは、question が合うとき、かつそのときに限る。** -/
theorem validateResponse_ok_iff (codec : Codec) (req resp : Message) :
    (∃ u, validateResponse codec req resp = .ok u) ↔ MatchesQuestion req resp := by
  rcases validateResponse_cases codec req resp with ⟨hok, hm⟩ | ⟨⟨msg, herr⟩, hm, -⟩ | ⟨hp, hnil, -⟩
  · exact ⟨fun _ => hm, fun _ => ⟨(), hok⟩⟩
  · rw [herr]
    simp [hm]
  · rw [hp]
    simp only [reduceCtorEq, exists_false, false_iff]
    exact fun hm => hm.queries_ne_nil hnil

/-- **`validate_response` が panic するのは、question の無い要求に question がちょうど一つの応答が
返ったとき、かつそのときに限る。** -/
theorem validateResponse_panic_iff (codec : Codec) (req resp : Message) :
    validateResponse codec req resp = .panic ↔ req.queries = [] ∧ resp.queries.length = 1 := by
  rcases validateResponse_cases codec req resp with ⟨hok, hm⟩ | ⟨⟨msg, herr⟩, -, hne⟩ | ⟨hp, hq⟩
  · rw [hok]
    simp [hm.queries_ne_nil]
  · rw [herr]
    simpa using hne
  · exact ⟨fun _ => hq, fun _ => hp⟩

/-- 検査は待たない。 -/
theorem validateResponse_ne_pending (codec : Codec) (req resp : Message) :
    validateResponse codec req resp ≠ .pending := by
  rcases validateResponse_cases codec req resp with ⟨hok, -⟩ | ⟨⟨msg, herr⟩, -⟩ | ⟨hp, -⟩
  · simp [hok]
  · simp [herr]
  · simp [hp]

/-- 検査の失敗は、どれも `InvalidResponse` である。 -/
theorem validateResponse_err {codec : Codec} {req resp : Message} {e : DohError}
    (h : validateResponse codec req resp = .err e) : ∃ msg, e = .invalidResponse msg := by
  rcases validateResponse_cases codec req resp with ⟨hok, -⟩ | ⟨⟨msg, herr⟩, -⟩ | ⟨hp, -⟩
  · rw [hok] at h
    cases h
  · rw [herr] at h
    cases h
    exact ⟨msg, rfl⟩
  · rw [hp] at h
    cases h

theorem isCheck_validateResponse (codec : Codec) (req : Message) :
    IsCheck (validateResponse codec req) where
  ne_pending := validateResponse_ne_pending codec req
  err _ _ := validateResponse_err

/-! ## 検査の前と後 -/

section

variable {W : Type} {codec : Codec} {check : Message → Outcome DohError Unit}

theorem checked_unpackChecked (b : Bytes) :
    Async.Checked check (unpackChecked codec check b : Async W DohError Message)
      (unpackChecked codec skipCheck b) :=
  Async.Checked.bind fun resp => Async.Checked.final resp

theorem unpack_ne_panic (codec : Codec) (what : String) (b : Bytes) :
    unpack codec what b ≠ .panic := by
  unfold unpack
  split <;> simp

theorem pack_ne_panic (codec : Codec) (m : Message) : pack codec m ≠ .panic := by
  unfold pack
  split <;> simp

theorem noPanic_unpackChecked (b : Bytes) :
    (unpackChecked codec skipCheck b : Async W DohError Message).NoPanic :=
  (Async.NoPanic.lift (unpack_ne_panic _ _ _)).bind fun resp => Async.NoPanic.pure resp

theorem encodeRequest_ne_panic (codec : Codec) (req : Message) :
    encodeRequest codec req ≠ .panic := by
  unfold encodeRequest
  cases hp : pack codec (req.setId 0) with
  | ok b => simp
  | err e => simp
  | pending => intro h; cases h
  | panic => exact absurd hp (pack_ne_panic _ _)

/-- `decode_response` の検査は、ID を戻した後の最後の一歩である。 -/
theorem checked_decodeResponse (body : Bytes) (originalId : UInt16) :
    Async.Checked check
      (Async.lift (decodeResponse codec check body originalId) : Async W DohError Message)
      (Async.lift (decodeResponse codec skipCheck body originalId)) := by
  unfold decodeResponse unpack
  cases codec.fromBytes body with
  | error e => exact Async.Checked.throw _
  | ok m =>
    simp only [Outcome.ok_bind]
    split
    · exact Async.Checked.throw _
    · rw [Async.lift_bind, Async.lift_bind]
      exact Async.Checked.final (m.setId originalId)

theorem decodeResponse_skip_ne_panic (codec : Codec) (body : Bytes) (originalId : UInt16) :
    decodeResponse codec skipCheck body originalId ≠ .panic := by
  unfold decodeResponse unpack
  cases codec.fromBytes body with
  | error e => simp
  | ok m =>
    simp only [Outcome.ok_bind]
    split
    · simp
    · simp [skipCheck]

/-- 読めた応答は、必ず元の ID を持つ。 -/
theorem decodeResponse_id {body : Bytes} {originalId : UInt16} {m : Message}
    (h : decodeResponse codec check body originalId = .ok m) : m.metadata.id = originalId := by
  unfold decodeResponse unpack at h
  cases hb : codec.fromBytes body with
  | error e =>
    rw [hb] at h
    cases h
  | ok m₀ =>
    rw [hb] at h
    simp only [Outcome.ok_bind] at h
    split at h
    · cases h
    · cases hc : check (m₀.setId originalId) with
      | ok u =>
        rw [hc] at h
        cases h
        rfl
      | err e => rw [hc] at h; cases h
      | pending => rw [hc] at h; cases h
      | panic => rw [hc] at h; cases h

end

end DnsProxy
