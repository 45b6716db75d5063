import DnsProxy.Client.Upstream
import DnsProxy.Listener.DohAuth

/-!
# DoH の listener（`listener/doh.rs`・`listener/doh3.rs`）

HTTP/1.1・HTTP/2 の listener と HTTP/3 の listener は、同じ要求の扱いを別々に書いている。

* HTTP/1.1・HTTP/2 では、途中の失敗はどれも 400 の応答になり、hyper がそれを送る
* HTTP/3 では、応答は自分で stream に書く。400 にするのは要求が読めないときだけで、
  ほかの失敗では何も書かずに終わる

要求の本文は、届いた断片とその後の終わり方（`H3Body`）で表す。
-/

namespace DnsProxy

open Infra

variable {W : Type} (codec : Codec) (std : StdText)

/-! ## 要求と応答 -/

/-- `http::Method`。 -/
inductive HttpMethod where
  | get
  | post
  | other (name : String)
  deriving DecidableEq, Repr

/-- 届いた要求。header の名前は小文字に揃っている。 -/
structure DohRequest where
  method : HttpMethod
  /-- `Uri::query`。 -/
  query : Option Text
  headers : List (String × Bytes)
  body : H3Body

structure DohResponse where
  status : Nat
  headers : List (String × String)
  body : Bytes
  deriving DecidableEq, Repr

/-- `HeaderMap::get`。同じ名前の header が重なれば最初のものである。 -/
def DohRequest.header (req : DohRequest) (name : String) : Option Bytes :=
  (req.headers.find? fun h => h.1 == name).map fun h => h.2

/-- `HeaderValue::to_str`。印字できる ASCII と tab だけから成るものだけを文字列にする。 -/
def headerToStr (v : Bytes) : Option String :=
  if v.all fun b => 32 ≤ b && b < 127 || b == 9 then Utf8.decode v else none

/-- `find_dns_param`。 -/
def findDnsParam (query : Text) : Option Text :=
  (query.splitOnP (· == '&')).findSome? fun pair => (text "dns=").isPrefixOf? pair

/-- base64url の文字は、query の区切りのどれでもない。 -/
theorem not_mem_encode {c : Char} (hc : c ∈ ['&', '=', '?', '#']) (b : Bytes) :
    c ∉ Base64.encode b := by
  intro h
  obtain ⟨n, rfl⟩ := Base64.mem_encode h
  have hall : ∀ n : Fin 64, Base64.toChar n.val ∉ ['&', '=', '?', '#'] := by decide
  exact hall n hc

/-- **`dns=` に base64url を続けた query からは、その base64url が見つかる。** -/
theorem findDnsParam_encode (b : Bytes) :
    findDnsParam (text "dns=" ++ Base64.encode b) = some (Base64.encode b) := by
  have hsplit : (text "dns=" ++ Base64.encode b).splitOnP (· == '&')
      = [text "dns=" ++ Base64.encode b] := by
    refine List.splitOnP_eq_singleton ?_
    intro c hc
    rcases List.mem_append.mp hc with hc | hc
    · have hall : ∀ c ∈ text "dns=", (c == '&') = false := by simp [text]
      exact hall c hc
    · have hne := not_mem_encode (c := '&') (by decide) b
      exact beq_eq_false_iff_ne.mpr fun he => hne (he ▸ hc)
  unfold findDnsParam
  rw [hsplit, List.findSome?_singleton]
  exact List.isPrefixOf?_eq_some_iff_append_eq.mpr rfl

/-- 認証が要らないか、`Authorization` が通ること。 -/
def Credentials.admits (credentials : Credentials) (req : DohRequest) : Bool :=
  credentials.isEmpty ||
    match (req.header "authorization").bind headerToStr with
    | some v => credentials.isAuthorized (some v)
    | none => false

/-! ## HTTP/1.1 と HTTP/2 -/

/-- `error_response`。 -/
def errorResponse (status : Nat) : DohResponse := { status, headers := [], body := [] }

/-- `unauthorized_response`。 -/
def unauthorizedResponse : DohResponse :=
  { status := 401, headers := [("www-authenticate", "Basic")], body := [] }

/-- `req.into_body().collect()`。 -/
def collectRequest (body : H3Body) : Outcome DohError Bytes :=
  match body.ending with
  | .ok _ => .ok body.chunks.flatten
  | .err e => .err (.http s!"reading body: {e}")
  | .pending => .pending

/-- `let query = decode_request(..)` から後。 -/
def answerDoh (handler : Handler W) (dnsParam : Option Text) (body : Bytes) :
    Async W DohError DohResponse := do
  let query ← Async.lift (decodeRequest codec std dnsParam body)
  let resp ← handler query
  let bytes ← Async.lift (encodeResponse codec resp)
  pure { status := 200, headers := [("content-type", "application/dns-message")], body := bytes }

/-- `handle_request_inner`。 -/
def handleRequestInner (req : DohRequest) (handler : Handler W) (credentials : Credentials) :
    Async W DohError DohResponse :=
  if !credentials.admits req then pure unauthorizedResponse
  else
    let dnsParam := req.query.bind findDnsParam
    match req.method with
    | .get => answerDoh codec std handler dnsParam []
    | .post => do
      let body ← Async.lift (collectRequest req.body)
      if body.length > 65535 then Async.throw (.http "request body too large")
      else answerDoh codec std handler dnsParam body
    | .other _ => pure (errorResponse 405)

/-- `handle_request`。失敗はどれも 400 になる。 -/
def handleRequest (req : DohRequest) (handler : Handler W) (credentials : Credentials) :
    Async W DohError DohResponse :=
  (handleRequestInner codec std req handler credentials).handle fun _ => pure (errorResponse 400)

/-! ## HTTP/3 -/

/-- `RequestStream` の書く側。 -/
structure H3Stream (W : Type) where
  sendResponse : (status : Nat) → (headers : List (String × String)) → Op W String Unit
  sendData : Bytes → Op W String Unit
  finish : Op W String Unit

/-- `while let Some(mut chunk) = stream.recv_data()..`。 -/
def recvRequest : List Bytes → Reply String Unit → Bytes → Outcome DohError Bytes
  | [], .ok _, body => .ok body
  | [], .err e, _ => .err (.quic e)
  | [], .pending, _ => .pending
  | chunk :: rest, ending, body =>
    let body := body ++ chunk
    if body.length > 65535 then .err (.http "request body too large")
    else recvRequest rest ending body

namespace H3Stream

variable (stream : H3Stream W)

/-- `send_response`。 -/
def respond (status : Nat) (body : Bytes) : Async W DohError Unit := do
  quicOp (stream.sendResponse status [("content-type", "application/dns-message")])
  if !body.isEmpty then quicOp (stream.sendData body) else pure ()
  quicOp stream.finish

/-- `send_unauthorized`。 -/
def unauthorized : Async W DohError Unit := do
  quicOp (stream.sendResponse 401 [("www-authenticate", "Basic")])
  quicOp stream.finish

end H3Stream

/-- `let query = match decode_request(..)` から後。 -/
def answerDoh3 (stream : H3Stream W) (handler : Handler W) (dnsParam : Option Text) (body : Bytes) :
    Async W DohError Unit := do
  match ← (Async.lift (decodeRequest codec std dnsParam body)).attempt with
  | .error _ => stream.respond 400 []
  | .ok query => do
    let resp ← handler query
    let bytes ← Async.lift (encodeResponse codec resp)
    stream.respond 200 bytes

/-- `handle_request`。失敗は記録されるだけである。 -/
def handleRequest3 (stream : H3Stream W) (req : DohRequest) (handler : Handler W)
    (credentials : Credentials) : Async W DohError Unit :=
  if !credentials.admits req then stream.unauthorized
  else
    let dnsParam := req.query.bind findDnsParam
    match req.method with
    | .get => answerDoh3 codec std stream handler dnsParam []
    | .post => do
      let body ← Async.lift (recvRequest req.body.chunks req.body.ending [])
      answerDoh3 codec std stream handler dnsParam body
    | .other _ => stream.respond 405 []

end DnsProxy
