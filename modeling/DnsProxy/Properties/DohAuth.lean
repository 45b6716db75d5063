import DnsProxy.Listener.Doh
import DnsProxy.Properties.Panic

/-!
# DoH の認証

`Authorization` は、符号にした文字列のまま比べられる。base64 が単射で、組に分ける `:` が最初の
ものなので、client の作る header が通るのは、その組が並んでいるとき、かつそのときに限る
（`basic_auth_spec`）。

認証を求めるかどうかは、組が一つでも集まったかで決まる。`--doh-auth-file` を与えても、その中身が
空行と注釈だけなら認証は求められない（`auth_required_iff`）。

handler に渡った query は、handler が呼ばれるたびに記録して数える（`recording`）。
-/

namespace DnsProxy

open Infra

variable {W : Type}

/-! ## handler に渡った query -/

/-- 渡された query を記録する handler。 -/
def recording (handler : Handler W) : Handler (List Message × W) := fun query t =>
  ((handler query t.2).1, (t.1 ++ [query], (handler query t.2).2))

/-- 記録には触れない stream。 -/
def H3Stream.onSnd {S : Type} (stream : H3Stream W) : H3Stream (S × W) where
  sendResponse status headers := (stream.sendResponse status headers).onSnd
  sendData body := (stream.sendData body).onSnd
  finish := stream.finish.onSnd

/-- HTTP/1.1・HTTP/2 の listener が、一つの要求で handler に渡す query。 -/
def dohCalls (codec : Codec) (std : StdText) (credentials : Credentials) (handler : Handler W)
    (req : DohRequest) (w : W) : List Message :=
  (handleRequest codec std req (recording handler) credentials ([], w)).2.1

/-- HTTP/3 の listener が、一つの要求で handler に渡す query。 -/
def doh3Calls (codec : Codec) (std : StdText) (credentials : Credentials) (stream : H3Stream W)
    (handler : Handler W) (req : DohRequest) (w : W) : List Message :=
  (handleRequest3 codec std stream.onSnd req (recording handler) credentials ([], w)).2.1

section

variable {codec : Codec} {std : StdText} {credentials : Credentials} {req : DohRequest}

/-- stream に書くだけでは、記録は増えない。 -/
theorem unauthorized_calls (stream : H3Stream W) (t : List Message × W) :
    (stream.onSnd.unauthorized t).2.1 = t.1 := by
  have hmoves : Async.Moves (fun a b : List Message × W => b.1 = a.1)
      (stream.onSnd (S := List Message)).unauthorized := by
    refine Async.Moves.bind (fun a b c hab hbc => hbc.trans hab) (Async.Moves.call fun s => rfl) ?_
    exact fun _ => Async.Moves.call fun s => rfl
  exact hmoves t

/-- 通らない要求では、どちらの listener も handler を呼ばない。 -/
theorem dohCalls_not_admitted (h : credentials.admits req = false) (handler : Handler W) (w : W) :
    dohCalls codec std credentials handler req w = [] := by
  unfold dohCalls handleRequest handleRequestInner
  rw [h]
  rfl

theorem doh3Calls_not_admitted (h : credentials.admits req = false) (stream : H3Stream W)
    (handler : Handler W) (w : W) :
    doh3Calls codec std credentials stream handler req w = [] := by
  unfold doh3Calls handleRequest3
  rw [h]
  exact unauthorized_calls stream ([], w)

end

/-! ## header の一致 -/

theorem basicAuthHeader_toList (user pass : String) :
    (basicAuthHeader user pass).toList
      = text "Basic " ++ Base64.encodeStandard (Utf8.encode (user ++ ":" ++ pass)) := by
  simp [basicAuthHeader, toString]
  rfl

/-- 組の綴り。 -/
theorem pair_toList (user pass : String) :
    (user ++ ":" ++ pass).toList = user.toList ++ ':' :: pass.toList := by
  simp

/-- **header が等しいのは、`:` を含まない名前どうしでは、組が等しいときに限る。** -/
theorem basicAuthHeader_inj {user pass user' pass' : String} (hu : ':' ∉ user.toList)
    (hu' : ':' ∉ user'.toList) (h : basicAuthHeader user pass = basicAuthHeader user' pass') :
    user = user' ∧ pass = pass' := by
  have hlist := congrArg String.toList h
  rw [basicAuthHeader_toList, basicAuthHeader_toList] at hlist
  have hbytes := Base64.encodeStandard_injective (List.append_cancel_left hlist)
  have htext := congrArg String.toList (Utf8.encode_injective hbytes)
  rw [pair_toList, pair_toList] at htext
  -- 最初の `:` で分けたものは一通りしかない
  have hsplit := Text.splitOnce_char_append hu pass.toList
  rw [htext, Text.splitOnce_char_append hu'] at hsplit
  obtain ⟨huser, hpass⟩ := Prod.mk.inj (Option.some.inj hsplit)
  exact ⟨(String.toList_inj.mp huser).symm, (String.toList_inj.mp hpass).symm⟩

/-- 読めた組の名前には `:` が無く、綴りは元のものである。 -/
theorem parsePair_ok {std : StdText} {s user pass : String}
    (h : Credentials.parsePair std s = .ok (user, pass)) :
    ':' ∉ user.toList ∧ s = user ++ ":" ++ pass := by
  unfold Credentials.parsePair at h
  rcases Text.splitOnce_char ':' s.toList with ⟨before, after, hs, hr, hn⟩ | ⟨hs, -⟩
  · rw [hs] at h
    dsimp only at h
    split at h
    · cases h
    · cases h
      rw [String.toList_ofList]
      refine ⟨hn, String.toList_inj.mp ?_⟩
      rw [pair_toList, hr, String.toList_ofList, String.toList_ofList]
  · rw [hs] at h
    cases h

/-- 並べて読めた組は、どれも読めた組である。 -/
theorem parsePairs_mem {std : StdText} {lines : List String} {pairs : List (String × String)}
    (h : lines.mapM (Credentials.parsePair std) = .ok pairs) {p : String × String} (hp : p ∈ pairs) :
    ∃ s ∈ lines, Credentials.parsePair std s = .ok p := by
  induction lines generalizing pairs with
  | nil =>
    cases h
    cases hp
  | cons s rest ih =>
    rw [List.mapM_cons] at h
    cases hs : Credentials.parsePair std s with
    | error e => rw [hs] at h; cases h
    | ok q =>
      cases hrest : rest.mapM (Credentials.parsePair std) with
      | error e => rw [hs, hrest] at h; cases h
      | ok qs =>
        rw [hs, hrest] at h
        cases h
        rcases List.mem_cons.mp hp with rfl | hp
        · exact ⟨s, List.mem_cons_self, hs⟩
        · obtain ⟨s', hs', hok⟩ := ih hrest hp
          exact ⟨s', List.mem_cons_of_mem s hs', hok⟩

theorem isAuthorized_iff (pairs : List (String × String)) (header : String) :
    (Credentials.new pairs).isAuthorized (some header) = true ↔
      ∃ p ∈ pairs, basicAuthHeader p.1 p.2 = header := by
  simp [Credentials.isAuthorized, Credentials.new]

/-- 通った要求の `Authorization` は、並んだ組のどれかの header の byte 列そのものである。 -/
theorem admits_header {pairs : List (String × String)} {req : DohRequest}
    (hne : (Credentials.new pairs).isEmpty = false)
    (h : (Credentials.new pairs).admits req = true) :
    ∃ p ∈ pairs, req.header "authorization" = some (Utf8.encode (basicAuthHeader p.1 p.2)) := by
  unfold Credentials.admits at h
  rw [hne, Bool.false_or] at h
  cases hv : req.header "authorization" with
  | none =>
    rw [hv] at h
    cases h
  | some v =>
    rw [hv, Option.bind_some] at h
    unfold headerToStr at h
    by_cases hvis : (v.all fun b => 32 ≤ b && b < 127 || b == 9) = true
    · rw [if_pos hvis] at h
      cases hdec : Utf8.decode v with
      | none =>
        rw [hdec] at h
        cases h
      | some header =>
        rw [hdec] at h
        obtain ⟨p, hp, heq⟩ := (isAuthorized_iff pairs header).mp h
        refine ⟨p, hp, ?_⟩
        rw [heq, Utf8.encode_of_decode hdec]
    · rw [if_neg hvis] at h
      cases h

/--
**認証は、並んだ組のちょうどその header だけを通す。**

`lines` は `parse_pair` の読めた綴り、`pairs` はその組である。client の作る header が通るのは
組が並んでいるとき、かつそのときに限る。どちらの listener も、`Authorization` が並んだ組の header の
byte 列そのものでない要求では、handler を呼ばない。
-/
theorem basic_auth_spec {std : StdText} {lines : List String} {pairs : List (String × String)}
    (hparse : lines.mapM (Credentials.parsePair std) = .ok pairs)
    (hne : (Credentials.new pairs).isEmpty = false) :
    (∀ (slots : DohSlots W) (systemResolver : Resolver W) (host : String) (port : Option UInt16)
        (path : String) (opts : Options W) (user pass : String), ':' ∉ user.toList →
      ((Credentials.new pairs).isAuthorized
          (DohUpstream.new slots systemResolver host port path
            { opts with basicAuth := some (user, pass) }).basicAuthHeader = true ↔
        (user, pass) ∈ pairs)) ∧
    (∀ (codec : Codec) (handler : Handler W) (req : DohRequest) (w : W),
      dohCalls codec std (Credentials.new pairs) handler req w ≠ [] →
      ∃ p ∈ pairs, req.header "authorization" = some (Utf8.encode (basicAuthHeader p.1 p.2))) ∧
    (∀ (codec : Codec) (stream : H3Stream W) (handler : Handler W) (req : DohRequest) (w : W),
      doh3Calls codec std (Credentials.new pairs) stream handler req w ≠ [] →
      ∃ p ∈ pairs, req.header "authorization" = some (Utf8.encode (basicAuthHeader p.1 p.2))) := by
  refine ⟨?_, ?_, ?_⟩
  · intro slots systemResolver host port path opts user pass huser
    show (Credentials.new pairs).isAuthorized (some (basicAuthHeader user pass)) = true ↔ _
    rw [isAuthorized_iff]
    constructor
    · rintro ⟨⟨user', pass'⟩, hp, heq⟩
      obtain ⟨s, -, hs⟩ := parsePairs_mem hparse hp
      obtain ⟨hu, hpw⟩ := basicAuthHeader_inj (parsePair_ok hs).1 huser heq
      rw [← hu, ← hpw]
      exact hp
    · exact fun hp => ⟨(user, pass), hp, rfl⟩
  · intro codec handler req w hcalls
    cases hpass : (Credentials.new pairs).admits req with
    | true => exact admits_header hne hpass
    | false => exact absurd (dohCalls_not_admitted hpass handler w) hcalls
  · intro codec stream handler req w hcalls
    cases hpass : (Credentials.new pairs).admits req with
    | true => exact admits_header hne hpass
    | false => exact absurd (doh3Calls_not_admitted hpass stream handler w) hcalls

/-- まだ何も取っていない置き場所。 -/
def idleSlots : DohSlots Unit where
  client := Cell.constant none
  h3 := Cell.constant none
  preferH3 := Cell.constant none
  h3Inner _ := Cell.constant none

/-- 何も引けない resolver。 -/
def noResolver : Resolver Unit where
  lookup _ := Async.throw (.bootstrap "no resolver")
  noPanic _ := Async.NoPanic.throw _

/-- `user` と `pass` を与えられた client。 -/
def clientOf (user pass : String) : DohUpstream Unit :=
  DohUpstream.new idleSlots noResolver "dns.example" none "/dns-query"
    { basicAuth := some (user, pass) }

/-- 二人の組が並ぶとき、その組だけが通る。`:` は pass の側に入る。 -/
theorem basic_auth_two_users :
    ["alice:s:1", "bob:2"].mapM (Credentials.parsePair StdText.none)
        = .ok [("alice", "s:1"), ("bob", "2")] ∧
      (Credentials.new [("alice", "s:1"), ("bob", "2")]).isAuthorized
        (clientOf "alice" "s:1").basicAuthHeader = true ∧
      ¬ (Credentials.new [("alice", "s:1"), ("bob", "2")]).isAuthorized
        (clientOf "alice" "2").basicAuthHeader = true := by
  have hparse : ["alice:s:1", "bob:2"].mapM (Credentials.parsePair StdText.none)
      = .ok [("alice", "s:1"), ("bob", "2")] := by decide
  have hspec := (basic_auth_spec (W := Unit) hparse rfl).1 idleSlots noResolver "dns.example" none
    "/dns-query" {}
  refine ⟨hparse, (hspec "alice" "s:1" (by decide)).mpr (by decide), fun h => ?_⟩
  exact absurd ((hspec "alice" "2" (by decide)).mp h) (by decide)

/-! ## 認証を求めるかどうか -/

/-- 集まる組の綴り。 -/
def authLines (dohAuth : List String) (content : Option String) : List String :=
  dohAuth ++ content.toList.flatMap credentialLines

/-- 起動したなら、組は集まった綴りの一つ一つから出来ている。 -/
theorem dohCredentials_ok {std : StdText} {readToString : String → Except String String}
    {args : DohAuthArgs} {credentials : Credentials}
    (h : dohCredentials std readToString args = .ok credentials) :
    ∃ content pairs, readAuthFile readToString args.dohAuthFile = .ok content ∧
      (authLines args.dohAuth content).mapM (Credentials.parsePair std) = .ok pairs ∧
      credentials = Credentials.new pairs := by
  unfold dohCredentials at h
  cases hread : readAuthFile readToString args.dohAuthFile with
  | error e => rw [hread] at h; cases h
  | ok content =>
    rw [hread] at h
    cases hpairs : (authLines args.dohAuth content).mapM (Credentials.parsePair std) with
    | error e =>
      have hbind : (Except.error e >>= fun pairs => .ok (Credentials.new pairs))
          = (Except.ok credentials : Except String Credentials) := by
        rw [← hpairs]
        exact h
      cases hbind
    | ok pairs =>
      have hbind : (Except.ok pairs >>= fun pairs => .ok (Credentials.new pairs))
          = (Except.ok credentials : Except String Credentials) := by
        rw [← hpairs]
        exact h
      cases hbind
      exact ⟨content, pairs, rfl, hpairs, rfl⟩

theorem mapM_ok_nil_iff {α β : Type} {f : α → Except String β} {l : List α} {out : List β}
    (h : l.mapM f = .ok out) : out = [] ↔ l = [] := by
  cases l with
  | nil =>
    cases h
    simp
  | cons a rest =>
    rw [List.mapM_cons] at h
    cases ha : f a with
    | error e => rw [ha] at h; cases h
    | ok b =>
      cases hrest : rest.mapM f with
      | error e => rw [ha, hrest] at h; cases h
      | ok bs =>
        rw [ha, hrest] at h
        cases h
        simp

/-- 綴りが一つでも集まれば、認証が求められる。 -/
theorem isEmpty_new_iff {std : StdText} {lines : List String} {pairs : List (String × String)}
    (h : lines.mapM (Credentials.parsePair std) = .ok pairs) :
    (Credentials.new pairs).isEmpty = true ↔ lines = [] := by
  rw [← mapM_ok_nil_iff h]
  simp [Credentials.isEmpty, Credentials.new]

/-- 認証が求められるなら、`Authorization` の無い要求は通らない。 -/
theorem admits_false_of_no_header {credentials : Credentials} {req : DohRequest}
    (hne : credentials.isEmpty = false) (h : req.header "authorization" = none) :
    credentials.admits req = false := by
  unfold Credentials.admits
  rw [hne, h]
  rfl

/-- `Authorization` の無い GET の要求。 -/
def plainGet (query : Text) : DohRequest :=
  { method := .get, query := some query, headers := [], body := { chunks := [], ending := .ok () } }

/-- 読める message を載せた GET は、通れば、その message だけを handler に渡す。 -/
theorem handleRequest_log {codec : Codec} {credentials : Credentials} {req : DohRequest} {b : Bytes}
    {m : Message} (hpass : credentials.admits req = true) (hget : req.method = .get)
    (hquery : req.query = some (text "dns=" ++ Base64.encode b)) (hm : codec.fromBytes b = .ok m)
    (std : StdText) (handler : Handler W) (log : List Message) (w : W) :
    (handleRequest codec std req (recording handler) credentials (log, w)).2.1 = log ++ [m] := by
  have hdec : decodeRequest codec std (some (Base64.encode b)) [] = .ok m := by
    rw [decodeRequest_encode, unpack_ok hm]
  have hanswer : (answerDoh codec std (recording handler) (some (Base64.encode b)) []
      (log, w)).2.1 = log ++ [m] := by
    unfold answerDoh
    rw [hdec, Async.lift_bind_ok]
    refine Async.Moves.keeps (R := fun s t : List Message × W => t.1 = s.1)
      (P := fun t : List Message × W => t.1 = log ++ [m]) (fun s t hst hs => hst.trans hs) rfl ?_
    intro resp
    exact Async.Moves.bind (fun _ _ _ hst htu => htu.trans hst) (fun _ => rfl) fun bytes _ => rfl
  unfold handleRequest
  rw [Async.handle_pure_snd]
  unfold handleRequestInner
  rw [hpass, hget, hquery, Option.bind_some, findDnsParam_encode]
  exact hanswer

/-- 組が一つも無ければ、読める message を載せた GET はそのまま handler に届く。 -/
theorem dohCalls_open {codec : Codec} {credentials : Credentials} (hempty : credentials.isEmpty = true)
    {b : Bytes} {m : Message} (hm : codec.fromBytes b = .ok m) (std : StdText) (handler : Handler W)
    (w : W) :
    dohCalls codec std credentials handler (plainGet (text "dns=" ++ Base64.encode b)) w = [m] := by
  have hpass : credentials.admits (plainGet (text "dns=" ++ Base64.encode b)) = true := by
    unfold Credentials.admits
    rw [hempty]
    rfl
  exact handleRequest_log hpass rfl rfl hm std handler [] w

/-- 綴りが集まるのは、前後の空白を除くと空でも `#` で始まるものでもない行が有るときである。 -/
theorem credentialLines_ne_nil_iff {content : String} : credentialLines content ≠ [] ↔
    ∃ line ∈ Text.lines content.toList, Text.trim line ≠ [] ∧
      (Text.trim line).head? ≠ some '#' := by
  unfold credentialLines
  constructor
  · intro hne
    obtain ⟨s, hs⟩ := List.exists_mem_of_ne_nil _ hne
    obtain ⟨t, ht, -⟩ := List.mem_map.mp hs
    obtain ⟨hmem, hkeep⟩ := List.mem_filter.mp ht
    obtain ⟨line, hline, rfl⟩ := List.mem_map.mp hmem
    exact ⟨line, hline, by simpa using hkeep⟩
  · rintro ⟨line, hline, hkeep⟩
    refine List.ne_nil_of_mem (List.mem_map.mpr ⟨Text.trim line, ?_, rfl⟩)
    exact List.mem_filter.mpr ⟨List.mem_map.mpr ⟨line, hline, rfl⟩, by simpa using hkeep⟩

/--
**起動したなら、`Authorization` の無い要求が handler に届かないのは、綴りが一つでも集まるとき、
かつそのときに限る。**

綴りは、`--doh-auth` の値か、`--doh-auth-file` の空行でも注釈でもない行である。
-/
theorem auth_required_iff {std : StdText} {readToString : String → Except String String}
    {args : DohAuthArgs} {credentials : Credentials}
    (hstart : dohCredentials std readToString args = .ok credentials)
    {codec : Codec} (hcodec : ∃ b m, codec.fromBytes b = .ok m) (handler : Handler W)
    (stream : H3Stream W) (w : W) :
    (∀ req : DohRequest, req.header "authorization" = none →
      dohCalls codec std credentials handler req w = [] ∧
        doh3Calls codec std credentials stream handler req w = []) ↔
    (args.dohAuth ≠ [] ∨ ∃ path content, args.dohAuthFile = some path ∧
      readToString path = .ok content ∧ ∃ line ∈ Text.lines content.toList,
        Text.trim line ≠ [] ∧ (Text.trim line).head? ≠ some '#') := by
  obtain ⟨content, pairs, hread, hpairs, rfl⟩ := dohCredentials_ok hstart
  have hlines : authLines args.dohAuth content ≠ [] ↔
      (args.dohAuth ≠ [] ∨ ∃ path content, args.dohAuthFile = some path ∧
        readToString path = .ok content ∧ ∃ line ∈ Text.lines content.toList,
          Text.trim line ≠ [] ∧ (Text.trim line).head? ≠ some '#') := by
    simp only [← credentialLines_ne_nil_iff]
    unfold authLines
    cases hfile : args.dohAuthFile with
    | none =>
      rw [hfile] at hread
      cases hread
      simp
    | some path =>
      rw [hfile] at hread
      unfold readAuthFile at hread
      dsimp only at hread
      cases hpath : readToString path with
      | error e =>
        rw [hpath] at hread
        cases hread
      | ok t =>
        rw [hpath] at hread
        cases hread
        simp [hpath]
        tauto
  rw [← hlines]
  constructor
  · -- 綴りが無ければ、`Authorization` の無い GET が handler に届く
    intro hall hnil
    obtain ⟨b, m, hm⟩ := hcodec
    have hopen := dohCalls_open ((isEmpty_new_iff hpairs).mpr hnil) hm std handler w
    rw [(hall _ rfl).1] at hopen
    cases hopen
  · intro hne req hreq
    have hnonempty : (Credentials.new pairs).isEmpty = false :=
      Bool.eq_false_iff.mpr fun he => hne ((isEmpty_new_iff hpairs).mp he)
    have hpass := admits_false_of_no_header hnonempty hreq
    exact ⟨dohCalls_not_admitted hpass handler w, doh3Calls_not_admitted hpass stream handler w⟩

/-- 一つの file だけが読める。 -/
def singleFile (content : String) (path : String) : Except String String :=
  if path = "auth.txt" then .ok content else .error "No such file or directory"

/-- 何も書けない stream。 -/
def deadStream : H3Stream Unit where
  sendResponse _ _ w := (.err "closed", w)
  sendData _ w := (.err "closed", w)
  finish w := (.err "closed", w)

/-- 問われたものをそのまま返す handler。 -/
def mirrorHandler : Handler Unit := fun query => pure query

/-- 組を一つ書いた file では、`Authorization` の無い要求は handler に届かない。 -/
theorem auth_required_one_user :
    dohCredentials StdText.none (singleFile "# users\nalice:1\n") ⟨[], some "auth.txt"⟩
        = .ok (Credentials.new [("alice", "1")]) ∧
      dohCalls questionCodec StdText.none (Credentials.new [("alice", "1")]) mirrorHandler
        (plainGet (text "dns=" ++ Base64.encode (wireA 1 0))) () = [] := by
  have hstart : dohCredentials StdText.none (singleFile "# users\nalice:1\n")
      ⟨[], some "auth.txt"⟩ = .ok (Credentials.new [("alice", "1")]) := by rfl
  refine ⟨hstart, ((auth_required_iff hstart ⟨wireA 1 0, queryA, rfl⟩ mirrorHandler deadStream
    ()).mpr (Or.inr ⟨"auth.txt", "# users\nalice:1\n", rfl, rfl, text "alice:1", ?_⟩) _ rfl).1⟩
  decide

/-- 注釈だけの file では起動に成功し、`Authorization` の無い要求が handler に届く。 -/
theorem auth_file_of_comments_open :
    dohCredentials StdText.none (singleFile "# users\n") ⟨[], some "auth.txt"⟩
        = .ok (Credentials.new []) ∧
      (plainGet (text "dns=" ++ Base64.encode (wireA 1 0))).header "authorization" = none ∧
      dohCalls questionCodec StdText.none (Credentials.new []) mirrorHandler
        (plainGet (text "dns=" ++ Base64.encode (wireA 1 0))) () = [queryA] :=
  ⟨rfl, rfl, dohCalls_open rfl rfl StdText.none mirrorHandler ()⟩

end DnsProxy
