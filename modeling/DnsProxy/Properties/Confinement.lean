import DnsProxy.Client.Resolvers
import DnsProxy.Client.UpstreamUrl
import DnsProxy.Properties.Boundary
import DnsProxy.Properties.DohWire
import DnsProxy.Properties.Panic
import DnsProxy.Properties.ProxyChain

/-!
# 送り先

proxy が繋ぐ宛先も、送るものの届く相手も、設定に書かれたものに限る。`Authorization` は、それを持つ upstream
自身の host にだけ送られ、証明書の検査を省くのは、そう設定した upstream だけである。

名前引き・握手・往復のそれぞれについて、番号の相手がどこで決まり、どこで使われるかを追う。取ってある
client や connection で送るときは、置き場所の不変条件（`Boundary.Kept`）がその相手を決める。
-/

namespace DnsProxy

open Infra

variable {W K : Type}

/-! ## 一つの操作 -/

section

variable {B : Boundary W K} {net : Net W} {F : Set (Fact K)}

/-- 送るもののほかは、外の世界の操作が不変条件も事実も守る。 -/
theorem evolves_step (hvouch : B.Vouches net) (hrely : B.Keeps net B.Kept) {t : Wire W}
    {w : W} (h : B.Step net t.2 w) : B.ledger.Evolves t (t.1, w) :=
  ⟨fun hinv => ⟨hinv.1, hrely t.2 w h hinv.2⟩, fun f hf => hvouch.persist f t.2 w h hf⟩

/-- 出てよいものを記録しても、不変条件は守られる。 -/
theorem evolves_sending (hvouch : B.Vouches net) (hrely : B.Keeps net B.Kept) {t : Wire W}
    {w : W} {what : Transmission} (h : B.Step net t.2 w)
    (hpermits : B.Kept t.2 → B.Permits { state := t.2, what }) :
    B.ledger.Evolves t (t.1 ++ [{ state := t.2, what }], w) := by
  obtain ⟨hinv, hfacts⟩ := evolves_step hvouch hrely h
  refine ⟨fun hs => ⟨fun e he => ?_, (hinv hs).2⟩, hfacts⟩
  rcases List.mem_append.mp he with he | he
  · exact hs.1 e he
  · rw [List.mem_singleton.mp he]
    exact hpermits hs.2

variable (hvouch : B.Vouches net) (hrely : B.Keeps net B.Kept)

include hvouch hrely

theorem runs_op {ε α : Type} {f : ε → DohError} {op : Op W ε α}
    (h : ∀ w, B.Step net w (op w).2) :
    B.ledger.Runs F (Async.call f (op.onSnd : Op (Wire W) ε α)) fun _ _ => True :=
  Ledger.Runs.call fun t _ => evolves_step hvouch hrely (h t.2)

/-- 返した番号の相手を教える操作。 -/
theorem runs_vouch {ε α : Type} {f : ε → DohError} {op : Op W ε α} {c : α → Channel} {p : Remote}
    (h : ∀ w, B.Step net w (op w).2)
    (hok : ∀ w a w', F ⊆ B.facts w → op w = (.ok a, w') → .vouched (c a) p ∈ B.facts w') :
    B.ledger.Runs F (Async.call f (op.onSnd : Op (Wire W) ε α)) fun a G =>
      .vouched (c a) p ∈ G := by
  refine Ledger.Runs.call_holds (fun t _ => evolves_step hvouch hrely (h t.2))
    fun t a t' ht hop => ?_
  obtain ⟨hr, ht'⟩ := Prod.mk.inj hop
  rw [← ht']
  exact hok t.2 a _ ht.2 (Prod.ext hr rfl)

/-- 宛先に繋ぐ操作は、その宛先が設定にあるなら、繋いだものの相手を教える。 -/
theorem runs_connect {ε α : Type} {f : ε → DohError} {op : Op W ε α} {c : α → Channel} {p : Remote}
    {addr : SocketAddr} (h : ∀ w, B.Step net w (op w).2)
    (hdial : ∀ w, F ⊆ B.facts w → B.Dials w addr)
    (hok : ∀ w a w', op w = (.ok a, w') → .vouched (c a) p ∈ B.facts w') :
    B.ledger.Runs F (Async.call f (sending (.connect addr) op)) fun a G =>
      .vouched (c a) p ∈ G := by
  refine Ledger.Runs.call_holds (fun t ht => evolves_sending hvouch hrely (h t.2) fun _ =>
    ⟨fun addr' haddr => ?_, fun hne => absurd rfl (hne addr)⟩) fun t a t' ht hop => ?_
  · cases haddr
    exact hdial t.2 ht.2
  · obtain ⟨hr, ht'⟩ := Prod.mk.inj hop
    rw [← ht']
    exact hok t.2 a _ (Prod.ext hr rfl)

/-- 送ってよい相手に届くなら、送っても不変条件は守られる。 -/
theorem runs_send {ε α : Type} {f : ε → DohError} {op : Op W ε α} {p : Remote} (what : Transmission)
    (h : ∀ w, F ⊆ B.facts w → B.Step net w (op w).2) (hwhat : ∀ addr, what ≠ .connect addr)
    (hentitled : B.Entitled F p what.authorization)
    (hreach : ∀ w, B.Kept w → F ⊆ B.facts w → what.Reaches (B.facts w) (B.pooled w) p) :
    B.ledger.Runs F (Async.call f (sending what op)) fun _ _ => True :=
  Ledger.Runs.call fun t ht => evolves_sending hvouch hrely (h t.2 ht.2) fun hkept =>
    ⟨fun addr haddr => absurd haddr (hwhat addr),
      fun _ => ⟨p, hentitled t.2 ht.2, hreach t.2 hkept ht.2⟩⟩

theorem runs_lock : B.ledger.Runs F (lock (wireNet net)) fun _ _ => True :=
  Ledger.Runs.modify fun t _ => evolves_step hvouch hrely (.lock t.2)

theorem runs_instantNow : B.ledger.Runs F (instantNow (wireNet net)) fun _ _ => True :=
  Ledger.Runs.of_evolves fun t _ => evolves_step hvouch hrely (.now t.2)

theorem runs_alloc : B.ledger.Runs F (alloc (wireNet net)) fun _ _ => True :=
  Ledger.Runs.of_evolves fun t _ => evolves_step hvouch hrely (.alloc t.2)

theorem runs_random (n : Nat) : B.ledger.Runs F (randomBytes (wireNet net) n) fun _ _ => True :=
  Ledger.Runs.of_evolves fun t _ => evolves_step hvouch hrely (.random n t.2)

omit hvouch hrely in
theorem runs_lift {α : Type} (x : Outcome DohError α) :
    B.ledger.Runs F (Async.lift x) fun _ _ => True := Ledger.Runs.lift fun _ _ => trivial

omit hvouch hrely in
theorem runs_pure {α : Type} (a : α) :
    B.ledger.Runs F (pure a : Async (Wire W) DohError α) fun _ _ => True := Ledger.Runs.pure trivial

omit hvouch hrely in
theorem runs_unpackChecked {codec : Codec} {check : Message → Outcome DohError Unit} (b : Bytes) :
    B.ledger.Runs F (unpackChecked codec check b) fun _ _ => True :=
  (runs_lift _).bind fun _ _ _ _ => (runs_lift _).bind fun _ _ _ _ => runs_pure _

/-! ## 名前引きと接続 -/

variable {host : String} {port : UInt16} {timeout : Option Duration} {preferIpv6 : Bool}
  {resolver : Resolver (Wire W)} {k : K}

omit hvouch hrely in
/-- 引いた宛先は、host の綴りの IP か、名前引きの返した IP である。 -/
theorem runs_resolveAddrs (hparse : B.parseIp = net.std.parseIp)
    (hans : B.parseIp host = none → B.Answers k resolver host) :
    B.ledger.Runs F (resolveAddrs (wireNet net) host port timeout resolver preferIpv6)
      fun addrs G => ∀ addr ∈ addrs, AtHost B.parseIp G k host port addr := by
  have hips : B.ledger.Runs F (resolveIps (wireNet net) host timeout resolver) fun ips G =>
      ∀ ip ∈ ips, AtHost B.parseIp G k host port { ip, port } := by
    have hstd : (wireNet net).std.parseIp host = B.parseIp host := by
      rw [hparse]
      rfl
    unfold resolveIps
    rw [hstd]
    cases hip : B.parseIp host with
    | some ip =>
      refine Ledger.Runs.pure fun ip' hip' => ?_
      rw [List.mem_singleton.mp hip']
      exact ⟨ip, Or.inl hip, rfl⟩
    | none =>
      exact (Ledger.Runs.timeout (hans hip F)).weaken fun ips G _ hips ip hmem =>
        ⟨ip, Or.inr ⟨hip, hips ip hmem⟩, rfl⟩
  refine hips.bind fun ips G _ hips => ?_
  split
  · exact Ledger.Runs.throw
  · refine Ledger.Runs.pure fun addr haddr => ?_
    obtain ⟨ip, hip, rfl⟩ := List.mem_map.mp haddr
    exact hips ip ((List.mergeSort_perm _ _).mem_iff.mp hip)

/-- `dial` は、設定にある宛先の一つに繋いだ TCP の stream を返す。 -/
theorem runs_dial {dial : DialHandler}
    (hdials : ∀ addr ∈ dial.addrs, ∀ w, F ⊆ B.facts w → B.Dials w addr) :
    B.ledger.Runs F (dial.dial (wireNet net) .tcp) fun conn G =>
      ∃ s, conn = .tcp s ∧ ∃ addr ∈ dial.addrs, .vouched (.stream s) (.addr addr) ∈ G := by
  have hloop : ∀ (addrs : List SocketAddr) (G : Set (Fact K)), F ⊆ G →
      (∀ addr ∈ addrs, addr ∈ dial.addrs) → ∀ lastErr,
      B.ledger.Runs G (dialLoop (wireNet net) .tcp dial.timeout addrs lastErr) fun conn G =>
        ∃ s, conn = .tcp s ∧ ∃ addr ∈ dial.addrs, .vouched (.stream s) (.addr addr) ∈ G := by
    intro addrs
    induction addrs with
    | nil => exact fun _ _ _ _ => Ledger.Runs.throw
    | cons addr rest ih =>
      intro G hFG haddrs lastErr
      have haddr : addr ∈ dial.addrs := haddrs addr (by simp)
      have hone : B.ledger.Runs G (dialOne (wireNet net) addr .tcp dial.timeout) fun conn G =>
          ∃ s, conn = .tcp s ∧ ∃ addr ∈ dial.addrs, .vouched (.stream s) (.addr addr) ∈ G := by
        refine Ledger.Runs.timeout (Ledger.Runs.bind (runs_connect hvouch hrely (p := .addr addr)
          (fun w => .tcpConnect addr w) (fun w hw => hdials addr haddr w (hFG.trans hw))
          fun w s w' h => hvouch.tcpConnect addr w s w' h)
          fun s G _ hs => Ledger.Runs.pure ⟨s, rfl, addr, haddr, hs⟩)
      unfold dialLoop
      refine hone.attempt.bind fun r H hGH hr => ?_
      cases r with
      | ok conn => exact Ledger.Runs.pure (hr conn rfl)
      | error e =>
        exact ih H (hFG.trans hGH) (fun a ha => haddrs a (List.mem_cons_of_mem addr ha)) (some e)
  unfold DialHandler.dial
  split
  · exact Ledger.Runs.throw
  · exact hloop dial.addrs F Set.Subset.rfl (fun _ h => h) none

omit hvouch hrely in
/-- upstream の宛先には、繋いでよい。 -/
theorem dials_of_dialsAt {u : Upstream (Wire W)} (hu : B.upstream k = u) {addr : SocketAddr}
    (h : u.DialsAt B.parseIp F k addr) (w : W) (hw : F ⊆ B.facts w) : B.Dials w addr :=
  Or.inl ⟨k, by rw [hu]; exact h.mono hw⟩

theorem runs_dialTcp (hparse : B.parseIp = net.std.parseIp)
    (hans : B.parseIp host = none → B.Answers k resolver host)
    (hdials : ∀ G addr, AtHost B.parseIp G k host port addr → ∀ w, G ⊆ B.facts w → B.Dials w addr) :
    B.ledger.Runs F (dialTcp (wireNet net) host port timeout resolver preferIpv6) fun s G =>
      ∃ addr, AtHost B.parseIp G k host port addr ∧ .vouched (.stream s) (.addr addr) ∈ G := by
  have hdial : B.ledger.Runs F
      (resolveDialContext (wireNet net) host port timeout resolver preferIpv6)
      fun dial G => ∀ addr ∈ dial.addrs, AtHost B.parseIp G k host port addr :=
    (runs_resolveAddrs hparse hans).bind fun addrs G _ h => Ledger.Runs.pure h
  refine hdial.bind fun dial G _ haddrs => ?_
  refine (runs_dial hvouch hrely fun addr haddr => hdials G addr (haddrs addr haddr)).bind
    fun conn H hGH hconn => ?_
  obtain ⟨s, rfl, addr, haddr, hs⟩ := hconn
  exact Ledger.Runs.pure ⟨addr, (haddrs addr haddr).mono hGH, hs⟩

theorem runs_writeAll {f : String → DohError} {stream : Nat} {b : Bytes} {p : Remote}
    (hentitled : B.Entitled F p none) (hs : .vouched (.stream stream) p ∈ F) :
    B.ledger.Runs F (Async.call f ((wireNet net).writeAll stream b)) fun _ _ => True :=
  runs_send hvouch hrely (.write stream b) (fun w _ => .writeAll stream b w)
    (fun _ h => by cases h) hentitled fun _ _ h => h hs

theorem runs_exchangeFramed {stream : Nat} {b : Bytes} {p : Remote}
    (hentitled : B.Entitled F p none) (hs : .vouched (.stream stream) p ∈ F) :
    B.ledger.Runs F (exchangeFramed (wireNet net) stream b) fun _ _ => True := by
  refine (runs_writeAll hvouch hrely hentitled hs).bind fun _ G hFG _ => ?_
  refine (runs_writeAll hvouch hrely (hentitled.mono hFG) (hFG hs)).bind fun _ H _ _ => ?_
  refine (runs_op hvouch hrely fun w => .readExact stream 2 w).bind fun lenBuf _ _ _ => ?_
  refine (runs_op hvouch hrely fun w => .readExact stream _ w).bind fun respBuf _ _ _ => ?_
  exact runs_pure _

/-- 一つの datagram を送り、一つ受け取る。 -/
theorem runs_exchangeUdp {α : Type} {R : α → Set (Fact K) → Prop} {f : String → DohError}
    {addr : SocketAddr} {b : Bytes} {size : Nat}
    {k : { b : Bytes // b.length ≤ size } → Async (Wire W) DohError α}
    (hdials : ∀ w, B.Dials w addr) (hentitled : B.Entitled F (.addr addr) none)
    (hk : ∀ buf G, F ⊆ G → B.ledger.Runs G (k buf) R) :
    B.ledger.Runs F (do
      let sock ← Async.call f ((wireNet net).udpBind addr.ip.isIpv4)
      Async.call f ((wireNet net).udpConnect sock addr)
      Async.call f ((wireNet net).udpSend sock b)
      let buf ← Async.call f ((wireNet net).udpRecv sock size)
      k buf) R := by
  refine (runs_op hvouch hrely fun w => .udpBind _ w).bind fun sock G hFG _ => ?_
  refine (runs_connect hvouch hrely (c := fun _ => .udp sock) (p := .addr addr)
    (fun w => .udpConnect sock addr w) (fun w _ => hdials w)
    fun w _ w' h => hvouch.udpConnect sock addr w w' h).bind fun _ H hGH hsock => ?_
  refine (runs_send hvouch hrely (.datagram sock b) (fun w _ => .udpSend sock b w)
    (fun _ h => by cases h) (hentitled.mono (hFG.trans hGH))
    fun _ _ h => h hsock).bind fun _ I hHI _ => ?_
  exact (runs_op hvouch hrely fun w => .udpRecv sock size w).bind fun buf J hIJ _ =>
    hk buf J (hFG.trans (hGH.trans (hHI.trans hIJ)))

/-! ## 素の DNS と DoT -/

variable {codec : Codec} {suite : CryptoSuite} {check : Message → Outcome DohError Unit}
  {req : Message}

omit hvouch hrely in
/-- upstream の相手には、その upstream の `Authorization` を送ってよい。 -/
theorem entitled_of_reaches {u : Upstream (Wire W)} (hu : B.upstream k = u) {p : Remote}
    (h : u.Reaches B.parseIp F k p) : B.Entitled F p u.authorization := fun w hw =>
  Or.inl ⟨k, by rw [hu]; exact h.mono hw, by rw [hu]⟩

theorem runs_plainUdp {u : PlainUdpUpstream} (hu : B.upstream k = .plainUdp u) :
    B.ledger.Runs F (u.exchangeWith codec (wireNet net) check req) fun _ _ => True := by
  have hdials : ∀ w, B.Dials w u.addr := fun w => Or.inl ⟨k, by rw [hu]; rfl⟩
  refine (runs_lift _).bind fun b _ _ _ => Ledger.Runs.timeout ?_
  exact runs_exchangeUdp hvouch hrely hdials (entitled_of_reaches hu (p := .addr u.addr) rfl)
    fun buf _ _ => runs_unpackChecked _

theorem runs_plainTcp (hparse : B.parseIp = net.std.parseIp) {u : PlainTcpUpstream (Wire W)}
    (hu : B.upstream k = .plainTcp u) (hans : B.parseIp u.host = none → B.Answers k u.resolver u.host) :
    B.ledger.Runs F (u.exchangeWith codec (wireNet net) check req) fun _ _ => True := by
  refine (runs_lift _).bind fun b _ _ _ => Ledger.Runs.timeout ?_
  refine (runs_dialTcp hvouch hrely hparse hans fun G addr h => dials_of_dialsAt hu h).bind
    fun tcp G _ htcp => ?_
  obtain ⟨addr, haddr, hs⟩ := htcp
  have hentitled : B.Entitled G (.addr addr) none := entitled_of_reaches hu ⟨addr, haddr, rfl⟩
  exact (runs_exchangeFramed hvouch hrely hentitled hs).bind fun buf _ _ _ => runs_unpackChecked _

theorem runs_dot (hparse : B.parseIp = net.std.parseIp) {u : DotUpstream (Wire W)}
    (hu : B.upstream k = .dot u) (hans : B.parseIp u.host = none → B.Answers k u.resolver u.host) :
    B.ledger.Runs F (u.exchangeWith codec (wireNet net) check req) fun _ _ => True := by
  have hdial : ∀ F, B.ledger.Runs F (u.dial (wireNet net)) fun s G =>
      .vouched (.stream s) (.host u.host u.insecureSkipVerify) ∈ G := by
    intro F
    refine (runs_dialTcp hvouch hrely hparse hans fun G addr h => dials_of_dialsAt hu h).bind
      fun tcp _ _ _ => (runs_lift _).bind fun _ _ _ _ => ?_
    exact runs_vouch hvouch hrely (fun w => .tlsConnect _ u.host tcp w)
      fun w s w' _ h => hvouch.tlsConnect _ u.host tcp w s w' h
  refine (runs_lift _).bind fun b _ _ _ => Ledger.Runs.timeout ((hdial _).bind fun tls G _ htls => ?_)
  have hentitled : B.Entitled G (.host u.host u.insecureSkipVerify) none :=
    entitled_of_reaches hu rfl
  exact (runs_exchangeFramed hvouch hrely hentitled htls).bind fun buf _ _ _ =>
    runs_unpackChecked _

/-! ## DoQ -/

omit hvouch hrely in
theorem runs_firstAddr {addrs : List SocketAddr} :
    B.ledger.Runs F (Async.lift (firstAddr host addrs)) fun addr _ => addr ∈ addrs := by
  refine Ledger.Runs.lift fun addr h => ?_
  unfold firstAddr at h
  split at h
  · next addr' hhead =>
    cases h
    exact List.mem_of_head? hhead
  · cases h

section

variable (hparse : B.parseIp = net.std.parseIp) {u : DoqUpstream (Wire W)}
  (hu : B.upstream k = .doq u) (hans : B.parseIp u.host = none → B.Answers k u.resolver u.host)

include hparse hu hans in
theorem runs_doqDial : B.ledger.Runs F (u.dial (wireNet net)) fun c G =>
    .vouched (.quic c) (.host u.host u.insecureSkipVerify) ∈ G := by
  refine (runs_resolveAddrs hparse hans).bind fun addrs G _ haddrs =>
    runs_firstAddr.bind fun addr H hGH haddr => ?_
  exact runs_connect hvouch hrely (fun w => .dialQuic addr u.host _ w)
    (dials_of_dialsAt hu ((haddrs addr haddr).mono hGH))
    fun w c w' h => hvouch.dialQuic addr u.host _ w c w' h

include hu in
theorem runs_exchangeOn {conn : Nat}
    (hconn : .vouched (.quic conn) (.host u.host u.insecureSkipVerify) ∈ F) :
    B.ledger.Runs F (u.exchangeOnWith codec (wireNet net) conn check req) fun _ _ => True := by
  have hentitled : B.Entitled F (.host u.host u.insecureSkipVerify) none :=
    entitled_of_reaches hu rfl
  refine (runs_lift _).bind fun b G hFG _ => Ledger.Runs.timeout (Ledger.Runs.bind
    (Q := fun _ _ => True) ?_ fun buf _ _ _ => runs_lift _)
  refine (runs_vouch hvouch hrely (c := .stream) (p := .host u.host u.insecureSkipVerify)
    (fun w => .quicOpenBi conn w) fun w s w' hw h =>
      hvouch.quicOpenBi conn _ w s w' (hw (hFG hconn)) h).bind fun stream H hGH hs => ?_
  have hentitled : B.Entitled H (.host u.host u.insecureSkipVerify) none :=
    hentitled.mono (hFG.trans hGH)
  refine (runs_writeAll hvouch hrely hentitled hs).bind fun _ I hHI _ => ?_
  refine (runs_writeAll hvouch hrely (hentitled.mono hHI) (hHI hs)).bind fun _ _ _ _ => ?_
  refine (runs_op hvouch hrely fun w => .quicFinish stream w).bind fun _ _ _ _ => ?_
  refine (runs_op hvouch hrely fun w => .readExact stream 2 w).bind fun lenBuf _ _ _ => ?_
  dsimp only
  split
  · exact Ledger.Runs.throw
  · exact (runs_op hvouch hrely fun w => .readExact stream _ w).bind fun _ _ _ _ => runs_pure _

include hparse hu hans in
theorem runs_doq (hapart : B.Apart) :
    B.ledger.Runs F (u.exchangeWith codec (wireNet net) check req) fun _ _ => True := by
  have hget : B.ledger.Runs F (u.getConn (wireNet net)) fun p G =>
      .vouched (.quic p.1) (.host u.host u.insecureSkipVerify) ∈ G := by
    refine (runs_lock hvouch hrely).bind fun _ _ _ _ =>
      (runs_readConn hapart hu).bind fun c G _ hc => ?_
    cases c with
    | some c => exact Ledger.Runs.pure (hc c rfl)
    | none =>
      refine (runs_doqDial hvouch hrely hparse hu hans).bind fun c H _ hc => ?_
      refine (runs_writeConn hapart hu (c := some c) fun n h => (by cases h; exact hc)).bind
        fun _ I hHI _ => Ledger.Runs.pure (hHI hc)
  refine hget.bind fun p G _ hp => (runs_exchangeOn hvouch hrely hu hp).handle fun e => ?_
  split
  · refine Ledger.Runs.bind
      (Q := fun c G => .vouched (.quic c) (.host u.host u.insecureSkipVerify) ∈ G) ?_
      fun c H _ hc => runs_exchangeOn hvouch hrely hu hc
    refine (runs_lock hvouch hrely).bind fun _ _ _ _ =>
      (runs_doqDial hvouch hrely hparse hu hans).bind fun c H _ hc => ?_
    exact (runs_writeConn hapart hu (c := some c) fun n h => by cases h; exact hc).bind
      fun _ I hHI _ => Ledger.Runs.pure (hHI hc)
  · refine Ledger.Runs.bind (Q := fun _ _ => True) ?_ fun _ _ _ _ => Ledger.Runs.throw
    exact (runs_lock hvouch hrely).bind fun _ _ _ _ =>
      runs_writeConn hapart hu (c := none) fun n h => by cases h

end

/-! ## HTTP/1.1 と HTTP/2 の接続 -/

section

variable {client : HttpClient} {outer : Option Duration}
  (hdials : ∀ addr ∈ client.dial.addrs, ∀ w, F ⊆ B.facts w → B.Dials w addr)

include hdials

/-- connector の返す接続は、client の相手に繋がっている。 -/
theorem runs_httpsConnect : B.ledger.Runs F (client.connect (wireNet net) outer) fun s G =>
    .vouched (.stream s) client.remote ∈ G := by
  have hdial : ∀ d : DialHandler, d.addrs = client.dial.addrs →
      B.ledger.Runs F (d.dial (wireNet net) .tcp) fun conn _ => ∃ s, conn = .tcp s := by
    intro d hd
    rw [← hd] at hdials
    exact (runs_dial hvouch hrely hdials).weaken fun conn _ _ h => by
      obtain ⟨s, hs, -⟩ := h
      exact ⟨s, hs⟩
  refine (hdial { client.dial with timeout := innerTimeout outer client.dial.timeout } rfl).bind
    fun conn G _ hconn => ?_
  obtain ⟨tcp, rfl⟩ := hconn
  refine (runs_lift _).bind fun _ _ _ _ => ?_
  exact runs_vouch hvouch hrely (fun w => .tlsConnect _ client.serverName tcp w)
    fun w s w' _ h => hvouch.tlsConnect _ client.serverName tcp w s w' h

theorem runs_connectTimes (n : Nat) : ∀ {G : Set (Fact K)} {conns : List (Except DohError Nat)},
    F ⊆ G → (∀ s, .ok s ∈ conns → .vouched (.stream s) client.remote ∈ G) →
    B.ledger.Runs G (client.connectTimes (wireNet net) outer n conns) fun conns H =>
      ∀ s, .ok s ∈ conns → .vouched (.stream s) client.remote ∈ H := by
  induction n with
  | zero => exact fun _ hconns => Ledger.Runs.pure hconns
  | succ n ih =>
    intro G conns hFG hconns
    refine (runs_httpsConnect hvouch hrely fun addr haddr w hw =>
      hdials addr haddr w (hFG.trans hw)).attempt.bind fun conn H hGH hconn => ?_
    refine ih (hFG.trans hGH) fun s hs => ?_
    rcases List.mem_append.mp hs with hs | hs
    · exact hGH (hconns s hs)
    · exact hconn s (List.mem_singleton.mp hs).symm

/-- 要求は、取ってある接続か今の接続に載って、client の相手に届く。 -/
theorem runs_request {req : HttpRequest}
    (hentitled : B.Entitled F client.remote req.authorization) :
    B.ledger.Runs F (client.request (wireNet net) outer req) fun _ _ => True := by
  refine Ledger.Runs.bind (Ledger.Runs.of_evolves fun t _ =>
    evolves_step hvouch hrely (.httpConnects client req t.2)) fun n G hFG _ => ?_
  refine (runs_connectTimes hvouch hrely hdials n hFG fun s hs => by cases hs).bind
    fun conns H hGH hconns => ?_
  refine runs_send hvouch hrely (.http client req conns)
    (fun w hw => .httpRequest client req conns w fun s hs => hw (hconns s hs))
    (fun _ h => by cases h) (hentitled.mono (hFG.trans hGH)) fun w hkept hw s hs => ?_
  rcases hs with hs | hs
  · exact hkept.pooled client s hs
  · exact hw (hconns s hs)

end

/-! ## DoH -/

section

variable (hparse : B.parseIp = net.std.parseIp) (hapart : B.Apart) {u : DohUpstream (Wire W)}
  (hu : B.upstream k = .doh u) (hans : B.parseIp u.host = none → B.Answers k u.resolver u.host)

include hu

/-- HTTP/3 の接続は、transport の相手に繋がる。 -/
theorem runs_connectH3 {t : Http3Transport} (ht : t.Of B.parseIp F k (.doh u)) :
    B.ledger.Runs F (t.connect (wireNet net)) fun s G =>
      .vouched (.h3 s) (.host u.host u.insecureSkipVerify) ∈ G := by
  have hremote : t.remote = .host u.host u.insecureSkipVerify := ht.remote
  rw [← hremote]
  refine (runs_connect hvouch hrely (c := .quic) (p := t.remote)
    (fun w => .dialQuic t.serverAddr t.serverName t.tlsConfig w) (dials_of_dialsAt hu ht.addr)
    fun w c w' h => hvouch.dialQuic _ _ _ w c w' h).bind fun conn G _ hconn => ?_
  exact runs_vouch hvouch hrely (fun w => .h3New conn w)
    fun w s w' hw h => hvouch.h3New conn _ w s w' (hw hconn) h

include hapart

theorem runs_resetH3 {t : Http3Transport} (ht : t.Of B.parseIp F k (.doh u)) :
    B.ledger.Runs F (t.reset (wireNet net) (u.h3Inner t.id)) fun _ _ => True := by
  refine (runs_lock hvouch hrely).bind fun _ G hFG _ =>
    (runs_connectH3 hvouch hrely hu (ht.mono hFG)).bind fun s _ _ hs => ?_
  exact (runs_writeSender hapart hu t.id (s := some s) fun n h => by cases h; exact hs).bind
    fun _ _ _ _ => runs_pure _

/-- 要求は、transport の相手に、その upstream の `Authorization` とともに送られる。 -/
theorem runs_exchangeTransport {t : Http3Transport} (ht : t.Of B.parseIp F k (.doh u)) :
    B.ledger.Runs F (t.exchangeWith codec (wireNet net) (u.h3Inner t.id) check req)
      fun _ _ => True := by
  have hsender : B.ledger.Runs F (t.getSender (wireNet net) (u.h3Inner t.id)) fun s G =>
      .vouched (.h3 s) (.host u.host u.insecureSkipVerify) ∈ G := by
    refine (runs_lock hvouch hrely).bind fun _ G hFG _ => (runs_readSender hapart hu t.id).bind
      fun s H hGH hs => ?_
    cases s with
    | some s => exact Ledger.Runs.pure (hs s rfl)
    | none =>
      refine (runs_connectH3 hvouch hrely hu (ht.mono (hFG.trans hGH))).bind fun s _ _ hs => ?_
      exact (runs_writeSender hapart hu t.id (s := some s) fun n h => by cases h; exact hs).bind
        fun _ I hHI _ => Ledger.Runs.pure (hHI hs)
  have hentitled : B.Entitled F (.host u.host u.insecureSkipVerify) t.basicAuthHeader := by
    rw [ht.authorization]
    exact entitled_of_reaches hu rfl
  refine hsender.bind fun s G hFG hs => (runs_lift _).bind fun p H hGH _ => ?_
  refine (runs_lift _).bind fun _ I hHI _ => Ledger.Runs.bind (Q := fun _ _ => True)
    (Ledger.Runs.timeout ?_) fun body _ _ _ => runs_lift _
  refine (runs_send hvouch hrely (.h3 s _) (fun w _ => .h3SendRequest s _ w)
    (fun _ h => by cases h) (hentitled.mono (hFG.trans (hGH.trans hHI)))
    fun _ _ h => h (hHI (hGH hs))).bind fun stream _ _ _ => ?_
  refine (runs_op hvouch hrely fun w => .h3Finish stream w).bind fun _ _ _ _ => ?_
  refine (runs_op hvouch hrely fun w => .h3RecvResponse stream w).bind fun status _ _ _ => ?_
  split
  · exact Ledger.Runs.throw
  · exact Ledger.Runs.of_evolves fun t _ => evolves_step hvouch hrely (.h3RecvData stream t.2)

include hparse hans

/-- 取ってあった transport も、作った transport も、その upstream のものである。 -/
theorem runs_getH3Transport : B.ledger.Runs F (u.getH3Transport (wireNet net)) fun p G =>
    p.1.Of B.parseIp G k (.doh u) := by
  refine (runs_lock hvouch hrely).bind fun _ _ _ _ =>
    (runs_readH3 hapart hu).bind fun c _ _ hc => ?_
  cases c with
  | some t => exact Ledger.Runs.pure (hc t rfl)
  | none =>
    refine (runs_resolveAddrs hparse hans).bind fun addrs G _ haddrs =>
      runs_firstAddr.bind fun addr H hGH haddr => ?_
    refine (runs_alloc hvouch hrely).bind fun id I hHI _ => ?_
    refine (runs_writeSender hapart hu id (s := none) fun n h => by cases h).bind
      fun _ J hIJ _ => ?_
    have haddr : AtHost B.parseIp J k u.host u.port addr :=
      (haddrs addr haddr).mono (hGH.trans (hHI.trans hIJ))
    refine Ledger.Runs.bind (Q := fun _ _ => True) (runs_writeH3 hapart hu fun t ht => ?_)
      fun _ L hJL _ => Ledger.Runs.pure ⟨rfl, haddr.mono hJL, rfl, rfl⟩
    cases ht
    exact ⟨rfl, haddr, rfl, rfl⟩

theorem runs_exchangeH3 :
    B.ledger.Runs F (u.exchangeH3With codec (wireNet net) check req) fun _ _ => True := by
  refine (runs_getH3Transport hvouch hrely hparse hapart hu hans).bind fun p _ _ hp => ?_
  refine (runs_exchangeTransport hvouch hrely hapart hu hp).handle fun e => ?_
  split
  · exact (runs_resetH3 hvouch hrely hapart hu hp).bind fun _ _ hGH _ =>
      runs_exchangeTransport hvouch hrely hapart hu (hp.mono hGH)
  · refine Ledger.Runs.bind (Q := fun _ _ => True) ?_ fun _ _ _ _ => Ledger.Runs.throw
    exact (runs_lock hvouch hrely).bind fun _ _ _ _ =>
      runs_writeH3 hapart hu (c := none) fun t h => by cases h

omit hvouch hrely hapart hu in
theorem runs_createClient : B.ledger.Runs F (u.createClient (wireNet net)) fun client G =>
    client.Of B.parseIp G k (.doh u) := by
  refine Ledger.Runs.bind (Q := fun dial G => ∀ addr ∈ dial.addrs,
    AtHost B.parseIp G k u.host u.port addr) ((runs_resolveAddrs hparse hans).bind fun _ _ _ h =>
      Ledger.Runs.pure h) fun dial _ _ haddrs => ?_
  dsimp only
  split
  · exact Ledger.Runs.throw
  · exact Ledger.Runs.pure ⟨rfl, haddrs⟩

omit hparse hapart hans in
/-- 要求は、client の相手に、その upstream の `Authorization` とともに送られる。 -/
theorem runs_exchangeHttps {client : HttpClient} (hclient : client.Of B.parseIp F k (.doh u)) :
    B.ledger.Runs F (u.exchangeHttpsWith codec (wireNet net) client check req) fun _ _ => True := by
  refine (runs_lift _).bind fun p G hFG _ => (runs_lift _).bind fun _ H hGH _ => ?_
  have hclient : client.Of B.parseIp H k (.doh u) := hclient.mono (hFG.trans hGH)
  have hentitled : B.Entitled H client.remote u.basicAuthHeader :=
    entitled_of_reaches hu hclient.remote
  refine Ledger.Runs.bind (Q := fun _ _ => True) (Ledger.Runs.timeout (runs_request hvouch hrely
    (fun addr haddr => dials_of_dialsAt hu (hclient.addrs addr haddr)) hentitled))
    fun r _ _ _ => ?_
  refine (runs_op hvouch hrely fun w => .httpCollect r.2 w).bind fun body _ _ _ => ?_
  split
  · exact Ledger.Runs.throw
  split
  · exact Ledger.Runs.throw
  · exact runs_lift _

omit hparse hapart hu hans in
/-- HTTP/3 を試すところでは、繋いで握手をするだけで、何も送らない。 -/
theorem runs_probeH3 {addr : SocketAddr} {name : String} {tlsConfig : TlsConfig}
    {supported : Bool} (hdials : ∀ w, F ⊆ B.facts w → B.Dials w addr) :
    B.ledger.Runs F (probeH3 (wireNet net) addr name tlsConfig timeout supported)
      fun _ _ => True := by
  have hsucceeded : ∀ {α : Type} {G : Set (Fact K)} {x : Async (Wire W) DohError α},
      B.ledger.Runs G x (fun _ _ => True) → B.ledger.Runs G (succeeded x) fun _ _ => True :=
    fun hx => hx.attempt.bind fun _ _ _ _ => runs_pure _
  unfold probeH3
  split
  · exact runs_pure _
  refine Ledger.Runs.bind (Ledger.Runs.attempt (Ledger.Runs.timeout (Q := fun _ _ => True) ?_))
    fun _ _ _ _ => runs_pure _
  refine (runs_op hvouch hrely fun w => .quicFirst w).bind fun quicFirst G hFG _ => ?_
  have hdials : ∀ w, G ⊆ B.facts w → B.Dials w addr := fun w hw => hdials w (hFG.trans hw)
  split
  · exact hsucceeded ((runs_connect hvouch hrely (fun w => .dialQuic addr name tlsConfig w) hdials
      fun w c w' h => hvouch.dialQuic addr name tlsConfig w c w' h).weaken fun _ _ _ _ => trivial)
  · refine (hsucceeded ?_).bind fun _ _ _ _ => runs_pure _
    refine (runs_connect hvouch hrely (fun w => .tcpConnect addr w) hdials
      fun w s w' h => hvouch.tcpConnect addr w s w' h).bind fun tcp _ _ _ => ?_
    refine (runs_lift _).bind fun _ _ _ _ => ?_
    exact (runs_op hvouch hrely fun w => .tlsConnect _ name tcp w).bind fun _ _ _ _ => runs_pure _

theorem runs_shouldUseHttp3 :
    B.ledger.Runs F (u.shouldUseHttp3 (wireNet net)) fun _ _ => True := by
  unfold DohUpstream.shouldUseHttp3
  split
  · exact runs_pure _
  split
  · exact runs_pure _
  refine (runs_lock hvouch hrely).bind fun _ _ _ _ => ?_
  refine Ledger.Runs.bind (Ledger.Runs.gets_inv (P := fun _ => True) fun _ _ => trivial)
    fun prefer _ _ _ => ?_
  cases prefer with
  | some prefer => exact runs_pure _
  | none =>
    refine (runs_resolveAddrs hparse hans).bind fun addrs G _ haddrs =>
      runs_firstAddr.bind fun addr H hGH haddr => ?_
    refine (runs_probeH3 hvouch hrely (dials_of_dialsAt hu ((haddrs addr haddr).mono hGH))).bind
      fun prefer _ _ _ => ?_
    refine (runs_lock hvouch hrely).bind fun _ _ _ _ => Ledger.Runs.bind (Ledger.Runs.modify
      fun t _ => (hapart.setPreferH3 k u hu (some prefer) t).evolves) fun _ _ _ _ => runs_pure _

theorem runs_doh :
    B.ledger.Runs F (u.exchangeWith codec (wireNet net) check req) fun _ _ => True := by
  -- 作った client は、取っておいてから使う
  have hstore : ∀ {α : Type} {G : Set (Fact K)} {c : HttpClient} {a : α},
      c.Of B.parseIp G k (.doh u) → B.ledger.Runs G (do
        Async.write u.client (some c)
        pure a : Async (Wire W) DohError α) fun a' H => a' = a ∧ c.Of B.parseIp H k (.doh u) :=
    fun hc => (runs_writeClient hapart hu fun client h => by cases h; exact hc).bind
      fun _ _ hGH _ => Ledger.Runs.pure ⟨rfl, hc.mono hGH⟩
  have hget : ∀ G, B.ledger.Runs G (u.getClient (wireNet net)) fun p H =>
      p.1.Of B.parseIp H k (.doh u) := by
    intro G
    refine (runs_lock hvouch hrely).bind fun _ _ _ _ =>
      (runs_readClient hapart hu).bind fun c _ _ hc => ?_
    cases c with
    | some c => exact Ledger.Runs.pure (hc c rfl)
    | none =>
      refine (runs_instantNow hvouch hrely).bind fun start _ _ _ =>
        (runs_createClient hparse hans).bind fun client _ _ hclient => ?_
      refine Ledger.Runs.bind (Q := fun _ _ => True) ?_ fun _ _ hGH _ =>
        (hstore (hclient.mono hGH)).weaken fun p _ _ hp => by rw [hp.1]; exact hp.2
      unfold DohUpstream.checkElapsed
      split
      · exact runs_pure _
      · refine (runs_instantNow hvouch hrely).bind fun now _ _ _ => ?_
        split
        · exact (runs_instantNow hvouch hrely).bind fun _ _ _ _ => Ledger.Runs.throw
        · exact runs_pure _
  have hreset : ∀ G, B.ledger.Runs G (u.resetClient (wireNet net)) fun client H =>
      client.Of B.parseIp H k (.doh u) := fun G =>
    (runs_lock hvouch hrely).bind fun _ _ _ _ => (runs_createClient hparse hans).bind
      fun client _ _ hclient => (hstore hclient).weaken fun c _ _ hc => by rw [hc.1]; exact hc.2
  refine (runs_shouldUseHttp3 hvouch hrely hparse hapart hu hans).bind fun useH3 G _ _ => ?_
  split
  · exact runs_exchangeH3 hvouch hrely hparse hapart hu hans
  refine (hget _).bind fun p _ _ hp => ?_
  refine (runs_exchangeHttps hvouch hrely hu hp).handle fun e => ?_
  split
  · exact (hreset _).bind fun client _ _ hclient => runs_exchangeHttps hvouch hrely hu hclient
  · refine Ledger.Runs.bind (Q := fun _ _ => True) ?_ fun _ _ _ _ => Ledger.Runs.throw
    exact (runs_lock hvouch hrely).bind fun _ _ _ _ =>
      runs_writeClient hapart hu (c := none) fun client h => by cases h

end

/-! ## DNSCrypt -/

section

variable {u : DnsCryptUpstream (Wire W)}

/-- 相手は、stamp に書かれた宛先だけである。 -/
theorem runs_stampUdp (hu : B.upstream k = .dnsCrypt u) (b : Bytes) :
    B.ledger.Runs F (u.exchangeUdp (wireNet net) b) fun _ _ => True :=
  runs_exchangeUdp hvouch hrely (fun _ => Or.inl ⟨k, by rw [hu]; rfl⟩) (entitled_of_reaches hu rfl)
    fun _ _ _ => runs_pure _

theorem runs_stampTcp (hu : B.upstream k = .dnsCrypt u) (b : Bytes) :
    B.ledger.Runs F (u.exchangeTcp (wireNet net) b) fun _ _ => True := by
  unfold DnsCryptUpstream.exchangeTcp
  split
  · exact Ledger.Runs.throw
  · exact (runs_connect hvouch hrely (c := .stream) (p := .addr u.stamp.addr)
      (fun w => .tcpConnect _ w) (fun w _ => Or.inl ⟨k, by rw [hu]; rfl⟩)
      fun w s w' h => hvouch.tcpConnect _ w s w' h).bind
      fun tcp _ _ hs => runs_exchangeFramed hvouch hrely (entitled_of_reaches hu rfl) hs

omit hvouch hrely in
theorem runs_note (hapart : B.Apart) (hu : B.upstream k = .dnsCrypt u) (e : CertEvent) :
    B.ledger.Runs F (u.note e) fun _ _ => True :=
  Ledger.Runs.modify fun t _ => (hapart.setLog k u hu _ t).evolves

theorem runs_refreshCert (hapart : B.Apart) (hu : B.upstream k = .dnsCrypt u) :
    B.ledger.Runs F (u.refreshCert codec suite (wireNet net)) fun _ _ => True := by
  refine Ledger.Runs.bind (Q := fun _ _ => True) ?_ fun txt _ _ _ => ?_
  · refine (runs_note hapart hu _).bind fun _ _ _ _ => (runs_lift _).bind fun name _ _ _ => ?_
    refine (runs_random hvouch hrely 2).bind fun id _ _ _ => (runs_lift _).bind fun b _ _ _ => ?_
    exact (runs_stampUdp hvouch hrely hu b).bind fun buf _ _ _ =>
      (runs_lift _).bind fun _ _ _ _ => runs_pure _
  refine (runs_lift _).bind fun certs _ _ _ => Ledger.Runs.bind
    (Ledger.Runs.gets_inv (P := fun _ => True) fun _ _ => trivial) fun now _ _ _ => ?_
  refine (runs_lift _).bind fun cert _ _ _ => (runs_lock hvouch hrely).bind fun _ _ _ _ => ?_
  exact Ledger.Runs.bind (Ledger.Runs.modify fun t _ => (hapart.setCert k u hu _ t).evolves)
    fun _ _ _ _ => runs_pure _

/-- UDP の応答が切り詰められていれば、同じ宛先に TCP で訊き直す。 -/
theorem runs_exchangeWithCert (hapart : B.Apart) (hu : B.upstream k = .dnsCrypt u)
    (cert : Certificate) :
    B.ledger.Runs F (u.exchangeWithCertWith codec suite (wireNet net) cert check req)
      fun _ _ => True := by
  have hfinish : ∀ resp G, B.ledger.Runs G (DnsCryptUpstream.finish check resp) fun _ _ => True :=
    fun resp G => (runs_lift _).bind fun _ _ _ _ => runs_pure _
  refine (runs_lift _).bind fun b _ _ _ => Ledger.Runs.bind (Q := fun _ _ => True)
    ((runs_random hvouch hrely 32).bind fun _ _ _ _ => runs_pure _) fun client _ _ _ => ?_
  refine Ledger.Runs.bind (Q := fun _ _ => True) ((runs_random hvouch hrely 12).bind
    fun nonce _ _ _ => (runs_lift _).bind fun _ _ _ _ => runs_pure _) fun p _ _ _ => ?_
  refine (runs_note hapart hu _).bind fun _ _ _ _ =>
    (runs_stampUdp hvouch hrely hu _).bind fun encResp _ _ _ => ?_
  refine (runs_lift _).bind fun resp _ _ _ => ?_
  split
  · exact (runs_stampTcp hvouch hrely hu _).bind fun _ _ _ _ =>
      (runs_lift _).bind fun resp _ _ _ => hfinish resp _
  · exact hfinish resp _

theorem runs_dnsCrypt (hapart : B.Apart) (hu : B.upstream k = .dnsCrypt u) :
    B.ledger.Runs F (u.exchangeWith codec suite (wireNet net) check req) fun _ _ => True := by
  refine Ledger.Runs.timeout (Ledger.Runs.bind (Q := fun _ _ => True) ?_ fun cert _ _ _ =>
    (runs_exchangeWithCert hvouch hrely hapart hu cert).handle fun e => ?_)
  · refine (runs_lock hvouch hrely).bind fun _ _ _ _ => Ledger.Runs.bind
      (Ledger.Runs.gets_inv (P := fun _ => True) fun _ _ => trivial) fun cached _ _ _ => ?_
    cases cached with
    | some cert => exact runs_pure _
    | none => exact runs_refreshCert hvouch hrely hapart hu
  · have hretry : ∀ G, B.ledger.Runs G (do
        let cert ← u.refreshCert codec suite (wireNet net)
        u.exchangeWithCertWith codec suite (wireNet net) cert check req) fun _ _ => True :=
      fun G => (runs_refreshCert hvouch hrely hapart hu).bind fun cert _ _ _ =>
        runs_exchangeWithCert hvouch hrely hapart hu cert
    cases e with
    | timeout d => exact hretry _
    | io e => exact hretry _
    | _ => exact Ledger.Runs.throw

end

/-! ## upstream -/

/-- **どの transport でも、送るものは設定に書かれた相手にだけ届く。** -/
theorem Upstream.runs_exchange (hparse : B.parseIp = net.std.parseIp) (hapart : B.Apart) (k : K)
    (hans : ∀ r host, (B.upstream k).resolver = some r → (B.upstream k).host? = some host →
      B.parseIp host = none → B.Answers k r host) :
    B.ledger.Runs F ((B.upstream k).exchange codec suite (wireNet net) req) fun _ _ => True := by
  cases hu : B.upstream k with
  | doh u =>
    exact runs_doh hvouch hrely hparse hapart hu
      (hans u.resolver u.host (by rw [hu]; rfl) (by rw [hu]; rfl))
  | dot u =>
    exact runs_dot hvouch hrely hparse hu
      (hans u.resolver u.host (by rw [hu]; rfl) (by rw [hu]; rfl))
  | doq u =>
    exact runs_doq hvouch hrely hparse hu
      (hans u.resolver u.host (by rw [hu]; rfl) (by rw [hu]; rfl)) hapart
  | dnsCrypt u => exact runs_dnsCrypt hvouch hrely hapart hu
  | plainUdp u => exact runs_plainUdp hvouch hrely hu
  | plainTcp u =>
    exact runs_plainTcp hvouch hrely hparse hu
      (hans u.resolver u.host (by rw [hu]; rfl) (by rw [hu]; rfl))

omit hvouch hrely in
/-- host が IP の綴りの upstream の繋ぐ宛先は、`dialAddrs` の列の中にある。 -/
theorem Upstream.DialsAt.mem_dialAddrs {u : Upstream (Wire W)} {G : Set (Fact K)}
    {addr : SocketAddr} (h : u.DialsAt net.std.parseIp G k addr)
    (hliteral : ∀ host, u.host? = some host → ∃ ip, net.std.parseIp host = some ip)
    {addrs : List SocketAddr} {t t' : Wire W}
    (haddrs : u.dialAddrs (wireNet net) t = (.ok addrs, t')) : addr ∈ addrs := by
  -- host を持つものは、どれも同じ `resolve_addrs` で宛先を求める
  have hresolve : ∀ {host port timeout resolver preferV6}, u.host? = some host →
      AtHost net.std.parseIp G k host port addr →
      resolveAddrs (wireNet net) host port timeout resolver preferV6 t = (.ok addrs, t') →
      addr ∈ addrs := by
    intro host port timeout resolver preferV6 hhost hat hrun
    obtain ⟨ip, hip⟩ := hliteral host hhost
    obtain ⟨ip', hip', rfl⟩ := hat
    have hsame : net.std.parseIp host = some ip' := by
      rcases hip' with hip' | ⟨hnone, -⟩
      · exact hip'
      · rw [hip] at hnone
        cases hnone
    have hstd : (wireNet net).std.parseIp host = some ip' := hsame
    rw [resolveAddrs_literal hstd] at hrun
    cases hrun
    exact List.mem_singleton.mpr rfl
  cases u with
  | doh u => exact hresolve rfl h haddrs
  | dot u => exact hresolve rfl h haddrs
  | doq u => exact hresolve rfl h haddrs
  | dnsCrypt u => cases haddrs; exact List.mem_singleton.mpr h
  | plainUdp u => cases haddrs; exact List.mem_singleton.mpr h
  | plainTcp u => exact hresolve rfl h haddrs

omit hvouch hrely in
/--
**host が IP の綴りの upstream は、一度の `exchange` のどこでも、`dialAddrs` の宛先にしか繋がない。**

UDP の socket も、TCP も、QUIC も、HTTP の client の接続も、HTTP/3 を試すところも含む。名前は引かない。
-/
theorem Upstream.connects_dialAddrs {B : Boundary W Unit} {net : Net W} (hvouch : B.Vouches net)
    (hrely : B.Keeps net B.Kept) (hparse : B.parseIp = net.std.parseIp) (hapart : B.Apart)
    (hnone : B.resolvers = ∅)
    (hliteral : ∀ host, (B.upstream ()).host? = some host → ∃ ip, net.std.parseIp host = some ip)
    {addrs : List SocketAddr} {t t' : Wire W}
    (haddrs : (B.upstream ()).dialAddrs (wireNet net) t = (.ok addrs, t')) (req : Message) {w : W}
    (hw : B.Kept w) :
    ∀ e ∈ ((B.upstream ()).exchange codec suite (wireNet net) req ([], w)).2.1, ∀ addr,
      e.what = .connect addr → addr ∈ addrs := by
  have hans : ∀ r host, (B.upstream ()).resolver = some r → (B.upstream ()).host? = some host →
      B.parseIp host = none → B.Answers () r host := by
    intro r host _ hhost hip
    obtain ⟨ip, hsome⟩ := hliteral host hhost
    rw [hparse, hsome] at hip
    cases hip
  have hruns : B.ledger.Runs ∅ ((B.upstream ()).exchange codec suite (wireNet net) req)
      fun _ _ => True := Upstream.runs_exchange hvouch hrely hparse hapart () hans
  intro e he addr haddr
  rcases ((hruns.safe hw.safe).1.1 e he).dial addr haddr with ⟨k, hk⟩ | hmem
  · rw [hparse] at hk
    exact hk.mem_dialAddrs hliteral haddrs
  · rw [hnone] at hmem
    cases hmem

/-! ## bootstrap の名前引き -/

/-- `SystemResolver`。この program の socket を使わず、世界を動かすだけである。 -/
def Boundary.SystemLookup (B : Boundary W K) (net : Net W) (r : Resolver (Wire W)) : Prop :=
  ∃ lookup : Resolver W, r = lookup.onSnd ∧
    ∀ host w, Relation.ReflTransGen (B.Step net) w (lookup.lookup host w).2

/-- `--bootstrap` から作った `Resolver` の、素の DNS の宛先と DoH の upstream は `B` のものである。 -/
inductive BootstrapResolver.Within (B : Boundary W K) (net : Net W) :
    BootstrapResolver (Wire W) → Prop
  | plain {r : PlainResolver} (h : r.addr ∈ B.resolvers) : Within B net (.plain r)
  | doh {u : DohUpstream (Wire W)} {k : K} (hu : B.upstream k = .doh u)
      (h : B.SystemLookup net u.resolver) : Within B net (.doh u)
  | parallel {rs : List (BootstrapResolver (Wire W))} (h : ∀ r ∈ rs, Within B net r) :
      Within B net (.parallel rs)

/-- upstream の host 名は、system か `--bootstrap` の server が引く。 -/
def Boundary.Resolves (B : Boundary W K) (codec : Codec) (net : Net W) (r : Resolver (Wire W)) :
    Prop :=
  B.SystemLookup net r ∨ ∃ b env, r = BootstrapResolver.toResolver codec (wireNet net) env b ∧
    b.Within B net ∧ ∀ n t, B.Aside t (env.order n t).2

/-- upstream の host 名を引いて返った IP は、その upstream の答えとして残る。 -/
def Boundary.Records (B : Boundary W K) : Prop :=
  ∀ k r host, (B.upstream k).resolver = some r → (B.upstream k).host? = some host →
    ∀ t ips t', r.lookup host t = (.ok ips, t') → ∀ ip ∈ ips, .answered k ip ∈ B.facts t'.2

omit hvouch hrely in
theorem Boundary.Records.answers (hrecords : B.Records) {r : Resolver (Wire W)}
    (hr : (B.upstream k).resolver = some r) (hhost : (B.upstream k).host? = some host)
    (hruns : ∀ F, B.ledger.Runs F (r.lookup host) fun _ _ => True) : B.Answers k r host :=
  fun F => Ledger.Runs.of_holds (fun _ hs => (hruns F).safe hs)
    fun t ips t' _ h ip hip => hrecords k r host hr hhost t ips t' h ip hip

theorem runs_system {r : Resolver (Wire W)} (h : B.SystemLookup net r) (host : String) :
    ∀ F, B.ledger.Runs F (r.lookup host) fun _ _ => True := by
  obtain ⟨lookup, rfl, hsteps⟩ := h
  refine fun F => Ledger.Runs.of_evolves fun t _ => ?_
  have hrun : ∀ w, Relation.ReflTransGen (B.Step net) t.2 w → B.ledger.Evolves t (t.1, w) := by
    intro w hw
    induction hw with
    | refl => exact Ledger.Evolves.refl t
    | @tail w' w _ hstep ih => exact ih.trans (evolves_step (t := (t.1, w')) hvouch hrely hstep)
  exact hrun _ (hsteps host t.2)

omit hvouch hrely in
theorem runs_settle {α : Type} {fut : Async (Wire W) DohError (List α)}
    (h : B.ledger.Runs F fut fun _ _ => True) : B.ledger.Runs F (settle fut) fun _ _ => True := by
  refine Ledger.Runs.of_safe fun t ht => ?_
  have hsafe := h.safe ht
  unfold settle
  split <;>
  · next hfut =>
      rw [hfut] at hsafe
      exact hsafe

omit hvouch hrely in
theorem runs_raceLoop {α : Type} (env : RaceEnv (Wire W)) :
    ∀ (futs : List (Async (Wire W) DohError (List α))),
      (∀ fut ∈ futs, ∀ F, B.ledger.Runs F fut fun _ _ => True) →
      ∀ F errs stuck, B.ledger.Runs F (raceLoop env futs errs stuck) fun _ _ => True
  | [], _, F, errs, stuck => by
    unfold raceLoop
    split
    · exact runs_lift _
    · exact Ledger.Runs.throw
  | fut :: rest, h, F, errs, stuck => by
    have hrest := runs_raceLoop env rest fun f hf => h f (List.mem_cons_of_mem fut hf)
    unfold raceLoop
    refine (runs_settle (h fut List.mem_cons_self F)).bind fun settled G _ _ => ?_
    split
    · exact hrest G errs stuck
    · exact runs_pure _
    · exact hrest G _ stuck
    · exact hrest G errs true

/-- `--bootstrap` の server への問い合わせも、設定に書かれた相手にだけ届く。 -/
theorem runs_lookup (hparse : B.parseIp = net.std.parseIp) (hapart : B.Apart)
    (hrecords : B.Records) {env : RaceEnv (Wire W)}
    (henv : ∀ n t, B.Aside t (env.order n t).2) {α : Type} (view : LookupReply → List α)
    (host : String) {b : BootstrapResolver (Wire W)} (hb : b.Within B net) :
    ∀ F, B.ledger.Runs F (b.lookupWith codec (wireNet net) env view host) fun _ _ => True := by
  -- A と AAAA のどちらかが失敗しても、もう一方を使う
  have hboth : ∀ {query : RecordType → Async (Wire W) DohError (List α)},
      (∀ qtype F, B.ledger.Runs F (query qtype) fun _ _ => True) →
      ∀ F, B.ledger.Runs F (lookupBoth query) fun _ _ => True := fun h F =>
    (h _ F).attempt.bind fun _ G _ _ => (h _ G).attempt.bind fun _ _ _ _ => runs_lift _
  induction hb with
  | @plain r h =>
    have hentitled : ∀ G, B.Entitled G (.addr r.addr) none := fun _ _ _ =>
      Or.inr ⟨r.addr, h, rfl, rfl⟩
    rw [BootstrapResolver.lookupWith]
    refine hboth fun qtype F => (runs_lift _).bind fun name _ _ _ => ?_
    refine (runs_random hvouch hrely 2).bind fun id _ _ _ => (runs_lift _).bind fun b _ _ _ => ?_
    refine Ledger.Runs.bind (Ledger.Runs.timeout (Q := fun _ _ => True) ?_)
      fun _ _ _ _ => runs_pure _
    exact runs_exchangeUdp hvouch hrely (fun _ => Or.inr h) (hentitled _) fun buf _ _ =>
      (runs_lift _).bind fun _ _ _ _ => runs_pure _
  | @doh u k hu h =>
    rw [BootstrapResolver.lookupWith]
    refine hboth fun qtype F => (runs_lift _).bind fun name _ _ _ => ?_
    refine (runs_random hvouch hrely 2).bind fun id _ _ _ => ?_
    have hans : B.Answers k u.resolver u.host := hrecords.answers (by rw [hu]; rfl)
      (by rw [hu]; rfl) (runs_system hvouch hrely h u.host)
    exact (runs_doh hvouch hrely hparse hapart hu fun _ => hans).bind fun _ _ _ _ => runs_pure _
  | @parallel rs h ih =>
    intro F
    have hfuts : ∀ rs' : List (BootstrapResolver (Wire W)), (∀ r ∈ rs', r ∈ rs) →
        ∀ fut ∈ BootstrapResolver.lookupsWith codec (wireNet net) env view host rs',
          ∀ F, B.ledger.Runs F fut fun _ _ => True := by
      intro rs' hrs'
      induction rs' with
      | nil => simp [BootstrapResolver.lookupsWith]
      | cons r rest ihrest =>
        intro fut hfut
        rw [BootstrapResolver.lookupsWith] at hfut
        rcases List.mem_cons.mp hfut with rfl | hfut
        · exact ih r (hrs' r (by simp))
        · exact ihrest (fun r' hr' => hrs' r' (by simp [hr'])) fut hfut
    rw [BootstrapResolver.lookupWith]
    unfold parallelLookup
    split
    · exact Ledger.Runs.throw
    refine Ledger.Runs.bind (Q := fun _ _ => True) (Ledger.Runs.of_evolves
      fun t _ => (henv _ t).evolves) fun order _ _ _ => ?_
    refine runs_raceLoop env _ (fun fut hfut => ?_) _ [] false
    obtain ⟨i, -, hi⟩ := List.mem_filterMap.mp hfut
    exact hfuts rs (fun _ h => h) fut (List.mem_of_getElem? hi)

theorem Boundary.Resolves.runs (hparse : B.parseIp = net.std.parseIp) (hapart : B.Apart)
    (hrecords : B.Records) {r : Resolver (Wire W)} (h : B.Resolves codec net r) (host : String) :
    ∀ F, B.ledger.Runs F (r.lookup host) fun _ _ => True := by
  rcases h with h | ⟨b, env, rfl, hb, henv⟩
  · exact runs_system hvouch hrely h host
  · exact runs_lookup hvouch hrely hparse hapart hrecords henv _ host hb

end

/-! ## handler -/

/-- `B` は、`net` の上の proxy `p` の upstream と置き場所のすべてを挙げている。 -/
structure Boundary.Encloses (B : Boundary W K) (net : Net W) (p : Proxy (Wire W)) : Prop where
  net_eq : p.net = wireNet net
  parseIp_eq : B.parseIp = net.std.parseIp
  vouches : B.Vouches net
  /-- 待つ間に動くほかの task も、取ってあるものの相手を取り違えない。 -/
  keeps : B.Keeps net B.Kept
  apart : B.Apart
  config : ∀ c t, B.Aside t (p.config.set c t)
  latency : ∀ id v t, B.Aside t ((p.latency id).set v t)
  cache : ∀ c t, B.Aside t (p.cache.set c t)
  resolves : ∀ k r, (B.upstream k).resolver = some r → B.Resolves p.codec net r
  records : B.Records
  /-- 設定のどの組の上流も、`B` の upstream である。 -/
  covers : ∀ t name u, u ∈ ((p.config.get t).upstreamsFor (p.orderEnv t) name).1 →
    ∃ k, B.upstream k = u.upstream

section

variable {B : Boundary W K} {net : Net W} {F : Set (Fact K)} {req : Message}
  {p : Proxy (Wire W)} (h : B.Encloses net p)

include h

omit F req in
theorem Boundary.Encloses.answers (k : K) (r : Resolver (Wire W)) (host : String)
    (hr : (B.upstream k).resolver = some r) (hhost : (B.upstream k).host? = some host)
    (_ : B.parseIp host = none) : B.Answers k r host :=
  h.records.answers hr hhost
    ((h.resolves k r hr).runs h.vouches h.keeps h.parseIp_eq h.apart h.records host)

theorem runs_trackedExchange {u : TrackedUpstream (Upstream (Wire W))}
    (hu : ∃ k, B.upstream k = u.upstream) :
    B.ledger.Runs F (p.trackedExchange u req) fun _ _ => True := by
  obtain ⟨k, hk⟩ := hu
  unfold Proxy.trackedExchange
  rw [← hk, h.net_eq]
  refine (runs_instantNow h.vouches h.keeps).bind fun start _ _ _ => ?_
  refine Ledger.Runs.bind (Upstream.runs_exchange h.vouches h.keeps h.parseIp_eq h.apart k
    (h.answers k)).attempt fun result _ _ _ => ?_
  refine Ledger.Runs.bind (Q := fun _ _ => True) ?_ fun _ _ _ _ => runs_pure _
  cases result with
  | error e => exact runs_pure _
  | ok m =>
    show B.ledger.Runs _ (instantNow p.net >>= fun now => _) _
    rw [h.net_eq]
    exact (runs_instantNow h.vouches h.keeps).bind fun now _ _ _ =>
      Ledger.Runs.modify fun t _ => (h.latency u.id _ t).evolves

/-- 失敗した上流の次を試すときも同じである。 -/
theorem runs_tryUpstreams :
    ∀ (us : List (TrackedUpstream (Upstream (Wire W)))),
      (∀ u ∈ us, ∃ k, B.upstream k = u.upstream) → ∀ F lastErr, B.ledger.Runs F
        (UpstreamConfig.tryUpstreams (fun u => p.trackedExchange u req) us lastErr) fun _ _ => True
  | [], _, F, lastErr => runs_pure _
  | u :: us, hus, F, lastErr => by
    refine (runs_trackedExchange h (hus u (by simp))).bind
      fun result G _ _ => ?_
    cases result with
    | ok m => exact runs_pure _
    | error e => exact runs_tryUpstreams us (fun u hu => hus u (by simp [hu])) G (some e)

theorem runs_handler (req : Message) : B.ledger.Runs F (p.handler req) fun _ _ => True := by
  refine Ledger.Runs.of_safe fun t ht => ?_
  rw [p.handler_eq]
  have hrun : B.ledger.Runs F (UpstreamConfig.tryUpstreams (fun u => p.trackedExchange u req)
      ((p.config.get t).upstreamsFor (p.orderEnv t) (UpstreamConfig.queryName p.escape req)).1 none
      >>= fun result =>
        p.lastResult (UpstreamConfig.queryName p.escape req) result >>= Proxy.ofResult)
      fun _ _ => True := by
    refine Ledger.Runs.bind (runs_tryUpstreams h _
      (h.covers t _) F none) fun result _ _ _ => ?_
    refine Ledger.Runs.bind (Q := fun _ _ => True) ?_ fun result _ _ _ => ?_
    · cases result <;> exact runs_pure _
    · cases result with
      | ok m => exact runs_pure _
      | error e => exact Ledger.Runs.throw
  exact hrun.safe (ht.evolves (h.config _ t).evolves)

theorem runs_cacheGet (key : CacheKey) (id : UInt16) :
    B.ledger.Runs F (p.cacheGet key id) fun _ _ => True := by
  unfold Proxy.cacheGet
  rw [h.net_eq]
  refine (runs_lock h.vouches h.keeps).bind fun _ _ _ _ =>
    (runs_instantNow h.vouches h.keeps).bind fun now _ _ _ => ?_
  exact Ledger.Runs.of_evolves fun t _ => (h.cache _ t).evolves

/-- **handler の送るものは、cache の有無に依らず、設定に書かれた相手にだけ届く。** -/
theorem runs_queryHandler (cached : Bool) (req : Message) :
    B.ledger.Runs F (p.queryHandler cached req) fun _ _ => True := by
  have hhandler : ∀ F, B.ledger.Runs F (p.handler req) fun _ _ => True :=
    fun F => runs_handler h req
  cases cached with
  | false => exact hhandler F
  | true =>
    show B.ledger.Runs F (p.cachedHandler p.handler req) fun _ _ => True
    unfold Proxy.cachedHandler
    split
    · exact hhandler F
    have hinsert : ∀ key resp F, B.ledger.Runs F (p.cacheInsert key resp) fun _ _ => True := by
      intro key resp F
      unfold Proxy.cacheInsert
      rw [h.net_eq]
      refine (runs_instantNow h.vouches h.keeps).bind fun now _ _ _ => Ledger.Runs.bind
        (Ledger.Runs.gets_inv (P := fun _ => True) fun _ _ => trivial) fun entry _ _ _ => ?_
      cases entry with
      | none => exact runs_pure _
      | some entry =>
        exact (runs_lock h.vouches h.keeps).bind fun _ _ _ _ =>
          Ledger.Runs.modify fun t _ => (h.cache _ t).evolves
    refine (runs_cacheGet h _ _).bind fun hit G _ _ => ?_
    cases hit with
    | some resp => exact runs_pure _
    | none =>
      exact (hhandler G).bind fun resp _ _ _ => (hinsert _ _ _).bind fun _ _ _ _ => runs_pure _

end

/-! ## 証明書の検査 -/

/-- `parse_any_upstream` の作る upstream が証明書を確かめないのは、`Options` がそう言うときに限る。 -/
theorem parseAnyUpstream_verifies {env : UrlEnv W} {opts : Options W} {addr : Text} {u : Upstream W}
    (h : parseAnyUpstream env opts addr = .ok u) {parseIp : String → Option IpAddr}
    {G : Set (Fact K)} {k : K} {p : Remote} (hp : u.Reaches parseIp G k p)
    (hunverified : p.unverified = true) : opts.insecureSkipVerify = true := by
  cases parseAnyUpstream_made h with
  | plainTcp host port =>
    obtain ⟨addr, -, rfl⟩ := hp
    cases hunverified
  | plainUdp addr => cases hp; cases hunverified
  | dnsCrypt stamp => cases hp; cases hunverified
  | dot host port => cases hp; exact hunverified
  | doq host port => cases hp; exact hunverified
  | doh host path port versions auth => cases hp; exact hunverified

/-! ## 何件もの query -/

/-- 届いた query に順に答える。 -/
def Proxy.answerAll (p : Proxy W) (cached : Bool) (reqs : List Message) (w : W) : W :=
  reqs.foldl (fun w req => (p.queryHandler cached req w).2) w

theorem safe_answerAll {B : Boundary W K} {net : Net W} {p : Proxy (Wire W)}
    (h : B.Encloses net p) (cached : Bool) (reqs : List Message) :
    ∀ t, B.ledger.Safe ∅ t → B.ledger.Safe ∅ (p.answerAll cached reqs t) := by
  induction reqs with
  | nil => exact fun _ ht => ht
  | cons req rest ih => exact fun t ht => ih _ ((runs_queryHandler h cached req).safe ht)

/--
**proxy がどれだけ多くの query に答えても、繋ぐ宛先も、送るものの届く相手も、設定に書かれたものに限る。**

繋ぐ宛先は、ある upstream の host（IP の綴りか、その upstream のために引いた IP）と port か、`--bootstrap` の
素の DNS の宛先である。届く相手は、ある upstream の相手で、載せた `Authorization` はその upstream の
ものであるか、`--bootstrap` の宛先である。証明書を確かめずに繋いだ相手へ送るのは、`insecure` のときに限る。
client や connection を使い回しても、作り直しても、失敗した上流の次を試しても、cache を挟んでもよい。
-/
theorem proxy_confined (p : Proxy (Wire W)) (net : Net W) (B : Boundary W K)
    (h : B.Encloses net p) (insecure : Bool)
    (hmade : ∀ k, ∃ env opts addr, opts.insecureSkipVerify = insecure ∧
      parseAnyUpstream env opts addr = .ok (B.upstream k))
    (cached : Bool) (reqs : List Message) (w : W) (hw : B.Kept w) :
    B.Kept (p.answerAll cached reqs ([], w)).2 ∧
      ∀ e ∈ (p.answerAll cached reqs ([], w)).1,
        (∀ addr, e.what = .connect addr → B.Dials e.state addr) ∧
          ((∀ addr, e.what ≠ .connect addr) → ∃ remote,
            B.Allowed e.state remote e.what.authorization ∧
              e.what.Reaches (B.facts e.state) (B.pooled e.state) remote ∧
              (remote.unverified = true → insecure = true)) := by
  have hsafe := safe_answerAll h cached reqs ([], w) hw.safe
  refine ⟨hsafe.1.2, fun e he => ⟨(hsafe.1.1 e he).dial, fun hne => ?_⟩⟩
  obtain ⟨remote, hallowed, hreach⟩ := (hsafe.1.1 e he).send hne
  refine ⟨remote, hallowed, hreach, fun hunverified => ?_⟩
  rcases hallowed with ⟨k, hk, -⟩ | ⟨addr, -, rfl, -⟩
  · obtain ⟨env, opts, addr, rfl, hparse⟩ := hmade k
    exact parseAnyUpstream_verifies hparse hk hunverified
  · cases hunverified

/-! ## 資格を載せる DoH -/

/-- 一つの upstream の置き場所と、HTTP の client が取ってある接続から成る世界。 -/
abbrev AliceWorld := Slots × List Nat

def aliceAddr : SocketAddr := { ip := .v4 0x7F000001, port := 443 }

def aliceRemote : Remote := .host "dns.example" false

def slotsEnv : UrlEnv (Wire AliceWorld) where
  std := StdText.none
  parseUri _ :=
    .ok { host := some (text "dns.example"), path := text "/dns-query", portU16 := none }
  systemResolver := (Resolver.static [aliceAddr.ip]).onSnd
  dohSlots :=
    { client := ⟨fun t => t.2.1.client, fun v t => (t.1, ({ t.2.1 with client := v }, t.2.2))⟩
      h3 := ⟨fun t => t.2.1.h3, fun v t => (t.1, ({ t.2.1 with h3 := v }, t.2.2))⟩
      preferH3 := ⟨fun _ => none, fun _ t => t⟩
      h3Inner := fun id => ⟨fun t => t.2.1.sender id, fun v t =>
        (t.1, ({ t.2.1 with sender := fun i => if i = id then v else t.2.1.sender i }, t.2.2))⟩ }
  doqConn := ⟨fun _ => none, fun _ t => t⟩
  dnsCryptCert := ⟨fun _ => none, fun _ t => t⟩
  dnsCryptLog := ⟨fun _ => [], fun _ t => t⟩

/-- `https://alice:1@dns.example/dns-query` の upstream。 -/
def aliceDoh : DohUpstream (Wire AliceWorld) :=
  DohUpstream.new slotsEnv.dohSlots slotsEnv.systemResolver "dns.example" none "/dns-query"
    { basicAuth := some ("alice", "1") }

/-- 要求を載せられる接続。取ってあるものは `dns.example` の client だけが使う。 -/
def aliceStreams (client : HttpClient) (conns : List (Except DohError Nat)) (w : AliceWorld) :
    List Nat :=
  (if client.remote = aliceRemote then w.2 else []) ++ conns.filterMap Except.toOption

/-- `dns.example` にだけ繋がり、どの HTTP の要求にも `reply` を返す世界。 -/
def aliceNet (reply : Reply String (Nat × Nat)) : Net AliceWorld :=
  { Net.unreachable StdText.none with
    tcpConnect := fun addr w =>
      if addr = aliceAddr then (.ok 0, w) else (.err "connection refused", w)
    tlsConnect := fun config name _ w =>
      if .host name config.insecureSkipVerify = aliceRemote then (.ok 1, w)
      else (.err "invalid peer certificate", w)
    httpConnects := fun _ _ w => (if w.2 = [] then 1 else 0, w)
    httpRequest := fun client _ conns w =>
      if aliceStreams client conns w = [] then (.err "connect", w)
      else (reply, (w.1, if client.remote = aliceRemote then aliceStreams client conns w else w.2))
    httpCollect := fun _ w => (.ok (wireA 0 0x80), w) }

/-- `aliceDoh` だけに尋ねる proxy。 -/
def aliceProxy (reply : Reply String (Nat × Nat)) : Proxy (Wire AliceWorld) where
  codec := zeroIdCodec
  suite := CryptoSuite.trivial
  net := wireNet (aliceNet reply)
  escape := hickoryEscape
  ema sample _ := sample
  config :=
    { get := fun _ =>
        { domainUpstreams := ∅
          defaultUpstreams := { upstreams := [{ id := 0, upstream := .doh aliceDoh }] }
          mode := .ordered }
      set := fun _ t => t }
  latency _ := ⟨fun _ => {}, fun _ t => t⟩
  shuffle _ l := l
  shuffle_perm _ l := List.Perm.refl l
  lru := sampleLru
  cache := ⟨fun _ => Cache.new sampleLru sampleOptions, fun _ t => t⟩

/-- upstream は `aliceDoh` だけで、stream 0 は `aliceAddr` に、stream 1 は `dns.example` に繋がっている。 -/
def aliceBoundary : Boundary AliceWorld Unit where
  facts _ := {.vouched (.stream 0) (.addr aliceAddr), .vouched (.stream 1) aliceRemote,
    .answered () aliceAddr.ip}
  upstream _ := .doh aliceDoh
  slots w _ := w.1
  pooled w client := {s | client.remote = aliceRemote ∧ s ∈ w.2}
  resolvers := ∅
  parseIp _ := none

theorem aliceBoundary_keeps (reply : Reply String (Nat × Nat)) :
    aliceBoundary.Keeps (aliceNet reply) aliceBoundary.Kept := by
  intro w w' hstep hkept
  cases hstep with
  | tcpConnect addr =>
    show aliceBoundary.Kept (ite _ _ _ : Reply String Nat × AliceWorld).2
    split <;> exact hkept
  | tlsConnect config name tcp =>
    show aliceBoundary.Kept (ite _ _ _ : Reply String Nat × AliceWorld).2
    split <;> exact hkept
  | httpRequest client req conns _ h =>
    show aliceBoundary.Kept (ite _ _ _ : Reply String (Nat × Nat) × AliceWorld).2
    split
    · exact hkept
    · refine ⟨hkept.slots, fun client' s hs => ?_⟩
      obtain ⟨hremote, hs⟩ := hs
      by_cases hclient : client.remote = aliceRemote
      · rw [if_pos hclient, aliceStreams, if_pos hclient] at hs
        rcases List.mem_append.mp hs with hs | hs
        · exact hkept.pooled client' s ⟨hremote, hs⟩
        · obtain ⟨conn, hconn, hok⟩ := List.mem_filterMap.mp hs
          cases conn with
          | error e => cases hok
          | ok s' =>
            cases hok
            rw [hremote, ← hclient]
            exact h s hconn
      · rw [if_neg hclient] at hs
        exact hkept.pooled client' s ⟨hremote, hs⟩
  | _ => exact hkept

theorem aliceBoundary_encloses (reply : Reply String (Nat × Nat)) :
    aliceBoundary.Encloses (aliceNet reply) (aliceProxy reply) where
  net_eq := rfl
  parseIp_eq := rfl
  vouches :=
    { udpConnect := fun _ _ _ _ h => by cases h
      tcpConnect := fun addr w s w' h => by
        by_cases haddr : addr = aliceAddr
        · subst haddr
          cases h
          exact Or.inl rfl
        · cases (if_neg haddr).symm.trans h
      tlsConnect := fun config name tcp w s w' h => by
        by_cases hname : Remote.host name config.insecureSkipVerify = aliceRemote
        · rw [hname]
          cases (if_pos hname).symm.trans h
          exact Or.inr (Or.inl rfl)
        · cases (if_neg hname).symm.trans h
      dialQuic := fun _ _ _ _ _ _ h => by cases h
      quicOpenBi := fun _ _ _ _ _ _ h => by cases h
      h3New := fun _ _ _ _ _ _ h => by cases h
      persist := fun _ _ _ _ h => h }
  keeps := aliceBoundary_keeps reply
  apart := by
    constructor <;> intro k d hd
    case conn => cases hd
    case setConn => cases hd
    case setCert => cases hd
    case setLog => cases hd
    all_goals cases hd
    case client => exact fun _ => rfl
    case setClient => exact fun v t => ⟨rfl, rfl, fun _ hk => absurd rfl hk, rfl, fun _ h => h⟩
    case h3 => exact fun _ => rfl
    case setH3 => exact fun v t => ⟨rfl, rfl, fun _ hk => absurd rfl hk, rfl, fun _ h => h⟩
    case sender => exact fun _ _ => rfl
    case setSender => exact fun id v t => ⟨rfl, rfl, fun _ hk => absurd rfl hk, rfl, fun _ h => h⟩
    case setPreferH3 => exact fun v t => ⟨rfl, rfl, rfl, fun _ h => h⟩
  config := fun _ _ => ⟨rfl, rfl, rfl, fun _ h => h⟩
  latency := fun _ _ _ => ⟨rfl, rfl, rfl, fun _ h => h⟩
  cache := fun _ _ => ⟨rfl, rfl, rfl, fun _ h => h⟩
  resolves := fun k r hr => by
    cases hr
    exact Or.inl ⟨Resolver.static [aliceAddr.ip], rfl, fun _ w => .refl⟩
  records := fun k r host hr _ t ips t' h ip hip => by
    cases hr
    cases h
    rw [List.mem_singleton.mp hip]
    exact Or.inr (Or.inr rfl)
  covers := fun t name u hu => ⟨(), by
    have hu : u ∈ [({ id := 0, upstream := .doh aliceDoh } :
      TrackedUpstream (Upstream (Wire AliceWorld)))] := hu
    rw [List.mem_singleton.mp hu]
    rfl⟩

theorem aliceBoundary_kept : aliceBoundary.Kept ({}, []) :=
  .of_empty (fun _ => rfl) fun _ => Set.eq_empty_iff_forall_notMem.mpr fun _ h => by cases h.2

/-- 二つの query で、一度だけ `aliceAddr` に繋ぎ、資格は `dns.example` にだけ送られる。 -/
theorem proxy_confined_alice :
    let log := ((aliceProxy (.ok (200, 0))).answerAll false [queryA, queryA] ([], ({}, []))).1
    log.map (fun e => e.what.authorization) = [none, some (basicAuthHeader "alice" "1"),
        some (basicAuthHeader "alice" "1")] ∧
      ∀ e ∈ log, (∀ addr, e.what = .connect addr → addr = aliceAddr) ∧
        ((∀ addr, e.what ≠ .connect addr) →
          e.what.Reaches (aliceBoundary.facts e.state) (aliceBoundary.pooled e.state)
            aliceRemote) := by
  have hmade : ∀ k, ∃ env opts addr, opts.insecureSkipVerify = false ∧
      parseAnyUpstream env opts addr = .ok (aliceBoundary.upstream k) :=
    fun _ => ⟨slotsEnv, {}, text "https://alice:1@dns.example/dns-query", rfl, rfl⟩
  refine ⟨by decide +kernel, fun e he => ?_⟩
  obtain ⟨hdial, hsend⟩ := (proxy_confined (aliceProxy (.ok (200, 0))) (aliceNet (.ok (200, 0)))
    aliceBoundary (aliceBoundary_encloses _) false hmade false [queryA, queryA] ({}, [])
    aliceBoundary_kept).2 e he
  refine ⟨fun addr haddr => ?_, fun hne => ?_⟩
  · rcases hdial addr haddr with ⟨k, ip, hip, rfl⟩ | haddr
    · rcases hip with hip | ⟨-, hip | hip | hip⟩
      · cases hip
      · cases hip
      · cases hip
      · cases hip
        rfl
    · cases haddr
  · obtain ⟨remote, hallowed, hreach, -⟩ := hsend hne
    rcases hallowed with ⟨k, rfl, -⟩ | ⟨addr, haddr, -⟩
    · exact hreach
    · cases haddr

end DnsProxy
