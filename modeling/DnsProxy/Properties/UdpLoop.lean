import DnsProxy.Infra.Serial
import DnsProxy.Listener.UdpLoop

/-!
# UDP の listener は、一つずつ答える server と見分けがつかない

`udp_loop` は buffer を使い回し、task を勝手な順で進める。それでも外から見えるのは、届いた datagram に
一つずつ、多くても一度だけ、その送り主にだけ答えることであり、答えの順のほかは順に答える server と同じである。
逆に、どの順の答えも起こりうる。
-/

namespace DnsProxy

open Infra

variable {W : Type} {codec : Codec} {suite : CryptoSuite} {net : Net W} {l : UdpLoop W}

/-! ## 一つの datagram への応答 -/

/-- 届いた datagram `q` に、`r` を送り返してよいこと。65535 byte を超える分は読まれない。 -/
def RepliesTo (reply : Bytes → Async W DohError Bytes) (q r : Bytes × SocketAddr) : Prop :=
  r.2 = q.2 ∧ ∃ w w', reply (q.1.take 65535) w = (.ok r.1, w')

/-- task が送った datagram と宛先。 -/
def UdpTask.out (t : UdpTask) : Option (Bytes × SocketAddr) :=
  match t.status with
  | .running => none
  | .ended sent => sent.map (·, t.peer)

/-- task `t` は、届いた datagram `q` を受け持つ。 -/
structure Handles (reply : Bytes → Async W DohError Bytes) (q : Bytes × SocketAddr) (t : UdpTask) :
    Prop where
  packet_eq : t.packet = q.1.take 65535
  peer_eq : t.peer = q.2
  replied : ∀ bytes, t.status = .ended (some bytes) → ∃ w w', reply t.packet w = (.ok bytes, w')

theorem Handles.replies {reply : Bytes → Async W DohError Bytes} {q r : Bytes × SocketAddr}
    {t : UdpTask} (h : Handles reply q t) (hr : t.out = some r) : RepliesTo reply q r := by
  unfold UdpTask.out at hr
  cases hstatus : t.status with
  | running => rw [hstatus] at hr; cases hr
  | ended sent =>
    rw [hstatus] at hr
    cases sent with
    | none => cases hr
    | some bytes =>
      cases hr
      refine ⟨h.peer_eq, ?_⟩
      rw [← h.packet_eq]
      exact h.replied bytes hstatus

/-! ## 一歩ごとに保たれること -/

/-- buffer の長さは変わらず、届いた datagram のそれぞれに一つの task が在り、送ったものは task が送ったものに限る。 -/
structure Tended (reply : Bytes → Async W DohError Bytes) (s : UdpServer) : Prop where
  buf_length : s.buf.length = 65535
  tasks : List.Forall₂ (Handles reply) s.arrived s.tasks
  sent : s.sent.Perm (s.tasks.filterMap UdpTask.out)

theorem running_some {s : UdpServer} {i : Nat} {t : UdpTask} (h : s.running i = some t) :
    s.tasks[i]? = some t ∧ t.status = .running := by
  unfold UdpServer.running at h
  obtain ⟨ht, hr⟩ := Option.filter_eq_some_iff.mp h
  exact ⟨ht, of_decide_eq_true hr⟩

variable {reply : Bytes → Async W DohError Bytes}

theorem recvStep_buf {s : UdpServer} (hbuf : s.buf.length = 65535) (datagram : Bytes)
    (peer : SocketAddr) : (s.recvStep datagram peer).buf.length = 65535 := by
  simp only [UdpServer.recvStep, List.length_append, List.length_take, List.length_drop, hbuf]
  omega

/-- 写した packet は、届いた datagram の先頭である。前に buffer に在ったものは混じらない。 -/
theorem recvStep_packet {s : UdpServer} (hbuf : s.buf.length = 65535) (datagram : Bytes)
    (peer : SocketAddr) :
    (s.recvStep datagram peer).tasks
      = s.tasks ++ [{ packet := datagram.take 65535, peer, status := .running }] := by
  unfold UdpServer.recvStep
  dsimp only
  have htake : datagram.take (min datagram.length 65535) = datagram.take 65535 := by
    rw [← List.take_take, List.take_of_length_le]
    rw [List.length_take]
    exact Nat.min_le_right _ _
  rw [List.take_left' (by simp), hbuf, htake]

theorem Tended.recv {s : UdpServer} (h : Tended reply s) (datagram : Bytes) (peer : SocketAddr) :
    Tended reply (s.recvStep datagram peer) := by
  have htasks := recvStep_packet h.buf_length datagram peer
  constructor
  · exact recvStep_buf h.buf_length datagram peer
  · rw [htasks]
    exact List.rel_append h.tasks (.cons ⟨rfl, rfl, fun _ hb => by cases hb⟩ .nil)
  · rw [htasks, List.filterMap_append]
    exact h.sent.trans (.of_eq (List.append_nil _).symm)

theorem Tended.endTask {s : UdpServer} (h : Tended reply s) {i : Nat} {t : UdpTask}
    (ht : s.running i = some t) {sent : Option Bytes}
    (hsent : ∀ bytes, sent = some bytes → ∃ w w', reply t.packet w = (.ok bytes, w')) :
    Tended reply (s.endTask i t sent) := by
  obtain ⟨hi, hrunning⟩ := running_some ht
  have hout : t.out = none := by rw [UdpTask.out, hrunning]
  constructor
  · exact h.buf_length
  · refine forall₂_set h.tasks hi fun q hq => ⟨hq.packet_eq, hq.peer_eq, fun bytes hb => ?_⟩
    exact hsent bytes (UdpStatus.ended.inj hb)
  · unfold UdpServer.endTask
    dsimp only
    cases sent with
    | none =>
      rw [filterMap_set_none hout rfl hi]
      simpa using h.sent
    | some bytes =>
      refine List.Perm.trans ?_ (filterMap_set_perm hout rfl hi).symm
      exact (h.sent.append_right _).trans (List.perm_append_singleton _ _)

theorem Tended.step {s s' : UdpServer} {e : UdpEvent} (h : Tended reply s)
    (hallowed : UdpServer.Allowed reply s e) (hstep : s.step e = some s') : Tended reply s' := by
  cases e with
  | recv datagram peer =>
    cases hstep
    exact h.recv datagram peer
  | recvFailed buf =>
    cases hstep
    exact ⟨hallowed.trans h.buf_length, h.tasks, h.sent⟩
  | reply i bytes =>
    obtain ⟨t, ht, rfl⟩ := Option.map_eq_some_iff.mp hstep
    refine h.endTask ht fun b hb => ?_
    cases hb
    exact hallowed t ht
  | fail i =>
    obtain ⟨t, ht, rfl⟩ := Option.map_eq_some_iff.mp hstep
    exact h.endTask ht fun b hb => by cases hb

theorem reach_tended {s : UdpServer} (h : (udpMachine codec suite net l).Reach s) :
    Tended (l.reply codec suite net) s :=
  h.invariant ⟨List.length_replicate, .nil, .refl _⟩ fun _ _ _ hs ha hstep =>
    hs.step ha hstep

/-- 送ったものを並べ替えると、届いた順に一つずつ答えたものになる。 -/
theorem reach_serial {s : UdpServer} (h : (udpMachine codec suite net l).Reach s) :
    ∃ out, s.sent.Perm out ∧ Serial (RepliesTo (l.reply codec suite net)) s.arrived out :=
  ⟨_, (reach_tended h).sent,
    Serial.of_forall₂ (fun _ _ _ hq hr => hq.replies hr) (reach_tended h).tasks⟩

/-! ## どの順の答えも起こりうること -/

/-- 動いている task だけを、始まった順に並べたもの。 -/
def UdpServer.waiting (s : UdpServer) : List UdpTask :=
  s.tasks.filter fun t => t.status = .running

/-- 待っている task への応答。 -/
def TaskReplies (reply : Bytes → Async W DohError Bytes) (t : UdpTask) (r : Bytes × SocketAddr) :
    Prop :=
  r.2 = t.peer ∧ ∃ w w', reply t.packet w = (.ok r.1, w')

variable (codec suite net l) in
/-- 届いただけで、どの task もまだ終わっていない状態。 -/
theorem reach_arrived (arrived : List (Bytes × SocketAddr)) :
    ∃ s, (udpMachine codec suite net l).Reach s ∧ s.buf.length = 65535 ∧ s.arrived = arrived ∧
      s.sent = [] ∧
      s.tasks = arrived.map fun q => { packet := q.1.take 65535, peer := q.2, status := .running }
    := by
  induction arrived using List.reverseRecOn with
  | nil => exact ⟨_, .init, List.length_replicate, rfl, rfl, rfl⟩
  | append_singleton rest q ih =>
    obtain ⟨s, hreach, hbuf, rfl, hsent, htasks⟩ := ih
    have hrecv : (udpMachine codec suite net l).Reach (s.recvStep q.1 q.2) :=
      hreach.step (e := .recv q.1 q.2) trivial rfl
    refine ⟨_, hrecv, recvStep_buf hbuf q.1 q.2, rfl, hsent, ?_⟩
    rw [recvStep_packet hbuf, htasks, List.map_append]
    rfl

/-- 待っている task の一つを終えると、その task だけが待っているものから消える。 -/
theorem waiting_split {s : UdpServer} {x : UdpTask} {left right : List UdpTask}
    (h : s.waiting = left ++ x :: right) (bytes : Bytes) :
    ∃ i, s.running i = some x ∧ (s.endTask i x (some bytes)).waiting = left ++ right := by
  obtain ⟨front, back, htasks, hfront, hback⟩ := List.filter_eq_append_iff.mp h
  obtain ⟨mid, rest, rfl, hmid, hx, hrest⟩ := List.filter_eq_cons_iff.mp hback
  have hlen : (front ++ mid).length = front.length + mid.length := List.length_append
  have hsplit : s.tasks = (front ++ mid) ++ x :: rest := by rw [htasks, List.append_assoc]
  refine ⟨(front ++ mid).length, ?_, ?_⟩
  · unfold UdpServer.running
    rw [hsplit, List.getElem?_append_right le_rfl]
    simpa using hx
  · have hnone : mid.filter (fun t => t.status = .running) = [] :=
      List.filter_eq_nil_iff.mpr hmid
    unfold UdpServer.waiting UdpServer.endTask
    dsimp only
    rw [hsplit, List.set_append_right _ _ le_rfl, Nat.sub_self, List.set_cons_zero,
      List.filter_append, List.filter_append, hfront, hnone, List.append_nil,
      List.filter_cons_of_neg (by simp), hrest]

/-- 待っている task への応答は、どの順でも送られうる。 -/
theorem reach_replies {s : UdpServer} (h : (udpMachine codec suite net l).Reach s)
    {out : List (Bytes × SocketAddr)}
    (hserial : Serial (TaskReplies (l.reply codec suite net)) s.waiting out) :
    ∀ sent, sent.Perm out → ∃ s', (udpMachine codec suite net l).Reach s' ∧
      s'.arrived = s.arrived ∧ s'.sent = s.sent ++ sent := by
  intro sent hperm
  induction sent generalizing s out with
  | nil => exact ⟨s, h, rfl, (List.append_nil _).symm⟩
  | cons r sent ih =>
    have hmem : r ∈ out := hperm.subset List.mem_cons_self
    obtain ⟨left, x, right, out', hwaiting, ⟨hpeer, hreply⟩, hrest, hpick⟩ := hserial.pick hmem
    obtain ⟨i, hi, hsplit⟩ := waiting_split hwaiting r.1
    have hstep : (udpMachine codec suite net l).Reach (s.endTask i x (some r.1)) := by
      refine h.step (e := .reply i r.1) (fun t ht => ?_) (congrArg (Option.map _) hi)
      rw [hi] at ht
      cases ht
      exact hreply
    rw [← hsplit] at hrest
    obtain ⟨s', hs', harrived, hsent⟩ := ih hstep hrest (hperm.trans hpick).cons_inv
    refine ⟨s', hs', harrived, hsent.trans ?_⟩
    have hr : (r.1, x.peer) = r := Prod.ext rfl hpeer.symm
    unfold UdpServer.endTask
    simp [hr]

/--
**UDP の listener は、順を除いて、一つずつ答える server である。**

届いた datagram が `arrived`、送った datagram が `sent` になりうるのは、`sent` を並べ替えたものが、届いた順に
一つずつ、多くても一度だけ、その送り主に答えたものになるとき、かつそのときに限る。
-/
theorem udpLoop_serial (arrived sent : List (Bytes × SocketAddr)) :
    (∃ s, (udpMachine codec suite net l).Reach s ∧ s.arrived = arrived ∧ s.sent = sent) ↔
      ∃ out, sent.Perm out ∧ Serial (RepliesTo (l.reply codec suite net)) arrived out := by
  constructor
  · rintro ⟨s, hreach, rfl, rfl⟩
    exact reach_serial hreach
  · rintro ⟨out, hperm, hserial⟩
    obtain ⟨s, hreach, -, rfl, hsent, htasks⟩ := reach_arrived codec suite net l arrived
    have hwaiting : s.waiting = s.tasks := by
      unfold UdpServer.waiting
      rw [htasks, List.filter_eq_self]
      intro t ht
      obtain ⟨q, -, rfl⟩ := List.mem_map.mp ht
      rfl
    have htask : Serial (TaskReplies (l.reply codec suite net)) s.waiting out := by
      rw [hwaiting, htasks]
      exact Serial.map hserial
    obtain ⟨s', hs', harrived, hsent'⟩ := reach_replies hreach htask sent hperm
    refine ⟨s', hs', harrived, ?_⟩
    rw [hsent', hsent, List.nil_append]

end DnsProxy
