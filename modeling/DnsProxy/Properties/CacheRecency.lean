import DnsProxy.Infra.Recency
import DnsProxy.Properties.Cache

/-!
# 大きさの限られた cache は、限りの無い cache をどこまで写すか

溜めたものを一つも忘れない cache を考える。引けば、等しい鍵で最後に溜めた応答を、寿命の内なら返す
（`idealAnswer`）。`Cache` はその答えを忘れることはあっても、違う答えを返すことはない。
忘れるのは、その鍵に最後に触れてから、ほかに `size` 種類以上の鍵に触れたときに限る
（`lookup_refines_ideal`）。

触れるとは、溜めるか、当たることである。どちらも `log` に残るので、触れた順は `log` から読める。
並行に走る要求の順は問わない。
-/

namespace DnsProxy

open Infra

variable {lru : LruCache CacheKey CacheEntry}

/-! ## 限りの無い cache -/

/-- 一つも忘れない cache の答え。 -/
def idealAnswer (log : List LogEntry) (now : Nat) (key : CacheKey) (id : UInt16) : Option Message :=
  match lastStored key log with
  | some (_, _, entry) =>
    if now - entry.storedAt < entry.ttl then
      some (entry.response.served id (Cache.remainingSecs entry.ttl (now - entry.storedAt)))
    else none
  | none => none

/-! ## 触れた鍵 -/

/-- 記録が触れた鍵。 -/
def LogEntry.touched : LogEntry → Option CacheKey
  | .stored _ key _ => some key
  | .served req _ _ => cacheKey req
  | .returned _ _ => none

/-- 触れた鍵を、新しい順に並べたもの。 -/
def touchedKeys (log : List LogEntry) : List CacheKey := log.filterMap LogEntry.touched

/-- `key` に触れてから、ほかに触れた鍵が `size` 種類に満たない。 -/
def RecentlyTouched (size : Nat) (log : List LogEntry) (key : CacheKey) : Prop :=
  ∃ newer k older, touchedKeys log = newer ++ k :: older ∧ (k == key) = true ∧
    (others k newer).length < size

theorem lastStored_congr {k k' : CacheKey} (h : (k == k') = true) (log : List LogEntry) :
    lastStored k log = lastStored k' log := by
  induction log with
  | nil => rfl
  | cons l older ih =>
    cases l with
    | returned req resp => exact ih
    | served req ans t => exact ih
    | stored req key entry =>
      rw [lastStored, lastStored, BEq.congr_right h, ih]

/-- `key` で最後に溜めた項目が有り、寿命の内にある。 -/
def Unexpired (s : Sys lru) (key : CacheKey) : Prop :=
  ∀ req key' entry, lastStored key s.log = some (req, key', entry) →
    s.now - entry.storedAt < entry.ttl

/-! ## 不変条件 -/

section

variable {opts : CacheOptions} {inner : Message → Except DohError Message → Prop}

/-- LRU の中身は、触れた順に従う。 -/
structure RecencyInv (opts : CacheOptions) (s : Sys lru) : Prop where
  cap : (lru.view s.cache.entries).cap = opts.size
  recent : Recent (lru.view s.cache.entries) (touchedKeys s.log) (Unexpired s)

theorem recencyInv_init : RecencyInv opts (Sys.init lru opts) := by
  have hview : lru.view (Sys.init lru opts).cache.entries = Lru.empty opts.size opts.size_pos :=
    lru.view_new opts.size opts.size_pos
  constructor
  · rw [hview]
    rfl
  · rw [hview]
    exact Recent.empty opts.size opts.size_pos _

/-- 要求の状態を替えても、cache と記録が同じなら変わらない。 -/
theorem RecencyInv.setTask {s : Sys lru} (h : RecencyInv opts s) (i : Nat) (t : Task) :
    RecencyInv opts (s.setTask i t) where
  cap := h.cap
  recent := h.recent

/-- 引く一歩。当たれば触れ、期限が切れていれば消す。 -/
theorem RecencyInv.get {s : Sys lru} (h : RecencyInv opts s) (hc : CacheInv opts inner s)
    {req : Message} {key : CacheKey} (hk : cacheKey req = some key) :
    (∀ ans, (s.cache.get s.now key req.metadata.id).1 = some ans →
      RecencyInv opts { s with
        cache := (s.cache.get s.now key req.metadata.id).2
        log := .served req ans s.now :: s.log }) ∧
    ((s.cache.get s.now key req.metadata.id).1 = none →
      RecencyInv opts { s with cache := (s.cache.get s.now key req.metadata.id).2 }) := by
  have hcap : ∀ c : Lru CacheKey CacheEntry, c.cap = opts.size → (c.get key).2.cap = opts.size := by
    intro c hc
    unfold Lru.get
    split <;> exact hc
  unfold Cache.get
  cases hg : lru.get s.cache.entries key with
  | mk found entries =>
    have hfst := lru.get_fst s.cache.entries key
    have hview := lru.view_get s.cache.entries key
    have hcap := hcap _ h.cap
    rw [hg] at hfst hview
    rw [← hview] at hcap
    cases found with
    | none =>
      have hrecent := h.recent.get_none hfst.symm
      rw [← hview] at hrecent
      exact ⟨by simp, fun _ => ⟨hcap, hrecent⟩⟩
    | some entry =>
      dsimp only
      split
      · next hexp =>
        -- 期限切れの項目は、どの等しい鍵でも寿命の外にある
        refine ⟨by simp, fun _ => ?_⟩
        have hdead : ∀ k', (key == k') = true → ¬ Unexpired s k' := by
          intro k' hkk hlive
          obtain ⟨req', key', hlast⟩ := hc.entries key entry hfst.symm
          rw [lastStored_congr hkk] at hlast
          exact absurd hexp (Nat.not_le.mpr (hlive req' key' entry hlast))
        have hrecent := h.recent.get_pop hdead
        rw [← hview, ← lru.view_pop] at hrecent
        exact ⟨(congrArg Lru.cap (lru.view_pop entries key)).trans hcap, hrecent⟩
      · refine ⟨fun ans _ => ⟨hcap, ?_⟩, by simp⟩
        have hrecent := h.recent.get_some hfst.symm
        rw [← hview] at hrecent
        have htouched : touchedKeys (.served req ans s.now :: s.log) = key :: touchedKeys s.log :=
          List.filterMap_cons_some (f := LogEntry.touched) hk
        rw [← htouched] at hrecent
        exact hrecent

theorem RecencyInv.lookupStep {s : Sys lru} (h : RecencyInv opts s) (hc : CacheInv opts inner s)
    (i : Nat) (req : Message) : RecencyInv opts (s.lookupStep i req) := by
  cases hk : cacheKey req with
  | none =>
    unfold Sys.lookupStep
    rw [hk]
    exact h.setTask i _
  | some key =>
    obtain ⟨hhit, hmiss⟩ := h.get hc hk
    cases hg : (s.cache.get s.now key req.metadata.id).1 with
    | none =>
      rw [Sys.lookupStep_miss i hk hg]
      exact (hmiss hg).setTask i _
    | some ans =>
      rw [Sys.lookupStep_hit i hk hg]
      exact (hhit ans hg).setTask i _

theorem RecencyInv.replyStep {s : Sys lru} (h : RecencyInv opts s) (i : Nat) (req : Message)
    (key : Option CacheKey) (r : Except DohError Message) :
    RecencyInv opts (s.replyStep i req key r) := by
  unfold Sys.replyStep
  cases r with
  | error e => exact h.setTask i _
  | ok resp =>
    have hret : RecencyInv opts { s with log := .returned req resp :: s.log } :=
      ⟨h.cap, h.recent⟩
    cases key with
    | none => exact hret.setTask i _
    | some key =>
      dsimp only
      split <;> exact hret.setTask i _

theorem RecencyInv.storeStep {s : Sys lru} (h : RecencyInv opts s) (i : Nat) (req : Message)
    (key : CacheKey) (entry : CacheEntry) : RecencyInv opts (s.storeStep i req key entry) := by
  have hput : RecencyInv opts
      { s with cache := s.cache.putEntry key entry, log := .stored req key entry :: s.log } := by
    have hview : lru.view (s.cache.putEntry key entry).entries
        = (lru.view s.cache.entries).put key entry := lru.view_put s.cache.entries key entry
    constructor
    · rw [hview]
      unfold Lru.put
      split <;> exact h.cap
    · rw [hview]
      refine h.recent.put key entry fun k' hkk hlive => ?_
      -- 等しくない鍵で最後に溜めたものは変わらない
      intro req' key' entry' hlast
      refine hlive req' key' entry' ?_
      rw [lastStored, if_neg (by simp [hkk])]
      exact hlast
  exact hput.setTask i _

theorem RecencyInv.tick {s : Sys lru} (h : RecencyInv opts s) (d : Nat) :
    RecencyInv opts { s with now := s.now + d } where
  cap := h.cap
  recent := h.recent.mono fun _ hlive req key entry hlast =>
    Nat.lt_of_le_of_lt (Nat.sub_le_sub_right (Nat.le_add_right s.now d) entry.storedAt)
      (hlive req key entry hlast)

theorem RecencyInv.step {s s' : Sys lru} {e : Event} (h : RecencyInv opts s)
    (hc : CacheInv opts inner s) (hs : s.step e = some s') : RecencyInv opts s' := by
  rcases Sys.step_cases hs with ⟨i, req, rfl, _, rfl⟩ | ⟨i, req, rfl, _, rfl⟩ |
    ⟨i, req, key, r, rfl, _, rfl⟩ | ⟨i, req, key, entry, rfl, _, rfl⟩ | ⟨d, rfl, rfl⟩
  · exact h.setTask i _
  · exact h.lookupStep hc i req
  · exact h.replyStep i req key r
  · exact h.storeStep i req key entry
  · exact h.tick d

variable {clients : Message → Prop}

theorem recencyInv_reach {s : Sys lru} (h : (cacheMachine lru opts clients inner).Reach s) :
    RecencyInv opts s := by
  have hboth : CacheInv opts inner s ∧ RecencyInv opts s :=
    Machine.Reach.invariant (P := fun s => CacheInv opts inner s ∧ RecencyInv opts s)
      ⟨cacheInv_init, recencyInv_init⟩
      (fun _ _ _ hi ha hs => ⟨hi.1.step ha hs, hi.2.step hi.1 hs⟩) h
  exact hboth.2

/-! ## 限りの無い cache との比べ -/

/-- 溜めた鍵には触れている。 -/
theorem exists_touched {log : List LogEntry} {key : CacheKey} {x : Message × CacheKey × CacheEntry}
    (h : lastStored key log = some x) : ∃ k ∈ touchedKeys log, (k == key) = true := by
  obtain ⟨req, key', entry⟩ := x
  obtain ⟨hmem, hkk⟩ := lastStored_mem h
  exact ⟨key', List.mem_filterMap.mpr ⟨_, hmem, rfl⟩, hkk⟩

/-- 触れた鍵がみな合わせて `size` 種類までなら、どの鍵にも最近触れている。 -/
theorem RecentlyTouched.of_few {size : Nat} {log : List LogEntry} {key : CacheKey}
    (h : ∃ k ∈ touchedKeys log, (k == key) = true)
    (hfew : (touchedKeys log).eraseDups.length ≤ size) : RecentlyTouched size log key := by
  obtain ⟨k, hk, hkk⟩ := h
  obtain ⟨newer, older, hsplit⟩ := List.append_of_mem hk
  refine ⟨newer, k, older, hsplit, hkk, ?_⟩
  -- `k` とほかの鍵は互いに異なり、どれも触れた鍵である
  have hdist : Distinct (k :: others k newer) := by
    refine List.pairwise_cons.mpr ⟨fun a ha => ?_, distinct_eraseDups _⟩
    have hak := (List.mem_filter.mp (mem_of_mem_eraseDups ha)).2
    rw [BEq.comm]
    simpa using hak
  have hcount := hdist.length_le_eraseDups (m := touchedKeys log) fun a ha => by
    refine ⟨a, ?_, BEq.rfl⟩
    rw [hsplit]
    rcases List.mem_cons.mp ha with rfl | ha
    · simp
    · exact List.mem_append_left _ (List.mem_filter.mp (mem_of_mem_eraseDups ha)).1
  rw [List.length_cons] at hcount
  omega

/-- 引いて当たるものは、限りの無い cache の答えである。 -/
theorem idealAnswer_of_get {s : Sys lru} (hc : CacheInv opts inner s) {key : CacheKey} {id : UInt16}
    {ans : Message} (h : (s.cache.get s.now key id).1 = some ans) :
    idealAnswer s.log s.now key id = some ans := by
  rcases Cache.get_spec s.cache s.now key id with ⟨entry, hpeek, hfresh, hans⟩ | hnone
  · obtain ⟨req', key', hlast⟩ := hc.entries key entry hpeek
    unfold idealAnswer
    rw [hlast]
    dsimp only
    rw [if_pos hfresh, ← hans, h]
  · rw [hnone] at h
    cases h

/-- 最近触れた鍵なら、限りの無い cache の答えがそのまま当たる。 -/
theorem get_of_idealAnswer {s : Sys lru} (hc : CacheInv opts inner s) (hr : RecencyInv opts s)
    {key : CacheKey} {id : UInt16} {ans : Message} (hrecent : RecentlyTouched opts.size s.log key)
    (h : idealAnswer s.log s.now key id = some ans) : (s.cache.get s.now key id).1 = some ans := by
  unfold idealAnswer at h
  split at h
  · next req' key' entry hlast =>
    split at h
    · next hfresh =>
      cases h
      obtain ⟨newer, k, older, hsplit, hkk, hcount⟩ := hrecent
      have hlive : Unexpired s k := by
        intro r q e he
        rw [lastStored_congr hkk, hlast] at he
        cases he
        exact hfresh
      -- 追い出されていないので引け、引けるものは最後に溜めたものである
      obtain ⟨p, hp⟩ := hr.recent.present newer k older hsplit hlive (by rw [hr.cap]; exact hcount)
      have hpeek : lru.peek s.cache.entries key = some p.2 := by
        rw [← lru.peek_congr _ hkk]
        unfold LruCache.peek Lru.peek
        rw [hp]
        rfl
      obtain ⟨req'', key'', hlast'⟩ := hc.entries key p.2 hpeek
      rw [hlast] at hlast'
      cases hlast'
      exact Cache.get_hit id hpeek hfresh
    · cases h
  · cases h

/--
**`Cache` は、限りの無い cache の答えを忘れることはあっても、違う答えは返さない。**

到達できるどの状態でも、届いた要求を引いて当たれば、その答えは `idealAnswer` のものである。
その鍵に最後に触れてからほかに触れた鍵が `size` 種類に満たなければ（たとえば、触れた鍵が合わせて
`size` 種類までなら）、`idealAnswer` の答えがそのまま返る。当たらなければ内側へ転送される。
-/
theorem lookup_refines_ideal {s : Sys lru} (h : (cacheMachine lru opts clients inner).Reach s)
    {i : Nat} {req : Message} {key : CacheKey} (ht : s.tasks i = some (.arrived req))
    (hk : cacheKey req = some key) :
    ∃ s', s.step (.lookup i) = some s' ∧
      (∀ ans, s'.tasks i = some (.finished req (.ok ans) true) →
        idealAnswer s.log s.now key req.metadata.id = some ans) ∧
      (∀ ans, idealAnswer s.log s.now key req.metadata.id = some ans →
        RecentlyTouched opts.size s.log key ∨
          (touchedKeys s.log).eraseDups.length ≤ opts.size →
        s'.tasks i = some (.finished req (.ok ans) true)) ∧
      ((¬ ∃ ans, s'.tasks i = some (.finished req (.ok ans) true)) →
        s'.tasks i = some (.forwarded req (some key))) := by
  have hc := cacheInv_reach h
  have hr := recencyInv_reach h
  refine ⟨s.lookupStep i req, by simp [Sys.step, ht], ?_⟩
  cases hg : (s.cache.get s.now key req.metadata.id).1 with
  | none =>
    rw [Sys.lookupStep_miss i hk hg]
    have hfwd := Sys.setTask_self s i (.forwarded req (some key))
    refine ⟨fun ans hfin => ?_, fun ans hideal hfew => ?_, fun _ => hfwd⟩
    · rw [hfwd] at hfin
      cases hfin
    · have hrecent : RecentlyTouched opts.size s.log key := by
        rcases hfew with hrecent | hfew
        · exact hrecent
        · refine RecentlyTouched.of_few ?_ hfew
          unfold idealAnswer at hideal
          split at hideal
          · next hlast => exact exists_touched hlast
          · cases hideal
      rw [get_of_idealAnswer hc hr hrecent hideal] at hg
      cases hg
  | some found =>
    have hideal := idealAnswer_of_get hc hg
    rw [Sys.lookupStep_hit i hk hg]
    have hfin := Sys.setTask_self s i (.finished req (.ok found) true)
    refine ⟨fun ans hans => ?_, fun ans hans _ => ?_, fun hnot => absurd ⟨found, hfin⟩ hnot⟩
    · rw [hfin] at hans
      cases hans
      exact hideal
    · rw [hideal] at hans
      cases hans
      exact hfin

end

/-- 溜めた応答が一つだけなら、綴りの違う同じ問い合わせにも、その応答が返る。 -/
theorem lookup_refines_ideal_sample :
    ∃ s s', (cacheMachine sampleLru sampleOptions (fun _ => True)
        (fun _ r => r = .ok (sampleResponse (sampleRequest 1 [97]) false 300))).Reach s ∧
      s.step (.lookup 1) = some s' ∧
      s'.tasks 1 = some (.finished (sampleRequest 2 [65])
        (.ok ((sampleResponse (sampleRequest 1 [97]) false 300).served 2 297)) true) := by
  let inner : Message → Except DohError Message → Prop :=
    fun _ r => r = .ok (sampleResponse (sampleRequest 1 [97]) false 300)
  let events : List Event := [.arrive 0 (sampleRequest 1 [97]), .lookup 0,
    .reply 0 (.ok (sampleResponse (sampleRequest 1 [97]) false 300)), .store 0, .tick 2500000000,
    .arrive 1 (sampleRequest 2 [65])]
  have hallowed : ∀ t, ∀ e ∈ events,
      (cacheMachine sampleLru sampleOptions (fun _ => True) inner).allowed t e := by
    intro t e he
    simp only [events, List.mem_cons, List.not_mem_nil, or_false] at he
    rcases he with rfl | rfl | rfl | rfl | rfl | rfl
    · trivial
    · trivial
    · exact fun _ _ _ => rfl
    · trivial
    · trivial
    · trivial
  obtain ⟨s, hs, harrived, hideal, hfew⟩ : ∃ s,
      (cacheMachine sampleLru sampleOptions (fun _ => True) inner).exec
        (Sys.init sampleLru sampleOptions) events = some s ∧
      s.tasks 1 = some (.arrived (sampleRequest 2 [65])) ∧
      (∀ key, cacheKey (sampleRequest 2 [65]) = some key → idealAnswer s.log s.now key 2
        = some ((sampleResponse (sampleRequest 1 [97]) false 300).served 2 297)) ∧
      (touchedKeys s.log).eraseDups.length ≤ 10 := by
    refine ⟨_, rfl, rfl, ?_, by decide⟩
    intro key hk
    cases hk
    rfl
  have hreach := Machine.Reach.exec Machine.Reach.init hallowed hs
  obtain ⟨s', hstep, _, hhit, _⟩ := lookup_refines_ideal hreach harrived rfl
  exact ⟨s, s', hreach, hstep, hhit _ (hideal _ rfl) (Or.inr hfew)⟩

end DnsProxy
