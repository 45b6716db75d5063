import Mathlib.Algebra.Ring.Nat
import DnsProxy.Dns.Message

/-!
# wire 形式の約束

hickory の `to_bytes` と `from_bytes` について、どの message にも言える性質を `Codec.Laws` に挙げる。

* 読めた message の question の個数は、header の QDCOUNT である
* 圧縮は縮めるだけなので、圧縮しない長さを超えない
* `truncate` したものも書けて、長くならない

書いたものがそのまま読み戻せること（`Codec.RoundTrips`）は、どの message にも言えるわけではない。
wire から読んだ名前はどれも絶対名なので、末尾の `.` の無い名前は `.` を得て戻る（`Message.rooted`）。
そこで、これは使う message ごとに仮定する。

最後に、並べた message だけを圧縮せずに読み書きする `Codec` を作り、この性質を確かめる。
-/

namespace DnsProxy

open Infra

/-! ## 圧縮しない長さ -/

def Name.wireSize (n : Name) : Nat := (n.labels.map fun l => l.length + 1).sum + 1

def Query.wireSize (q : Query) : Nat := q.name.wireSize + 4

/-- RDATA の長さ。 -/
def RData.wireSize : RData → Nat
  | .a _ => 4
  | .aaaa _ _ => 16
  | .txt txtData => (txtData.map fun s => s.length + 1).sum
  | .opt options => options.length
  | .other _ rdata => rdata.length

def Record.wireSize (r : Record) : Nat := r.name.wireSize + 10 + r.data.wireSize

/-- OPT record の長さ。名前は root である。 -/
def Edns.wireSize (e : Edns) : Nat := 11 + e.options.length

def Message.wireSize (m : Message) : Nat :=
  12 + (m.queries.map fun q => q.wireSize).sum
    + ((m.answers ++ m.authorities ++ m.additionals ++ m.signature.toList).map
        fun r => r.wireSize).sum
    + (m.edns.toList.map fun e => e.wireSize).sum

/-! ## 末尾の `.` -/

/-- 末尾の `.` を付けた名前。 -/
def Name.rooted (n : Name) : Name := { n with isFqdn := true }

def Query.rooted (q : Query) : Query := { q with name := q.name.rooted }

def Record.rooted (r : Record) : Record := { r with name := r.name.rooted }

/-- wire から読み戻したときの形。どの名前も絶対名になる。 -/
def Message.rooted (m : Message) : Message :=
  { m with
    queries := m.queries.map Query.rooted
    answers := m.answers.map Record.rooted
    authorities := m.authorities.map Record.rooted
    additionals := m.additionals.map Record.rooted
    signature := m.signature.map Record.rooted }

@[simp] theorem Name.rooted_eqIgnoreRoot (n : Name) : n.rooted.eqIgnoreRoot n = true :=
  (Name.eqIgnoreRoot_iff _ _).mpr rfl

/-! ## 約束 -/

/-- `m` を書いた byte 列からは、`m` がそのまま読める。 -/
def Codec.RoundTrips (codec : Codec) (m : Message) : Prop :=
  ∀ b, codec.toBytes m = .ok b → codec.fromBytes b = .ok m

/-- hickory の変換についての約束。 -/
structure Codec.Laws (codec : Codec) : Prop where
  /-- header の 5 byte 目と 6 byte 目が QDCOUNT である。 -/
  queryCount : ∀ b m, codec.fromBytes b = .ok m →
    ∃ hi lo, b[4]? = some hi ∧ b[5]? = some lo ∧ m.queries.length = (Bytes.ofBe16 hi lo).toNat
  toBytes_length : ∀ m b, codec.toBytes m = .ok b → b.length ≤ m.wireSize
  truncate : ∀ m b, codec.toBytes m = .ok b →
    ∃ b', codec.toBytes m.truncate = .ok b' ∧ b'.length ≤ b.length
  /-- label の一 byte は、綴りでも一 byte 以上になる。 -/
  nameFromAscii : ∀ s n, codec.nameFromAscii s = .ok n → n.wireSize ≤ (Utf8.encode s).length + 2

/-- **QDCOUNT が 0 の byte 列からは、question の無い message しか読めない。** -/
theorem Codec.Laws.queries_eq_nil {codec : Codec} (laws : codec.Laws) {b : Bytes} {m : Message}
    (hm : codec.fromBytes b = .ok m) (hhi : b[4]? = some 0) (hlo : b[5]? = some 0) :
    m.queries = [] := by
  obtain ⟨hi, lo, hhi', hlo', hcount⟩ := laws.queryCount b m hm
  cases Option.some.inj (hhi.symm.trans hhi')
  cases Option.some.inj (hlo.symm.trans hlo')
  exact List.eq_nil_of_length_eq_zero hcount

/-! ## 圧縮しない書き出し -/

def OpCode.code : OpCode → Nat
  | .query => 0
  | .status => 2
  | .notify => 4
  | .update => 5
  | .unknown code => code.toNat

/-- header の flag の 2 byte。 -/
def Metadata.flags (m : Metadata) : Bytes :=
  let bit (b : Bool) (n : Nat) := if b then n else 0
  [UInt8.ofNat (bit (m.messageType = .response) 128 + m.opCode.code * 8 + bit m.authoritative 4
      + bit m.truncation 2 + bit m.recursionDesired 1),
    UInt8.ofNat (bit m.recursionAvailable 128 + bit m.authenticData 32 + bit m.checkingDisabled 16
      + m.responseCode.toNat % 16)]

/-- 長さの byte を前に付ける。 -/
def characterString (b : Bytes) : Bytes := UInt8.ofNat b.length :: b

def count (n : Nat) : Bytes := Bytes.toBe16 (UInt16.ofNat n)

def Name.encode (n : Name) : Bytes := n.labels.flatMap characterString ++ [0]

def Query.encode (q : Query) : Bytes :=
  q.name.encode ++ Bytes.toBe16 q.queryType.code ++ Bytes.toBe16 q.queryClass.code

def RData.encode : RData → Bytes
  | .a octets => Bytes.toBe32 octets
  | .aaaa hi lo =>
    [hi >>> 32, hi, lo >>> 32, lo].flatMap fun n => Bytes.toBe32 n.toUInt32
  | .txt txtData => txtData.flatMap characterString
  | .opt options => options
  | .other _ rdata => rdata

def Record.encode (r : Record) : Bytes :=
  r.name.encode ++ Bytes.toBe16 r.recordType.code ++ Bytes.toBe16 r.dnsClass.code
    ++ Bytes.toBe32 r.ttl ++ count r.data.encode.length ++ r.data.encode

def Edns.encode (e : Edns) : Bytes :=
  [0] ++ Bytes.toBe16 RecordType.OPT.code ++ Bytes.toBe16 e.maxPayload ++ [e.rcodeHigh, e.version]
    ++ Bytes.toBe16 (e.z + if e.dnssecOk then 0x8000 else 0) ++ count e.options.length ++ e.options

/-- ID より後。 -/
def Message.encodeBody (m : Message) : Bytes :=
  m.metadata.flags ++ count m.queries.length ++ count m.answers.length ++ count m.authorities.length
    ++ count (m.additionals.length + m.edns.toList.length + m.signature.toList.length)
    ++ m.queries.flatMap Query.encode
    ++ (m.answers ++ m.authorities ++ m.additionals).flatMap Record.encode
    ++ m.edns.toList.flatMap Edns.encode ++ m.signature.toList.flatMap Record.encode

def Message.encode (m : Message) : Bytes := Bytes.toBe16 m.metadata.id ++ m.encodeBody

@[simp] theorem Message.setId_encodeBody (m : Message) (id : UInt16) :
    (m.setId id).encodeBody = m.encodeBody := rfl

/-- 末尾の `.` は、wire には現れない。 -/
theorem Message.rooted_encodeBody (m : Message) : m.rooted.encodeBody = m.encodeBody := by
  have hquery : ∀ q : Query, q.rooted.encode = q.encode := fun _ => rfl
  have hrecord : ∀ r : Record, r.rooted.encode = r.encode := fun _ => rfl
  have hsig : (m.signature.map Record.rooted).toList = m.signature.toList.map Record.rooted := by
    cases m.signature <;> rfl
  simp [Message.encodeBody, Message.rooted, List.flatMap_map, hquery, hrecord, hsig]

@[simp] theorem Name.encode_length (n : Name) : n.encode.length = n.wireSize := by
  simp [Name.encode, Name.wireSize, List.length_flatMap, characterString]

@[simp] theorem Query.encode_length (q : Query) : q.encode.length = q.wireSize := by
  simp [Query.encode, Query.wireSize]

@[simp] theorem RData.encode_length (d : RData) : d.encode.length = d.wireSize := by
  cases d with
  | a octets => rfl
  | aaaa hi lo => rfl
  | txt txtData => simp [RData.encode, RData.wireSize, List.length_flatMap, characterString]
  | opt options => rfl
  | other t rdata => rfl

@[simp] theorem Record.encode_length (r : Record) : r.encode.length = r.wireSize := by
  simp [Record.encode, Record.wireSize, count]
  omega

@[simp] theorem Edns.encode_length (e : Edns) : e.encode.length = e.wireSize := by
  simp [Edns.encode, Edns.wireSize, count]
  omega

/-- 書き出した長さは、圧縮しない長さである。 -/
theorem Message.encode_length (m : Message) : m.encode.length = m.wireSize := by
  simp [Message.encode, Message.encodeBody, Message.wireSize, List.length_flatMap, count,
    Metadata.flags]
  omega

theorem Message.truncate_wireSize_le (m : Message) : m.truncate.wireSize ≤ m.wireSize := by
  simp [Message.truncate, Message.wireSize]

/-! ## 並べた message の `Codec` -/

/-- `msgs` にある message を、どの ID でも、末尾の `.` の有無によらず、圧縮せずに読み書きする。 -/
def listCodec (names : List (String × Name)) (msgs : List Message) : Codec where
  toBytes m := if (m.setId 0).rooted ∈ msgs then .ok m.encode else .error "unknown message"
  fromBytes b :=
    match b with
    | hi :: lo :: rest =>
      match msgs.find? fun m => m.encodeBody == rest with
      | some m => .ok (m.setId (Bytes.ofBe16 hi lo))
      | none => .error "unexpected end of input reached"
    | _ => .error "unexpected end of input reached"
  nameFromAscii s :=
    match names.find? fun p => p.1 == s with
    | some p => .ok p.2
    | none => .error "unknown name"
  debugType _ := ""
  debugName _ := ""

/-- `listCodec` が約束を守るための、並べる message の条件。 -/
structure Encodable (msgs : List Message) : Prop where
  /-- ID より後の byte 列は、互いに異なる。 -/
  distinct : ∀ m ∈ msgs, ∀ m' ∈ msgs, m.encodeBody = m'.encodeBody → m = m'
  queries : ∀ m ∈ msgs, m.queries.length ≤ 1
  truncate : ∀ m ∈ msgs, m.truncate ∈ msgs

/-- ほかのどれよりも長い message を、`truncate` したものと一緒に加える。 -/
theorem Encodable.concat {msgs : List Message} (h : Encodable msgs) {m : Message}
    (hqueries : m.queries.length ≤ 1) (hlong : ∀ m' ∈ msgs, m'.wireSize < m.truncate.wireSize)
    (hflags : m.metadata.flags ≠ m.truncate.metadata.flags) :
    Encodable (msgs ++ [m, m.truncate]) := by
  have hlen : ∀ a b : Message, a.encodeBody = b.encodeBody → a.wireSize = b.wireSize := by
    intro a b hab
    rw [← a.encode_length, ← b.encode_length, Message.encode, Message.encode, hab]
    simp
  have hself : m.encodeBody ≠ m.truncate.encodeBody := by
    intro hbody
    exact hflags (congrArg (List.take 2) hbody)
  have hnew : ∀ a ∈ [m, m.truncate], m.truncate.wireSize ≤ a.wireSize := by
    intro a ha
    rcases List.mem_pair.mp ha with rfl | rfl
    · exact a.truncate_wireSize_le
    · exact le_refl _
  have hsplit : ∀ a ∈ msgs, ∀ b ∈ [m, m.truncate], a.encodeBody ≠ b.encodeBody := by
    intro a ha b hb hab
    have := hlen a b hab
    have := hlong a ha
    have := hnew b hb
    omega
  constructor
  · intro a ha b hb hab
    rcases List.mem_append.mp ha with ha | ha
    · rcases List.mem_append.mp hb with hb | hb
      · exact h.distinct a ha b hb hab
      · exact absurd hab (hsplit a ha b hb)
    · rcases List.mem_append.mp hb with hb | hb
      · exact absurd hab.symm (hsplit b hb a ha)
      · rcases List.mem_pair.mp ha with rfl | rfl <;> rcases List.mem_pair.mp hb with rfl | rfl
        · rfl
        · exact absurd hab hself
        · exact absurd hab.symm hself
        · rfl
  · intro a ha
    rcases List.mem_append.mp ha with ha | ha
    · exact h.queries a ha
    · rcases List.mem_pair.mp ha with rfl | rfl
      · exact hqueries
      · exact hqueries
  · intro a ha
    rcases List.mem_append.mp ha with ha | ha
    · exact List.mem_append_left _ (h.truncate a ha)
    · refine List.mem_append_right _ ?_
      rcases List.mem_pair.mp ha with rfl | rfl
      · exact List.mem_cons_of_mem _ (List.mem_singleton_self _)
      · exact List.mem_cons_of_mem _ (List.mem_singleton_self _)

section

variable {names : List (String × Name)} {msgs : List Message}

theorem listCodec_toBytes_iff {m : Message} {b : Bytes} :
    (listCodec names msgs).toBytes m = .ok b ↔ (m.setId 0).rooted ∈ msgs ∧ m.encode = b := by
  show (if (m.setId 0).rooted ∈ msgs then (Except.ok m.encode : Except String Bytes) else _) = _ ↔ _
  split
  · next h => simp [h]
  · next h => simp [h]

theorem listCodec_fromBytes {m : Message} {b : Bytes}
    (h : (listCodec names msgs).fromBytes b = .ok m) :
    ∃ m' ∈ msgs, ∃ hi lo, b = hi :: lo :: m'.encodeBody ∧ m = m'.setId (Bytes.ofBe16 hi lo) := by
  unfold listCodec at h
  dsimp only at h
  split at h
  · next hi lo rest =>
    split at h
    · next m' hfind =>
      cases h
      have hbody : m'.encodeBody = rest := by simpa using List.find?_some hfind
      exact ⟨m', List.mem_of_find?_eq_some hfind, hi, lo, by rw [hbody], rfl⟩
    · cases h
  · cases h

/-- 書いたものは、末尾の `.` を付けて読み戻される。 -/
theorem listCodec_reads (hmsgs : Encodable msgs) {m : Message} {b : Bytes}
    (h : (listCodec names msgs).toBytes m = .ok b) :
    (listCodec names msgs).fromBytes b = .ok m.rooted := by
  obtain ⟨hmem, rfl⟩ := listCodec_toBytes_iff.mp h
  have hsame : (m.setId 0).rooted.encodeBody = m.encodeBody := by
    rw [Message.rooted_encodeBody, Message.setId_encodeBody]
  have hfind : ∃ m', msgs.find? (fun m' => m'.encodeBody == m.encodeBody) = some m' := by
    refine Option.isSome_iff_exists.mp (List.find?_isSome.mpr ⟨(m.setId 0).rooted, hmem, ?_⟩)
    rw [hsame, beq_self_eq_true]
  obtain ⟨m', hm'⟩ := hfind
  have hbody : m'.encodeBody = m.encodeBody := by simpa using List.find?_some hm'
  have heq : m' = (m.setId 0).rooted :=
    hmsgs.distinct m' (List.mem_of_find?_eq_some hm') _ hmem (hbody.trans hsame.symm)
  show (match msgs.find? (fun m' => m'.encodeBody == m.encodeBody) with
    | some m => Except.ok (m.setId (Bytes.ofBe16 _ _))
    | none => .error "unexpected end of input reached") = _
  rw [hm', heq]
  show Except.ok (m.rooted.setId (Bytes.ofBe16 _ _)) = _
  rw [Bytes.ofBe16_toBe16]
  rfl

/-- 絶対名だけの message は、そのまま読み戻される。 -/
theorem listCodec_roundTrips (hmsgs : Encodable msgs) {m : Message} (hm : m.rooted = m) :
    (listCodec names msgs).RoundTrips m := by
  intro b h
  rw [listCodec_reads hmsgs h, hm]

/-- **条件を満たす `listCodec` は、`Codec` の約束を守る。** -/
theorem listCodec_laws (hmsgs : Encodable msgs)
    (hnames : ∀ p ∈ names, p.2.wireSize ≤ (Utf8.encode p.1).length + 2) :
    (listCodec names msgs).Laws where
  queryCount := by
    intro b m h
    obtain ⟨m', hmem, hi, lo, rfl, rfl⟩ := listCodec_fromBytes h
    refine ⟨_, _, rfl, rfl, ?_⟩
    have hlen := hmsgs.queries m' hmem
    rw [Bytes.ofBe16_toBe16, UInt16.toNat_ofNat', Message.setId_queries]
    omega
  toBytes_length := by
    intro m b h
    obtain ⟨_, rfl⟩ := listCodec_toBytes_iff.mp h
    exact m.encode_length.le
  truncate := by
    intro m b h
    obtain ⟨hmem, rfl⟩ := listCodec_toBytes_iff.mp h
    refine ⟨m.truncate.encode, listCodec_toBytes_iff.mpr ⟨hmsgs.truncate _ hmem, rfl⟩, ?_⟩
    rw [Message.encode_length, Message.encode_length]
    exact m.truncate_wireSize_le
  nameFromAscii := by
    intro s n h
    unfold listCodec at h
    dsimp only at h
    split at h
    · next p hfind =>
      cases h
      have hs : p.1 = s := by simpa using List.find?_some hfind
      rw [← hs]
      exact hnames p (List.mem_of_find?_eq_some hfind)
    · cases h

end

end DnsProxy
