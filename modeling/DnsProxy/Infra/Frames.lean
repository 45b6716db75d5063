import DnsProxy.Infra.Bytes

/-!
# 長さの付いた frame の stream

stream は、届いた断片の列である。`read_exact` は必要なだけの断片を読み進めるので、読めるものは
断片の切れ目に依らず、繋いだ byte 列だけで決まる（`readBlock_append`）。

frame は 2 byte の big-endian の長さと本文である。`frames` は byte 列の先頭から、揃っている frame を
順に取り出す。書いた frame の列からは、書いた順に同じ本文が取り出せる（`frames_flatMap`）。
-/

namespace Infra

/-! ## 断片の列 -/

/-- `read_exact`。ちょうど `n` byte を読み、残りの断片を返す。足りなければ読めない。 -/
def readChunks (n : Nat) : List Bytes → Option (Bytes × List Bytes)
  | [] => if n = 0 then some ([], []) else none
  | chunk :: rest =>
    if n ≤ chunk.length then some (chunk.take n, chunk.drop n :: rest)
    else (readChunks (n - chunk.length) rest).map fun p => (chunk ++ p.1, p.2)

/-- 足りていれば、繋いだ byte 列の先頭が読める。 -/
theorem readChunks_some {n : Nat} {chunks : List Bytes} (h : n ≤ chunks.flatten.length) :
    ∃ rest, readChunks n chunks = some (chunks.flatten.take n, rest) ∧
      rest.flatten = chunks.flatten.drop n := by
  induction chunks generalizing n with
  | nil =>
    have hn : n = 0 := by simpa using h
    subst hn
    exact ⟨[], rfl, rfl⟩
  | cons chunk rest ih =>
    rw [List.flatten_cons] at h ⊢
    unfold readChunks
    by_cases hle : n ≤ chunk.length
    · rw [if_pos hle, List.take_append_of_le_length hle, List.drop_append_of_le_length hle]
      exact ⟨_, rfl, List.flatten_cons⟩
    · rw [List.length_append] at h
      obtain ⟨rest', hread, hrest⟩ := ih (n := n - chunk.length) (by omega)
      have htake : chunk.take n = chunk := List.take_of_length_le (by omega)
      have hdrop : chunk.drop n = [] := List.drop_eq_nil_of_le (by omega)
      rw [if_neg hle, hread, List.take_append, List.drop_append, htake, hdrop, List.nil_append]
      exact ⟨rest', rfl, hrest⟩

/-- 足りなければ読めない。 -/
theorem readChunks_none {n : Nat} {chunks : List Bytes} (h : chunks.flatten.length < n) :
    readChunks n chunks = none := by
  induction chunks generalizing n with
  | nil =>
    have hn : n ≠ 0 := by
      rintro rfl
      simp at h
    exact if_neg hn
  | cons chunk rest ih =>
    rw [List.flatten_cons, List.length_append] at h
    unfold readChunks
    rw [if_neg (by omega), ih (by omega)]
    rfl

theorem readChunks_length {n : Nat} {chunks rest : List Bytes} {b : Bytes}
    (h : readChunks n chunks = some (b, rest)) : b.length = n := by
  by_cases hn : n ≤ chunks.flatten.length
  · obtain ⟨rest', hread, -⟩ := readChunks_some hn
    rw [hread] at h
    cases h
    exact List.length_take_of_le hn
  · rw [readChunks_none (by omega)] at h
    cases h

/-- ちょうど `n` byte の列として読む。 -/
def readBlock (n : Nat) (chunks : List Bytes) : Option (Block n × List Bytes) :=
  match h : readChunks n chunks with
  | some (b, rest) => some (⟨b, readChunks_length h⟩, rest)
  | none => none

/-- **読めるものは断片の切れ目に依らない。** 足りていれば、繋いだ byte 列の先頭が読める。 -/
theorem readBlock_append {n : Nat} {chunks : List Bytes} {b : Block n} {bytes : Bytes}
    (h : chunks.flatten = b.1 ++ bytes) :
    ∃ rest, readBlock n chunks = some (b, rest) ∧ rest.flatten = bytes := by
  have hn : n ≤ chunks.flatten.length := by
    rw [h, List.length_append, b.2]
    omega
  obtain ⟨rest, hread, hrest⟩ := readChunks_some hn
  rw [h, List.take_left' b.2] at hread
  rw [h, List.drop_left' b.2] at hrest
  refine ⟨rest, ?_, hrest⟩
  unfold readBlock
  split
  · next b' rest' hsome =>
    rw [hread] at hsome
    cases hsome
    rfl
  · next hnone =>
    rw [hread] at hnone
    cases hnone

theorem readBlock_none {n : Nat} {chunks : List Bytes} (h : chunks.flatten.length < n) :
    readBlock n chunks = none := by
  unfold readBlock
  split
  · next b rest hsome =>
    rw [readChunks_none h] at hsome
    cases hsome
  · rfl

/-! ## 長さの付いた frame -/

/-- 揃っている frame の本文を、先頭から順に取り出す。 -/
def frames : Bytes → List Bytes
  | hi :: lo :: rest =>
    if (Bytes.ofBe16 hi lo).toNat ≤ rest.length then
      rest.take (Bytes.ofBe16 hi lo).toNat :: frames (rest.drop (Bytes.ofBe16 hi lo).toNat)
    else []
  | _ => []
termination_by b => b.length
decreasing_by
  rw [List.length_drop, List.length_cons, List.length_cons]
  omega

/-- 2 byte に足りない byte 列には、揃った frame は無い。 -/
theorem frames_short {b : Bytes} (h : b.length < 2) : frames b = [] := by
  match b with
  | [] => rw [frames]; simp
  | [x] => rw [frames]; simp
  | _ :: _ :: rest => exact absurd h (by simp)

theorem frames_cons {hi lo : UInt8} {rest : Bytes} (h : (Bytes.ofBe16 hi lo).toNat ≤ rest.length) :
    frames (hi :: lo :: rest)
      = rest.take (Bytes.ofBe16 hi lo).toNat :: frames (rest.drop (Bytes.ofBe16 hi lo).toNat) := by
  rw [frames, if_pos h]

theorem frames_cut {hi lo : UInt8} {rest : Bytes} (h : rest.length < (Bytes.ofBe16 hi lo).toNat) :
    frames (hi :: lo :: rest) = [] := by
  rw [frames, if_neg (by omega)]

/-- 長さを付けた本文。 -/
def withLength (body : Bytes) : Bytes := Bytes.toBe16 (UInt16.ofNat body.length) ++ body

/-- 書いた frame は、そのまま取り出せる。 -/
theorem frames_withLength_append {body : Bytes} (h : body.length ≤ 65535) (rest : Bytes) :
    frames (withLength body ++ rest) = body :: frames rest := by
  have hlen : (Bytes.ofBe16 (UInt8.ofNat ((UInt16.ofNat body.length).toNat / 256))
      (UInt8.ofNat ((UInt16.ofNat body.length).toNat % 256))).toNat = body.length := by
    rw [Bytes.ofBe16_toBe16, UInt16.toNat_ofNat']
    omega
  show frames (_ :: _ :: (body ++ rest)) = _
  rw [frames_cons (by rw [hlen, List.length_append]; omega), hlen, List.take_left, List.drop_left]

/-- **書いた frame の列からは、書いた順に同じ本文が取り出せる。** -/
theorem frames_flatMap {bodies : List Bytes} (h : ∀ b ∈ bodies, b.length ≤ 65535) :
    frames (bodies.flatMap withLength) = bodies := by
  induction bodies with
  | nil => exact frames_short (by simp)
  | cons body rest ih =>
    rw [List.flatMap_cons, frames_withLength_append (h body List.mem_cons_self),
      ih fun b hb => h b (List.mem_cons_of_mem body hb)]

end Infra
