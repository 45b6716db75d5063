import Mathlib.Data.List.DropRight

/-!
# 文字列の処理

Rust の `str` の method を、文字の列 `List Char` の上で書く。走査の証明は列の帰納法になるので、
`String` のままより扱いやすい。分割は `List.splitOnP` と `List.isPrefixOf?` を使う。

空白は Unicode の `White_Space` である（`char::is_whitespace`）。
-/

namespace Infra

abbrev Text := List Char

/-- 文字列リテラルを文字の列にする。 -/
abbrev text (s : String) : Text := s.toList

namespace Text

/-! ## 空白 -/

/-- `char::is_whitespace`。Unicode の `White_Space` である。 -/
def isWhitespace (c : Char) : Bool :=
  let n := c.toNat
  (0x09 ≤ n && n ≤ 0x0D) || n == 0x20 || n == 0x85 || n == 0xA0 || n == 0x1680 ||
    (0x2000 ≤ n && n ≤ 0x200A) || n == 0x2028 || n == 0x2029 || n == 0x202F || n == 0x205F ||
    n == 0x3000

/-- `str::trim`。 -/
def trim (s : Text) : Text := (s.dropWhile isWhitespace).rdropWhile isWhitespace

/-- `str::split_whitespace`。続いた空白は一つの区切りになる。 -/
def splitWhitespace (s : Text) : List Text := (s.splitOnP isWhitespace).filter (fun w => !w.isEmpty)

/-- `trim` した文字列の最後は空白でない。 -/
theorem trim_getLast (s : Text) (h : s.trim ≠ []) : isWhitespace (s.trim.getLast h) = false := by
  have hlast := List.rdropWhile_last_not isWhitespace (s.dropWhile isWhitespace) h
  exact Bool.not_eq_true _ ▸ hlast

/-- 区切りでない文字で終わる列を区切ると、最後の一片は空でない。 -/
theorem splitOnP_getLast_ne_nil {α : Type} (p : α → Bool) (xs : List α) (x : α)
    (hx : p x = false) : ∃ w ∈ (xs ++ [x]).splitOnP p, w ≠ [] := by
  induction xs with
  | nil => exact ⟨[x], by simp [List.splitOnP_eq_singleton, hx], by simp⟩
  | cons y ys ih =>
    obtain ⟨w, hw, hne⟩ := ih
    rw [List.cons_append, List.splitOnP_cons_eq_if_modifyHead]
    split
    · exact ⟨w, List.mem_cons_of_mem _ hw, hne⟩
    · cases hs : (ys ++ [x]).splitOnP p with
      | nil => exact absurd hs (List.splitOnP_ne_nil p _)
      | cons first rest => exact ⟨y :: first, by simp, by simp⟩

/-- **空白でない文字で終わる文字列には、語が一つはある。** -/
theorem splitWhitespace_ne_nil {s : Text} (hne : s ≠ [])
    (h : isWhitespace (s.getLast hne) = false) : s.splitWhitespace ≠ [] := by
  have hsplit := splitOnP_getLast_ne_nil isWhitespace s.dropLast (s.getLast hne) h
  rw [List.dropLast_concat_getLast] at hsplit
  obtain ⟨w, hw, hwne⟩ := hsplit
  refine List.ne_nil_of_mem (a := w) ?_
  rw [splitWhitespace, List.mem_filter]
  exact ⟨hw, by simpa using hwne⟩

/-- 先頭の空白は `trim` に影響しない。 -/
theorem trim_append_left {lead s : Text} (h : ∀ c ∈ lead, isWhitespace c = true) :
    trim (lead ++ s) = trim s := by
  unfold trim
  rw [List.dropWhile_append_of_pos h]

/-- 末尾の空白は `trim` に影響しない。 -/
theorem trim_append_whitespace {s tail : Text} (h : ∀ c ∈ tail, isWhitespace c = true) :
    trim (s ++ tail) = trim s := by
  unfold trim
  rw [List.dropWhile_append]
  split
  · next hempty =>
    have hs := List.isEmpty_iff.mp hempty
    rw [hs, List.dropWhile_eq_nil_iff.mpr h]
  · rw [List.rdropWhile, List.reverse_append, List.dropWhile_append_of_pos (by simpa using h),
      ← List.rdropWhile]

theorem trim_rdropWhile (s : Text) : trim (s.rdropWhile isWhitespace) = trim s := by
  have h := @trim_append_whitespace (s.rdropWhile isWhitespace) (s.rtakeWhile isWhitespace)
    fun c hc => List.mem_rtakeWhile_imp hc
  rw [List.rdropWhile_append_rtakeWhile] at h
  exact h.symm

theorem trim_trim (s : Text) : trim (trim s) = trim s := by
  have hdrop : (trim s).dropWhile isWhitespace = trim s := by
    rw [List.dropWhile_eq_self_iff]
    intro hpos
    have hpre : trim s <+: s.dropWhile isWhitespace := List.rdropWhile_prefix _ _
    rw [hpre.getElem hpos]
    exact List.dropWhile_get_zero_not _ _ _
  rw [show trim (trim s) = ((trim s).dropWhile isWhitespace).rdropWhile isWhitespace from rfl, hdrop]
  exact List.rdropWhile_idempotent _ _

/-- 空白の無い文字列は `trim` で変わらない。 -/
theorem trim_eq_self {s : Text} (h : ∀ c ∈ s, isWhitespace c = false) : trim s = s := by
  have hdrop : s.dropWhile isWhitespace = s := by
    rw [List.dropWhile_eq_self_iff]
    intro hpos
    simp [h _ (List.getElem_mem hpos)]
  unfold trim
  rw [hdrop, List.rdropWhile_eq_self_iff]
  intro hne
  simp [h _ (List.getLast_mem hne)]

theorem mem_of_mem_trim {c : Char} {s : Text} (h : c ∈ trim s) : c ∈ s :=
  (List.dropWhile_suffix _).subset ((List.rdropWhile_prefix _ _).subset h)

/-- 空白でない文字で始まり空白でない文字で終わる部分は、`trim` に触られない。 -/
theorem trim_append_right {first last : Char} {mid s : Text} (hfirst : isWhitespace first = false)
    (hlast : isWhitespace last = false) :
    trim (first :: (mid ++ last :: s)) = first :: (mid ++ last :: s.rdropWhile isWhitespace) := by
  unfold trim List.rdropWhile
  have hrev : (first :: (mid ++ last :: s)).reverse
      = s.reverse ++ last :: (mid.reverse ++ [first]) := by simp
  rw [List.dropWhile_cons_of_neg (by simp [hfirst]), hrev, List.dropWhile_append]
  split
  · next hempty =>
    have hnil := List.isEmpty_iff.mp hempty
    rw [hnil, List.dropWhile_cons_of_neg (by simp [hlast])]
    simp
  · simp

/-- 末尾の空白は語に影響しない。 -/
theorem splitWhitespace_rdropWhile (s : Text) :
    splitWhitespace (s.rdropWhile isWhitespace) = s.splitWhitespace := by
  induction s using List.reverseRecOn with
  | nil => rfl
  | append_singleton s c ih =>
    by_cases hc : isWhitespace c = true
    · rw [List.rdropWhile_concat_pos _ _ _ hc, ih]
      unfold splitWhitespace
      rw [List.splitOnP_append_cons s [] hc]
      simp
    · rw [List.rdropWhile_concat_neg _ _ _ hc]

/-! ## 分割と小文字化 -/

/-- `str::to_ascii_lowercase`。 -/
def toAsciiLowercase (s : Text) : Text := s.map Char.toLower

/-- 英字でない文字は、小文字にしても混ざらない。 -/
theorem toLower_eq_iff {c p : Char} (hp : p.isAlpha = false) : c.toLower = p ↔ c = p := by
  obtain ⟨hupper, hlower⟩ := Bool.or_eq_false_iff.mp hp
  have hlow : p.toLower = p := by
    unfold Char.toLower
    rw [dif_neg]
    intro h
    have htrue : p.isUpper = true := decide_eq_true h
    rw [hupper] at htrue
    cases htrue
  constructor
  · intro h
    unfold Char.toLower at h
    split at h
    · next hu =>
      exfalso
      have hval : (c.val + 32).toNat = p.val.toNat := by
        have := congrArg (fun x : Char => x.val.toNat) h
        simpa using this
      have h1 : 65 ≤ c.val.toNat := hu.1
      have h2 : c.val.toNat ≤ 90 := hu.2
      rw [UInt32.toNat_add] at hval
      have h32 : (32 : UInt32).toNat = 32 := rfl
      have hl : p.isLower = true := by
        refine Bool.and_eq_true_iff.mpr ⟨decide_eq_true ?_, decide_eq_true ?_⟩
        · show 97 ≤ p.val.toNat
          omega
        · show p.val.toNat ≤ 122
          omega
      rw [hlower] at hl
      cases hl
    · exact h
  · rintro rfl
    exact hlow

/-- `str::split_once`。最初に現れる `pat` の前と後。 -/
def splitOnce (pat : Text) : Text → Option (Text × Text)
  | [] =>
    match pat.isPrefixOf? [] with
    | some rest => some ([], rest)
    | none => none
  | c :: cs =>
    match pat.isPrefixOf? (c :: cs) with
    | some rest => some ([], rest)
    | none => (splitOnce pat cs).map fun (before, after) => (c :: before, after)

/-- **一文字の区切りの前には、その文字は無い。** 区切りが無ければ分けられない。 -/
theorem splitOnce_char (p : Char) (s : Text) :
    (∃ before after, splitOnce [p] s = some (before, after) ∧ s = before ++ p :: after ∧
      p ∉ before) ∨ (splitOnce [p] s = none ∧ p ∉ s) := by
  induction s with
  | nil => exact Or.inr ⟨rfl, by simp⟩
  | cons c rest ih =>
    rw [splitOnce]
    by_cases hc : c = p
    · subst hc
      exact Or.inl ⟨[], rest, by simp [List.isPrefixOf?], rfl, by simp⟩
    · have hp : List.isPrefixOf? [p] (c :: rest) = none := by
        simp [List.isPrefixOf?, Ne.symm hc]
      rw [hp]
      rcases ih with ⟨before, after, hs, hr, hn⟩ | ⟨hs, hn⟩
      · refine Or.inl ⟨c :: before, after, by rw [hs]; rfl, by rw [hr]; rfl, ?_⟩
        simp [Ne.symm hc, hn]
      · refine Or.inr ⟨by rw [hs]; rfl, ?_⟩
        simp [Ne.symm hc, hn]

/-- 区切りの文字を含まない列の後で分けると、その前と後に戻る。 -/
theorem splitOnce_char_append {p : Char} {before : Text} (h : p ∉ before) (after : Text) :
    splitOnce [p] (before ++ p :: after) = some (before, after) := by
  induction before with
  | nil => simp [splitOnce, List.isPrefixOf?]
  | cons c rest ih =>
    have hc : ¬ p = c := fun he => h (he ▸ List.mem_cons_self)
    have hp : List.isPrefixOf? [p] (c :: (rest ++ p :: after)) = none := by
      simp [List.isPrefixOf?, hc]
    rw [List.cons_append, splitOnce, hp, ih fun hm => h (List.mem_cons_of_mem c hm)]
    rfl

/-- 二文字の区切りを含まない列の後で分けると、その前と後に戻る。 -/
theorem splitOnce_pair_append {p q : Char} (hpq : p ≠ q) {before : Text}
    (h : ¬ [p, q] <:+: before) (after : Text) :
    splitOnce [p, q] (before ++ p :: q :: after) = some (before, after) := by
  induction before with
  | nil => simp [splitOnce, List.isPrefixOf?]
  | cons c rest ih =>
    have hrest : ¬ [p, q] <:+: rest := fun hin => h (hin.trans (List.suffix_cons c rest).isInfix)
    have hno : List.isPrefixOf? [p, q] (c :: (rest ++ p :: q :: after)) = none := by
      cases rest with
      | nil => simp [List.isPrefixOf?, Ne.symm hpq]
      | cons d rest =>
        by_cases hc : p = c
        · by_cases hd : q = d
          · exact absurd ⟨[], rest, by rw [hc, hd]; rfl⟩ h
          · simp [List.isPrefixOf?, hd]
        · simp [List.isPrefixOf?, hc]
    rw [List.cons_append, splitOnce, hno, ih hrest]
    rfl

/-- **二文字の区切りでは、最初に現れるところで分かれる。** -/
theorem splitOnce_pair_iff {p q : Char} (hpq : p ≠ q) {s before after : Text} :
    splitOnce [p, q] s = some (before, after) ↔
      s = before ++ p :: q :: after ∧ ¬ [p, q] <:+: before := by
  constructor
  · intro h
    induction s generalizing before with
    | nil => simp [splitOnce, List.isPrefixOf?] at h
    | cons c cs ih =>
      rw [splitOnce] at h
      split at h
      · next rest hp =>
        cases h
        exact ⟨(List.isPrefixOf?_eq_some_iff_append_eq.mp hp).symm, by simp⟩
      · next hno =>
        obtain ⟨⟨before', after'⟩, hs, he⟩ := Option.map_eq_some_iff.mp h
        cases he
        obtain ⟨hcs, hin⟩ := ih hs
        refine ⟨by rw [hcs]; rfl, fun hinfix => ?_⟩
        rcases List.infix_cons_iff.mp hinfix with hpre | hinfix
        -- `c` から区切りが始まるなら、初めからそこで分かれていた
        · have hpre' : [p, q] <+: c :: cs := by
            rw [hcs]
            exact hpre.trans ⟨p :: q :: after, rfl⟩
          obtain ⟨tail, htail⟩ := hpre'
          rw [List.isPrefixOf?_eq_some_iff_append_eq.mpr htail] at hno
          cases hno
        · exact hin hinfix
  · rintro ⟨rfl, h⟩
    exact splitOnce_pair_append hpq h after

/-- 分けられないのは、区切りがどこにも現れないとき、かつそのときに限る。 -/
theorem splitOnce_eq_none_iff {pat s : Text} : splitOnce pat s = none ↔ ¬ pat <:+: s := by
  induction s with
  | nil =>
    rw [splitOnce]
    split
    · next rest hp =>
      have hpat : pat ++ rest = [] := List.isPrefixOf?_eq_some_iff_append_eq.mp hp
      rw [(List.append_eq_nil_iff.mp hpat).1]
      simp
    · next hno =>
      refine ⟨fun _ hin => ?_, fun _ => rfl⟩
      rw [List.isPrefixOf?_eq_some_iff_append_eq.mpr (by rw [List.infix_nil.mp hin]; rfl)] at hno
      cases hno
  | cons c cs ih =>
    rw [splitOnce, List.infix_cons_iff]
    split
    · next rest hp =>
      have hpre : pat <+: c :: cs := ⟨rest, List.isPrefixOf?_eq_some_iff_append_eq.mp hp⟩
      simp [hpre]
    · next hno =>
      rw [Option.map_eq_none_iff, ih, not_or]
      refine ⟨fun h => ⟨fun hpre => ?_, h⟩, fun h => h.2⟩
      obtain ⟨tail, htail⟩ := hpre
      rw [List.isPrefixOf?_eq_some_iff_append_eq.mpr htail] at hno
      cases hno

/-- 区切って得た片は、どれも区切りの文字を含まない。 -/
theorem not_mem_of_mem_splitOnP {p : Char} {s w : Text} (h : w ∈ s.splitOnP (· == p)) : p ∉ w := by
  induction s generalizing w with
  | nil => simp_all
  | cons c cs ih =>
    rw [List.splitOnP_cons_eq_if_modifyHead] at h
    split at h
    · rcases List.mem_cons.mp h with rfl | h
      · simp
      · exact ih h
    · next hc =>
      cases hs : cs.splitOnP (· == p) with
      | nil => exact absurd hs (List.splitOnP_ne_nil _ _)
      | cons first rest =>
        rw [hs] at h ih
        rcases List.mem_cons.mp h with rfl | h
        · have hfirst : p ∉ first := ih List.mem_cons_self
          have hne : p ≠ c := fun he => hc (by simp [he])
          simp [hne, hfirst]
        · exact ih (List.mem_cons_of_mem _ h)

/-- 区切りかどうかを変えない写像は、分けてから施しても同じである。 -/
theorem splitOnP_map {α : Type} {f : α → α} {p : α → Bool} (h : ∀ x, p (f x) = p x)
    (xs : List α) : (xs.map f).splitOnP p = (xs.splitOnP p).map (List.map f) := by
  induction xs with
  | nil => rfl
  | cons x xs ih =>
    rw [List.map_cons, List.splitOnP_cons_eq_if_modifyHead, List.splitOnP_cons_eq_if_modifyHead, h,
      ih]
    split
    · rfl
    · cases xs.splitOnP p with
      | nil => rfl
      | cons first rest => rfl

/-- `str::rsplit_once`。最後に現れる `p` の前と後。 -/
def rsplitOnce (p : Char) (s : Text) : Option (Text × Text) :=
  (splitOnce [p] s.reverse).map fun (after, before) => (before.reverse, after.reverse)

/-- 最後の区切りの後には、その文字は無い。 -/
theorem rsplitOnce_append {p : Char} {after : Text} (h : p ∉ after) (before : Text) :
    rsplitOnce p (before ++ p :: after) = some (before, after) := by
  have hrev : (before ++ p :: after).reverse = after.reverse ++ p :: before.reverse := by simp
  unfold rsplitOnce
  rw [hrev, splitOnce_char_append (by simpa using h)]
  simp

theorem rsplitOnce_eq_none {p : Char} {s : Text} (h : p ∉ s) : rsplitOnce p s = none := by
  unfold rsplitOnce
  rcases splitOnce_char p s.reverse with ⟨before, after, -, hs, -⟩ | ⟨hnone, -⟩
  · exact absurd (List.mem_reverse.mp (hs ▸ by simp)) h
  · rw [hnone]
    rfl

/-- 区切りの文字を含む列は、最後のそれの前後に分かれる。 -/
theorem exists_last_split {p : Char} {s : Text} (h : p ∈ s) :
    ∃ before after, s = before ++ p :: after ∧ p ∉ after := by
  rcases splitOnce_char p s.reverse with ⟨before, after, -, hs, hn⟩ | ⟨-, hn⟩
  · refine ⟨after.reverse, before.reverse, ?_, by simpa using hn⟩
    rw [← List.reverse_inj, hs]
    simp
  · exact absurd (List.mem_reverse.mpr h) hn

theorem eq_of_rsplitOnce {p : Char} {s before after : Text}
    (h : rsplitOnce p s = some (before, after)) : s = before ++ p :: after := by
  by_cases hp : p ∈ s
  · obtain ⟨before', after', rfl, hafter⟩ := exists_last_split hp
    rw [rsplitOnce_append hafter] at h
    cases h
    rfl
  · rw [rsplitOnce_eq_none hp] at h
    cases h

/-! ## 行 -/

/-- 行末の改行を除く。`\r` は `\n` の前にあるときだけ除かれる。 -/
def stripLineEnd (line : Text) : Text :=
  match line.reverse with
  | '\n' :: '\r' :: rest => rest.reverse
  | '\n' :: rest => rest.reverse
  | _ => line

/-- `str::split_inclusive('\n')`。空の残りは一片にならない。 -/
def splitInclusive : Text → List Text
  | [] => []
  | c :: rest =>
    if c = '\n' then [c] :: splitInclusive rest
    else
      match splitInclusive rest with
      | [] => [[c]]
      | line :: more => (c :: line) :: more

/-- `str::lines`。 -/
def lines (s : Text) : List Text := (splitInclusive s).map stripLineEnd

example : lines (text "a\r\n\nb\r") = [text "a", [], text "b\r"] := by decide

/-- 行末の改行は空白なので、`trim` すれば有無を問わない。 -/
theorem trim_stripLineEnd (line : Text) : trim (stripLineEnd line) = trim line := by
  unfold stripLineEnd
  split
  · next rest h =>
    have hline : line = rest.reverse ++ ['\r', '\n'] := by
      rw [← List.reverse_inj, h]
      simp
    rw [hline, trim_append_whitespace (by simp [isWhitespace])]
  · next rest _ h =>
    have hline : line = rest.reverse ++ ['\n'] := by
      rw [← List.reverse_inj, h]
      simp
    rw [hline, trim_append_whitespace (by simp [isWhitespace])]
  · rfl

theorem splitInclusive_append (before after : Text) :
    splitInclusive (before ++ '\n' :: after)
      = splitInclusive (before ++ ['\n']) ++ splitInclusive after := by
  induction before with
  | nil => simp [splitInclusive]
  | cons c rest ih =>
    rw [List.cons_append, List.cons_append, splitInclusive, splitInclusive, ih]
    split
    · rfl
    · have hne : splitInclusive (rest ++ ['\n']) ≠ [] := by
        cases rest with
        | nil => simp [splitInclusive]
        | cons d rest =>
          rw [List.cons_append, splitInclusive]
          split
          · simp
          · split
            · simp
            · simp
      cases hs : splitInclusive (rest ++ ['\n']) with
      | nil => exact absurd hs hne
      | cons line more => rfl

/-- 改行の前後は、別々に行に分けてよい。 -/
theorem lines_append (before after : Text) :
    lines (before ++ '\n' :: after) = lines (before ++ ['\n']) ++ lines after := by
  unfold lines
  rw [splitInclusive_append, List.map_append]

theorem splitInclusive_line {line : Text} (h : '\n' ∉ line) :
    splitInclusive (line ++ ['\n']) = [line ++ ['\n']] := by
  induction line with
  | nil => rfl
  | cons c rest ih =>
    have hc : c ≠ '\n' := fun he => h (he ▸ List.mem_cons_self)
    rw [List.cons_append, splitInclusive, if_neg hc, ih fun hm => h (List.mem_cons_of_mem c hm)]

/-- 一片の中の改行は、最後の一文字だけである。 -/
theorem mem_splitInclusive {s piece : Text} (h : piece ∈ splitInclusive s) :
    ∃ body, '\n' ∉ body ∧ (piece = body ∨ piece = body ++ ['\n']) := by
  induction s generalizing piece with
  | nil => simp [splitInclusive] at h
  | cons c rest ih =>
    rw [splitInclusive] at h
    split at h
    · next hc =>
      rcases List.mem_cons.mp h with rfl | h
      · exact ⟨[], by simp, Or.inr (by rw [hc]; rfl)⟩
      · exact ih h
    · next hc =>
      split at h
      · exact ⟨[c], by simpa using Ne.symm hc, Or.inl (by simpa using h)⟩
      · next first more hs =>
        rw [hs] at ih
        rcases List.mem_cons.mp h with rfl | h
        · obtain ⟨body, hbody, hfirst⟩ := ih List.mem_cons_self
          refine ⟨c :: body, by simp [Ne.symm hc, hbody], ?_⟩
          rcases hfirst with rfl | rfl
          · exact Or.inl rfl
          · exact Or.inr rfl
        · exact ih (List.mem_cons_of_mem first h)

/-- `trim` した行は改行を含まない。 -/
theorem notMem_trim_of_mem_lines {s line : Text} (h : line ∈ lines s) : '\n' ∉ trim line := by
  obtain ⟨piece, hpiece, rfl⟩ := List.mem_map.mp h
  obtain ⟨body, hbody, hp⟩ := mem_splitInclusive hpiece
  have htrim : trim piece = trim body := by
    rcases hp with rfl | rfl
    · rfl
    · exact trim_append_whitespace (by simp [isWhitespace])
  rw [trim_stripLineEnd, htrim]
  exact fun hmem => hbody (mem_of_mem_trim hmem)

/-! ## `{:?}` による表示 -/

/-- `char::escape_debug_ext`。`unprintable` は Unicode の表で、そのまま印字しない文字である。 -/
def escapeDebug (unprintable : Char → Bool) (c : Char) : Text :=
  match c with
  | '\x00' => text "\\0"
  | '\t' => text "\\t"
  | '\r' => text "\\r"
  | '\n' => text "\\n"
  | '"' => text "\\\""
  | '\\' => text "\\\\"
  | c => if unprintable c then text "\\u\x7b" ++ Nat.toDigits 16 c.toNat ++ text "\x7d" else [c]

/-- `str` の `Debug`。 -/
def debug (unprintable : Char → Bool) (s : Text) : Text :=
  '"' :: s.flatMap (escapeDebug unprintable) ++ ['"']

/-- `str::parse::<u16>`。先頭の `+` は許される。 -/
def parseU16 (s : Text) : Option UInt16 :=
  let digits := match s with
    | '+' :: rest => rest
    | _ => s
  if digits.isEmpty || !digits.all Char.isDigit then none
  else
    let n := digits.foldl (fun n c => n * 10 + (c.toNat - '0'.toNat)) 0
    if n < 65536 then some (UInt16.ofNat n) else none

/-- `u16` を読めないときの失敗の文面（`ParseIntError`）。桁を左から読み、最初の失敗で止まる。 -/
def u16Error (s : Text) : Text :=
  match s with
  | [] => text "cannot parse integer from empty string"
  | ['+'] => text "invalid digit found in string"
  | '+' :: rest => scan 0 rest
  | s => scan 0 s
where
  scan (n : Nat) : Text → Text
    | [] => []
    | c :: rest =>
      if !c.isDigit then text "invalid digit found in string"
      else
        let n := n * 10 + (c.toNat - '0'.toNat)
        if 65536 ≤ n then text "number too large to fit in target type" else scan n rest

/-- 数の綴りの文字は、どれも一桁の数字である。 -/
theorem toDigits_forall {P : Char → Prop} {base : Nat} (hb : 1 < base)
    (h : ∀ k, k < base → P (Nat.digitChar k)) (n : Nat) : ∀ c ∈ Nat.toDigits base n, P c := by
  induction n using Nat.strongRecOn with
  | ind n ih =>
    rw [Nat.toDigits_eq_if hb]
    by_cases hn : n < base
    · rw [if_pos hn]
      simpa using h n hn
    · rw [if_neg hn]
      have hlast := h (n % base) (Nat.mod_lt n (by omega))
      have hrest := ih (n / base) (Nat.div_lt_self (by omega) hb)
      simpa [or_imp, forall_and] using ⟨hrest, hlast⟩

/-- 十進の綴りは、その数に読み戻せる。 -/
theorem foldl_toDigits (n : Nat) :
    (Nat.toDigits 10 n).foldl (fun n c => n * 10 + (c.toNat - '0'.toNat)) 0 = n := by
  induction n using Nat.strongRecOn with
  | ind n ih =>
    rw [Nat.toDigits_eq_if (by omega)]
    by_cases hn : n < 10
    · rw [if_pos hn]
      simpa using Nat.toNat_digitChar_sub_48_of_lt_ten hn
    · have hlast : (Nat.digitChar (n % 10)).toNat - '0'.toNat = n % 10 :=
        Nat.toNat_digitChar_sub_48_of_lt_ten (by omega)
      rw [if_neg hn, List.foldl_append, ih (n / 10) (by omega)]
      simp only [List.foldl_cons, List.foldl_nil, hlast]
      omega

theorem isDigit_of_mem_toDigits {n : Nat} {c : Char} (h : c ∈ Nat.toDigits 10 n) :
    c.isDigit = true := Nat.isDigit_of_mem_toDigits (by omega) (by omega) h

theorem parseU16_toDigits (n : UInt16) : parseU16 (Nat.toDigits 10 n.toNat) = some n := by
  have hsign : ∀ rest, Nat.toDigits 10 n.toNat ≠ '+' :: rest := by
    intro rest h
    have hplus : Char.isDigit '+' = true := isDigit_of_mem_toDigits (h ▸ List.mem_cons_self)
    contradiction
  have hall : (Nat.toDigits 10 n.toNat).all Char.isDigit = true :=
    List.all_eq_true.mpr fun c hc => isDigit_of_mem_toDigits hc
  have hlt := n.toNat_lt
  unfold parseU16
  split
  · next rest h => exact absurd h (hsign rest)
  · rw [if_neg (by simp [hall, Nat.toDigits_ne_nil]), foldl_toDigits, if_pos hlt]
    simp

/-- 数字でない文字のある綴りは、数に読めない。 -/
theorem parseU16_eq_none {s : Text} {c : Char} (hc : c ∈ s) (hdigit : c.isDigit = false)
    (hplus : c ≠ '+') : parseU16 s = none := by
  have hbad : ∀ digits : Text, c ∈ digits → (digits.isEmpty || !digits.all Char.isDigit) = true := by
    intro digits hmem
    have hall : digits.all Char.isDigit = false := List.all_eq_false.mpr ⟨c, hmem, by simp [hdigit]⟩
    simp [hall]
  unfold parseU16
  split
  · next rest =>
    have hrest : c ∈ rest := by
      rcases List.mem_cons.mp hc with h | h
      · exact absurd h hplus
      · exact h
    exact if_pos (hbad rest hrest)
  · exact if_pos (hbad s hc)

end Text

/-! ## UTF-8 -/

namespace Utf8

/-- `str::as_bytes`。 -/
def encode (s : String) : List UInt8 := s.toByteArray.data.toList

/-- `String::from_utf8`。 -/
def decode (b : List UInt8) : Option String := String.fromUTF8? ⟨b.toArray⟩

theorem decode_encode (s : String) : decode (encode s) = some s := by
  have hb : (⟨(encode s).toArray⟩ : ByteArray) = s.toByteArray := by
    unfold encode
    rw [Array.toArray_toList]
  unfold decode String.fromUTF8?
  rw [hb, dif_pos s.isValidUTF8]
  rfl

/-- 読めた byte 列は、その文字列の byte 列である。 -/
theorem encode_of_decode {b : List UInt8} {s : String} (h : decode b = some s) : encode s = b := by
  unfold decode String.fromUTF8? at h
  split at h
  · cases h
    unfold encode
    rfl
  · cases h

theorem encode_injective {s t : String} (h : encode s = encode t) : s = t := by
  have hdec := decode_encode s
  rw [h, decode_encode] at hdec
  exact (Option.some.inj hdec).symm

/-! ### ASCII の文字列 -/

/-- ASCII の文字だけから成ること。 -/
def IsAscii (s : Text) : Prop := ∀ c ∈ s, c.toNat < 128

theorem encode_cons (c : Char) (s : Text) :
    encode (String.ofList (c :: s)) = String.utf8EncodeChar c ++ encode (String.ofList s) := by
  unfold encode
  rw [String.toByteArray_ofList, String.toByteArray_ofList, List.utf8Encode_cons,
    List.utf8Encode_singleton]
  simp

/-- **ASCII の文字は、一文字が一 byte になる。** -/
theorem encode_ascii {s : Text} (h : IsAscii s) :
    encode (String.ofList s) = s.map fun c => UInt8.ofNat c.toNat := by
  induction s with
  | nil => simp [encode]
  | cons c s ih =>
    have hc : c.val ≤ 127 := by
      have := h c List.mem_cons_self
      rw [UInt32.le_iff_toNat_le]
      exact Nat.le_of_lt_succ this
    rw [encode_cons, ih fun x hx => h x (List.mem_cons_of_mem c hx),
      String.utf8EncodeChar_eq_singleton (Char.utf8Size_eq_one_iff.mpr hc)]
    rfl

theorem encode_ascii_length {s : Text} (h : IsAscii s) :
    (encode (String.ofList s)).length = s.length := by
  rw [encode_ascii h, List.length_map]

theorem encode_ascii_lt {s : Text} (h : IsAscii s) {b : UInt8}
    (hb : b ∈ encode (String.ofList s)) : b.toNat < 128 := by
  rw [encode_ascii h] at hb
  obtain ⟨c, hc, rfl⟩ := List.mem_map.mp hb
  have := h c hc
  rw [UInt8.toNat_ofNat']
  omega

theorem IsAscii.append {s t : Text} (hs : IsAscii s) (ht : IsAscii t) : IsAscii (s ++ t) := by
  intro c hc
  rcases List.mem_append.mp hc with hc | hc
  · exact hs c hc
  · exact ht c hc

end Utf8

end Infra
