import DnsProxy.Client.DnsCrypt.Config

/-!
# 鍵の file の往復

`save` が書いた中身を `load` で読むと元に戻るのは、provider の名前に改行が無く、名前の前後に
空白が無いとき、かつそのときに限る（`load_save_iff`）。名前に改行があっても、鍵の行は名前の後に
書かれるので、読めたなら鍵は元のものである。
-/

namespace DnsProxy

open Infra

section

variable {unprintable : Char → Bool} {base64Error : Text → Text} {path : Text}

/-! ## 一行 -/

/-- 行の key として使える綴り。 -/
structure IsConfigKey (key : Text) : Prop where
  head : ∃ first mid, key = first :: mid ∧ first ≠ '#'
  noEquals : '=' ∉ key
  noWhitespace : ∀ c ∈ key, Text.isWhitespace c = false

theorem noWhitespace_of_all {key : Text}
    (h : key.all (fun c => !Text.isWhitespace c) = true) :
    ∀ c ∈ key, Text.isWhitespace c = false := by
  intro c hc
  simpa using List.all_eq_true.mp h c hc

theorem isConfigKey_providerName : IsConfigKey keyProviderName where
  head := ⟨'p', text "rovider_name", rfl, by decide⟩
  noEquals := by decide
  noWhitespace := noWhitespace_of_all (by decide)

theorem isConfigKey_providerSigningKey : IsConfigKey keyProviderSigningKey where
  head := ⟨'p', text "rovider_signing_key", rfl, by decide⟩
  noEquals := by decide
  noWhitespace := noWhitespace_of_all (by decide)

theorem isConfigKey_resolverSecretKey : IsConfigKey keyResolverSecretKey where
  head := ⟨'r', text "esolver_secret_key", rfl, by decide⟩
  noEquals := by decide
  noWhitespace := noWhitespace_of_all (by decide)

/-- 書いた行は、その key に、`trim` した値を入れる。 -/
theorem loadLine_configLine {key : Text} (hkey : IsConfigKey key) (idx : Nat)
    (fields : ConfigFields) (value : Text) :
    loadLine unprintable base64Error path idx fields (configLine key value)
      = assignField unprintable base64Error path idx fields key value.trim := by
  obtain ⟨first, mid, rfl, hhash⟩ := hkey.head
  have hfirst := hkey.noWhitespace first List.mem_cons_self
  have hkeyTrim : Text.trim (first :: mid ++ [' ']) = first :: mid := by
    rw [Text.trim_append_whitespace (by simp [Text.isWhitespace]),
      Text.trim_eq_self hkey.noWhitespace]
  have htrim : (configLine (first :: mid) value).trim
      = (first :: mid ++ [' ']) ++ '=' :: (' ' :: value).rdropWhile Text.isWhitespace := by
    have hline : configLine (first :: mid) value
        = first :: ((mid ++ [' ']) ++ '=' :: (' ' :: value)) ++ ['\n'] := by
      simp [configLine, text]
    rw [hline, Text.trim_append_whitespace (by simp [Text.isWhitespace]),
      Text.trim_append_right hfirst (by decide)]
    simp
  have hsplit : '=' ∉ first :: mid ++ [' '] := by
    have hno := hkey.noEquals
    simp only [List.mem_append, not_or]
    exact ⟨hno, by decide⟩
  have hvalue : Text.trim ((' ' :: value).rdropWhile Text.isWhitespace) = value.trim := by
    rw [Text.trim_rdropWhile]
    exact @Text.trim_append_left [' '] value (by simp [Text.isWhitespace])
  unfold loadLine
  dsimp only
  rw [htrim, if_neg (by simpa using hhash), Text.splitOnce_char_append hsplit]
  dsimp only
  rw [hkeyTrim, hvalue]

/-- 行は `trim` してから読むので、改行の有無を問わない。 -/
theorem loadLine_stripLineEnd (idx : Nat) (fields : ConfigFields) (line : Text) :
    loadLine unprintable base64Error path idx fields (Text.stripLineEnd line)
      = loadLine unprintable base64Error path idx fields line := by
  unfold loadLine
  rw [Text.trim_stripLineEnd]

/-! ## 鍵 -/

/-- base64 の綴りに空白は無い。 -/
theorem not_isWhitespace_encodeStandard {c : Char} {b : Bytes} (h : c ∈ Base64.encodeStandard b) :
    Text.isWhitespace c = false := by
  have hall : ∀ n : Fin 64,
      Text.isWhitespace (Base64.standardChar (Base64.toChar n.val)) = false := by
    decide
  unfold Base64.encodeStandard Base64.padding at h
  rcases List.mem_append.mp h with h | h
  · obtain ⟨n, rfl⟩ := Base64.mem_map_standardChar h
    exact hall n
  · rw [(List.mem_replicate.mp h).2]
    decide

theorem trim_encodeStandard (b : Bytes) :
    Text.trim (Base64.encodeStandard b) = Base64.encodeStandard b :=
  Text.trim_eq_self fun _ => not_isWhitespace_encodeStandard

/-- 書いた鍵は読み戻せる。 -/
theorem decodeKey_encodeStandard (key : Block 32) :
    decodeKey base64Error (Base64.encodeStandard key.1) = .ok key := by
  unfold decodeKey
  rw [Base64.decodeStandard_encodeStandard]
  dsimp only
  rw [Block.ofBytes?_self]

/-- 鍵の二行は、前に何が入っていても、元の鍵を入れる。 -/
theorem loadLoop_keyLines (config : ResolverConfig) (idx : Nat) (fields : ConfigFields) :
    loadLoop unprintable base64Error path idx fields
        [Text.stripLineEnd (configLine keyProviderSigningKey
            (Base64.encodeStandard config.providerSigningKey.1)),
          Text.stripLineEnd (configLine keyResolverSecretKey
            (Base64.encodeStandard config.resolverSecretKey.1))]
      = .ok { fields with
          providerSigningKey := some config.providerSigningKey
          resolverSecretKey := some config.resolverSecretKey } := by
  simp only [loadLoop, loadLine_stripLineEnd, loadLine_configLine isConfigKey_providerSigningKey,
    loadLine_configLine isConfigKey_resolverSecretKey, trim_encodeStandard, assignField,
    decodeSigningKey, decodeSecretKey, decodeKey_encodeStandard]
  rfl

/-! ## 全体 -/

theorem loadLoop_append (idx : Nat) (fields : ConfigFields) (xs ys : List Text) :
    loadLoop unprintable base64Error path idx fields (xs ++ ys)
      = loadLoop unprintable base64Error path idx fields xs >>= fun fields =>
          loadLoop unprintable base64Error path (idx + xs.length) fields ys := by
  induction xs generalizing idx fields with
  | nil => rfl
  | cons line xs ih =>
    rw [List.cons_append, loadLoop, loadLoop]
    cases loadLine unprintable base64Error path idx fields line with
    | error e => rfl
    | ok fields =>
      show loadLoop unprintable base64Error path (idx + 1) fields (xs ++ ys) = _
      rw [ih, List.length_cons, show idx + (xs.length + 1) = idx + 1 + xs.length by omega]
      rfl

/-- 一行だけの中身。 -/
theorem lines_configLine {key value : Text} (hkey : '\n' ∉ key) (hvalue : '\n' ∉ value) :
    Text.lines (configLine key value) = [Text.stripLineEnd (configLine key value)] := by
  have hline : '\n' ∉ key ++ text " = " ++ value := by
    simp [hkey, hvalue, text]
  unfold Text.lines configLine
  rw [Text.splitInclusive_line hline]
  rfl

/-- 名前の行と、鍵の二行に分かれる。 -/
theorem lines_toText (config : ResolverConfig) :
    Text.lines config.toText
      = Text.lines (configLine keyProviderName config.providerName.toList)
        ++ [Text.stripLineEnd (configLine keyProviderSigningKey
            (Base64.encodeStandard config.providerSigningKey.1)),
          Text.stripLineEnd (configLine keyResolverSecretKey
            (Base64.encodeStandard config.resolverSecretKey.1))] := by
  have hnewline : ∀ b, '\n' ∉ Base64.encodeStandard b := by
    intro b h
    have := not_isWhitespace_encodeStandard h
    contradiction
  have hjoin : ∀ key value rest : Text, configLine key value ++ rest
      = (key ++ text " = " ++ value) ++ '\n' :: rest := by
    intro key value rest
    simp [configLine]
  unfold ResolverConfig.toText
  rw [List.append_assoc, hjoin, Text.lines_append, ← configLine, hjoin, Text.lines_append,
    ← configLine, lines_configLine (by decide) (hnewline _),
    lines_configLine (by decide) (hnewline _)]
  rfl

/-- 読めた名前は、改行を含まず、前後に空白が無い。 -/
def NameTrimmed (fields : ConfigFields) : Prop :=
  ∀ name, fields.providerName = some name → '\n' ∉ name ∧ name.trim = name

theorem loadLine_nameTrimmed {idx : Nat} {fields fields' : ConfigFields} {line : Text}
    (hline : '\n' ∉ line.trim) (h : NameTrimmed fields)
    (hload : loadLine unprintable base64Error path idx fields line = .ok fields') :
    NameTrimmed fields' := by
  unfold loadLine at hload
  dsimp only at hload
  split at hload
  · cases hload
    exact h
  rcases Text.splitOnce_char '=' line.trim with ⟨key, value, hsplit, hparts, _⟩ | ⟨hsplit, _⟩
  · rw [hsplit] at hload
    dsimp only at hload
    unfold assignField at hload
    split at hload
    · cases hload
      intro name hname
      cases hname
      refine ⟨fun hmem => hline ?_, Text.trim_trim value⟩
      rw [hparts]
      exact List.mem_append_right _ (List.mem_cons_of_mem _ (Text.mem_of_mem_trim hmem))
    split at hload
    · obtain ⟨k, -, hload⟩ := Except.bind_eq_ok_iff.mp hload
      cases hload
      exact h
    split at hload
    · obtain ⟨k, -, hload⟩ := Except.bind_eq_ok_iff.mp hload
      cases hload
      exact h
    · cases hload
  · rw [hsplit] at hload
    cases hload

theorem loadLoop_nameTrimmed {lines : List Text} (hlines : ∀ line ∈ lines, '\n' ∉ line.trim)
    {idx : Nat} {fields fields' : ConfigFields} (h : NameTrimmed fields)
    (hload : loadLoop unprintable base64Error path idx fields lines = .ok fields') :
    NameTrimmed fields' := by
  induction lines generalizing idx fields with
  | nil =>
    cases hload
    exact h
  | cons line rest ih =>
    rw [loadLoop] at hload
    obtain ⟨next, hnext, hrest⟩ := Except.bind_eq_ok_iff.mp hload
    exact ih (fun l hl => hlines l (List.mem_cons_of_mem line hl))
      (loadLine_nameTrimmed (hlines line List.mem_cons_self) h hnext) hrest

theorem requireField_ok_iff {α : Type} {key : Text} {field : Option α} {a : α} :
    requireField path key field = .ok a ↔ field = some a := by
  cases field with
  | none => simp [requireField]
  | some b => simp [requireField]

/-- `load` が読めるのは、loop が三つの変数をすべて埋めたときである。 -/
theorem load_ok_iff {content : Text} {config : ResolverConfig} :
    ResolverConfig.load unprintable base64Error path (.ok content) = .ok config ↔
      loadLoop unprintable base64Error path 0 {} content.lines
        = .ok ⟨some config.providerName.toList, some config.providerSigningKey,
            some config.resolverSecretKey⟩ := by
  unfold ResolverConfig.load
  simp only [Except.mapError, Except.bind_eq_ok_iff, requireField_ok_iff, Except.ok.injEq,
    exists_eq_left']
  constructor
  · rintro ⟨fields, hload, name, hname, signing, hsigning, secret, hsecret, rfl⟩
    rw [hload, String.toList_ofList, ← hname, ← hsigning, ← hsecret]
  · intro hload
    exact ⟨_, hload, _, rfl, _, rfl, _, rfl, by rw [String.ofList_toList]⟩

/-- 読めたなら、鍵は元のものである。 -/
theorem load_toText_keys {config loaded : ResolverConfig}
    (h : ResolverConfig.load unprintable base64Error path (.ok config.toText) = .ok loaded) :
    loaded.providerSigningKey = config.providerSigningKey ∧
      loaded.resolverSecretKey = config.resolverSecretKey := by
  rw [load_ok_iff, lines_toText, loadLoop_append] at h
  obtain ⟨fields, -, hkeys⟩ := Except.bind_eq_ok_iff.mp h
  rw [loadLoop_keyLines, Except.ok.injEq, ConfigFields.mk.injEq] at hkeys
  exact ⟨(Option.some.inj hkeys.2.1).symm, (Option.some.inj hkeys.2.2).symm⟩

/-- 名前に改行が無ければ、`trim` した名前が読める。 -/
theorem load_toText {config : ResolverConfig} (hname : '\n' ∉ config.providerName.toList) :
    ResolverConfig.load unprintable base64Error path (.ok config.toText)
      = .ok { config with providerName := String.ofList (Text.trim config.providerName.toList) } := by
  rw [load_ok_iff, lines_toText, loadLoop_append,
    lines_configLine (by decide) hname, loadLoop, loadLine_stripLineEnd,
    loadLine_configLine isConfigKey_providerName]
  show loadLoop unprintable base64Error path _ _ _ = _
  rw [loadLoop_keyLines, String.toList_ofList]

/--
**`save` の中身を `load` が元に戻すのは、名前に改行が無く、名前が自分の `trim` に等しいとき、
かつそのときに限る。読めたなら、名前がどうであれ、鍵は元のものである。**
-/
theorem load_save_iff (unprintable : Char → Bool) (base64Error : Text → Text) (path : Text)
    (config : ResolverConfig) :
    (ResolverConfig.load unprintable base64Error path (.ok config.toText) = .ok config ↔
        '\n' ∉ config.providerName.toList ∧
          Text.trim config.providerName.toList = config.providerName.toList) ∧
      ∀ loaded, ResolverConfig.load unprintable base64Error path (.ok config.toText) = .ok loaded →
        loaded.providerSigningKey = config.providerSigningKey ∧
          loaded.resolverSecretKey = config.resolverSecretKey := by
  refine ⟨⟨?_, ?_⟩, fun loaded => load_toText_keys⟩
  · intro h
    have hinit : NameTrimmed {} := fun name hname => nomatch hname
    exact loadLoop_nameTrimmed (fun line => Text.notMem_trim_of_mem_lines) hinit (load_ok_iff.mp h)
      _ rfl
  · rintro ⟨hname, htrim⟩
    rw [load_toText hname, htrim, String.ofList_toList]

end

end DnsProxy
