import DnsProxy.Client.DnsCrypt.Stamp

/-!
# 鍵の file（`client/dnscrypt/config.rs`）

`ResolverConfig` を `key = value` の行に書き、読み戻す。読む側は行を `trim` し、空行と `#` の行を
飛ばし、最初の `=` で分ける。同じ key が二度あれば後のものが残る。

file の中身は `Text` で表す。`base64Error` は base64 の `DecodeError` の文面である。
-/

namespace DnsProxy

open Infra

def keyProviderName : Text := text "provider_name"

def keyProviderSigningKey : Text := text "provider_signing_key"

def keyResolverSecretKey : Text := text "resolver_secret_key"

/-! ## 書く側 -/

/-- 一行。 -/
def configLine (key value : Text) : Text := key ++ text " = " ++ value ++ ['\n']

/-- `save` が書く中身。 -/
def ResolverConfig.toText (config : ResolverConfig) : Text :=
  configLine keyProviderName config.providerName.toList
    ++ configLine keyProviderSigningKey (Base64.encodeStandard config.providerSigningKey.1)
    ++ configLine keyResolverSecretKey (Base64.encodeStandard config.resolverSecretKey.1)

/-- `save`。`write` は `std::fs::write` である。 -/
def ResolverConfig.save (write : Text → Text → Except Text Unit) (path : Text)
    (config : ResolverConfig) : Except Text Unit :=
  (write path config.toText).mapError fun e => text "writing " ++ path ++ text ": " ++ e

/-! ## 読む側 -/

/-- `load` の loop が持ち回る三つの変数。 -/
structure ConfigFields where
  providerName : Option Text := none
  providerSigningKey : Option (Block 32) := none
  resolverSecretKey : Option (Block 32) := none

section

variable (unprintable : Char → Bool) (base64Error : Text → Text)

/-- 32 byte の鍵を読む。 -/
def decodeKey (value : Text) : Except Text (Block 32) :=
  match Base64.decodeStandard value with
  | none => .error (text "invalid base64: " ++ base64Error value)
  | some bytes =>
    match Block.ofBytes? 32 bytes with
    | none => .error (text "expected 32 bytes, got " ++ Nat.toDigits 10 bytes.length)
    | some key => .ok key

/-- `decode_signing_key`。 -/
def decodeSigningKey (value : Text) : Except Text (Block 32) := decodeKey base64Error value

/-- `decode_secret_key`。 -/
def decodeSecretKey (value : Text) : Except Text (Block 32) := decodeKey base64Error value

/-- 失敗の文面の、`path:行` の部分。 -/
def configPlace (path : Text) (idx : Nat) : Text :=
  path ++ [':'] ++ Nat.toDigits 10 (idx + 1) ++ text ": "

/-- `load` の `match key`。 -/
def assignField (path : Text) (idx : Nat) (fields : ConfigFields) (key value : Text) :
    Except Text ConfigFields :=
  if key = keyProviderName then .ok { fields with providerName := some value }
  else if key = keyProviderSigningKey then do
    let k ← (decodeSigningKey base64Error value).mapError fun e =>
      configPlace path idx ++ keyProviderSigningKey ++ text ": " ++ e
    .ok { fields with providerSigningKey := some k }
  else if key = keyResolverSecretKey then do
    let k ← (decodeSecretKey base64Error value).mapError fun e =>
      configPlace path idx ++ keyResolverSecretKey ++ text ": " ++ e
    .ok { fields with resolverSecretKey := some k }
  else .error (configPlace path idx ++ text "unknown key " ++ key.debug unprintable)

/-- `load` の loop の一周。 -/
def loadLine (path : Text) (idx : Nat) (fields : ConfigFields) (line : Text) :
    Except Text ConfigFields :=
  let line := line.trim
  if line.isEmpty || line.head? == some '#' then .ok fields
  else
    match Text.splitOnce ['='] line with
    | none => .error (configPlace path idx ++ text "expected \"key = value\"")
    | some (key, value) => assignField unprintable base64Error path idx fields key.trim value.trim

/-- `load` の loop。 -/
def loadLoop (path : Text) : (idx : Nat) → ConfigFields → List Text → Except Text ConfigFields
  | _, fields, [] => .ok fields
  | idx, fields, line :: rest => do
    let fields ← loadLine unprintable base64Error path idx fields line
    loadLoop path (idx + 1) fields rest

/-- `ok_or_else(..)`。 -/
def requireField {α : Type} (path key : Text) : Option α → Except Text α
  | none => .error (path ++ text ": missing " ++ key)
  | some a => .ok a

/-- `load`。`file` は `std::fs::read_to_string` の結果である。 -/
def ResolverConfig.load (path : Text) (file : Except Text Text) : Except Text ResolverConfig := do
  let content ← file.mapError fun e => text "reading " ++ path ++ text ": " ++ e
  let fields ← loadLoop unprintable base64Error path 0 {} content.lines
  let providerName ← requireField path keyProviderName fields.providerName
  let providerSigningKey ← requireField path keyProviderSigningKey fields.providerSigningKey
  let resolverSecretKey ← requireField path keyResolverSecretKey fields.resolverSecretKey
  .ok { providerName := String.ofList providerName, providerSigningKey, resolverSecretKey }

end

end DnsProxy
