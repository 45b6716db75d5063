import DnsProxy.Client.Doh

/-!
# DoH の認証（`listener/doh_auth.rs`・`main.rs` の `doh_credentials`）

`user:password` の組を、要求の `Authorization` にそのまま現れる形（`Basic` と base64）で持つ。
組が一つも無ければ、listener は認証を求めない。

組は `--doh-auth` の値と `--doh-auth-file` の行から集める。空行と `#` で始まる行は読み飛ばし、
一つでも読めない行があれば起動しない。
-/

namespace DnsProxy

open Infra

/-- `Credentials`。 -/
structure Credentials where
  validHeaders : List String

namespace Credentials

/-- `Credentials::new`。 -/
def new (pairs : List (String × String)) : Credentials where
  validHeaders := pairs.map fun (user, pass) => basicAuthHeader user pass

/-- `Credentials::is_empty`。 -/
def isEmpty (c : Credentials) : Bool := c.validHeaders.isEmpty

/-- `Credentials::is_authorized`。 -/
def isAuthorized (c : Credentials) : Option String → Bool
  | some header => c.validHeaders.any fun valid => valid == header
  | none => false

/-- `Credentials::parse_pair`。最初の `:` で分ける。 -/
def parsePair (std : StdText) (s : String) : Except String (String × String) :=
  match Text.splitOnce [':'] s.toList with
  | none => .error s!"invalid credential {std.debug s}: expected user:password"
  | some (user, pass) =>
    if user.isEmpty then .error s!"invalid credential {std.debug s}: username is empty"
    else .ok (String.ofList user, String.ofList pass)

end Credentials

/-! ## 起動時の組み立て -/

/-- `Args` のうち、認証に関わるもの。 -/
structure DohAuthArgs where
  dohAuth : List String
  dohAuthFile : Option String

/-- 空行と注釈を除いた行。 -/
def credentialLines (content : String) : List String :=
  (((Text.lines content.toList).map Text.trim).filter
    fun line => !line.isEmpty && line.head? != some '#').map String.ofList

/-- `std::fs::read_to_string(path).map_err(..)`。 -/
def readAuthFile (readToString : String → Except String String) :
    Option String → Except String (Option String)
  | none => .ok none
  | some path =>
    match readToString path with
    | .ok content => .ok (some content)
    | .error e => .error s!"reading {path}: {e}"

/-- `main` の `doh_credentials`。失敗すれば起動しない。 -/
def dohCredentials (std : StdText) (readToString : String → Except String String)
    (args : DohAuthArgs) : Except String Credentials := do
  let content ← readAuthFile readToString args.dohAuthFile
  let lines := args.dohAuth ++ content.toList.flatMap credentialLines
  let pairs ← lines.mapM (Credentials.parsePair std)
  .ok (Credentials.new pairs)

end DnsProxy
