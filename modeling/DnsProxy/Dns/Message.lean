import DnsProxy.Dns.Name

/-!
# DNS message

hickory の `Message` のうち、このプロキシが読み書きする形をそのまま写す。

record の type は `RData` から決まる（`Record::record_type`）。OPT は EDNS の入れ物で、
その「TTL」は寿命ではなく flag なので、cache はこれを特別に扱う。

wire 形式との変換（`BinEncodable` / `BinDecodable`）や名前の読み取りは hickory の中にあるので、
`Codec` という parameter に取る。
-/

namespace DnsProxy

open Infra

/-! ## 番号の付いた型 -/

/-- resource record の type。wire 上の 16 bit の番号そのものである。 -/
structure RecordType where
  code : UInt16
  deriving DecidableEq, Repr, Inhabited

namespace RecordType

def A : RecordType := ⟨1⟩
def TXT : RecordType := ⟨16⟩
def AAAA : RecordType := ⟨28⟩
def OPT : RecordType := ⟨41⟩

end RecordType

/-- class の番号。 -/
structure DNSClass where
  code : UInt16
  deriving DecidableEq, Repr, Inhabited

def DNSClass.IN : DNSClass := ⟨1⟩

inductive MessageType where
  | query
  | response
  deriving DecidableEq, Repr, Inhabited

inductive OpCode where
  | query
  | status
  | notify
  | update
  | unknown (code : UInt8)
  deriving DecidableEq, Repr, Inhabited

/-! ## message の部品 -/

/-- header のうち、section の個数を除いたもの。 -/
structure Metadata where
  id : UInt16
  messageType : MessageType
  opCode : OpCode
  authoritative : Bool := false
  truncation : Bool := false
  recursionDesired : Bool := false
  recursionAvailable : Bool := false
  authenticData : Bool := false
  checkingDisabled : Bool := false
  responseCode : UInt16 := 0
  deriving DecidableEq, Repr, Inhabited

structure Query where
  name : Name
  queryType : RecordType
  queryClass : DNSClass := DNSClass.IN
  deriving DecidableEq, Repr, Inhabited

/-- record の中身。中を見るものだけ構成子を分ける。 -/
inductive RData where
  | a (octets : UInt32)
  | aaaa (hi lo : UInt64)
  | txt (txtData : List Bytes)
  | opt (options : Bytes)
  | other (recordType : RecordType) (rdata : Bytes)
  deriving DecidableEq, Repr, Inhabited

/-- `RData::record_type`。 -/
def RData.recordType : RData → RecordType
  | .a _ => RecordType.A
  | .aaaa _ _ => RecordType.AAAA
  | .txt _ => RecordType.TXT
  | .opt _ => RecordType.OPT
  | .other t _ => t

structure Record where
  name : Name
  dnsClass : DNSClass := DNSClass.IN
  ttl : UInt32
  data : RData
  deriving DecidableEq, Repr, Inhabited

def Record.recordType (r : Record) : RecordType := r.data.recordType

/-- EDNS(0)。`dnssecOk` が DO bit である。 -/
structure Edns where
  rcodeHigh : UInt8 := 0
  version : UInt8 := 0
  dnssecOk : Bool := false
  z : UInt16 := 0
  maxPayload : UInt16 := 512
  options : Bytes := []
  deriving DecidableEq, Repr, Inhabited

structure Message where
  metadata : Metadata
  queries : List Query := []
  answers : List Record := []
  authorities : List Record := []
  additionals : List Record := []
  edns : Option Edns := none
  signature : Option Record := none
  deriving DecidableEq, Repr, Inhabited

namespace Message

/-- `Message::new`。 -/
def new (id : UInt16) (messageType : MessageType) (opCode : OpCode) : Message :=
  { metadata := { id, messageType, opCode } }

/-- `message.metadata.id = id`。 -/
def setId (m : Message) (id : UInt16) : Message := { m with metadata := { m.metadata with id } }

/-- `Message::truncate`。header・question・EDNS を残し、TC を立てて record を捨てる。 -/
def truncate (m : Message) : Message :=
  { m with
    metadata := { m.metadata with truncation := true }
    answers := []
    authorities := []
    additionals := []
    signature := none }

@[simp] theorem setId_id (m : Message) (id : UInt16) : (m.setId id).metadata.id = id := rfl
@[simp] theorem setId_queries (m : Message) (id : UInt16) : (m.setId id).queries = m.queries := rfl

end Message

/-! ## hickory の変換 -/

/-- hickory の中の変換。失敗は `ProtoError` の文面で表す。 -/
structure Codec where
  toBytes : Message → Except String Bytes
  fromBytes : Bytes → Except String Message
  /-- `Name::from_ascii`。 -/
  nameFromAscii : String → Except String Name
  /-- `RecordType` と `Name` の `{:?}`。 -/
  debugType : RecordType → String
  debugName : Name → String

end DnsProxy
