import Pinaivu.Common.Types

/-!
The data that `settlement/adapter.rs` passes to every settlement backend. Of a
`serde_json::Value` only the kinds that the adapters write are kept.
-/

namespace Pinaivu.Settlement

inductive Json where
  | string (text : String)
  | number (value : UInt64)
  | object (fields : List (String × Json))

def Json.get (value : Json) (name : String) : Option Json :=
  match value with
  | .object fields => fields.lookup name
  | _ => none

def Json.asU64 : Json → Option UInt64
  | .number value => some value
  | _ => none

def Json.asStr : Json → Option String
  | .string text => some text
  | _ => none

structure EscrowParams where
  requestId : RequestId
  amountNanox : NanoX
  clientAddress : String
  nodeAddress : String
  tokenId : String
  deriving DecidableEq, Repr

structure EscrowHandle where
  settlementId : String
  requestId : RequestId
  amountNanox : NanoX
  chainTxId : Option String
  payload : Json

end Pinaivu.Settlement
