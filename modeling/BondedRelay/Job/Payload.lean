import BondedRelay.Abi
import BondedRelay.Hex
import BondedRelay.Keccak

namespace BondedRelay

structure Payload where
  sourceChain : Uint 32
  target : Address
  nonce : Amount
  data : Bytes
  gasLimit : Uint 64
  gasPrice : Amount
  deriving DecidableEq, Repr

inductive PayloadError where
  | tooShort (length : Nat)
  | unknownSelector (selector : Bytes)
  | emptyBody
  | malformedBody
  | outOfRange (field : String)
  deriving DecidableEq, Repr

def PayloadError.message : PayloadError → String
  | .tooShort n => "Payload of " ++ toString n ++ " bytes is too short to carry a selector"
  | .unknownSelector s => "Unknown payload selector " ++ Hex.ofBytes s
  | .emptyBody =>
      "Malformed payload body: Invalid name: please ensure the contract and method you're calling " ++
        "exist! failed to decode empty bytes. if you're using jsonrpc this is likely due to " ++
        "jsonrpc returning \x600x\x60 in case contract or method don't exist"
  | .malformedBody => "Malformed payload body: Invalid data"
  | .outOfRange field => "Payload field " ++ field ++ " is out of range"

namespace Payload

def signature : String := "courierJobV1(uint32,address,uint256,bytes,uint256,uint256)"

def selector : Bytes := [0x85, 0x24, 0xc3, 0xb2]

theorem selector_eq : selector = (Keccak.digestBytes (Bytes.ofText signature)).take 4 := by
  decide +kernel

def fields (p : Payload) : List Abi.Field :=
  [.word (.wrap p.sourceChain.toNat), .word (.wrap p.target.toNat), .word p.nonce, .bytes p.data,
    .word (.wrap p.gasLimit.toNat), .word p.gasPrice]

def toBytes (p : Payload) : Bytes := selector ++ Abi.encode p.fields

def jobId (p : Payload) : JobId := keccak p.toBytes

def withGas (p : Payload) (gasLimit : Uint 64) (gasPrice : Amount) : Payload :=
  { p with gasLimit, gasPrice }

def ofBody (body : Bytes) : Except PayloadError Payload :=
  if body.isEmpty then .error .emptyBody
  else
    match Abi.word? body 0, Abi.word? body 32, Abi.word? body 64, Abi.bytes? body 96,
        Abi.word? body 128, Abi.word? body 160 with
    | some chain, some target, some nonce, some data, some limit, some gasPrice =>
        match Uint.ofNat? chain.toNat with
        | none => .error (.outOfRange "sourceChain")
        | some sourceChain =>
            match Uint.ofNat? limit.toNat with
            | none => .error (.outOfRange "gasLimit")
            | some gasLimit =>
                .ok { sourceChain, target := .wrap target.toNat, nonce, data, gasLimit, gasPrice }
    | _, _, _, _, _, _ => .error .malformedBody

def ofBytes (b : Bytes) : Except PayloadError Payload :=
  if b.length < 4 then .error (.tooShort b.length)
  else if b.take 4 ≠ selector then .error (.unknownSelector (b.take 4))
  else ofBody (b.drop 4)

def display (p : Payload) : String :=
  "JobPayload \x7b source_chain: " ++ toString p.sourceChain.toNat ++
    ", target: " ++ Hex.ofUint p.target ++
    ", nonce: " ++ toString p.nonce.toNat ++
    ", gas_limit: " ++ toString p.gasLimit.toNat ++
    ", gas_price: " ++ toString p.gasPrice.toNat ++ " \x7d"

end Payload

end BondedRelay
