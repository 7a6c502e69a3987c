import BondedRelay.Ethereum.Client
import BondedRelay.Proofs.Job.Payload

namespace BondedRelay.EthereumSubmitter

def arguments? (body : Bytes) : Option (Uint 32 × Bytes) :=
  match Abi.word? body 0, Abi.bytes? body 32 with
  | some destination, some payload =>
      (Uint.ofNat? destination.toNat).map fun destination => (destination, payload)
  | _, _ => none

variable (request : DispatchRequest)

theorem calldata_take : (calldata request).take 4 = selector := List.take_left' rfl

theorem arguments?_calldata (hlength : request.payload.toBytes.length < 0x100000000) :
    arguments? ((calldata request).drop 4) =
      some (request.destination, request.payload.toBytes) := by
  let destination : Amount := .wrap request.destination.toNat
  let payload := request.payload.toBytes
  have hbody : (calldata request).drop 4 = Abi.encode [.word destination, .bytes payload] :=
    List.drop_left' rfl
  have hword : Abi.word? (Abi.encode [.word destination, .bytes payload]) 0 = some destination :=
    Abi.word?_encode [] _ _
  have hoffset : Abi.tailOffset [.word destination] 2 < 0x100000000 := by
    show 64 < 0x100000000
    decide
  have hbytes : Abi.bytes? (Abi.encode [.word destination, .bytes payload]) 32 = some payload :=
    Abi.bytes?_encode [.word destination] _ _ hoffset hlength
  have hnarrow : Uint.ofNat? destination.toNat = some request.destination := by
    rw [Uint.toNat_wrap_of_le (by decide), Uint.ofNat?_toNat]
  rw [hbody, arguments?, hword, hbytes]
  simp only [hnarrow, Option.map_some, payload]

end BondedRelay.EthereumSubmitter
