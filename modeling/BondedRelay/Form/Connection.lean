import BondedRelay.Ethereum.Connection
import BondedRelay.Json.Fields

namespace BondedRelay.Connection

open Json

def toJson (c : Connection) : Json := .object [("name", .string c.name), ("url", .string c.url)]

def ofJson? (v : Json) : Option Connection :=
  match record? ["name", "url"] v with
  | some [name, url] => do
      let name ← required asString name
      let url ← required asString url
      return { name, url }
  | _ => none

instance : JsonForm Connection := ⟨toJson, ofJson?⟩

end BondedRelay.Connection
