import AddressWatch.Config

/-!
The record that one update asks the API to hold, and what becomes of an update.
-/

namespace AddressWatch

/-- One record: a name, the kind of address, how long it may be cached, and the address. -/
structure Record where
  name : String
  type : RecordType
  ttl : UInt32
  value : String
deriving DecidableEq, Inhabited

namespace Record

def toJson (record : Record) : Json.Value :=
  .object [
    ("name", .string record.name),
    ("type", .string record.type.name),
    ("ttl", .natural record.ttl.toNat),
    ("value", .string record.value)]

def body (record : Record) : String := record.toJson.text

def layout (record : Record) : Text.Layout where
  name := "RecordUpdate"
  fields := [
    ("name", Text.Quoted.quote record.name),
    ("record_type", record.type.label),
    ("ttl", Text.decimal record.ttl.toNat),
    ("value", Text.Quoted.quote record.value)]

end Record

/-- What became of one update. -/
inductive Outcome where
  /-- The API took the record. -/
  | applied (status : UInt16)
  /-- The API answered with another status. -/
  | rejected (status : UInt16) (body : String)
  /-- There was no answer. -/
  | unreachable (reason : String)
deriving DecidableEq, Inhabited

namespace Outcome

def isApplied : Outcome → Bool
  | applied _ => true
  | _ => false

/-- What a log line says about the outcome. -/
def detail : Outcome → String
  | applied status => "HTTP " ++ Text.decimal status.toNat
  | rejected status body => "HTTP " ++ Text.decimal status.toNat ++ ": " ++ body
  | unreachable reason => "connection failed: " ++ reason

def layout : Outcome → Text.Layout
  | applied status => ⟨"Applied", [("status", Text.decimal status.toNat)]⟩
  | rejected status body =>
      ⟨"Rejected", [("status", Text.decimal status.toNat), ("body", Text.Quoted.quote body)]⟩
  | unreachable reason => ⟨"Unreachable", [("reason", Text.Quoted.quote reason)]⟩

end Outcome

end AddressWatch
