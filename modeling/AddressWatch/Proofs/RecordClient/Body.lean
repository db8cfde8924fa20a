import AddressWatch.Proofs.Address.Grammar
import AddressWatch.Proofs.Json.RoundTrip
import AddressWatch.Proofs.Text.Utf8
import AddressWatch.RecordClient

/-!
# What an update says

The body of an update is one JSON object, from which the record is read back: no name and no value, with
whatever characters, says anything but itself.
-/

namespace AddressWatch

namespace Json

theorem escape_of_address {char : Char}
    (isAddress : Text.IsHexDigit char ∨ char = ':' ∨ char = '.') : escape char = [char] := by
  have each : ∀ code : Fin 128, (Text.digitValue? (Char.ofNat code)).isSome = true →
      escape (Char.ofNat code) = [Char.ofNat code] := by
    decide
  rcases isAddress with digit | rfl | rfl
  · obtain ⟨value, value_eq⟩ := Option.isSome_iff_exists.mp ((Text.isSome_digitValue?_iff char).mpr digit)
    have own := each ⟨char.toNat, Text.toNat_lt_of_digitValue? value_eq⟩
    rw [Char.ofNat_toNat, value_eq] at own
    exact own rfl
  · rfl
  · rfl

end Json

namespace Record

/-- The members of the object that an update sends. -/
def members (record : Record) : List (String × Json.Value) :=
  [("name", .string record.name),
    ("type", .string (match record.type with | .a => "A" | .aaaa => "AAAA")),
    ("ttl", .number record.ttl.toNat 0),
    ("value", .string record.value)]

variable (record : Record)

theorem toJson_eq : record.toJson = .object record.members := by
  obtain ⟨name, type, ttl, value⟩ := record
  cases type <;> rfl

theorem members_injective : Function.Injective members := by
  rintro ⟨name, type, ttl, value⟩ ⟨otherName, otherType, otherTtl, otherValue⟩ same
  simp only [members, List.cons.injEq, Prod.mk.injEq, Json.Value.string.injEq,
    Json.Value.number.injEq, Int.natCast_inj, UInt32.toNat_inj, true_and, and_true] at same
  obtain ⟨rfl, sameType, rfl, rfl⟩ := same
  obtain rfl : type = otherType := by
    cases type <;> cases otherType <;> first | rfl | exact absurd sameType (by decide)
  rfl

/-- The body is one object, and a reader that has taken its members is at the end. -/
theorem takes_body :
    Json.Takes (Json.readValue Json.maxDepth) record.body.toList (.object record.members) [] := by
  have readsBack : ∀ member ∈ record.members, Json.ReadsBack (Json.readValue 126) member.2 := by
    have few : (Nat.toDigits 10 record.ttl.toNat).length ≤ 10 :=
      (Nat.length_toDigits_le_iff (by decide) (by decide)).mpr
        (Nat.lt_trans record.ttl.toNat_lt (by decide))
    simp only [members, List.forall_mem_cons]
    exact ⟨Json.readsBack_string _ _, Json.readsBack_string _ _,
      Json.readsBack_natural _ (Json.isOutOfRange_of_length_le (Nat.le_trans few (by decide))),
      Json.readsBack_string _ _, by simp⟩
  have taken := Json.readValue_object readsBack []
  rwa [List.append_nil, ← toJson_eq, ← String.toList_ofList (l := Json.write record.toJson)] at taken

theorem read_body :
    Json.read (String.ofList (Text.Utf8.decode (Http.utf8 record.body))) =
      .ok (.object record.members) := by
  rw [Http.utf8, Text.Utf8.decode_encode, String.ofList_toList]
  exact Json.read_of_takes record.takes_body

theorem eq_of_body_eq {record other : Record}
    (same : Http.utf8 other.body = Http.utf8 record.body) : other = record := by
  have read := other.read_body
  rw [same, record.read_body] at read
  exact members_injective (Json.Value.object.inj (Except.ok.inj read)).symm

/-- The characters of an address are written as they are. -/
theorem flatMap_escape_of_isValid {family : Family}
    (valid : Address.isValid record.value family = true) :
    record.value.toList.flatMap Json.escape = record.value.toList := by
  have plain : ∀ char ∈ record.value.toList, Json.escape char = [char] := by
    intro char membership
    apply Json.escape_of_address
    cases family with
    | ipv4 =>
        rcases ((Address.isValid_ipv4_iff _).mp valid).isDigit_or_dot char membership with digit | dot
        · exact .inl (.inl ((Text.isDigit_iff char).mp digit))
        · exact .inr (.inr dot)
    | ipv6 => exact ((Address.isValid_ipv6_iff _).mp valid).isHexDigit_or_separator char membership
  rw [List.flatMap_congr plain, List.flatMap_singleton']

theorem toList_body : record.body.toList =
    "\x7b\"name\":".toList ++ Json.writeString record.name ++ ",\"type\":".toList ++
      Json.writeString record.type.name ++ ",\"ttl\":".toList ++
        (Text.decimal record.ttl.toNat).toList ++ ",\"value\":\"".toList ++
          record.value.toList.flatMap Json.escape ++ "\"\x7d".toList := by
  rw [body, Json.Value.text, String.toList_ofList]
  simp [toJson, Json.write, Json.writeMembers, Json.writeString, Json.writeInteger,
    Json.Value.natural, Json.escape]

/-- From the bytes of an update its record is read back, whatever characters the name and the value have,
so different records have different bytes.  An address stands in them as it is. -/
theorem bodies_are_read_back :
    Json.Takes (Json.readValue Json.maxDepth) record.body.toList (.object record.members) [] ∧
    Json.read (String.ofList (Text.Utf8.decode (Http.utf8 record.body))) =
      .ok (.object record.members) ∧
    (∀ other : Record, Http.utf8 other.body = Http.utf8 record.body → other = record) ∧
    ∀ family, Address.isValid record.value family = true →
      record.body = "\x7b\"name\":" ++ (Json.Value.string record.name).text ++ ",\"type\":\"" ++
        record.type.name ++ "\",\"ttl\":" ++ Text.decimal record.ttl.toNat ++ ",\"value\":\"" ++
          record.value ++ "\"\x7d" := by
  refine ⟨record.takes_body, record.read_body, fun _ => record.eq_of_body_eq, ?_⟩
  intro family valid
  have typeName : Json.writeString record.type.name = '"' :: (record.type.name.toList ++ ['"']) := by
    cases record.type <;> rfl
  rw [← String.toList_inj, toList_body, record.flatMap_escape_of_isValid valid, typeName]
  simp [Json.Value.text, Json.write]

/-- A name that tries to end its string and to set the lifetime itself. -/
def hostileName : String := "a\",\"ttl\":1\x7d\\\n\u007f\x01é"

theorem hostile_name_is_read_back :
    let record : Record := ⟨hostileName, .aaaa, 60, "2001:db8::5"⟩
    (Json.Value.string hostileName).text =
      "\"a\\\",\\\"ttl\\\":1\x7d\\\\\\n\u007f\\u0001é\"" ∧
    Json.read (String.ofList (Text.Utf8.decode (Http.utf8 record.body))) =
      .ok (.object [("name", .string hostileName), ("type", .string "AAAA"), ("ttl", .number 60 0),
        ("value", .string "2001:db8::5")]) ∧
    Address.isValid record.value .ipv6 = true ∧
    record.body = "\x7b\"name\":" ++ (Json.Value.string hostileName).text ++
      ",\"type\":\"AAAA\",\"ttl\":60,\"value\":\"2001:db8::5\"\x7d" := by
  intro record
  obtain ⟨_, read, _, verbatim⟩ := bodies_are_read_back record
  have valid : Address.isValid record.value .ipv6 = true := by decide +kernel
  refine ⟨by decide +kernel, read, valid, ?_⟩
  rw [verbatim .ipv6 valid]
  decide +kernel

end Record

end AddressWatch
