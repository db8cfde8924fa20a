import AddressWatch.Proofs.Http.Request
import AddressWatch.Proofs.Library
import AddressWatch.Proofs.RecordClient.Redirect

/-!
# Messages are read as they were meant to be

Every field of a message stands on one line, and the body is as long as the length field says.  This stays
so when a message goes elsewhere.
-/

namespace AddressWatch

open Text

theorem Url.authority_of_hasHost {url : Url} (hasHost : url.hasHost = true) :
    url.authority = "//" ++ url.userInfo ++ url.hostAndPort := by
  unfold authority
  cases hosted : url.host with
  | none => simp [Url.hasHost, hosted] at hasHost
  | some host => rfl

namespace RecordClient

theorem isSpecial_of_isWeb {url : Url} (isWeb : url.isWeb = true) :
    Url.isSpecial url.scheme = true := by
  rw [Url.isWeb, List.contains_iff_mem] at isWeb
  exact Url.isSpecial_web (by simpa using isWeb)

namespace Message

/-- Everything in the message can stand in a request. -/
structure Printed (message : Message) : Prop where
  url : message.url.Printed
  isWeb : message.url.isWeb = true
  /-- The only values that need not be graphic. -/
  authorizations : ∀ value ∈ message.authorizations, value.all Http.isValueByte = true
  referer : ∀ referer ∈ message.referer, referer.toList.all isGraphic = true

/-- The fields of the request as they are read. -/
def receivedFields (message : Message) : List Http.Field :=
  { message with authorizations := message.authorizations.map Http.trimValue }.fields

/-- The request as it is read. -/
def received (message : Message) : Http.Request :=
  { message.request with fields := message.receivedFields }

variable {library : Library} {message : Message}

theorem valuesOf_fields (message : Message) (name : String) :
    Http.valuesOf name message.fields =
      message.values.flatMap fun (other, values) => if other = name then values else [] := by
  rw [fields, Http.valuesOf, List.filter_flatMap, List.map_flatMap]
  congr 1
  funext ⟨other, values⟩
  by_cases same : other = name <;> simp [same, List.filter_map, Function.comp_def]

theorem valuesOf_authorization (message : Message) :
    Http.valuesOf "authorization" message.fields = message.authorizations := by
  rw [valuesOf_fields]
  simp [values]

theorem valuesOf_contentType (message : Message) :
    Http.valuesOf "content-type" message.fields =
      message.body.toList.map fun _ => Http.utf8 "application/json" := by
  rw [valuesOf_fields]
  simp [values]

theorem valuesOf_contentLength (message : Message) :
    Http.valuesOf "content-length" message.fields =
      message.body.toList.map fun body => Http.utf8 (Text.decimal (Http.utf8 body).length) := by
  rw [valuesOf_fields]
  simp [values]

theorem isNameChar_of_mem_values (message : Message) :
    ∀ field ∈ message.values, field.1.toList.all Http.isNameChar = true := by
  have each : ∀ name ∈ ["authorization", "content-type", "accept", "referer", "host", "content-length"],
      name.toList.all Http.isNameChar = true := by
    decide
  have names : message.values.map Prod.fst =
      ["authorization", "content-type", "accept", "referer", "host", "content-length"] := rfl
  intro field membership
  apply each
  rw [← names]
  exact List.mem_map_of_mem membership

theorem isValueByte_of_mem_values (printed : message.Printed) :
    ∀ field ∈ message.values, ∀ value ∈ field.2, value.all Http.isValueByte = true := by
  have graphic {text : String} (isGraphic : text.toList.all isGraphic = true) :
      (Http.utf8 text).all Http.isValueByte = true :=
    Http.Request.all_isValueByte_of_all_isGraphic isGraphic
  intro field membership value given
  simp only [values, List.mem_cons, List.not_mem_nil, or_false] at membership
  rcases membership with rfl | rfl | rfl | rfl | rfl | rfl
  · exact printed.authorizations value given
  · obtain ⟨body, -, rfl⟩ := List.mem_map.mp given
    exact graphic (by decide)
  · obtain rfl := List.mem_singleton.mp given
    exact graphic (by decide)
  · obtain ⟨referer, named, rfl⟩ := List.mem_map.mp given
    exact graphic (printed.referer referer (Option.mem_toList.mp named))
  · obtain rfl := List.mem_singleton.mp given
    exact graphic printed.url.hostAndPort
  · obtain ⟨body, -, rfl⟩ := List.mem_map.mp given
    exact graphic (all_isGraphic_decimal _)

theorem framed_field (printed : message.Printed) : ∀ field ∈ message.fields, field.Framed := by
  intro field membership
  obtain ⟨⟨name, values⟩, among, membership⟩ := List.mem_flatMap.mp membership
  obtain ⟨value, given, rfl⟩ := List.mem_map.mp membership
  exact ⟨isNameChar_of_mem_values message _ among, isValueByte_of_mem_values printed _ among value given⟩

/-- Of all values only authorizations can have blanks at their ends. -/
theorem map_trimmed_fields (printed : message.Printed) :
    message.request.fields.map Http.Field.trimmed = message.receivedFields := by
  have host := Http.trimValue_utf8 printed.url.hostAndPort
  have type : Http.trimValue (Http.utf8 "application/json") = Http.utf8 "application/json" := by
    decide
  have accept : Http.trimValue (Http.utf8 "*/*") = Http.utf8 "*/*" := by decide
  have length (number : Nat) := Http.trimValue_utf8 (all_isGraphic_decimal number)
  have referer : ∀ referer ∈ message.referer, Http.trimValue (Http.utf8 referer) = Http.utf8 referer :=
    fun referer given => Http.trimValue_utf8 (printed.referer referer given)
  cases body : message.body <;> cases from_ : message.referer <;>
    simp_all [request, receivedFields, fields, values, Http.Field.trimmed]

theorem framed_request (printed : message.Printed) : message.request.Framed where
  method := by
    unfold request
    cases message.body <;> simp only [Option.isSome] <;> decide
  target := printed.url.target
  fields := framed_field printed
  length := by
    rw [map_trimmed_fields printed, receivedFields, valuesOf_contentLength]
    cases body : message.body with
    | none => simp only [request, body]; rfl
    | some body' => simp [request, body, Http.decimal?_utf8_decimal]

theorem Printed.read?_request (printed : message.Printed) (rest : List UInt8) :
    Http.Request.read? (message.request.bytes ++ rest) = some (message.received, rest) := by
  rw [Http.Request.read?_bytes_append (framed_request printed), map_trimmed_fields printed]
  rfl

/-- The URL that a message names as the one it comes from is graphic. -/
theorem all_isGraphic_refererFor? {url previous : Url} (printed : previous.Printed)
    (isWeb : previous.isWeb = true) :
    ∀ referer ∈ refererFor? url previous, referer.toList.all isGraphic = true := by
  intro referer named
  unfold refererFor? at named
  split at named
  · contradiction
  · obtain rfl := Option.some.inj named
    have scheme : previous.scheme.toList.all isGraphic = true := by
      rw [Url.isWeb, List.contains_iff_mem] at isWeb
      rcases List.mem_pair.mp isWeb with web | web <;> rw [web] <;> decide
    let stripped : Url := { previous.withoutCredentials with fragment := none }
    have hosted : stripped.hasHost = true := printed.hasHost
    have anonymous : stripped.userInfo = "" := by rfl
    have text_eq : stripped.text =
        previous.scheme ++ ":" ++ ("//" ++ "" ++ previous.hostAndPort) ++ previous.target ++ "" := by
      rw [Url.text, Url.authority_of_hasHost hosted, anonymous]
      rfl
    rw [text_eq]
    simp only [String.toList_append, List.all_append, scheme, printed.hostAndPort, printed.target]
    decide

theorem Printed.next {next : Message} {head : Http.Head} (printed : message.Printed)
    (sound : library.Sound) (leads : message.next? library head = some next) (isWeb : next.url.isWeb = true) :
    next.Printed := by
  obtain ⟨-, reference, url, resolved, rfl⟩ := exists_goTo_of_next? leads
  refine ⟨sound.printed resolved (isSpecial_of_isWeb isWeb), isWeb, ?_, ?_⟩
  · intro value given
    simp only [goTo] at given
    split at given
    · exact printed.authorizations value given
    · contradiction
  · intro referer named
    simp only [goTo] at named
    rcases Option.or_eq_some_iff.mp named with own | ⟨-, old⟩
    · exact all_isGraphic_refererFor? printed.url printed.isWeb referer own
    · exact printed.referer referer old

/-- A message is read as what it was meant to be: with its body in one kind of request, and without a body
in the other. -/
theorem Printed.exists_received {body : String} (printed : message.Printed)
    (given : message.body = some body ∨ message.body = none) (rest : List UInt8) :
    ∃ received, Http.Request.read? (message.request.bytes ++ rest) = some (received, rest) ∧
      received.target = message.url.target ∧ received.fields = message.receivedFields ∧
      (received.method = "POST" ∧ received.body = Http.utf8 body ∨
        received.method = "GET" ∧ received.body = []) := by
  refine ⟨message.received, printed.read?_request rest, rfl, rfl, ?_⟩
  rcases given with whole | none
  · exact Or.inl (by simp [received, request, whole])
  · refine Or.inr ?_
    simp only [received, request, none]
    exact ⟨rfl, rfl⟩

end Message

end RecordClient

end AddressWatch
