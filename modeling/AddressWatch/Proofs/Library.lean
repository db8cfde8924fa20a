import AddressWatch.Library
import AddressWatch.Proofs.Url.Authority

/-!
# What is documented of libraries of the web

Nothing else is used of a library but this, and the library of this project keeps to it.
-/

namespace AddressWatch

/-- What is documented of a library of the web. -/
structure Library.Sound (library : Library) : Prop where
  keepsBlanks : library.hostNames.KeepsBlanks
  /-- A body is in UTF-8 if no type with a parameter is named, unless a mark in it tells otherwise. -/
  text_plain : ∀ {type : Option (List UInt8)} (body : List UInt8), (∀ value ∈ type, 59 ∉ value) →
    library.text type body = String.ofList (Http.Charset.utf8.decode body)
  /-- What is put in place of a reference can stand in a request. -/
  printed : ∀ {found url : Url} {reference : List UInt8},
    library.resolve? found reference = some url → Url.isSpecial url.scheme = true → url.Printed

namespace Library

theorem ofType_plain {type : Option (List UInt8)} (plain : ∀ value ∈ type, 59 ∉ value) :
    Http.Charset.ofType type = .utf8 := by
  cases type with
  | none => rfl
  | some value =>
      have absent : ';' ∉ Http.latin value := by
        intro membership
        obtain ⟨byte, among, same⟩ := List.mem_map.mp membership
        have each : ∀ code : Fin 256, Char.ofNat code = ';' → code.val = 59 := by
          decide +kernel
        have code : byte.toNat = 59 := each ⟨byte.toNat, byte.toNat_lt⟩ same
        obtain rfl : byte = 59 := UInt8.toNat_inj.mp code
        exact plain value rfl among
      rw [Http.Charset.ofType, Text.splitAt_of_not_mem absent]
      rfl

theorem exists_read?_of_resolveWhole? {found url : Url} {reference : List UInt8}
    (resolved : resolveWhole? found reference = some url) :
    ∃ text, Url.read? .basic text = some url := by
  unfold resolveWhole? at resolved
  dsimp only at resolved
  exact ⟨_, (Option.filter_eq_some_iff.mp resolved).1⟩

theorem sound_basic : basic.Sound where
  keepsBlanks := Url.HostNames.keepsBlanks_basic
  text_plain body plain := by
    simp only [basic, ofType_plain plain]
  printed resolved special := by
    simp only [basic] at resolved
    obtain ⟨text, read⟩ := exists_read?_of_resolveWhole? resolved
    exact Url.printed_of_read? read special

end Library

end AddressWatch
