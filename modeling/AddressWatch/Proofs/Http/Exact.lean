import AddressWatch.Http.Head

/-!
# Exact readers

A reader is exact if it is done with a value exactly when the bytes begin with that value as it is
written.  Some readers look at the byte behind what they read: they read up to a byte that stops them.
An exact reader can be put behind either, and what comes out is exact.
-/

namespace AddressWatch.Http

/-- The reader is done exactly with what is written so, and leaves what stands behind it. -/
def Exact {α : Type} (reader : List UInt8 → Reading α) (written : α → List UInt8 → Prop) : Prop :=
  ∀ bytes value rest, reader bytes = .done value rest ↔
    ∃ front, bytes = front ++ rest ∧ written value front

namespace Reading

variable {α β : Type}

theorem andThen_eq_done_iff (reading : Reading α) (next : α → List UInt8 → Reading β)
    (result : β) (rest : List UInt8) :
    reading.andThen next = .done result rest ↔
      ∃ value middle, reading = .done value middle ∧ next value middle = .done result rest := by
  cases reading with
  | incomplete | malformed => simp [andThen]
  | done value middle =>
      simp only [andThen, done.injEq]
      constructor
      · intro following
        exact ⟨value, middle, ⟨rfl, rfl⟩, following⟩
      · rintro ⟨_, _, ⟨rfl, rfl⟩, following⟩
        exact following

theorem map_eq_done_iff (reading : Reading α) (change : α → β) (result : β) (rest : List UInt8) :
    reading.map change = .done result rest ↔
      ∃ value, reading = .done value rest ∧ change value = result := by
  simp only [map, andThen_eq_done_iff, done.injEq]
  constructor
  · rintro ⟨value, _, read, same, rfl⟩
    exact ⟨value, read, same⟩
  · rintro ⟨value, read, same⟩
    exact ⟨value, rest, read, same, rfl⟩

end Reading

namespace Exact

variable {α β : Type} {reader : List UInt8 → Reading α} {written : α → List UInt8 → Prop}

theorem andThen (first : Exact reader written) {next : α → List UInt8 → Reading β}
    {other : α → β → List UInt8 → Prop} (second : ∀ value, Exact (next value) (other value)) :
    Exact (fun bytes => (reader bytes).andThen next) fun result bytes =>
      ∃ value front back, bytes = front ++ back ∧ written value front ∧ other value result back := by
  intro bytes result rest
  rw [Reading.andThen_eq_done_iff]
  constructor
  · rintro ⟨value, middle, read, readNext⟩
    obtain ⟨front, rfl, isWritten⟩ := (first _ _ _).mp read
    obtain ⟨back, rfl, nextWritten⟩ := (second _ _ _ _).mp readNext
    exact ⟨front ++ back, by simp, value, front, back, rfl, isWritten, nextWritten⟩
  · rintro ⟨_, rfl, value, front, back, rfl, isWritten, nextWritten⟩
    refine ⟨value, back ++ rest, (first _ _ _).mpr ⟨front, by simp, isWritten⟩, ?_⟩
    exact (second _ _ _ _).mpr ⟨back, rfl, nextWritten⟩

theorem map (first : Exact reader written) (change : α → β) :
    Exact (fun bytes => (reader bytes).map change) fun result bytes =>
      ∃ value, written value bytes ∧ change value = result := by
  intro bytes result rest
  rw [Reading.map_eq_done_iff]
  constructor
  · rintro ⟨value, read, rfl⟩
    obtain ⟨front, rfl, isWritten⟩ := (first _ _ _).mp read
    exact ⟨front, rfl, value, isWritten, rfl⟩
  · rintro ⟨front, rfl, value, isWritten, rfl⟩
    exact ⟨value, (first _ _ _).mpr ⟨front, rfl, isWritten⟩, rfl⟩

theorem congr (first : Exact reader written) {other : α → List UInt8 → Prop}
    (same : ∀ value bytes, written value bytes ↔ other value bytes) : Exact reader other := by
  intro bytes value rest
  simp only [first bytes value rest, same]

end Exact

/-- The reader is done exactly with what is written so in front of a byte that stops it. -/
def UpTo {α : Type} (stops : UInt8 → Prop) (reader : List UInt8 → Reading α)
    (written : α → List UInt8 → Prop) : Prop :=
  ∀ bytes value rest, reader bytes = .done value rest ↔
    (∃ front, bytes = front ++ rest ∧ written value front) ∧
      ∃ byte tail, rest = byte :: tail ∧ stops byte

namespace UpTo

variable {α β : Type} {stops : UInt8 → Prop} {reader : List UInt8 → Reading α}
  {written : α → List UInt8 → Prop}

/-- What is read behind has to begin with a byte that stops the first reader. -/
theorem andThen (first : UpTo stops reader written) {next : α → List UInt8 → Reading β}
    {other : α → β → List UInt8 → Prop} (second : ∀ value, Exact (next value) (other value))
    (begins : ∀ value result bytes, other value result bytes →
      ∃ byte tail, bytes = byte :: tail ∧ stops byte) :
    Exact (fun bytes => (reader bytes).andThen next) fun result bytes =>
      ∃ value front back, bytes = front ++ back ∧ written value front ∧ other value result back := by
  intro bytes result rest
  rw [Reading.andThen_eq_done_iff]
  constructor
  · rintro ⟨value, middle, read, readNext⟩
    obtain ⟨⟨front, rfl, isWritten⟩, _⟩ := (first _ _ _).mp read
    obtain ⟨back, rfl, nextWritten⟩ := (second _ _ _ _).mp readNext
    exact ⟨front ++ back, by simp, value, front, back, rfl, isWritten, nextWritten⟩
  · rintro ⟨_, rfl, value, front, back, rfl, isWritten, nextWritten⟩
    obtain ⟨byte, tail, back_eq, isStopped⟩ := begins _ _ _ nextWritten
    refine ⟨value, back ++ rest, (first _ _ _).mpr ⟨⟨front, by simp, isWritten⟩, ?_⟩, ?_⟩
    · exact ⟨byte, tail ++ rest, by rw [back_eq, List.cons_append], isStopped⟩
    · exact (second _ _ _ _).mpr ⟨back, rfl, nextWritten⟩

end UpTo

end AddressWatch.Http
