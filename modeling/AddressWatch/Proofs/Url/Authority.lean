import AddressWatch.Proofs.Text.Utf8
import AddressWatch.Proofs.Url.Reader

/-!
# Authorities do not end in a blank

A space or a control character at the end of an authority is at the end of its host or of its port.  It
cannot be part of a number, and reading the name of a host keeps it, so there is no such host.
-/

namespace AddressWatch

open Text

namespace Text

theorem Percent.getLast?_decode {bytes : List UInt8} {code : UInt8}
    (last : bytes.getLast? = some code) (notDigit : Percent.digit? code = none) :
    (Percent.decode bytes).getLast? = some code := by
  have longer {byte : UInt8} {rest : List UInt8} (found : rest.getLast? = some code) :
      (byte :: rest).getLast? = some code := by
    rw [List.getLast?_cons, found]
    rfl
  have shorter {byte next : UInt8} {rest : List UInt8}
      (found : (byte :: next :: rest).getLast? = some code) : (next :: rest).getLast? = some code := by
    rwa [List.getLast?_cons_cons] at found
  fun_induction Percent.decode bytes with
  | case1 high low rest highDigit lowDigit lowFound highFound inductionHypothesis =>
      cases rest with
      | nil =>
          -- The code is not a digit, so it cannot end an escape.
          obtain rfl : low = code := by simpa using last
          rw [notDigit] at lowFound
          contradiction
      | cons next rest => exact longer (inductionHypothesis (shorter (shorter (shorter last))))
  | case2 high low rest failed inductionHypothesis =>
      exact longer (inductionHypothesis (shorter last))
  | case3 byte rest other inductionHypothesis =>
      cases rest with
      | nil => exact last
      | cons next rest => exact longer (inductionHypothesis (shorter last))
  | case4 => contradiction

namespace Utf8

/-- The character under way expects bytes outside ASCII. -/
def Reading.Expects (reading : Reading) : Prop := ∀ pending ∈ reading.pending, 0x80 ≤ pending.low

theorem le_low_of_opening {byte : Nat} {pending : Unfinished}
    (opens : opening byte = .longer pending) : 0x80 ≤ pending.low := by
  unfold opening at opens
  split_ifs at opens <;> cases opens <;> simp

theorem Reading.expects_start (done : List Char) (byte : Nat) :
    (Reading.start done byte).Expects := by
  unfold Reading.start Reading.Expects
  split
  · simp
  next pending opens => simpa using le_low_of_opening opens
  · simp

theorem Reading.Expects.step {reading : Reading} (byte : UInt8) : (reading.step byte).Expects := by
  unfold Reading.step
  dsimp only
  split
  · exact Reading.expects_start _ _
  · split
    · split
      · simp [Reading.Expects]
      · simp [Reading.Expects]
    · exact Reading.expects_start _ _

/-- A byte of ASCII is read as its character, even if it damages another one. -/
theorem Reading.step_ascii {reading : Reading} (expects : reading.Expects) {code : UInt8}
    (isAscii : code.toNat < 0x80) :
    ∃ done, reading.step code = ⟨Char.ofNat code.toNat :: done, none⟩ := by
  have whole : opening code.toNat = .whole (Char.ofNat code.toNat) := if_pos isAscii
  unfold Reading.step
  dsimp only
  split
  · exact ⟨_, by rw [Reading.start, whole]⟩
  next pending found =>
    have low := expects pending found
    rw [if_neg (by omega)]
    exact ⟨_, by rw [Reading.start, whole]⟩

theorem getLast?_decode {bytes : List UInt8} {code : UInt8} (last : bytes.getLast? = some code)
    (isAscii : code.toNat < 0x80) : (decode bytes).getLast? = some (Char.ofNat code.toNat) := by
  obtain ⟨before, rfl⟩ := List.getLast?_eq_some_iff.mp last
  have expects : (before.foldl Reading.step {}).Expects := by
    cases before using List.reverseRecOn with
    | nil => simp [Reading.Expects]
    | append_singleton before byte =>
        rw [List.foldl_append]
        exact Reading.Expects.step byte
  obtain ⟨done, read⟩ := Reading.step_ascii expects isAscii
  rw [decode, List.foldl_append, List.foldl_cons, List.foldl_nil, read]
  simp [Reading.finish]

theorem getLast?_encode {text : List Char} {char : Char} (last : text.getLast? = some char)
    (isAscii : char.toNat < 0x80) : (encode text).getLast? = some (UInt8.ofNat char.toNat) := by
  obtain ⟨before, rfl⟩ := List.getLast?_eq_some_iff.mp last
  rw [encode_append, encode_cons, utf8EncodeChar_of_lt isAscii]
  simp [encode]

end Utf8

end Text

/-- Whether a character is a space or a control character, as far as URLs skip them. -/
def Url.isOuter (char : Char) : Bool := char.toNat ≤ 0x20

@[elab_as_elim]
theorem Url.of_isOuter {motive : Char → Prop} (char : Char) (outer : isOuter char = true)
    (each : ∀ code : Fin 33, motive (Char.ofNat code)) : motive char :=
  of_toNat_lt char (Nat.lt_succ_of_le (of_decide_eq_true outer)) each

theorem Url.digitBelow?_of_isOuter {base : Nat} {char : Char} (outer : isOuter char = true) :
    digitBelow? base char = none := by
  have each : ∀ code : Fin 33, digitValue? (Char.ofNat code) = none := by decide
  have own : digitValue? char = none := of_isOuter char outer each
  rw [digitBelow?, own]
  rfl

namespace Url.HostNames

theorem toLower_of_isOuter {char : Char} (outer : isOuter char = true) : char.toLower = char := by
  have each : ∀ code : Fin 33, (Char.ofNat code).toLower = Char.ofNat code := by decide
  exact of_isOuter char outer each

/-- The characters of a label that are in ASCII stay in it. -/
theorem mem_asciiLabel {label : List Char} {char : Char} (outer : isOuter char = true)
    (membership : char ∈ label) : char ∈ asciiLabel label := by
  have code : char.toNat ≤ 0x20 := of_decide_eq_true outer
  have lowered : char ∈ label.map Char.toLower :=
    List.mem_map.mpr ⟨char, membership, toLower_of_isOuter outer⟩
  unfold asciiLabel
  split
  · exact lowered
  · have basic : char ∈ (label.map Char.toLower).filter fun char => char.toNat < 0x80 :=
      List.mem_filter.mpr ⟨lowered, decide_eq_true (by omega)⟩
    refine List.mem_append_right _ (List.mem_append_left _ ?_)
    rw [if_neg (List.ne_nil_of_mem basic)]
    exact List.mem_append_left _ basic

theorem mem_asciiName {name : List Char} {char : Char} (outer : isOuter char = true)
    (membership : char ∈ name) : char ∈ asciiName name := by
  have notStop : isFullStop char = false := by
    cases stop : isFullStop char with
    | false => rfl
    | true =>
        simp only [isFullStop, Bool.or_eq_true, beq_iff_eq] at stop
        rcases stop with ((rfl | rfl) | rfl) | rfl <;> exact absurd outer (by decide)
  obtain ⟨label, among, inside⟩ := exists_mem_splitWhere membership notStop
  exact mem_intercalate (List.mem_map_of_mem among) (mem_asciiLabel outer inside)

theorem keepsBlanks_basic : basic.KeepsBlanks := by
  rintro name _ char ⟨⟩ membership blank
  exact mem_asciiName (decide_eq_true blank) membership

end Url.HostNames

variable {names : Url.HostNames}

namespace Url.Host

/-- No host ends in a space or in a control character. -/
theorem read?_eq_none (keeps : names.KeepsBlanks) {text : List Char} {char : Char} (last : text.getLast? = some char)
    (outer : isOuter char = true) : read? names text = none := by
  have code : char.toNat ≤ 0x20 := of_decide_eq_true outer
  unfold read?
  split
  next rest =>
    -- A literal address ends in a bracket.
    rw [if_neg]
    intro closed
    rw [List.getLast?_cons, closed] at last
    obtain rfl : ']' = char := by simpa using last
    exact absurd outer (by decide)
  next text _ =>
    have byte : (UInt8.ofNat char.toNat).toNat = char.toNat :=
      UInt8.toNat_ofNat_of_lt' (show char.toNat < 256 by omega)
    have notDigit : Percent.digit? (UInt8.ofNat char.toNat) = none := by
      rw [Percent.digit?, byte, Char.ofNat_toNat, digitBelow?_of_isOuter outer]
    have decoded := Utf8.getLast?_decode
      (Percent.getLast?_decode (Utf8.getLast?_encode last (by omega)) notDigit) (by omega)
    rw [byte, Char.ofNat_toNat] at decoded
    have forbidden : isForbidden char = true := by
      simp only [isForbidden, Bool.or_eq_true, decide_eq_true_eq]
      exact Or.inl (Or.inl code)
    dsimp only
    split
    · rfl
    next ascii ascii_eq =>
      -- The character is neither decoded nor mapped to another one, and no name may have it.
      have named := keeps ascii_eq (List.mem_of_getLast? decoded) code
      rw [if_pos]
      exact Or.inr (Or.inr (List.any_eq_true.mpr ⟨char, named, by rw [forbidden]; rfl⟩))

end Url.Host

namespace Url.Reader

theorem getLast?_splitUser {text : List Char} {char : Char} (last : text.getLast? = some char)
    (outer : isOuter char = true) : (splitUser text).2.getLast? = some char := by
  unfold splitUser
  dsimp only
  split
  · exact last
  · obtain ⟨before, rfl⟩ := List.getLast?_eq_some_iff.mp last
    have other : (char != '@') = true := by
      rw [bne_iff_ne]
      rintro rfl
      exact absurd outer (by decide)
    rw [List.reverse_append, List.reverse_singleton, List.singleton_append, List.takeWhile_cons,
      if_pos other, List.reverse_cons, List.getLast?_concat]

theorem getLast?_splitPort {text : List Char} {char : Char} (last : text.getLast? = some char)
    (outer : isOuter char = true) (bracketed : Bool) :
    (splitPort bracketed text).1.getLast? = some char ∨
      ∃ digits, (splitPort bracketed text).2 = some digits ∧ digits.getLast? = some char := by
  have shorter {first next : Char} {rest : List Char}
      (found : (first :: next :: rest).getLast? = some char) :
      (next :: rest).getLast? = some char := by
    rwa [List.getLast?_cons_cons] at found
  induction text generalizing bracketed with
  | nil => contradiction
  | cons first rest inductionHypothesis =>
      rw [splitPort]
      split
      next colon =>
        cases rest with
        | nil =>
            obtain rfl : first = char := by simpa using last
            rw [colon.1] at outer
            exact absurd outer (by decide)
        | cons next rest => exact Or.inr ⟨_, rfl, shorter last⟩
      · cases rest with
        | nil => exact Or.inl last
        | cons next rest =>
            refine (inductionHypothesis (shorter last) _).imp (fun inHost => ?_) id
            dsimp only
            rw [List.getLast?_cons, inHost]
            rfl

theorem port?_eq_none {scheme : String} {digits : List Char} {char : Char}
    (membership : char ∈ digits) (outer : isOuter char = true) :
    port? scheme (some digits) = none := by
  have unread (read : Nat) : readDigits? 10 read digits = none := by
    induction digits generalizing read with
    | nil => contradiction
    | cons digit digits inductionHypothesis =>
        rw [readDigits?]
        rcases List.mem_cons.mp membership with rfl | among
        · rw [digitBelow?_of_isOuter outer]
        · cases digitBelow? 10 digit with
          | none => rfl
          | some value => exact inductionHypothesis among _
  cases digits with
  | nil => contradiction
  | cons digit digits => simp only [port?, unread]

/-- No authority ends in a space or in a control character. -/
theorem authority?_eq_none (keeps : names.KeepsBlanks) {scheme : String} {text : List Char} {char : Char}
    (special : isSpecial scheme = true) (last : text.getLast? = some char)
    (outer : isOuter char = true) : authority? names scheme text = none := by
  have place := getLast?_splitUser last outer
  unfold authority?
  rw [special]
  dsimp only
  split
  · rfl
  · rcases getLast?_splitPort place outer false with host | ⟨digits, port, ending⟩
    · rw [if_pos rfl, Host.read?_eq_none keeps host outer]
    · rw [port, port?_eq_none (List.mem_of_getLast? ending) outer]
      cases Host.read? names (splitPort false (splitUser text).2).1 <;> rfl

end Url.Reader

end AddressWatch
