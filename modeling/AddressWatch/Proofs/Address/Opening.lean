import AddressWatch.Address
import AddressWatch.Proofs.Text.Digits
import AddressWatch.Proofs.Text.Pieces

/-!
# How the text of an address begins

The first group of a version 6 address is zero or is written at the beginning of its text.  A group of
four digits has one text, up to the case of the digits.
-/

namespace AddressWatch

theorem IPv4.length_groups (address : IPv4) : address.groups.length = 2 := by
  obtain ⟨octets, size⟩ := address
  match octets with
  | [_, _, _, _] => rfl

namespace IPv6

/-- A group that needs four digits has one text, up to the case of the digits. -/
theorem map_toLower_of_group? {text : List Char} (group : group? text = some 0xfe80) :
    text.map Char.toLower = "fe80".toList := by
  obtain ⟨value, number, value_eq⟩ := Option.map_eq_some_iff.mp group
  rw [Text.number?, Option.ite_none_left_eq_some, not_or] at number
  obtain ⟨⟨_, short⟩, read⟩ := number
  obtain ⟨digits, written, bounded, rfl⟩ := Text.exists_digits_of_readDigits? read
  have sameLength : text.length = digits.length := by
    simpa using congrArg List.length written
  have value_mod := congrArg UInt16.toNat value_eq
  rw [UInt16.toNat_ofNat'] at value_mod
  change _ % 65536 = 65152 at value_mod
  rw [written]
  -- Fewer than four digits do not reach the value, and four are determined by it.
  match digits with
  | [] => contradiction
  | [_] | [_, _] | [_, _, _] =>
      simp only [List.forall_mem_cons, List.foldl_cons, List.foldl_nil] at bounded value_mod
      omega
  | [first, second, third, fourth] =>
      simp only [List.forall_mem_cons, List.foldl_cons, List.foldl_nil] at bounded value_mod
      obtain ⟨rfl, rfl, rfl, rfl⟩ : first = 15 ∧ second = 14 ∧ third = 8 ∧ fourth = 0 := by omega
      rfl
  | _ :: _ :: _ :: _ :: _ :: _ =>
      simp only [List.length_cons] at sameLength
      omega

theorem splitGap?_eq_some {text before after : List Char}
    (gap : splitGap? text = some (before, after)) : text = before ++ ':' :: ':' :: after := by
  fun_induction splitGap? text generalizing before with
  | case1 rest =>
      obtain ⟨rfl, rfl⟩ := Prod.mk.inj (Option.some.inj gap)
      rfl
  | case2 => contradiction
  | case3 char rest _ inductionHypothesis =>
      obtain ⟨⟨shorter, following⟩, found, same⟩ := Option.map_eq_some_iff.mp gap
      obtain ⟨rfl, rfl⟩ := Prod.mk.inj same
      exact congrArg (char :: ·) (inductionHypothesis found)

/-- The first of enough groups is written by the first piece. -/
theorem head?_groupsOfPieces? {piece : List Char} {pieces : List (List Char)}
    {groups : List UInt16} (written : groupsOfPieces? (piece :: pieces) = some groups)
    (many : 2 < groups.length) : groups.head? = group? piece := by
  cases pieces with
  | nil =>
      rw [groupsOfPieces?] at written
      split at written
      next quad _ =>
        obtain rfl := Option.some.inj written
        exact absurd many (Nat.not_lt_of_le (Nat.le_of_eq quad.length_groups))
      next =>
        obtain ⟨group, _, rfl⟩ := Option.map_eq_some_iff.mp written
        contradiction
  | cons next pieces =>
      rw [groupsOfPieces?] at written
      split at written
      next group groups first _ =>
        obtain rfl := Option.some.inj written
        exact first.symm
      next => contradiction
      all_goals exact List.cons_ne_nil _ _

theorem exists_piece_of_groups? {text : List Char} {groups : List UInt16}
    (written : groups? text = some groups) (many : 2 < groups.length) :
    ∃ piece, piece <+: text ∧ groups.head? = group? piece := by
  obtain ⟨first, others, pieces, opening, _⟩ :=
    Text.exists_splitWhere_eq_cons (· == ':') text
  rw [groups?] at written
  split at written
  · obtain rfl := Option.some.inj written
    contradiction
  · rw [Text.splitAt, pieces] at written
    exact ⟨first, opening, head?_groupsOfPieces? written many⟩

theorem exists_piece_of_groupsBeforeGap? {text : List Char} {groups : List UInt16}
    (written : groupsBeforeGap? text = some groups) (nonempty : groups ≠ []) :
    ∃ piece, piece <+: text ∧ groups.head? = group? piece := by
  obtain ⟨first, others, pieces, opening, _⟩ :=
    Text.exists_splitWhere_eq_cons (· == ':') text
  rw [groupsBeforeGap?] at written
  split at written
  · obtain rfl := Option.some.inj written
    contradiction
  · rw [Text.splitAt, pieces, List.mapM_cons] at written
    refine ⟨first, opening, ?_⟩
    obtain ⟨value, found, rest⟩ := Option.bind_eq_some_iff.mp written
    obtain ⟨values, _, together⟩ := Option.bind_eq_some_iff.mp rest
    obtain rfl := Option.some.inj together
    exact found.symm

/-- The first group is zero, or the text begins with it. -/
theorem exists_piece_of_parse? {text : List Char} {address : IPv6}
    (parsed : parse? text = some address) {group : UInt16}
    (first : address.groups.head? = some group) (nonzero : group ≠ 0) :
    ∃ piece, piece <+: text ∧ group? piece = some group := by
  unfold parse? at parsed
  split at parsed
  next =>
    split at parsed
    · contradiction
    next groups written =>
      rw [Option.dite_none_right_eq_some] at parsed
      obtain ⟨size, parsed⟩ := parsed
      obtain rfl := Option.some.inj parsed
      obtain ⟨piece, opening, same⟩ := exists_piece_of_groups? written (by omega)
      exact ⟨piece, opening, same.symm.trans first⟩
  next before after gap =>
    split at parsed
    next head tail written _ =>
      rw [Option.dite_none_right_eq_some] at parsed
      obtain ⟨room, parsed⟩ := parsed
      obtain rfl := Option.some.inj parsed
      change (head ++ List.replicate (8 - (head.length + tail.length)) 0 ++ tail).head? =
        some group at first
      have nonempty : head ≠ [] := by
        rintro rfl
        have gapGroups : 8 - (0 + tail.length) = (7 - tail.length) + 1 := by
          rw [List.length_nil] at room
          omega
        rw [List.length_nil, gapGroups, List.replicate_succ] at first
        exact nonzero (Option.some.inj first).symm
      obtain ⟨piece, opening, same⟩ := exists_piece_of_groupsBeforeGap? written nonempty
      refine ⟨piece, ?_, ?_⟩
      · rw [splitGap?_eq_some gap]
        exact opening.trans (List.prefix_append before _)
      · rw [← same, ← first, List.append_assoc, List.head?_append_of_ne_nil _ nonempty]
    next => contradiction

theorem isPrefix_of_parse? {text : List Char} {address : IPv6}
    (parsed : parse? text = some address) (first : address.groups.head? = some 0xfe80) :
    "fe80".toList <+: text.map Char.toLower := by
  obtain ⟨piece, opening, group⟩ := exists_piece_of_parse? parsed first (by decide)
  rw [← map_toLower_of_group? group]
  exact opening.map Char.toLower

end IPv6

end AddressWatch
