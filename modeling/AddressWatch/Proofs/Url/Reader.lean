import AddressWatch.Proofs.Text.Graphic
import AddressWatch.Proofs.Text.Pieces
import AddressWatch.Url.Reader

/-!
# URLs with hosts

A URL of a scheme that is known to have hosts is an authority and what follows it.  Its path, its query and
its host have neither spaces nor control characters.
-/

namespace AddressWatch.Url

open Text

variable {names : HostNames}

theorem isSpecial_web {scheme : String} (known : scheme = "http" ∨ scheme = "https") :
    isSpecial scheme = true := by
  rcases known with rfl | rfl <;> rfl

namespace Reader

/-- The URL of an authority and of what follows it. -/
def Authority.url (scheme : String) (authority : Authority) (rest : List Char) : Url where
  scheme := scheme
  user := authority.user
  password := authority.password
  host := some authority.host
  port := authority.port
  path := path (isSpecial scheme) (splitSuffix rest).1
  query := (suffix (isSpecial scheme) (splitSuffix rest).2).query
  fragment := (suffix (isSpecial scheme) (splitSuffix rest).2).fragment

theorem withHost?_eq_map (names : HostNames) (scheme : String) (text : List Char) :
    withHost? names scheme text =
      (authority? names scheme (text.takeWhile (!endsAuthority (isSpecial scheme) ·))).map
        (·.url scheme (text.dropWhile (!endsAuthority (isSpecial scheme) ·))) := by
  unfold withHost?
  dsimp only
  cases authority? names scheme (text.takeWhile (!endsAuthority (isSpecial scheme) ·)) <;> rfl

/-- The authority in what follows a special scheme: behind the slashes, up to the path. -/
def authorityText (text : List Char) : List Char :=
  (text.dropWhile (isSlash true)).takeWhile (!endsAuthority true ·)

/-- What follows the authority. -/
def pathText (text : List Char) : List Char :=
  (text.dropWhile (isSlash true)).dropWhile (!endsAuthority true ·)

theorem scheme_of_withHost? {scheme : String} {text : List Char} {url : Url}
    (read : withHost? names scheme text = some url) : url.scheme = scheme := by
  rw [withHost?_eq_map, Option.map_eq_some_iff] at read
  obtain ⟨authority, -, rfl⟩ := read
  rfl

theorem scheme_of_file? {text : List Char} {url : Url} (read : file? names text = some url) :
    url.scheme = "file" := by
  obtain ⟨host, -, rfl⟩ := Option.map_eq_some_iff.mp read
  rfl

end Reader

/-- A URL has the scheme in front of the first colon of its text. -/
theorem exists_scheme?_of_read? {text : String} {url : Url} (read : read? names text = some url) :
    ∃ rest, Reader.scheme? (Reader.clean text.toList) = some (url.scheme, rest) := by
  unfold read? at read
  split at read
  · contradiction
  next scheme rest found =>
    refine ⟨rest, ?_⟩
    rw [found]
    split at read
    next file => rw [Reader.scheme_of_file? read, file]
    · split at read
      · rw [Reader.scheme_of_withHost? read]
      · split at read
        · rw [Reader.scheme_of_withHost? read]
        · rw [← Option.some.inj read]
          rfl

/-- The text of a special scheme is read as an authority and what follows it. -/
theorem read?_eq_map {text scheme : String} {rest : List Char}
    (found : Reader.scheme? (Reader.clean text.toList) = some (scheme, rest))
    (special : isSpecial scheme = true) :
    read? names text = (Reader.authority? names scheme (Reader.authorityText rest)).map
      (·.url scheme (Reader.pathText rest)) := by
  have notFile : scheme ≠ "file" := by
    rintro rfl
    exact absurd special (by decide)
  rw [read?, found]
  dsimp only
  rw [if_neg notFile, if_pos special, Reader.withHost?_eq_map, special]
  rfl

theorem exists_authority_of_read? {text : String} {url : Url} (read : read? names text = some url)
    (special : isSpecial url.scheme = true) :
    ∃ rest authority, Reader.authority? names url.scheme (Reader.authorityText rest) = some authority ∧
      url = authority.url url.scheme (Reader.pathText rest) := by
  obtain ⟨rest, found⟩ := exists_scheme?_of_read? read
  rw [read?_eq_map found special, Option.map_eq_some_iff] at read
  obtain ⟨authority, authority_eq, url_eq⟩ := read
  exact ⟨rest, authority, authority_eq, url_eq.symm⟩

/-! What is printed of a URL with a host. -/

namespace Reader

theorem all_isGraphic_encode_path (text : List Char) :
    (Percent.encode Percent.keepsInPath text).all isGraphic = true :=
  Percent.all_isGraphic_encode (fun _ => Percent.isGraphic_of_keepsInPath) text

theorem all_isGraphic_of_segment {text name : List Char} (segment : segment text = .name name) :
    name.all isGraphic = true := by
  unfold Reader.segment at segment
  dsimp only at segment
  split_ifs at segment
  rw [← Segment.name.inj segment]
  exact all_isGraphic_encode_path text

theorem all_isGraphic_enter {names : List (List Char)}
    (graphic : ∀ name ∈ names, name.all isGraphic = true) (text : List Char) :
    ∀ name ∈ enter names text, name.all isGraphic = true := by
  unfold enter
  split
  next encoded segment =>
    exact List.forall_mem_cons.mpr ⟨all_isGraphic_of_segment segment, graphic⟩
  · exact graphic
  · exact fun name membership => graphic name (List.mem_of_mem_tail membership)

theorem all_isGraphic_enterLast {names : List (List Char)}
    (graphic : ∀ name ∈ names, name.all isGraphic = true) (text : List Char) :
    ∀ name ∈ enterLast names text, name.all isGraphic = true := by
  unfold enterLast
  split
  next encoded segment =>
    exact List.forall_mem_cons.mpr ⟨all_isGraphic_of_segment segment, graphic⟩
  · exact List.forall_mem_cons.mpr ⟨rfl, graphic⟩
  · exact List.forall_mem_cons.mpr
      ⟨rfl, fun name membership => graphic name (List.mem_of_mem_tail membership)⟩

theorem all_isGraphic_foldl_enter (texts : List (List Char)) {names : List (List Char)}
    (graphic : ∀ name ∈ names, name.all isGraphic = true) :
    ∀ name ∈ texts.foldl enter names, name.all isGraphic = true := by
  induction texts generalizing names with
  | nil => exact graphic
  | cons text texts inductionHypothesis =>
      exact inductionHypothesis (all_isGraphic_enter graphic text)

theorem all_isGraphic_segments (texts : List (List Char)) :
    ∀ name ∈ segments texts, name.toList.all isGraphic = true := by
  intro name membership
  obtain ⟨chars, among, rfl⟩ := List.mem_map.mp membership
  rw [String.toList_ofList]
  have before := all_isGraphic_foldl_enter texts.dropLast (List.forall_mem_nil _)
  exact all_isGraphic_enterLast before _ chars (List.mem_reverse.mp among)

theorem all_isGraphic_text_segments {names : List String}
    (graphic : ∀ name ∈ names, name.toList.all isGraphic = true) :
    (Path.segments names).text.toList.all isGraphic = true := by
  rw [Path.text, String.toList_join, List.all_flatMap, List.all_eq_true]
  intro piece membership
  obtain ⟨name, among, rfl⟩ := List.mem_map.mp membership
  rw [String.toList_append, List.all_append, graphic name among]
  decide

theorem all_isGraphic_text_path (special : Bool) (text : List Char) :
    (path special text).text.toList.all isGraphic = true := by
  unfold path
  split
  · cases special <;> decide
  · exact all_isGraphic_text_segments (all_isGraphic_segments _)

theorem all_isGraphic_query {special : Bool} {text : List Char} {query : String}
    (found : (suffix special text).query = some query) : query.toList.all isGraphic = true := by
  unfold suffix at found
  dsimp only at found
  split at found
  · contradiction
  next first rest _ =>
    rw [← Option.some.inj found, String.toList_ofList]
    exact Percent.all_isGraphic_encode (fun _ => Percent.isGraphic_of_keepsInQuery) rest

theorem all_isGraphic_target (scheme : String) (authority : Authority) (rest : List Char) :
    (authority.url scheme rest).target.toList.all isGraphic = true := by
  have path := all_isGraphic_text_path (isSpecial scheme) (splitSuffix rest).1
  rw [target, String.toList_append, List.all_append]
  simp only [Authority.url, path, Bool.true_and]
  split
  · decide
  next query found =>
    rw [String.toList_append, List.all_append, all_isGraphic_query found]
    decide

end Reader

/-! The host of a URL, which is a name or an address. -/

theorem all_isGraphic_intercalate {separator : String} {pieces : List String}
    (separates : separator.toList.all isGraphic = true)
    (graphic : ∀ piece ∈ pieces, piece.toList.all isGraphic = true) :
    (separator.intercalate pieces).toList.all isGraphic = true := by
  rw [String.toList_intercalate]
  cases pieces with
  | nil => rfl
  | cons piece pieces =>
      rw [List.map_cons, intercalate_cons_eq_append_flatMap, List.all_append, List.all_flatMap,
        graphic piece List.mem_cons_self, Bool.true_and, List.all_eq_true]
      intro other membership
      obtain ⟨text, among, rfl⟩ := List.mem_map.mp membership
      rw [List.all_append, separates, graphic text (List.mem_cons_of_mem piece among)]
      rfl

theorem all_isGraphic_ipv4 (address : IPv4) : address.text.toList.all isGraphic = true := by
  refine all_isGraphic_intercalate (by decide) ?_
  intro piece membership
  obtain ⟨octet, -, rfl⟩ := List.mem_map.mp membership
  exact all_isGraphic_decimal _

theorem text_ipv4_ne_empty (address : IPv4) : address.text ≠ "" := by
  obtain ⟨octets, size⟩ := address
  cases octets with
  | nil => contradiction
  | cons octet octets =>
      intro empty
      have chars := congrArg String.toList empty
      rw [IPv4.text, String.toList_intercalate, List.map_cons, List.map_cons,
        intercalate_cons_eq_append_flatMap, toList_decimal] at chars
      exact Nat.toDigits_ne_nil (List.append_eq_nil_iff.mp chars).1

theorem all_isGraphic_joinGroups (groups : List UInt16) :
    (IPv6.joinGroups groups).toList.all isGraphic = true := by
  refine all_isGraphic_intercalate (by decide) ?_
  intro piece membership
  obtain ⟨group, -, rfl⟩ := List.mem_map.mp membership
  exact all_isGraphic_hexadecimal _

theorem all_isGraphic_ipv6 (address : IPv6) : address.text.toList.all isGraphic = true := by
  unfold IPv6.text
  dsimp only
  split
  · exact all_isGraphic_joinGroups _
  · rw [String.toList_append, String.toList_append, List.all_append, List.all_append,
      all_isGraphic_joinGroups, all_isGraphic_joinGroups]
    decide

theorem isGraphic_of_not_isForbidden {char : Char} (allowed : Host.isForbidden char = false) :
    isGraphic char = true := by
  simp only [Host.isForbidden, Bool.or_eq_false_iff, decide_eq_false_iff_not, beq_eq_false_iff_ne]
    at allowed
  simp only [isGraphic, Bool.and_eq_true, decide_eq_true_eq, bne_iff_ne]
  omega

/-- A host that is read has a text. -/
theorem Host.text_of_read? {text : List Char} {host : Host} (read : Host.read? names text = some host) :
    host.text ≠ "" ∧ host.text.toList.all isGraphic = true := by
  unfold Host.read? at read
  split at read
  · split at read
    · obtain ⟨address, -, rfl⟩ := Option.map_eq_some_iff.mp read
      refine ⟨by simp [Host.text], ?_⟩
      rw [Host.text, String.toList_append, String.toList_append, List.all_append, List.all_append,
        all_isGraphic_ipv6]
      decide
    · contradiction
  · dsimp only at read
    split at read
    · contradiction
    · split at read
      · contradiction
      next unforbidden =>
        split at read
        · obtain ⟨address, -, rfl⟩ := Option.map_eq_some_iff.mp read
          exact ⟨text_ipv4_ne_empty address, all_isGraphic_ipv4 address⟩
        · rw [← Option.some.inj read, Host.text, String.toList_ofList]
          obtain ⟨nonempty, -, allowed⟩ := not_or.mp unforbidden |>.imp id not_or.mp
          refine ⟨fun empty => nonempty (String.ofList_eq_empty_iff.mp empty), ?_⟩
          rw [List.all_eq_true]
          intro char membership
          rw [Bool.not_eq_true, List.any_eq_false] at allowed
          apply isGraphic_of_not_isForbidden
          have own := allowed char membership
          rw [Bool.or_eq_true, not_or, Bool.not_eq_true] at own
          exact own.1

theorem Reader.host_of_authority? {scheme : String} {text : List Char} {authority : Reader.Authority}
    (read : Reader.authority? names scheme text = some authority) (special : isSpecial scheme = true) :
    authority.host.text ≠ "" ∧ authority.host.text.toList.all isGraphic = true := by
  unfold Reader.authority? at read
  rw [special] at read
  dsimp only at read
  split at read
  · contradiction
  · split at read
    next host port found _ =>
      rw [← Option.some.inj read]
      exact Host.text_of_read? found
    · contradiction

/-- What stands in requests for a URL with a host is graphic, and the host has a name. -/
structure Printed (url : Url) : Prop where
  target : url.target.toList.all isGraphic = true
  hostAndPort : url.hostAndPort.toList.all isGraphic = true
  hasHost : url.hasHost = true

theorem printed_of_read? {text : String} {url : Url} (read : read? names text = some url)
    (special : isSpecial url.scheme = true) : url.Printed := by
  obtain ⟨rest, authority, found, url_eq⟩ := exists_authority_of_read? read special
  obtain ⟨hasText, graphic⟩ := Reader.host_of_authority? found special
  rw [url_eq]
  refine ⟨Reader.all_isGraphic_target _ _ _, ?_, ?_⟩
  · rw [hostAndPort, String.toList_append, List.all_append]
    simp only [Reader.Authority.url, Option.map_some, Option.getD_some, graphic, Bool.true_and]
    split
    · decide
    · rw [String.toList_append, List.all_append, all_isGraphic_decimal]
      decide
  · simpa [hasHost, Reader.Authority.url] using hasText

end AddressWatch.Url
