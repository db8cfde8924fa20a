import AddressWatch.Proofs.Library
import AddressWatch.Proofs.RecordClient.Redirect
import AddressWatch.Proofs.Url.Extension
import AddressWatch.RecordClient.Destination

/-!
# Requests go where the address of the API leads

The endpoint is the address of the API without slashes at its end, and the path of the records behind it.
This is done to the text.  The place stays the same, provided that the address has more than a scheme;
the path is the one that is meant if nothing in the text changes its place: no query and no fragment, no
blank that is skipped only at the end of a text.
-/

namespace AddressWatch

open Text

namespace Url

/-- Whether the text of a URL is more than a scheme and slashes. -/
def GoesBeyondScheme (text : String) : Prop :=
  ∃ char ∈ (text.toList.dropWhile (· != ':')).drop 1, char ∉ ['/', '\\', '\t', '\n', '\r']

/-- The URLs lead to the same place on the same terms. -/
structure SamePlace (url other : Url) : Prop where
  scheme : url.scheme = other.scheme
  host : url.host = other.host
  port : url.port = other.port
  user : url.user = other.user
  password : url.password = other.password

/-- The URL asks for the records below another one: for its path without slashes at the end, and the
path of the records behind it, with the given slashes in between. -/
structure IsRecordsOf (url base : Url) (between : List Char) : Prop where
  query : url.query = none
  fragment : url.fragment = none
  slashes : ∀ char ∈ between, char = '/'
  path : url.path.text.toList =
    dropEndWhile (· == '/') base.path.text.toList ++ between ++ Config.recordsPath.toList

end Url

namespace Config

variable {names : Url.HostNames} {config : Config}

theorem exists_rest_of_accepted (accepted : config.Accepted) :
    ∃ (scheme : String) (rest : List Char), (scheme = "http" ∨ scheme = "https") ∧
      config.apiUrl.toList = scheme.toList ++ ':' :: rest := by
  have known := (config.accepted_iff_checked.mp accepted).scheme_known
  rw [hasKnownScheme_iff] at known
  rcases known with ⟨rest, http⟩ | ⟨rest, https⟩
  · exact ⟨"http", '/' :: '/' :: rest, Or.inl rfl, http.symm⟩
  · exact ⟨"https", '/' :: '/' :: rest, Or.inr rfl, https.symm⟩

theorem toList_endpoint {scheme : String} {rest : List Char}
    (apiUrl_eq : config.apiUrl.toList = scheme.toList ++ ':' :: rest) :
    config.endpoint.toList =
      scheme.toList ++ ':' :: (Url.Reader.cut rest ++ recordsPath.toList) := by
  rw [endpoint, endpointBelow, String.toList_append, String.toList_ofList, apiUrl_eq,
    dropEndWhile_append_cons (by decide), List.append_assoc]
  rfl

theorem drop_apiUrl {scheme : String} {rest : List Char} (known : scheme = "http" ∨ scheme = "https")
    (apiUrl_eq : config.apiUrl.toList = scheme.toList ++ ':' :: rest) :
    (config.apiUrl.toList.dropWhile (· != ':')).drop 1 = rest := by
  rw [apiUrl_eq]
  rcases known with rfl | rfl <;> rfl

theorem exists_mem_stem {scheme : String} {rest : List Char}
    (known : scheme = "http" ∨ scheme = "https")
    (apiUrl_eq : config.apiUrl.toList = scheme.toList ++ ':' :: rest)
    (beyond : Url.GoesBeyondScheme config.apiUrl) :
    ∃ char ∈ Url.Reader.stem rest, Url.Reader.isSlash true char = false := by
  obtain ⟨char, membership, other⟩ := beyond
  rw [drop_apiUrl known apiUrl_eq] at membership
  simp only [List.mem_cons, List.not_mem_nil, or_false, not_or] at other
  obtain ⟨slash, backslash, tab, lineFeed, carriageReturn⟩ := other
  refine ⟨char, List.mem_filter.mpr ⟨?_, ?_⟩, ?_⟩
  · obtain ⟨slashes, rest_eq, all⟩ := exists_eq_dropEndWhile_append (· == '/') rest
    rw [rest_eq, List.mem_append] at membership
    exact membership.resolve_right fun dropped => slash (eq_of_beq (all char dropped))
  · simp [Url.Reader.isKept, tab, lineFeed, carriageReturn]
  · simp [Url.Reader.isSlash, slash, backslash]

theorem cut_apiUrl {scheme : String} {rest : List Char}
    (apiUrl_eq : config.apiUrl.toList = scheme.toList ++ ':' :: rest) :
    Url.Reader.cut config.apiUrl.toList = scheme.toList ++ ':' :: Url.Reader.cut rest := by
  rw [apiUrl_eq]
  exact dropEndWhile_append_cons (by decide) _ _

theorem stem_apiUrl {scheme : String} {rest : List Char} (known : scheme = "http" ∨ scheme = "https")
    (apiUrl_eq : config.apiUrl.toList = scheme.toList ++ ':' :: rest) :
    Url.Reader.stem config.apiUrl.toList = (scheme.toList ++ [':']) ++ Url.Reader.stem rest := by
  rw [Url.Reader.stem, cut_apiUrl apiUrl_eq]
  rcases known with rfl | rfl <;> rfl

theorem plain_recordsPath : ∀ char ∈ recordsPath.toList, char ≠ '?' ∧ char ≠ '#' := by
  have all : recordsPath.toList.all (fun char => char != '?' && char != '#') = true := by decide
  simpa using all

/-- Whatever the endpoint is read as, it leads to the place of the address of the API. -/
theorem exists_samePlace (keeps : names.KeepsBlanks) (accepted : config.Accepted)
    (beyond : Url.GoesBeyondScheme config.apiUrl) {full : Url}
    (read : Url.read? names config.endpoint = some full) :
    ∃ base, Url.read? names config.apiUrl = some base ∧
      (base.scheme = "http" ∨ base.scheme = "https") ∧ base.hasHost = true ∧ full.SamePlace base := by
  obtain ⟨scheme, rest, known, apiUrl_eq⟩ := exists_rest_of_accepted accepted
  obtain ⟨authority, after, _, base_read, rfl⟩ := Url.exists_base keeps known apiUrl_eq
    (toList_endpoint apiUrl_eq) (exists_mem_stem known apiUrl_eq beyond) read
  exact ⟨authority.url scheme after, base_read, known,
    (Url.printed_of_read? base_read (Url.isSpecial_web known)).hasHost, rfl, rfl, rfl, rfl, rfl⟩

/-- The endpoint is a URL if the address of the API is one and does not end in a blank, slashes aside.
It is the one of the records below that address if there is neither a query nor a fragment. -/
theorem exists_isRecordsOf (accepted : config.Accepted)
    (beyond : Url.GoesBeyondScheme config.apiUrl) {base : Url}
    (read : Url.read? names config.apiUrl = some base)
    (unblanked : ∀ char ∈ (Url.Reader.cut config.apiUrl.toList).getLast?, 0x20 < char.toNat) :
    ∃ full, Url.read? names config.endpoint = some full ∧
      ('?' ∉ config.apiUrl.toList → '#' ∉ config.apiUrl.toList → ∃ between,
        full.IsRecordsOf base between ∧
        (Url.Reader.endsInName (Url.Reader.stem config.apiUrl.toList) = true → between = [])) := by
  obtain ⟨scheme, rest, known, apiUrl_eq⟩ := exists_rest_of_accepted accepted
  have cut_eq := cut_apiUrl apiUrl_eq
  have visible : ∀ char ∈ (Url.Reader.cut rest).getLast?, Url.isOuter char = false := by
    intro char last
    have whole : char ∈ (Url.Reader.cut config.apiUrl.toList).getLast? := by
      rw [cut_eq, List.getLast?_append_of_ne_nil _ (List.cons_ne_nil _ _), List.getLast?_cons, last]
      rfl
    rw [Url.isOuter, decide_eq_false_iff_not, Nat.not_le]
    exact unblanked char whole
  obtain ⟨authority, count, rfl, full_read⟩ := Url.exists_full known apiUrl_eq
    (toList_endpoint apiUrl_eq) (exists_mem_stem known apiUrl_eq beyond) visible read
  refine ⟨_, full_read, fun noQuery noFragment => ?_⟩
  have plain : ∀ char ∈ Url.Reader.stem rest, char ≠ '?' ∧ char ≠ '#' := by
    intro char membership
    have among : char ∈ config.apiUrl.toList := by
      simp [apiUrl_eq, Url.Reader.mem_of_mem_stem membership]
    exact ⟨fun same => noQuery (same ▸ among), fun same => noFragment (same ▸ among)⟩
  have plainSlashes : ∀ char ∈ List.replicate count '/', char ≠ '?' ∧ char ≠ '#' := by
    intro char membership
    rw [(List.mem_replicate.mp membership).2]
    decide
  have special := Url.isSpecial_web known
  obtain ⟨full_path, query, fragment⟩ := authority.url_of_path special
    (Url.Reader.plain_pathText_append plain plain_recordsPath)
  obtain ⟨base_path, -, -⟩ := authority.url_of_path special
    (Url.Reader.plain_pathText_append plain plainSlashes)
  obtain ⟨between, slashes, path, exact_path⟩ := Url.Reader.exists_path_text_eq
    (Url.Reader.isSlash_of_head?_pathText plain) count
  refine ⟨between, ⟨query, fragment, slashes, ?_⟩, fun named => exact_path ?_⟩
  · rw [full_path, base_path]
    exact path
  · rw [stem_apiUrl known apiUrl_eq] at named
    exact Url.Reader.endsInName_tail_pathText plain named

end Config

namespace RecordClient

/-- A message goes to the place of the endpoint, and asks for its path. -/
theorem exists_of_deliver_eq_ok {client : RecordClient} {library : Library} {record : Record}
    {message : Message} (delivered : client.deliver library record = .ok message) :
    ∃ full, Url.read? library.hostNames client.endpoint = some full ∧
      message.url.scheme = full.scheme ∧ message.url.host = full.host ∧
      message.url.port = full.port ∧ message.request.target = full.target := by
  obtain ⟨-, found, sent, rfl⟩ := exists_destination_of_deliver_eq_ok delivered
  obtain ⟨full, read, -, -, whole | stripped⟩ := exists_of_destination_eq_ok sent
  · refine ⟨full, read, ?_⟩
    simp only [Destination.message, Message.request, whole, and_self]
  · refine ⟨full, read, ?_⟩
    simp only [Destination.message, Message.request, stripped]
    exact ⟨rfl, rfl, rfl, rfl⟩

/-- Take accepted settings whose address of the API is more than a scheme and slashes.  Their client has
the endpoint of the settings.  Whatever that is read as, it has the scheme, the host, the port and the
credentials of the address.  An update begins with a message to that place; it is led from there by the
answers only, and takes an authorization along only as long as the host and the port are those of the
address.  If the address is a URL and, slashes aside, does not end in a blank, the endpoint is a URL; without
a query and a fragment in the address, updates begin with its path without slashes at the end and the path
of the records behind it.  There may be more slashes in between if the address does not end in a name. -/
theorem requests_stay_below_apiUrl {config : Config} (accepted : config.Accepted)
    (beyond : Url.GoesBeyondScheme config.apiUrl) {library : Library} (sound : library.Sound) :
    let read? := Url.read? library.hostNames
    ∃ client, ofConfig config = .ok client ∧ client.endpoint = config.endpoint ∧
      (∀ full, read? config.endpoint = some full →
        ∃ base, read? config.apiUrl = some base ∧
          (base.scheme = "http" ∨ base.scheme = "https") ∧ base.hasHost = true ∧
          full.SamePlace base) ∧
      (∀ servers record first others,
        (client.upsert library servers record).exchanges = first :: others →
        Led library (first :: others) ∧
        ∃ base, read? config.apiUrl = some base ∧ first.message.url.scheme = base.scheme ∧
          first.message.url.host = base.host ∧ first.message.url.port = base.port ∧
          ∀ exchange ∈ others,
            exchange.message.authorizations = [] ∨ exchange.message.url.isWith base = true) ∧
      ∀ base, read? config.apiUrl = some base →
        (∀ char ∈ (Url.Reader.cut config.apiUrl.toList).getLast?, 0x20 < char.toNat) →
        ∃ full, read? config.endpoint = some full ∧
          ('?' ∉ config.apiUrl.toList → '#' ∉ config.apiUrl.toList →
            ∃ between, full.IsRecordsOf base between ∧
              (Url.Reader.endsInName (Url.Reader.stem config.apiUrl.toList) = true → between = []) ∧
              ∀ servers record first others,
                (client.upsert library servers record).exchanges = first :: others →
                first.message.request.target = full.path.text) := by
  intro read?
  have given := (config.accepted_iff_checked.mp accepted).token_ne_empty
  let client : RecordClient := ⟨config.endpoint, config.token, defaultTimeout, given⟩
  have samePlace {full : Url} (read : read? config.endpoint = some full) :=
    Config.exists_samePlace sound.keepsBlanks accepted beyond read
  refine ⟨client, dif_neg given, rfl, fun full => samePlace, ?_, ?_⟩
  · intro servers record first others sent
    obtain ⟨full, read, scheme, host, port, -⟩ :=
      exists_of_deliver_eq_ok (deliver_of_exchanges_upsert sent)
    obtain ⟨base, base_read, -, -, same⟩ := samePlace read
    have base_scheme := scheme.trans same.scheme
    have base_host := host.trans same.host
    have base_port := port.trans same.port
    have led := led_upsert client library record servers
    rw [sent] at led
    refine ⟨led, base, base_read, base_scheme, base_host, base_port, ?_⟩
    intro exchange among
    refine (retains_upsert sent exchange among).imp_right fun ⟨_, isWith⟩ => ?_
    obtain ⟨same_host, same_port⟩ := (isWith_iff _ _).mp isWith
    rw [isWith_iff, same_host, same_port, base_host, Url.knownPort?, base_port, base_scheme]
    exact ⟨rfl, rfl⟩
  · intro base read unblanked
    obtain ⟨full, full_read, below⟩ := Config.exists_isRecordsOf accepted beyond read unblanked
    refine ⟨full, full_read, fun noQuery noFragment => ?_⟩
    obtain ⟨between, isRecords, named⟩ := below noQuery noFragment
    refine ⟨between, isRecords, named, ?_⟩
    intro servers record first others sent
    obtain ⟨same, same_read, -, -, -, target⟩ :=
      exists_of_deliver_eq_ok (deliver_of_exchanges_upsert sent)
    cases Option.some.inj (full_read.symm.trans same_read)
    rw [target, Url.target, isRecords.query]
    simp

def settingsFor (apiUrl : String) : Config where
  interface := "eth0"
  recordName := "host.example."
  apiUrl := apiUrl
  token := "secret"

def hostRecord : Record := ⟨"host.example.", .a, 60, "192.0.2.1"⟩

/-- A server that closes the connection after some bytes. -/
def Server.closing (text : String) : Server := .present ⟨Http.utf8 text, .closed, 0⟩

/-- What is asked for in an update under some settings, and where, with how many authorizations. -/
def asks (config : Config) (servers : List Server) : List (String × String × Nat) :=
  match ofConfig config with
  | .error _ => []
  | .ok client =>
      (client.upsert .basic servers hostRecord).exchanges.map fun exchange =>
        (exchange.message.url.hostAndPort, exchange.message.request.target,
          exchange.message.authorizations.length)

theorem requests_stay_below_a_base :
    let config := settingsFor "https://user@h:8443/base//"
    config.Accepted ∧ Url.GoesBeyondScheme config.apiUrl ∧ Library.basic.Sound ∧
      ∃ client first others, ofConfig config = .ok client ∧
        (client.upsert .basic [.closing "", .closing ""] hostRecord).exchanges = first :: others ∧
        first.message.url.scheme = "https" ∧ first.message.url.port = some 8443 ∧
        first.message.request.target.toList = "/base/api/v1/records".toList := by
  intro config
  have accepted : config.Accepted := by decide
  have beyond : Url.GoesBeyondScheme config.apiUrl := ⟨'h', by decide, by decide⟩
  have unblanked : ∀ char ∈ (Url.Reader.cut config.apiUrl.toList).getLast?, 0x20 < char.toNat := by
    have last : (Url.Reader.cut config.apiUrl.toList).getLast? = some 'e' := by decide
    rw [last]
    rintro char ⟨⟩
    decide
  have named : Url.Reader.endsInName (Url.Reader.stem config.apiUrl.toList) = true := by decide +kernel
  have base_parts : (Url.read? Library.basic.hostNames config.apiUrl).map
      (fun url => (url.scheme, url.port, url.path.text)) = some ("https", some 8443, "/base//") := by
    decide +kernel
  have begun : (asks config [.closing "", .closing ""]).isEmpty = false := by decide +kernel
  obtain ⟨client, made, -, -, places, paths⟩ :=
    requests_stay_below_apiUrl accepted beyond Library.sound_basic
  rw [asks, made] at begun
  cases sent : (client.upsert .basic [.closing "", .closing ""] hostRecord).exchanges with
  | nil => simp [sent] at begun
  | cons first others =>
      obtain ⟨-, base, base_read, scheme, -, port, -⟩ := places _ hostRecord first others sent
      simp only [base_read, Option.map_some, Option.some.injEq, Prod.mk.injEq] at base_parts
      obtain ⟨base_scheme, base_port, base_path⟩ := base_parts
      obtain ⟨full, -, below⟩ := paths base base_read unblanked
      obtain ⟨between, isRecords, exact_path, targets⟩ := below (by decide) (by decide)
      refine ⟨accepted, beyond, Library.sound_basic, client, first, others, made, sent,
        scheme.trans base_scheme, port.trans base_port, ?_⟩
      rw [targets _ hostRecord first others sent, isRecords.path, exact_path named, base_path]
      rfl

/-- The host and the port that a text leads to as a URL, and what is asked for there. -/
def leadsTo (text : String) : Option (String × String) :=
  (Url.read? .basic text).map fun url => (url.hostAndPort, url.target)

/-- Accepted settings do not always lead to the path of their address with the path of the records behind
it.  A scheme without a host takes the host from the path of the records; a query or a fragment takes the
path of the records in; a blank, a backslash or a dot at the end changes what is in front of it.  And an
answer can lead an update from there to any other path, with its authorization. -/
theorem accepted_settings_can_lead_elsewhere :
    ((settingsFor "http://").Accepted ∧ leadsTo "http://" = none ∧
      leadsTo (settingsFor "http://").endpoint = some ("api", "/v1/records")) ∧
    ((settingsFor "http://h/?x").Accepted ∧ leadsTo "http://h/?x" = some ("h", "/?x") ∧
      leadsTo (settingsFor "http://h/?x").endpoint = some ("h", "/?x/api/v1/records")) ∧
    ((settingsFor "http://h/#x").Accepted ∧ leadsTo "http://h/#x" = some ("h", "/") ∧
      leadsTo (settingsFor "http://h/#x").endpoint = some ("h", "/")) ∧
    ((settingsFor "http://h ").Accepted ∧ leadsTo "http://h " = some ("h", "/") ∧
      leadsTo (settingsFor "http://h ").endpoint = none) ∧
    ((settingsFor "http://h/a ").Accepted ∧ leadsTo "http://h/a " = some ("h", "/a") ∧
      leadsTo (settingsFor "http://h/a ").endpoint = some ("h", "/a%20/api/v1/records")) ∧
    ((settingsFor "http://h/a\\").Accepted ∧ leadsTo "http://h/a\\" = some ("h", "/a/") ∧
      leadsTo (settingsFor "http://h/a\\").endpoint = some ("h", "/a//api/v1/records")) ∧
    ((settingsFor "http://h//.").Accepted ∧ leadsTo "http://h//." = some ("h", "//") ∧
      leadsTo (settingsFor "http://h//.").endpoint = some ("h", "//api/v1/records")) ∧
    ((settingsFor "http://h/").Accepted ∧ asks (settingsFor "http://h/")
      [.closing "HTTP/1.1 307 Moved\r\nLocation: /other\r\n\r\n", .closing ""] =
        [("h", "/api/v1/records", 1), ("h", "/other", 1)]) := by
  decide +kernel

end RecordClient

end AddressWatch
