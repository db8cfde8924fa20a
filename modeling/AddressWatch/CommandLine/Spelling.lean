import AddressWatch.CommandLine

/-!
The ways to write flags on a command line, and the flags that ask for given settings.
-/

namespace AddressWatch.CommandLine

namespace Given

/-- The value as it is written. -/
def value? : Given → Option String
  | interface value | recordName value | url value | token value => some value
  | interval seconds | commandTimeout seconds => some (Text.decimal seconds.toNat)
  | ttl seconds => some (Text.decimal seconds.toNat)
  | ipv6 | verbose => none

/-- A value that is not taken for a flag, and of which nothing is taken for an equals sign. -/
def IsPlain (value : String) : Prop :=
  ∀ first ∈ value.toList.head?, first ≠ '-' ∧ first ≠ '='

instance (value : String) : Decidable (IsPlain value) :=
  decidable_of_decidable_of_iff
    (p := value.toList.head?.all (fun first => first ≠ '-' && first ≠ '=') = true)
    (by simp [IsPlain, Option.all_eq_true])

/-- The arguments that write a flag. -/
inductive Spelling (given : Given) : List String → Prop
  | attached {value : String} (valued : given.value? = some value) :
      Spelling given ["--" ++ given.flag.long ++ "=" ++ value]
  | separate {value : String} (valued : given.value? = some value) (plain : IsPlain value) :
      Spelling given ["--" ++ given.flag.long, value]
  | shortSeparate {value : String} {letter : Char} (valued : given.value? = some value)
      (plain : IsPlain value) (lettered : given.flag.short? = some letter) :
      Spelling given ["-" ++ letter.toString, value]
  | shortJoined {value : String} {letter : Char} (valued : given.value? = some value)
      (plain : IsPlain value) (lettered : given.flag.short? = some letter) :
      Spelling given ["-" ++ letter.toString ++ value]
  | shortAttached {value : String} {letter : Char} (valued : given.value? = some value)
      (plain : IsPlain value) (lettered : given.flag.short? = some letter) :
      Spelling given ["-" ++ letter.toString ++ "=" ++ value]
  | switch (unvalued : given.value? = none) : Spelling given ["--" ++ given.flag.long]
  | shortSwitch {letter : Char} (unvalued : given.value? = none)
      (lettered : given.flag.short? = some letter) : Spelling given ["-" ++ letter.toString]

/-- What may be left out: a default, or the token of the environment. -/
inductive Dispensable (environment : Option String) : Given → Prop
  | url {address : String} (usual : address = Config.defaultApiUrl) :
      Dispensable environment (.url address)
  | token {token : String} (inherited : environment = some token) :
      Dispensable environment (.token token)
  | interval {seconds : UInt64} (usual : seconds = Config.defaultInterval) :
      Dispensable environment (.interval seconds)
  | ttl {seconds : UInt32} (usual : seconds = Config.defaultTtl) :
      Dispensable environment (.ttl seconds)
  | commandTimeout {seconds : UInt64} (usual : seconds = Config.defaultCommandTimeout) :
      Dispensable environment (.commandTimeout seconds)

end Given

/-- The arguments that write flags one after the other. -/
inductive Spells : List Given → List String → Prop
  | nil : Spells [] []
  | cons {given : Given} {rest : List Given} {written arguments : List String}
      (first : given.Spelling written) (others : Spells rest arguments) :
      Spells (given :: rest) (written ++ arguments)

/-- Arguments behind which a flag can stand: no flag waits for its value, and the flags have not
ended. -/
def AdmitsFlag (arguments : List String) : Prop :=
  ∃ reading, ({} : Reading).all arguments = .ok reading ∧ reading.ended = false ∧
    ∀ flag, reading.pending ≠ some (flag, none)

/-- The flags that ask for the settings. -/
def optionsOf (config : Config) : List Given :=
  [.interface config.interface, .recordName config.recordName, .url config.apiUrl,
    .token config.token, .interval config.interval, .ttl config.ttl,
    .commandTimeout config.commandTimeout] ++
  (if config.family.isIPv6 then [.ipv6] else []) ++
  (if config.verbose then [.verbose] else [])

end AddressWatch.CommandLine
