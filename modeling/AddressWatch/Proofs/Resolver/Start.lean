import AddressWatch.Proofs.Resolver.Probe

/-!
# Which program is started

A tool is looked for twice: by the resolver, which takes the first executable file in its directories,
and by the system, when it is to start a program that is named without a slash.  In a directory that has
a name the path of the tool has a slash, and the file that was found is the one that is started.  The
empty directory, where relative paths start, leaves the tool its bare name, and the system searches its
own directories for that.
-/

namespace AddressWatch

namespace Machine

/-- What comes of starting a file with this content. -/
def Content.started : Content → Except SpawnFault Behaviour
  | .program behaviour => .ok behaviour
  | .missingInterpreter => .error .notFound
  | .unknownFormat => .error .unknownFormat
  | .refused fault => .error fault

namespace FileSystem

variable (files : FileSystem)

/-- A slash more between the parts of a path leads to the same place. -/
theorem walk_of_walk_empty_part {place result : List String} {front rest : List (List Char)}
    (reached : files.walk place (front ++ [] :: rest) = .ok result) :
    files.walk place (front ++ rest) = .ok result := by
  induction front generalizing place with
  | nil =>
      obtain ⟨_, next, leads, reached⟩ := (files.walk_cons_eq_ok_iff _ _ _ _).mp reached
      cases leads with
      | stay => exact reached
      | enter isName => exact absurd (Or.inl rfl) isName.1
  | cons part front inductionHypothesis =>
      rw [List.cons_append, walk_cons_eq_ok_iff] at reached ⊢
      obtain ⟨directory, next, leads, reached⟩ := reached
      exact ⟨directory, next, leads, inductionHypothesis reached⟩

theorem stat_of_stat_doubled_slash {front rest : String} {node : Node}
    (reached : files.stat (front ++ "/" ++ "/" ++ rest) = .ok node) :
    files.stat (front ++ "/" ++ rest) = .ok node := by
  rw [stat_eq_ok_iff] at reached ⊢
  obtain ⟨_, short, names, walked, present⟩ := reached
  have doubled : (front ++ "/" ++ "/" ++ rest).toList =
      front.toList ++ '/' :: '/' :: rest.toList := by
    simp
  have single : (front ++ "/" ++ rest).toList = front.toList ++ '/' :: rest.toList := by simp
  have pieces : Text.splitAt '/' (front.toList ++ '/' :: '/' :: rest.toList) =
      Text.splitAt '/' front.toList ++ [] :: Text.splitAt '/' rest.toList := by
    rw [Text.splitAt_append_cons]
    rfl
  have start : (front.toList ++ '/' :: '/' :: rest.toList).head? =
      (front.toList ++ '/' :: rest.toList).head? := by
    cases front.toList <;> rfl
  rw [doubled, pieces, start] at walked
  rw [single, Text.splitAt_append_cons]
  refine ⟨by simp, ?_, names, files.walk_of_walk_empty_part walked, present⟩
  simp only [String.utf8ByteSize_append] at short ⊢
  omega

theorem isExecutable_iff (path : String) :
    files.isExecutable path = true ↔
      ∃ mode content, files.stat path = .ok (.file mode content) ∧ mayExecute mode = true := by
  unfold isExecutable
  cases files.stat path with
  | error fault => simp
  | ok node => cases node <;> simp

/-- Starting an executable file is starting what is in it, unless an argument is too long. -/
theorem execute_of_file {path : String} {mode : Nat} {content : Content}
    (isFile : files.stat path = .ok (.file mode content)) (executable : mayExecute mode = true)
    (arguments : List String) :
    files.execute path arguments =
      if arguments.any (131072 ≤ ·.utf8ByteSize) then .error .argumentTooLong
      else content.started := by
  simp only [execute, isFile, executable]
  cases content <;> rfl

/-- What cannot be executed is passed over in a search, unless its path is too long. -/
theorem execute_of_not_isExecutable {path : String} (inert : files.isExecutable path = false)
    (short : files.stat path ≠ .error .tooLong) (arguments : List String) :
    ∃ fault : SpawnFault, files.execute path arguments = .error fault ∧ fault.isPassedOver = true := by
  unfold isExecutable at inert
  unfold execute
  cases reached : files.stat path with
  | error fault =>
      cases fault with
      | absent | notDirectory => exact ⟨_, rfl, rfl⟩
      | tooLong => exact absurd reached short
  | ok node =>
      cases node with
      | directory => exact ⟨.permissionDenied, rfl, rfl⟩
      | file mode content =>
          rw [reached] at inert
          refine ⟨.permissionDenied, ?_, rfl⟩
          simp [inert]

end FileSystem

section

variable (machine : Machine) {program : String} (arguments : List String)

theorem spawn_of_zero (zero : ∃ word ∈ program :: arguments, '\x00' ∈ word.toList) :
    machine.spawn program arguments = .error .zeroCharacter := by
  obtain ⟨word, membership, inside⟩ := zero
  refine if_pos (List.any_eq_true.mpr ⟨word, membership, List.any_eq_true.mpr ⟨_, inside, ?_⟩⟩)
  rfl

theorem spawn_of_clean (clean : ∀ word ∈ program :: arguments, '\x00' ∉ word.toList) :
    machine.spawn program arguments =
      if program = "" then .error .notFound
      else if '/' ∈ program.toList then machine.files.execute program arguments
      else searchPath machine.files program arguments .notFound
        (Text.splitAt ':' (machine.path.getD fallbackPath).toList) := by
  have noZero : (program :: arguments).any (·.toList.any (· == '\x00')) = false := by
    rw [List.any_eq_false]
    intro word membership
    have own := clean word membership
    simp only [List.any_eq_true, beq_iff_eq, exists_eq_right]
    exact own
  unfold spawn
  simp only [noZero]
  simp

end

end Machine

namespace Resolver

/-- The words of the command can be handed to a program. -/
structure Command.Passable (command : Command) : Prop where
  clean : ∀ word ∈ command.program :: command.arguments, '\x00' ∉ word.toList
  short : ∀ argument ∈ command.arguments, argument.utf8ByteSize < 131072

/-- To start the command is to start a file with this content. -/
structure Command.Starts (command : Command) (machine : Machine) (content : Machine.Content) :
    Prop where
  passed : command.Passable →
    machine.spawn command.program command.arguments = content.started
  refused : ¬ command.Passable →
    machine.spawn command.program command.arguments = .error .zeroCharacter ∨
      machine.spawn command.program command.arguments = .error .argumentTooLong

theorem Strategy.program_plain (strategy : Strategy) :
    strategy.program ≠ "" ∧ '/' ∉ strategy.program.toList := by
  cases strategy <;> decide

theorem placeIn_nil (program : String) : placeIn program [] = program := if_pos (Or.inr rfl)

theorem placeIn_of_ne_nil (strategy : Strategy) {directory : List Char} (named : directory ≠ []) :
    placeIn strategy.program directory =
      if directory.getLast? = some '/' then String.ofList directory ++ strategy.program
      else String.ofList directory ++ "/" ++ strategy.program := by
  refine if_neg ?_
  rintro (absolute | empty)
  · exact strategy.program_plain.2 (List.mem_of_head? absolute)
  · exact named empty

/-- The place of a tool is a path exactly when its directory has a name. -/
theorem slash_mem_placeIn_iff (strategy : Strategy) (directory : List Char) :
    '/' ∈ (placeIn strategy.program directory).toList ↔ directory ≠ [] := by
  constructor
  · rintro slash rfl
    rw [placeIn_nil] at slash
    exact strategy.program_plain.2 slash
  · intro named
    rw [placeIn_of_ne_nil strategy named]
    split
    next ended => simp [List.mem_of_getLast? ended]
    next => simp

/-- What the system would run in a directory with a name is what the resolver finds there. -/
theorem holds_of_isExecutable {files : Machine.FileSystem} {strategy : Strategy}
    {directory : List Char} (named : directory ≠ [])
    (executable : files.isExecutable (String.ofList directory ++ "/" ++ strategy.program) = true) :
    Holds files strategy.program directory := by
  rw [holds_iff, placeIn_of_ne_nil strategy named]
  split
  next ended =>
    obtain ⟨front, rfl⟩ := List.getLast?_eq_some_iff.mp ended
    rw [String.ofList_append] at executable ⊢
    obtain ⟨mode, content, isFile, mayExecute⟩ := (files.isExecutable_iff _).mp executable
    exact (files.isExecutable_iff _).mpr
      ⟨mode, content, files.stat_of_stat_doubled_slash isFile, mayExecute⟩
  next => exact executable

/-- The search of the system passes over directories in which the resolver has found nothing. -/
theorem searchPath_append {files : Machine.FileSystem} {strategy : Strategy}
    {earlier : List (List Char)} (named : ∀ other ∈ earlier, other ≠ [])
    (others : ∀ other ∈ earlier, ¬ Holds files strategy.program other)
    (short : ∀ other ∈ earlier,
      files.stat (String.ofList other ++ "/" ++ strategy.program) ≠ .error .tooLong)
    {arguments : List String} {behaviour : Machine.Behaviour}
    (started : files.execute strategy.program arguments = .ok behaviour)
    (reported : Machine.SpawnFault) (later : List (List Char)) :
    Machine.searchPath files strategy.program arguments reported (earlier ++ [] :: later) =
      .ok behaviour := by
  induction earlier generalizing reported with
  | nil => simp only [List.nil_append, Machine.searchPath, if_pos, started]
  | cons other earlier inductionHypothesis =>
      rw [List.forall_mem_cons] at named others short
      have following := inductionHypothesis named.2 others.2 short.2
      have inert : files.isExecutable (String.ofList other ++ "/" ++ strategy.program) = false := by
        rw [← Bool.not_eq_true]
        exact fun executable => others.1 (holds_of_isExecutable named.1 executable)
      rw [List.cons_append, Machine.searchPath]
      simp only [if_neg named.1]
      obtain ⟨fault, failed, passedOver⟩ :=
        files.execute_of_not_isExecutable inert short.1 arguments
      simp only [failed, passedOver, if_true, following]

/-- Of the command of a query it is known in which directory its program was found. -/
theorem exists_directory_of_query {resolver : Resolver} {machine : Machine} {strategy : Strategy}
    {command : Command} (asked : resolver.query machine = .ok (strategy, command)) :
    ∃ earlier directory later, resolver.directories machine = earlier ++ directory :: later ∧
      Holds machine.files strategy.program directory ∧
      command.program = placeIn strategy.program directory ∧
      ∀ other ∈ earlier, ¬ Holds machine.files strategy.program other := by
  rw [query] at asked
  split at asked
  · contradiction
  next chosen choice =>
    obtain ⟨place, found, _⟩ := resolver.query_of_strategy machine choice
    simp only [found] at asked
    cases asked
    exact (resolver.find?_eq_some_iff machine _ place).mp found

section

variable {machine : Machine} {command : Command}

/-- A path that leads to an executable file is started without a search. -/
theorem Command.starts_of_slash {mode : Nat} {content : Machine.Content}
    (isFile : machine.files.stat command.program = .ok (.file mode content))
    (executable : mode &&& 0o111 ≠ 0) (slash : '/' ∈ command.program.toList) :
    command.Starts machine content := by
  have named : command.program ≠ "" := by
    intro empty
    simp [empty] at slash
  have spawned (clean : ∀ word ∈ command.program :: command.arguments, '\x00' ∉ word.toList) :
      machine.spawn command.program command.arguments =
        if command.arguments.any (131072 ≤ ·.utf8ByteSize) then .error .argumentTooLong
        else content.started := by
    rw [machine.spawn_of_clean _ clean, if_neg named, if_pos slash]
    exact machine.files.execute_of_file isFile (bne_iff_ne.mpr executable) _
  constructor
  · intro passable
    have short : command.arguments.any (131072 ≤ ·.utf8ByteSize) = false := by
      simpa using passable.short
    rw [spawned passable.clean, if_neg (Bool.eq_false_iff.mp short)]
  · intro unpassable
    by_cases clean : ∀ word ∈ command.program :: command.arguments, '\x00' ∉ word.toList
    · have long : command.arguments.any (131072 ≤ ·.utf8ByteSize) = true := by
        rw [← Bool.not_eq_false]
        intro short
        exact unpassable ⟨clean, by simpa using short⟩
      exact .inr (by rw [spawned clean, if_pos long])
    · refine .inl (machine.spawn_of_zero _ ?_)
      simpa only [not_forall, not_not, exists_prop] using clean

/-- The name of a tool alone is searched for in the directories of the host. -/
theorem spawn_of_bare_name (strategy : Strategy) (bare : command.program = strategy.program)
    (passable : command.Passable) :
    machine.spawn command.program command.arguments =
      Machine.searchPath machine.files strategy.program command.arguments .notFound
        (directoriesOf (machine.path.getD Machine.fallbackPath)) := by
  have plain := strategy.program_plain
  rw [← bare] at plain ⊢
  rw [machine.spawn_of_clean _ passable.clean, if_neg plain.1, if_neg plain.2]
  rfl

end

/-- Starting a path does not depend on where the host looks for programs. -/
theorem spawn_of_slash {machine : Machine} {program : String} (slash : '/' ∈ program.toList)
    (path : Option String) (arguments : List String) :
    { machine with path }.spawn program arguments = machine.spawn program arguments := by
  have isPath : program.toList.any (· == '/') = true :=
    List.any_eq_true.mpr ⟨'/', slash, rfl⟩
  simp only [Machine.spawn, isPath, if_true]

/-- With directories of its own the resolver does not look in those of the host. -/
theorem query_of_searchPath {resolver : Resolver} (own : resolver.searchPath ≠ none)
    (machine : Machine) (path : Option String) :
    resolver.query { machine with path } = resolver.query machine := by
  obtain ⟨searchPath, isOwn⟩ := Option.ne_none_iff_exists'.mp own
  have same : resolver.find? { machine with path } = resolver.find? machine := by
    funext program
    simp only [find?, findProgram?, isOwn, Option.some_or]
  simp only [query, strategy, same]

theorem current_of_searchPath {resolver : Resolver} {machine : Machine} {strategy : Strategy}
    {command : Command} (asked : resolver.query machine = .ok (strategy, command))
    (own : resolver.searchPath ≠ none) (slash : '/' ∈ command.program.toList)
    (path : Option String) : resolver.current { machine with path } = resolver.current machine := by
  have sameRun : command.run { machine with path } resolver.limit =
      command.run machine resolver.limit := by
    simp only [Command.run, spawn_of_slash slash]
  simp only [current, query_of_searchPath own, asked, Command.runForOutput, sameRun]

/-- When the directories are those of the host, and none of them is too long, the search of the system
ends at the file that the resolver has found in the empty directory. -/
theorem spawn_of_shared_path {resolver : Resolver} {machine : Machine} {strategy : Strategy}
    {command : Command} {earlier later : List (List Char)} {behaviour : Machine.Behaviour}
    (shared : resolver.searchPath = none)
    (directories_eq : resolver.directories machine = earlier ++ [] :: later)
    (others : ∀ other ∈ earlier, ¬ Holds machine.files strategy.program other)
    (short : ∀ other ∈ earlier,
      machine.files.stat (String.ofList other ++ "/" ++ strategy.program) ≠ .error .tooLong)
    (bare : command.program = strategy.program) (passable : command.Passable)
    (isFile : ∃ mode, machine.files.stat strategy.program = .ok (.file mode (.program behaviour)) ∧
      mode &&& 0o111 ≠ 0) :
    machine.spawn command.program command.arguments = .ok behaviour := by
  have searched : directoriesOf (machine.path.getD Machine.fallbackPath) = earlier ++ [] :: later := by
    rw [directories, shared, Option.none_or] at directories_eq
    cases path_eq : machine.path with
    | none => simp [path_eq] at directories_eq
    | some path => simpa [path_eq] using directories_eq
  obtain ⟨mode, isFile, executable⟩ := isFile
  have started : machine.files.execute strategy.program command.arguments = .ok behaviour := by
    rw [machine.files.execute_of_file isFile (bne_iff_ne.mpr executable), if_neg]
    · rfl
    · simpa using passable.short
  rw [spawn_of_bare_name strategy bare passable, searched]
  refine searchPath_append (fun other membership => ?_) others short started _ later
  rintro rfl
  exact others [] membership ⟨mode, _, by rwa [placeIn_nil], executable⟩

/-- The tool that is found is the file that is started, in whatever directories the system looks for
programs, unless it is found in the empty directory.  Then its bare name is searched for a second time,
which ends at the same file if it is done in the same directories. -/
theorem found_tool_is_started_from_named_directory (resolver : Resolver) {machine : Machine}
    {strategy : Strategy} {command : Command}
    (asked : resolver.query machine = .ok (strategy, command)) :
    ∃ earlier directory later mode content,
      resolver.directories machine = earlier ++ directory :: later ∧
      (∀ other ∈ earlier, ¬ Holds machine.files strategy.program other) ∧
      command.program = placeIn strategy.program directory ∧
      machine.files.stat command.program = .ok (.file mode content) ∧ mode &&& 0o111 ≠ 0 ∧
      ('/' ∈ command.program.toList ↔ directory ≠ []) ∧
      (directory ≠ [] →
        (∀ path, command.Starts { machine with path } content) ∧
        (resolver.searchPath ≠ none →
          ∀ path, resolver.current { machine with path } = resolver.current machine)) ∧
      (directory = [] → command.Passable →
        machine.spawn command.program command.arguments =
          Machine.searchPath machine.files strategy.program command.arguments .notFound
            (directoriesOf (machine.path.getD Machine.fallbackPath)) ∧
        (resolver.searchPath = none →
          (∀ other ∈ earlier,
            machine.files.stat (String.ofList other ++ "/" ++ strategy.program) ≠
              .error .tooLong) →
          ∀ behaviour, content = .program behaviour →
            machine.spawn command.program command.arguments = .ok behaviour)) := by
  obtain ⟨earlier, directory, later, directories_eq, held, place, others⟩ :=
    exists_directory_of_query asked
  have slash : '/' ∈ command.program.toList ↔ directory ≠ [] := by
    rw [place, slash_mem_placeIn_iff]
  obtain ⟨mode, content, isFile, executable⟩ := held
  refine ⟨earlier, directory, later, mode, content, directories_eq, others, place, ?_, executable,
    slash, ?_, ?_⟩
  · rwa [place]
  · intro named
    refine ⟨fun path => ?_, fun own => current_of_searchPath asked own (slash.mpr named)⟩
    exact Command.starts_of_slash (by rwa [place]) executable (slash.mpr named)
  · rintro rfl passable
    rw [placeIn_nil] at place isFile
    refine ⟨spawn_of_bare_name strategy place passable, ?_⟩
    rintro shared short behaviour rfl
    exact spawn_of_shared_path shared directories_eq others short place passable
      ⟨mode, isFile, executable⟩

/-- A program that prints a line and succeeds. -/
def printer (line : String) : Machine.Node :=
  .file 0o755 (.program ⟨line.toUTF8.toList, [], .exited 0, ⟨0⟩⟩)

/-- A host with a tool in the directory where relative paths start, and another one where it looks for
programs. -/
def twoTools : Machine where
  files := ⟨[(["here"], .directory), (["here", "ip"], printer "inet 192.0.2.1"),
    (["there"], .directory), (["there", "ip"], printer "inet 192.0.2.2")], ["here"]⟩
  path := some "/there"

/-- A resolver for this host with directories of its own. -/
def twoToolsResolver (searchPath : String) : Resolver :=
  { interface := "eth0", family := .ipv4, searchPath := some searchPath }

theorem tool_is_started_from_here :
    let query : Strategy × Command := (.iproute2, ⟨"/here/ip", ["-4", "addr", "show", "dev", "eth0"]⟩)
    (twoToolsResolver "/here").query twoTools = .ok query ∧
    (twoToolsResolver "/here").current { twoTools with path := none } =
      (twoToolsResolver "/here").current twoTools ∧
    ((twoToolsResolver "/here").current twoTools).result = .ok "192.0.2.1" := by
  intro query
  have asked : (twoToolsResolver "/here").query twoTools = .ok query := by decide +kernel
  obtain ⟨_, directory, _, _, _, _, _, _, _, _, slash, named, _⟩ :=
    found_tool_is_started_from_named_directory (twoToolsResolver "/here") asked
  refine ⟨asked, (named (slash.mp ?_)).2 ?_ none, ?_⟩ <;> decide +kernel

/-- The empty search path means the directory where relative paths start, but a tool that is found there
is not the one that is started. -/
theorem tool_in_empty_directory_is_not_started :
    (twoToolsResolver "").query twoTools =
      .ok (.iproute2, ⟨"ip", ["-4", "addr", "show", "dev", "eth0"]⟩) ∧
    twoTools.files.stat "ip" = .ok (printer "inet 192.0.2.1") ∧
    '/' ∉ "ip".toList ∧
    ((twoToolsResolver "").current twoTools).result = .ok "192.0.2.2" ∧
    ((twoToolsResolver "").current { twoTools with path := some "/" }).result =
      .error (.environment "'ip' not found in PATH") := by
  decide +kernel

end Resolver

end AddressWatch
