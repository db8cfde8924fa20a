import AddressWatch.Proofs.Machine.FileSystem
import AddressWatch.Proofs.Text.Pieces
import AddressWatch.Resolver

/-!
# Which tool is used

A tool is installed if one of the directories that are searched has an executable file of its name.  The
strategies for an interface are ranked, and their ranks count for more than the order of the directories:
the choice depends only on which tools are installed.
-/

namespace AddressWatch.Resolver

/-- The directory has a regular file for the program, and the file has an execute bit. -/
def Holds (files : Machine.FileSystem) (program : String) (directory : List Char) : Prop :=
  ∃ mode content, files.stat (placeIn program directory) = .ok (.file mode content) ∧
    mode &&& 0o111 ≠ 0

theorem holds_iff (files : Machine.FileSystem) (program : String) (directory : List Char) :
    Holds files program directory ↔ files.isExecutable (placeIn program directory) = true := by
  unfold Holds Machine.FileSystem.isExecutable
  cases files.stat (placeIn program directory) with
  | error fault => simp
  | ok node => cases node <;> simp [Machine.FileSystem.mayExecute]

/-- The directories of a search path, which stand between colons. -/
def directoriesOf (searchPath : String) : List (List Char) := Text.splitAt ':' searchPath.toList

/-- The directories in which a resolver looks for programs on a host. -/
def directories (resolver : Resolver) (machine : Machine) : List (List Char) :=
  match resolver.searchPath.or machine.path with
  | none => []
  | some searchPath => directoriesOf searchPath

/-- The tool of a strategy is in one of the directories. -/
def Installed (resolver : Resolver) (machine : Machine) (strategy : Strategy) : Prop :=
  ∃ directory ∈ resolver.directories machine, Holds machine.files strategy.program directory

section

variable (resolver : Resolver) (machine : Machine)

theorem find?_eq (program : String) :
    resolver.find? machine program =
      ((resolver.directories machine).map (placeIn program)).find? machine.files.isExecutable := by
  unfold find? findProgram? directories
  cases resolver.searchPath.or machine.path <;> rfl

/-- A program is found in the first directory that has it. -/
theorem find?_eq_some_iff (program place : String) :
    resolver.find? machine program = some place ↔
      ∃ earlier directory later, resolver.directories machine = earlier ++ directory :: later ∧
        Holds machine.files program directory ∧ place = placeIn program directory ∧
        ∀ other ∈ earlier, ¬ Holds machine.files program other := by
  simp only [find?_eq, List.find?_map, Option.map_eq_some_iff, List.find?_eq_some_iff_append,
    holds_iff, Function.comp_apply, Bool.not_eq_true']
  constructor
  · rintro ⟨directory, ⟨held, earlier, later, directories_eq, others⟩, rfl⟩
    exact ⟨earlier, directory, later, directories_eq, held, rfl, by simpa using others⟩
  · rintro ⟨earlier, directory, later, directories_eq, held, rfl, others⟩
    exact ⟨directory, ⟨held, earlier, later, directories_eq, by simpa using others⟩, rfl⟩

theorem isSome_find?_iff (strategy : Strategy) :
    (resolver.find? machine strategy.program).isSome = true ↔
      resolver.Installed machine strategy := by
  simp only [find?_eq, List.find?_isSome, List.mem_map, Installed, holds_iff]
  constructor
  · rintro ⟨_, ⟨directory, membership, rfl⟩, held⟩
    exact ⟨directory, membership, held⟩
  · rintro ⟨directory, membership, held⟩
    exact ⟨_, ⟨directory, membership, rfl⟩, held⟩

theorem isSome_find?_eq_false_iff (strategy : Strategy) :
    (resolver.find? machine strategy.program).isSome = false ↔
      ¬ resolver.Installed machine strategy := by
  rw [← Bool.not_eq_true, isSome_find?_iff]

/-- The first strategy for the interface whose tool is installed is chosen. -/
theorem strategy_of_installed (better worse : List Strategy) {strategy : Strategy}
    (candidates_eq : Strategy.candidates resolver.interface = better ++ strategy :: worse)
    (installed : resolver.Installed machine strategy)
    (others : ∀ other ∈ better, ¬ resolver.Installed machine other) :
    resolver.strategy machine = .ok strategy := by
  have chosen : (Strategy.candidates resolver.interface).find?
      (fun strategy => (resolver.find? machine strategy.program).isSome) = some strategy := by
    rw [List.find?_eq_some_iff_append]
    refine ⟨(resolver.isSome_find?_iff machine strategy).mpr installed, better, worse,
      candidates_eq, ?_⟩
    intro other membership
    rw [(resolver.isSome_find?_eq_false_iff machine other).mpr (others other membership)]
    rfl
  rw [Resolver.strategy, Strategy.select, chosen]

theorem strategy_of_none_installed
    (nothing : ∀ strategy ∈ Strategy.candidates resolver.interface,
      ¬ resolver.Installed machine strategy) :
    resolver.strategy machine =
      .error (.environment (Strategy.missing resolver.interface).message) := by
  have chosen : (Strategy.candidates resolver.interface).find?
      (fun strategy => (resolver.find? machine strategy.program).isSome) = none := by
    rw [List.find?_eq_none]
    intro strategy membership
    rw [(resolver.isSome_find?_eq_false_iff machine strategy).mpr (nothing strategy membership)]
    exact Bool.false_ne_true
  rw [Resolver.strategy, Strategy.select, chosen]

theorem installed_of_strategy {strategy : Strategy}
    (chosen : resolver.strategy machine = .ok strategy) :
    strategy ∈ Strategy.candidates resolver.interface ∧ resolver.Installed machine strategy := by
  rw [Resolver.strategy, Strategy.select] at chosen
  split at chosen
  next other found =>
    obtain rfl := Except.ok.inj chosen
    have available := List.find?_some found
    exact ⟨List.mem_of_find?_eq_some found,
      (resolver.isSome_find?_iff machine other).mp available⟩
  next => contradiction

/-- Where a tool for the interface is installed there is a choice. -/
theorem exists_strategy_of_candidate {strategy : Strategy}
    (candidate : strategy ∈ Strategy.candidates resolver.interface)
    (installed : resolver.Installed machine strategy) :
    ∃ chosen, resolver.strategy machine = .ok chosen := by
  have found := (resolver.isSome_find?_iff machine strategy).mpr installed
  cases choice : (Strategy.candidates resolver.interface).find?
      fun strategy => (resolver.find? machine strategy.program).isSome with
  | some better => exact ⟨better, by rw [Resolver.strategy, Strategy.select, choice]⟩
  | none => exact absurd found (List.find?_eq_none.mp choice strategy candidate)

/-- The tool of the strategy that is chosen is found once more for the command. -/
theorem query_of_strategy {strategy : Strategy}
    (chosen : resolver.strategy machine = .ok strategy) :
    ∃ place, resolver.find? machine strategy.program = some place ∧
      resolver.query machine =
        .ok (strategy, ⟨place, strategy.arguments resolver.interface resolver.family⟩) := by
  have found := (resolver.isSome_find?_iff machine strategy).mpr
    (resolver.installed_of_strategy machine chosen).2
  obtain ⟨place, place_eq⟩ := Option.isSome_iff_exists.mp found
  refine ⟨place, place_eq, ?_⟩
  simp only [query, chosen, place_eq]

end

/-! ## Other hosts and other search paths -/

section

variable {resolver other : Resolver} {machine changed : Machine}

/-- The choice depends only on which tools are installed. -/
theorem strategy_congr (sameInterface : other.interface = resolver.interface)
    (same : ∀ strategy, other.Installed changed strategy ↔ resolver.Installed machine strategy) :
    other.strategy changed = resolver.strategy machine := by
  have available : (fun strategy : Strategy => (other.find? changed strategy.program).isSome) =
      fun strategy : Strategy => (resolver.find? machine strategy.program).isSome := by
    funext strategy
    rw [Bool.eq_iff_iff, isSome_find?_iff, isSome_find?_iff, same]
  simp only [Resolver.strategy, Strategy.select, sameInterface, available]

/-- Where more tools are installed there is still a choice. -/
theorem exists_strategy_of_installed (sameInterface : other.interface = resolver.interface)
    (more : ∀ strategy, resolver.Installed machine strategy → other.Installed changed strategy)
    {strategy : Strategy} (chosen : resolver.strategy machine = .ok strategy) :
    ∃ strategy, other.strategy changed = .ok strategy := by
  obtain ⟨candidate, installed⟩ := resolver.installed_of_strategy machine chosen
  rw [← sameInterface] at candidate
  exact other.exists_strategy_of_candidate changed candidate (more strategy installed)

/-- Something holds of every place where the tool of a strategy is looked for. -/
def AtPlaces (resolver : Resolver) (machine : Machine) (holds : String → Prop) : Prop :=
  ∀ strategy : Strategy, ∀ directory ∈ resolver.directories machine,
    holds (placeIn strategy.program directory)

theorem holds_of_keeps {files more : Machine.FileSystem} {program : String} {directory : List Char}
    (keeps : files.Keeps more (placeIn program directory)) (held : Holds files program directory) :
    Holds more program directory := by
  obtain ⟨mode, content, isFile, executable⟩ := held
  exact ⟨mode, content, keeps _ isFile, executable⟩

theorem holds_of_addsNoProgram {files more : Machine.FileSystem} {program : String}
    {directory : List Char} (inert : files.AddsNoProgram more (placeIn program directory))
    (held : Holds more program directory) : Holds files program directory := by
  obtain ⟨mode, content, isFile, executable⟩ := held
  exact ⟨mode, content, inert mode content isFile executable, executable⟩

theorem strategy_of_inert {more : Machine.FileSystem}
    (keeps : resolver.AtPlaces machine (machine.files.Keeps more))
    (inert : resolver.AtPlaces machine (machine.files.AddsNoProgram more)) :
    resolver.strategy { machine with files := more } = resolver.strategy machine := by
  apply strategy_congr rfl
  intro strategy
  constructor
  · rintro ⟨directory, membership, held⟩
    exact ⟨directory, membership, holds_of_addsNoProgram (inert strategy directory membership) held⟩
  · rintro ⟨directory, membership, held⟩
    exact ⟨directory, membership, holds_of_keeps (keeps strategy directory membership) held⟩

theorem exists_strategy_of_keeps {more : Machine.FileSystem}
    (keeps : resolver.AtPlaces machine (machine.files.Keeps more)) {strategy : Strategy}
    (chosen : resolver.strategy machine = .ok strategy) :
    ∃ other, resolver.strategy { machine with files := more } = .ok other := by
  apply exists_strategy_of_installed rfl _ chosen
  rintro strategy ⟨directory, membership, held⟩
  exact ⟨directory, membership, holds_of_keeps (keeps strategy directory membership) held⟩

/-- The place of a tool does not climb unless its directory does. -/
theorem climb_not_mem_placeIn (strategy : Strategy) {directory : List Char}
    (direct : ['.', '.'] ∉ Text.splitAt '/' directory) :
    ['.', '.'] ∉ Text.splitAt '/' (placeIn strategy.program directory).toList := by
  have plain : strategy.program.toList.head? ≠ some '/' ∧
      ['.', '.'] ∉ Text.splitAt '/' strategy.program.toList := by
    cases strategy <;> decide
  unfold placeIn
  split
  · exact plain.2
  · split
    next ended =>
      obtain ⟨front, rfl⟩ := List.getLast?_eq_some_iff.mp ended
      rw [Text.splitAt_append_cons] at direct
      rw [String.toList_append, String.toList_ofList, List.append_assoc, List.singleton_append,
        Text.splitAt_append_cons, List.mem_append, not_or]
      exact ⟨fun among => direct (List.mem_append_left _ among), plain.2⟩
    next =>
      rw [String.toList_append, String.toList_append, String.toList_ofList, List.append_assoc]
      change _ ∉ Text.splitAt '/' (directory ++ '/' :: strategy.program.toList)
      rw [Text.splitAt_append_cons, List.mem_append, not_or]
      exact ⟨direct, plain.2⟩

/-- What is put under a free name and cannot be executed does not matter, unless it is a directory and a
searched directory may be reached through it. -/
theorem strategy_insert_of_inert {place : List String} {name : String}
    (free : machine.files.IsFree place name) {node : Machine.Node}
    (inert : ∀ mode content, node = .file mode content → mode &&& 0o111 = 0)
    (direct : node = .directory →
      ∀ directory ∈ resolver.directories machine, ['.', '.'] ∉ Text.splitAt '/' directory) :
    resolver.strategy { machine with files := machine.files.insert (place ++ [name]) node } =
      resolver.strategy machine := by
  have adds := free.adds node
  apply strategy_of_inert
  · intro _ _ _
    exact adds.keeps _
  · intro strategy directory membership
    apply adds.addsNoProgram inert
    intro isDirectory
    exact climb_not_mem_placeIn strategy (direct isDirectory directory membership)

theorem exists_strategy_insert {place : List String} {name : String}
    (free : machine.files.IsFree place name) (node : Machine.Node) {strategy : Strategy}
    (chosen : resolver.strategy machine = .ok strategy) :
    ∃ other, resolver.strategy
      { machine with files := machine.files.insert (place ++ [name]) node } = .ok other := by
  refine exists_strategy_of_keeps ?_ chosen
  intro _ _ _
  exact (free.adds node).keeps _

end

/-- Which strategy a resolver chooses on a host: the first one for its interface whose tool is
installed. -/
structure ChoosesInstalled (resolver : Resolver) (machine : Machine) : Prop where
  tailscale : resolver.interface = "tailscale" → resolver.Installed machine .tailscale →
    resolver.strategy machine = .ok .tailscale
  no_tailscale : resolver.interface = "tailscale" → ¬ resolver.Installed machine .tailscale →
    resolver.strategy machine = .error (.environment Missing.tailscaleTool.message)
  iproute2 : resolver.interface ≠ "tailscale" → resolver.Installed machine .iproute2 →
    resolver.strategy machine = .ok .iproute2
  ifconfig : resolver.interface ≠ "tailscale" → ¬ resolver.Installed machine .iproute2 →
    resolver.Installed machine .ifconfig → resolver.strategy machine = .ok .ifconfig
  no_query_tool : resolver.interface ≠ "tailscale" → ¬ resolver.Installed machine .iproute2 →
    ¬ resolver.Installed machine .ifconfig →
    resolver.strategy machine = .error (.environment Missing.queryTools.message)

theorem choosesInstalled (resolver : Resolver) (machine : Machine) :
    resolver.ChoosesInstalled machine := by
  have own (isOwn : resolver.interface = "tailscale") :
      Strategy.candidates resolver.interface = [.tailscale] ∧
        Strategy.missing resolver.interface = .tailscaleTool := by
    rw [isOwn]
    exact ⟨rfl, rfl⟩
  have queried (isOther : resolver.interface ≠ "tailscale") :
      Strategy.candidates resolver.interface = [.iproute2, .ifconfig] ∧
        Strategy.missing resolver.interface = .queryTools :=
    ⟨if_neg isOther, if_neg isOther⟩
  constructor
  · intro isOwn installed
    exact resolver.strategy_of_installed machine [] [] (own isOwn).1 installed (by simp)
  · intro isOwn absent
    rw [← (own isOwn).2]
    apply strategy_of_none_installed
    simpa [(own isOwn).1] using absent
  · intro isOther installed
    exact resolver.strategy_of_installed machine [] [.ifconfig] (queried isOther).1 installed
      (by simp)
  · intro isOther absent installed
    exact resolver.strategy_of_installed machine [.iproute2] [] (queried isOther).1
      installed (by simpa using absent)
  · intro isOther absent alsoAbsent
    rw [← (queried isOther).2]
    apply strategy_of_none_installed
    simpa [(queried isOther).1] using ⟨absent, alsoAbsent⟩

/-- What a resolver chooses and finds on a host, and what does not matter to it. -/
structure ProbesDirectories (resolver : Resolver) (machine : Machine) : Prop where
  chooses : resolver.ChoosesInstalled machine
  /-- The directories may be searched in any order and repeatedly, and others without tools as well. -/
  search_congr : ∀ (other : Resolver) (host : Machine),
    other.interface = resolver.interface → host.files = machine.files →
    (∀ (strategy : Strategy) directory, Holds machine.files strategy.program directory →
      (directory ∈ other.directories host ↔ directory ∈ resolver.directories machine)) →
    other.strategy host = resolver.strategy machine
  /-- Files that are added do not matter if no tool is found that was not there. -/
  ignores : ∀ more : Machine.FileSystem, resolver.AtPlaces machine (machine.files.Keeps more) →
    resolver.AtPlaces machine (machine.files.AddsNoProgram more) →
    resolver.strategy { machine with files := more } = resolver.strategy machine
  /-- A file without an execute bit is such an addition, and a directory as long as no searched
  directory has a step up, which could lead through it. -/
  ignores_insert : ∀ place name node, machine.files.IsFree place name →
    (∀ mode content, node = .file mode content → mode &&& 0o111 = 0) →
    (node = .directory →
      ∀ directory ∈ resolver.directories machine, ['.', '.'] ∉ Text.splitAt '/' directory) →
    resolver.strategy { machine with files := machine.files.insert (place ++ [name]) node } =
      resolver.strategy machine
  /-- Nothing that is added leaves a resolver without a choice. -/
  keeps_choice : ∀ more : Machine.FileSystem,
    resolver.AtPlaces machine (machine.files.Keeps more) → ∀ strategy,
    resolver.strategy machine = .ok strategy →
      ∃ other, resolver.strategy { machine with files := more } = .ok other
  keeps_choice_insert : ∀ place name node, machine.files.IsFree place name → ∀ strategy,
    resolver.strategy machine = .ok strategy →
      ∃ other, resolver.strategy
        { machine with files := machine.files.insert (place ++ [name]) node } = .ok other
  finds_first : ∀ program place, resolver.find? machine program = some place ↔
    ∃ earlier directory later, resolver.directories machine = earlier ++ directory :: later ∧
      Holds machine.files program directory ∧ place = placeIn program directory ∧
      ∀ other ∈ earlier, ¬ Holds machine.files program other
  /-- The tool that is chosen is found again for the command. -/
  finds_again : ∀ strategy, resolver.strategy machine = .ok strategy →
    ∃ place, resolver.find? machine strategy.program = some place ∧
      resolver.query machine =
        .ok (strategy, ⟨place, strategy.arguments resolver.interface resolver.family⟩)

theorem strategy_of_same_tools {resolver other : Resolver} {machine host : Machine}
    (sameInterface : other.interface = resolver.interface) (sameFiles : host.files = machine.files)
    (same : ∀ (strategy : Strategy) directory, Holds machine.files strategy.program directory →
      (directory ∈ other.directories host ↔ directory ∈ resolver.directories machine)) :
    other.strategy host = resolver.strategy machine := by
  apply strategy_congr sameInterface
  intro strategy
  unfold Installed
  rw [sameFiles]
  constructor
  · rintro ⟨directory, membership, held⟩
    exact ⟨directory, (same strategy directory held).mp membership, held⟩
  · rintro ⟨directory, membership, held⟩
    exact ⟨directory, (same strategy directory held).mpr membership, held⟩

/-- The first installed strategy for the interface is chosen, whatever else is searched or added, as long
as no way to a searched directory leads through what is added. -/
theorem best_installed_strategy_is_chosen (resolver : Resolver) (machine : Machine) :
    resolver.ProbesDirectories machine where
  chooses := choosesInstalled resolver machine
  search_congr _ _ sameInterface sameFiles same :=
    strategy_of_same_tools sameInterface sameFiles same
  ignores _ keeps inert := strategy_of_inert keeps inert
  ignores_insert _ _ _ free inert direct := strategy_insert_of_inert free inert direct
  keeps_choice _ keeps _ chosen := exists_strategy_of_keeps keeps chosen
  keeps_choice_insert _ _ node free _ chosen := exists_strategy_insert free node chosen
  finds_first := find?_eq_some_iff resolver machine
  finds_again _ chosen := query_of_strategy resolver machine chosen

/-- A host whose first directory has one tool, and whose second one has another that cannot be run. -/
def workshop : Machine where
  files := ⟨[(["opt"], .directory), (["opt", "ifconfig"], .file 0o755 .missingInterpreter),
    (["usr"], .directory), (["usr", "ip"], .file 0o644 .unknownFormat)], []⟩
  path := some "/opt:/usr"

def workshopResolver : Resolver := { interface := "eth0", family := .ipv4 }

theorem workshop_isFree : workshop.files.IsFree ["opt"] "ip" where
  isTree := Machine.FileSystem.isTree_of_nodes (by decide +kernel)
  parent := by decide +kernel
  vacant := by decide +kernel

theorem workshop_directories :
    workshopResolver.directories workshop = ["/opt".toList, "/usr".toList] := by
  decide +kernel

/-- The tool stays chosen when the directories are searched in another order and when a directory takes
the name of the better tool, which hides nothing. -/
theorem workshop_chooses_ifconfig :
    workshopResolver.strategy workshop = .ok .ifconfig ∧
    { workshopResolver with searchPath := some "/usr:/opt:/usr" }.strategy workshop =
      .ok .ifconfig ∧
    workshopResolver.strategy
      { workshop with files := workshop.files.insert ["opt", "ip"] .directory } = .ok .ifconfig := by
  have probes := best_installed_strategy_is_chosen workshopResolver workshop
  have chosen : workshopResolver.strategy workshop = .ok .ifconfig := by
    apply probes.chooses.ifconfig (by decide)
    · simp only [Installed, workshop_directories, holds_iff]
      decide +kernel
    · simp only [Installed, workshop_directories, holds_iff]
      decide +kernel
  refine ⟨chosen, ?_, ?_⟩
  · rw [← chosen]
    apply probes.search_congr
    · rfl
    · rfl
    intro _ directory _
    have directories_eq :
        { workshopResolver with searchPath := some "/usr:/opt:/usr" }.directories workshop =
          ["/usr".toList, "/opt".toList, "/usr".toList] := by
      decide +kernel
    rw [directories_eq, workshop_directories]
    simp only [List.mem_cons, List.not_mem_nil, or_false]
    tauto
  · rw [← chosen]
    apply probes.ignores_insert ["opt"] "ip" .directory workshop_isFree
    · intro _ _ isFile
      cases isFile
    · intro _
      rw [workshop_directories]
      decide +kernel

/-- A directory without anything in it can bring a tool: on the way to the directory that is searched it
is entered and left again. -/
theorem empty_directory_can_bring_a_tool :
    let resolver : Resolver := { workshopResolver with searchPath := some "/x/../opt" }
    workshop.files.IsFree [] "x" ∧
    resolver.strategy workshop = .error (.environment Missing.queryTools.message) ∧
    resolver.strategy { workshop with files := workshop.files.insert ["x"] .directory } =
      .ok .ifconfig := by
  refine ⟨⟨?_, by decide +kernel, by decide +kernel⟩, by decide +kernel, by decide +kernel⟩
  exact Machine.FileSystem.isTree_of_nodes (by decide +kernel)

end AddressWatch.Resolver
