import AddressWatch.Machine.FileSystem

/-!
# Adding to a file system

In a tree of files, a file or a directory is added under a name that is free.  What was found before is
found as before.  What is found in addition is the new node, as long as no path climbs out of a new
directory.
-/

namespace AddressWatch.Machine.FileSystem

/-- Everything stands in a directory. -/
def IsTree (files : FileSystem) : Prop :=
  ∀ place name, files.node? (place ++ [name]) ≠ none → files.node? place = some .directory

/-- In the tree there is a directory, and in it the name is free. -/
structure IsFree (files : FileSystem) (place : List String) (name : String) : Prop where
  isTree : files.IsTree
  parent : files.node? place = some .directory
  vacant : files.node? (place ++ [name]) = none

/-- Nothing that the path leads to is lost. -/
def Keeps (files more : FileSystem) (path : String) : Prop :=
  ∀ node, files.stat path = .ok node → more.stat path = .ok node

/-- The path leads to no executable file that it did not lead to. -/
def AddsNoProgram (files more : FileSystem) (path : String) : Prop :=
  ∀ mode content, more.stat path = .ok (.file mode content) → mode &&& 0o111 ≠ 0 →
    files.stat path = .ok (.file mode content)

theorem IsTree.node?_append_eq_none {files : FileSystem} (isTree : files.IsTree)
    {place : List String} (vacant : files.node? place = none) (names : List String) :
    files.node? (place ++ names) = none := by
  induction names generalizing place with
  | nil => rwa [List.append_nil]
  | cons name names inductionHypothesis =>
      rw [← List.singleton_append, ← List.append_assoc]
      apply inductionHypothesis
      by_cases free : files.node? (place ++ [name]) = none
      · exact free
      · rw [isTree place name free] at vacant
        contradiction

theorem isTree_of_nodes {files : FileSystem}
    (each : ∀ entry ∈ files.nodes, files.node? entry.1.dropLast = some .directory) :
    files.IsTree := by
  intro place name present
  have listed : files.nodes.lookup (place ++ [name]) ≠ none := by
    rwa [node?, if_neg (by simp)] at present
  obtain ⟨node, isThere⟩ := Option.ne_none_iff_exists'.mp listed
  obtain ⟨earlier, later, nodes_eq, _⟩ := List.lookup_eq_some_iff.mp isThere
  have own := each (place ++ [name], node) (by simp [nodes_eq])
  rwa [List.dropLast_concat] at own

theorem lookup_filter (keeps : List String → Bool) (nodes : List (List String × Node))
    (names : List String) :
    (nodes.filter fun entry => keeps entry.1).lookup names =
      if keeps names then nodes.lookup names else none := by
  induction nodes with
  | nil => simp
  | cons entry nodes inductionHypothesis =>
      obtain ⟨other, node⟩ := entry
      rw [List.filter_cons]
      by_cases same : names = other
      · subst same
        cases kept : keeps names <;> simp [kept, inductionHypothesis]
      · have differs : (names == other) = false := beq_eq_false_iff_ne.mpr same
        cases keeps other <;> simp [differs, List.lookup_cons, inductionHypothesis]

theorem IsTree.ancestors_present {files : FileSystem} (isTree : files.IsTree) {place : List String}
    (present : files.node? place ≠ none) (name : String) :
    (ancestors (place ++ [name])).filter (fun above => (files.node? above).isNone) = [] := by
  rw [List.filter_eq_nil_iff]
  intro above isAbove
  obtain ⟨count, inRange, above_eq⟩ := List.mem_filterMap.mp isAbove
  rw [Option.ite_none_left_eq_some, Option.some.injEq] at above_eq
  obtain ⟨_, rfl⟩ := above_eq
  have within : count ≤ place.length := by
    have := List.mem_range.mp inRange
    rw [List.length_append, List.length_singleton] at this
    omega
  rw [List.take_append_of_le_length within, Option.isNone_iff_eq_none]
  intro absent
  apply present
  rw [← List.take_append_drop count place]
  exact isTree.node?_append_eq_none absent _

/-- Under a free name in a directory, the new node is added and nothing else is changed. -/
theorem node?_insert {files : FileSystem} {place : List String} {name : String}
    (free : files.IsFree place name) (node : Node) (other : List String) :
    (files.insert (place ++ [name]) node).node? other =
      if other = place ++ [name] then some node else files.node? other := by
  have present : files.node? place ≠ none := by simp [free.parent]
  have missing := free.isTree.ancestors_present present name
  have nodes_eq : (files.insert (place ++ [name]) node).nodes = (place ++ [name], node) ::
      files.nodes.filter fun entry => !(place ++ [name]).isPrefixOf entry.1 := by
    simp only [insert, missing]
    rfl
  have kept := lookup_filter (fun other => !(place ++ [name]).isPrefixOf other) files.nodes other
  rw [node?, nodes_eq, List.lookup_cons, kept]
  by_cases same : other = place ++ [name]
  · subst same
    simp
  · rw [if_neg same, beq_eq_false_iff_ne.mpr same]
    by_cases below : (place ++ [name]).isPrefixOf other = true
    · rw [below]
      obtain ⟨names, rfl⟩ := List.isPrefixOf_iff_prefix.mp below
      rw [free.isTree.node?_append_eq_none free.vacant names]
      simp
    · simp [below, node?]

/-- At the names a node is added, below which there was nothing. -/
structure Adds (files more : FileSystem) (names : List String) (node : Node) : Prop where
  vacant : files.node? names = none
  below : ∀ name, files.node? (names ++ [name]) = none
  node?_eq : ∀ other, more.node? other = if other = names then some node else files.node? other
  workingDirectory_eq : more.workingDirectory = files.workingDirectory

theorem IsFree.adds {files : FileSystem} {place : List String} {name : String}
    (free : files.IsFree place name) (node : Node) :
    files.Adds (files.insert (place ++ [name]) node) (place ++ [name]) node where
  vacant := free.vacant
  below next := free.isTree.node?_append_eq_none free.vacant [next]
  node?_eq := node?_insert free node
  workingDirectory_eq := rfl

/-! ## Following paths -/

/-- Where a part of a path leads to from a directory. -/
inductive Leads (files : FileSystem) (place : List String) : List Char → List String → Prop
  | stay {part : List Char} (isHere : part = [] ∨ part = ['.']) : Leads files place part place
  | climb : Leads files place ['.', '.'] place.dropLast
  | enter {part : List Char} (isName : ¬ (part = [] ∨ part = ['.']) ∧ part ≠ ['.', '.'])
      (short : (String.ofList part).utf8ByteSize ≤ 255)
      (present : files.node? (place ++ [String.ofList part]) ≠ none) :
      Leads files place part (place ++ [String.ofList part])

theorem walk_cons_eq_ok_iff (files : FileSystem) (place result : List String) (part : List Char)
    (rest : List (List Char)) :
    files.walk place (part :: rest) = .ok result ↔
      files.node? place = some .directory ∧
        ∃ next, files.Leads place part next ∧ files.walk next rest = .ok result := by
  rw [walk]
  constructor
  · intro reached
    split at reached
    · contradiction
    · contradiction
    next directory =>
      refine ⟨directory, ?_⟩
      split at reached
      next isHere => exact ⟨place, .stay isHere, reached⟩
      next notHere =>
        split at reached
        next isAbove =>
          subst isAbove
          exact ⟨_, .climb, reached⟩
        next notAbove =>
          simp only at reached
          split at reached
          · contradiction
          next short =>
            split at reached
            · contradiction
            next present =>
              refine ⟨_, .enter ⟨notHere, notAbove⟩ (Nat.le_of_not_lt short) ?_, reached⟩
              simpa using present
  · rintro ⟨directory, next, leads, reached⟩
    rw [directory]
    cases leads with
    | stay isHere => simpa only [if_pos isHere] using reached
    | climb => exact reached
    | enter isName short present =>
        simp only [if_neg isName.1, if_neg isName.2, if_neg (Nat.not_lt.mpr short),
          Option.isNone_iff_eq_none, if_neg present]
        exact reached

section

variable {files more : FileSystem} {names : List String} {node : Node}

theorem Adds.node?_eq_some (adds : files.Adds more names node) {other : List String} {found : Node}
    (present : files.node? other = some found) : more.node? other = some found := by
  rw [adds.node?_eq, if_neg, present]
  rintro rfl
  rw [adds.vacant] at present
  contradiction

theorem Adds.walk_eq_ok (adds : files.Adds more names node) {place result : List String}
    {parts : List (List Char)} (reached : files.walk place parts = .ok result) :
    more.walk place parts = .ok result := by
  induction parts generalizing place with
  | nil => exact reached
  | cons part rest inductionHypothesis =>
      rw [walk_cons_eq_ok_iff] at reached ⊢
      obtain ⟨directory, next, leads, follows⟩ := reached
      refine ⟨adds.node?_eq_some directory, next, ?_, inductionHypothesis follows⟩
      cases leads with
      | stay isHere => exact .stay isHere
      | climb => exact .climb
      | enter isName short present =>
          obtain ⟨found, isFound⟩ := Option.ne_none_iff_exists'.mp present
          exact .enter isName short (by simp [adds.node?_eq_some isFound])

/-- Within the new node no path leads further, unless it climbs out of it. -/
theorem Adds.eq_of_walk (adds : files.Adds more names node) {result : List String}
    {parts : List (List Char)} (direct : node = .directory → ['.', '.'] ∉ parts)
    (reached : more.walk names parts = .ok result) : result = names := by
  induction parts with
  | nil => exact (Except.ok.inj reached).symm
  | cons part rest inductionHypothesis =>
      rw [walk_cons_eq_ok_iff] at reached
      obtain ⟨directory, next, leads, follows⟩ := reached
      rw [adds.node?_eq, if_pos rfl, Option.some.injEq] at directory
      have direct := direct directory
      rw [List.mem_cons, not_or] at direct
      cases leads with
      | stay => exact inductionHypothesis (fun _ => direct.2) follows
      | climb => exact absurd rfl direct.1
      | enter _ _ present =>
          rw [adds.node?_eq, if_neg (by simp), adds.below] at present
          contradiction

theorem Adds.walk_or_eq (adds : files.Adds more names node) {place result : List String}
    {parts : List (List Char)} (direct : node = .directory → ['.', '.'] ∉ parts)
    (reached : more.walk place parts = .ok result) :
    files.walk place parts = .ok result ∨ result = names := by
  induction parts generalizing place with
  | nil => exact Or.inl reached
  | cons part rest inductionHypothesis =>
      by_cases isNew : place = names
      · subst isNew
        exact Or.inr (adds.eq_of_walk direct reached)
      · rw [walk_cons_eq_ok_iff] at reached ⊢
        obtain ⟨directory, next, leads, follows⟩ := reached
        rw [adds.node?_eq, if_neg isNew] at directory
        have later : node = .directory → ['.', '.'] ∉ rest := fun isDirectory membership =>
          direct isDirectory (List.mem_cons_of_mem part membership)
        rcases inductionHypothesis later follows with before | new
        · cases leads with
          | stay isHere => exact Or.inl ⟨directory, _, .stay isHere, before⟩
          | climb => exact Or.inl ⟨directory, _, .climb, before⟩
          | enter isName short present =>
              by_cases entersNew : place ++ [String.ofList part] = names
              · rw [entersNew] at follows
                exact Or.inr (adds.eq_of_walk later follows)
              · rw [adds.node?_eq, if_neg entersNew] at present
                exact Or.inl ⟨directory, _, .enter isName short present, before⟩
        · exact Or.inr new

end

theorem stat_eq_ok_iff (files : FileSystem) (path : String) (node : Node) :
    files.stat path = .ok node ↔
      path ≠ "" ∧ path.utf8ByteSize < 4096 ∧ ∃ names,
        files.walk (if path.toList.head? = some '/' then [] else files.workingDirectory)
          (Text.splitAt '/' path.toList) = .ok names ∧
        files.node? names = some node := by
  unfold stat
  by_cases empty : path = ""
  · simp [empty]
  · by_cases long : 4096 ≤ path.utf8ByteSize
    · simp [empty, long, Nat.not_lt.mpr long]
    · simp only [if_neg long, ne_eq, empty, not_false_eq_true, true_and, Nat.lt_of_not_le long]
      cases files.walk (if path.toList.head? = some '/' then [] else files.workingDirectory)
        (Text.splitAt '/' path.toList) with
      | error fault => simp
      | ok names => cases present : files.node? names <;> simp [present]

section

variable {files more : FileSystem} {names : List String} {node : Node}

/-- What is added replaces nothing. -/
theorem Adds.keeps (adds : files.Adds more names node) (path : String) :
    files.Keeps more path := by
  intro found isFound
  rw [stat_eq_ok_iff] at isFound ⊢
  rw [adds.workingDirectory_eq]
  obtain ⟨nonempty, short, others, reached, present⟩ := isFound
  exact ⟨nonempty, short, others, adds.walk_eq_ok reached, adds.node?_eq_some present⟩

/-- What cannot be executed is added without a program, unless a path climbs out of it. -/
theorem Adds.addsNoProgram (adds : files.Adds more names node)
    (inert : ∀ mode content, node = .file mode content → mode &&& 0o111 = 0) {path : String}
    (direct : node = .directory → ['.', '.'] ∉ Text.splitAt '/' path.toList) :
    files.AddsNoProgram more path := by
  intro mode content isFile executable
  rw [stat_eq_ok_iff] at isFile ⊢
  rw [adds.workingDirectory_eq] at isFile
  obtain ⟨nonempty, short, others, reached, present⟩ := isFile
  rw [adds.node?_eq] at present
  have notNew : others ≠ names := by
    intro isNew
    rw [if_pos isNew, Option.some.injEq] at present
    exact executable (inert mode content present)
  rw [if_neg notNew] at present
  rcases adds.walk_or_eq direct reached with before | new
  · exact ⟨nonempty, short, others, before, present⟩
  · exact absurd new notNew

end

end AddressWatch.Machine.FileSystem
