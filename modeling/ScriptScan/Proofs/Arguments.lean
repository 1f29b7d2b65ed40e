import ScriptScan.Command.Options

/-! What becomes of each argument behind the input. The words right before an argument decide
whether it is awaited as the path of a configuration; if not, it is taken for what it says. Each
argument has one role, and reading arguments is gathering their roles. -/
namespace ScriptScan.Options

/-- Behind `i` arguments a path is awaited: the last of them is the word for a configuration, and
was not itself awaited as a path. -/
def Awaits (arguments : List String) : Nat → Prop
  | 0 => False
  | i + 1 => arguments[i]? = some "--config" ∧ ¬ Awaits arguments i

instance Awaits.decidable (arguments : List String) : DecidablePred (Awaits arguments)
  | 0 => .isFalse id
  | i + 1 =>
    have := decidable arguments i
    inferInstanceAs (Decidable (_ ∧ ¬ _))

/-- What an argument is taken for. -/
inductive Role
  | json
  | strict
  | config
  | path (path : String)
  /-- The word for a configuration with nothing behind it. -/
  | unfinished
  | unknown (word : String)
deriving DecidableEq, Repr

def Role.path? : Role → Option String
  | .path value => some value
  | _ => none

def Role.warning? : Role → Option OptionWarning
  | .unfinished => some .missingConfigPath
  | .unknown word => some (.unknown word)
  | _ => none

/-- The role of the argument `word` at place `i`. -/
def role (arguments : List String) (i : Nat) (word : String) : Role :=
  if Awaits arguments i then .path word
  else if word = "--json" then .json
  else if word = "--strict" then .strict
  else if word = "--config" then if i + 1 < arguments.length then .config else .unfinished
  else .unknown word

/-- The roles of all arguments, in their order. -/
def roles (arguments : List String) : List Role := arguments.mapIdx (role arguments)

/-- The options so far, with what the roles of further arguments say. -/
def gather (o : Options) (roles : List Role) : Options where
  json := o.json || roles.contains .json
  strict := o.strict || roles.contains .strict
  config := (roles.filterMap Role.path?).getLast?.or o.config

variable {front rest arguments : List String} {i : Nat} {word : String}

theorem roles_getElem? (arguments : List String) (i : Nat) :
    (roles arguments)[i]? = arguments[i]?.map (role arguments i) := List.getElem?_mapIdx

theorem role_eq_json_iff :
    role arguments i word = .json ↔ word = "--json" ∧ ¬ Awaits arguments i := by grind [role]

theorem role_eq_strict_iff :
    role arguments i word = .strict ↔ word = "--strict" ∧ ¬ Awaits arguments i := by grind [role]

theorem role_eq_config_iff :
    role arguments i word = .config ↔
      word = "--config" ∧ ¬ Awaits arguments i ∧ i + 1 < arguments.length := by grind [role]

theorem role_eq_path_iff {path : String} :
    role arguments i word = .path path ↔ word = path ∧ Awaits arguments i := by grind [role]

theorem role_eq_unknown_iff {unknown : String} :
    role arguments i word = .unknown unknown ↔ word = unknown ∧ ¬ Awaits arguments i ∧
      word ≠ "--json" ∧ word ≠ "--strict" ∧ word ≠ "--config" := by grind [role]

theorem awaits_append_left (within : i ≤ front.length) :
    Awaits (front ++ rest) i ↔ Awaits front i := by
  induction i with
  | zero => rfl
  | succ i ih =>
    rw [Awaits, Awaits, List.getElem?_append_left within, ih (Nat.le_of_succ_le within)]

/-- Behind arguments that await nothing, all starts anew. -/
theorem awaits_append_right (settled : ¬ Awaits front front.length) :
    Awaits (front ++ rest) (front.length + i) ↔ Awaits rest i := by
  induction i with
  | zero => exact iff_of_false (mt (awaits_append_left (Nat.le_refl _)).mp settled) id
  | succ i ih =>
    have here : (front ++ rest)[front.length + i]? = rest[i]? := by
      rw [List.getElem?_append_right (Nat.le_add_right _ _), Nat.add_sub_cancel_left]
    rw [← Nat.add_assoc, Awaits, Awaits, ih, here]

/-- What follows matters to the word for a configuration only, where it stands last. -/
theorem role_append_left (settled : ¬ Awaits front front.length) (here : front[i]? = some word) :
    role (front ++ rest) i word = role front i word := by
  have within : i < front.length := (List.getElem?_eq_some_iff.mp here).1
  simp only [role, awaits_append_left (Nat.le_of_lt within), List.length_append]
  by_cases config : word = "--config" ∧ ¬ Awaits front i
  · have more : i + 1 < front.length := by
      refine Nat.lt_of_le_of_ne within fun last => settled ?_
      rw [← last]
      exact ⟨config.1 ▸ here, config.2⟩
    rw [if_pos more, if_pos (Nat.lt_add_right _ more)]
  · grind

theorem role_append_right (settled : ¬ Awaits front front.length) :
    role (front ++ rest) (i + front.length) word = role rest i word := by
  have bound : i + front.length + 1 < (front ++ rest).length ↔ i + 1 < rest.length := by
    rw [List.length_append]
    omega
  rw [Nat.add_comm i] at bound ⊢
  simp only [role, awaits_append_right settled, bound]

theorem roles_append (settled : ¬ Awaits front front.length) :
    roles (front ++ rest) = roles front ++ roles rest := by
  rw [roles, List.mapIdx_append, roles, roles]
  congr 1
  · rw [List.mapIdx_eq_mapIdx_iff]
    intro i within
    exact role_append_left settled (List.getElem?_eq_getElem within)
  · rw [List.mapIdx_eq_mapIdx_iff]
    intro i _
    exact role_append_right settled

theorem roles_cons (other : word ≠ "--config") (rest : List String) :
    roles (word :: rest) = role [word] 0 word :: roles rest := by
  have settled : ¬ Awaits [word] 1 := fun awaits => other (Option.some.inj awaits.1)
  exact roles_append settled

/-- The word for a configuration goes with the argument behind it, whatever that is. -/
theorem roles_pair (path : String) (rest : List String) :
    roles ("--config" :: path :: rest) = .config :: .path path :: roles rest := by
  have settled : ¬ Awaits ["--config", path] 2 := fun awaits => awaits.2 ⟨rfl, id⟩
  exact roles_append settled

theorem gather_append (o : Options) (first second : List Role) :
    o.gather (first ++ second) = (o.gather first).gather second := by
  simp [gather, Bool.or_assoc, Option.or_assoc]

theorem readFrom_eq (o : Options) (arguments : List String) :
    readFrom o arguments =
      (o.gather (roles arguments), (roles arguments).filterMap Role.warning?) := by
  fun_induction readFrom o arguments with
  | case1 o => simp [roles, gather]
  | case2 o rest ih =>
    have json : role ["--json"] 0 "--json" = .json := role_eq_json_iff.mpr ⟨rfl, id⟩
    rw [ih, roles_cons (by decide), json]
    simp [gather, List.filterMap_cons, Role.path?, Role.warning?]
  | case3 o rest ih =>
    have strict : role ["--strict"] 0 "--strict" = .strict := role_eq_strict_iff.mpr ⟨rfl, id⟩
    rw [ih, roles_cons (by decide), strict]
    simp [gather, List.filterMap_cons, Role.path?, Role.warning?]
  | case4 o path rest ih =>
    rw [ih, roles_pair]
    simp [gather, List.filterMap_cons, List.getLast?_cons, Role.path?, Role.warning?]
  | case5 => simp [roles, role, Awaits, gather, Role.path?, Role.warning?]
  | case6 o word rest json strict path last o' warnings read ih =>
    have config : word ≠ "--config" := by
      intro same
      cases rest with
      | nil => exact last same rfl
      | cons value rest => exact path value rest same rfl
    have unknown : role [word] 0 word = .unknown word :=
      role_eq_unknown_iff.mpr ⟨rfl, id, json, strict, config⟩
    obtain ⟨rfl, rfl⟩ := Prod.mk.inj (read.symm.trans ih)
    rw [roles_cons config, unknown]
    simp [gather, List.filterMap_cons, Role.path?, Role.warning?]

/-- The role of a word is taken just when the word stands where no path is awaited. -/
theorem mem_roles_iff {r : Role} {w : String}
    (means : ∀ i word, role arguments i word = r ↔ word = w ∧ ¬ Awaits arguments i) :
    r ∈ roles arguments ↔ ∃ i, arguments[i]? = some w ∧ ¬ Awaits arguments i := by
  simp only [List.mem_iff_getElem?, roles_getElem?, Option.map_eq_some_iff, means]
  constructor
  · rintro ⟨i, word, here, rfl, free⟩
    exact ⟨i, here, free⟩
  · rintro ⟨i, here, free⟩
    exact ⟨i, w, here, rfl, free⟩

theorem config_iff_path (arguments : List String) (i : Nat) :
    (roles arguments)[i]? = some .config ↔
      ∃ path, (roles arguments)[i + 1]? = some (.path path) := by
  simp only [roles_getElem?, Option.map_eq_some_iff, role_eq_config_iff, role_eq_path_iff]
  constructor
  · rintro ⟨word, here, rfl, free, more⟩
    exact ⟨_, _, List.getElem?_eq_getElem more, rfl, here, free⟩
  · rintro ⟨path, word, next, rfl, here, free⟩
    exact ⟨_, here, rfl, free, (List.getElem?_eq_some_iff.mp next).1⟩

/-- The arguments that are awaited as paths, in their order. -/
def paths (arguments : List String) : List String := (roles arguments).filterMap Role.path?

/-- What is read from arguments, each of which has its role. -/
structure Accounts (arguments : List String) (o : Options) (warnings : List OptionWarning) :
    Prop where
  json : o.json = true ↔ ∃ i, arguments[i]? = some "--json" ∧ ¬ Awaits arguments i
  strict : o.strict = true ↔ ∃ i, arguments[i]? = some "--strict" ∧ ¬ Awaits arguments i
  config : o.config = (paths arguments).getLast?
  /-- The word for a configuration stands right before its path. -/
  paired : ∀ i, (roles arguments)[i]? = some .config ↔
    ∃ path, (roles arguments)[i + 1]? = some (.path path)
  /-- One warning for each argument that is of no use. -/
  warnings : warnings = (roles arguments).filterMap Role.warning?

theorem read_eq (arguments : List String) :
    read arguments = (gather {} (roles arguments), (roles arguments).filterMap Role.warning?) :=
  readFrom_eq {} arguments

/-- Every argument counts once, in its role. Arguments in which no path is awaited any more can
be read apart from those that follow; the later path counts. -/
theorem read_accounts (arguments : List String) :
    Accounts arguments (read arguments).1 (read arguments).2 ∧
    ∀ more, ¬ Awaits arguments arguments.length →
      read (arguments ++ more) =
        ({ json := (read arguments).1.json || (read more).1.json
           strict := (read arguments).1.strict || (read more).1.strict
           config := (read more).1.config.or (read arguments).1.config },
          (read arguments).2 ++ (read more).2) := by
  constructor
  · rw [read_eq]
    constructor
    case json =>
      rw [← mem_roles_iff fun i word => role_eq_json_iff]
      simp [gather]
    case strict =>
      rw [← mem_roles_iff fun i word => role_eq_strict_iff]
      simp [gather]
    case config => exact Option.or_none
    case paired => exact config_iff_path arguments
    case warnings => rfl
  · intro more settled
    simp only [read_eq, roles_append settled, gather_append, List.filterMap_append]
    simp [gather]

/-- The word for a configuration and a flag both stand for paths here, and behind the arguments
that follow there is no path. -/
theorem read_accounts_of_words :
    let arguments := ["--config", "--config", "--json", "--config", "--strict"]
    let more := ["--verbose", "--config"]
    ¬ Awaits arguments arguments.length ∧
      read (arguments ++ more) =
        (⟨true, false, some "--strict"⟩, [.unknown "--verbose", .missingConfigPath]) := by
  intro arguments more
  have settled : ¬ Awaits arguments arguments.length := by decide
  exact ⟨settled, (read_accounts arguments).2 more settled⟩

end ScriptScan.Options
