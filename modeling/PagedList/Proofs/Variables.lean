import PagedList.Proofs.Layers

/-! Settings in variables: the last variable with the name of a setting gives it. -/
namespace PagedList
namespace Settings

/-! ### The tables that lead to a setting -/

namespace Tree

theorem get?_nest (key key' : String) (names : List String) (t : Tree) :
    (nest (key' :: names) t).get? key = if key' = key then some (nest names t) else none :=
  lookup_cons_eq_ite ..

/-- Where neither of two paths leads on to the end of the other, the tables on the way to a setting hold
nothing at the other path. -/
theorem at?_nest {path names : List String} (h : path <+: names ∨ names <+: path → names = path)
    (t : Tree) : (nest names t).at? path = if names = path then some t else none := by
  induction names generalizing path with
  | nil =>
    obtain rfl : [] = path := h (.inr List.nil_prefix)
    rfl
  | cons key' names ih =>
    cases path with
    | nil => cases h (.inl List.nil_prefix)
    | cons key path =>
      rw [at?, get?_nest]
      by_cases hkey : key' = key
      · subst hkey
        simp only [List.cons_prefix_cons, true_and, List.cons.injEq] at h
        simpa using ih h
      · simp [hkey]

theorem isClear_nest {path names : List String} (h : path <+: names ∨ names <+: path → names = path)
    (value : Scalar) (origin : Option Origin) :
    (nest names (.leaf value origin)).isClear path = true := by
  induction names generalizing path with
  | nil =>
    obtain rfl : [] = path := h (.inr List.nil_prefix)
    rfl
  | cons key' names ih =>
    cases path with
    | nil => cases h (.inl List.nil_prefix)
    | cons key path =>
      have hlookup := get?_nest key key' names (.leaf value origin)
      rw [get?, nest, entries] at hlookup
      rw [nest, isClear, hlookup]
      by_cases hkey : key' = key
      · subst hkey
        simp only [List.cons_prefix_cons, true_and, List.cons.injEq] at h
        simpa using ih h
      · simp [hkey]

end Tree

/-! ### The names of variables -/

def settingPaths : List (List String) :=
  [["list", "limit"], ["list", "debounce_ms"], ["list", "init_immediately"], ["fixture"],
    ["_data_dir"], ["_config_dir"]]

def variableName (path : List String) : String := variableStart ++ "__".intercalate path

/-- No setting stands on the way to another. -/
theorem eq_of_isPrefix : ∀ path ∈ settingPaths, ∀ path' ∈ settingPaths,
    path <+: path' ∨ path' <+: path → path' = path := by
  decide

theorem variableName_inj : ∀ path ∈ settingPaths, ∀ path' ∈ settingPaths,
    variableName path' = variableName path → path' = path := by
  decide

theorem settingName?_of_lowercase {name : String} {path : List String} (hpath : path ∈ settingPaths)
    (h : Text.lowercase name = variableName path) :
    settingName? name = some (".".intercalate path) := by
  have hnames : ∀ path ∈ settingPaths,
      (variableStart.toList.isPrefixOf? (variableName path).toList).map
        (fun rest => String.ofList (pointed rest)) = some (".".intercalate path) := by decide
  rw [settingName?, h]
  exact hnames path hpath

theorem ofNamed?_intercalate {path : List String} (hpath : path ∈ settingPaths) (t : Tree) :
    Tree.ofNamed? (".".intercalate path, t) = some (.nest path t) := by
  have hpaths : ∀ path ∈ settingPaths,
      (fun p => (Step.names? p.steps).map (p.root :: ·)) (KeyPath.ofName (".".intercalate path)) =
        some path := by decide
  have hnest := congrArg (Option.map fun names => Tree.nest names t) (hpaths path hpath)
  rwa [Option.map_map] at hnest

/-! ### What variables give -/

/-- A variable has the name of a setting, or has nothing to do with the tables they are in. -/
def IsPlain (v : String × String) : Prop :=
  (∃ path ∈ settingPaths, Text.lowercase v.1 = variableName path) ∨
    ∀ key, settingName? v.1 = some key →
      ∀ path ∈ settingPaths, path.head? ≠ some (KeyPath.ofName key).root

/-- What the last variable with the name of a setting gives. -/
def lastVariable? (path : List String) (vars : List (String × String)) : Option Tree :=
  (vars.filterMap fun v =>
    if Text.lowercase v.1 = variableName path then some (Tree.text v.2 (some .environment))
    else none).getLast?

theorem ne_nil_of_mem_settingPaths : ∀ path ∈ settingPaths, path ≠ [] := by decide

theorem said?_variable {v : String × String} (hv : IsPlain v) {path : List String}
    (hpath : path ∈ settingPaths) :
    ((settingName? v.1).map fun key => (key, Tree.text v.2 (some .environment))).bind (said? path) =
      if Text.lowercase v.1 = variableName path then some (Tree.text v.2 (some .environment))
      else none := by
  obtain ⟨path', hpath', hname⟩ | hother := hv
  · rw [settingName?_of_lowercase hpath' hname, Option.map_some, Option.bind_some, said?,
      ofNamed?_intercalate hpath', Option.bind_some,
      Tree.at?_nest (eq_of_isPrefix path hpath path' hpath'), hname]
    have hiff : path' = path ↔ variableName path' = variableName path :=
      ⟨congrArg _, variableName_inj path hpath path' hpath'⟩
    simp only [hiff]
  · have hne : Text.lowercase v.1 ≠ variableName path := by
      intro hname
      have hroot : ∀ path ∈ settingPaths,
          path.head? = some (KeyPath.ofName (".".intercalate path)).root := by decide
      exact hother _ (settingName?_of_lowercase hpath hname) path hpath (hroot path hpath)
    rw [if_neg hne]
    cases hkey : settingName? v.1 with
    | none => rfl
    | some key =>
      exact said?_of_head?_ne (ne_nil_of_mem_settingPaths path hpath) (hother key hkey path hpath)

theorem Source.value?_ofVariables {vars : List (String × String)} (h : ∀ v ∈ vars, IsPlain v)
    {path : List String} (hpath : path ∈ settingPaths) :
    (Source.ofVariables vars).value? path = lastVariable? path vars := by
  rw [Source.value?, Source.ofVariables, List.filterMap_filterMap, lastVariable?]
  exact congrArg List.getLast? (List.filterMap_congr fun v hv => said?_variable (h v hv) hpath)

theorem leavesClear_variable {v : String × String} (hv : IsPlain v) {key : String}
    (hkey : settingName? v.1 = some key) {path : List String} (hpath : path ∈ settingPaths) :
    leavesClear path (key, Tree.text v.2 (some .environment)) = true := by
  obtain ⟨path', hpath', hname⟩ | hother := hv
  · obtain rfl : ".".intercalate path' = key :=
      Option.some.inj ((settingName?_of_lowercase hpath' hname).symm.trans hkey)
    rw [leavesClear, ofNamed?_intercalate hpath', Option.any_some, Tree.text,
      Tree.isClear_nest (eq_of_isPrefix path hpath path' hpath'), Bool.or_true]
  · rw [leavesClear, bne_iff_ne.2 (hother key hkey path hpath), Bool.true_or]

theorem Source.leavesClear_ofVariables {vars : List (String × String)} (h : ∀ v ∈ vars, IsPlain v)
    {path : List String} (hpath : path ∈ settingPaths) :
    (Source.ofVariables vars).leavesClear path = true := by
  refine List.all_eq_true.2 fun e he => ?_
  obtain ⟨v, hv, hsetting⟩ := List.mem_filterMap.1 he
  obtain ⟨key, hkey, rfl⟩ := Option.map_eq_some_iff.1 hsetting
  exact leavesClear_variable (h v hv) hkey hpath

end Settings
end PagedList
