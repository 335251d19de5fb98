import Mathlib
import PagedList.Proofs.Variables

/-! The settings that sources give one after the other. For each setting the last source that speaks of
it counts, and what the sources say of other settings has no part in that. -/
namespace PagedList
namespace Settings

/-! ### Readings of what may be absent -/

section

variable {α β γ δ : Type} {read : β → Except Error δ}

theorem mapM_or {x x' : Option β} {y y' : Option δ} (h : x.mapM read = .ok y)
    (h' : x'.mapM read = .ok y') : (x.or x').mapM read = .ok (y.or y') := by
  cases x with
  | none =>
    obtain rfl : none = y := Except.ok.inj h
    exact h'
  | some t =>
    rw [Option.mapM_some] at h
    cases hread : read t with
    | error e => simp [hread] at h
    | ok d =>
      obtain rfl : some d = y := by simpa [hread] using h
      rw [Option.some_or, Option.mapM_some, hread]
      rfl

theorem exists_of_mapM_eq_some {x : Option β} {d : δ} (h : x.mapM read = .ok (some d)) :
    ∃ t, x = some t := by
  cases x with
  | none => cases h
  | some t => exact ⟨t, rfl⟩

theorem mapM_getLast?_filterMap {f : α → Option β} {g : γ → Option δ} {as : List α} {cs : List γ}
    (h : List.Forall₂ (fun a c => (f a).mapM read = .ok (g c)) as cs) :
    ((as.filterMap f).getLast?).mapM read = .ok ((cs.filterMap g).getLast?) := by
  induction h with
  | nil => rfl
  | cons hhead _ ih =>
    rw [getLast?_filterMap_cons, getLast?_filterMap_cons]
    exact mapM_or ih hhead

end

/-! ### What one source gives -/

/-- Values for settings, each of which may be left out. -/
structure Given where
  limit : Option Nat
  debounceMs : Option Nat
  initImmediately : Option Bool
  /-- The file with the records, which may also be given as none. -/
  fixture : Option (Option String)
  dataDir : Option String
  configDir : Option String

namespace Given

def nothing : Given := ⟨none, none, none, none, none, none⟩

def builtIn (configDir dataDir : String) : Given :=
  ⟨some 10, some 300, some false, none, some dataDir, some configDir⟩

end Given

namespace Source

/-- A source has a value of the right type at a path, or none, and no obstacles on the way. -/
def Gives {α : Type} (source : Source) (path : List String) (read : Tree → Except Error α)
    (value : Option α) : Prop :=
  source.leavesClear path = true ∧ (source.value? path).mapM read = .ok value

/-- A source gives these values, and leaves the other settings alone. -/
structure Says (source : Source) (g : Given) : Prop where
  limit : source.Gives ["list", "limit"] (Tree.count "list.limit") g.limit
  debounceMs : source.Gives ["list", "debounce_ms"] (Tree.count "list.debounce_ms") g.debounceMs
  initImmediately :
    source.Gives ["list", "init_immediately"] (Tree.flag "list.init_immediately") g.initImmediately
  fixture : source.Gives ["fixture"] (Tree.text? "fixture") g.fixture
  dataDir : source.Gives ["_data_dir"] Tree.path g.dataDir
  configDir : source.Gives ["_config_dir"] Tree.path g.configDir

theorem Says.nothing : Says [] Given.nothing := by
  constructor <;> exact ⟨rfl, rfl⟩

theorem Says.builtIn (configDir dataDir : String) :
    (Source.builtIn configDir dataDir).Says (Given.builtIn configDir dataDir) := by
  have hlist : KeyPath.ofName "list" = ⟨"list", []⟩ := by decide
  have hdata : KeyPath.ofName "_data_dir" = ⟨"_data_dir", []⟩ := by decide
  have hconfig : KeyPath.ofName "_config_dir" = ⟨"_config_dir", []⟩ := by decide
  constructor <;>
    simp [Gives, Source.builtIn, leavesClear, value?, Settings.leavesClear, said?, Tree.ofNamed?,
      Tree.nest, Step.names?, hlist, hdata, hconfig, Tree.at?, Tree.isClear, Tree.get?, Tree.entries,
      List.lookup]
  case dataDir => exact ⟨rfl, rfl⟩
  case configDir => exact ⟨rfl, rfl⟩
  all_goals rfl

theorem Says.ofFolder_of_absent {root : FileTree} {here : List String} {folder : String} {f : Format}
    (h : firstFile? root here folder f.fileNames = none) :
    ∃ source, ofFolder root here folder f = .ok source ∧ source.Says Given.nothing :=
  ⟨[], by rw [ofFolder, h], Says.nothing⟩

theorem gives_ofVariables {vars : List (String × String)} (h : ∀ v ∈ vars, IsPlain v)
    {path : List String} (hpath : path ∈ settingPaths) {α : Type} {read : Tree → Except Error α}
    {value : Option α} (hlast : (lastVariable? path vars).mapM read = .ok value) :
    (Source.ofVariables vars).Gives path read value :=
  ⟨leavesClear_ofVariables h hpath, (value?_ofVariables h hpath).symm ▸ hlast⟩

theorem Says.ofVariables {vars : List (String × String)} (h : ∀ v ∈ vars, IsPlain v) {g : Given}
    (hlimit : (lastVariable? ["list", "limit"] vars).mapM (Tree.count "list.limit") = .ok g.limit)
    (hdebounce : (lastVariable? ["list", "debounce_ms"] vars).mapM (Tree.count "list.debounce_ms") =
      .ok g.debounceMs)
    (hinit : (lastVariable? ["list", "init_immediately"] vars).mapM
      (Tree.flag "list.init_immediately") = .ok g.initImmediately)
    (hfixture : (lastVariable? ["fixture"] vars).mapM (Tree.text? "fixture") = .ok g.fixture)
    (hdata : (lastVariable? ["_data_dir"] vars).mapM Tree.path = .ok g.dataDir)
    (hconfig : (lastVariable? ["_config_dir"] vars).mapM Tree.path = .ok g.configDir) :
    (Source.ofVariables vars).Says g where
  limit := gives_ofVariables h (by decide) hlimit
  debounceMs := gives_ofVariables h (by decide) hdebounce
  initImmediately := gives_ofVariables h (by decide) hinit
  fixture := gives_ofVariables h (by decide) hfixture
  dataDir := gives_ofVariables h (by decide) hdata
  configDir := gives_ofVariables h (by decide) hconfig

end Source

/-- Of several sources the last that has a value at a path counts, whatever they have elsewhere. -/
theorem mapM_at?_ofSources {α γ : Type} {path : List String} (hpath : path ≠ [])
    {read : Tree → Except Error α} {value : γ → Option α} {sources : List Source} {given : List γ}
    (h : List.Forall₂ (fun source g => source.Gives path read (value g)) sources given) :
    ((Tree.ofSources sources).at? path).mapM read = .ok ((given.filterMap value).getLast?) := by
  obtain ⟨hclear, hvalues⟩ := (List.forall₂_and_left sources given).1 h
  rw [Tree.at?_ofSources hpath hclear]
  exact mapM_getLast?_filterMap hvalues

/-! ### What the settings of a tree are -/

theorem Tree.at?_single (key : String) (t : Tree) : t.at? [key] = t.get? key :=
  Option.bind_fun_some _

/-- The settings of the list are read from a table, for nothing else has keys. -/
theorem Tree.listSettings_eq {t : Tree} {limit debounceMs : Nat} {init : Bool}
    (hlimit : (t.get? "limit").mapM (count "list.limit") = .ok (some limit))
    (hdebounce : (t.get? "debounce_ms").mapM (count "list.debounce_ms") = .ok (some debounceMs))
    (hinit : (t.get? "init_immediately").mapM (flag "list.init_immediately") = .ok (some init)) :
    t.listSettings = .ok ⟨limit, debounceMs, init⟩ := by
  cases t with
  | table entries origin =>
    simp only [listSettings, hlimit, hdebounce, hinit]
    rfl
  | leaf => cases hlimit
  | list => cases hlimit

/-- A tree is decoded by what stands at six paths, if there is something at all but that of the file
with the records. -/
theorem decode_eq {t : Tree} {limit debounceMs : Nat} {init : Bool} {fixture : Option (Option String)}
    {dataDir configDir : String}
    (hlimit : (t.at? ["list", "limit"]).mapM (Tree.count "list.limit") = .ok (some limit))
    (hdebounce : (t.at? ["list", "debounce_ms"]).mapM (Tree.count "list.debounce_ms") =
      .ok (some debounceMs))
    (hinit : (t.at? ["list", "init_immediately"]).mapM (Tree.flag "list.init_immediately") =
      .ok (some init))
    (hfixture : (t.at? ["fixture"]).mapM (Tree.text? "fixture") = .ok fixture)
    (hdata : (t.at? ["_data_dir"]).mapM Tree.path = .ok (some dataDir))
    (hconfig : (t.at? ["_config_dir"]).mapM Tree.path = .ok (some configDir)) :
    decode t = if limit = 0 then .error .zeroLimit
      else .ok ⟨⟨limit, debounceMs, init⟩, fixture.join, dataDir, configDir⟩ := by
  obtain ⟨list, hlist⟩ : ∃ list, t.get? "list" = some list := by
    obtain ⟨_, hthere⟩ := exists_of_mapM_eq_some hlimit
    obtain ⟨list, hlist, -⟩ := Option.bind_eq_some_iff.1 hthere
    exact ⟨list, hlist⟩
  have hkey : ∀ key, t.at? ["list", key] = list.get? key := by
    intro key
    rw [Tree.at?, hlist]
    exact Tree.at?_single key list
  rw [hkey] at hlimit hdebounce hinit
  rw [Tree.at?_single] at hfixture hdata hconfig
  have hsettings := Tree.listSettings_eq hlimit hdebounce hinit
  simp only [decode, hfixture, hlist, hdata, hconfig, Option.mapM_some, hsettings]
  rfl

/-! ### The last source counts -/

/-- Settings with the last of the given values for each. -/
structure LastOf (given : List Given) (s : Settings) : Prop where
  limit : (given.filterMap (·.limit)).getLast? = some s.list.limit
  debounceMs : (given.filterMap (·.debounceMs)).getLast? = some s.list.debounceMs
  initImmediately : (given.filterMap (·.initImmediately)).getLast? = some s.list.initImmediately
  fixture : (given.filterMap (·.fixture)).getLast?.join = s.fixture
  dataDir : (given.filterMap (·.dataDir)).getLast? = some s.dataDir
  configDir : (given.filterMap (·.configDir)).getLast? = some s.configDir

/-- What the first source gives is there in the end, as itself or as something later. -/
theorem exists_last {α : Type} {path : List String} (hpath : path ≠ [])
    {read : Tree → Except Error α} {value : Given → Option α} {sources : List Source}
    {first : Given} {given : List Given} (hfirst : (value first).isSome)
    (h : List.Forall₂ (fun source g => source.Gives path read (value g)) sources (first :: given)) :
    ∃ a, ((first :: given).filterMap value).getLast? = some a ∧
      ((Tree.ofSources sources).at? path).mapM read = .ok (some a) := by
  have hlast : (((first :: given).filterMap value).getLast?).isSome := by
    rw [getLast?_filterMap_cons, Option.isSome_or, hfirst, Bool.or_true]
  obtain ⟨a, ha⟩ := Option.isSome_iff_exists.1 hlast
  exact ⟨a, ha, ha ▸ mapM_at?_ofSources hpath h⟩

theorem decode_ofSources {configDir dataDir : String} {sources : List Source} {given : List Given}
    (h : List.Forall₂ Source.Says sources given) :
    ∃ s : Settings, LastOf (Given.builtIn configDir dataDir :: given) s ∧
      decode (Tree.ofSources (Source.builtIn configDir dataDir :: sources)) =
        if s.list.limit = 0 then .error .zeroLimit else .ok s := by
  have hall : List.Forall₂ Source.Says (Source.builtIn configDir dataDir :: sources)
      (Given.builtIn configDir dataDir :: given) := .cons (Source.Says.builtIn ..) h
  obtain ⟨limit, hlimit, hlimitAt⟩ :=
    exists_last (by simp) rfl (hall.imp fun _ _ hs => hs.limit)
  obtain ⟨debounceMs, hdebounce, hdebounceAt⟩ :=
    exists_last (by simp) rfl (hall.imp fun _ _ hs => hs.debounceMs)
  obtain ⟨init, hinit, hinitAt⟩ :=
    exists_last (by simp) rfl (hall.imp fun _ _ hs => hs.initImmediately)
  obtain ⟨data, hdata, hdataAt⟩ :=
    exists_last (by simp) rfl (hall.imp fun _ _ hs => hs.dataDir)
  obtain ⟨config, hconfig, hconfigAt⟩ :=
    exists_last (by simp) rfl (hall.imp fun _ _ hs => hs.configDir)
  have hfixtureAt := mapM_at?_ofSources (by simp) (hall.imp fun _ _ hs => hs.fixture)
  exact ⟨⟨⟨limit, debounceMs, init⟩, _, data, config⟩,
    ⟨hlimit, hdebounce, hinit, rfl, hdata, hconfig⟩,
    decode_eq hlimitAt hdebounceAt hinitAt hfixtureAt hdataAt hconfigAt⟩

/-- Settings are loaded from what is built in, the files of all formats and the variables, and each is
as the last of them that gives it says. They are refused just if the page size that counts is zero. -/
theorem last_source_counts (root : FileTree) (here : List String) (configDir dataDir : String)
    (vars : List (String × String)) (files : Format → Given) (env : Given)
    (hfiles : ∀ f, ∃ source, Source.ofFolder root here configDir f = .ok source ∧
      source.Says (files f))
    (henv : (Source.ofVariables vars).Says env) :
    ∃ s : Settings,
      LastOf (Given.builtIn configDir dataDir :: Format.all.map files ++ [env]) s ∧
      load root here configDir dataDir vars =
        if s.list.limit = 0 then .error .zeroLimit else .ok s := by
  -- Every file is read, so their sources can be named before they are laid over each other.
  choose sources hread hgiven using hfiles
  have hall : Source.ofFolder root here configDir = fun f => pure (sources f) := funext hread
  have hlaid : List.Forall₂ Source.Says (Format.all.map sources ++ [Source.ofVariables vars])
      (Format.all.map files ++ [env]) := by
    refine List.rel_append ?_ (.cons henv .nil)
    rw [List.forall₂_map_left_iff, List.forall₂_map_right_iff, List.forall₂_same]
    exact fun f _ => hgiven f
  rw [load, hall, List.mapM_pure]
  exact decode_ofSources hlaid

/-- Two files with settings. The page size of the first alone would be refused. -/
def twoFiles : FileTree :=
  .folder [("settings", .folder [
    ("config.toml", .file "[list]\nlimit = 0\ndebounce_ms = 50\n".toUTF8),
    ("config.ini", .file "[list]\nlimit = 20\n".toUTF8)])]

def givenByFiles : Format → Given
  | .toml => { Given.nothing with limit := some 0, debounceMs := some 50 }
  | .ini => { Given.nothing with limit := some 20 }
  | _ => Given.nothing

def twoVariables : List (String × String) :=
  [("LISTKEEPER_FIXTURE", "games.json"), ("LISTKEEPER_LIST__INIT_IMMEDIATELY", "yes")]

theorem firstFile?_twoFiles :
    Format.all.map (fun f => firstFile? twoFiles [] "settings" f.fileNames) =
    [none, none, none, some ("config.toml", "[list]\nlimit = 0\ndebounce_ms = 50\n".toUTF8),
      some ("config.ini", "[list]\nlimit = 20\n".toUTF8)] := by
  simp only [Format.all, List.map, Format.fileNames, Format.endings, firstFile?, FileTree.read,
    FileTree.locate, String.contains_char_eq]
  decide +kernel

theorem twoFiles_say (f : Format) : ∃ source,
    Source.ofFolder twoFiles [] "settings" f = .ok source ∧ source.Says (givenByFiles f) := by
  have hfiles := firstFile?_twoFiles
  simp only [Format.all, List.map, List.cons.injEq, and_true] at hfiles
  obtain ⟨hjson5, hjson, hyaml, htoml, hini⟩ := hfiles
  cases f with
  | json5 => exact Source.Says.ofFolder_of_absent hjson5
  | json => exact Source.Says.ofFolder_of_absent hjson
  | yaml => exact Source.Says.ofFolder_of_absent hyaml
  | toml =>
    have htext : Text.decodeLossy "[list]\nlimit = 0\ndebounce_ms = 50\n".toUTF8 =
        "[list]\nlimit = 0\ndebounce_ms = 50\n" := by
      decide +kernel
    refine ⟨[("list", .table [
        ("debounce_ms", .leaf (.number (.integer 50)) (some (.file "config.toml"))),
        ("limit", .leaf (.number (.integer 0)) (some (.file "config.toml")))]
      (some (.file "config.toml")))], ?_, ?_⟩
    · simp only [Source.ofFolder, htoml, Source.ofBytes, htext]
      cbv
    · constructor <;> exact ⟨rfl, rfl⟩
  | ini =>
    have htext : Text.decodeLossy "[list]\nlimit = 20\n".toUTF8 = "[list]\nlimit = 20\n" := by
      decide +kernel
    refine ⟨[("list", .table [("limit", .text "20" (some (.file "config.ini")))]
      (some (.file "config.ini")))], ?_, ?_⟩
    · simp only [Source.ofFolder, hini, Source.ofBytes, htext]
      cbv
    · constructor <;> exact ⟨rfl, rfl⟩

theorem twoVariables_say : (Source.ofVariables twoVariables).Says
    { Given.nothing with initImmediately := some true, fixture := some (some "games.json") } := by
  have hfixture : Text.lowercase "LISTKEEPER_FIXTURE" = variableName ["fixture"] := by cbv
  have hinit : Text.lowercase "LISTKEEPER_LIST__INIT_IMMEDIATELY" =
    variableName ["list", "init_immediately"] := by cbv
  refine .ofVariables ?_ ?_ ?_ ?_ ?_ ?_ ?_
  · simp only [twoVariables, List.forall_mem_cons]
    exact ⟨.inl ⟨_, by decide, hfixture⟩, .inl ⟨_, by decide, hinit⟩, nofun⟩
  all_goals
    simp only [lastVariable?, twoVariables, List.filterMap, hfixture, hinit]
    rfl

theorem load_twoFiles : load twoFiles [] "settings" "data" twoVariables =
    .ok ⟨⟨20, 50, true⟩, some "games.json", "data", "settings"⟩ := by
  obtain ⟨s, hlast, hload⟩ := last_source_counts twoFiles [] "settings" "data" twoVariables
    givenByFiles _ twoFiles_say twoVariables_say
  obtain ⟨⟨limit, debounceMs, init⟩, fixture, dataDir, configDir⟩ := s
  obtain ⟨hlimit, hdebounce, hinit, hfixture, hdata, hconfig⟩ := hlast
  obtain rfl : 20 = limit := Option.some.inj hlimit
  obtain rfl : 50 = debounceMs := Option.some.inj hdebounce
  obtain rfl : true = init := Option.some.inj hinit
  obtain rfl : some "games.json" = fixture := hfixture
  obtain rfl : "data" = dataDir := Option.some.inj hdata
  obtain rfl : "settings" = configDir := Option.some.inj hconfig
  exact hload

end Settings
end PagedList
