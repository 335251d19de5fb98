import Mathlib.Data.List.Basic
import PagedList.Settings.Sources

/-! Settings laid over each other, by what stands at the end of a path of keys. Where nothing but tables
leads there, the last source that has something at a path counts, whatever the sources have at other
paths. -/
namespace PagedList
namespace Settings

theorem getLast?_filterMap_cons {α β : Type} (f : α → Option β) (a : α) (l : List α) :
    ((a :: l).filterMap f).getLast? = ((l.filterMap f).getLast?).or (f a) := by
  cases h : f a with
  | none => simp [h]
  | some b => cases hl : (l.filterMap f).getLast? <;> simp [h, hl, List.getLast?_cons]

namespace Tree

/-- What stands at the end of a path of keys. -/
def at? : List String → Tree → Option Tree
  | [], t => some t
  | key :: path, t => (t.get? key).bind (at? path)

/-- Whether nothing but tables without repeated keys leads along a path as far as there is something,
and what stands at its end holds no others. -/
def isClear : List String → Tree → Bool
  | [], .leaf .. => true
  | key :: path, .table entries _ =>
    decide (entries.map (·.1)).Nodup && ((entries.lookup key).all (isClear path))
  | _, _ => false

def nest : List String → Tree → Tree
  | [], t => t
  | key :: path, t => .table [(key, nest path t)] none

theorem lookup_cons_eq_ite (e : String × Tree) (entries : List (String × Tree)) (key : String) :
    (e :: entries).lookup key = if e.1 = key then some e.2 else entries.lookup key := by
  by_cases h : e.1 = key
  · subst h
    rw [if_pos rfl]
    exact List.lookup_cons_self
  · rw [if_neg h, List.lookup_cons, beq_eq_false_iff_ne.2 (Ne.symm h)]

theorem lookup_eq_none_of_notMem {entries : List (String × Tree)} {key : String}
    (h : key ∉ entries.map (·.1)) : entries.lookup key = none := by
  refine List.lookup_eq_none_iff.2 fun e he => bne_iff_ne.2 ?_
  rintro rfl
  exact h (List.mem_map_of_mem he)

theorem lookup_alterEntry (key key' : String) (f : Tree → Tree) (entries : List (String × Tree)) :
    (alterEntry key f entries).lookup key' =
      if key = key' then some (f ((entries.lookup key').getD null)) else entries.lookup key' := by
  induction entries with
  | nil => exact lookup_cons_eq_ite ..
  | cons e entries ih =>
    rw [alterEntry]
    by_cases hk : e.1 = key
    · rw [if_pos hk, lookup_cons_eq_ite, lookup_cons_eq_ite, hk]
      by_cases hkey : key = key' <;> simp [hkey]
    · rw [if_neg hk, lookup_cons_eq_ite, lookup_cons_eq_ite, ih]
      by_cases hkey : e.1 = key'
      · have hne : key ≠ key' := fun h => hk (hkey.trans h.symm)
        simp [hkey, hne]
      · simp [hkey]

theorem lookup_overlayEntries {entries : List (String × Tree)} (h : (entries.map (·.1)).Nodup)
    (base : List (String × Tree)) (key : String) :
    (overlayEntries entries base).lookup key =
      ((entries.lookup key).map fun t => overlay t ((base.lookup key).getD null)).or
        (base.lookup key) := by
  induction entries generalizing base with
  | nil =>
    rw [overlayEntries]
    rfl
  | cons e entries ih =>
    obtain ⟨hk, hrest⟩ := List.nodup_cons.1 h
    rw [overlayEntries, ih hrest, lookup_alterEntry, lookup_cons_eq_ite]
    by_cases hkey : e.1 = key
    · have hgone : entries.lookup key = none := lookup_eq_none_of_notMem (hkey ▸ hk)
      rw [if_pos hkey, if_pos hkey, hgone]
      rfl
    · rw [if_neg hkey, if_neg hkey]

theorem at?_or_null (t : Tree) (path : List String) :
    (t.at? path).or (null.at? path) = t.at? path := by
  cases path with
  | nil => rfl
  | cons key path => exact Option.or_none

/-- What is laid over counts at a path, and where it has nothing what was there stays. -/
theorem at?_overlay {path : List String} {t : Tree} (h : t.isClear path = true) (base : Tree) :
    (overlay t base).at? path = (t.at? path).or (base.at? path) := by
  induction path generalizing t base with
  | nil =>
    obtain ⟨value, origin, rfl⟩ : ∃ value origin, t = .leaf value origin := by
      cases t <;> simp_all [isClear]
    rfl
  | cons key path ih =>
    obtain ⟨entries, origin, rfl⟩ : ∃ entries origin, t = .table entries origin := by
      cases t <;> simp_all [isClear]
    obtain ⟨hnodup, hclear⟩ : (entries.map (·.1)).Nodup ∧
        (entries.lookup key).all (isClear path) = true := by simpa [isClear] using h
    have hlookup : (overlay (.table entries origin) base).get? key =
        ((entries.lookup key).map fun t => overlay t ((base.get? key).getD null)).or
          (base.get? key) := by
      rw [overlay]
      exact lookup_overlayEntries hnodup base.entries key
    rw [at?, at?, at?, hlookup]
    show _ = ((entries.lookup key).bind (at? path)).or _
    cases hentry : entries.lookup key with
    | none => rfl
    | some t =>
      rw [hentry] at hclear
      have hlaid := ih (show t.isClear path = true from hclear) ((base.get? key).getD null)
      show (overlay t ((base.get? key).getD null)).at? path = _
      rw [hlaid]
      cases base.get? key with
      | some t' => rfl
      | none => exact (at?_or_null t path).trans Option.or_none.symm

/-- Laying a setting at the end of a path is laying the tables that lead to it. -/
theorem alter_overlay_eq (t : Tree) (names : List String) (base : Tree) :
    alter (overlay t) (names.map Step.key) base = overlay (nest names t) base := by
  induction names generalizing base with
  | nil => rfl
  | cons key names ih =>
    have hrest : alter (overlay t) (names.map Step.key) = overlay (nest names t) := funext ih
    rw [List.map_cons, alter, hrest]
    rfl

end Tree

/-! ### Named settings -/

/-- The names of some steps, if none of them leads into a list. -/
def Step.names? : List Step → Option (List String)
  | [] => some []
  | .key name :: steps => (names? steps).map (name :: ·)
  | .index _ :: _ => none

theorem Step.eq_map_of_names? {steps : List Step} {names : List String}
    (h : names? steps = some names) : steps = names.map Step.key := by
  induction steps generalizing names with
  | nil =>
    cases h
    rfl
  | cons step steps ih =>
    cases step with
    | index i => cases h
    | key name =>
      obtain ⟨rest, hrest, rfl⟩ := Option.map_eq_some_iff.1 h
      rw [List.map_cons, ih hrest]

/-- A named setting with the tables that lead to it, if no list does. -/
def Tree.ofNamed? (e : String × Tree) : Option Tree :=
  let path := KeyPath.ofName e.1
  (Step.names? path.steps).map fun names => .nest (path.root :: names) e.2

/-- What a named setting has at a path. -/
def said? (path : List String) (e : String × Tree) : Option Tree :=
  (Tree.ofNamed? e).bind (Tree.at? path)

/-- Whether a named setting is no obstacle on a path: it belongs elsewhere, or it only has tables on the
way. -/
def leavesClear (path : List String) (e : String × Tree) : Bool :=
  path.head? != some (KeyPath.ofName e.1).root || (Tree.ofNamed? e).any (·.isClear path)

theorem said?_of_head?_ne {path : List String} {e : String × Tree} (hpath : path ≠ [])
    (h : path.head? ≠ some (KeyPath.ofName e.1).root) : said? path e = none := by
  obtain ⟨key, path, rfl⟩ := List.exists_cons_of_ne_nil hpath
  have hkey : (KeyPath.ofName e.1).root ≠ key := fun hkey => h (congrArg some hkey.symm)
  rw [said?, Tree.ofNamed?]
  cases Step.names? (KeyPath.ofName e.1).steps with
  | none => rfl
  | some names =>
    have hnone : (Tree.nest ((KeyPath.ofName e.1).root :: names) e.2).get? key = none := by
      show List.lookup key [_] = none
      rw [Tree.lookup_cons_eq_ite, if_neg hkey]
      rfl
    rw [Option.map_some, Option.bind_some, Tree.at?, hnone]
    rfl

theorem at?_setAt {path : List String} (hpath : path ≠ []) {e : String × Tree}
    (h : leavesClear path e = true) (base : Tree) :
    (base.setAt (KeyPath.ofName e.1) e.2).at? path = (said? path e).or (base.at? path) := by
  by_cases hroot : path.head? = some (KeyPath.ofName e.1).root
  · have hclear : (Tree.ofNamed? e).any (·.isClear path) = true := by
      simpa [leavesClear, hroot] using h
    obtain ⟨t, ht, hclear⟩ : ∃ t, Tree.ofNamed? e = some t ∧ t.isClear path = true := by
      simpa [Option.any_eq_true] using hclear
    obtain ⟨names, hnames, rfl⟩ := Option.map_eq_some_iff.1 ht
    have hlaid : base.setAt (KeyPath.ofName e.1) e.2 =
        .overlay (.nest ((KeyPath.ofName e.1).root :: names) e.2) base := by
      rw [Tree.setAt, Step.eq_map_of_names? hnames]
      exact Tree.alter_overlay_eq e.2 ((KeyPath.ofName e.1).root :: names) base
    rw [hlaid, Tree.at?_overlay hclear, said?, ht]
    rfl
  · rw [said?_of_head?_ne hpath hroot, Option.none_or]
    obtain ⟨key, path, rfl⟩ := List.exists_cons_of_ne_nil hpath
    have hkey : (KeyPath.ofName e.1).root ≠ key := fun hkey => hroot (congrArg some hkey.symm)
    rw [Tree.at?, Tree.at?, Tree.setAt, Tree.alter]
    show (List.lookup key (Tree.alterEntry _ _ base.entries)).bind _ = _
    rw [Tree.lookup_alterEntry, if_neg hkey]
    rfl

/-- What a source has at a path: the last of its settings that has something there. -/
def Source.value? (path : List String) (source : Source) : Option Tree :=
  (source.filterMap (said? path)).getLast?

/-- Whether no setting of a source is an obstacle on a path. -/
def Source.leavesClear (path : List String) (source : Source) : Bool :=
  source.all (Settings.leavesClear path)

theorem Tree.at?_layer {path : List String} (hpath : path ≠ []) {source : Source}
    (h : source.leavesClear path = true) (base : Tree) :
    (base.layer source).at? path = (source.value? path).or (base.at? path) := by
  induction source generalizing base with
  | nil => rfl
  | cons e source ih =>
    obtain ⟨he, hsource⟩ := Bool.and_eq_true_iff.1 h
    have hvalue : Source.value? path (e :: source) = (Source.value? path source).or (said? path e) :=
      getLast?_filterMap_cons ..
    show ((base.setAt (KeyPath.ofName e.1) e.2).layer source).at? path = _
    rw [ih hsource, at?_setAt hpath he, hvalue, Option.or_assoc]

theorem Tree.at?_foldl_layer {path : List String} (hpath : path ≠ []) {sources : List Source}
    (h : ∀ source ∈ sources, source.leavesClear path = true) (base : Tree) :
    (sources.foldl Tree.layer base).at? path =
      ((sources.filterMap (Source.value? path)).getLast?).or (base.at? path) := by
  induction sources generalizing base with
  | nil => rfl
  | cons source sources ih =>
    rw [List.foldl_cons, ih fun s hs => h s (List.mem_cons_of_mem _ hs),
      Tree.at?_layer hpath (h source List.mem_cons_self), getLast?_filterMap_cons, Option.or_assoc]

/-- At a path that no source obstructs stands what the last source has there. -/
theorem Tree.at?_ofSources {path : List String} (hpath : path ≠ []) {sources : List Source}
    (h : ∀ source ∈ sources, source.leavesClear path = true) :
    (Tree.ofSources sources).at? path = (sources.filterMap (Source.value? path)).getLast? := by
  rw [Tree.ofSources, Tree.at?_foldl_layer hpath h]
  obtain ⟨key, path, rfl⟩ := List.exists_cons_of_ne_nil hpath
  exact Option.or_none

end Settings
end PagedList
