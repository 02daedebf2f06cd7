import FlowCheck.Logging.Settings
import FlowCheck.Proofs.Text.Lines
import Mathlib.Data.Set.List

/-!
# The log file stays in the working directory

Of a path only the components count: joining two paths appends the components of the second
(`FilePath.laterComponents_join`), and the path of a place has the names that lead to the place
(`FilePath.components_absolutePath`).  A walk goes down one level for each name (`Workspace.place_of_walk`), so the
canonical form of a path keeps its components if none of them leads up (`Workspace.components_of_canonical?`).

Hence a relative directory for the log is refused exactly if one of its components leads up, and otherwise the
log file lies in the working directory, whether the directory for it exists or not
(`relative_log_stays_inside`).
-/

namespace FlowCheck

/-! ### Components -/

namespace FilePath

variable {path base s : String} {names : List String}

/-- The components of a path without a slash or a point at its start. -/
def laterComponents (path : String) : List Component :=
  (segments path).filterMap laterComponent?

theorem components_of_isAbsolute (h : isAbsolute path = true) : components path = .root :: laterComponents path := by
  rw [components, if_pos h]
  rfl

theorem components_of_not_isAbsolute (h : isAbsolute path = false) :
    components path = laterComponents path ∨ components path = .current :: laterComponents path := by
  rw [components, h, if_neg Bool.false_ne_true]
  split
  · exact .inr rfl
  · exact .inl rfl

theorem parent_mem_components : .parent ∈ components path ↔ .parent ∈ laterComponents path := by
  cases h : isAbsolute path with
  | true => simp [components_of_isAbsolute h]
  | false => rcases components_of_not_isAbsolute h with heq | heq <;> simp [heq]

theorem laterComponents_append_slash (path rest : String) :
    laterComponents (path ++ "/" ++ rest) = laterComponents path ++ laterComponents rest := by
  have hlist : (path ++ "/" ++ rest).toList = path.toList ++ '/' :: rest.toList := by simp
  rw [laterComponents, segments, hlist, List.splitOn_append_cons_self, List.map_append, List.filterMap_append]
  rfl

/-- Joining a relative path appends its components; a slash at the end of the base does not matter. -/
theorem laterComponents_join (hbase : base ≠ "") (h : isAbsolute path = false) :
    laterComponents (join base path) = laterComponents base ++ laterComponents path := by
  have hempty : base.isEmpty = false := by simpa using hbase
  rw [join, h, hempty, Bool.or_false, if_neg Bool.false_ne_true]
  split
  · rename_i hslash
    obtain ⟨front, hfront⟩ := List.getLast?_eq_some_iff.1 hslash
    have hcut : base = String.ofList front ++ "/" := by
      rw [← String.toList_inj, hfront]
      simp
    have hnone : laterComponents "" = [] := by decide
    have hfront := laterComponents_append_slash (String.ofList front) ""
    rw [String.append_empty, hnone, List.append_nil] at hfront
    rw [hcut, laterComponents_append_slash, hfront]
  · exact laterComponents_append_slash base path

theorem isAbsolute_join (h : isAbsolute base = true) : isAbsolute (join base path) = true := by
  have hhead : ∀ rest, isAbsolute (base ++ rest) = true := by
    intro rest
    have hbase : base.toList.head? = some '/' := of_decide_eq_true h
    simp [isAbsolute, List.head?_append, hbase]
  unfold join
  split
  · rename_i hor
    rcases Bool.or_eq_true_iff.1 hor with hpath | hempty
    · exact hpath
    · rw [String.isEmpty_iff.1 hempty] at h
      cases h
  · split
    · exact hhead path
    · rw [String.append_assoc]
      exact hhead _

/-! ### Names -/

/-- A text that stands between slashes and is neither empty nor points. -/
def IsName (s : String) : Prop :=
  laterComponent? s = some (.name s) ∧ '/' ∉ s.toList

theorem laterComponent?_eq_name {segment : String} (h : laterComponent? segment = some (.name s)) : segment = s := by
  unfold laterComponent? at h
  split at h
  · cases h
  · split at h
    · cases h
    · exact Component.name.inj (Option.some.inj h)

theorem isName_of_mem (h : .name s ∈ laterComponents path) : IsName s := by
  obtain ⟨segment, hsegment, hname⟩ := List.mem_filterMap.1 h
  obtain rfl := laterComponent?_eq_name hname
  obtain ⟨part, hpart, rfl⟩ := List.mem_map.1 hsegment
  refine ⟨hname, ?_⟩
  rw [String.toList_ofList]
  exact Text.notMem_of_mem_splitOn hpart

/-- Components that do not lead up are names. -/
theorem exists_names (h : .parent ∉ laterComponents path) :
    ∃ names : List String, laterComponents path = names.map .name ∧ ∀ s ∈ names, IsName s := by
  have hnamed : ∀ component ∈ laterComponents path, component ∈ Set.range Component.name := by
    intro component hmem
    obtain ⟨segment, -, hcomponent⟩ := List.mem_filterMap.1 hmem
    unfold laterComponent? at hcomponent
    split at hcomponent
    · cases hcomponent
    · split at hcomponent
      · cases hcomponent
        exact absurd hmem h
      · cases hcomponent
        exact ⟨segment, rfl⟩
  have hrange : laterComponents path ∈ Set.range (List.map Component.name) := by
    rw [Set.range_list_map]
    exact hnamed
  obtain ⟨names, hnames⟩ := hrange
  refine ⟨names, hnames.symm, fun s hs => ?_⟩
  have hmem : .name s ∈ laterComponents path := by
    rw [← hnames]
    exact List.mem_map_of_mem hs
  exact isName_of_mem hmem

/-- The path of a place has the names that lead to the place. -/
theorem components_absolutePath (h : ∀ s ∈ names, IsName s) :
    components (Workspace.absolutePath names) = .root :: names.map .name := by
  have habsolute : isAbsolute (Workspace.absolutePath names) = true := by
    simp [isAbsolute, Workspace.absolutePath]
  have hlist : (Workspace.absolutePath names).toList = [] ++ '/' :: ['/'].intercalate (names.map String.toList) := by
    simp [Workspace.absolutePath, String.toList_intercalate]
  rw [components_of_isAbsolute habsolute, laterComponents, segments, hlist, List.splitOn_append_cons_self,
    List.splitOn_nil]
  -- No names join to the empty text, which is cut into one part and not into none.
  cases hcase : names with
  | nil => rfl
  | cons first rest =>
    have hslash : ∀ part ∈ names.map String.toList, '/' ∉ part := by
      rw [List.forall_mem_map]
      exact fun s hs => (h s hs).2
    have hname : ∀ s ∈ names, laterComponent? s = (some ∘ Component.name) s := fun s hs => (h s hs).1
    have hempty : (([[]] : List (List Char)).map String.ofList).filterMap laterComponent? = [] := rfl
    rw [← hcase, List.splitOn_intercalate '/' hslash (by simp [hcase]), List.map_append, Text.map_ofList_map_toList,
      List.filterMap_append, hempty, List.filterMap_congr hname, List.filterMap_eq_map, List.nil_append]

end FilePath

/-! ### Walks -/

/-- Where a component leads from a place. -/
def Component.next (place : List String) : Component → List String
  | root => []
  | current => place
  | parent => place.dropLast
  | name s => place ++ [s]

namespace Workspace

open FilePath

variable {w : Workspace} {mustEnter : Bool} {place found : List String} {entry : FileEntry}
  {rest : List Component} {names : List String}

/-- A walk goes on from where the first component leads. -/
theorem walk_cons_eq_ok {component : Component}
    (h : w.walk mustEnter place (component :: rest) = .ok (found, entry)) :
    w.walk mustEnter (component.next place) rest = .ok (found, entry) := by
  cases component with
  | name s =>
    unfold walk at h
    split at h
    · cases h
    · simp only at h
      split at h
      · cases h
      · exact h
    · cases h
  | _ =>
    unfold walk at h
    split at h
    · cases h
    · exact h
    · cases h

/-- A walk along names goes down one level for each. -/
theorem place_of_walk (h : w.walk mustEnter place (names.map .name) = .ok (found, entry)) : found = place ++ names := by
  induction names generalizing place with
  | nil =>
    rw [List.map_nil, walk] at h
    split at h
    · cases h
    · split at h
      · cases h
      · cases h
        exact (List.append_nil _).symm
  | cons s names ih =>
    rw [ih (walk_cons_eq_ok h), Component.next, List.append_assoc, List.singleton_append]

/-- A walk that starts at a place with names ends at one. -/
theorem isName_of_walk (hrest : ∀ s, .name s ∈ rest → IsName s) (hplace : ∀ s ∈ place, IsName s)
    (h : w.walk mustEnter place rest = .ok (found, entry)) : ∀ s ∈ found, IsName s := by
  induction rest generalizing place with
  | nil =>
    rw [walk] at h
    split at h
    · cases h
    · split at h
      · cases h
      · cases h
        exact hplace
  | cons component rest ih =>
    refine ih (fun s hs => hrest s (List.mem_cons_of_mem _ hs)) ?_ (walk_cons_eq_ok h)
    cases component with
    | root => exact fun s hs => absurd hs List.not_mem_nil
    | current => exact hplace
    | parent => exact fun s hs => hplace s (List.mem_of_mem_dropLast hs)
    | name s => exact List.forall_mem_append.2 ⟨hplace, List.forall_mem_singleton.2 (hrest s List.mem_cons_self)⟩

variable {path canonical : String}

/-- What is canonical is the path of a place that a walk ends at. -/
theorem exists_walk_of_canonical? (h : w.canonical? path = some canonical) :
    ∃ found entry, canonical = absolutePath found ∧
      w.walk (namesDirectory path) w.root (components path) = .ok (found, entry) := by
  obtain ⟨⟨found, entry⟩, hfound, rfl⟩ := Option.map_eq_some_iff.1 h
  refine ⟨found, entry, rfl, ?_⟩
  unfold lookUp at hfound
  split at hfound
  · cases hfound
  split at hfound
  · cases hfound
  split at hfound
  · cases hfound
  · cases hwalk : w.walk (namesDirectory path) w.root (components path) with
    | error fault =>
      rw [hwalk] at hfound
      cases hfound
    | ok result =>
      rw [hwalk] at hfound
      cases hfound
      rfl

theorem isAbsolute_of_canonical? (h : w.canonical? path = some canonical) : isAbsolute canonical = true := by
  obtain ⟨found, entry, rfl, -⟩ := exists_walk_of_canonical? h
  simp [isAbsolute, absolutePath]

/-- The components of a canonical path are names. -/
theorem exists_names_of_canonical? (hpath : isAbsolute path = true) (h : w.canonical? path = some canonical) :
    ∃ names : List String, (∀ s ∈ names, IsName s) ∧ components canonical = .root :: names.map .name := by
  obtain ⟨found, entry, rfl, hwalk⟩ := exists_walk_of_canonical? h
  rw [components_of_isAbsolute hpath] at hwalk
  have hfound : ∀ s ∈ found, IsName s :=
    isName_of_walk (fun s => isName_of_mem) (fun s hs => absurd hs List.not_mem_nil) (walk_cons_eq_ok hwalk)
  exact ⟨found, hfound, components_absolutePath hfound⟩

/-- The canonical form of a path that does not lead up has the same components. -/
theorem components_of_canonical? (hpath : isAbsolute path = true) (hparent : .parent ∉ components path)
    (h : w.canonical? path = some canonical) : components canonical = components path := by
  obtain ⟨found, entry, rfl, hwalk⟩ := exists_walk_of_canonical? h
  obtain ⟨names, hnames, hproper⟩ := exists_names (mt parent_mem_components.2 hparent)
  rw [components_of_isAbsolute hpath, hnames] at hwalk
  have hfound : found = names := place_of_walk (walk_cons_eq_ok hwalk)
  rw [hfound, components_absolutePath hproper, components_of_isAbsolute hpath, hnames]

end Workspace

/-! ### The log file -/

namespace Logging.Settings

open FilePath

variable {w : Workspace} {settings : Settings} {root given : String}

/-- The directory for the log, canonical if it exists. -/
def directoryFor (w : Workspace) (root given : String) : String :=
  (w.canonical? (join root given)).getD (join root given)

/-- A relative directory is refused if it leads up or does not lie in the working directory. -/
theorem logFile_of_relative (hgiven : settings.directory = some given) (hrelative : isAbsolute given = false)
    (hroot : w.canonical? root = some root) :
    settings.logFile w root =
      if .parent ∈ components given ∨ isUnder (directoryFor w root given) root = false then .error (.outside root)
      else .ok (join (directoryFor w root given) "flowdsl.log") := by
  have hdirectory : (w.canonical? (join root given)).getD (join root given) = directoryFor w root given := rfl
  simp only [logFile, hgiven, hroot, hrelative, hdirectory, Option.map_some, Option.getD_some, Bool.not_false,
    Bool.true_and, Bool.or_eq_true, List.contains_iff_mem, Bool.not_eq_true']
  split <;> rfl

/-- Existing or not, the directory has the components of the working directory and then those that are given. -/
theorem components_directoryFor (hrelative : isAbsolute given = false) (hroot : w.canonical? root = some root)
    (hparent : .parent ∉ components given) :
    isAbsolute (directoryFor w root given) = true ∧ .parent ∉ components (directoryFor w root given) ∧
      components (directoryFor w root given) = components root ++ laterComponents given := by
  have habsolute : isAbsolute root = true := w.isAbsolute_of_canonical? hroot
  obtain ⟨names, -, hnames⟩ := w.exists_names_of_canonical? habsolute hroot
  have hne : root ≠ "" := by
    rintro rfl
    cases habsolute
  have hjoined : isAbsolute (join root given) = true := isAbsolute_join habsolute
  have hcomponents : components (join root given) = components root ++ laterComponents given := by
    rw [components_of_isAbsolute hjoined, components_of_isAbsolute habsolute, laterComponents_join hne hrelative]
    rfl
  have hnotParent : .parent ∉ components (join root given) := by
    rw [hcomponents, hnames, List.mem_append, not_or]
    exact ⟨by simp, mt parent_mem_components.2 hparent⟩
  unfold directoryFor
  cases hcanonical : w.canonical? (join root given) with
  | none => exact ⟨hjoined, hnotParent, hcomponents⟩
  | some directory =>
    have hsame := w.components_of_canonical? hjoined hnotParent hcanonical
    rw [Option.getD_some, hsame]
    exact ⟨w.isAbsolute_of_canonical? hcanonical, hnotParent, hcomponents⟩

/-- The file in a directory that has the components of the working directory and does not lead up. -/
theorem components_file {directory : String} {later : List Component} (habsolute : isAbsolute directory = true)
    (hcomponents : components directory = components root ++ later) :
    components (join directory "flowdsl.log") = components root ++ later ++ [.name "flowdsl.log"] := by
  have hne : directory ≠ "" := by
    rintro rfl
    cases habsolute
  have hfile : laterComponents "flowdsl.log" = [.name "flowdsl.log"] := by decide
  rw [components_of_isAbsolute (isAbsolute_join habsolute), laterComponents_join hne (by decide), hfile,
    ← List.cons_append, ← components_of_isAbsolute habsolute, hcomponents]

end Logging.Settings

open FilePath in
/-- For a relative directory there is no log file exactly if the directory leads up somewhere.  Otherwise the log file
lies in the working directory, whether the directory for it exists or not. -/
theorem relative_log_stays_inside (w : Workspace) (settings : Logging.Settings) (root given : String)
    (hgiven : settings.directory = some given) (hrelative : isAbsolute given = false)
    (hroot : w.canonical? root = some root) :
    ((∃ fault, settings.logFile w root = .error fault) ↔ .parent ∈ components given) ∧
      (.parent ∉ components given →
        ∃ path, settings.logFile w root = .ok path ∧ isUnder path root = true ∧ .parent ∉ components path ∧
          (components path).getLast? = some (.name "flowdsl.log")) := by
  have hcases := Logging.Settings.logFile_of_relative hgiven hrelative hroot
  have hinside : .parent ∉ components given →
      ∃ path, settings.logFile w root = .ok path ∧ isUnder path root = true ∧ .parent ∉ components path ∧
        (components path).getLast? = some (.name "flowdsl.log") := by
    intro hparent
    obtain ⟨habsolute, hnotParent, hcomponents⟩ :=
      Logging.Settings.components_directoryFor hrelative hroot hparent
    have hunder : isUnder (Logging.Settings.directoryFor w root given) root = true := by
      rw [isUnder, List.isPrefixOf_iff_prefix, hcomponents]
      exact List.prefix_append _ _
    have hfile := Logging.Settings.components_file habsolute hcomponents
    rw [if_neg (by simp [hparent, hunder])] at hcases
    refine ⟨_, hcases, ?_, ?_, ?_⟩
    · rw [isUnder, List.isPrefixOf_iff_prefix, hfile, List.append_assoc]
      exact List.prefix_append _ _
    · rw [hfile, ← hcomponents, List.mem_append, not_or]
      exact ⟨hnotParent, by decide⟩
    · rw [hfile]
      exact List.getLast?_concat
  refine ⟨⟨?_, ?_⟩, hinside⟩
  · rintro ⟨fault, hfault⟩
    by_contra hparent
    obtain ⟨path, hpath, -⟩ := hinside hparent
    rw [hfault] at hpath
    cases hpath
  · intro hparent
    exact ⟨_, hcases.trans (if_pos (.inl hparent))⟩

open FilePath in
/-- A directory that exists, with a point, a doubled slash and a name that starts with two points. -/
theorem log_in_dotted_directory :
    isAbsolute "./logs//..old/" = false ∧
      Workspace.canonical? ⟨["ws"], [(["ws", "logs", "..old"], .directory)], []⟩ "/ws" = some "/ws" ∧
      .parent ∉ components "./logs//..old/" ∧
      ∃ path, Logging.Settings.logFile { directory := some "./logs//..old/" }
          ⟨["ws"], [(["ws", "logs", "..old"], .directory)], []⟩ "/ws" = .ok path ∧
        isUnder path "/ws" = true ∧ .parent ∉ components path ∧
        (components path).getLast? = some (.name "flowdsl.log") := by
  have hrelative : isAbsolute "./logs//..old/" = false := by decide
  have hroot : Workspace.canonical? ⟨["ws"], [(["ws", "logs", "..old"], .directory)], []⟩ "/ws" = some "/ws" := by
    decide +kernel
  have hparent : .parent ∉ components "./logs//..old/" := by decide +kernel
  exact ⟨hrelative, hroot, hparent,
    (relative_log_stays_inside _ { directory := some "./logs//..old/" } _ _ rfl hrelative hroot).2 hparent⟩

end FlowCheck
