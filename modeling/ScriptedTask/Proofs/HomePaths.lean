import ScriptedTask.Proofs.Paths
import ScriptedTask.Worker.Environment

/-! Paths that start in the home directory. What follows the tilde is joined to the home directory, which an
absolute path replaces: such a path leads away from home. -/

namespace ScriptedTask

namespace Path

instance (part : String) : Decidable (Idle part) := inferInstanceAs (Decidable (_ ∨ _))

/-- The parts of a path that matter to where it leads. -/
def components (path : String) : List String := (parts path).filter fun part => ¬Idle part

/-- The path leads where the base leads, and from there on as the rest does. -/
structure Continues (base rest path : String) : Prop where
  absolute : isAbsolute path = isAbsolute base
  components : components path = Path.components base ++ Path.components rest

/-- The path starts with a tilde as its first part, and the rest is what follows. -/
def StartsAtHome (path rest : String) : Prop := path = "~/" ++ rest ∨ path = "~\\" ++ rest

instance (path rest : String) : Decidable (StartsAtHome path rest) := inferInstanceAs (Decidable (_ ∨ _))

section Joining

variable {base rest : String}

theorem components_slash {front tail : List Char} {path : String} (whole : path.toList = front ++ '/' :: tail) :
    components path = components (String.ofList front) ++ components (String.ofList tail) := by
  have split := pieces_slash front tail
  rw [← whole] at split
  simp only [components, parts, String.toList_ofList, ← List.filter_append]
  exact congrArg _ split

theorem components_join (relative : isAbsolute rest = false) :
    components (join base rest) = components base ++ components rest := by
  rw [join, if_neg (by simp [relative])]
  split
  next bare =>
    rcases (Bool.or_eq_true ..).mp bare with none | last
    · rw [String.isEmpty_iff.mp none, String.empty_append]
      rfl
    · obtain ⟨front, starts⟩ := List.getLast?_eq_some_iff.mp (of_decide_eq_true last)
      have whole : (base ++ rest).toList = front ++ '/' :: rest.toList := by simp [starts]
      rw [components_slash whole, components_slash starts, String.ofList_toList]
      simp [components, parts, Idle]
  · have whole : (base ++ "/" ++ rest).toList = base.toList ++ '/' :: rest.toList := by simp
    rw [components_slash whole, String.ofList_toList, String.ofList_toList]

theorem join_of_isAbsolute (absolute : isAbsolute rest = true) : join base rest = rest := if_pos absolute

theorem isAbsolute_join (filled : base ≠ "") (relative : isAbsolute rest = false) :
    isAbsolute (join base rest) = isAbsolute base := by
  have some : base.toList ≠ [] := fun empty => filled (String.toList_eq_nil_iff.mp empty)
  rw [join, if_neg (by simp [relative])]
  split
  · exact (isAbsolute_append some rfl String.toList_append).symm
  · exact (isAbsolute_append some rfl (by rw [String.append_assoc, String.toList_append])).symm

theorem continues_join (filled : base ≠ "") (relative : isAbsolute rest = false) : Continues base rest (join base rest) :=
  ⟨isAbsolute_join filled relative, components_join relative⟩

theorem ne_empty_of_isAbsolute (absolute : isAbsolute base = true) : base ≠ "" := by
  rintro rfl
  cases absolute

end Joining

end Path

namespace Environment

section Tildes

variable {environment : Environment} {home path rest : String}

theorem afterTilde?_eq_some_iff {text rest : List Char} :
    afterTilde? text = some rest ↔ text = '~' :: '/' :: rest ∨ text = '~' :: '\\' :: rest := by
  fun_cases afterTilde? text with
  | case1 rest => simp
  | case2 rest => simp
  | case3 text slash backslash =>
    refine iff_of_false nofun ?_
    rintro (same | same)
    · exact slash _ same
    · exact backslash _ same

theorem startsAtHome_iff : Path.StartsAtHome path rest ↔ afterTilde? path.toList = some rest.toList := by
  rw [afterTilde?_eq_some_iff, Path.StartsAtHome, ← String.toList_inj, ← String.toList_inj, String.toList_append,
    String.toList_append]
  exact Iff.rfl

section AtHome

variable (homed : environment.homeDirectory? = some home)

include homed

theorem expandHome_tilde (bare : Text.trim path = "~") : environment.expandHome path = home := by
  rw [expandHome, homed, bare]
  rfl

theorem expandHome_rest (starts : Path.StartsAtHome (Text.trim path) rest) :
    environment.expandHome path = Path.join home rest := by
  have more : Text.trim path ≠ "~" := by
    intro bare
    rw [bare] at starts
    cases startsAtHome_iff.mp starts
  simp only [expandHome, homed, if_neg more, startsAtHome_iff.mp starts, String.ofList_toList]
  rfl

end AtHome

theorem expandHome_elsewhere (more : Text.trim path ≠ "~") (elsewhere : ∀ rest, ¬Path.StartsAtHome (Text.trim path) rest) :
    environment.expandHome path = Text.trim path := by
  have none : afterTilde? (Text.trim path).toList = none := by
    rw [Option.eq_none_iff_forall_ne_some]
    intro rest found
    exact elsewhere (String.ofList rest) (startsAtHome_iff.mpr (by rw [found, String.toList_ofList]))
  simp only [expandHome, if_neg more, none]

end Tildes

section Directories

variable {environment : Environment} {home name fileName path : String}

/-- The configuration directory is absolute if the home directory is. -/
theorem exists_configDirectory (homed : environment.homeDirectory? = some home) (absolute : Path.isAbsolute home = true) :
    ∃ directory, environment.configDirectory? = some directory ∧ Path.isAbsolute directory = true := by
  rw [configDirectory?]
  cases named : (environment "XDG_CONFIG_HOME").filter Path.isAbsolute with
  | some directory => exact ⟨directory, rfl, (Option.filter_eq_some_iff.mp named).2⟩
  | none =>
    have relative : Path.isAbsolute ".config" = false := by decide
    refine ⟨Path.join home ".config", by rw [homed]; rfl, ?_⟩
    rw [Path.isAbsolute_join (Path.ne_empty_of_isAbsolute absolute) relative, absolute]

theorem configuredPath_set (held : environment name = some path) (filled : Text.isBlankText path = false) :
    environment.configuredPath name fileName = environment.expandHome path := by
  rw [configuredPath, held, Option.filter_some_pos (by simp [filled])]

theorem configuredPath_unset (blank : ∀ path, environment name = some path → Text.isBlankText path = true) :
    environment.configuredPath name fileName =
      Path.join (Path.join (environment.configDirectory?.getD ".") "taskwrap") fileName := by
  have none : (environment name).filter (!Text.isBlankText ·) = none := by
    rw [Option.filter_eq_none_iff]
    intro path held
    simp [blank path held]
  rw [configuredPath, none]

/-- A file of the configuration directory, in a directory of its own there. -/
theorem continues_configuredPath {directory : String} (absolute : Path.isAbsolute directory = true)
    (relative : Path.isAbsolute fileName = false) :
    Path.Continues directory ("taskwrap/" ++ fileName) (Path.join (Path.join directory "taskwrap") fileName) := by
  have inside : Path.Continues directory "taskwrap" (Path.join directory "taskwrap") :=
    Path.continues_join (Path.ne_empty_of_isAbsolute absolute) (by decide)
  have filled : Path.join directory "taskwrap" ≠ "" :=
    Path.ne_empty_of_isAbsolute (inside.absolute.trans absolute)
  have within := Path.continues_join filled relative
  have split : Path.components ("taskwrap/" ++ fileName) = Path.components "taskwrap" ++ Path.components fileName := by
    have whole : ("taskwrap/" ++ fileName).toList = "taskwrap".toList ++ '/' :: fileName.toList := by simp
    rw [Path.components_slash whole, String.ofList_toList, String.ofList_toList]
  refine ⟨within.absolute.trans inside.absolute, ?_⟩
  rw [within.components, inside.components, split, List.append_assoc]

end Directories

/-- A path that starts with a tilde continues the home directory, unless what follows the tilde is absolute and
so stands for itself; at the root the two come to the same. Every other path is only trimmed. A variable that
is set names a path of this kind, and otherwise the path is a file of the configuration directory. -/
theorem relative_rests_stay_at_home (environment : Environment) (home : String)
    (homed : environment.homeDirectory? = some home) (absolute : Path.isAbsolute home = true) :
    (∀ path, Text.trim path = "~" → environment.expandHome path = home) ∧
    (∀ path rest, Path.StartsAtHome (Text.trim path) rest →
      (Path.Continues home rest (environment.expandHome path) ↔
        Path.isAbsolute rest = false ∨ Path.components home = []) ∧
      (Path.isAbsolute rest = true → environment.expandHome path = rest)) ∧
    (∀ path, Text.trim path ≠ "~" → (∀ rest, ¬Path.StartsAtHome (Text.trim path) rest) →
      environment.expandHome path = Text.trim path) ∧
    ∀ name fileName,
      (∀ path, environment name = some path → Text.isBlankText path = false →
        environment.configuredPath name fileName = environment.expandHome path) ∧
      ((∀ path, environment name = some path → Text.isBlankText path = true) →
        ∃ directory, environment.configDirectory? = some directory ∧ Path.isAbsolute directory = true ∧
          (Path.isAbsolute fileName = false →
            Path.Continues directory ("taskwrap/" ++ fileName) (environment.configuredPath name fileName)) ∧
          (Path.isAbsolute fileName = true → environment.configuredPath name fileName = fileName)) := by
  have filled := Path.ne_empty_of_isAbsolute absolute
  refine ⟨fun path => expandHome_tilde homed, ?_, fun path => expandHome_elsewhere, ?_⟩
  · intro path rest starts
    rw [expandHome_rest homed starts]
    refine ⟨?_, Path.join_of_isAbsolute⟩
    cases leads : Path.isAbsolute rest with
    | false => exact iff_of_true (Path.continues_join filled leads) (.inl rfl)
    | true =>
      rw [Path.join_of_isAbsolute leads]
      constructor
      · intro continues
        exact .inr (List.self_eq_append_left.mp continues.components)
      · rintro (relative | root)
        · cases relative
        · exact ⟨leads.trans absolute.symm, by rw [root, List.nil_append]⟩
  · intro name fileName
    refine ⟨fun path => configuredPath_set, ?_⟩
    intro blank
    obtain ⟨directory, found, leads⟩ := exists_configDirectory homed absolute
    rw [configuredPath_unset blank, found]
    exact ⟨directory, rfl, leads, continues_configuredPath leads, Path.join_of_isAbsolute⟩

/-- A home directory and nothing else. -/
def homely : Environment := fun name => if name = "HOME" then some "/home/user" else none

/-- The rest may go back, and a backslash after the tilde is as good as a slash. -/
theorem tilde_paths_stay_at_home :
    Path.Continues "/home/user" "../notes/~/a.json" (homely.expandHome " ~\\../notes/~/a.json\n") ∧
    homely.configuredPath "TASKWRAP_CONFIG_PATH" "config.json" = "/home/user/.config/taskwrap/config.json" := by
  have stays := (relative_rests_stay_at_home homely "/home/user" (by decide) (by decide)).2.1
    " ~\\../notes/~/a.json\n" "../notes/~/a.json" (by decide)
  exact ⟨stays.1.mpr (.inl (by decide)), by decide⟩

/-- A second slash after the tilde leads away from home. -/
theorem absolute_rest_leaves_home :
    homely.homeDirectory? = some "/home/user" ∧ Path.isAbsolute "/home/user" = true ∧
      Path.StartsAtHome (Text.trim "~//etc/x") "/etc/x" ∧ homely.expandHome "~//etc/x" = "/etc/x" ∧
      ¬Path.components "/home/user" <+: Path.components (homely.expandHome "~//etc/x") := by
  decide

end Environment
end ScriptedTask
