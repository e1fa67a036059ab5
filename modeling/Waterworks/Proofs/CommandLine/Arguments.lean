import Waterworks.CommandLine.Command

namespace Waterworks.CommandLine

open Files

/-!
# Spelling arguments

* `Settings.given` — an option that is given with some values.
* `option` — an option with its value attached, as an argument.
* `readOptions_optional`, `readOptions_repeated` — an option that is given at most once, and one that
  may be given again, read back at the beginning of some arguments.
* `ChildrenOptions.arguments`, `sharedArguments` — arguments for the options of a command, and for
  those in front of it.
* `ofArguments?_children`, `ofArguments?_load` — they are in order, and spell these options.
-/

/-! ### Settings -/

namespace Settings

/-- An option that is given with some values, latest first. -/
def given (name : String) (values : List String) : Settings :=
  values.map (name, ·)

variable (s t : Settings) (l : List String) (name key : String)

/-- Nothing has been given. -/
@[simp] theorem has_nil : has [] key = false := rfl

/-- What has been given in one of two parts has been given. -/
@[simp] theorem has_append : has (s ++ t) key = (s.has key || t.has key) :=
  List.any_append

/-- An option has been given if its name is this one and there is a value. -/
@[simp] theorem has_given : (given name l).has key = (name == key && !l.isEmpty) := by
  induction l with
  | nil => simp [given, has]
  | cons v l ih =>
    show (name == key || (given name l).has key) = _
    rw [ih]
    cases name == key <;> rfl

/-- The later part comes first, and its value counts if it has one. -/
@[simp] theorem value?_append : value? (s ++ t) key = (s.value? key).or (t.value? key) :=
  List.lookup_append

/-- The last of the values that have been given for the name. -/
@[simp] theorem value?_given :
    (given name l).value? key = if name = key then l.head? else none := by
  induction l with
  | nil => simp [given, value?]
  | cons v l ih =>
    have hcons : (given name (v :: l)).value? key
        = if key == name then some v else (given name l).value? key := by
      unfold given value?
      rw [List.map_cons, List.lookup_cons]
      cases key == name <;> rfl
    rw [hcons, ih]
    by_cases h : name = key
    · simp [h]
    · simp [h, Ne.symm h]

/-- The values of all parts, the earlier ones first. -/
@[simp] theorem values_append : Settings.values (s ++ t) key = t.values key ++ s.values key := by
  simp [Settings.values]

/-- The values for the name, in the order in which they stand in the arguments. -/
@[simp] theorem values_given :
    (given name l).values key = if name = key then l.reverse else [] := by
  unfold given Settings.values
  rw [← List.map_reverse, List.filter_map, List.map_map]
  by_cases h : name = key
  · simp [h, Function.comp_def]
  · simp [h, Function.comp_def]

end Settings

/-! ### Reading an option -/

/-- An option with its value attached. -/
def option (name value : String) : String :=
  "--" ++ name ++ "=" ++ value

/-- A name is split from its value at the first equals sign, so that the value may have others in
it. -/
theorem splitAttached_option {name : String} (hname : '=' ∉ name.toList) (value : String) :
    splitAttached (name.toList ++ '=' :: value.toList) = (name, some value) := by
  have hfree : ∀ c ∈ name.toList, (c != '=') = true := by
    intro c hc
    exact bne_iff_ne.mpr fun heq => hname (heq ▸ hc)
  unfold splitAttached
  rw [List.takeWhile_append_of_pos hfree, List.dropWhile_append_of_pos hfree]
  simp

section

variable {rules : List OptionRule} {rule : OptionRule} {name : String} {s : Settings}

/-- An option with a value that it takes is read and added. -/
theorem readOptions_option {accepts : String → Bool} {repeats : Bool} {value : String}
    (hrule : rules.find? (fun rule => rule.name == name) = some rule)
    (hform : rule.form = .value accepts repeats) (hname : '=' ∉ name.toList)
    (haccepts : accepts value = true) (hnew : repeats = true ∨ s.has name = false)
    (rest : List String) :
    readOptions rules (option name value :: rest) s
      = readOptions rules rest (.given name [value] ++ s) := by
  have hlist : (option name value).toList = '-' :: '-' :: (name.toList ++ '=' :: value.toList) := by
    simp [option]
  have hsplit := splitAttached_option hname value
  have hadd : addSetting rule value s = some (.given name [value] ++ s) := by
    have hrulename : rule.name = name := by simpa using List.find?_some hrule
    unfold addSetting
    rw [hform, hrulename]
    obtain hrepeats | hs := hnew
    · simp [haccepts, hrepeats, Settings.given]
    · simp [haccepts, hs, Settings.given]
  rw [readOptions, hlist]
  -- Two hyphens alone would end the options. Here something follows them, if only the equals sign.
  obtain ⟨c, letters, hletters⟩ : ∃ c letters, name.toList ++ '=' :: value.toList = c :: letters := by
    cases name.toList with
    | nil => exact ⟨_, _, rfl⟩
    | cons c letters => exact ⟨_, _, rfl⟩
  rw [hletters] at hsplit ⊢
  simp only [hsplit, hrule, hform, hadd, Option.bind_some]

/-- An option that is given or left out. -/
theorem readOptions_optional {accepts : String → Bool} {repeats : Bool} {value : Option String}
    (hrule : rules.find? (fun rule => rule.name == name) = some rule)
    (hform : rule.form = .value accepts repeats) (hname : '=' ∉ name.toList)
    (haccepts : ∀ v ∈ value, accepts v = true) (hnew : s.has name = false) (rest : List String) :
    readOptions rules (value.toList.map (option name) ++ rest) s
      = readOptions rules rest (.given name value.toList ++ s) := by
  cases value with
  | none => rfl
  | some v => exact readOptions_option hrule hform hname (haccepts v rfl) (.inr hnew) rest

/-- An option that is given any number of times. -/
theorem readOptions_repeated {accepts : String → Bool} {values : List String}
    (hrule : rules.find? (fun rule => rule.name == name) = some rule)
    (hform : rule.form = .value accepts true) (hname : '=' ∉ name.toList)
    (haccepts : ∀ v ∈ values, accepts v = true) (rest : List String) :
    readOptions rules (values.map (option name) ++ rest) s
      = readOptions rules rest (.given name values.reverse ++ s) := by
  induction values generalizing s with
  | nil => rfl
  | cons v values ih =>
    rw [List.map_cons, List.cons_append,
      readOptions_option hrule hform hname (haccepts v List.mem_cons_self) (.inl rfl),
      ih fun w hw => haccepts w (List.mem_cons_of_mem v hw)]
    simp [Settings.given]

end

/-! ### The options of the command for summaries -/

/-- The name by which a format is given. -/
def Format.name : Format → String
  | .text => "text"
  | .json => "json"

/-- A format is read from its name. -/
theorem Format.ofName?_name (f : Format) : ofName? f.name = some f := by
  cases f <;> rfl

namespace ChildrenOptions

/-- The arguments for the options. -/
def arguments (o : ChildrenOptions) : List String :=
  o.office.toList.map (option "office") ++ (o.projectLike.toList.map (option "project-like") ++
    (o.kindPattern.toList.map (option "kinds") ++ (o.kinds.map (option "kind") ++
      [option "format" o.format.name])))

/-- The settings that these arguments make. -/
def settings (o : ChildrenOptions) : Settings :=
  .given "format" [o.format.name] ++ (.given "kind" o.kinds.reverse ++
    (.given "kinds" o.kindPattern.toList ++ (.given "project-like" o.projectLike.toList ++
      .given "office" o.office.toList)))

/-- Kinds are chosen by a pattern or by their names, but not both. -/
def IsExclusive (o : ChildrenOptions) : Prop :=
  o.kindPattern = none ∨ o.kinds = []

/-- The options of the command for summaries are read as the settings that they stand for. -/
theorem readOptions_arguments (o : ChildrenOptions) :
    readOptions (sharedRules ++ childrenRules) o.arguments [] = some (o.settings, .done) := by
  have hfree : ∀ v, acceptsAll v = true := fun _ => rfl
  unfold arguments
  -- The options have different names, so each of them is new where it is read.
  rw [readOptions_optional rfl rfl (by decide) (fun v _ => hfree v) rfl,
    readOptions_optional rfl rfl (by decide) (fun v _ => hfree v) (by simp),
    readOptions_optional rfl rfl (by decide) (fun v _ => hfree v) (by simp),
    readOptions_repeated rfl rfl (by decide) (fun v _ => hfree v),
    readOptions_option rfl rfl (by decide) ?_ (.inr (by simp))]
  · rw [readOptions, List.append_nil]
    rfl
  · rw [acceptsFormat, Format.ofName?_name]
    rfl

/-- The settings stand for the options that they are made of. -/
theorem childrenOptions?_settings {o : ChildrenOptions} (h : o.IsExclusive) :
    childrenOptions? o.settings = some o := by
  have hhas : (o.settings.has "kinds" && o.settings.has "kind") = false := by
    obtain h | h := h
    · simp [settings, h]
    · simp [settings, h]
  unfold childrenOptions?
  rw [hhas]
  simp [settings, Format.ofName?_name]

end ChildrenOptions

/-! ### Whole invocations -/

/-- The options that all commands share, in front of a command. -/
def sharedArguments (root configuration : Option FilePath) (command : List String) : List String :=
  (root.map (·.text)).toList.map (option "root") ++
    ((configuration.map (·.text)).toList.map (option "config") ++ command)

/-- The settings that these arguments make. -/
def sharedSettings (root configuration : Option FilePath) : Settings :=
  .given "config" (configuration.map (·.text)).toList ++
    .given "root" (root.map (·.text)).toList

/-- A path has to be given as a text that is not empty. -/
def IsGiven (path : Option FilePath) : Prop :=
  ∀ p ∈ path, p.text ≠ ""

/-- The option for a path takes each path that is not empty. -/
theorem acceptsPath_of_isGiven {path : Option FilePath} (h : IsGiven path) :
    ∀ v ∈ path.map (·.text), acceptsPath v = true := by
  intro v hv
  obtain ⟨p, hp, rfl⟩ := Option.map_eq_some_iff.mp hv
  exact bne_iff_ne.mpr (h p hp)

variable {root configuration : Option FilePath}

/-- The shared options are read up to the name of the command. -/
theorem readOptions_sharedArguments (hroot : IsGiven root) (hconfiguration : IsGiven configuration)
    {w : String} {c : Char} {letters : List Char} (hw : w.toList = c :: letters) (hc : c ≠ '-')
    (rest : List String) :
    readOptions outerRules (sharedArguments root configuration (w :: rest)) []
      = some (sharedSettings root configuration, .word w rest) := by
  unfold sharedArguments
  rw [readOptions_optional rfl rfl (by decide) (acceptsPath_of_isGiven hroot) rfl,
    readOptions_optional rfl rfl (by decide) (acceptsPath_of_isGiven hconfiguration) (by simp),
    List.append_nil, readOptions, hw]
  split <;> simp_all [sharedSettings]

/-- A path is its text and nothing else. -/
theorem map_mk_text (path : Option FilePath) : (path.map (·.text)).map FilePath.mk = path := by
  cases path <;> rfl

/-- The root counts as it is given in front of the command, unless the command has its own. -/
theorem sharedPath_root {inner : Settings} (hinner : inner.value? "root" = none) :
    sharedPath inner (sharedSettings root configuration) "root" = root := by
  have houter : (sharedSettings root configuration).value? "root" = root.map (·.text) := by
    simp [sharedSettings]
  unfold sharedPath
  rw [hinner, houter]
  exact map_mk_text root

/-- So does the path of the configuration. -/
theorem sharedPath_config {inner : Settings} (hinner : inner.value? "config" = none) :
    sharedPath inner (sharedSettings root configuration) "config" = configuration := by
  have houter : (sharedSettings root configuration).value? "config"
      = configuration.map (·.text) := by
    simp [sharedSettings]
  unfold sharedPath
  rw [hinner, houter]
  exact map_mk_text configuration

/-- A command whose own options are read, and which are no shared ones. -/
theorem ofArguments?_of_readNamed (hroot : IsGiven root) (hconfiguration : IsGiven configuration)
    {w : String} {c : Char} {letters : List Char} (hw : w.toList = c :: letters) (hc : c ≠ '-')
    {arguments : List String} {inner : Settings} {command : Command}
    (hread : readNamed arguments w = some (inner, command))
    (hinnerRoot : inner.value? "root" = none) (hinnerConfig : inner.value? "config" = none) :
    Invocation.ofArguments? (sharedArguments root configuration (w :: arguments))
      = some ⟨root, configuration, command⟩ := by
  unfold Invocation.ofArguments?
  rw [readOptions_sharedArguments hroot hconfiguration hw hc]
  show (readNamed arguments w >>= _) = _
  rw [hread]
  show some (Invocation.mk _ _ _) = _
  rw [sharedPath_root hinnerRoot, sharedPath_config hinnerConfig]

/-- Any options of the command for summaries can be given. -/
theorem ofArguments?_children (hroot : IsGiven root) (hconfiguration : IsGiven configuration)
    {o : ChildrenOptions} (h : o.IsExclusive) :
    Invocation.ofArguments? (sharedArguments root configuration ("children" :: o.arguments))
      = some ⟨root, configuration, .children o⟩ := by
  have hread : readNamed o.arguments "children" = some (o.settings, .children o) := by
    show readCommand childrenRules _ o.arguments = _
    unfold readCommand
    rw [o.readOptions_arguments]
    show ((childrenOptions? o.settings).map _).map _ = _
    rw [ChildrenOptions.childrenOptions?_settings h]
    rfl
  exact ofArguments?_of_readNamed hroot hconfiguration rfl (by decide) hread
    (by simp [ChildrenOptions.settings]) (by simp [ChildrenOptions.settings])

/-- Any file can be given to the command that loads it. -/
theorem ofArguments?_load (hroot : IsGiven root) (hconfiguration : IsGiven configuration)
    {file : FilePath} (hfile : file.text ≠ "") :
    Invocation.ofArguments?
        (sharedArguments root configuration ["load", option "file" file.text])
      = some ⟨root, configuration, .load file⟩ := by
  have hread : readNamed [option "file" file.text] "load"
      = some (.given "file" [file.text], .load file) := by
    show readCommand [pathRule "file"] _ _ = _
    have haccepts : acceptsPath file.text = true := bne_iff_ne.mpr hfile
    unfold readCommand
    rw [readOptions_option rfl rfl (by decide) haccepts (.inr rfl)]
    rfl
  exact ofArguments?_of_readNamed hroot hconfiguration rfl (by decide) hread
    (by simp) (by simp)

end Waterworks.CommandLine
